import RouterTelemetry.Band
import RouterTelemetry.Endpoint
import RouterTelemetry.Site.Page

/-!
# Settings

What the program is told about the router and about its own site, and what has
to hold of it before the program starts.
-/

namespace RouterTelemetry

/-- How the router is reached, and what is asked of it. -/
structure RouterSettings where
  endpoint : String := "https://mabbox.bytel.fr"
  password : String := ""
  /-- The certificate of the router has to be valid. -/
  verifyCertificate : Bool := true
  bands : List Band := [.ghz24, .ghz5]
deriving Repr, DecidableEq

/-- Where the site is found. -/
structure SiteSettings where
  address : String := "0.0.0.0"
  port : UInt16 := 9311
  metricsPath : String := "/metrics"
deriving Repr, DecidableEq

/-- All settings. -/
structure Settings where
  router : RouterSettings := {}
  site : SiteSettings := {}
deriving Repr, DecidableEq

namespace Settings

/-- Why settings are refused, apart from the endpoint. -/
inductive Objection where
  | noPassword
  | noBands
  | relativePath (path : String)
  | takenPath (path : String)
deriving Repr, DecidableEq

/-- The wording of an objection. -/
def Objection.message : Objection → String
  | .noPassword => "bbox.password must not be empty"
  | .noBands => "bbox.wireless_bands must list at least one band"
  | .relativePath path => "server.metrics_path " ++ Text.quoted path ++ " must start with '/'"
  | .takenPath path =>
      "server.metrics_path " ++ Text.quoted path ++ " collides with a built-in route"

/-- The first objection to settings whose endpoint is fine. -/
def objection? (settings : Settings) : Option Objection :=
  let path := settings.site.metricsPath
  if settings.router.password.isEmpty then some .noPassword
  else if settings.router.bands.isEmpty then some .noBands
  else if path.toList.head? ≠ some '/' then some (.relativePath path)
  else if path ∈ Site.fixedPaths then some (.takenPath path)
  else none

/-- Checks the settings; the endpoint is read on the way. -/
def check (settings : Settings) : Except Failure Endpoint := do
  let endpoint ← Endpoint.parse settings.router.endpoint
  match settings.objection? with
  | some objection => throw (.configuration objection.message)
  | none => return endpoint

/-- What a cycle needs to know of the settings. -/
def collector (settings : Settings) (endpoint : Endpoint) : Collector :=
  ⟨endpoint, settings.router.password, settings.router.bands⟩

/-- What is reported when the program is set up to ask a router. -/
def setUpEvent (endpoint : Endpoint) : Event :=
  ⟨.info, "Setup Bbox exporter using URL: " ++ endpoint.url.href⟩

end Settings

end RouterTelemetry
