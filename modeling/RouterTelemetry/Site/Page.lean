import RouterTelemetry.Exporter
import RouterTelemetry.Site.Route

/-!
# Pages

What the site answers: a landing page, the metrics and two probes.  Only the
metrics reach the router, by one cycle for each request.
-/

namespace RouterTelemetry.Site

open Http

/-- A request to the site. -/
structure Visit where
  method : String
  /-- The path with the query. -/
  target : String
deriving Repr, DecidableEq

/-- An answer of the site. -/
structure Page where
  status : Nat
  contentType : Option String := none
  /-- The allowed methods, where the method was not one of them. -/
  allow : Option String := none
  body : String := ""
deriving Repr, DecidableEq

/-- What is found under a path. -/
inductive Content where
  | landing
  | metrics
  | probe
deriving Repr, DecidableEq

/-- Where the landing page and the probes are. -/
def fixedPages : List (String × Content) :=
  [("/", .landing), ("/health", .probe), ("/ready", .probe)]

/-- Paths that cannot be the path of the metrics. -/
def fixedPaths : List String :=
  fixedPages.map Prod.fst

end Site

/-- A site by the path of its metrics. -/
structure Site where
  metricsPath : String
  route : Site.Route
deriving Repr, DecidableEq

namespace Site

open Http

/-- The site with its metrics at a path. -/
def atPath (path : String) : Except RouteFault Site :=
  if path ∈ fixedPaths then
    .error .taken
  else
    (Route.parse path).map fun route => ⟨path, route⟩

/-- The path of a target: the query and what follows it do not count. -/
def pathOf (target : String) : String :=
  String.ofList (target.toList.takeWhile fun c => c ≠ '?' && c ≠ '#')

/-- What is found under a path; the fixed pages come first. -/
def content? (site : Site) (path : String) : Option Content :=
  match fixedPages.lookup path with
  | some content => some content
  | none => if site.route.leadsTo path then some .metrics else none

/-- The landing page. -/
def landingText (site : Site) : String :=
  "<html>\n<head><title>Bbox Exporter</title></head>\n<body>\n" ++
  "<h1>Bbox Prometheus Exporter</h1>\n<p><a href=\"" ++ site.metricsPath ++
  "\">Metrics</a></p>\n<p><a href=\"/health\">Health</a></p>\n</body>\n</html>"

/-- A page of plain text. -/
def plainPage (body : String) : Page :=
  { status := 200, contentType := some "text/plain; charset=utf-8", body }

/-- A page of markup. -/
def markupPage (body : String) : Page :=
  { status := 200, contentType := some "text/html; charset=utf-8", body }

/-- The page without its body. -/
def Page.withoutBody (page : Page) : Page :=
  { page with body := "" }

/-- The answer where nothing is found. -/
def notFound : Page :=
  { status := 404 }

/-- The answer to a method other than the allowed ones. -/
def methodNotAllowed : Page :=
  { status := 405, allow := some "GET,HEAD" }

variable {σ : Type} (router : Router σ) (collector : Collector)

/-- Gives a content; the metrics are scraped anew. -/
def give (site : Site) (content : Content) (exporter : Exporter) (state : σ) : Turn σ Page :=
  match content with
  | .landing => { value := markupPage site.landingText, exporter, router := state }
  | .probe => { value := plainPage "OK", exporter, router := state }
  | .metrics =>
      let turn := exporter.scrape router collector state
      { turn with value := plainPage turn.value }

/-- Answers a visit. -/
def answer (site : Site) (visit : Visit) (exporter : Exporter) (state : σ) : Turn σ Page :=
  match site.content? (pathOf visit.target) with
  | none => { value := notFound, exporter, router := state }
  | some content =>
      if visit.method = "GET" then
        site.give router collector content exporter state
      else if visit.method = "HEAD" then
        let turn := site.give router collector content exporter state
        { turn with value := turn.value.withoutBody }
      else
        { value := methodNotAllowed, exporter, router := state }

end Site

end RouterTelemetry
