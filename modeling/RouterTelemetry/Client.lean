import RouterTelemetry.Dialogue
import RouterTelemetry.Endpoint
import RouterTelemetry.Http.Form
import RouterTelemetry.Http.Status
import RouterTelemetry.Payload.Refusal
import RouterTelemetry.Snapshot

/-!
# The client

Logging in, and fetching resources with the session of the last login.  Every
answer is decoded whatever its status: an error page that has not the shape of
the resource is a decoding failure.
-/

namespace RouterTelemetry.Client

open Http

/-- How the program names itself to the router. -/
def agent : String :=
  "bbox-exporter/0.1.0"

/-- The path of the login. -/
def loginPath : String :=
  "/login"

/-- The reason of the transport for sending nothing to an address that is no URL. -/
def unsendable : String :=
  "builder error"

/-- A request to an address, unless the address is no URL. -/
def requestTo (method address : String) (headers : List Header) (body : String) :
    Except Failure Request :=
  match Url.parse address with
  | .ok url => .ok { method, target := url.target, headers, body }
  | .error _ => .error (.transport unsendable)

/-! ## Login -/

/-- The body of a login. -/
def loginForm (password : String) : String :=
  formField "password" password

/-- Headers of a login. -/
def loginHeaders : List Header :=
  [("content-type", "application/x-www-form-urlencoded"), ("accept", "*/*"),
    ("user-agent", agent)]

/-- Why a login with a status of 300 or above is refused. -/
def refusalReason (status : Nat) (body : Json.Input) : String :=
  match Payload.Refusal.page.decode body with
  | .ok refusal => "status " ++ showStatus status ++ ": " ++ refusal.message
  | .error _ => "status " ++ showStatus status

/-- The cookies that an answer sets. -/
def cookiesOf (answer : Answer) : List Cookie :=
  answer.setCookies.filterMap Cookie.ofHeader?

/-- The cookies that an answer to a login grants, or why it grants none. -/
def granted (answer : Answer) : Except Failure (List Cookie) :=
  if 300 ≤ answer.status then
    match answer.body with
    | .error reason => .error (.transport reason)
    | .ok body => .error (.login (refusalReason answer.status body))
  else if (cookiesOf answer).isEmpty then
    .error (.login "no session cookie in login response")
  else
    .ok (cookiesOf answer)

/-- Sends the password and keeps the returned cookies in place of the session.  The
session stays as it is when the login fails. -/
def login (endpoint : Endpoint) (password : String) : Attempt Unit := do
  let address := endpoint.addressOf loginPath
  Attempt.report .debug ("Bbox API request: POST " ++ address)
  let request ← Attempt.ofResult (requestTo "POST" address loginHeaders (loginForm password))
  let answer ← Attempt.received (← Attempt.ask request)
  let cookies ← Attempt.ofResult (granted answer)
  Attempt.report .info ("Authenticated against Bbox (" ++ toString cookies.length ++ " cookies)")
  Attempt.keep ⟨cookies⟩

/-! ## Resources -/

/-- Headers of a fetch in a session. -/
def fetchHeaders (session : Session) : List Header :=
  [("accept", "application/json"), ("cache-control", "no-cache"), ("pragma", "no-cache")] ++
    (session.header?.map fun cookies => ("cookie", cookies)).toList ++ [("user-agent", agent)]

/-- Fetches a resource. -/
def get {α : Type} (endpoint : Endpoint) (resource : Resource α) : Attempt (List α) := do
  let address := endpoint.addressOf resource.path
  Attempt.report .debug ("Bbox API request: GET " ++ address)
  let session ← Attempt.look
  let request ← Attempt.ofResult (requestTo "GET" address (fetchHeaders session) "")
  let answer ← Attempt.received (← Attempt.ask request)
  let body ← Attempt.received answer.body
  Attempt.report .debug ("Bbox API response: " ++ resource.path ++ " (" ++ toString body.length ++
    " bytes, status " ++ showStatus answer.status ++ ")")
  Attempt.ofResult (resource.decode body)

/-- Fetches a resource; failures name its path. -/
def fetch {α : Type} (endpoint : Endpoint) (resource : Resource α) : Attempt (List α) :=
  (get endpoint resource).placing (.inResource resource.path)

/-! ## Groups -/

/-- The pages of the device group. -/
def fetchDevice (endpoint : Endpoint) : Attempt DevicePages := do
  Attempt.report .info "Retrieve device informations"
  let device ← fetch endpoint .device
  let processor ← fetch endpoint .processor
  let memory ← fetch endpoint .memory
  return { device, processor, memory }

/-- The pages of the services group. -/
def fetchServices (endpoint : Endpoint) : Attempt (List Payload.Services) := do
  Attempt.report .info "Retrieve services informations"
  fetch endpoint .services

/-- The pages of the outside line. -/
def fetchWan (endpoint : Endpoint) : Attempt WanPages := do
  Attempt.report .info "Retrieve WAN informations"
  let wan ← fetch endpoint .wan
  let traffic ← fetch endpoint .wanTraffic
  let fibre ← fetch endpoint .fibre
  let diagnostics ← fetch endpoint .diagnostics
  return { wan, traffic, fibre, diagnostics }

/-- The pages of the local network. -/
def fetchLan (endpoint : Endpoint) : Attempt LanPages := do
  Attempt.report .info "Retrieve LAN informations"
  let lan ← fetch endpoint .lan
  let traffic ← fetch endpoint .lanTraffic
  let hosts ← fetch endpoint .hosts
  return { lan, traffic, hosts }

/-- The pages of one radio band. -/
def fetchBand (endpoint : Endpoint) (band : Band) : Attempt BandPages := do
  Attempt.report .info ("Retrieve wireless " ++ band.label ++ " statistics")
  return { band, pages := ← fetch endpoint (.radio band) }

/-- The pages of the radio bands, in the given order. -/
def fetchWireless (endpoint : Endpoint) : List Band → Attempt (List BandPages)
  | [] => pure []
  | band :: bands => do
      let pages ← fetchBand endpoint band
      return pages :: (← fetchWireless endpoint bands)

/-- The pages of the resolver. -/
def fetchDns (endpoint : Endpoint) : Attempt (List Payload.Resolver) := do
  Attempt.report .info "Retrieve DNS statistics"
  fetch endpoint .resolver

/-- The pages of television. -/
def fetchIptv (endpoint : Endpoint) : Attempt (List Payload.Television) := do
  Attempt.report .info "Retrieve IPTV informations"
  fetch endpoint .television

/-- The pages of one group, which a log shows once they are there; failures name the
group. -/
def groupPages {α : Type} (group : Group) (shown : α → String) (fetching : Attempt α) :
    Attempt α := do
  let pages ← fetching.placing (.inGroup group)
  Attempt.report .debug (group.title ++ " metrics: " ++ shown pages)
  return pages

/-- The pages of every group, in order; the first failure ends it. -/
def fetchGroups (endpoint : Endpoint) (bands : List Band) : Attempt Snapshot := do
  let device ← groupPages .device DevicePages.shown (fetchDevice endpoint)
  let services ← groupPages .services shownServices (fetchServices endpoint)
  let wan ← groupPages .wan WanPages.shown (fetchWan endpoint)
  let lan ← groupPages .lan LanPages.shown (fetchLan endpoint)
  let wireless ← groupPages .wireless shownWireless (fetchWireless endpoint bands)
  let dns ← groupPages .dns shownDns (fetchDns endpoint)
  let iptv ← groupPages .iptv shownIptv (fetchIptv endpoint)
  return { device, services, wan, lan, wireless, dns, iptv }

/-- Logs in and fetches every group; nothing is fetched when the login fails. -/
def takeSnapshot (endpoint : Endpoint) (password : String) (bands : List Band) :
    Attempt Snapshot := do
  Attempt.report .info "Get metrics from Bbox"
  login endpoint password
  fetchGroups endpoint bands

end RouterTelemetry.Client
