import RouterTelemetry.Client
import RouterTelemetry.Proofs.CookieSyntax
import RouterTelemetry.Proofs.Run

/-!
# Single exchanges

A login and a fetch exchange at most one request with the router.  What they end
in, and what they leave behind, is stated here once as a function of the reply;
later proofs do not look into `login` and `get` any more.  Which replies let them
succeed, and how each of the others makes them fail, is said beside these functions
in terms of the reply alone.
-/

namespace RouterTelemetry.Client

open Http

variable {σ α : Type} {endpoint : Endpoint}

/-! ## Login -/

/-- The request of a login. -/
def loginRequest (url : Url) (password : String) : Request :=
  { method := "POST", target := url.target, headers := loginHeaders, body := loginForm password }

/-- The session that a reply to a login grants, or why it grants none. -/
def sessionFrom : Reply → Except Failure Session
  | .error reason => .error (.transport reason)
  | .ok answer => (granted answer).map Session.mk

theorem cookiesOf_ne_nil_iff {answer : Answer} :
    cookiesOf answer ≠ [] ↔ ∃ raw ∈ answer.setCookies, Cookie.WellFormed raw := by
  rw [cookiesOf, ne_eq, List.filterMap_eq_nil_iff]
  simp only [← Cookie.ofHeader?_isSome_iff, Option.isSome_iff_ne_none, ne_eq, not_forall,
    exists_prop]

theorem cookiesOf_eq_nil_iff {answer : Answer} :
    cookiesOf answer = [] ↔ ∀ raw ∈ answer.setCookies, ¬Cookie.WellFormed raw := by
  rw [← not_iff_not, ← ne_eq, cookiesOf_ne_nil_iff]
  simp only [not_forall, not_not, exists_prop]

/-- The reply lets a login succeed: the head of an answer has come, with a status below
300 and a well-formed cookie. -/
def Welcomes (reply : Reply) : Prop :=
  ∃ answer, reply = .ok answer ∧ answer.status < 300 ∧
    ∃ raw ∈ answer.setCookies, Cookie.WellFormed raw

/-- How a reply makes a login fail. -/
inductive LoginFails : Reply → Failure → Prop where
  /-- No answer has come. -/
  | unanswered (reason : String) : LoginFails (.error reason) (.transport reason)
  /-- The body of a refusal could not be read to its end. -/
  | unread {answer : Answer} {reason : String} (high : 300 ≤ answer.status)
      (cut : answer.body = .error reason) : LoginFails (.ok answer) (.transport reason)
  /-- The login is refused by its status. -/
  | refused {answer : Answer} {body : Json.Input} (high : 300 ≤ answer.status)
      (read : answer.body = .ok body) :
      LoginFails (.ok answer) (.login (refusalReason answer.status body))
  /-- There is no cookie. -/
  | bare {answer : Answer} (low : answer.status < 300)
      (malformed : ∀ raw ∈ answer.setCookies, ¬Cookie.WellFormed raw) :
      LoginFails (.ok answer) (.login "no session cookie in login response")

theorem sessionFrom_eq_ok_iff {reply : Reply} {session : Session} :
    sessionFrom reply = .ok session ↔
      ∃ answer, reply = .ok answer ∧ answer.status < 300 ∧ cookiesOf answer ≠ [] ∧
        session = ⟨cookiesOf answer⟩ := by
  cases reply with
  | error reason => simp [sessionFrom]
  | ok answer =>
      simp only [sessionFrom, granted, List.isEmpty_iff, Except.ok.injEq, exists_eq_left']
      by_cases high : 300 ≤ answer.status
      · rw [if_pos high]
        cases answer.body <;> simp [Except.map, Nat.not_lt.mpr high]
      · rw [if_neg high]
        by_cases bare : cookiesOf answer = []
        · simp [Except.map, bare]
        · simp [Except.map, bare, Nat.not_le.mp high, eq_comm]

theorem welcomes_iff {reply : Reply} :
    Welcomes reply ↔ ∃ session, sessionFrom reply = .ok session := by
  constructor
  · rintro ⟨answer, rfl, low, wellFormed⟩
    exact ⟨⟨cookiesOf answer⟩, sessionFrom_eq_ok_iff.mpr
      ⟨answer, rfl, low, cookiesOf_ne_nil_iff.mpr wellFormed, rfl⟩⟩
  · rintro ⟨session, granted⟩
    obtain ⟨answer, rfl, low, cookies, -⟩ := sessionFrom_eq_ok_iff.mp granted
    exact ⟨answer, rfl, low, cookiesOf_ne_nil_iff.mp cookies⟩

/-- A login fails as its reply says. -/
theorem loginFails_of_sessionFrom {reply : Reply} {failure : Failure}
    (error : sessionFrom reply = .error failure) : LoginFails reply failure := by
  cases reply with
  | error reason =>
      cases error
      exact .unanswered reason
  | ok answer =>
      simp only [sessionFrom, granted, List.isEmpty_iff] at error
      by_cases high : 300 ≤ answer.status
      · rw [if_pos high] at error
        cases body : answer.body with
        | error reason =>
            rw [body] at error
            cases error
            exact .unread high body
        | ok text =>
            rw [body] at error
            cases error
            exact .refused high body
      · rw [if_neg high] at error
        by_cases bare : cookiesOf answer = []
        · rw [if_pos bare] at error
          cases error
          exact .bare (Nat.not_le.mp high) (cookiesOf_eq_nil_iff.mp bare)
        · rw [if_neg bare] at error
          cases error

/-- A reply that lets a login succeed does not make it fail. -/
theorem LoginFails.not_welcomes {reply : Reply} {failure : Failure}
    (fails : LoginFails reply failure) : ¬Welcomes reply := by
  rintro ⟨answer, rfl, low, raw, member, wellFormed⟩
  cases fails with
  | unread high => exact absurd low (Nat.not_lt.mpr high)
  | refused high => exact absurd low (Nat.not_lt.mpr high)
  | bare _ malformed => exact malformed raw member wellFormed

/-- The event of a login that sends a request. -/
def loginEvent (endpoint : Endpoint) : Event :=
  ⟨.debug, "Bbox API request: POST " ++ endpoint.addressOf loginPath⟩

/-- The events of a reply to a login. -/
def grantEvents (reply : Reply) : List Event :=
  match sessionFrom reply with
  | .error _ => []
  | .ok session =>
      [⟨.info, "Authenticated against Bbox (" ++ toString session.cookies.length ++ " cookies)"⟩]

/-- A login whose address is no URL sends nothing. -/
theorem login_run_of_parse_error (password : String) (router : Router σ) (session : Session)
    (state : σ) {fault : Url.Fault}
    (noUrl : Url.parse (endpoint.addressOf loginPath) = .error fault) :
    (login endpoint password).run.run router session state =
      { value := .error (.transport unsendable), session, router := state
        events := [loginEvent endpoint] } := by
  simp only [login, requestTo, noUrl, Attempt.run_bind, Attempt.run_report, Attempt.run_ofResult,
    Dialogue.bind_report, Dialogue.bind_done, Dialogue.run_report, Dialogue.run_done, loginEvent]

/-- A login sends one request, and replaces the session exactly if the reply grants one. -/
theorem login_run_of_parse_ok (password : String) (router : Router σ) (session : Session)
    (state : σ) {url : Url} (isUrl : Url.parse (endpoint.addressOf loginPath) = .ok url) :
    (login endpoint password).run.run router session state =
      let request := loginRequest url password
      let reply := (router.reply request state).1
      { value := (sessionFrom reply).map fun _ => ()
        session := (sessionFrom reply).toOption.getD session
        router := (router.reply request state).2
        exchanges := [⟨request, reply⟩]
        events := loginEvent endpoint :: grantEvents reply } := by
  simp only [login, requestTo, isUrl, Attempt.run_bind, Attempt.run_report, Attempt.run_ofResult,
    Attempt.run_ask, Attempt.run_received, Dialogue.bind_report, Dialogue.bind_done,
    Dialogue.bind_ask, Dialogue.run_report, Dialogue.run_ask, loginRequest, loginEvent, grantEvents]
  cases (router.reply _ state).1 with
  | error reason => rfl
  | ok answer =>
      cases grant : granted answer <;>
        simp [sessionFrom, grant, Except.map, Except.mapError, Except.toOption]

/-! ## Fetching -/

/-- The request of a fetch in a session. -/
def fetchRequest (url : Url) (session : Session) : Request :=
  { method := "GET", target := url.target, headers := fetchHeaders session }

/-- The pages that a reply to a fetch holds, or why it holds none. -/
def pagesFrom (resource : Resource α) (reply : Reply) : Except Failure (List α) :=
  match reply.body with
  | .error reason => .error (.transport reason)
  | .ok body => resource.decode body

/-- The reply lets a fetch succeed: its body has come and is a list of pages of the
resource, whatever the status. -/
def Holds (resource : Resource α) (reply : Reply) : Prop :=
  ∃ answer body pages, reply = .ok answer ∧ answer.body = .ok body ∧
    (Json.Format.list resource.page).decode body = .ok pages

/-- How a reply makes a fetch fail. -/
inductive FetchFails (resource : Resource α) : Reply → Failure → Prop where
  /-- No answer has come. -/
  | unanswered (reason : String) : FetchFails resource (.error reason) (.transport reason)
  /-- The body could not be read to its end. -/
  | unread {answer : Answer} {reason : String} (cut : answer.body = .error reason) :
      FetchFails resource (.ok answer) (.transport reason)
  /-- The body is no list of pages of the resource. -/
  | undecoded {answer : Answer} {body : Json.Input} {fault : Json.Fault}
      (read : answer.body = .ok body)
      (unlike : (Json.Format.list resource.page).decode body = .error fault) :
      FetchFails resource (.ok answer) (.decode resource.path fault)

theorem holds_of_pagesFrom {resource : Resource α} {reply : Reply} {pages : List α}
    (ok : pagesFrom resource reply = .ok pages) : Holds resource reply := by
  rcases reply with reason | ⟨status, setCookies, reason | body⟩
  · cases ok
  · cases ok
  · change resource.decode body = .ok pages at ok
    rw [Resource.decode] at ok
    split at ok
    case h_1 decoded => exact ⟨_, body, _, rfl, rfl, decoded⟩
    case h_2 => cases ok

/-- A fetch fails as its reply says. -/
theorem fetchFails_of_pagesFrom {resource : Resource α} {reply : Reply} {failure : Failure}
    (error : pagesFrom resource reply = .error failure) : FetchFails resource reply failure := by
  rcases reply with reason | ⟨status, setCookies, reason | body⟩
  · cases error
    exact .unanswered reason
  · cases error
    exact .unread rfl
  · change resource.decode body = .error failure at error
    rw [Resource.decode] at error
    split at error
    case h_1 => cases error
    case h_2 fault unlike =>
      cases error
      exact .undecoded rfl unlike

/-- A reply that lets a fetch succeed does not make it fail. -/
theorem FetchFails.not_holds {resource : Resource α} {reply : Reply} {failure : Failure}
    (fails : FetchFails resource reply failure) : ¬Holds resource reply := by
  rintro ⟨answer, body, pages, rfl, read, decoded⟩
  cases fails with
  | unread cut =>
      rw [cut] at read
      cases read
  | undecoded readToo unlike =>
      rw [readToo] at read
      cases read
      rw [decoded] at unlike
      cases unlike

/-- The event of a fetch that sends a request. -/
def fetchEvent (endpoint : Endpoint) (path : String) : Event :=
  ⟨.debug, "Bbox API request: GET " ++ endpoint.addressOf path⟩

/-- The events of a reply to a fetch. -/
def receiptEvents (path : String) (reply : Reply) : List Event :=
  match reply with
  | .error _ => []
  | .ok answer =>
      match answer.body with
      | .error _ => []
      | .ok body =>
          [⟨.debug, "Bbox API response: " ++ path ++ " (" ++ toString body.length ++
            " bytes, status " ++ showStatus answer.status ++ ")"⟩]

/-- A fetch whose address is no URL sends nothing. -/
theorem get_run_of_parse_error (resource : Resource α) (router : Router σ) (session : Session)
    (state : σ) {fault : Url.Fault}
    (noUrl : Url.parse (endpoint.addressOf resource.path) = .error fault) :
    (get endpoint resource).run.run router session state =
      { value := .error (.transport unsendable), session, router := state
        events := [fetchEvent endpoint resource.path] } := by
  simp only [get, requestTo, noUrl, Attempt.run_bind, Attempt.run_report, Attempt.run_look,
    Attempt.run_ofResult, Dialogue.bind_report, Dialogue.bind_look, Dialogue.bind_done,
    Dialogue.run_report, Dialogue.run_look, Dialogue.run_done, fetchEvent]

/-- A fetch sends one request and leaves the session as it is. -/
theorem get_run_of_parse_ok (resource : Resource α) (router : Router σ) (session : Session)
    (state : σ) {url : Url} (isUrl : Url.parse (endpoint.addressOf resource.path) = .ok url) :
    (get endpoint resource).run.run router session state =
      let request := fetchRequest url session
      let reply := (router.reply request state).1
      { value := pagesFrom resource reply
        session
        router := (router.reply request state).2
        exchanges := [⟨request, reply⟩]
        events := fetchEvent endpoint resource.path :: receiptEvents resource.path reply } := by
  simp only [get, requestTo, isUrl, Attempt.run_bind, Attempt.run_report, Attempt.run_ofResult,
    Attempt.run_look, Attempt.run_ask, Attempt.run_received, Dialogue.bind_report,
    Dialogue.bind_done, Dialogue.bind_look, Dialogue.bind_ask, Dialogue.run_report,
    Dialogue.run_look, Dialogue.run_ask, fetchRequest, fetchEvent]
  cases (router.reply _ state).1 with
  | error reason => rfl
  | ok answer =>
      rcases answer with ⟨status, setCookies, body⟩
      cases body with
      | error reason => rfl
      | ok body => simp [pagesFrom, receiptEvents, Reply.body, Except.mapError, Except.bind]

end RouterTelemetry.Client
