import RouterTelemetry.Proofs.Composition
import RouterTelemetry.Proofs.Exchange

/-!
# The history of the session

The exchanges of a client tell its session: it is what the last login that was granted
one has brought.  `Tracks` says this of one run, together with the cookies that its
requests carry; it is kept by going on, and so it holds of every sequence of
operations.
-/

namespace RouterTelemetry

open Http

/-- The values of the headers of a request that carry cookies. -/
def Http.Request.cookieHeaders (request : Request) : List String :=
  request.headers.filterMap fun header => if header.1 = "cookie" then some header.2 else none

/-- The request carries what it has to in a session: a login nothing, a fetch the
cookies. -/
def Http.Request.Carries (request : Request) (session : Session) : Prop :=
  (request.method = "POST" ∧ request.cookieHeaders = []) ∨
    (request.method = "GET" ∧ request.cookieHeaders = session.header?.toList)

namespace Client

/-- The session that an exchange grants: that of the cookies in the answer to a login,
below status 300 and with at least one cookie. -/
def grantedBy (exchange : Exchange) : Option Session :=
  match exchange.reply with
  | .error _ => none
  | .ok answer =>
      if exchange.request.method = "POST" ∧ answer.status < 300 ∧ cookiesOf answer ≠ [] then
        some ⟨cookiesOf answer⟩
      else
        none

/-- The session of the last exchange that grants one, or else the one before all. -/
def lastGranted (session : Session) (exchanges : List Exchange) : Session :=
  (exchanges.reverse.findSome? grantedBy).getD session

@[simp]
theorem lastGranted_singleton (session : Session) (exchange : Exchange) :
    lastGranted session [exchange] = (grantedBy exchange).getD session := by
  simp [lastGranted]

theorem lastGranted_append (session : Session) (first second : List Exchange) :
    lastGranted session (first ++ second) = lastGranted (lastGranted session first) second := by
  simp [lastGranted, Option.getD_or]

/-- Every request carries what it has to in the session of its moment. -/
def Carried (session : Session) : List Exchange → Prop
  | [] => True
  | exchange :: rest =>
      exchange.request.Carries session ∧ Carried (lastGranted session [exchange]) rest

theorem Carried.append {session : Session} {first second : List Exchange}
    (carried : Carried session first) (rest : Carried (lastGranted session first) second) :
    Carried session (first ++ second) := by
  induction first generalizing session with
  | nil => exact rest
  | cons exchange later ih =>
      refine ⟨carried.1, ih carried.2 ?_⟩
      rwa [← lastGranted_append]

theorem Carried.at_exchange {session : Session} {before after : List Exchange}
    {exchange : Exchange} (carried : Carried session (before ++ exchange :: after)) :
    exchange.request.Carries (lastGranted session before) := by
  induction before generalizing session with
  | nil => exact carried.1
  | cons earlier before ih =>
      rw [← List.singleton_append, lastGranted_append]
      exact ih carried.2

/-- The run has left the session that its exchanges tell, and its requests have carried
the session of their moment. -/
structure Tracks {σ α : Type} (session : Session) (run : Dialogue.Run σ α) : Prop where
  session_eq : run.session = lastGranted session run.exchanges
  carried : Carried session run.exchanges

theorem Tracks.followedBy {σ α β : Type} {session : Session} {first : Dialogue.Run σ α}
    {second : Dialogue.Run σ β} (tracks : Tracks session first)
    (rest : Tracks first.session second) : Tracks session (first.followedBy second) where
  session_eq := by
    rw [Dialogue.Run.session_followedBy, Dialogue.Run.exchanges_followedBy, lastGranted_append,
      rest.session_eq, tracks.session_eq]
  carried := tracks.carried.append (tracks.session_eq ▸ rest.carried)

/-- Every run of the dialogue tracks the session. -/
def Tracking {α : Type} (dialogue : Dialogue α) : Prop :=
  ∀ (σ : Type) (router : Router σ) (session : Session) (state : σ),
    Tracks session (dialogue.run router session state)

theorem tracking_composable : Composable Tracking where
  done value σ router session state := ⟨rfl, trivial⟩
  report _ next σ router session state := by
    have tracks := next σ router session state
    exact ⟨tracks.session_eq, tracks.carried⟩
  bind first rest σ router session state := by
    rw [Dialogue.run_bind]
    exact (first σ router session state).followedBy (rest _ σ router _ _)

/-! ## Logins and fetches -/

theorem loginRequest_carries (url : Url) (password : String) (session : Session) :
    (loginRequest url password).Carries session :=
  .inl ⟨rfl, by simp [loginRequest, loginHeaders, Request.cookieHeaders]⟩

theorem fetchRequest_carries (url : Url) (session : Session) :
    (fetchRequest url session).Carries session := by
  refine .inr ⟨rfl, ?_⟩
  cases cookies : session.header? <;>
    simp [fetchRequest, fetchHeaders, Request.cookieHeaders, cookies]

/-- What a reply to a login grants is what the exchange grants. -/
theorem grantedBy_loginRequest (url : Url) (password : String) (reply : Reply) :
    grantedBy ⟨loginRequest url password, reply⟩ = (sessionFrom reply).toOption := by
  cases reply with
  | error reason => rfl
  | ok answer =>
      by_cases grants : answer.status < 300 ∧ cookiesOf answer ≠ []
      · have granted : sessionFrom (.ok answer) = .ok ⟨cookiesOf answer⟩ :=
          sessionFrom_eq_ok_iff.mpr ⟨answer, rfl, grants.1, grants.2, rfl⟩
        simp [grantedBy, loginRequest, grants, granted, Except.toOption]
      · -- Whatever else is wrong with the answer, neither side grants a session.
        have refused : (sessionFrom (.ok answer)).toOption = none := by
          cases granted : sessionFrom (.ok answer) with
          | error failure => rfl
          | ok session =>
              obtain ⟨_, ⟨⟩, low, cookies, _⟩ := sessionFrom_eq_ok_iff.mp granted
              exact absurd ⟨low, cookies⟩ grants
        simp only [grantedBy, loginRequest, true_and, if_neg grants, refused]

theorem grantedBy_fetchRequest (url : Url) (session : Session) (reply : Reply) :
    grantedBy ⟨fetchRequest url session, reply⟩ = none := by
  cases reply <;> simp [grantedBy, fetchRequest]

theorem login_tracking (endpoint : Endpoint) (password : String) :
    Tracking (login endpoint password).run := by
  intro σ router session state
  cases parsed : Url.parse (endpoint.addressOf loginPath) with
  | error fault =>
      rw [login_run_of_parse_error password router session state parsed]
      exact ⟨rfl, trivial⟩
  | ok url =>
      rw [login_run_of_parse_ok password router session state parsed]
      refine ⟨?_, loginRequest_carries url password session, trivial⟩
      rw [lastGranted_singleton, grantedBy_loginRequest]

theorem get_tracking (endpoint : Endpoint) {α : Type} (resource : Resource α) :
    Tracking (get endpoint resource).run := by
  intro σ router session state
  cases parsed : Url.parse (endpoint.addressOf resource.path) with
  | error fault =>
      rw [get_run_of_parse_error resource router session state parsed]
      exact ⟨rfl, trivial⟩
  | ok url =>
      rw [get_run_of_parse_ok resource router session state parsed]
      refine ⟨?_, fetchRequest_carries url session, trivial⟩
      rw [lastGranted_singleton, grantedBy_fetchRequest]
      rfl

/-- What a login asks, what it ends in and what it leaves.  Where its address is a URL it
sends its one request.  It succeeds exactly if the reply of the router to this request is
an answer with a status below 300 and a well-formed cookie, whose cookies then are the
session; otherwise the session stays. -/
structure LoginOutcome {σ : Type} (endpoint : Endpoint) (password : String) (router : Router σ)
    (session : Session) (state : σ) (run : Dialogue.Run σ (Except Failure Unit)) : Prop where
  asked : ∀ url, Url.parse (endpoint.addressOf loginPath) = .ok url →
    run.exchanges =
      [⟨loginRequest url password, (router.reply (loginRequest url password) state).1⟩]
  unasked : (∀ url, Url.parse (endpoint.addressOf loginPath) ≠ .ok url) → run.exchanges = []
  success : run.value = .ok () ↔
    ∃ url answer, Url.parse (endpoint.addressOf loginPath) = .ok url ∧
      (router.reply (loginRequest url password) state).1 = .ok answer ∧ answer.status < 300 ∧
        ∃ raw ∈ answer.setCookies, Cookie.WellFormed raw
  renewed : ∀ request answer, run.value = .ok () → run.exchanges = [⟨request, .ok answer⟩] →
    run.session = ⟨cookiesOf answer⟩
  kept : run.value ≠ .ok () → run.session = session

theorem login_outcome (endpoint : Endpoint) (password : String) {σ : Type} (router : Router σ)
    (session : Session) (state : σ) :
    LoginOutcome endpoint password router session state
      ((login endpoint password).run.run router session state) := by
  cases parsed : Url.parse (endpoint.addressOf loginPath) with
  | error fault =>
      rw [login_run_of_parse_error password router session state parsed]
      constructor
      · intro url isUrl
        rw [parsed] at isUrl
        cases isUrl
      · exact fun _ => rfl
      · simp [parsed]
      · exact nofun
      · exact fun _ => rfl
  | ok url =>
      rw [login_run_of_parse_ok password router session state parsed]
      dsimp only
      generalize reply_eq : (router.reply (loginRequest url password) state).1 = reply
      constructor
      · intro other isUrl
        cases parsed.symm.trans isUrl
        rw [reply_eq]
      · exact fun noUrl => absurd parsed (noUrl url)
      · rw [parsed]
        constructor
        · intro ok
          cases granted : sessionFrom reply with
          | error failure => simp [granted, Except.map] at ok
          | ok session =>
              obtain ⟨answer, rfl, low, wellFormed⟩ := welcomes_iff.mpr ⟨session, granted⟩
              exact ⟨url, answer, rfl, reply_eq, low, wellFormed⟩
        · rintro ⟨_, answer, ⟨⟩, answered, low, wellFormed⟩
          cases reply_eq.symm.trans answered
          obtain ⟨session, granted⟩ := welcomes_iff.mp ⟨answer, rfl, low, wellFormed⟩
          rw [granted]
          rfl
      · rintro request answer ok exchanged
        obtain ⟨_, rfl⟩ := Exchange.mk.inj (List.singleton_inj.mp exchanged)
        cases granted : sessionFrom (.ok answer) with
        | error failure => simp [granted, Except.map] at ok
        | ok session =>
            obtain ⟨_, ⟨⟩, _, _, rfl⟩ := sessionFrom_eq_ok_iff.mp granted
            rfl
      · intro failed
        cases granted : sessionFrom reply with
        | error failure => rfl
        | ok session => exact absurd (by rw [granted]; rfl) failed

/-- A fetch sends its one request, wherever its address is a URL, and leaves the session as
it is. -/
structure FetchOutcome {σ α : Type} (endpoint : Endpoint) (resource : Resource α)
    (router : Router σ) (session : Session) (state : σ)
    (run : Dialogue.Run σ (Except Failure (List α))) : Prop where
  asked : ∀ url, Url.parse (endpoint.addressOf resource.path) = .ok url →
    run.exchanges =
      [⟨fetchRequest url session, (router.reply (fetchRequest url session) state).1⟩]
  unasked : (∀ url, Url.parse (endpoint.addressOf resource.path) ≠ .ok url) → run.exchanges = []
  kept : run.session = session

theorem get_outcome (endpoint : Endpoint) {α : Type} (resource : Resource α) {σ : Type}
    (router : Router σ) (session : Session) (state : σ) :
    FetchOutcome endpoint resource router session state
      ((get endpoint resource).run.run router session state) := by
  cases parsed : Url.parse (endpoint.addressOf resource.path) with
  | error fault =>
      rw [get_run_of_parse_error resource router session state parsed]
      constructor
      · intro url isUrl
        rw [parsed] at isUrl
        cases isUrl
      · exact fun _ => rfl
      · rfl
  | ok url =>
      rw [get_run_of_parse_ok resource router session state parsed]
      constructor
      · intro other isUrl
        cases parsed.symm.trans isUrl
        rfl
      · exact fun noUrl => absurd parsed (noUrl url)
      · rfl

/-! ## Sequences of operations -/

/-- An operation of a client. -/
inductive Operation : Type 1 where
  | login (password : String)
  | get {α : Type} (resource : Resource α)
  | fetchDevice
  | fetchServices
  | fetchWan
  | fetchLan
  | fetchWireless (bands : List Band)
  | fetchDns
  | fetchIptv
  | takeSnapshot (password : String) (bands : List Band)

/-- What an operation attempts, with the type of what it gives. -/
def Operation.attempt (endpoint : Endpoint) : Operation → (α : Type) × Attempt α
  | .login password => ⟨_, Client.login endpoint password⟩
  | .get resource => ⟨_, Client.get endpoint resource⟩
  | .fetchDevice => ⟨_, Client.fetchDevice endpoint⟩
  | .fetchServices => ⟨_, Client.fetchServices endpoint⟩
  | .fetchWan => ⟨_, Client.fetchWan endpoint⟩
  | .fetchLan => ⟨_, Client.fetchLan endpoint⟩
  | .fetchWireless bands => ⟨_, Client.fetchWireless endpoint bands⟩
  | .fetchDns => ⟨_, Client.fetchDns endpoint⟩
  | .fetchIptv => ⟨_, Client.fetchIptv endpoint⟩
  | .takeSnapshot password bands => ⟨_, Client.takeSnapshot endpoint password bands⟩

/-- Operations in order, whatever each of them ends in. -/
def performAll (endpoint : Endpoint) : List Operation → Dialogue Unit
  | [] => .done ()
  | operation :: rest => (operation.attempt endpoint).2.run.bind fun _ => performAll endpoint rest

theorem Operation.tracking (endpoint : Endpoint) (operation : Operation) :
    Tracking (operation.attempt endpoint).2.run := by
  have fetching {α : Type} {scope : Option Group} {steps : List Step} {attempt : Attempt α}
      (fetching : Fetching endpoint scope steps attempt) : Tracking attempt.run :=
    tracking_composable.fetching (get_tracking endpoint) fetching
  cases operation with
  | login password => exact login_tracking endpoint password
  | get resource => exact get_tracking endpoint resource
  | fetchDevice => exact fetching (fetchDevice_fetching endpoint)
  | fetchServices => exact fetching (fetchServices_fetching endpoint)
  | fetchWan => exact fetching (fetchWan_fetching endpoint)
  | fetchLan => exact fetching (fetchLan_fetching endpoint)
  | fetchWireless bands => exact fetching (fetchWireless_fetching endpoint bands)
  | fetchDns => exact fetching (fetchDns_fetching endpoint)
  | fetchIptv => exact fetching (fetchIptv_fetching endpoint)
  | takeSnapshot password bands =>
      exact tracking_composable.takeSnapshot (get_tracking endpoint)
        (login_tracking endpoint password) bands

theorem performAll_tracking (endpoint : Endpoint) (operations : List Operation) :
    Tracking (performAll endpoint operations) := by
  induction operations with
  | nil => exact tracking_composable.done ()
  | cons operation rest ih =>
      exact tracking_composable.bind (operation.tracking endpoint) fun _ => ih

/-- After any operations the session is what the last login that was granted one has
brought, and none before the first; the replies on the way were those of the router, and
the requests have carried the session of their moment.  From there a login succeeds
exactly if the router replies to its request with a status below 300 and a well-formed
cookie; if it fails, and after any fetch, the session is as before. -/
theorem session_after_operations (endpoint : Endpoint) (operations : List Operation)
    {σ : Type} (router : Router σ) (state : σ) :
    let run := (performAll endpoint operations).run router {} state
    run.session = lastGranted {} run.exchanges ∧
      run.exchanges.map (·.reply) = router.replies run.requests state ∧
      (∀ before exchange after, run.exchanges = before ++ exchange :: after →
        exchange.request.Carries (lastGranted {} before)) ∧
      (∀ password, LoginOutcome endpoint password router run.session run.router
        ((login endpoint password).run.run router run.session run.router)) ∧
      ∀ {α : Type} (resource : Resource α),
        FetchOutcome endpoint resource router run.session run.router
          ((get endpoint resource).run.run router run.session run.router) := by
  intro run
  have tracks : Tracks {} run := performAll_tracking endpoint operations σ router {} state
  refine ⟨tracks.session_eq, Dialogue.replies_run router _ {} state, ?_, ?_, ?_⟩
  · intro before exchange after split
    exact (split ▸ tracks.carried).at_exchange
  · exact fun password => login_outcome endpoint password router run.session run.router
  · exact fun resource => get_outcome endpoint resource router run.session run.router

end Client

end RouterTelemetry
