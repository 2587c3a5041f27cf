import RouterTelemetry.Proofs.Exchange
import RouterTelemetry.Proofs.RequestAddresses

/-!
# The order of requests

A snapshot takes the steps of its plan in order and stops at the first that fails.
Every step before has sent its request and was served by the reply to it; the one that
fails does so as the reply to its own request says, or has an address that is no URL
and sends nothing.  So the replies alone decide whether a snapshot succeeds, where it
stops and with which failure.
-/

namespace RouterTelemetry

open Http

/-- The method and the target of a request. -/
def Http.Request.line (request : Request) : String × String :=
  (request.method, request.target)

namespace Client

/-- The line of the request that a step sends, unless its address is no URL. -/
def Step.line? (endpoint : Endpoint) (step : Step) : Option (String × String) :=
  match Url.parse (endpoint.addressOf step.path) with
  | .ok url => some (step.method, url.target)
  | .error _ => none

theorem Step.line?_of_parse_ok {endpoint : Endpoint} (step : Step) {url : Url}
    (isUrl : Url.parse (endpoint.addressOf step.path) = .ok url) :
    step.line? endpoint = some (step.method, url.target) := by
  rw [line?, isUrl]

theorem Step.line?_of_parse_error {endpoint : Endpoint} (step : Step) {fault : Url.Fault}
    (noUrl : Url.parse (endpoint.addressOf step.path) = .error fault) :
    step.line? endpoint = none := by
  rw [line?, noUrl]

/-- An endpoint that was accepted gives every step of a plan a URL. -/
theorem Step.line?_isSome_of_accepted {text : String} {endpoint : Endpoint}
    (accepted : Endpoint.parse text = .ok endpoint) {bands : List Band} {step : Step}
    (planned : step ∈ plan bands) : (step.line? endpoint).isSome := by
  rw [step.line?_of_parse_ok (Endpoint.parse_addressOf accepted planned)]
  rfl

/-! ## What replies decide -/

/-- The reply lets a step succeed. -/
def Step.Allows : Step → Reply → Prop
  | .login, reply => Welcomes reply
  | .fetch _ path, reply => Holds (resourceAt path) reply

/-- How the reply to its request makes a step fail.  The failure of a login is left as it
is, that of a fetch names the group and the path. -/
inductive Step.Fails : Step → Reply → Failure → Prop where
  | login {reply : Reply} {failure : Failure} (fails : LoginFails reply failure) :
      Step.login.Fails reply failure
  | fetch {group : Group} {path : String} {reply : Reply} {cause : Failure}
      (fails : FetchFails (resourceAt path) reply cause) :
      (Step.fetch group path).Fails reply (.inGroup group (.inResource path cause))

/-- A reply does not both let a step succeed and make it fail. -/
theorem Step.Fails.not_allows {step : Step} {reply : Reply} {failure : Failure}
    (fails : step.Fails reply failure) : ¬step.Allows reply := by
  cases fails with
  | login fails => exact fails.not_welcomes
  | fetch fails => exact fails.not_holds

/-- The failure of a step whose address is no URL. -/
def Step.unsent : Step → Failure
  | .login => .transport unsendable
  | .fetch group path => .inGroup group (.inResource path (.transport unsendable))

/-- The login was answered and refused: by its status, with a body that could be read
to its end, or for want of a cookie. -/
def Refuses (answer : Answer) : Prop :=
  (300 ≤ answer.status ∧ ∃ body, answer.body = .ok body) ∨
    (answer.status < 300 ∧ ∀ raw ∈ answer.setCookies, ¬Cookie.WellFormed raw)

theorem LoginFails.isLogin_iff {reply : Reply} {failure : Failure}
    (fails : LoginFails reply failure) :
    failure.isLogin = true ↔ ∃ answer, reply = .ok answer ∧ Refuses answer := by
  cases fails with
  | unanswered reason => simp [Failure.isLogin]
  | unread high cut => simp [Failure.isLogin, Refuses, cut, Nat.not_lt.mpr high]
  | refused high read => exact iff_of_true rfl ⟨_, rfl, .inl ⟨high, _, read⟩⟩
  | bare low malformed => exact iff_of_true rfl ⟨_, rfl, .inr ⟨low, malformed⟩⟩

theorem FetchFails.isLogin_eq_false {α : Type} {resource : Resource α} {reply : Reply}
    {failure : Failure} (fails : FetchFails resource reply failure) :
    failure.isLogin = false := by
  cases fails <;> rfl

theorem Refuses.not_welcomes {answer : Answer} (refuses : Refuses answer) :
    ¬Welcomes (.ok answer) := by
  rintro ⟨_, ⟨⟩, low, raw, member, wellFormed⟩
  rcases refuses with ⟨high, _⟩ | ⟨_, malformed⟩
  · exact absurd low (Nat.not_lt.mpr high)
  · exact malformed raw member wellFormed

/-! ## How far a run has come -/

/-- The step has sent its request, and the reply lets it succeed. -/
structure Served (endpoint : Endpoint) (step : Step) (exchange : Exchange) : Prop where
  sent : step.line? endpoint = some exchange.request.line
  allowed : step.Allows exchange.reply

/-- The step has failed, with what it has exchanged. -/
inductive Stops (endpoint : Endpoint) (step : Step) : List Exchange → Failure → Prop where
  /-- Its request was sent, and the reply makes it fail. -/
  | failed {exchange : Exchange} {failure : Failure}
      (sent : step.line? endpoint = some exchange.request.line)
      (fails : step.Fails exchange.reply failure) : Stops endpoint step [exchange] failure
  /-- Its address is no URL. -/
  | unsent (noUrl : step.line? endpoint = none) : Stops endpoint step [] step.unsent

/-- Steps were taken in order, and one of them has failed after those before it were
served. -/
inductive Stopped (endpoint : Endpoint) : List Step → List Exchange → Failure → Prop where
  | here {step : Step} {rest : List Step} {exchanges : List Exchange} {failure : Failure}
      (stops : Stops endpoint step exchanges failure) :
      Stopped endpoint (step :: rest) exchanges failure
  | later {step : Step} {rest : List Step} {exchange : Exchange} {exchanges : List Exchange}
      {failure : Failure} (served : Served endpoint step exchange)
      (stopped : Stopped endpoint rest exchanges failure) :
      Stopped endpoint (step :: rest) (exchange :: exchanges) failure

section

variable {endpoint : Endpoint} {before after steps : List Step} {earlier exchanges : List Exchange}
  {failure : Failure}

theorem Stopped.after_served (served : List.Forall₂ (Served endpoint) before earlier)
    (stopped : Stopped endpoint after exchanges failure) :
    Stopped endpoint (before ++ after) (earlier ++ exchanges) failure := by
  induction served with
  | nil => exact stopped
  | cons first _ ih => exact .later first ih

theorem Stopped.append (stopped : Stopped endpoint before exchanges failure)
    (after : List Step) : Stopped endpoint (before ++ after) exchanges failure := by
  induction stopped with
  | here stops => exact .here stops
  | later served _ ih => exact .later served ih

/-- The steps before the one that has failed, and what they have exchanged. -/
theorem Stopped.split (stopped : Stopped endpoint steps exchanges failure) :
    ∃ tried last untried earlier final, steps = tried ++ last :: untried ∧
      exchanges = earlier ++ final ∧ List.Forall₂ (Served endpoint) tried earlier ∧
      Stops endpoint last final failure := by
  induction stopped with
  | @here step rest exchanges failure stops =>
      exact ⟨[], step, rest, [], exchanges, rfl, rfl, .nil, stops⟩
  | @later step rest exchange exchanges failure served _ ih =>
      obtain ⟨tried, last, untried, earlier, final, rfl, rfl, all, stops⟩ := ih
      exact ⟨step :: tried, last, untried, exchange :: earlier, final, rfl, rfl,
        .cons served all, stops⟩

/-- Not every step was served if one has failed. -/
theorem Stopped.not_served (stopped : Stopped endpoint steps exchanges failure) :
    ¬List.Forall₂ (Served endpoint) steps exchanges := by
  induction stopped with
  | here stops =>
      rintro (_ | ⟨served, _⟩)
      cases stops with
      | failed _ fails => exact fails.not_allows served.allowed
  | later _ _ ih =>
      rintro (_ | ⟨_, rest⟩)
      exact ih rest

/-- Steps that are no login do not fail as one. -/
theorem Stopped.isLogin_eq_false (stopped : Stopped endpoint steps exchanges failure)
    (fetches : Step.login ∉ steps) : failure.isLogin = false := by
  induction stopped with
  | @here step rest exchanges failure stops =>
      cases step with
      | login => exact absurd List.mem_cons_self fetches
      | fetch group path =>
          cases stops with
          | failed _ fails =>
              cases fails with
              | fetch fails => exact fails.isLogin_eq_false
          | unsent => rfl
  | later _ _ ih => exact ih fun member => fetches (List.mem_cons_of_mem _ member)

/-- The lines of the requests of steps that were served are those of the steps. -/
theorem map_line_of_served (served : List.Forall₂ (Served endpoint) steps exchanges) :
    exchanges.map (some ·.request.line) = steps.map (Step.line? endpoint) := by
  induction served with
  | nil => rfl
  | cons first _ ih => rw [List.map_cons, List.map_cons, ih, first.sent]

/-- Where every address is a URL, the step that has failed has sent its request too. -/
theorem Stopped.map_line (stopped : Stopped endpoint steps exchanges failure)
    (addressed : ∀ step ∈ steps, (step.line? endpoint).isSome) :
    ∃ sent unsent, sent ≠ [] ∧ steps = sent ++ unsent ∧
      exchanges.map (some ·.request.line) = sent.map (Step.line? endpoint) := by
  obtain ⟨tried, last, untried, earlier, final, rfl, rfl, served, stops⟩ := stopped.split
  refine ⟨tried ++ [last], untried, by simp, by simp, ?_⟩
  rw [List.map_append, List.map_append, map_line_of_served served]
  cases stops with
  | failed sent _ => rw [List.map_singleton, List.map_singleton, sent]
  | unsent noUrl =>
      have isUrl := addressed last (by simp)
      rw [noUrl] at isUrl
      cases isUrl

end

/-- What a run that takes steps in order has done by its end.  A failure within the scope
of a group is told as it will be outside of it. -/
structure Follows {σ α : Type} (endpoint : Endpoint) (scope : Option Group) (steps : List Step)
    (run : Dialogue.Run σ (Except Failure α)) : Prop where
  served : ∀ {value}, run.value = .ok value → List.Forall₂ (Served endpoint) steps run.exchanges
  stopped : ∀ {failure}, run.value = .error failure →
    Stopped endpoint steps run.exchanges (scope.elim failure (Failure.inGroup · failure))

section

variable {σ α β : Type} {endpoint : Endpoint} {scope : Option Group} {before after : List Step}

theorem Follows.ofOk {run : Dialogue.Run σ (Except Failure α)} {value : α}
    (ok : run.value = .ok value)
    (served : List.Forall₂ (Served endpoint) before run.exchanges) :
    Follows endpoint scope before run where
  served _ := served
  stopped error := by
    rw [ok] at error
    cases error

theorem Follows.ofError {run : Dialogue.Run σ (Except Failure α)} {failure : Failure}
    (error : run.value = .error failure)
    (stopped : Stopped endpoint before run.exchanges
      (scope.elim failure (Failure.inGroup · failure))) :
    Follows endpoint scope before run where
  served ok := by
    rw [error] at ok
    cases ok
  stopped other := by
    rw [error] at other
    cases other
    exact stopped

/-- A run succeeds exactly if all of its steps were served. -/
theorem Follows.succeeds_iff {run : Dialogue.Run σ (Except Failure α)}
    (follows : Follows endpoint scope before run) :
    (∃ value, run.value = .ok value) ↔ List.Forall₂ (Served endpoint) before run.exchanges := by
  constructor
  · rintro ⟨value, ok⟩
    exact follows.served ok
  · intro served
    cases outcome : run.value with
    | ok value => exact ⟨value, rfl⟩
    | error failure => exact absurd served (follows.stopped outcome).not_served

/-- Where every address is a URL, the requests are those of a beginning of the steps. -/
theorem Follows.map_line {run : Dialogue.Run σ (Except Failure α)}
    (follows : Follows endpoint scope before run) (nonempty : before ≠ [])
    (addressed : ∀ step ∈ before, (step.line? endpoint).isSome) :
    ∃ sent unsent, sent ≠ [] ∧ before = sent ++ unsent ∧
      run.exchanges.map (some ·.request.line) = sent.map (Step.line? endpoint) := by
  cases outcome : run.value with
  | ok value =>
      exact ⟨before, [], nonempty, (List.append_nil before).symm,
        map_line_of_served (follows.served outcome)⟩
  | error failure => exact (follows.stopped outcome).map_line addressed

/-- Reports do not count. -/
theorem Follows.reporting {run : Dialogue.Run σ (Except Failure α)} (event : Event)
    (follows : Follows endpoint scope before run) :
    Follows endpoint scope before { run with events := event :: run.events } :=
  ⟨follows.served, follows.stopped⟩

/-- Outside of a group its failures name it. -/
theorem Follows.inGroup {group : Group} {run : Dialogue.Run σ (Except Failure α)}
    (inner : Follows endpoint (some group) before run) :
    Follows endpoint none before
      { run with value := run.value.mapError (Failure.inGroup group) } := by
  cases outcome : run.value with
  | ok value => exact .ofOk rfl (inner.served outcome)
  | error cause => exact .ofError rfl (inner.stopped outcome)

/-- Two attempts in a row follow their steps in a row. -/
theorem Follows.bind {router : Router σ} {session : Session} {state : σ} {attempt : Attempt α}
    {next : α → Attempt β}
    (first : Follows endpoint scope before (attempt.run.run router session state))
    (rest : ∀ value session state,
      Follows endpoint scope after ((next value).run.run router session state)) :
    Follows endpoint scope (before ++ after) ((attempt >>= next).run.run router session state) := by
  -- The rest is reached only when the first part has taken all of its steps.
  cases outcome : (attempt.run.run router session state).value with
  | error failure =>
      rw [Attempt.run_bind_of_error next outcome]
      exact .ofError rfl ((first.stopped outcome).append after)
  | ok value =>
      rw [Attempt.run_bind_of_ok next outcome]
      have served := first.served outcome
      generalize attempt.run.run router session state = early at served ⊢
      have follows := rest value early.session early.router
      generalize (next value).run.run router early.session early.router = late at follows ⊢
      cases result : late.value with
      | ok final => exact .ofOk result (List.rel_append served (follows.served result))
      | error failure => exact .ofError result ((follows.stopped result).after_served served)

end

/-! ## Single steps -/

variable {σ α : Type} {endpoint : Endpoint}

theorem login_follows (password : String) (router : Router σ) (session : Session) (state : σ) :
    Follows endpoint none [.login] ((login endpoint password).run.run router session state) := by
  cases parsed : Url.parse (endpoint.addressOf loginPath) with
  | error fault =>
      rw [login_run_of_parse_error password router session state parsed]
      exact .ofError rfl (.here (.unsent (Step.line?_of_parse_error .login parsed)))
  | ok url =>
      have sent := Step.line?_of_parse_ok .login parsed
      rw [login_run_of_parse_ok password router session state parsed]
      dsimp only
      generalize (router.reply (loginRequest url password) state).1 = reply
      cases granted : sessionFrom reply with
      | ok session =>
          exact .ofOk rfl (.cons ⟨sent, welcomes_iff.mpr ⟨session, granted⟩⟩ .nil)
      | error failure =>
          have fails : LoginFails reply failure := loginFails_of_sessionFrom granted
          exact .ofError rfl (.here (.failed sent (.login fails)))

/-- A resource with the format of its path is the resource at this path. -/
theorem resourceAt_of_page_eq {resource : Resource α}
    (page_eq : pageAt resource.path = ⟨α, resource.page⟩) (P : {β : Type} → Resource β → Prop)
    (holds : P resource) : P (resourceAt resource.path) := by
  rwa [resourceAt, page_eq]

theorem fetch_follows (group : Group) {resource : Resource α}
    (page_eq : pageAt resource.path = ⟨α, resource.page⟩) (router : Router σ)
    (session : Session) (state : σ) :
    Follows endpoint (some group) [.fetch group resource.path]
      ((fetch endpoint resource).run.run router session state) := by
  rw [fetch, Attempt.run_placing_run]
  cases parsed : Url.parse (endpoint.addressOf resource.path) with
  | error fault =>
      rw [get_run_of_parse_error resource router session state parsed]
      have unsent := Step.line?_of_parse_error (.fetch group resource.path) parsed
      exact .ofError rfl (.here (.unsent unsent))
  | ok url =>
      have sent := Step.line?_of_parse_ok (.fetch group resource.path) parsed
      rw [get_run_of_parse_ok resource router session state parsed]
      dsimp only
      generalize (router.reply (fetchRequest url session) state).1 = reply
      cases decoded : pagesFrom resource reply with
      | ok pages =>
          have holds := resourceAt_of_page_eq page_eq (Holds · reply) (holds_of_pagesFrom decoded)
          exact .ofOk rfl (.cons ⟨sent, holds⟩ .nil)
      | error cause =>
          have fails := resourceAt_of_page_eq page_eq (FetchFails · reply cause)
            (fetchFails_of_pagesFrom decoded)
          exact .ofError rfl (.here (.failed sent (.fetch fails)))

/-- An attempt that only fetches follows its steps. -/
theorem Fetching.follows {scope : Option Group} {steps : List Step} {attempt : Attempt α}
    (fetching : Fetching endpoint scope steps attempt) (router : Router σ) (session : Session)
    (state : σ) : Follows endpoint scope steps (attempt.run.run router session state) := by
  induction fetching generalizing session state with
  | pure value => exact .ofOk rfl .nil
  | report message mild => exact .ofOk rfl .nil
  | fetch group resource page_eq => exact fetch_follows group page_eq router session state
  | inGroup _ ih =>
      rw [Attempt.run_placing_run]
      exact (ih session state).inGroup
  | bind _ _ ihFirst ihRest =>
      exact (ihFirst session state).bind fun value session state => ihRest value session state

/-! ## Snapshots -/

/-- The only exchange was a login that was answered and refused. -/
def LoginRefused (exchanges : List Exchange) : Prop :=
  ∃ request answer, exchanges = [⟨request, .ok answer⟩] ∧ Refuses answer

/-- A failure on the way through a plan is that of a login exactly if the router has
answered the login and refused it. -/
theorem Stopped.isLogin_iff {bands : List Band} {exchanges : List Exchange} {failure : Failure}
    (stopped : Stopped endpoint (plan bands) exchanges failure) :
    failure.isLogin = true ↔ LoginRefused exchanges := by
  cases stopped with
  | here stops =>
      cases stops with
      | @failed exchange failure _ fails =>
          cases fails with
          | login fails =>
              rw [fails.isLogin_iff]
              constructor
              · rintro ⟨answer, reply_eq, refuses⟩
                exact ⟨exchange.request, answer, by rw [← reply_eq], refuses⟩
              · rintro ⟨request, answer, exchange_eq, refuses⟩
                rw [List.singleton_inj.mp exchange_eq]
                exact ⟨answer, rfl, refuses⟩
      | unsent => simp [LoginRefused, Step.unsent, Failure.isLogin]
  | later served stopped =>
      rw [stopped.isLogin_eq_false (login_notMem_fetchPlan bands)]
      refine iff_of_false Bool.false_ne_true ?_
      rintro ⟨request, answer, exchange_eq, refuses⟩
      rw [(List.cons.inj exchange_eq).1] at served
      exact refuses.not_welcomes served.allowed

/-- A snapshot follows its plan. -/
theorem takeSnapshot_follows (endpoint : Endpoint) (password : String) (bands : List Band)
    (router : Router σ) (session : Session) (state : σ) :
    Follows endpoint none (plan bands)
      ((takeSnapshot endpoint password bands).run.run router session state) := by
  have whole : Follows endpoint none ([.login] ++ fetchPlan bands)
      ((login endpoint password >>= fun _ => fetchGroups endpoint bands).run.run router session
        state) :=
    (login_follows password router session state).bind fun _ session state =>
      (fetchGroups_fetching endpoint bands).follows router session state
  rw [takeSnapshot, Attempt.run_report_bind]
  exact whole.reporting _

/-- A snapshot takes the steps of its plan in order.  It succeeds exactly if every step
has sent its request and is served by the reply of the router; the requests then are the
whole plan.  Otherwise it stops at the first step that is not served: this step has sent
the last request, and the failure is the one that the reply to it says, or its address is
no URL and it has sent nothing.  The failure is that of a login exactly if the router has
answered the login and refused it.  The requests are a beginning of the plan, with the
login at least, wherever every address is a URL; so they are for every endpoint that was
accepted. -/
theorem takeSnapshot_follows_plan (endpoint : Endpoint) (password : String) (bands : List Band)
    (router : Router σ) (session : Session) (state : σ) :
    let run := (takeSnapshot endpoint password bands).run.run router session state
    run.exchanges.map (·.reply) = router.replies run.requests state ∧
      ((∃ snapshot, run.value = .ok snapshot) ↔
        List.Forall₂ (Served endpoint) (plan bands) run.exchanges) ∧
      (∀ failure, run.value = .error failure →
        (∃ tried last untried earlier final, plan bands = tried ++ last :: untried ∧
          run.exchanges = earlier ++ final ∧ List.Forall₂ (Served endpoint) tried earlier ∧
          Stops endpoint last final failure) ∧
        (failure.isLogin = true ↔ LoginRefused run.exchanges)) ∧
      ((∀ step ∈ plan bands, (step.line? endpoint).isSome) →
        ∃ sent unsent, sent ≠ [] ∧ plan bands = sent ++ unsent ∧
          run.requests.map (some ·.line) = sent.map (Step.line? endpoint)) ∧
      ((∃ text, Endpoint.parse text = .ok endpoint) →
        ∀ step ∈ plan bands, (step.line? endpoint).isSome) := by
  intro run
  have follows : Follows endpoint none (plan bands) run :=
    takeSnapshot_follows endpoint password bands router session state
  have replies : run.exchanges.map (·.reply) = router.replies run.requests state :=
    Dialogue.replies_run router _ session state
  clear_value run
  refine ⟨replies, follows.succeeds_iff, ?_, ?_, ?_⟩
  · intro failure error
    have stopped : Stopped endpoint (plan bands) run.exchanges failure := follows.stopped error
    exact ⟨stopped.split, stopped.isLogin_iff⟩
  · intro addressed
    rw [Dialogue.Run.requests, List.map_map]
    exact follows.map_line (List.cons_ne_nil _ _) addressed
  · rintro ⟨text, accepted⟩ step planned
    exact Step.line?_isSome_of_accepted accepted planned

/-- A router grants a session and serves pages until one breaks off.  If that is the second page,
the snapshot stops there with the reason of the transport; if no page of the plan breaks off, every
step is served. -/
theorem snapshot_stops_at_broken_page :
    let endpoint : Endpoint := ⟨{ scheme := "https", host := some (.fourBytes 1), path := "/" }⟩
    let reason := "error decoding response body"
    let router (broken : Nat) : Router Nat := ⟨fun _ count =>
      (.ok { status := 200, setCookies := ["BBOX_ID=abc"]
             body := if count = broken then .error reason else .ok "[]".toUTF8.toList },
        count + 1)⟩
    let run (broken : Nat) :=
      (takeSnapshot endpoint "admin" [.ghz5]).run.run (router broken) {} 0
    let failure : Failure := .inGroup .device (.inResource "/device/cpu" (.transport reason))
    (run 2).requests.map Request.line =
        [("POST", "/api/v1/login"), ("GET", "/api/v1/device"), ("GET", "/api/v1/device/cpu")] ∧
      (run 2).value = .error failure ∧ ¬LoginRefused (run 2).exchanges ∧
      ¬List.Forall₂ (Served endpoint) (plan [.ghz5]) (run 2).exchanges ∧
      List.Forall₂ (Served endpoint) (plan [.ghz5]) (run 15).exchanges := by
  intro endpoint reason router run failure
  have lines : (run 2).requests.map Request.line =
      [("POST", "/api/v1/login"), ("GET", "/api/v1/device"), ("GET", "/api/v1/device/cpu")] := by
    decide +kernel
  have told : (match (run 2).value with
      | .error (.inGroup .device (.inResource path (.transport why))) =>
          path == "/device/cpu" && why == reason
      | _ => false) = true := by
    decide +kernel
  have isOk_imp (value : Except Failure Snapshot) (isOk : value.isOk = true) :
      ∃ snapshot, value = .ok snapshot := by
    cases value with
    | ok snapshot => exact ⟨snapshot, rfl⟩
    | error failure => cases isOk
  have whole : ∃ snapshot, (run 15).value = .ok snapshot := by
    apply isOk_imp
    decide +kernel
  obtain ⟨-, succeeds_iff, stops, -⟩ :=
    takeSnapshot_follows_plan endpoint "admin" [.ghz5] (router 2) {} 0
  obtain ⟨-, succeeds_iff', -⟩ :=
    takeSnapshot_follows_plan endpoint "admin" [.ghz5] (router 15) {} 0
  have value_eq : (run 2).value = .error failure := by
    generalize (run 2).value = value at told ⊢
    split at told
    case h_1 path why =>
      obtain ⟨path_eq, why_eq⟩ := Bool.and_eq_true_iff.mp told
      rw [eq_of_beq path_eq, eq_of_beq why_eq]
    case h_2 => cases told
  have notLogin : failure.isLogin ≠ true := Bool.false_ne_true
  refine ⟨lines, value_eq, (stops failure value_eq).2.not.mp notLogin, succeeds_iff.not.mp ?_,
    succeeds_iff'.mp whole⟩
  rintro ⟨snapshot, ok⟩
  cases value_eq.symm.trans ok

example :
    (Step.ofBand .ghz5).line?
        ⟨{ scheme := "https", host := some (.named "mabbox.bytel.fr"), path := "/" }⟩ =
      some ("GET", "/api/v1/wireless/5/stats") := by
  decide +kernel

end Client

end RouterTelemetry
