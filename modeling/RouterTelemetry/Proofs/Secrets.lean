import RouterTelemetry.Proofs.CookieSyntax
import RouterTelemetry.Proofs.PairedRuns

/-!
# Secrets

The password is in the bodies of logins and nowhere else, and the values of cookies are in the
cookie headers of fetches and nowhere else.  Both are shown by pairs of runs: with two passwords
against a router that does not read the body of a login, and against two routers that differ in
nothing but the values of the cookies they set.
-/

namespace RouterTelemetry

open Http Client

variable {σ τ α : Type}

/-! ## Passwords -/

/-- The request is a login at an endpoint. -/
def Http.Request.IsLogin (endpoint : Endpoint) (request : Request) : Prop :=
  request.method = "POST" ∧
    ∃ url, Url.parse (endpoint.addressOf loginPath) = .ok url ∧ request.target = url.target

/-- The requests are the same, or two logins that differ in nothing but their bodies. -/
def SameButLogin (endpoint : Endpoint) (request other : Request) : Prop :=
  request = other ∨ request.IsLogin endpoint ∧ { request with body := other.body } = other

/-- The exchanges are the same but for the body of a login. -/
structure SameButLoginBody (endpoint : Endpoint) (left right : Exchange) : Prop where
  request : SameButLogin endpoint left.request right.request
  reply_eq : left.reply = right.reply

/-- Whatever the bodies of logins, the router replies the same from either state. -/
def IgnoresLogins (endpoint : Endpoint) (router : Router σ) (state other : σ) : Prop :=
  ∀ requests requests', List.Forall₂ (SameButLogin endpoint) requests requests' →
    router.replies requests state = router.replies requests' other

variable {endpoint : Endpoint}

theorem loginRequest_sameButLogin {url : Url}
    (isUrl : Url.parse (endpoint.addressOf loginPath) = .ok url) (password password' : String) :
    SameButLogin endpoint (loginRequest url password) (loginRequest url password') :=
  .inr ⟨⟨rfl, url, isUrl, rfl⟩, rfl⟩

namespace IgnoresLogins

variable {router : Router σ} {state other : σ} {request request' : Request}

theorem reply_eq (ignores : IgnoresLogins endpoint router state other)
    (same : SameButLogin endpoint request request') :
    (router.reply request state).1 = (router.reply request' other).1 :=
  List.head_eq_of_cons_eq (ignores [request] [request'] (.cons same .nil))

theorem next (ignores : IgnoresLogins endpoint router state other)
    (same : SameButLogin endpoint request request') :
    IgnoresLogins endpoint router (router.reply request state).2
      (router.reply request' other).2 :=
  fun _ _ alike => List.tail_eq_of_cons_eq (ignores _ _ (.cons same alike))

end IgnoresLogins

/-- The sessions are the same, and the router does not read the bodies of logins. -/
def PasswordLink (endpoint : Endpoint) (router : Router σ) : Link σ σ :=
  fun session state session' state' =>
    session = session' ∧ IgnoresLogins endpoint router state state'

theorem login_alike_for_passwords (endpoint : Endpoint) (router : Router σ)
    (password password' : String) :
    RunAlike router router (PasswordLink endpoint router) (SameButLoginBody endpoint)
      (login endpoint password).run (login endpoint password').run := by
  rintro session state _ state' ⟨rfl, ignores⟩
  cases parsed : Url.parse (endpoint.addressOf loginPath) with
  | error fault =>
      rw [login_run_of_parse_error password router session state parsed,
        login_run_of_parse_error password' router session state' parsed]
      exact ⟨rfl, rfl, .nil, rfl, ignores⟩
  | ok url =>
      have same := loginRequest_sameButLogin parsed password password'
      have reply_eq := ignores.reply_eq same
      rw [login_run_of_parse_ok password router session state parsed,
        login_run_of_parse_ok password' router session state' parsed]
      dsimp only
      rw [reply_eq]
      exact ⟨rfl, rfl, .cons ⟨same, rfl⟩ .nil, rfl, ignores.next same⟩

theorem get_alike_for_passwords (endpoint : Endpoint) (router : Router σ)
    (resource : Resource α) :
    RunAlike router router (PasswordLink endpoint router) (SameButLoginBody endpoint)
      (get endpoint resource).run (get endpoint resource).run := by
  rintro session state _ state' ⟨rfl, ignores⟩
  cases parsed : Url.parse (endpoint.addressOf resource.path) with
  | error fault =>
      rw [get_run_of_parse_error resource router session state parsed,
        get_run_of_parse_error resource router session state' parsed]
      exact ⟨rfl, rfl, .nil, rfl, ignores⟩
  | ok url =>
      have same : SameButLogin endpoint (fetchRequest url session) (fetchRequest url session) :=
        .inl rfl
      have reply_eq := ignores.reply_eq same
      rw [get_run_of_parse_ok resource router session state parsed,
        get_run_of_parse_ok resource router session state' parsed]
      dsimp only
      rw [reply_eq]
      exact ⟨rfl, rfl, .cons ⟨same, rfl⟩ .nil, rfl, ignores.next same⟩

/-! ## Values of cookies -/

/-- Two raw values are the same, or set cookies of one name. -/
def SameCookieName (raw raw' : String) : Prop :=
  raw = raw' ∨ ∃ name rest rest', raw.toList = name ++ '=' :: rest ∧
    raw'.toList = name ++ '=' :: rest' ∧ '=' ∉ name ∧ ';' ∉ name

/-- The answers differ in nothing but the values of the cookies they set. -/
structure SameButCookies (answer other : Answer) : Prop where
  status_eq : answer.status = other.status
  body_eq : answer.body = other.body
  setCookies : List.Forall₂ SameCookieName answer.setCookies other.setCookies

/-- The replies differ in nothing but the values of cookies: both are lost for one reason, or both
are answers. -/
inductive SameReplyButCookies : Reply → Reply → Prop where
  | lost (reason : String) : SameReplyButCookies (.error reason) (.error reason)
  | answered {answer other : Answer} (same : SameButCookies answer other) :
      SameReplyButCookies (.ok answer) (.ok other)

/-- The sessions have cookies of the same names. -/
def SameNames (session other : Session) : Prop :=
  List.Forall₂ (fun cookie cookie' => cookie.name = cookie'.name) session.cookies other.cookies

/-- The exchanges differ in nothing but values of cookies. -/
structure SameButCookieValues (left right : Exchange) : Prop where
  method_eq : left.request.method = right.request.method
  target_eq : left.request.target = right.request.target
  body_eq : left.request.body = right.request.body
  headers : List.Forall₂ (fun header header' => header.1 = header'.1 ∧
    (header.1 ≠ "cookie" → header.2 = header'.2)) left.request.headers right.request.headers
  reply : SameReplyButCookies left.reply right.reply

/-- What a client can ask for: a login with a password, or a page with the cookies it holds. -/
inductive Question where
  | login (url : Url) (password : String)
  | fetch (url : Url)

/-- The request that asks a question in a session. -/
def Question.request (session : Session) : Question → Request
  | .login url password => loginRequest url password
  | .fetch url => fetchRequest url session

/-- The session after the reply to a question. -/
def Question.session (session : Session) (reply : Reply) : Question → Session
  | .login .. => (sessionFrom reply).toOption.getD session
  | .fetch _ => session

/-- Asked the same questions, each with the cookies it has set itself, the two routers give replies
that differ in nothing but the values of cookies. -/
def Twins (router : Router σ) (other : Router τ) : List Question → Link σ τ
  | [], _, _, _, _ => True
  | question :: questions, session, state, session', state' =>
      let (reply, after) := router.reply (question.request session) state
      let (reply', after') := other.reply (question.request session') state'
      SameReplyButCookies reply reply' ∧
        Twins router other questions (question.session session reply) after
          (question.session session' reply') after'

/-- The sessions have the same names, and the routers are twins whatever they are asked. -/
def CookieLink (router : Router σ) (other : Router τ) : Link σ τ :=
  fun session state session' state' => SameNames session session' ∧
    ∀ questions, Twins router other questions session state session' state'

theorem cookie_forall₂ {raws raws' : List String} (same : List.Forall₂ SameCookieName raws raws') :
    List.Forall₂ (fun cookie cookie' => Cookie.name cookie = Cookie.name cookie')
      (raws.filterMap Cookie.ofHeader?) (raws'.filterMap Cookie.ofHeader?) := by
  induction same with
  | nil => exact .nil
  | @cons raw raw' raws raws' first _ ih =>
      rcases first with rfl | ⟨name, rest, rest', split, split', noSign, noEnd⟩
      · cases given : Cookie.ofHeader? raw with
        | none => simpa [given] using ih
        | some cookie => simpa [given] using ih
      · by_cases blank : Text.trimmed name = []
        · simpa [Cookie.ofHeader?_of_split split noSign noEnd,
            Cookie.ofHeader?_of_split split' noSign noEnd, blank] using ih
        · simpa [Cookie.ofHeader?_of_split split noSign noEnd,
            Cookie.ofHeader?_of_split split' noSign noEnd, blank] using ih

theorem SameNames.isEmpty_eq {session session' : Session} (same : SameNames session session') :
    session.isEmpty = session'.isEmpty := by
  unfold Session.isEmpty
  rw [Bool.eq_iff_iff, List.isEmpty_iff_length_eq_zero, List.isEmpty_iff_length_eq_zero,
    same.length_eq]

/-- Replies that differ in values of cookies are refused for one reason, or both grant a
session. -/
theorem sessionFrom_cases {reply reply' : Reply} (same : SameReplyButCookies reply reply') :
    (∃ failure, sessionFrom reply = .error failure ∧ sessionFrom reply' = .error failure) ∨
      ∃ session session', sessionFrom reply = .ok session ∧ sessionFrom reply' = .ok session' ∧
        SameNames session session' := by
  cases same with
  | lost reason => exact .inl ⟨.transport reason, rfl, rfl⟩
  | @answered answer answer' same =>
      have names := cookie_forall₂ same.setCookies
      have bare : (cookiesOf answer).isEmpty = (cookiesOf answer').isEmpty :=
        @SameNames.isEmpty_eq ⟨_⟩ ⟨_⟩ names
      simp only [sessionFrom, granted, ← same.status_eq, ← same.body_eq, ← bare]
      by_cases high : 300 ≤ answer.status
      · simp only [if_pos high]
        cases answer.body with
        | error reason => exact .inl ⟨_, rfl, rfl⟩
        | ok body => exact .inl ⟨_, rfl, rfl⟩
      · simp only [if_neg high]
        by_cases none : (cookiesOf answer).isEmpty
        · simp only [if_pos none]
          exact .inl ⟨_, rfl, rfl⟩
        · simp only [if_neg none]
          exact .inr ⟨_, _, rfl, rfl, names⟩

section

variable {router : Router σ} {other : Router τ} {session session' : Session} {state : σ}
  {state' : τ}

theorem CookieLink.reply (linked : CookieLink router other session state session' state')
    (question : Question) :
    SameReplyButCookies (router.reply (question.request session) state).1
      (other.reply (question.request session') state').1 :=
  (linked.2 [question]).1

theorem CookieLink.next (linked : CookieLink router other session state session' state')
    (question : Question)
    (names : SameNames
      (question.session session (router.reply (question.request session) state).1)
      (question.session session' (other.reply (question.request session') state').1)) :
    CookieLink router other
      (question.session session (router.reply (question.request session) state).1)
      (router.reply (question.request session) state).2
      (question.session session' (other.reply (question.request session') state').1)
      (other.reply (question.request session') state').2 :=
  ⟨names, fun questions => (linked.2 (question :: questions)).2⟩

end

theorem login_alike_for_cookies (endpoint : Endpoint) (password : String) (router : Router σ)
    (other : Router τ) :
    RunAlike router other (CookieLink router other) SameButCookieValues
      (login endpoint password).run (login endpoint password).run := by
  intro session state session' state' linked
  cases parsed : Url.parse (endpoint.addressOf loginPath) with
  | error fault =>
      rw [login_run_of_parse_error password router session state parsed,
        login_run_of_parse_error password other session' state' parsed]
      exact ⟨rfl, rfl, .nil, linked⟩
  | ok url =>
      have replies := linked.reply (.login url password)
      have next := linked.next (.login url password)
      rw [login_run_of_parse_ok password router session state parsed,
        login_run_of_parse_ok password other session' state' parsed]
      dsimp only [Question.request, Question.session] at replies next ⊢
      have exchanges : SameButCookieValues
          ⟨loginRequest url password, (router.reply (loginRequest url password) state).1⟩
          ⟨loginRequest url password, (other.reply (loginRequest url password) state').1⟩ :=
        ⟨rfl, rfl, rfl, List.forall₂_same.mpr fun _ _ => ⟨rfl, fun _ => rfl⟩, replies⟩
      rcases sessionFrom_cases replies with
        ⟨failure, refused, refused'⟩ | ⟨grant, grant', grants, grants', names⟩
      · rw [refused, refused'] at next
        rw [grantEvents, grantEvents, refused, refused']
        exact ⟨rfl, rfl, .cons exchanges .nil, next linked.1⟩
      · rw [grants, grants'] at next
        rw [grantEvents, grantEvents, grants, grants']
        refine ⟨rfl, ?_, .cons exchanges .nil, next names⟩
        dsimp only
        rw [names.length_eq]

theorem fetchHeaders_same {session session' : Session} (names : SameNames session session') :
    List.Forall₂ (fun header header' : Header => header.1 = header'.1 ∧
        (header.1 ≠ "cookie" → header.2 = header'.2))
      (fetchHeaders session) (fetchHeaders session') := by
  unfold fetchHeaders Session.header?
  rw [← names.isEmpty_eq]
  cases session.isEmpty <;> simp

theorem get_alike_for_cookies (endpoint : Endpoint) (resource : Resource α) (router : Router σ)
    (other : Router τ) :
    RunAlike router other (CookieLink router other) SameButCookieValues
      (get endpoint resource).run (get endpoint resource).run := by
  intro session state session' state' linked
  cases parsed : Url.parse (endpoint.addressOf resource.path) with
  | error fault =>
      rw [get_run_of_parse_error resource router session state parsed,
        get_run_of_parse_error resource other session' state' parsed]
      exact ⟨rfl, rfl, .nil, linked⟩
  | ok url =>
      have replies := linked.reply (.fetch url)
      have next := linked.next (.fetch url) linked.1
      rw [get_run_of_parse_ok resource router session state parsed,
        get_run_of_parse_ok resource other session' state' parsed]
      dsimp only [Question.request, Question.session] at replies next ⊢
      have exchanges : SameButCookieValues
          ⟨fetchRequest url session, (router.reply (fetchRequest url session) state).1⟩
          ⟨fetchRequest url session', (other.reply (fetchRequest url session') state').1⟩ :=
        ⟨rfl, rfl, rfl, fetchHeaders_same linked.1, replies⟩
      refine ⟨?_, ?_, .cons exchanges .nil, next⟩
      · generalize (router.reply (fetchRequest url session) state).1 = reply at replies
        generalize (other.reply (fetchRequest url session') state').1 = reply' at replies
        cases replies with
        | lost reason => rfl
        | answered same =>
            change pagesFrom resource _ = pagesFrom resource _
            rw [pagesFrom, pagesFrom, Reply.body, Reply.body, Except.bind, Except.bind,
              same.body_eq]
      · generalize (router.reply (fetchRequest url session) state).1 = reply at replies
        generalize (other.reply (fetchRequest url session') state').1 = reply' at replies
        cases replies with
        | lost reason => rfl
        | answered same => simp only [receiptEvents, same.body_eq, same.status_eq]

/-! ## Operations of an exporter -/

namespace Exporter

/-- A new exporter goes through any operations.  If its router does not read the bodies of logins,
then another password gives the same results, events and registries, and the same requests but for
those bodies.  If its router is exchanged for one that differs in the values of the cookies it
sets, then again results, events and registries are the same. -/
theorem secrets_leave_no_trace (endpoint : Endpoint) (bands : List Band)
    (password password' : String) (operations : List Operation) (router : Router σ)
    (other : Router τ) (state : σ) (state' : τ) :
    (IgnoresLogins endpoint router state state →
      List.Forall₂ (PairedTurns (SameButLoginBody endpoint))
        (performAll router ⟨endpoint, password, bands⟩ operations {} state)
        (performAll router ⟨endpoint, password', bands⟩ operations {} state)) ∧
    ((∀ questions, Twins router other questions {} state {} state') →
      List.Forall₂ (PairedTurns SameButCookieValues)
        (performAll router ⟨endpoint, password, bands⟩ operations {} state)
        (performAll other ⟨endpoint, password, bands⟩ operations {} state')) := by
  constructor
  · intro ignores
    have link : PasswordLink endpoint router {} state {} state := ⟨rfl, ignores⟩
    refine performAll_paired ⟨link, rfl⟩ ?_ operations
    exact collect_runAlike rfl rfl (login_alike_for_passwords endpoint router password password')
      (get_alike_for_passwords endpoint router)
  · intro twins
    have link : CookieLink router other {} state {} state' := ⟨.nil, twins⟩
    refine performAll_paired ⟨link, rfl⟩ ?_ operations
    exact collect_runAlike rfl rfl (login_alike_for_cookies endpoint password router other)
      fun resource => get_alike_for_cookies endpoint resource router other

/-- A router that wants the cookie of its login back, against any two of its passwords and of its
cookies' values. -/
theorem secrets_leave_no_trace_of_checked_session :
    let endpoint : Endpoint :=
      ⟨{ scheme := "https", host := some (.named "mabbox.bytel.fr"), path := "/" }⟩
    let device (value : String) : Router Nat := ⟨fun request count =>
      (if request.method = "POST" then
        .ok { status := 200, setCookies := ["BBOX_ID=" ++ value] }
      else if request.header? "cookie" = some ("BBOX_ID=" ++ value) then
        .ok { status := 200, body := .ok "[\x7b\x7d]".toUTF8.toList }
      else
        .ok { status := 401 }, count + 1)⟩
    let operations : List Operation := [.collect, .scrape, .runCycle, .render]
    IgnoresLogins endpoint (device "abc") 0 0 ∧
      (∀ questions, Twins (device "abc") (device "xyz") questions {} 0 {} 0) ∧
      List.Forall₂ (PairedTurns (SameButLoginBody endpoint))
        (performAll (device "abc") ⟨endpoint, "admin", Band.all⟩ operations {} 0)
        (performAll (device "abc") ⟨endpoint, "secret", Band.all⟩ operations {} 0) ∧
      List.Forall₂ (PairedTurns SameButCookieValues)
        (performAll (device "abc") ⟨endpoint, "admin", Band.all⟩ operations {} 0)
        (performAll (device "xyz") ⟨endpoint, "admin", Band.all⟩ operations {} 0) := by
  intro endpoint device operations
  have ignores : ∀ count, IgnoresLogins endpoint (device "abc") count count := by
    intro count requests requests' same
    induction same generalizing count with
    | nil => rfl
    | @cons request request' _ _ first _ ih =>
        have reply_eq :
            (device "abc").reply request count = (device "abc").reply request' count := by
          rcases first with rfl | ⟨_, other_eq⟩
          · rfl
          · rw [← other_eq]
            rfl
        rw [Router.replies, Router.replies, reply_eq]
        exact congrArg _ (ih (count + 1))
  have twins : ∀ (questions : List Question) (session session' : Session) (count : Nat),
      (session = {} ∧ session' = {}) ∨
        (session = ⟨[⟨"BBOX_ID", "abc"⟩]⟩ ∧ session' = ⟨[⟨"BBOX_ID", "xyz"⟩]⟩) →
      Twins (device "abc") (device "xyz") questions session count session' count := by
    intro questions
    induction questions with
    | nil => exact fun _ _ _ _ => trivial
    | cons question questions ih =>
        intro session session' count sessions
        cases question with
        | login url password =>
            refine ⟨.answered ⟨rfl, rfl, .cons (.inr ?_) .nil⟩, ih _ _ _ (.inr ⟨rfl, rfl⟩)⟩
            exact ⟨"BBOX_ID".toList, "abc".toList, "xyz".toList, by decide⟩
        | fetch url =>
            rcases sessions with ⟨rfl, rfl⟩ | ⟨rfl, rfl⟩
            · exact ⟨.answered ⟨rfl, rfl, .nil⟩, ih _ _ _ (.inl ⟨rfl, rfl⟩)⟩
            · exact ⟨.answered ⟨rfl, rfl, .nil⟩, ih _ _ _ (.inr ⟨rfl, rfl⟩)⟩
  have both := secrets_leave_no_trace endpoint Band.all "admin" "secret" operations (device "abc")
    (device "xyz") 0 0
  have fresh (questions : List Question) :
      Twins (device "abc") (device "xyz") questions {} 0 {} 0 :=
    twins questions {} {} 0 (.inl ⟨rfl, rfl⟩)
  exact ⟨ignores 0, fresh, both.1 (ignores 0), both.2 fresh⟩

end Exporter

end RouterTelemetry
