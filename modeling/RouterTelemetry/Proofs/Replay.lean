import RouterTelemetry.Cycle
import RouterTelemetry.Proofs.Exchange

/-!
# Runs against routers that reply alike

Two routers that reply alike to every sequence of requests cannot be told apart by a
dialogue that begins in one session.  A login does not look at the session and
replaces it, so from a login on the runs agree from different sessions as well.
-/

namespace RouterTelemetry

open Http

/-- Two routers, each in a state of its own, reply alike to every sequence of requests. -/
def Alike {σ τ : Type} (router : Router σ) (state : σ) (other : Router τ) (otherState : τ) :
    Prop :=
  ∀ requests, router.replies requests state = other.replies requests otherState

section

variable {σ τ α β : Type} {router : Router σ} {state : σ} {other : Router τ} {otherState : τ}

theorem Alike.reply_eq (alike : Alike router state other otherState) (request : Request) :
    (router.reply request state).1 = (other.reply request otherState).1 :=
  List.head_eq_of_cons_eq (alike [request])

theorem Alike.next (alike : Alike router state other otherState) (request : Request) :
    Alike router (router.reply request state).2 other (other.reply request otherState).2 :=
  fun requests => List.tail_eq_of_cons_eq (alike (request :: requests))

/-- Two runs have seen and done the same, and may have left different sessions. -/
structure Agree (router : Router σ) (other : Router τ) (left : Dialogue.Run σ α)
    (right : Dialogue.Run τ α) : Prop where
  value_eq : left.value = right.value
  exchanges_eq : left.exchanges = right.exchanges
  events_eq : left.events = right.events
  alike : Alike router left.router other right.router

theorem Agree.followedBy {left : Dialogue.Run σ α} {right : Dialogue.Run τ α}
    {left' : Dialogue.Run σ β} {right' : Dialogue.Run τ β} (first : Agree router other left right)
    (second : Agree router other left' right') :
    Agree router other (left.followedBy left') (right.followedBy right') where
  value_eq := second.value_eq
  exchanges_eq := by simp [first.exchanges_eq, second.exchanges_eq]
  events_eq := by simp [first.events_eq, second.events_eq]
  alike := second.alike

theorem Agree.reporting {left : Dialogue.Run σ α} {right : Dialogue.Run τ α} (event : Event)
    (agree : Agree router other left right) :
    Agree router other { left with events := event :: left.events }
      { right with events := event :: right.events } :=
  { agree with events_eq := congrArg (event :: ·) agree.events_eq }

theorem Agree.exchanging {left : Dialogue.Run σ α} {right : Dialogue.Run τ α}
    (exchange : Exchange) (agree : Agree router other left right) :
    Agree router other { left with exchanges := exchange :: left.exchanges }
      { right with exchanges := exchange :: right.exchanges } :=
  { agree with exchanges_eq := congrArg (exchange :: ·) agree.exchanges_eq }

/-- From one session on, runs against routers that reply alike agree and leave one
session. -/
theorem Alike.run_agree (alike : Alike router state other otherState) (dialogue : Dialogue α)
    (session : Session) :
    Agree router other (dialogue.run router session state)
        (dialogue.run other session otherState) ∧
      (dialogue.run router session state).session =
        (dialogue.run other session otherState).session := by
  -- Every request moves both routers on, so the induction is for all of their states.
  induction dialogue generalizing session state otherState with
  | done value => exact ⟨⟨rfl, rfl, rfl, alike⟩, rfl⟩
  | report event next ih =>
      obtain ⟨agree, session_eq⟩ := ih alike session
      exact ⟨agree.reporting event, session_eq⟩
  | ask request next ih =>
      have same := alike.reply_eq request
      rw [Dialogue.run_ask, Dialogue.run_ask]
      dsimp only
      rw [same]
      obtain ⟨agree, session_eq⟩ := ih _ (alike.next request) session
      exact ⟨agree.exchanging _, session_eq⟩
  | look next ih => exact ih session alike session
  | keep kept next ih => exact ih alike kept

/-! ## Renewing the session -/

/-- Two runs agree and, unless they fail, have left one session. -/
structure Renewed (router : Router σ) (other : Router τ)
    (left : Dialogue.Run σ (Except Failure α)) (right : Dialogue.Run τ (Except Failure α)) :
    Prop where
  agree : Agree router other left right
  session_eq : ∀ value, left.value = .ok value → left.session = right.session

/-- Whatever the sessions before, runs against routers that reply alike agree and,
unless they fail, leave one session. -/
def Renewing (attempt : Attempt α) : Prop :=
  ∀ (σ τ : Type) (router : Router σ) (other : Router τ) (state : σ) (otherState : τ)
    (session otherSession : Session), Alike router state other otherState →
      Renewed router other (attempt.run.run router session state)
        (attempt.run.run other otherSession otherState)

/-- What follows a success is run in one session. -/
theorem Renewing.bind {attempt : Attempt α} (renewing : Renewing attempt) (next : α → Attempt β) :
    Renewing (attempt >>= next) := by
  intro σ τ router other state otherState session otherSession alike
  have first := renewing σ τ router other state otherState session otherSession alike
  cases outcome : (attempt.run.run router session state).value with
  | error failure =>
      rw [Attempt.run_bind_of_error next outcome,
        Attempt.run_bind_of_error next (first.agree.value_eq.symm.trans outcome)]
      exact ⟨{ first.agree with value_eq := rfl }, nofun⟩
  | ok value =>
      rw [Attempt.run_bind_of_ok next outcome,
        Attempt.run_bind_of_ok next (first.agree.value_eq.symm.trans outcome),
        first.session_eq value outcome]
      obtain ⟨rest, session_eq⟩ := first.agree.alike.run_agree (next value).run
        (attempt.run.run other otherSession otherState).session
      exact ⟨first.agree.followedBy rest, fun _ _ => session_eq⟩

theorem Renewing.reporting {next : Unit → Attempt β} (level : Level) (message : String)
    (renewing : Renewing (next ())) : Renewing (Attempt.report level message >>= next) := by
  intro σ τ router other state otherState session otherSession alike
  have later := renewing σ τ router other state otherState session otherSession alike
  rw [Attempt.run_report_bind, Attempt.run_report_bind]
  exact ⟨later.agree.reporting ⟨level, message⟩, later.session_eq⟩

namespace Client

/-- A login does not look at the session, and replaces it if it succeeds. -/
theorem login_renewing (endpoint : Endpoint) (password : String) :
    Renewing (login endpoint password) := by
  intro σ τ router other state otherState session otherSession alike
  cases parsed : Url.parse (endpoint.addressOf loginPath) with
  | error fault =>
      rw [login_run_of_parse_error password router session state parsed,
        login_run_of_parse_error password other otherSession otherState parsed]
      exact ⟨⟨rfl, rfl, rfl, alike⟩, nofun⟩
  | ok url =>
      have later := alike.next (loginRequest url password)
      rw [login_run_of_parse_ok password router session state parsed,
        login_run_of_parse_ok password other otherSession otherState parsed]
      dsimp only
      rw [alike.reply_eq (loginRequest url password)]
      refine ⟨⟨rfl, rfl, rfl, later⟩, ?_⟩
      generalize (other.reply (loginRequest url password) otherState).1 = reply
      cases sessionFrom reply with
      | error failure => exact nofun
      | ok granted => exact fun _ _ => rfl

theorem takeSnapshot_renewing (endpoint : Endpoint) (password : String) (bands : List Band) :
    Renewing (takeSnapshot endpoint password bands) :=
  .reporting _ _ ((login_renewing endpoint password).bind _)

end Client

theorem Collector.collect_renewing (collector : Collector) : Renewing collector.collect :=
  (Client.takeSnapshot_renewing _ _ _).bind _

/-- The sessions from which two cycles begin make no difference. -/
theorem Collector.cycle_agree (collector : Collector)
    (alike : Alike router state other otherState) (session otherSession : Session) :
    Agree router other (collector.cycle.run router session state)
      (collector.cycle.run other otherSession otherState) := by
  have later := collector.collect_renewing σ τ router other state otherState session otherSession
    alike
  rw [cycle, Dialogue.run_report, Dialogue.run_report]
  exact later.agree.reporting _

end

end RouterTelemetry
