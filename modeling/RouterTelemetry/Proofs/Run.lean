import RouterTelemetry.Dialogue

/-!
# Runs of dialogues

A run of two dialogues in a row is a run of the first followed by a run of the
second: exchanges and events are appended, and the second begins with the session
and the router that the first has left.  For attempts the second run is left out
when the first one fails.
-/

namespace RouterTelemetry

open Http

/-- The replies of a router to requests, one after the other. -/
def Http.Router.replies {σ : Type} (router : Router σ) : List Request → σ → List Reply
  | [], _ => []
  | request :: rest, state =>
      (router.reply request state).1 :: router.replies rest (router.reply request state).2

namespace Dialogue

variable {σ α β : Type}

/-- Two runs in a row. -/
def Run.followedBy (first : Run σ α) (second : Run σ β) : Run σ β :=
  { second with
    exchanges := first.exchanges ++ second.exchanges
    events := first.events ++ second.events }

@[simp]
theorem Run.value_followedBy (first : Run σ α) (second : Run σ β) :
    (first.followedBy second).value = second.value :=
  rfl

@[simp]
theorem Run.session_followedBy (first : Run σ α) (second : Run σ β) :
    (first.followedBy second).session = second.session :=
  rfl

@[simp]
theorem Run.router_followedBy (first : Run σ α) (second : Run σ β) :
    (first.followedBy second).router = second.router :=
  rfl

@[simp]
theorem Run.exchanges_followedBy (first : Run σ α) (second : Run σ β) :
    (first.followedBy second).exchanges = first.exchanges ++ second.exchanges :=
  rfl

@[simp]
theorem Run.events_followedBy (first : Run σ α) (second : Run σ β) :
    (first.followedBy second).events = first.events ++ second.events :=
  rfl

@[simp]
theorem Run.requests_followedBy (first : Run σ α) (second : Run σ β) :
    (first.followedBy second).requests = first.requests ++ second.requests :=
  List.map_append

theorem run_bind (router : Router σ) (dialogue : Dialogue α) (f : α → Dialogue β)
    (session : Session) (state : σ) :
    (dialogue.bind f).run router session state =
      (dialogue.run router session state).followedBy
        ((f (dialogue.run router session state).value).run router
          (dialogue.run router session state).session
          (dialogue.run router session state).router) := by
  induction dialogue generalizing session state with
  | done value => rfl
  | report event next ih => simp [ih, Run.followedBy]
  | ask request next ih => simp [ih, Run.followedBy]
  | look next ih => simp [ih]
  | keep kept next ih => simp [ih]

/-- The replies that a dialogue has had are those of the router to its requests. -/
theorem replies_run (router : Router σ) (dialogue : Dialogue α) (session : Session) (state : σ) :
    (dialogue.run router session state).exchanges.map (·.reply) =
      router.replies (dialogue.run router session state).requests state := by
  induction dialogue generalizing session state with
  | done value => rfl
  | report event next ih => exact ih session state
  | ask request next ih => exact congrArg _ (ih _ session (router.reply request state).2)
  | look next ih => exact ih session session state
  | keep kept next ih => exact ih kept state

end Dialogue

/-! ## Attempts -/

namespace Attempt

variable {σ α β : Type} {router : Router σ} {attempt : Attempt α} {session : Session} {state : σ}

theorem run_bind_of_ok {value : α} (next : α → Attempt β)
    (ok : (attempt.run.run router session state).value = .ok value) :
    (attempt >>= next).run.run router session state =
      (attempt.run.run router session state).followedBy
        ((next value).run.run router (attempt.run.run router session state).session
          (attempt.run.run router session state).router) := by
  rw [run_bind, Dialogue.run_bind, ok]

theorem run_bind_of_error {failure : Failure} (next : α → Attempt β)
    (error : (attempt.run.run router session state).value = .error failure) :
    (attempt >>= next).run.run router session state =
      { attempt.run.run router session state with value := .error failure } := by
  rw [run_bind, Dialogue.run_bind, error]
  simp [Dialogue.Run.followedBy]

theorem run_report_bind (level : Level) (message : String) (next : Unit → Attempt β) :
    (report level message >>= next).run.run router session state =
      { (next ()).run.run router session state with
        events := ⟨level, message⟩ :: ((next ()).run.run router session state).events } := by
  rw [run_bind, run_report]
  rfl

theorem run_placing_run (place : Failure → Failure) :
    (attempt.placing place).run.run router session state =
      { attempt.run.run router session state with
        value := (attempt.run.run router session state).value.mapError place } := by
  rw [run_placing, Dialogue.run_bind]
  simp [Dialogue.Run.followedBy]

theorem run_reportAll_run (events : List Event) :
    (reportAll events).run.run router session state =
      { value := .ok (), session, router := state, events } := by
  induction events with
  | nil => rfl
  | cons event rest ih =>
      change { (reportAll rest).run.run router session state with
        events := event :: ((reportAll rest).run.run router session state).events } = _
      rw [ih]

end Attempt

end RouterTelemetry
