import RouterTelemetry.Event
import RouterTelemetry.Failure
import RouterTelemetry.Http.Message
import RouterTelemetry.Session

/-!
# Dialogues

A dialogue is what the program does while it talks to the router, as data: the
steps that can be seen from outside, each with what follows it.  Between two
steps anything else may happen; `Dialogue.run` is the run in which nothing does.
-/

namespace RouterTelemetry

open Http

/-- A dialogue that ends in an `α`. -/
inductive Dialogue (α : Type) where
  | done (value : α)
  | report (event : Event) (next : Dialogue α)
  | ask (request : Request) (next : Reply → Dialogue α)
  /-- Looks at the session. -/
  | look (next : Session → Dialogue α)
  /-- Replaces the session. -/
  | keep (session : Session) (next : Dialogue α)

namespace Dialogue

/-- Goes on with what a dialogue has ended in. -/
def bind {α β : Type} : Dialogue α → (α → Dialogue β) → Dialogue β
  | .done value, f => f value
  | .report event next, f => .report event (next.bind f)
  | .ask request next, f => .ask request fun reply => (next reply).bind f
  | .look next, f => .look fun session => (next session).bind f
  | .keep session next, f => .keep session (next.bind f)

instance : Monad Dialogue where
  pure := .done
  bind := bind

@[simp]
theorem pure_eq {α : Type} (value : α) : (pure value : Dialogue α) = .done value :=
  rfl

@[simp]
theorem bind_done {α β : Type} (value : α) (f : α → Dialogue β) :
    (Dialogue.done value).bind f = f value :=
  rfl

@[simp]
theorem bind_report {α β : Type} (event : Event) (next : Dialogue α) (f : α → Dialogue β) :
    (Dialogue.report event next).bind f = .report event (next.bind f) :=
  rfl

@[simp]
theorem bind_ask {α β : Type} (request : Request) (next : Reply → Dialogue α)
    (f : α → Dialogue β) :
    (Dialogue.ask request next).bind f = .ask request fun reply => (next reply).bind f :=
  rfl

@[simp]
theorem bind_look {α β : Type} (next : Session → Dialogue α) (f : α → Dialogue β) :
    (Dialogue.look next).bind f = .look fun session => (next session).bind f :=
  rfl

@[simp]
theorem bind_keep {α β : Type} (session : Session) (next : Dialogue α) (f : α → Dialogue β) :
    (Dialogue.keep session next).bind f = .keep session (next.bind f) :=
  rfl

/-- What a run of a dialogue leaves. -/
structure Run (σ α : Type) where
  value : α
  session : Session
  router : σ
  /-- Requests with their replies, oldest first. -/
  exchanges : List Exchange := []
  events : List Event := []

/-- Requests sent, oldest first. -/
def Run.requests {σ α : Type} (run : Run σ α) : List Request :=
  run.exchanges.map (·.request)

/-- Runs a dialogue alone with a router. -/
def run {σ α : Type} (router : Router σ) : Dialogue α → Session → σ → Run σ α
  | .done value, session, state => { value, session, router := state }
  | .report event next, session, state =>
      let rest := next.run router session state
      { rest with events := event :: rest.events }
  | .ask request next, session, state =>
      let (reply, after) := router.reply request state
      let rest := (next reply).run router session after
      { rest with exchanges := ⟨request, reply⟩ :: rest.exchanges }
  | .look next, session, state => (next session).run router session state
  | .keep session next, _, state => next.run router session state

section

variable {σ α : Type} (router : Router σ) (session : Session) (state : σ)

@[simp]
theorem run_done (value : α) :
    (Dialogue.done value).run router session state = { value, session, router := state } :=
  rfl

@[simp]
theorem run_report (event : Event) (next : Dialogue α) :
    (Dialogue.report event next).run router session state =
      let rest := next.run router session state
      { rest with events := event :: rest.events } :=
  rfl

@[simp]
theorem run_ask (request : Request) (next : Reply → Dialogue α) :
    (Dialogue.ask request next).run router session state =
      let reply := (router.reply request state).1
      let rest := (next reply).run router session (router.reply request state).2
      { rest with exchanges := ⟨request, reply⟩ :: rest.exchanges } :=
  rfl

@[simp]
theorem run_look (next : Session → Dialogue α) :
    (Dialogue.look next).run router session state = (next session).run router session state :=
  rfl

@[simp]
theorem run_keep (kept : Session) (next : Dialogue α) :
    (Dialogue.keep kept next).run router session state = next.run router kept state :=
  rfl

end

end Dialogue

/-! ## Attempts -/

/-- A dialogue that may fail. -/
abbrev Attempt (α : Type) := ExceptT Failure Dialogue α

namespace Attempt

/-- Reports an event. -/
def report (level : Level) (message : String) : Attempt Unit :=
  ExceptT.lift (.report ⟨level, message⟩ (.done ()))

/-- Reports several events. -/
def reportAll (events : List Event) : Attempt Unit :=
  ExceptT.lift (events.foldr Dialogue.report (.done ()))

/-- Sends a request. -/
def ask (request : Request) : Attempt Reply :=
  ExceptT.lift (.ask request .done)

/-- The session of the moment. -/
def look : Attempt Session :=
  ExceptT.lift (.look .done)

/-- Replaces the session. -/
def keep (session : Session) : Attempt Unit :=
  ExceptT.lift (.keep session (.done ()))

/-- Ends in a result that is there already. -/
def ofResult {α : Type} (result : Except Failure α) : Attempt α :=
  ExceptT.mk (.done result)

/-- What has come, or a failure for the reason why it has not. -/
def received {α : Type} (result : Except String α) : Attempt α :=
  ofResult (result.mapError .transport)

/-- The same attempt with its failures placed. -/
def placing {α : Type} (place : Failure → Failure) (attempt : Attempt α) : Attempt α :=
  ExceptT.mk (attempt.run.bind fun result => .done (result.mapError place))

/-! What an attempt is as a dialogue. -/

variable {α β : Type}

@[simp]
theorem run_pure (value : α) : (pure value : Attempt α).run = .done (.ok value) :=
  rfl

@[simp]
theorem run_bind (attempt : Attempt α) (next : α → Attempt β) :
    (attempt >>= next).run = attempt.run.bind fun result =>
      match result with
      | .ok value => (next value).run
      | .error failure => .done (.error failure) := by
  refine congrArg attempt.run.bind (funext fun result => ?_)
  cases result <;> rfl

@[simp]
theorem run_report (level : Level) (message : String) :
    (report level message).run = .report ⟨level, message⟩ (.done (.ok ())) :=
  rfl

@[simp]
theorem run_ask (request : Request) :
    (ask request).run = .ask request fun reply => .done (.ok reply) :=
  rfl

@[simp]
theorem run_look : look.run = .look fun session => .done (.ok session) :=
  rfl

@[simp]
theorem run_keep (session : Session) : (keep session).run = .keep session (.done (.ok ())) :=
  rfl

@[simp]
theorem run_ofResult (result : Except Failure α) : (ofResult result).run = .done result :=
  rfl

@[simp]
theorem run_received (result : Except String α) :
    (received result).run = .done (result.mapError .transport) :=
  rfl

@[simp]
theorem run_placing (place : Failure → Failure) (attempt : Attempt α) :
    (attempt.placing place).run =
      attempt.run.bind fun result => .done (result.mapError place) :=
  rfl

end Attempt

end RouterTelemetry
