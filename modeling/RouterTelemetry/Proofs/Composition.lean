import RouterTelemetry.Proofs.FetchPlan

/-!
# Properties of everything that is put together

A property of dialogues that survives reports and going on holds of a snapshot as
soon as it holds of the login and of every single fetch.
-/

namespace RouterTelemetry

/-- A property of dialogues that a dialogue has when its parts have it.  Errors are not
among the events that may be added: they are reported by whole cycles alone. -/
structure Composable (P : {α : Type} → Dialogue α → Prop) : Prop where
  done : ∀ {α : Type} (value : α), P (.done value)
  report : ∀ {α : Type} {event : Event} {next : Dialogue α},
    event.level ≠ .error → P next → P (.report event next)
  bind : ∀ {α β : Type} {dialogue : Dialogue α} {f : α → Dialogue β},
    P dialogue → (∀ value, P (f value)) → P (dialogue.bind f)

namespace Composable

variable {P : {α : Type} → Dialogue α → Prop} (composable : Composable P) {α β : Type}

include composable

theorem attempt_bind {attempt : Attempt α} {next : α → Attempt β} (first : P attempt.run)
    (rest : ∀ value, P (next value).run) : P (attempt >>= next).run := by
  rw [Attempt.run_bind]
  refine composable.bind first fun result => ?_
  cases result with
  | ok value => exact rest value
  | error failure => exact composable.done _

theorem attempt_report {level : Level} (message : String) (mild : level ≠ .error) :
    P (Attempt.report level message).run :=
  composable.report mild (composable.done _)

theorem placing {attempt : Attempt α} (place : Failure → Failure) (inner : P attempt.run) :
    P (attempt.placing place).run := by
  rw [Attempt.run_placing]
  exact composable.bind inner fun _ => composable.done _

variable {endpoint : Endpoint}

/-- What holds of every single fetch holds of an attempt that only fetches. -/
theorem fetching (get : ∀ {α : Type} (resource : Resource α), P (Client.get endpoint resource).run)
    {scope : Option Group} {steps : List Client.Step} {attempt : Attempt α}
    (fetching : Client.Fetching endpoint scope steps attempt) : P attempt.run := by
  induction fetching with
  | pure value => exact composable.done _
  | report message mild => exact composable.attempt_report message mild
  | fetch group resource _ => exact composable.placing _ (get resource)
  | inGroup _ ih => exact composable.placing _ ih
  | bind _ _ ihFirst ihRest => exact composable.attempt_bind ihFirst ihRest

/-- What holds of the login and of every single fetch holds of a snapshot. -/
theorem takeSnapshot
    (get : ∀ {α : Type} (resource : Resource α), P (Client.get endpoint resource).run)
    {password : String} (login : P (Client.login endpoint password).run) (bands : List Band) :
    P (Client.takeSnapshot endpoint password bands).run := by
  refine composable.attempt_bind (composable.attempt_report _ (by decide)) fun _ => ?_
  refine composable.attempt_bind login fun _ => ?_
  exact composable.fetching get (Client.fetchGroups_fetching endpoint bands)

end Composable

end RouterTelemetry
