import Mathlib.Data.List.Induction
import RouterTelemetry.Exporter
import RouterTelemetry.Proofs.Publication
import RouterTelemetry.Proofs.Replay

/-!
# Histories of an exporter

An exporter goes through operations, each of which may meet another router in any
state.  The series in its registry are known throughout, and nothing that an earlier
operation has left makes a difference to a cycle.
-/

namespace RouterTelemetry

open Http

/-- The same turn with another value. -/
def Turn.map {σ α β : Type} (f : α → β) (turn : Turn σ α) : Turn σ β :=
  { turn with value := f turn.value }

namespace Exporter

/-- An operation of an exporter. -/
inductive Operation where
  | collect
  | runCycle
  | scrape
  | render
deriving Repr, DecidableEq

/-- The operation runs a cycle. -/
def Operation.cycles : Operation → Bool
  | .runCycle | .scrape => true
  | .collect | .render => false

/-- What an operation gives. -/
inductive Result where
  | samples (result : Except Failure SampleSet)
  | ended (failure : Option Failure)
  | text (text : String)

/-- An operation with the router that it meets. -/
structure Visit : Type 1 where
  operation : Operation
  State : Type
  router : Router State
  state : State

variable (collector : Collector)

/-- Performs an operation. -/
def perform (exporter : Exporter) (visit : Visit) : Turn visit.State Result :=
  match visit.operation with
  | .collect => (exporter.collect visit.router collector visit.state).map .samples
  | .runCycle => (exporter.runCycle visit.router collector visit.state).map .ended
  | .scrape => (exporter.scrape visit.router collector visit.state).map .text
  | .render => { value := .text exporter.render, exporter, router := visit.state }

/-- A new exporter after the operations of a history, oldest first. -/
def after (history : List Visit) : Exporter :=
  history.foldl (fun exporter visit => (exporter.perform collector visit).exporter) {}

variable {collector}

@[simp]
theorem after_nil : after collector [] = {} :=
  rfl

@[simp]
theorem after_concat (history : List Visit) (visit : Visit) :
    after collector (history ++ [visit]) =
      ((after collector history).perform collector visit).exporter := by
  simp [after]

/-- An operation without a cycle leaves the registry as it is. -/
theorem registry_perform_of_not_cycles (collector : Collector) (exporter : Exporter) {visit : Visit}
    (noCycle : visit.operation.cycles = false) :
    (exporter.perform collector visit).exporter.registry = exporter.registry := by
  rcases visit with ⟨operation, State, router, state⟩
  cases operation with
  | collect => simp only [perform, collect, Turn.map]
  | runCycle => cases noCycle
  | scrape => cases noCycle
  | render => simp only [perform]

/-- An operation with a cycle leaves what the cycle leaves, and reports what it reports. -/
theorem perform_of_cycles (collector : Collector) (exporter : Exporter) {visit : Visit}
    (cycles : visit.operation.cycles = true) :
    (exporter.perform collector visit).exporter =
        (exporter.runCycle visit.router collector visit.state).exporter ∧
      (exporter.perform collector visit).events =
        (exporter.runCycle visit.router collector visit.state).events := by
  rcases visit with ⟨operation, State, router, state⟩
  cases operation with
  | collect => cases cycles
  | runCycle => simp only [perform, Turn.map, and_self]
  | scrape => simp only [perform, scrape, Turn.map, and_self]
  | render => cases cycles

theorem known_perform {exporter : Exporter} (known : exporter.registry.Known) (visit : Visit) :
    (exporter.perform collector visit).exporter.registry.Known := by
  cases cycles : visit.operation.cycles with
  | false =>
      rwa [registry_perform_of_not_cycles collector exporter cycles]
  | true =>
      rw [(perform_of_cycles collector exporter cycles).1]
      simp only [runCycle, Collector.known_conclude known]

/-- Throughout a history the series of the registry are known. -/
theorem known_after (history : List Visit) : (after collector history).registry.Known := by
  induction history using List.reverseRecOn with
  | nil => exact Registry.known_down
  | append_singleton history visit ih =>
      rw [after_concat]
      exact known_perform ih visit

/-! ## Independence of the past -/

/-- Two turns have sent the same requests, given the same value and left the same text. -/
structure SameTurn {σ τ α : Type} (left : Turn σ α) (right : Turn τ α) : Prop where
  requests_eq : left.requests = right.requests
  value_eq : left.value = right.value
  text_eq : left.exporter.render = right.exporter.render

theorem runCycle_sameTurn {σ τ : Type} {router : Router σ} {state : σ} {other : Router τ}
    {otherState : τ} {exporter otherExporter : Exporter} (known : exporter.registry.Known)
    (otherKnown : otherExporter.registry.Known) (alike : Alike router state other otherState) :
    SameTurn (exporter.runCycle router collector state)
      (otherExporter.runCycle other collector otherState) := by
  have agree := collector.cycle_agree alike exporter.session otherExporter.session
  unfold runCycle
  generalize collector.cycle.run router exporter.session state = left at *
  generalize collector.cycle.run other otherExporter.session otherState = right at *
  dsimp only
  rw [Collector.conclude_eq_of_known known, Collector.conclude_eq_of_known otherKnown,
    agree.value_eq]
  exact ⟨congrArg (List.map Exchange.request) agree.exchanges_eq, rfl, rfl⟩

/-- Two exporters for one collector may have gone through any operations before: against
routers that reply alike they run the same cycle and make the same scrape. -/
theorem cycle_independent_of_history (collector : Collector) (history otherHistory : List Visit)
    {σ τ : Type} {router : Router σ} {state : σ} {other : Router τ} {otherState : τ}
    (alike : Alike router state other otherState) :
    SameTurn ((after collector history).runCycle router collector state)
        ((after collector otherHistory).runCycle other collector otherState) ∧
      SameTurn ((after collector history).scrape router collector state)
        ((after collector otherHistory).scrape other collector otherState) := by
  have same : SameTurn ((after collector history).runCycle router collector state)
      ((after collector otherHistory).runCycle other collector otherState) :=
    runCycle_sameTurn (known_after history) (known_after otherHistory) alike
  refine ⟨same, ?_⟩
  unfold scrape
  generalize (after collector history).runCycle router collector state = left at *
  generalize (after collector otherHistory).runCycle other collector otherState = right at *
  exact ⟨same.requests_eq, same.text_eq, same.text_eq⟩

/-- A router that counts requests cannot be told apart from one that does not, also by an
exporter that has been through an outage before. -/
theorem cycle_independent_of_outage :
    let collector : Collector :=
      ⟨⟨{ scheme := "https", host := some (.named "mabbox.bytel.fr"), path := "/" }⟩, "admin",
        Band.all⟩
    let answer : Answer :=
      { status := 200, setCookies := ["BBOX_ID=abc; path=/"]
        body := .ok "[\x7b\x7d]".toUTF8.toList }
    let steady : Router Unit := ⟨fun _ state => (.ok answer, state)⟩
    let counting : Router Nat := ⟨fun _ count => (.ok answer, count + 1)⟩
    let outage : Visit := ⟨.scrape, Unit, .unreachable, ()⟩
    Alike steady () counting 0 ∧
      SameTurn ((after collector []).runCycle steady collector ())
        ((after collector [outage]).runCycle counting collector 0) ∧
      SameTurn ((after collector []).scrape steady collector ())
        ((after collector [outage]).scrape counting collector 0) := by
  intro collector answer steady counting outage
  have alike : ∀ requests count,
      steady.replies requests () = counting.replies requests count := by
    intro requests
    induction requests with
    | nil => exact fun _ => rfl
    | cons request rest ih =>
        intro count
        rw [Router.replies, Router.replies]
        exact congrArg (.ok answer :: ·) (ih (count + 1))
  have fromZero : Alike steady () counting 0 := fun requests => alike requests 0
  exact ⟨fromZero, cycle_independent_of_history collector [] [outage] fromZero⟩

end Exporter

end RouterTelemetry
