import RouterTelemetry.Proofs.ExporterHistory
import RouterTelemetry.Proofs.QuietCollection

/-!
# The last cycle decides

Between two operations the registry is that of a fresh one into which the samples of
the last cycle were published, or the one without series if that cycle has failed or
there was none.  The log tells a failure exactly once.
-/

namespace RouterTelemetry

open Http

/-- The snapshot that a collection takes. -/
def Collector.snapshot (collector : Collector) : Attempt Snapshot :=
  Client.takeSnapshot collector.endpoint collector.password collector.bands

/-- A collection that gives samples has projected its own snapshot. -/
theorem Collector.value_collect_run {σ : Type} (collector : Collector) (router : Router σ)
    (session : Session) (state : σ) :
    (collector.collect.run.run router session state).value =
      (collector.snapshot.run.run router session state).value.bind fun snapshot =>
        (Projection.project snapshot).1 := by
  rw [collect, ← snapshot]
  cases taken : (collector.snapshot.run.run router session state).value with
  | error failure =>
      rw [Attempt.run_bind_of_error _ taken]
      rfl
  | ok snapshot =>
      rw [Attempt.run_bind_of_ok _ taken, Dialogue.Run.value_followedBy]
      dsimp only
      rw [Attempt.run_bind_of_ok _ (by rw [Attempt.run_reportAll_run])]
      rfl

namespace Exporter

/-- What a cycle leaves in the registry, by the snapshot it has taken and the failure it
has ended in. -/
inductive Leaves (taken : Except Failure Snapshot) : Option Failure → Registry → Prop where
  | failed {registry : Registry} (failure : Failure) (series : registry.series = [])
      (up : registry.up = 0.0) : Leaves taken (some failure) registry
  | succeeded {registry : Registry} (snapshot : Snapshot) (samples : SampleSet)
      (snapshotTaken : taken = .ok snapshot)
      (projected : (Projection.project snapshot).1 = .ok samples)
      (published : Registry.down.publish samples = (registry, none)) (up : registry.up = 1.0) :
      Leaves taken none registry

/-- The errors that a cycle reports, by the failure it has ended in. -/
def errorsOf (failure : Option Failure) : List Event :=
  (failure.map fun failure => ⟨.error, "Bbox error: " ++ failure.message⟩).toList

theorem runCycle_leaves (collector : Collector) {exporter : Exporter}
    (known : exporter.registry.Known) {σ : Type}
    (router : Router σ) (state : σ) :
    Leaves (collector.snapshot.run.run router exporter.session state).value
      (exporter.runCycle router collector state).value
      (exporter.runCycle router collector state).exporter.registry := by
  have value_eq := collector.value_collect_run router exporter.session state
  have cycle_value : (collector.cycle.run router exporter.session state).value =
      (collector.collect.run.run router exporter.session state).value := by
    rw [Collector.cycle, Dialogue.run_report]
  rw [← cycle_value] at value_eq
  -- From here on the run matters by its value alone.
  unfold runCycle
  generalize collector.cycle.run router exporter.session state = run at *
  generalize (collector.snapshot.run.run router exporter.session state).value = taken at *
  dsimp only
  cases ended : (Collector.conclude exporter.registry run.value).failure with
  | some failure =>
      rw [(Collector.conclude_of_failure known ended).1]
      exact .failed failure rfl rfl
  | none =>
      obtain ⟨samples, collected, published, up, _⟩ := Collector.conclude_of_success known ended
      rw [collected] at value_eq
      cases taken with
      | error failure => cases value_eq
      | ok snapshot => exact .succeeded snapshot samples rfl value_eq.symm published up

theorem errors_runCycle (collector : Collector) {exporter : Exporter}
    (known : exporter.registry.Known) {σ : Type}
    (router : Router σ) (state : σ) :
    Event.atLevel .error (exporter.runCycle router collector state).events =
      errorsOf (exporter.runCycle router collector state).value := by
  have quiet := collector.cycle_quiet σ router exporter.session state
  unfold runCycle
  generalize collector.cycle.run router exporter.session state = run at *
  dsimp only
  rw [Event.atLevel_append, Event.atLevel_error_eq_nil quiet, List.nil_append]
  cases ended : (Collector.conclude exporter.registry run.value).failure with
  | some failure =>
      rw [(Collector.conclude_of_failure known ended).2]
      rfl
  | none =>
      obtain ⟨_, _, _, _, level⟩ := Collector.conclude_of_success known ended
      exact Event.atLevel_error_eq_nil (by simp [Event.Mild, level])

/-- Operations without a cycle leave the registry as it is. -/
theorem registry_after_append (collector : Collector) (earlier : List Visit) {later : List Visit}
    (noCycle : ∀ visit ∈ later, visit.operation.cycles = false) :
    (after collector (earlier ++ later)).registry = (after collector earlier).registry := by
  induction later using List.reverseRecOn with
  | nil => rw [List.append_nil]
  | append_singleton later visit ih =>
      rw [← List.append_assoc, after_concat,
        registry_perform_of_not_cycles collector _ (noCycle visit (by simp))]
      exact ih fun other member => noCycle other (List.mem_append_left [visit] member)

theorem registry_after_of_no_cycle (collector : Collector) {history : List Visit}
    (noCycle : ∀ visit ∈ history, visit.operation.cycles = false) :
    (after collector history).registry = .down := by
  have untouched := registry_after_append collector [] noCycle
  rwa [List.nil_append, after_nil] at untouched

theorem leaves_after_of_last_cycle (collector : Collector) (earlier : List Visit) {visit : Visit}
    {later : List Visit} (cycles : visit.operation.cycles = true)
    (noCycle : ∀ other ∈ later, other.operation.cycles = false) :
    Leaves
      (collector.snapshot.run.run visit.router (after collector earlier).session visit.state).value
      ((after collector earlier).runCycle visit.router collector visit.state).value
      (after collector (earlier ++ visit :: later)).registry := by
  have untouched := registry_after_append collector (earlier ++ [visit]) noCycle
  rw [List.append_assoc, List.singleton_append, after_concat,
    (perform_of_cycles collector _ cycles).1] at untouched
  rw [untouched]
  exact runCycle_leaves collector (known_after earlier) visit.router visit.state

theorem errors_perform (collector : Collector) (history : List Visit) {visit : Visit}
    (cycles : visit.operation.cycles = true) :
    Event.atLevel .error ((after collector history).perform collector visit).events =
      errorsOf ((after collector history).runCycle visit.router collector visit.state).value := by
  rw [(perform_of_cycles collector _ cycles).2]
  exact errors_runCycle collector (known_after history) visit.router visit.state

/-- Between two operations the registry is decided by the last cycle alone: a failed one,
or none at all, leaves the router unavailable and no series; any other leaves what its
samples give in a fresh registry.  Other operations leave the registry as it is.  An
operation with a cycle reports its failure as the only error. -/
theorem registry_decided_by_last_cycle (collector : Collector) (history : List Visit) :
    ((∀ visit ∈ history, visit.operation.cycles = false) →
        (after collector history).registry.series = [] ∧
          (after collector history).registry.up = 0.0) ∧
      (∀ earlier visit later, history = earlier ++ visit :: later →
        visit.operation.cycles = true → (∀ other ∈ later, other.operation.cycles = false) →
          Leaves
            (collector.snapshot.run.run visit.router (after collector earlier).session
              visit.state).value
            ((after collector earlier).runCycle visit.router collector visit.state).value
            (after collector history).registry) ∧
      (∀ visit, visit.operation.cycles = false →
        ((after collector history).perform collector visit).exporter.registry =
          (after collector history).registry) ∧
      (∀ visit, visit.operation.cycles = true →
        Event.atLevel .error ((after collector history).perform collector visit).events =
          errorsOf
            ((after collector history).runCycle visit.router collector visit.state).value) := by
  refine ⟨fun noCycle => ?_, fun earlier visit later split cycles noCycle => ?_,
    fun visit noCycle => ?_, fun visit cycles => ?_⟩
  · rw [registry_after_of_no_cycle collector noCycle]
    exact ⟨rfl, rfl⟩
  · rw [split]
    exact leaves_after_of_last_cycle collector earlier cycles noCycle
  · exact registry_perform_of_not_cycles collector (after collector history) noCycle
  · exact errors_perform collector history cycles

-- Both ends are reached: every page is empty at the first router, and the second is silent.
example :
    let collector : Collector :=
      ⟨⟨{ scheme := "https", host := some (.fourBytes 1), path := "/" }⟩, "admin", []⟩
    let answer : Answer :=
      { status := 200, setCookies := ["BBOX_ID=abc"], body := .ok [91, 123, 125, 93] }
    let granting : Router Unit := ⟨fun _ state => (.ok answer, state)⟩
    (({} : Exporter).runCycle granting collector ()).value.isNone ∧
      (({} : Exporter).runCycle .unreachable collector ()).value.isSome := by
  dsimp only
  decide +kernel

end Exporter

end RouterTelemetry
