import RouterTelemetry.Proofs.Composition
import RouterTelemetry.Proofs.ExporterHistory

/-!
# Pairs of runs

Two runs, each with a router of its own, may have exchanged different things and yet give the
same.  A link between the two sides says what may differ at every moment; if it survives a login
and every single fetch, it survives a collection, a cycle and any row of operations, and these
give the same values, events and registries on both sides.
-/

namespace RouterTelemetry

open Http

/-- What holds between the sessions and routers of two sides. -/
abbrev Link (σ τ : Type) := Session → σ → Session → τ → Prop

section

variable {σ τ α β : Type} {router : Router σ} {other : Router τ} {link : Link σ τ}
  {similar : Exchange → Exchange → Prop}

/-- Two runs give the same and report the same; what they have exchanged is similar, and they end
in linked sessions and routers. -/
structure Paired (link : Link σ τ) (similar : Exchange → Exchange → Prop)
    (left : Dialogue.Run σ α) (right : Dialogue.Run τ α) : Prop where
  value_eq : left.value = right.value
  events_eq : left.events = right.events
  exchanges : List.Forall₂ similar left.exchanges right.exchanges
  linked : link left.session left.router right.session right.router

theorem Paired.followedBy {left : Dialogue.Run σ α} {right : Dialogue.Run τ α}
    {left' : Dialogue.Run σ β} {right' : Dialogue.Run τ β} (first : Paired link similar left right)
    (second : Paired link similar left' right') :
    Paired link similar (left.followedBy left') (right.followedBy right') where
  value_eq := second.value_eq
  events_eq := by simp [first.events_eq, second.events_eq]
  exchanges := List.rel_append first.exchanges second.exchanges
  linked := second.linked

/-- From linked sessions and routers on, the dialogues are run alike. -/
def RunAlike (router : Router σ) (other : Router τ) (link : Link σ τ)
    (similar : Exchange → Exchange → Prop) (left right : Dialogue α) : Prop :=
  ∀ session state session' state', link session state session' state' →
    Paired link similar (left.run router session state) (right.run other session' state')

theorem runAlike_done (value : α) :
    RunAlike router other link similar (.done value) (.done value) :=
  fun _ _ _ _ linked => ⟨rfl, rfl, .nil, linked⟩

theorem RunAlike.report {left right : Dialogue α} (event : Event)
    (next : RunAlike router other link similar left right) :
    RunAlike router other link similar (.report event left) (.report event right) := by
  intro session state session' state' linked
  have paired := next session state session' state' linked
  exact { paired with events_eq := congrArg (event :: ·) paired.events_eq }

/-- What goes on alike from the same value is run alike as a whole. -/
theorem RunAlike.bind {left right : Dialogue α} {f g : α → Dialogue β}
    (first : RunAlike router other link similar left right)
    (rest : ∀ value, RunAlike router other link similar (f value) (g value)) :
    RunAlike router other link similar (left.bind f) (right.bind g) := by
  intro session state session' state' linked
  have paired := first session state session' state' linked
  rw [Dialogue.run_bind, Dialogue.run_bind, paired.value_eq]
  exact paired.followedBy (rest _ _ _ _ _ paired.linked)

/-- Being run alike by both sides is kept by putting together. -/
theorem runAlike_composable :
    Composable fun {_} dialogue => RunAlike router other link similar dialogue dialogue where
  done value := runAlike_done value
  report _ next := next.report _
  bind first rest := first.bind rest

theorem RunAlike.attempt_bind {left right : Attempt α} {next next' : α → Attempt β}
    (first : RunAlike router other link similar left.run right.run)
    (rest : ∀ value, RunAlike router other link similar (next value).run (next' value).run) :
    RunAlike router other link similar (left >>= next).run (right >>= next').run := by
  rw [Attempt.run_bind, Attempt.run_bind]
  refine first.bind fun result => ?_
  cases result with
  | ok value => exact rest value
  | error failure => exact runAlike_done _

theorem runAlike_attempt_report (level : Level) (message : String) :
    RunAlike router other link similar (Attempt.report level message).run
      (Attempt.report level message).run := by
  rw [Attempt.run_report]
  exact (runAlike_done _).report _

theorem runAlike_ofResult (result : Except Failure α) :
    RunAlike router other link similar (Attempt.ofResult result).run
      (Attempt.ofResult result).run :=
  runAlike_done result

theorem runAlike_reportAll (events : List Event) :
    RunAlike router other link similar (Attempt.reportAll events).run
      (Attempt.reportAll events).run := by
  intro session state session' state' linked
  rw [Attempt.run_reportAll_run, Attempt.run_reportAll_run]
  exact ⟨rfl, rfl, .nil, linked⟩

/-! ## Cycles -/

variable {collector collector' : Collector}

/-- If the logins are run alike, and every single fetch, then so are collections. -/
theorem collect_runAlike (endpoint_eq : collector.endpoint = collector'.endpoint)
    (bands_eq : collector.bands = collector'.bands)
    (login : RunAlike router other link similar
      (Client.login collector.endpoint collector.password).run
      (Client.login collector'.endpoint collector'.password).run)
    (get : ∀ {α : Type} (resource : Resource α), RunAlike router other link similar
      (Client.get collector.endpoint resource).run (Client.get collector.endpoint resource).run) :
    RunAlike router other link similar collector.collect.run collector'.collect.run := by
  have groups : RunAlike router other link similar
      (Client.fetchGroups collector.endpoint collector.bands).run
      (Client.fetchGroups collector.endpoint collector.bands).run :=
    runAlike_composable.fetching get (Client.fetchGroups_fetching _ _)
  have snapshot : RunAlike router other link similar
      (Client.takeSnapshot collector.endpoint collector.password collector.bands).run
      (Client.takeSnapshot collector'.endpoint collector'.password collector'.bands).run := by
    rw [← bands_eq]
    unfold Client.takeSnapshot
    rw [← endpoint_eq] at login ⊢
    refine (runAlike_attempt_report _ _).attempt_bind fun _ => ?_
    exact login.attempt_bind fun _ => groups
  refine snapshot.attempt_bind fun snapshot => ?_
  exact (runAlike_reportAll _).attempt_bind fun _ => runAlike_ofResult _

/-! ## Operations in a row -/

namespace Exporter

/-- Performs operations one after the other. -/
def performAll (router : Router σ) (collector : Collector) :
    List Operation → Exporter → σ → List (Turn σ Result)
  | [], _, _ => []
  | operation :: operations, exporter, state =>
      let turn := exporter.perform collector ⟨operation, σ, router, state⟩
      turn :: performAll router collector operations turn.exporter turn.router

/-- Two turns give the same, report the same and leave the same registry; what they have exchanged
is similar. -/
structure PairedTurns (similar : Exchange → Exchange → Prop) (left : Turn σ α)
    (right : Turn τ α) : Prop where
  value_eq : left.value = right.value
  events_eq : left.events = right.events
  registry_eq : left.exporter.registry = right.exporter.registry
  exchanges : List.Forall₂ similar left.exchanges right.exchanges

/-- The sessions of two exporters are linked, with their routers, and the registries are the
same. -/
structure Linked (link : Link σ τ) (exporter : Exporter) (state : σ) (exporter' : Exporter)
    (state' : τ) : Prop where
  linked : link exporter.session state exporter'.session state'
  registry_eq : exporter.registry = exporter'.registry

section

variable {exporter exporter' : Exporter} {state : σ} {state' : τ}
  (linked : Linked link exporter state exporter' state')
  (alike : RunAlike router other link similar collector.collect.run collector'.collect.run)

include linked alike

theorem collect_paired :
    PairedTurns similar (exporter.collect router collector state)
        (exporter'.collect other collector' state') ∧
      Linked link (exporter.collect router collector state).exporter
        (exporter.collect router collector state).router
        (exporter'.collect other collector' state').exporter
        (exporter'.collect other collector' state').router := by
  have paired := alike _ _ _ _ linked.linked
  unfold collect
  generalize collector.collect.run.run router exporter.session state = left at *
  generalize collector'.collect.run.run other exporter'.session state' = right at *
  exact ⟨⟨paired.value_eq, paired.events_eq, linked.registry_eq, paired.exchanges⟩,
    paired.linked, linked.registry_eq⟩

theorem runCycle_paired :
    PairedTurns similar (exporter.runCycle router collector state)
        (exporter'.runCycle other collector' state') ∧
      Linked link (exporter.runCycle router collector state).exporter
        (exporter.runCycle router collector state).router
        (exporter'.runCycle other collector' state').exporter
        (exporter'.runCycle other collector' state').router := by
  have paired := alike.report ⟨.info, "Bbox exporter starting"⟩ _ _ _ _ linked.linked
  unfold runCycle Collector.cycle
  generalize Dialogue.run router (.report _ collector.collect.run) exporter.session state = left
    at *
  generalize Dialogue.run other (.report _ collector'.collect.run) exporter'.session state' =
    right at *
  dsimp only
  rw [paired.value_eq, linked.registry_eq]
  exact ⟨⟨rfl, by rw [paired.events_eq], rfl, paired.exchanges⟩, paired.linked, rfl⟩

theorem perform_paired (operation : Operation) :
    PairedTurns similar (exporter.perform collector ⟨operation, σ, router, state⟩)
        (exporter'.perform collector' ⟨operation, τ, other, state'⟩) ∧
      Linked link (exporter.perform collector ⟨operation, σ, router, state⟩).exporter
        (exporter.perform collector ⟨operation, σ, router, state⟩).router
        (exporter'.perform collector' ⟨operation, τ, other, state'⟩).exporter
        (exporter'.perform collector' ⟨operation, τ, other, state'⟩).router := by
  cases operation with
  | collect =>
      obtain ⟨paired, linked⟩ := collect_paired linked alike
      unfold perform
      dsimp only
      generalize exporter.collect router collector state = left at *
      generalize exporter'.collect other collector' state' = right at *
      exact ⟨{ paired with value_eq := congrArg Result.samples paired.value_eq }, linked⟩
  | runCycle =>
      obtain ⟨paired, linked⟩ := runCycle_paired linked alike
      unfold perform
      dsimp only
      generalize exporter.runCycle router collector state = left at *
      generalize exporter'.runCycle other collector' state' = right at *
      exact ⟨{ paired with value_eq := congrArg Result.ended paired.value_eq }, linked⟩
  | scrape =>
      obtain ⟨paired, linked⟩ := runCycle_paired linked alike
      unfold perform scrape
      dsimp only
      generalize exporter.runCycle router collector state = left at *
      generalize exporter'.runCycle other collector' state' = right at *
      refine ⟨{ paired with value_eq := congrArg Result.text ?_ }, linked⟩
      exact congrArg Registry.render paired.registry_eq
  | render =>
      refine ⟨⟨congrArg Result.text ?_, rfl, linked.registry_eq, .nil⟩, linked⟩
      exact congrArg Registry.render linked.registry_eq

/-- Operations in a row are paired one by one. -/
theorem performAll_paired (operations : List Operation) :
    List.Forall₂ (PairedTurns similar) (performAll router collector operations exporter state)
      (performAll other collector' operations exporter' state') := by
  induction operations generalizing exporter exporter' state state' with
  | nil => exact .nil
  | cons operation operations ih =>
      obtain ⟨paired, next⟩ := perform_paired linked alike operation
      exact .cons paired (ih next)

end

end Exporter

end

end RouterTelemetry
