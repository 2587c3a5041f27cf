import RouterTelemetry.Proofs.CycleBlocks
import RouterTelemetry.Proofs.ExpositionLines
import RouterTelemetry.Proofs.LastCycle

/-!
# Answered texts

A scrape gives its turn back before it renders the registry.  Its text is that of its own
cycle if no other one comes to its end before the rendering, and otherwise that of the last
one that does.
-/

namespace RouterTelemetry

open Http

/-! ## Texts of results -/

/-- The lines of a text tell what a cycle has come to: the router is available, with the
series of the samples, or it is not, and there are no series. -/
inductive Tells : Except Failure SampleSet → String → Prop where
  | succeeded {samples : SampleSet} {registry : Registry} {text : String}
      (published : Registry.down.publish samples = (registry, none))
      (lines : ((dataLines text).map (· ++ "\n")).Perm
        ("bbox_up 1\n" :: registry.series.map Series.text)) :
      Tells (.ok samples) text
  | failed {result : Except Failure SampleSet} {failure : Failure} {text : String}
      (ended : (Collector.conclude .down result).failure = some failure)
      (lines : (dataLines text).map (· ++ "\n") = ["bbox_up 0\n"]) :
      Tells result text

theorem tells_render_conclude (result : Except Failure SampleSet) :
    Tells result (Collector.conclude .down result).registry.render := by
  have exposed := Registry.dataLines_render_perm
    (Collector.known_conclude Registry.known_down result)
  cases ended : (Collector.conclude .down result).failure with
  | none =>
      obtain ⟨samples, rfl, published, up, _⟩ :=
        Collector.conclude_of_success Registry.known_down ended
      have available : Series.text ⟨.up, [], 1.0⟩ = "bbox_up 1\n" := by decide +kernel
      rw [up, available] at exposed
      exact .succeeded published exposed
  | some failure =>
      have unavailable : Series.text ⟨.up, [], 0.0⟩ = "bbox_up 0\n" := by decide +kernel
      rw [(Collector.conclude_of_failure Registry.known_down ended).1] at exposed ⊢
      apply Tells.failed ended
      rw [← unavailable]
      exact List.perm_singleton.mp exposed

theorem Tells.available_iff {result : Except Failure SampleSet} {text : String}
    (tells : Tells result text) :
    "bbox_up 1\n" ∈ (dataLines text).map (· ++ "\n") ↔
      (Collector.conclude .down result).failure = none := by
  cases tells with
  | succeeded published lines =>
      simp [lines.mem_iff, Collector.conclude, Collector.publishTo, published]
  | failed ended lines =>
      simp [lines, ended]

/-- The text of a scrape that nothing disturbs tells its cycle. -/
theorem Exporter.tells_scrape {exporter : Exporter} (known : exporter.registry.Known) {σ : Type}
    (router : Router σ) (collector : Collector) (state : σ) :
    Tells (collector.cycle.run router exporter.session state).value
      (exporter.scrape router collector state).value := by
  simp only [scrape, render, runCycle, Collector.conclude_eq_of_known known]
  exact tells_render_conclude _

/-- A cycle that fails leaves one line. -/
theorem Exporter.dataLines_scrape_of_failure {σ : Type} (router : Router σ)
    (collector : Collector) (state : σ)
    (failed : (Collector.conclude .down
      (collector.cycle.run router {} state).value).failure.isSome) :
    (dataLines (({} : Exporter).scrape router collector state).value).map (· ++ "\n") =
      ["bbox_up 0\n"] := by
  have tells := @tells_scrape {} Registry.known_down σ router collector state
  generalize (({} : Exporter).scrape router collector state).value = text at tells ⊢
  generalize (collector.cycle.run router ({} : Exporter).session state).value = result
    at tells failed
  cases tells with
  | succeeded published lines =>
      rw [Collector.conclude, Collector.publishTo, published] at failed
      cases failed
  | failed ended lines => exact lines

theorem Block.tells_render_outcome {ι σ : Type} {own : Block ι σ}
    {result : Except Failure SampleSet} (ended : own.result = some result)
    {between : List (Block ι σ)} (unfinished : ∀ block ∈ between, block.result = none) :
    Tells result (outcome (own :: between)).render := by
  rw [← List.singleton_append, outcome_append_of_unfinished unfinished, ← List.nil_append [own],
    outcome_concat, ended]
  exact tells_render_conclude result

namespace Service

variable {ι σ : Type} [DecidableEq ι] (router : Router σ) (collector : Collector)

/-! ## A cycle without a break -/

section

variable (service : Service ι σ) (scrape : ι)

theorem perform_cons (action : Action ι) (schedule : List (Action ι)) :
    service.perform router collector (action :: schedule) =
      (service.act router collector action).perform router collector schedule :=
  rfl

variable {service scrape} in
theorem act_talking {rest : Dialogue (Except Failure SampleSet)}
    (talking : service.phase scrape = .talking rest) :
    service.act router collector ⟨scrape, .proceed⟩ = service.talk router scrape rest := by
  simp only [act, proceed, talking]

/-- A service after the rest of a cycle, which has come to its end in a run of its own. -/
def settle (service : Service ι σ) (scrape : ι)
    (run : Dialogue.Run σ (Except Failure SampleSet)) : Service ι σ :=
  { exporter :=
      { session := run.session
        registry := (Collector.conclude service.exporter.registry run.value).registry }
    router := run.router
    phase := Function.update service.phase scrape .concluded
    exchanges := service.exchanges ++ run.exchanges.map fun exchange => (scrape, exchange) }

/-- The steps of one scrape alone run the rest of its cycle. -/
theorem exists_perform_talking (rest : Dialogue (Except Failure SampleSet))
    (talking : service.phase scrape = .talking rest) :
    ∃ steps, service.perform router collector (List.replicate steps ⟨scrape, .proceed⟩) =
      service.settle scrape (rest.run router service.exporter.session service.router) := by
  induction rest generalizing service with
  | done result =>
      rcases published : Collector.publishTo service.exporter.registry result with
        ⟨registry, _ | failure⟩
      · refine ⟨1, ?_⟩
        simp [perform, act, proceed, talking, talk, published, settle, leave, enter,
          Collector.conclude]
      · refine ⟨2, ?_⟩
        simp [perform, act, proceed, talking, talk, published, settle, leave, enter,
          Collector.conclude]
  | report event next ih =>
      obtain ⟨steps, performed⟩ := ih (service.enter scrape (.talking next)) (by simp [enter])
      refine ⟨steps + 1, ?_⟩
      rw [List.replicate_succ, perform_cons, act_talking _ _ talking, talk, performed]
      simp [settle, enter]
  | ask request next ih =>
      obtain ⟨steps, performed⟩ := ih (router.reply request service.router).1
        { service.enter scrape (.talking (next (router.reply request service.router).1)) with
          router := (router.reply request service.router).2
          exchanges := service.exchanges ++
            [(scrape, ⟨request, (router.reply request service.router).1⟩)] }
        (by simp [enter])
      refine ⟨steps + 2, ?_⟩
      rw [List.replicate_succ, perform_cons, act_talking _ _ talking, List.replicate_succ,
        perform_cons]
      simp only [act, talk, proceed, enter, Function.update_self, Function.update_idem]
        at performed ⊢
      rw [performed]
      simp [settle]
  | look next ih =>
      obtain ⟨steps, performed⟩ := ih service.exporter.session
        (service.enter scrape (.talking (next service.exporter.session))) (by simp [enter])
      refine ⟨steps + 1, ?_⟩
      rw [List.replicate_succ, perform_cons, act_talking _ _ talking, talk, performed]
      simp [settle, enter]
  | keep session next ih =>
      obtain ⟨steps, performed⟩ := ih
        { service.enter scrape (.talking next) with
          exporter := { service.exporter with session } }
        (by simp [enter])
      refine ⟨steps + 1, ?_⟩
      rw [List.replicate_succ, perform_cons, act_talking _ _ talking, talk, performed]
      simp [settle, enter]

/-- A scrape that begins when no cycle is under way, and that no other one disturbs, runs a
cycle of the exporter. -/
theorem exists_perform_waiting (waiting : service.phase scrape = .waiting)
    (free : service.holder = none) :
    ∃ steps, service.perform router collector (List.replicate steps ⟨scrape, .proceed⟩) =
      service.settle scrape
        (collector.cycle.run router service.exporter.session service.router) := by
  obtain ⟨steps, performed⟩ := exists_perform_talking router collector
    { service.enter scrape (.talking collector.cycle) with holder := some scrape } scrape
    collector.cycle (by simp [enter])
  refine ⟨steps + 1, ?_⟩
  rw [List.replicate_succ, perform_cons, act]
  simp only [proceed, waiting, free]
  rw [performed]
  simp [settle, enter]

theorem exporter_settle_cycle :
    (service.settle scrape
      (collector.cycle.run router service.exporter.session service.router)).exporter =
      (service.exporter.runCycle router collector service.router).exporter :=
  rfl

variable {service scrape} in
theorem phase_proceed_of_concluded (concluded : service.phase scrape = .concluded) :
    (service.proceed router collector scrape).phase scrape =
      .answered service.exporter.render := by
  simp [proceed, concluded, enter]

/-- The only scrape of a new service answers with the text of its own cycle. -/
theorem exists_answered_alone (start : σ) :
    ∃ schedule, (after router collector start schedule).phase scrape =
      .answered (({} : Exporter).scrape router collector start).value := by
  obtain ⟨steps, performed⟩ := exists_perform_waiting router collector { router := start } scrape
    rfl rfl
  refine ⟨List.replicate steps ⟨scrape, .proceed⟩ ++ [⟨scrape, .proceed⟩], ?_⟩
  rw [after_concat, after, performed, act]
  dsimp only
  rw [phase_proceed_of_concluded _ _ (by simp [settle]), exporter_settle_cycle, Exporter.scrape]

end

/-! ## Renderings -/

/-- A scrape rendered its text after the actions of a schedule, with its own cycle over and
the others before and after it. -/
structure Rendered (start : σ) (before : List (Action ι)) (scrape : ι)
    (earlier : List (Block ι σ)) (own : Block ι σ) (between : List (Block ι σ))
    (text : String) : Prop where
  at_end : (after router collector start before).phase scrape = .concluded
  exchanges_eq : (after router collector start before).exchanges =
    (earlier ++ own :: between).flatMap Block.tagged
  distinct : ((earlier ++ own :: between).map Block.scrape).Nodup
  genuine : ∀ block ∈ earlier ++ own :: between, block.Genuine router collector
  mine : own.scrape = scrape
  ended : own.result.isSome
  text_eq : text = (Block.outcome (own :: between)).render
  undisturbed : (∀ block ∈ between, block.result = none) →
    ∃ result, own.result = some result ∧ Tells result text

variable {router collector}

/-- A step of one scrape leaves the others where they stand. -/
theorem phase_talk_of_ne (service : Service ι σ) {scrape other : ι} (apart : other ≠ scrape)
    (rest : Dialogue (Except Failure SampleSet)) :
    (service.talk router scrape rest).phase other = service.phase other := by
  cases rest with
  | done result =>
      simp only [talk]
      split <;> exact Function.update_of_ne apart _ _
  | report event next => exact Function.update_of_ne apart _ _
  | ask request next => exact Function.update_of_ne apart _ _
  | look next => exact Function.update_of_ne apart _ _
  | keep session next => exact Function.update_of_ne apart _ _

theorem phase_act_of_ne (service : Service ι σ) {action : Action ι} {other : ι}
    (apart : other ≠ action.scrape) :
    (service.act router collector action).phase other = service.phase other := by
  unfold act
  cases action.move with
  | proceed =>
      dsimp only
      unfold proceed
      cases service.phase action.scrape with
      | waiting =>
          cases service.holder with
          | none => exact Function.update_of_ne apart _ _
          | some holder => rfl
      | talking rest => exact phase_talk_of_ne service apart rest
      | hearing reply next => exact Function.update_of_ne apart _ _
      | failing failure => exact Function.update_of_ne apart _ _
      | concluded => exact Function.update_of_ne apart _ _
      | answered text => rfl
      | dropped => rfl
  | drop =>
      dsimp only
      unfold drop
      split
      · rfl
      · rfl
      · exact Function.update_of_ne apart _ _

/-- A step of a cycle does not answer. -/
theorem phase_talk_ne_answered (service : Service ι σ) (scrape : ι)
    (rest : Dialogue (Except Failure SampleSet)) (text : String) :
    (service.talk router scrape rest).phase scrape ≠ .answered text := by
  cases rest with
  | done result =>
      simp only [talk]
      split <;> simp [leave, enter]
  | report event next => simp [talk, enter]
  | ask request next => simp [talk, enter]
  | look next => simp [talk, enter]
  | keep session next => simp [talk, enter]

/-- Only the rendering answers. -/
theorem phase_act_of_answered {service : Service ι σ} {action : Action ι} {scrape : ι}
    {text : String}
    (answered : (service.act router collector action).phase scrape = .answered text) :
    service.phase scrape = .answered text ∨
      action = ⟨scrape, .proceed⟩ ∧ service.phase scrape = .concluded ∧
        text = service.exporter.render := by
  by_cases own : scrape = action.scrape
  · subst own
    obtain ⟨scrape, _ | _⟩ := action
    · simp only [act, proceed] at answered
      cases at_phase : service.phase scrape with
      | waiting =>
          cases holder : service.holder <;> simp [at_phase, holder, enter] at answered
      | talking rest =>
          rw [at_phase] at answered
          exact absurd answered (phase_talk_ne_answered service scrape rest text)
      | hearing reply next => simp [at_phase, enter] at answered
      | failing failure => simp [at_phase, leave, enter] at answered
      | concluded =>
          simp only [at_phase, enter, Function.update_self, Phase.answered.injEq] at answered
          exact .inr ⟨rfl, rfl, answered.symm⟩
      | answered rendered =>
          simp only [at_phase] at answered
          exact .inl answered
      | dropped => simp [at_phase] at answered
    · simp only [act, drop] at answered
      split at answered
      · exact .inl answered
      · exact .inl answered
      · simp [enter] at answered
  · rw [phase_act_of_ne service own] at answered
    exact .inl answered

theorem exists_rendering {start : σ} {schedule : List (Action ι)} {scrape : ι} {text : String}
    (answered : (after router collector start schedule).phase scrape = .answered text) :
    ∃ before rest, schedule = before ++ ⟨scrape, .proceed⟩ :: rest ∧
      (after router collector start before).phase scrape = .concluded ∧
      text = (after router collector start before).exporter.render := by
  induction schedule using List.reverseRecOn with
  | nil => cases answered
  | append_singleton schedule action ih =>
      rw [after_concat] at answered
      rcases phase_act_of_answered answered with early | ⟨rfl, at_end, rendered⟩
      · obtain ⟨before, rest, rfl, at_end, rendered⟩ := ih early
        exact ⟨before, rest ++ [action], by simp, at_end, rendered⟩
      · exact ⟨schedule, [], rfl, at_end, rendered⟩

/-- A text that a scrape has answered is what the last cycle to come to its end, its own or a
later one, has left at the rendering. -/
theorem answered_text_of_last_cycle {start : σ} {schedule : List (Action ι)} {scrape : ι}
    {text : String}
    (answered : (after router collector start schedule).phase scrape = .answered text) :
    ∃ before rest earlier own between,
      schedule = before ++ ⟨scrape, .proceed⟩ :: rest ∧
        Rendered router collector start before scrape earlier own between text := by
  obtain ⟨before, rest, split, at_end, rendered⟩ := exists_rendering answered
  obtain ⟨past, current, orderly⟩ := exists_orderly_after router collector start before
  obtain ⟨under, unfinished, exchanges_eq, distinct, genuine⟩ := orderly.exists_blocks
  obtain ⟨own, member, mine, ended⟩ := orderly.concluded scrape at_end
  obtain ⟨earlier, later, rfl⟩ := List.append_of_mem member
  have text_eq : text = (Block.outcome (own :: (later ++ under))).render := by
    rw [rendered, Exporter.render, orderly.registry_eq, Block.outcome_append_cons ended,
      ← List.cons_append, Block.outcome_append_of_unfinished unfinished]
  rw [List.append_assoc, List.cons_append] at exchanges_eq distinct genuine
  refine ⟨before, rest, earlier, own, later ++ under, split, at_end, exchanges_eq, distinct,
    genuine, mine, ended, text_eq, ?_⟩
  intro quiet
  obtain ⟨result, ended⟩ := Option.isSome_iff_exists.mp ended
  exact ⟨result, ended, text_eq ▸ Block.tells_render_outcome ended quiet⟩

/-- Nobody disturbs the only scrape of a service whose router is out of reach: it answers with the
one line of an exporter whose router is not available. -/
theorem answered_text_of_unreachable :
    let collector : Collector :=
      ⟨⟨{ scheme := "https", host := some (.fourBytes 1), path := "/" }⟩, "admin", []⟩
    let text := (({} : Exporter).scrape .unreachable collector ()).value
    (dataLines text).map (· ++ "\n") = ["bbox_up 0\n"] ∧
      ∃ schedule : List (Action Bool),
        (after .unreachable collector () schedule).phase false = .answered text ∧
          ∃ before rest earlier own between,
            schedule = before ++ ⟨false, .proceed⟩ :: rest ∧
              Rendered .unreachable collector () before false earlier own between text := by
  intro collector text
  obtain ⟨schedule, answered⟩ := exists_answered_alone .unreachable collector false ()
  constructor
  · apply Exporter.dataLines_scrape_of_failure
    decide +kernel
  · exact ⟨schedule, answered, answered_text_of_last_cycle answered⟩

/-! ## Overtaken renderings -/

/-- When a second scrape runs all of its cycle before the first one renders, the first one
answers with what the second cycle has left. -/
theorem exists_rendered_overtaken {start : σ} {first second : ι} (apart : first ≠ second)
    {run next : Dialogue.Run σ (Except Failure SampleSet)}
    (run_eq : collector.cycle.run router {} start = run)
    (next_eq : collector.cycle.run router run.session run.router = next) :
    let own := Block.completed first {} start run
    let other := Block.completed second run.session run.router next
    let text := (Block.outcome [own, other]).render
    ∃ before, Rendered router collector start before first [] own [other] text ∧
      (after router collector start (before ++ [⟨first, .proceed⟩])).phase first =
        .answered text := by
  intro own other text
  obtain ⟨steps, performed⟩ :=
    exists_perform_waiting router collector { router := start } first rfl rfl
  obtain ⟨more, overtaken⟩ := exists_perform_waiting router collector
    (({ router := start } : Service ι σ).settle first run) second
    (by simp [settle, Function.update_of_ne apart.symm]) rfl
  have reached : after router collector start
      (List.replicate steps ⟨first, .proceed⟩ ++ List.replicate more ⟨second, .proceed⟩) =
        (({ router := start } : Service ι σ).settle first run).settle second next := by
    rw [after, perform_append, performed, run_eq, overtaken]
    exact congrArg _ next_eq
  have at_end : ((({ router := start } : Service ι σ).settle first run).settle second
      next).phase first = .concluded := by
    simp [settle, Function.update_of_ne apart]
  refine ⟨List.replicate steps ⟨first, .proceed⟩ ++ List.replicate more ⟨second, .proceed⟩, ?_, ?_⟩
  rotate_left
  · rw [after_concat, reached, act]
    dsimp only
    rw [phase_proceed_of_concluded _ _ at_end]
    have registry_eq := congrArg Collector.Outcome.registry
      (Collector.conclude_eq_of_known (Collector.known_conclude Registry.known_down run.value)
        next.value)
    exact congrArg (Phase.answered ∘ Registry.render) registry_eq
  constructor
  · rw [reached, at_end]
  · rw [reached]
    simp [settle, Block.tagged, own, other, Block.completed]
  · simpa [own, other, Block.completed] using apart
  · intro block member
    rw [List.nil_append, List.mem_pair] at member
    rcases member with rfl | rfl
    · exact Block.genuine_completed first run_eq
    · exact Block.genuine_completed second next_eq
  · rfl
  · rfl
  · rfl
  · intro unfinished
    cases unfinished other (List.mem_singleton_self other)

/-- The text tells that the router is available, and not the cycle of the first scrape, if that one
fails and the second one succeeds. -/
theorem exists_rendered_untold {start : σ} {first second : ι} (apart : first ≠ second)
    (failed :
      (Collector.conclude .down (collector.cycle.run router {} start).value).failure.isSome)
    (succeeded : (Collector.conclude .down
      (collector.cycle.run router (collector.cycle.run router {} start).session
        (collector.cycle.run router {} start).router).value).failure = none) :
    ∃ before own between text result,
      Rendered router collector start before first [] own between text ∧
        (after router collector start (before ++ [⟨first, .proceed⟩])).phase first =
          .answered text ∧
        own.result = some result ∧ (Collector.conclude .down result).failure.isSome ∧
        "bbox_up 1\n" ∈ (dataLines text).map (· ++ "\n") ∧ ¬Tells result text := by
  obtain ⟨run, run_eq⟩ : ∃ run, collector.cycle.run router {} start = run := ⟨_, rfl⟩
  rw [run_eq] at failed succeeded
  obtain ⟨next, next_eq⟩ :
      ∃ next, collector.cycle.run router run.session run.router = next := ⟨_, rfl⟩
  rw [next_eq] at succeeded
  obtain ⟨before, rendered, answered⟩ := exists_rendered_overtaken apart run_eq next_eq
  -- The text tells the second cycle, so it tells that the router is available.
  have told : Tells next.value
      (Block.outcome [Block.completed second run.session run.router next]).render :=
    Block.tells_render_outcome rfl nofun
  have available := told.available_iff.mpr succeeded
  rw [← Block.outcome_append_cons rfl [Block.completed first {} start run],
    List.singleton_append] at available
  refine ⟨before, _, _, _, run.value, rendered, answered, rfl, failed, available, fun tells => ?_⟩
  rw [tells.available_iff.mp available] at failed
  cases failed

/-- A scrape whose own cycle got no reply and failed answers that the router is available, when
another scrape finds it available before the rendering. -/
theorem failed_scrape_answers_available :
    let collector : Collector :=
      ⟨⟨{ scheme := "https", host := some (.fourBytes 1), path := "/" }⟩, "admin", []⟩
    let answer : Answer :=
      { status := 200, setCookies := ["BBOX_ID=abc"], body := .ok [91, 123, 125, 93] }
    let router : Router Bool :=
      ⟨fun _ lost => (if lost then .error "timed out" else .ok answer, false)⟩
    ∃ before own between text result,
      Rendered router collector true before false [] own between text ∧
        (after router collector true (before ++ [⟨false, .proceed⟩])).phase false =
          .answered text ∧
        own.result = some result ∧ (Collector.conclude .down result).failure.isSome ∧
        "bbox_up 1\n" ∈ (dataLines text).map (· ++ "\n") ∧ ¬Tells result text := by
  apply exists_rendered_untold Bool.false_ne_true
  · decide +kernel
  · decide +kernel

end Service

end RouterTelemetry
