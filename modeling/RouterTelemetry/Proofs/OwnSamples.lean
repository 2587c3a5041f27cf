import RouterTelemetry.Proofs.ScriptRuns

/-!
# The samples of single steps

A key that one step of a script writes, and no other, is left with what this step records.
Where no key of a part of a script is written twice, the samples of the run under the keys of
this part are therefore those of its steps, one by one.
-/

namespace RouterTelemetry.Projection

/-- The sample that the step records where there is none yet. -/
def Step.sample? : Step → Option (SampleKey × Float)
  | .set key value => some (key, value)
  | .count key => some (key, 0.0 + 1.0)
  | .field key measure _ => measure.quantity?.map (key, ·)
  | .note _ | .stop _ => none

theorem Step.key?_of_sample? {step : Step} {key : SampleKey} {value : Float}
    (recorded : step.sample? = some (key, value)) : step.key? = some key := by
  cases step with
  | note event => cases recorded
  | set target written => cases recorded; rfl
  | count target => cases recorded; rfl
  | field target measure path =>
      obtain ⟨quantity, _, same⟩ := Option.map_eq_some_iff.mp recorded
      cases same
      rfl
  | stop failure => cases recorded

/-- Under its own key a step leaves what it records. -/
theorem Step.leaves_none_eq_some_iff {step : Step} {key : SampleKey} {value : Float}
    (own : step.key? = some key) :
    step.leaves key none = some value ↔ step.sample? = some (key, value) := by
  cases step with
  | note event => cases own
  | set target written => cases own; simp [leaves, sample?]
  | count target => cases own; simp [leaves, sample?]
  | field target measure path => cases own; simp [leaves, sample?]
  | stop failure => cases own

namespace Script

/-- The samples of the steps, each on its own. -/
def ownSamples (script : Script) : List (SampleKey × Float) :=
  script.filterMap Step.sample?

/-- A resource has the keys of its first page, if it has one. -/
theorem exists_mem_keys_of_withFirst {α : Type} {pages : List α} {path : String}
    {steps : α → Script} {key : SampleKey} (member : key ∈ keys (withFirst pages path steps)) :
    ∃ page, key ∈ keys (steps page) := by
  cases pages with
  | nil => cases member
  | cons page rest => exact ⟨page, member⟩

theorem ownSamples_append (script later : Script) :
    ownSamples (script ++ later) = ownSamples script ++ ownSamples later :=
  List.filterMap_append

/-- Samples of single steps are under the keys of the script, in order. -/
theorem ownSamples_keys_sublist (script : Script) :
    ((ownSamples script).map Prod.fst).Sublist (keys script) := by
  induction script with
  | nil => exact .slnil
  | cons step script ih =>
      cases recorded : step.sample? with
      | none =>
          rw [ownSamples, List.filterMap_cons_none recorded]
          exact ih.trans ((List.sublist_cons_self step script).filterMap _)
      | some sample =>
          obtain ⟨key, value⟩ := sample
          rw [ownSamples, List.filterMap_cons_some recorded, keys,
            List.filterMap_cons_some (Step.key?_of_sample? recorded)]
          exact ih.cons_cons key

theorem key_mem_of_mem_ownSamples {script : Script} {sample : SampleKey × Float}
    (member : sample ∈ ownSamples script) : sample.1 ∈ keys script :=
  (ownSamples_keys_sublist script).subset (List.mem_map_of_mem member)

/-- A script that writes a key at most once leaves it the sample of that step. -/
theorem leaves_eq_some_iff_mem {script : Script} {key : SampleKey}
    (once : (keys script).count key ≤ 1) {value : Float} :
    leaves key none script = some value ↔ (key, value) ∈ ownSamples script := by
  by_cases written : key ∈ keys script
  · obtain ⟨step, inScript, own⟩ := List.mem_filterMap.mp written
    obtain ⟨before, after, rfl⟩ := List.append_of_mem inScript
    have parts : keys (before ++ step :: after) = keys before ++ key :: keys after := by
      rw [keys_append, keys, keys, List.filterMap_cons_some own]
      rfl
    rw [parts, List.count_append, List.count_cons_self] at once
    have notBefore : key ∉ keys before := List.count_eq_zero.mp (by omega)
    have notAfter : key ∉ keys after := List.count_eq_zero.mp (by omega)
    rw [leaves_of_once notBefore notAfter, Step.leaves_none_eq_some_iff own, ownSamples_append,
      List.mem_append]
    constructor
    · intro recorded
      exact .inr (List.mem_filterMap.mpr ⟨step, List.mem_cons_self, recorded⟩)
    · rintro (early | late)
      · exact absurd (key_mem_of_mem_ownSamples early) notBefore
      · obtain ⟨other, inRest, recorded⟩ := List.mem_filterMap.mp late
        rcases List.mem_cons.mp inRest with rfl | inAfter
        · exact recorded
        · have late := List.mem_filterMap.mpr ⟨other, inAfter, recorded⟩
          exact absurd (key_mem_of_mem_ownSamples late) notAfter
  · rw [leaves_of_notMem written]
    exact iff_of_false (Option.some_ne_none value).symm
      fun member => written (key_mem_of_mem_ownSamples member)

/-- The samples of a run under the keys of one part of its script, which writes no key twice
and no key that another part writes, are those of the steps of this part. -/
theorem filter_samples_run_perm {before middle after : Script} (selects : SampleKey → Bool)
    (going : failure? (before ++ middle ++ after) = none)
    (notBefore : ∀ key ∈ keys before, selects key = false)
    (notAfter : ∀ key ∈ keys after, selects key = false)
    (within : ∀ key ∈ keys middle, selects key = true) (distinct : (keys middle).Nodup) :
    ((run {} (before ++ middle ++ after)).samples.samples.filter (selects ·.1)).Perm
      (ownSamples middle) := by
  have ordered := ordered_run_empty (before ++ middle ++ after)
  have unselected {script : Script} {key : SampleKey}
      (none : ∀ key ∈ keys script, selects key = false)
      (selected : selects key = true) : key ∉ keys script := by
    intro member
    rw [none key member] at selected
    cases selected
  rw [List.perm_ext_iff_of_nodup (ordered.samples_nodup.filter _)
    ((distinct.sublist (ownSamples_keys_sublist middle)).of_map _)]
  rintro ⟨key, value⟩
  rw [List.mem_filter, ← ordered.get?_eq_some_iff, get?_run_empty going]
  by_cases selected : selects key = true
  · have early := unselected notBefore selected
    have late := unselected notAfter selected
    have once : (keys (before ++ middle ++ after)).count key ≤ 1 := by
      rw [keys_append, keys_append, List.count_append, List.count_append,
        List.count_eq_zero.mpr early, List.count_eq_zero.mpr late]
      simpa using List.nodup_iff_count_le_one.mp distinct key
    rw [leaves_eq_some_iff_mem once, ownSamples_append, ownSamples_append, List.mem_append,
      List.mem_append]
    constructor
    · rintro ⟨(inBefore | inMiddle) | inAfter, -⟩
      · exact absurd (key_mem_of_mem_ownSamples inBefore) early
      · exact inMiddle
      · exact absurd (key_mem_of_mem_ownSamples inAfter) late
    · exact fun inMiddle => ⟨.inl (.inr inMiddle), selected⟩
  · exact iff_of_false (fun both => selected both.2)
      fun member => selected (within key (key_mem_of_mem_ownSamples member))

/-- A script that writes no key twice is left with the samples of its steps. -/
theorem samples_run_perm {script : Script} (going : failure? script = none)
    (distinct : (keys script).Nodup) :
    (run {} script).samples.samples.Perm (ownSamples script) := by
  have whole : failure? ([] ++ script ++ []) = none := by rwa [List.nil_append, List.append_nil]
  have alone := filter_samples_run_perm (fun _ => true) whole (List.forall_mem_nil _)
    (List.forall_mem_nil _) (fun _ _ => rfl) distinct
  rwa [List.filter_true, List.nil_append, List.append_nil] at alone

/-! ## Runs that end early -/

/-- Behind a stop nothing is run. -/
theorem run_append_of_stopped {script later : Script} (stopped : script.failure? ≠ none)
    (samples : SampleSet) : run samples (script ++ later) = run samples script := by
  induction script generalizing samples with
  | nil => exact absurd rfl stopped
  | cons step script ih =>
      cases step with
      | note event => simp only [List.cons_append, run, ih stopped]
      | set key value => exact ih stopped _
      | count key => exact ih stopped _
      | field key measure path => simp only [List.cons_append, run, ih stopped]
      | stop failure => rfl

/-- A run leaves a key alone that its script does not write, whether it stops or not. -/
theorem get?_run_of_notMem {script : Script} {key : SampleKey} (unwritten : key ∉ keys script)
    (samples : SampleSet) : (run samples script).samples.get? key = samples.get? key := by
  induction script generalizing samples with
  | nil => rfl
  | cons step script ih =>
      have apart : step.key? ≠ some key ∧ key ∉ keys script := by
        simp only [keys, List.mem_filterMap, List.exists_mem_cons_iff, not_or] at unwritten ⊢
        exact unwritten
      have other {target : SampleKey} (own : step.key? = some target) : target ≠ key :=
        fun same => apart.1 (own.trans (congrArg some same))
      cases step with
      | note event => exact ih apart.2 samples
      | set target value =>
          exact (ih apart.2 _).trans (SampleSet.get?_update_of_ne (other rfl) _ _)
      | count target =>
          exact (ih apart.2 _).trans (SampleSet.get?_update_of_ne (other rfl) _ _)
      | field target measure path =>
          refine (ih apart.2 _).trans ?_
          rw [SampleSet.setMeasure]
          cases measure.quantity? with
          | none => rfl
          | some quantity => exact SampleSet.get?_update_of_ne (other rfl) _ _
      | stop failure => rfl

/-- A run has samples under the keys of its script only. -/
theorem mem_keys_of_mem_run {script : Script} {sample : SampleKey × Float}
    (member : sample ∈ (run {} script).samples.samples) : sample.1 ∈ keys script := by
  by_contra unwritten
  have held := (ordered_run_empty script).get?_eq_some_iff.mpr member
  rw [get?_run_of_notMem unwritten] at held
  cases held

end Script

end RouterTelemetry.Projection
