import RouterTelemetry.Proofs.KeyOrder

/-!
# What a run of a script leaves

Whether a script ends before its last step, and what it reports until then, does not depend
on the set that it runs on.  What it leaves under a key depends on what was there before and
on the steps that write this key, on nothing else.  Sets in order are known by the values of
their keys, so a run is known by what it leaves under each of them.
-/

namespace RouterTelemetry

/-! ## Values of keys -/

theorem Labels.eq_iff_zip {labels wanted : Labels} :
    labels = wanted ↔ labels.length = wanted.length ∧
      ((labels.zip wanted).all fun pair =>
        pair.1.1 == pair.2.1 && pair.1.2 == pair.2.2) = true := by
  induction labels generalizing wanted with
  | nil => simp [eq_comm]
  | cons label labels ih =>
      cases wanted with
      | nil => simp
      | cons first wanted =>
          rw [List.cons.injEq, ih, List.zip_cons_cons, List.all_cons, Prod.ext_iff]
          simp [and_left_comm]

/-- The search for a key goes by its parts, the order of a set by comparison: both tell the same
keys apart. -/
@[simp]
theorem SampleKey.hasParts_iff {key other : SampleKey} :
    key.hasParts other.name other.labels = true ↔ key = other := by
  obtain ⟨name, labels⟩ := key
  obtain ⟨name', labels'⟩ := other
  rw [hasParts, Bool.and_eq_true, Bool.and_eq_true, beq_iff_eq, beq_iff_eq, and_assoc,
    ← Labels.eq_iff_zip, mk.injEq]

namespace SampleSet

variable {set other : SampleSet} {key : SampleKey}

theorem get?_eq_none_of_notMem {samples : List (SampleKey × Float)}
    (absent : ∀ sample ∈ samples, sample.1 ≠ key) : get? ⟨samples⟩ key = none := by
  rw [get?, Option.map_eq_none_iff, List.find?_eq_none]
  intro sample member
  simpa using absent sample member

theorem get?_cons_self (value : Float) (samples : List (SampleKey × Float)) :
    get? ⟨(key, value) :: samples⟩ key = some value := by
  simp [get?]

theorem get?_cons_of_ne {sample : SampleKey × Float} (ne : sample.1 ≠ key)
    (samples : List (SampleKey × Float)) :
    get? ⟨sample :: samples⟩ key = get? ⟨samples⟩ key := by
  simp [get?, ne]

/-- Nothing in an ordered list comes before its head. -/
theorem get?_eq_none_of_lt {sample : SampleKey × Float} {samples : List (SampleKey × Float)}
    (ascending : Ascending (sample :: samples)) (less : key.compare sample.1 = .lt) :
    get? ⟨sample :: samples⟩ key = none := by
  have apart {later : SampleKey × Float} (less : key.compare later.1 = .lt) : later.1 ≠ key := by
    rintro rfl
    rw [SampleKey.compare_self] at less
    cases less
  refine get?_eq_none_of_notMem (List.forall_mem_cons.mpr ⟨apart less, fun later member => ?_⟩)
  exact apart (Std.TransCmp.lt_trans less ((List.pairwise_cons.mp ascending).1 later member))

theorem get?_update_self {samples : List (SampleKey × Float)} (ascending : Ascending samples)
    (f : Option Float → Float) :
    get? ⟨update f key samples⟩ key = some (f (get? ⟨samples⟩ key)) := by
  fun_induction update f key samples with
  | case1 => exact get?_cons_self _ []
  | case2 other value samples less =>
      rw [get?_cons_self, get?_eq_none_of_lt ascending less]
  | case3 other value samples equal =>
      obtain rfl : key = other := Std.LawfulEqCmp.eq_of_compare equal
      rw [get?_cons_self, get?_cons_self]
  | case4 other value samples greater ih =>
      have ne : other ≠ key := by
        rintro rfl
        rw [SampleKey.compare_self] at greater
        cases greater
      rw [get?_cons_of_ne ne, get?_cons_of_ne ne]
      exact ih (List.pairwise_cons.mp ascending).2

theorem get?_update_of_ne {written : SampleKey} (ne : written ≠ key)
    (f : Option Float → Float) (samples : List (SampleKey × Float)) :
    get? ⟨update f written samples⟩ key = get? ⟨samples⟩ key := by
  fun_induction update f written samples with
  | case1 => exact get?_cons_of_ne ne []
  | case2 other value samples _ => exact get?_cons_of_ne ne _
  | case3 other value samples equal =>
      obtain rfl : written = other := Std.LawfulEqCmp.eq_of_compare equal
      rw [get?_cons_of_ne ne, get?_cons_of_ne ne]
  | case4 other value samples _ ih =>
      by_cases same : other = key
      · subst same
        rw [get?_cons_self, get?_cons_self]
      · rw [get?_cons_of_ne same, get?_cons_of_ne same, ih]

/-- An update writes its key and no other one. -/
theorem Ordered.get?_update (ordered : set.Ordered) (f : Option Float → Float)
    (written key : SampleKey) :
    get? ⟨update f written set.samples⟩ key =
      if written = key then some (f (set.get? key)) else set.get? key := by
  split
  next same => exact same ▸ get?_update_self ordered f
  next ne => exact get?_update_of_ne ne f _

theorem Ordered.get?_eq_some_iff (ordered : set.Ordered) {value : Float} :
    set.get? key = some value ↔ (key, value) ∈ set.samples := by
  rw [get?, Option.map_eq_some_iff]
  constructor
  · rintro ⟨⟨found, _⟩, first, rfl⟩
    have named : found = key := by simpa using List.find?_some first
    exact named ▸ List.mem_of_find?_eq_some first
  · intro member
    cases first : set.samples.find? (·.1.hasParts key.name key.labels) with
    | none => simpa using List.find?_eq_none.mp first (key, value) member
    | some sample =>
        have named : sample.1 = key := by simpa using List.find?_some first
        rw [List.inj_on_of_nodup_map ordered.keys_nodup (List.mem_of_find?_eq_some first) member
          named]
        exact ⟨_, rfl, rfl⟩

theorem Ordered.samples_nodup (ordered : set.Ordered) : set.samples.Nodup :=
  ordered.keys_nodup.of_map _

/-- Ordered sets with the same samples are one set. -/
theorem Ordered.eq_of_perm (ordered : set.Ordered) (otherOrdered : other.Ordered)
    (members : set.samples.Perm other.samples) : set = other := by
  have samples : set.samples = other.samples := by
    refine members.eq_of_pairwise ?_ ordered otherOrdered
    intro sample later _ _ less greater
    have swapped : later.1.compare sample.1 = (sample.1.compare later.1).swap :=
      Std.OrientedCmp.eq_swap
    rw [greater, less] at swapped
    cases swapped
  cases set
  cases other
  exact congrArg SampleSet.mk samples

/-- Ordered sets in which every key has the same value are one set. -/
theorem Ordered.ext (ordered : set.Ordered) (otherOrdered : other.Ordered)
    (same : ∀ key, set.get? key = other.get? key) : set = other := by
  refine ordered.eq_of_perm otherOrdered ?_
  rw [List.perm_ext_iff_of_nodup ordered.samples_nodup otherOrdered.samples_nodup]
  rintro ⟨key, value⟩
  rw [← ordered.get?_eq_some_iff, ← otherOrdered.get?_eq_some_iff, same]

end SampleSet

namespace Projection

/-! ## Failures -/

/-- Why the step ends a run. -/
def Step.failure? : Step → Option Failure
  | .stop failure => some failure
  | .note _ | .set _ _ | .count _ | .field _ _ _ => none

/-- Why a run ends before the last step. -/
def Script.failure? (script : Script) : Option Failure :=
  script.findSome? Step.failure?

namespace Script

@[simp]
theorem failure?_nil : failure? [] = none :=
  rfl

@[simp]
theorem failure?_cons (step : Step) (script : Script) :
    failure? (step :: script) = step.failure?.or (failure? script) := by
  rw [failure?, List.findSome?_cons]
  cases step.failure? <;> rfl

@[simp]
theorem failure?_append (script later : Script) :
    failure? (script ++ later) = (failure? script).or (failure? later) :=
  List.findSome?_append

theorem failure?_eq_none_iff {script : Script} :
    failure? script = none ↔ ∀ step ∈ script, step.failure? = none :=
  List.findSome?_eq_none_iff

theorem failure?_flatMap {α : Type} (list : List α) (script : α → Script) :
    failure? (list.flatMap script) = list.findSome? fun a => failure? (script a) := by
  induction list with
  | nil => rfl
  | cons a list ih =>
      rw [List.flatMap_cons, failure?_append, ih, List.findSome?_cons]
      cases failure? (script a) <;> rfl

@[simp]
theorem failure?_inGroup (script : Script) (group : Group) :
    failure? (script.inGroup group) = (failure? script).map (.inGroup group) := by
  induction script with
  | nil => rfl
  | cons step script ih =>
      have cons : inGroup group (step :: script) =
          inGroup group [step] ++ inGroup group script := rfl
      rw [cons, failure?_append, ih, failure?_cons]
      cases step <;> rfl

theorem failure_run (samples : SampleSet) (script : Script) :
    (run samples script).failure = script.failure? := by
  induction script generalizing samples with
  | nil => rfl
  | cons step script ih =>
      cases step with
      | note event => exact ih samples
      | set key value => exact ih _
      | count key => exact ih _
      | field key measure path => exact ih _
      | stop failure => rfl

/-- A script after one that runs to its last step goes on with the set that it finds. -/
theorem samples_run_append {script : Script} (going : script.failure? = none)
    (samples : SampleSet) (later : Script) :
    (run samples (script ++ later)).samples = (run (run samples script).samples later).samples := by
  induction script generalizing samples with
  | nil => rfl
  | cons step script ih =>
      rw [failure?_cons, Option.or_eq_none_iff] at going
      cases step with
      | note event => exact ih going.2 samples
      | set key value => exact ih going.2 _
      | count key => exact ih going.2 _
      | field key measure path => exact ih going.2 _
      | stop failure => cases going.1

end Script

/-- A projection fails as its script does. -/
theorem project_eq_error_iff {snapshot : Snapshot} {failure : Failure} :
    (project snapshot).1 = .error failure ↔ (wholeScript snapshot).failure? = some failure := by
  rw [project, ← Script.failure_run {}]
  cases ((wholeScript snapshot).run {}).failure <;> simp

theorem project_eq_ok_iff {snapshot : Snapshot} {samples : SampleSet} :
    (project snapshot).1 = .ok samples ↔
      (wholeScript snapshot).failure? = none ∧
        ((wholeScript snapshot).run {}).samples = samples := by
  rw [project, ← Script.failure_run {}]
  cases ((wholeScript snapshot).run {}).failure <;> simp

/-- The events of a projection are those of its run, whatever its result. -/
theorem events_project (snapshot : Snapshot) :
    (project snapshot).2 = ((wholeScript snapshot).run {}).events := by
  rw [project]
  cases ((wholeScript snapshot).run {}).failure <;> rfl

/-! ## Events -/

/-- What the step reports. -/
def Step.event? : Step → Option Event
  | .note event => some event
  | .field key measure path => measure.skipped? key.name path
  | .set _ _ | .count _ | .stop _ => none

namespace Script

/-- A run to the last step reports what the steps report, in order. -/
theorem events_run {script : Script} (going : script.failure? = none) (samples : SampleSet) :
    (run samples script).events = script.filterMap Step.event? := by
  induction script generalizing samples with
  | nil => rfl
  | cons step script ih =>
      rw [failure?_cons, Option.or_eq_none_iff] at going
      cases step with
      | note event => rw [run, ih going.2]; rfl
      | set key value => exact ih going.2 _
      | count key => exact ih going.2 _
      | field key measure path =>
          rw [run, ih going.2, List.filterMap_cons]
          dsimp only [Step.event?]
          cases measure.skipped? key.name path <;> rfl
      | stop failure => cases going.1

end Script

/-! ## What is left under a key -/

/-- The key that the step may write. -/
def Step.key? : Step → Option SampleKey
  | .set key _ | .count key | .field key _ _ => some key
  | .note _ | .stop _ => none

/-- What the step leaves under a key, by what it finds there. -/
def Step.leaves (key : SampleKey) (held : Option Float) : Step → Option Float
  | .set written value => if written = key then some value else held
  | .count written => if written = key then some (held.getD 0.0 + 1.0) else held
  | .field written measure _ => if written = key then measure.quantity?.or held else held
  | .note _ | .stop _ => held

/-- A step that does not write the key leaves what it finds. -/
theorem Step.leaves_of_key?_ne {step : Step} {key : SampleKey} (ne : step.key? ≠ some key)
    (held : Option Float) : step.leaves key held = held := by
  cases step with
  | note event => rfl
  | set written value => exact if_neg fun same => ne (congrArg some same)
  | count written => exact if_neg fun same => ne (congrArg some same)
  | field written measure path => exact if_neg fun same => ne (congrArg some same)
  | stop failure => rfl

namespace Script

/-- The keys that the script may write, in order. -/
def keys (script : Script) : List SampleKey :=
  script.filterMap Step.key?

theorem keys_append (script later : Script) : keys (script ++ later) = keys script ++ keys later :=
  List.filterMap_append

/-- What the script leaves under a key, by what it finds there. -/
def leaves (key : SampleKey) (held : Option Float) (script : Script) : Option Float :=
  script.foldl (Step.leaves key) held

theorem leaves_append (key : SampleKey) (held : Option Float) (script later : Script) :
    leaves key held (script ++ later) = leaves key (leaves key held script) later :=
  List.foldl_append

/-- A script that does not write the key leaves what it finds. -/
theorem leaves_of_notMem {script : Script} {key : SampleKey} (unwritten : key ∉ script.keys)
    (held : Option Float) : leaves key held script = held := by
  induction script generalizing held with
  | nil => rfl
  | cons step script ih =>
      have apart : step.key? ≠ some key ∧ key ∉ keys script := by
        simp only [keys, List.mem_filterMap, List.exists_mem_cons_iff, not_or] at unwritten ⊢
        exact unwritten
      exact (ih apart.2 _).trans (Step.leaves_of_key?_ne apart.1 held)

/-- Where no other step writes the key, it is left as one step leaves it. -/
theorem leaves_of_once {before after : Script} {step : Step} {key : SampleKey}
    (notBefore : key ∉ keys before) (notAfter : key ∉ keys after) (held : Option Float) :
    leaves key held (before ++ step :: after) = step.leaves key held := by
  rw [leaves_append, leaves_of_notMem notBefore]
  exact leaves_of_notMem notAfter _

/-- The value of a key after a run to the last step. -/
theorem get?_run {script : Script} (going : script.failure? = none) {samples : SampleSet}
    (ordered : samples.Ordered) (key : SampleKey) :
    (run samples script).samples.get? key = leaves key (samples.get? key) script := by
  induction script generalizing samples with
  | nil => rfl
  | cons step script ih =>
      rw [failure?_cons, Option.or_eq_none_iff] at going
      cases step with
      | note event => exact ih going.2 ordered
      | set target value =>
          exact (ih going.2 (ordered.set target value)).trans
            (congrArg (leaves key · script) (ordered.get?_update _ target key))
      | count target =>
          exact (ih going.2 (ordered.add target 1.0)).trans
            (congrArg (leaves key · script) (ordered.get?_update _ target key))
      | field target measure path =>
          refine (ih going.2 (ordered.setMeasure target measure)).trans
            (congrArg (leaves key · script) ?_)
          cases measure with
          | value quantity => exact ordered.get?_update _ target key
          | invalid reason => exact (ite_self _).symm
          | missing => exact (ite_self _).symm
      | stop failure => cases going.1

theorem ordered_run_empty (script : Script) : (run {} script).samples.Ordered :=
  run_ordered SampleSet.ordered_empty script

/-- The value of a key after a run to the last step, on an empty set. -/
theorem get?_run_empty {script : Script} (going : script.failure? = none) (key : SampleKey) :
    (run {} script).samples.get? key = leaves key none script :=
  get?_run going SampleSet.ordered_empty key

end Script

end Projection

end RouterTelemetry
