import Mathlib.Data.Prod.Lex
import Mathlib.Data.Set.Card
import RouterTelemetry.Proofs.ScriptRuns

/-!
# The history of a sample set

The operations on a set, in order, tell the value of every key: it is what the last of them has set
it to, with what later ones have added.  The set keeps its keys in lexicographic order, each of them
once, so that searching, counting and listing it agree.
-/

namespace RouterTelemetry

/-! ## Lexicographic order -/

/-- The key comes before another one: by its name, and under the same name by its labels, from the
first one on and each by its own name and then by its value.  A list comes before a longer one that
it begins. -/
def SampleKey.Before (key other : SampleKey) : Prop :=
  key.name < other.name ∨
    key.name = other.name ∧ List.Lex (Prod.Lex (· < ·) (· < ·)) key.labels other.labels

theorem compare_text_eq_lt_iff {text other : String} : compare text other = .lt ↔ text < other :=
  compareOfLessAndEq_eq_lt

theorem Labels.compare_eq_lt_iff {labels other : Labels} :
    labels.compare other = .lt ↔ List.Lex (Prod.Lex (· < ·) (· < ·)) labels other := by
  induction labels generalizing other with
  | nil =>
      cases other with
      | nil => simp [Labels.compare]
      | cons label other => exact iff_of_true rfl .nil
  | cons label labels ih =>
      cases other with
      | nil => simp [Labels.compare]
      | cons label' other =>
          rw [Labels.compare, Ordering.then_eq_lt, Ordering.then_eq_lt, Ordering.then_eq_eq,
            compare_text_eq_lt_iff, compare_text_eq_lt_iff, Std.LawfulEqCmp.compare_eq_iff_eq,
            Std.LawfulEqCmp.compare_eq_iff_eq, ih, List.cons_lex_cons_iff, Prod.lex_def,
            Prod.ext_iff]

theorem SampleKey.compare_eq_lt_iff {key other : SampleKey} :
    key.compare other = .lt ↔ key.Before other := by
  rw [SampleKey.compare, Ordering.then_eq_lt, compare_text_eq_lt_iff,
    Std.LawfulEqCmp.compare_eq_iff_eq, Labels.compare_eq_lt_iff, Before]

namespace SampleSet

/-! ## Operations -/

/-- An operation on a sample set. -/
inductive Operation where
  | set (key : SampleKey) (value : Float)
  | add (key : SampleKey) (amount : Float)
  | setMeasure (key : SampleKey) (measure : Measure)

/-- The key that an operation is about. -/
def Operation.key : Operation → SampleKey
  | .set key _ | .add key _ | .setMeasure key _ => key

/-- What an operation makes of a set. -/
def Operation.apply (samples : SampleSet) : Operation → SampleSet
  | .set key value => samples.set key value
  | .add key amount => samples.add key amount
  | .setMeasure key measure => samples.setMeasure key measure

/-- The set after operations, in order, from the empty one. -/
def performAll (operations : List Operation) : SampleSet :=
  operations.foldl Operation.apply empty

/-- What an operation sets a key to. -/
def Operation.sets? (key : SampleKey) : Operation → Option Float
  | .set target value => if target = key then some value else none
  | .setMeasure target measure => if target = key then measure.quantity? else none
  | .add _ _ => none

/-- What an operation adds to a key. -/
def Operation.adds? (key : SampleKey) : Operation → Option Float
  | .add target amount => if target = key then some amount else none
  | .set _ _ | .setMeasure _ _ => none

/-- What operations, in order, add to a key. -/
def added (key : SampleKey) (operations : List Operation) : List Float :=
  operations.filterMap (Operation.adds? key)

/-- Amounts added to a value, one after the other. -/
def total (value : Float) (amounts : List Float) : Float :=
  amounts.foldl (· + ·) value

/-- What operations, in order, tell about the value of a key.  There is none if no operation sets it
or adds to it.  Otherwise it is what the last one has set it to, or else zero, with what the
operations since then have added. -/
inductive Told (key : SampleKey) : List Operation → Option Float → Prop where
  | untouched {operations : List Operation} :
      (∀ operation ∈ operations, operation.sets? key = none) → added key operations = [] →
      Told key operations none
  | added {operations : List Operation} :
      (∀ operation ∈ operations, operation.sets? key = none) → added key operations ≠ [] →
      Told key operations (some (total 0.0 (added key operations)))
  | set {before after : List Operation} {operation : Operation} {value : Float} :
      operation.sets? key = some value → (∀ later ∈ after, later.sets? key = none) →
      Told key (before ++ operation :: after) (some (total value (added key after)))

/-! ## The value of a key -/

/-- What an operation leaves under a key, by what it finds there. -/
def Operation.leaves (key : SampleKey) (held : Option Float) (operation : Operation) :
    Option Float :=
  ((operation.sets? key).or ((operation.adds? key).map (held.getD 0.0 + ·))).or held

theorem Ordered.apply {samples : SampleSet} (ordered : samples.Ordered) (operation : Operation) :
    (operation.apply samples).Ordered := by
  cases operation with
  | set key value => exact ordered.set key value
  | add key amount => exact ordered.add key amount
  | setMeasure key measure => exact ordered.setMeasure key measure

theorem get?_apply {samples : SampleSet} (ordered : samples.Ordered) (operation : Operation)
    (key : SampleKey) :
    (operation.apply samples).get? key = operation.leaves key (samples.get? key) := by
  cases operation with
  | set target value =>
      refine (ordered.get?_update _ target key).trans ?_
      by_cases same : target = key <;>
        simp [Operation.leaves, Operation.sets?, Operation.adds?, same]
  | add target amount =>
      refine (ordered.get?_update _ target key).trans ?_
      by_cases same : target = key <;>
        simp [Operation.leaves, Operation.sets?, Operation.adds?, same]
  | setMeasure target measure =>
      cases measure with
      | value quantity =>
          refine (ordered.get?_update _ target key).trans ?_
          by_cases same : target = key <;>
            simp [Operation.leaves, Operation.sets?, Operation.adds?, same]
      | invalid reason =>
          change samples.get? key = _
          simp [Operation.leaves, Operation.sets?, Operation.adds?]
      | missing =>
          change samples.get? key = _
          simp [Operation.leaves, Operation.sets?, Operation.adds?]

theorem Operation.silent_of_ne {operation : Operation} {key : SampleKey}
    (ne : operation.key ≠ key) : operation.sets? key = none ∧ operation.adds? key = none := by
  cases operation with
  | set target value => exact ⟨if_neg ne, rfl⟩
  | add target amount => exact ⟨rfl, if_neg ne⟩
  | setMeasure target measure => exact ⟨if_neg ne, rfl⟩

/-- An operation leaves the value of every other key. -/
theorem get?_apply_of_ne {samples : SampleSet} (ordered : samples.Ordered) {operation : Operation}
    {key : SampleKey} (ne : operation.key ≠ key) :
    (operation.apply samples).get? key = samples.get? key := by
  obtain ⟨notSet, notAdded⟩ := Operation.silent_of_ne ne
  rw [get?_apply ordered, Operation.leaves, notSet, notAdded]
  rfl

theorem ordered_performAll (operations : List Operation) : (performAll operations).Ordered := by
  induction operations using List.reverseRecOn with
  | nil => exact ordered_empty
  | append_singleton operations operation ih =>
      rw [performAll, List.foldl_append]
      exact ih.apply operation

theorem get?_performAll (operations : List Operation) (key : SampleKey) :
    (performAll operations).get? key = operations.foldl (Operation.leaves key) none := by
  induction operations using List.reverseRecOn with
  | nil => rfl
  | append_singleton operations operation ih =>
      rw [List.foldl_append, ← ih, performAll, List.foldl_append]
      exact get?_apply (ordered_performAll operations) operation key

/-- Operations that do not set the key add to the value that it has. -/
theorem foldl_leaves_some {key : SampleKey} {operations : List Operation}
    (notSet : ∀ operation ∈ operations, operation.sets? key = none) (value : Float) :
    operations.foldl (Operation.leaves key) (some value) =
      some (total value (added key operations)) := by
  induction operations generalizing value with
  | nil => rfl
  | cons operation operations ih =>
      rw [List.forall_mem_cons] at notSet
      rw [List.foldl_cons, Operation.leaves, notSet.1, added, List.filterMap_cons]
      cases operation.adds? key with
      | none => exact ih notSet.2 value
      | some amount => exact ih notSet.2 (value + amount)

/-- Without a value they add to zero, if they add at all. -/
theorem foldl_leaves_none {key : SampleKey} {operations : List Operation}
    (notSet : ∀ operation ∈ operations, operation.sets? key = none) :
    operations.foldl (Operation.leaves key) none =
      if added key operations = [] then none else some (total 0.0 (added key operations)) := by
  induction operations with
  | nil => rfl
  | cons operation operations ih =>
      rw [List.forall_mem_cons] at notSet
      rw [List.foldl_cons, Operation.leaves, notSet.1, added, List.filterMap_cons]
      cases operation.adds? key with
      | none => exact ih notSet.2
      | some amount => exact foldl_leaves_some notSet.2 (0.0 + amount)

theorem Told.get?_eq {key : SampleKey} {operations : List Operation} {value? : Option Float}
    (told : Told key operations value?) : (performAll operations).get? key = value? := by
  rw [get?_performAll]
  cases told with
  | untouched notSet nothing => rw [foldl_leaves_none notSet, if_pos nothing]
  | added notSet something => rw [foldl_leaves_none notSet, if_neg something]
  | @set before after operation value sets last =>
      rw [List.foldl_append, List.foldl_cons, Operation.leaves, sets, Option.some_or,
        Option.some_or]
      exact foldl_leaves_some last value

theorem exists_told (key : SampleKey) (operations : List Operation) :
    ∃ value?, Told key operations value? := by
  cases last : operations.reverse.findSome? (Operation.sets? key) with
  | none =>
      have notSet : ∀ operation ∈ operations, operation.sets? key = none := fun operation member =>
        List.findSome?_eq_none_iff.mp last operation (List.mem_reverse.mpr member)
      by_cases nothing : added key operations = []
      · exact ⟨none, .untouched notSet nothing⟩
      · exact ⟨_, .added notSet nothing⟩
  | some value =>
      obtain ⟨after, operation, before, split, sets, notSet⟩ := List.findSome?_eq_some_iff.mp last
      have inOrder : operations = before.reverse ++ operation :: after.reverse := by
        rw [← List.reverse_reverse operations, split, List.reverse_append, List.reverse_cons,
          List.append_assoc, List.singleton_append]
      rw [inOrder]
      exact ⟨_, .set sets fun later member => notSet later (List.mem_reverse.mp member)⟩

theorem get?_performAll_eq_iff {key : SampleKey} {operations : List Operation}
    {value? : Option Float} :
    (performAll operations).get? key = value? ↔ Told key operations value? := by
  constructor
  · rintro rfl
    obtain ⟨value?, told⟩ := exists_told key operations
    rwa [told.get?_eq]
  · exact Told.get?_eq

/-! ## Other views of a set -/

/-- Listing a set, counting its samples and looking for a metric agree with the values of its
keys. -/
structure Consistent (samples : SampleSet) : Prop where
  listed : ∀ key value, (key, value) ∈ samples.samples ↔ samples.get? key = some value
  size_eq : {key | (samples.get? key).isSome}.encard = samples.size
  isEmpty_iff : samples.isEmpty = true ↔ ∀ key, samples.get? key = none
  containsMetric_iff : ∀ name, samples.containsMetric name = true ↔
    ∃ labels, (samples.get? ⟨name, labels⟩).isSome

theorem Ordered.isSome_get?_iff {samples : SampleSet} (ordered : samples.Ordered)
    {key : SampleKey} :
    (samples.get? key).isSome ↔ key ∈ samples.samples.map Prod.fst := by
  rw [Option.isSome_iff_exists, List.mem_map]
  constructor
  · rintro ⟨value, held⟩
    exact ⟨(key, value), ordered.get?_eq_some_iff.mp held, rfl⟩
  · rintro ⟨⟨_, value⟩, member, rfl⟩
    exact ⟨value, ordered.get?_eq_some_iff.mpr member⟩

theorem Ordered.consistent {samples : SampleSet} (ordered : samples.Ordered) :
    Consistent samples := by
  constructor
  · exact fun key value => ordered.get?_eq_some_iff.symm
  · have keys : {key | (samples.get? key).isSome} =
        ((samples.samples.map Prod.fst).toFinset : Set SampleKey) := by
      ext key
      rw [Set.mem_ofPred_eq, ordered.isSome_get?_iff, Finset.mem_coe, List.mem_toFinset]
    rw [keys, Set.encard_coe_eq_coe_finsetCard, List.toFinset_card_of_nodup ordered.keys_nodup,
      List.length_map]
    rfl
  · rw [isEmpty, List.isEmpty_iff]
    constructor
    · intro nothing key
      rw [get?, nothing]
      rfl
    · intro none
      refine List.eq_nil_iff_forall_not_mem.mpr fun sample member => ?_
      have held : samples.get? sample.1 = some sample.2 := ordered.get?_eq_some_iff.mpr member
      rw [none] at held
      cases held
  · intro name
    rw [containsMetric, List.any_eq_true]
    constructor
    · rintro ⟨⟨⟨_, labels⟩, value⟩, member, named⟩
      obtain rfl := beq_iff_eq.mp named
      refine ⟨labels, ordered.isSome_get?_iff.mpr (List.mem_map_of_mem member)⟩
    · rintro ⟨labels, held⟩
      obtain ⟨sample, member, key_eq⟩ := List.mem_map.mp (ordered.isSome_get?_iff.mp held)
      exact ⟨sample, member, by simp [key_eq]⟩

/-- After any operations from the empty set its samples come in the strict order of their keys, and
no key comes twice.  The value of a key is what the operations tell about it.  An operation changes
no other key, and a measure without a quantity changes nothing at all.  Listing and counting the
samples and looking for a metric agree with the values of the keys. -/
theorem samples_tell_history (operations : List Operation) :
    let samples := performAll operations
    samples.samples.Pairwise (fun sample later => sample.1.Before later.1) ∧
      (samples.samples.map Prod.fst).Nodup ∧
      (∀ key value?, samples.get? key = value? ↔ Told key operations value?) ∧
      (∀ (operation : Operation) (key : SampleKey), operation.key ≠ key →
        (operation.apply samples).get? key = samples.get? key) ∧
      (∀ key reason, samples.setMeasure key (.invalid reason) = samples) ∧
      (∀ key, samples.setMeasure key .missing = samples) ∧
      Consistent samples := by
  intro samples
  have ordered : samples.Ordered := ordered_performAll operations
  refine ⟨?_, ordered.keys_nodup, ?_, ?_, fun _ _ => rfl, fun _ => rfl, ordered.consistent⟩
  · exact ordered.imp fun less => SampleKey.compare_eq_lt_iff.mp less
  · exact fun key value? => get?_performAll_eq_iff
  · exact fun operation key ne => get?_apply_of_ne ordered ne

/-- Two keys under one name, of which one has the first labels of the other. -/
theorem keys_with_common_labels_apart :
    let short : SampleKey := ⟨"bbox_wan_tries", [("mode", "dns")]⟩
    let long : SampleKey := ⟨"bbox_wan_tries", [("mode", "dns"), ("port", "1")]⟩
    let later : List Operation := [.add long 3.0, .add short 2.0, .setMeasure short .missing]
    let samples := performAll ([.add short 1.0] ++ .set short 5.0 :: later)
    samples.get? short = some (total 5.0 [2.0]) ∧ samples.get? long = some (total 0.0 [3.0]) ∧
      (Operation.add long 1.0).key ≠ short ∧
      ((Operation.add long 1.0).apply samples).get? short = samples.get? short := by
  intro short long later samples
  have apart : long ≠ short := by decide
  obtain ⟨-, -, told, others, -⟩ :=
    samples_tell_history ([.add short 1.0] ++ .set short 5.0 :: later)
  have setOnce : (Operation.set short 5.0).sets? short = some 5.0 := rfl
  have notLater : ∀ operation ∈ later, operation.sets? short = none := by
    simp [later, Operation.sets?]
  have neverLong : ∀ operation ∈ [.add short 1.0] ++ Operation.set short 5.0 :: later,
      operation.sets? long = none := by
    simp [later, Operation.sets?, apart.symm]
  have ofLong : Told long ([.add short 1.0] ++ .set short 5.0 :: later) (some (total 0.0 [3.0])) :=
    .added neverLong (List.cons_ne_nil 3.0 [])
  exact ⟨(told short _).mpr (.set setOnce notLater), (told long _).mpr ofLong, apart,
    others (.add long 1.0) short apart⟩

end SampleSet

end RouterTelemetry
