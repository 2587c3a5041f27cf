import Mathlib.Data.List.Basic
import Mathlib.Data.List.Nodup
import Mathlib.Data.List.Pairwise
import RouterTelemetry.Projection.Whole

/-!
# The order of keys

Keys are compared lexicographically, so the comparison is a strict total order, and every
way of recording a sample keeps the samples of a set strictly ordered.  A set therefore
has one sample for a key, and the first sample with some property is the least one.
-/

namespace RouterTelemetry

/-- A label with its value is compared by the label first. -/
abbrev comparePair : String × String → String × String → Ordering :=
  compareLex (compareOn Prod.fst) (compareOn Prod.snd)

instance : Std.LawfulEqCmp comparePair where
  eq_of_compare {pair other} same := by
    have parts := compareLex_eq_eq.mp same
    exact Prod.ext (Std.LawfulEqCmp.eq_of_compare parts.1) (Std.LawfulEqCmp.eq_of_compare parts.2)

theorem Labels.compare_eq_compareLex : Labels.compare = List.compareLex comparePair := by
  funext labels other
  induction labels generalizing other with
  | nil => cases other <;> rfl
  | cons pair labels ih =>
      cases other with
      | nil => rfl
      | cons pair' other => rw [Labels.compare, List.compareLex_cons_cons, ih]; rfl

instance : Std.TransCmp Labels.compare := by
  rw [Labels.compare_eq_compareLex]
  infer_instance

instance : Std.LawfulEqCmp Labels.compare := by
  rw [Labels.compare_eq_compareLex]
  infer_instance

/-- Keys compared by their labels alone. -/
abbrev SampleKey.compareLabels (key other : SampleKey) : Ordering :=
  key.labels.compare other.labels

instance : Std.TransCmp SampleKey.compareLabels where
  eq_swap {key other} :=
    (Std.OrientedCmp.eq_swap :
      key.labels.compare other.labels = (other.labels.compare key.labels).swap)
  isLE_trans {key _ third} first second :=
    (Std.TransCmp.isLE_trans first second : (key.labels.compare third.labels).isLE = true)

instance : Std.TransCmp SampleKey.compare :=
  inferInstanceAs (Std.TransCmp
    (compareLex (compareOn SampleKey.name) SampleKey.compareLabels))

instance : Std.LawfulEqCmp SampleKey.compare where
  eq_of_compare {key other} same := by
    obtain ⟨name, labels⟩ := key
    obtain ⟨name', labels'⟩ := other
    obtain ⟨names, rest⟩ := Ordering.then_eq_eq.mp same
    have sameName : name = name' := Std.LawfulEqCmp.eq_of_compare names
    have sameLabels : labels = labels' := Std.LawfulEqCmp.eq_of_compare rest
    rw [sameName, sameLabels]

@[simp]
theorem SampleKey.compare_self (key : SampleKey) : key.compare key = .eq :=
  Std.ReflCmp.compare_self

theorem SampleKey.compare_eq_lt_of_gt {key other : SampleKey}
    (greater : key.compare other = .gt) : other.compare key = .lt :=
  Std.OrientedCmp.gt_iff_lt.mp greater

/-! ## Ordered sets -/

namespace SampleSet

/-- Samples come in the strict order of their keys. -/
def Ascending (samples : List (SampleKey × Float)) : Prop :=
  samples.Pairwise fun sample later => sample.1.compare later.1 = .lt

/-- The samples of the set come in the strict order of their keys. -/
def Ordered (set : SampleSet) : Prop :=
  Ascending set.samples

theorem key_of_mem_update {f : Option Float → Float} {key : SampleKey}
    {samples : List (SampleKey × Float)} {sample : SampleKey × Float}
    (member : sample ∈ update f key samples) :
    sample.1 = key ∨ ∃ held ∈ samples, sample.1 = held.1 := by
  induction samples with
  | nil => exact .inl (by rw [List.mem_singleton.mp member])
  | cons head rest ih =>
      obtain ⟨other, value⟩ := head
      unfold update at member
      split at member
      · rcases List.mem_cons.mp member with rfl | later
        · exact .inl rfl
        · exact .inr ⟨sample, later, rfl⟩
      · rcases List.mem_cons.mp member with rfl | later
        · exact .inr ⟨_, List.mem_cons_self, rfl⟩
        · exact .inr ⟨sample, List.mem_cons_of_mem _ later, rfl⟩
      · rcases List.mem_cons.mp member with rfl | later
        · exact .inr ⟨_, List.mem_cons_self, rfl⟩
        · rcases ih later with same | ⟨held, heldMember, same⟩
          · exact .inl same
          · exact .inr ⟨held, List.mem_cons_of_mem _ heldMember, same⟩

/-- An update puts its key where it belongs. -/
theorem ascending_update {f : Option Float → Float} {key : SampleKey}
    {samples : List (SampleKey × Float)} (ascending : Ascending samples) :
    Ascending (update f key samples) := by
  induction samples with
  | nil => exact List.pairwise_singleton _ _
  | cons head rest ih =>
      obtain ⟨other, value⟩ := head
      obtain ⟨first, tail⟩ := List.pairwise_cons.mp ascending
      unfold update
      split
      next less =>
        refine List.pairwise_cons.mpr ⟨?_, ascending⟩
        intro sample member
        rcases List.mem_cons.mp member with rfl | later
        · exact less
        · exact Std.TransCmp.lt_trans less (first sample later)
      next => exact List.pairwise_cons.mpr ⟨first, tail⟩
      next greater =>
        refine List.pairwise_cons.mpr ⟨?_, ih tail⟩
        intro sample member
        rcases key_of_mem_update member with same | ⟨held, heldMember, same⟩
        · exact same ▸ SampleKey.compare_eq_lt_of_gt greater
        · exact same ▸ first held heldMember

theorem ordered_empty : empty.Ordered :=
  List.Pairwise.nil

theorem Ordered.set {set : SampleSet} (ordered : set.Ordered) (key : SampleKey) (value : Float) :
    (set.set key value).Ordered :=
  ascending_update ordered

theorem Ordered.add {set : SampleSet} (ordered : set.Ordered) (key : SampleKey)
    (amount : Float) : (set.add key amount).Ordered :=
  ascending_update ordered

theorem Ordered.setMeasure {set : SampleSet} (ordered : set.Ordered) (key : SampleKey)
    (measure : Measure) : (set.setMeasure key measure).Ordered := by
  unfold SampleSet.setMeasure
  cases measure.quantity? with
  | none => exact ordered
  | some quantity => exact ordered.set key quantity

/-- A key has one sample. -/
theorem Ordered.keys_nodup {set : SampleSet} (ordered : set.Ordered) :
    (set.samples.map Prod.fst).Nodup := by
  refine List.pairwise_map.mpr (ordered.imp ?_)
  intro sample later less same
  rw [same, SampleKey.compare_self] at less
  cases less

/-- Whatever comes after a sample has a greater key. -/
theorem Ordered.compare_of_split {set : SampleSet} (ordered : set.Ordered)
    {before after : List (SampleKey × Float)} {sample other : SampleKey × Float}
    (split : set.samples = before ++ sample :: after) (later : other ∈ after) :
    sample.1.compare other.1 = .lt := by
  have tail : Ascending (sample :: after) :=
    (List.pairwise_append.mp (split ▸ ordered : Ascending (before ++ sample :: after))).2.1
  exact (List.pairwise_cons.mp tail).1 other later

end SampleSet

/-! ## Projections -/

namespace Projection

/-- A script leaves an ordered set ordered. -/
theorem Script.run_ordered {samples : SampleSet} (ordered : samples.Ordered) (script : Script) :
    (run samples script).samples.Ordered := by
  induction script generalizing samples with
  | nil => exact ordered
  | cons step script ih =>
      cases step with
      | note event => exact ih ordered
      | set key value => exact ih (ordered.set key value)
      | count key => exact ih (ordered.add key 1.0)
      | field key measure path => exact ih (ordered.setMeasure key measure)
      | stop failure => exact ordered

/-- The samples of a successful projection are those that its script leaves. -/
theorem samples_of_project_eq_ok {snapshot : Snapshot} {samples : SampleSet}
    (projected : (project snapshot).1 = .ok samples) :
    samples = ((wholeScript snapshot).run {}).samples := by
  unfold project at projected
  cases failed : ((wholeScript snapshot).run {}).failure with
  | none =>
      simp only [failed] at projected
      exact (Except.ok.inj projected).symm
  | some failure =>
      simp only [failed] at projected
      cases projected

theorem project_ordered {snapshot : Snapshot} {samples : SampleSet}
    (projected : (project snapshot).1 = .ok samples) : samples.Ordered :=
  samples_of_project_eq_ok projected ▸ Script.run_ordered SampleSet.ordered_empty _

end Projection

end RouterTelemetry
