import Mathlib.Data.List.Nodup
import Mathlib.Data.List.Perm.Subperm
import RouterTelemetry.Proofs.KeyOrder
import RouterTelemetry.Proofs.Publication

/-!
# Which sample sets are admitted

A set is admitted exactly when the table describes every one of its keys: there is a
family of that name, and the labels of the key are named like those of the family, in any
order.  A set that is not admitted leaves the registry as it was, and the first bad sample
is the cause.  An admitted set is written to its end.
-/

namespace RouterTelemetry

section

variable {α β ε : Type} {f : α → Except ε β}

theorem mapM_eq_ok_map {g : α → β} {list : List α} (each : ∀ a ∈ list, f a = .ok (g a)) :
    list.mapM f = .ok (list.map g) := by
  induction list with
  | nil => rfl
  | cons a rest ih =>
      rw [List.mapM_cons, each a List.mem_cons_self,
        ih fun b member => each b (List.mem_cons_of_mem a member)]
      rfl

/-- There are results exactly when every element has one. -/
theorem exists_mapM_eq_ok_iff {list : List α} :
    (∃ results, list.mapM f = .ok results) ↔ ∀ a ∈ list, ∃ b, f a = .ok b := by
  constructor
  · rintro ⟨results, given⟩
    have related := forall₂_of_mapM_eq_ok given
    clear given
    induction related with
    | nil => exact nofun
    | @cons a b _ _ first _ ih =>
        rintro c (_ | ⟨_, member⟩)
        · exact ⟨b, first⟩
        · exact ih c member
  · intro each
    induction list with
    | nil => exact ⟨[], rfl⟩
    | cons a rest ih =>
        obtain ⟨b, given⟩ := each a List.mem_cons_self
        obtain ⟨bs, later⟩ := ih fun c member => each c (List.mem_cons_of_mem a member)
        exact ⟨b :: bs, by rw [List.mapM_cons, given, later]; rfl⟩

/-- The first element without a result is the cause of the failure. -/
theorem mapM_eq_error_iff {list : List α} {fault : ε} :
    list.mapM f = .error fault ↔
      ∃ before a after, list = before ++ a :: after ∧ (∀ b ∈ before, ∃ c, f b = .ok c) ∧
        f a = .error fault := by
  constructor
  · intro failed
    induction list with
    | nil => cases failed
    | cons a rest ih =>
        rw [List.mapM_cons] at failed
        cases first : f a with
        | error cause =>
            rw [first] at failed
            cases failed
            exact ⟨[], a, rest, rfl, nofun, first⟩
        | ok b =>
            cases later : rest.mapM f with
            | ok bs =>
                rw [first, later] at failed
                cases failed
            | error cause =>
                rw [first, later] at failed
                cases failed
                obtain ⟨before, c, after, rfl, fine, given⟩ := ih later
                refine ⟨a :: before, c, after, rfl, ?_, given⟩
                rintro d (_ | ⟨_, member⟩)
                · exact ⟨b, first⟩
                · exact fine d member
  · rintro ⟨before, a, after, rfl, fine, given⟩
    induction before with
    | nil => rw [List.nil_append, List.mapM_cons, given]; rfl
    | cons b before ih =>
        obtain ⟨c, first⟩ := fine b List.mem_cons_self
        rw [List.cons_append, List.mapM_cons, first,
          ih fun d member => fine d (List.mem_cons_of_mem b member)]
        rfl

end

/-! ## The table -/

theorem fullNames_nodup : ((Family.up :: families).map Family.fullName).Nodup := by
  decide +kernel

theorem Family.labels_nodup {family : Family} (member : family ∈ families) :
    family.labels.Nodup := by
  have table : ∀ family ∈ families, family.labels.Nodup := by decide +kernel
  exact table family member

/-- A full name belongs to one family. -/
theorem Family.find?_eq_some_iff {name : String} {family : Family} :
    find? name = some family ↔ family ∈ families ∧ family.fullName = name := by
  constructor
  · intro found
    exact ⟨List.mem_of_find?_eq_some found, by simpa using List.find?_some found⟩
  · rintro ⟨member, rfl⟩
    cases found : find? family.fullName with
    | none => simpa using List.find?_eq_none.mp found family member
    | some other =>
        have same : other.fullName = family.fullName := by simpa using List.find?_some found
        rw [List.inj_on_of_nodup_map fullNames_nodup.of_cons (List.mem_of_find?_eq_some found)
          member same]

theorem Family.find?_eq_none_iff {name : String} :
    find? name = none ↔ ∀ family ∈ families, family.fullName ≠ name := by
  simp [find?, List.find?_eq_none]

/-! ## Keys -/

namespace SampleKey

/-- The names of the labels of a key. -/
def labelNames (key : SampleKey) : List String :=
  key.labels.map Prod.fst

/-- The table has a family of this name, with labels of these names. -/
def Described (key : SampleKey) : Prop :=
  ∃ family ∈ families, family.fullName = key.name ∧ key.labelNames.Perm family.labels

/-- What is wrong with a key. -/
inductive Faulty (key : SampleKey) : Rejection → Prop where
  | unknownMetric (unknown : ∀ family ∈ families, family.fullName ≠ key.name) :
      Faulty key (.unknownMetric key.name)
  | labelCount (family : Family) (member : family ∈ families) (named : family.fullName = key.name)
      (count : key.labels.length ≠ family.labels.length) :
      Faulty key (.labelCount key.name family.labels key.labels)
  /-- The first label of the family that the key does not have. -/
  | missingLabel (family : Family) (member : family ∈ families)
      (named : family.fullName = key.name) (count : key.labels.length = family.labels.length)
      (before : List String) (label : String) (after : List String)
      (split : family.labels = before ++ label :: after)
      (present : ∀ earlier ∈ before, earlier ∈ key.labelNames)
      (missing : label ∉ key.labelNames) : Faulty key (.missingLabel key.name label)

theorem exists_labelValue_iff {key : SampleKey} {label : String} :
    (∃ value, key.labelValue label = .ok value) ↔ label ∈ key.labelNames := by
  unfold labelValue labelNames
  cases found : key.labels.find? (·.1 == label) with
  | none =>
      have absent := List.find?_eq_none.mp found
      simp only [beq_iff_eq] at absent
      constructor
      · rintro ⟨value, given⟩
        cases given
      · intro member
        obtain ⟨pair, pairMember, named⟩ := List.mem_map.mp member
        exact absurd named (absent pair pairMember)
  | some pair =>
      have named : pair.1 = label := by simpa using List.find?_some found
      exact ⟨fun _ => List.mem_map.mpr ⟨pair, List.mem_of_find?_eq_some found, named⟩,
        fun _ => ⟨pair.2, rfl⟩⟩

theorem labelValue_eq_error_iff {key : SampleKey} {label : String} {rejection : Rejection} :
    key.labelValue label = .error rejection ↔
      label ∉ key.labelNames ∧ rejection = .missingLabel key.name label := by
  rw [← exists_labelValue_iff]
  unfold labelValue
  cases key.labels.find? (·.1 == label) with
  | none => simp [eq_comm]
  | some pair => simp

end SampleKey

/-- Names of equal number, among which there is every one of some distinct labels, are
those labels. -/
theorem perm_of_nodup_of_length_eq {labels names : List String} (distinct : labels.Nodup)
    (count : names.length = labels.length) (present : ∀ label ∈ labels, label ∈ names) :
    names.Perm labels :=
  ((distinct.subperm present).perm_of_length_le (Nat.le_of_eq count)).symm

/-! ## Samples -/

namespace Series

variable {key : SampleKey} {value : Float}

/-- The series of a sample under a known name. -/
theorem ofSample_of_named {family : Family} (member : family ∈ families)
    (named : family.fullName = key.name) :
    ofSample key value =
      if key.labels.length ≠ family.labels.length then
        .error (.labelCount key.name family.labels key.labels)
      else
        (family.labels.mapM key.labelValue).map fun labelValues =>
          ⟨family, labelValues, value⟩ := by
  rw [ofSample, Family.find?_eq_some_iff.mpr ⟨member, named⟩]

/-- A sample is refused for what is wrong with its key. -/
theorem ofSample_eq_error_iff {rejection : Rejection} :
    ofSample key value = .error rejection ↔ key.Faulty rejection := by
  constructor
  · intro refused
    cases found : Family.find? key.name with
    | none =>
        rw [ofSample, found] at refused
        cases refused
        exact .unknownMetric (Family.find?_eq_none_iff.mp found)
    | some family =>
        obtain ⟨member, named⟩ := Family.find?_eq_some_iff.mp found
        rw [ofSample_of_named member named] at refused
        split at refused
        next count =>
          cases refused
          exact .labelCount family member named count
        next count =>
          cases values : family.labels.mapM key.labelValue with
          | ok labelValues =>
              rw [values] at refused
              cases refused
          | error cause =>
              rw [values] at refused
              cases refused
              obtain ⟨before, label, after, split, present, given⟩ := mapM_eq_error_iff.mp values
              obtain ⟨missing, rfl⟩ := SampleKey.labelValue_eq_error_iff.mp given
              exact .missingLabel family member named (not_not.mp count) before label after split
                (fun earlier inside => SampleKey.exists_labelValue_iff.mp (present earlier inside))
                missing
  · intro faulty
    cases faulty with
    | unknownMetric unknown => rw [ofSample, Family.find?_eq_none_iff.mpr unknown]
    | labelCount family member named count => rw [ofSample_of_named member named, if_pos count]
    | missingLabel family member named count before label after split present missing =>
        have values : family.labels.mapM key.labelValue = .error (.missingLabel key.name label) :=
          mapM_eq_error_iff.mpr ⟨before, label, after, split,
            fun earlier inside => SampleKey.exists_labelValue_iff.mpr (present earlier inside),
            SampleKey.labelValue_eq_error_iff.mpr ⟨missing, rfl⟩⟩
        rw [ofSample_of_named member named, if_neg (not_not.mpr count), values]
        rfl

/-- A sample has a series exactly when the table describes its key. -/
theorem exists_ofSample_iff : (∃ series, ofSample key value = .ok series) ↔ key.Described := by
  constructor
  · rintro ⟨series, given⟩
    cases found : Family.find? key.name with
    | none =>
        rw [ofSample, found] at given
        cases given
    | some family =>
        obtain ⟨member, named⟩ := Family.find?_eq_some_iff.mp found
        rw [ofSample_of_named member named] at given
        split at given
        · cases given
        next count =>
          have values : ∃ labelValues, family.labels.mapM key.labelValue = .ok labelValues := by
            cases values : family.labels.mapM key.labelValue with
            | error cause =>
                rw [values] at given
                cases given
            | ok labelValues => exact ⟨labelValues, rfl⟩
          have present : ∀ label ∈ family.labels, label ∈ key.labelNames := fun label inside =>
            SampleKey.exists_labelValue_iff.mp (exists_mapM_eq_ok_iff.mp values label inside)
          have length_eq : key.labelNames.length = family.labels.length := by
            simpa [SampleKey.labelNames] using count
          exact ⟨family, member, named,
            perm_of_nodup_of_length_eq (Family.labels_nodup member) length_eq present⟩
  · rintro ⟨family, member, named, perm⟩
    have count : key.labels.length = family.labels.length := by
      simpa [SampleKey.labelNames] using perm.length_eq
    obtain ⟨labelValues, values⟩ := exists_mapM_eq_ok_iff.mpr fun label inside =>
      SampleKey.exists_labelValue_iff.mpr (perm.symm.subset inside)
    exact ⟨⟨family, labelValues, value⟩, by
      rw [ofSample_of_named member named, if_neg (not_not.mpr count), values]; rfl⟩

end Series

theorem SampleKey.not_described_of_faulty {key : SampleKey} {rejection : Rejection}
    (faulty : key.Faulty rejection) : ¬key.Described := by
  intro described
  obtain ⟨series, given⟩ : ∃ series, Series.ofSample key 0.0 = .ok series :=
    Series.exists_ofSample_iff.mpr described
  rw [Series.ofSample_eq_error_iff.mpr faulty] at given
  cases given

/-! ## Sets -/

/-- The first faulty sample is the cause of a refusal. -/
theorem SampleSet.series_eq_error_iff {set : SampleSet} {rejection : Rejection} :
    set.series = .error rejection ↔
      ∃ before sample after, set.samples = before ++ sample :: after ∧
        (∀ earlier ∈ before, earlier.1.Described) ∧ sample.1.Faulty rejection := by
  simp only [SampleSet.series, mapM_eq_error_iff, Series.exists_ofSample_iff,
    Series.ofSample_eq_error_iff]

theorem SampleSet.exists_series_eq_ok_iff {set : SampleSet} :
    (∃ series, set.series = .ok series) ↔ ∀ sample ∈ set.samples, sample.1.Described := by
  simp only [SampleSet.series, exists_mapM_eq_ok_iff, Series.exists_ofSample_iff]

namespace Registry

/-- What a checked set is written to does not matter: the writing ends well. -/
theorem putAll_reset_of_series_ok {set : SampleSet} {series : List Series}
    (checked : set.series = .ok series) (registry : Registry) :
    registry.reset.putAll series =
      ({ registry.reset with series := writeSeries registry.reset.series series }, none) :=
  putAll_eq_of_fits (SampleSet.series_fit checked) registry.reset

theorem publish_eq_of_series_ok {set : SampleSet} {series : List Series}
    (checked : set.series = .ok series) (registry : Registry) :
    registry.publish set =
      ({ series := writeSeries registry.reset.series series, up := 1.0 }, none) := by
  rw [publish, checked]
  dsimp only
  rw [putAll_reset_of_series_ok checked]

theorem publish_rejection_iff {registry : Registry} {set : SampleSet} {rejection : Rejection} :
    (registry.publish set).2 = some rejection ↔ set.series = .error rejection := by
  cases checked : set.series with
  | error cause => simp [publish_of_series_error checked]
  | ok series => simp [publish_eq_of_series_ok checked]

/-- A publication is refused exactly when the table does not describe some key of the set.
The cause is the fault of the least such key, and the registry stays as it was.  Once
every key has passed, every series is written, and nothing is refused any more. -/
theorem publish_refuses_least_fault (registry : Registry) {set : SampleSet}
    (ordered : set.Ordered) :
    ((registry.publish set).2 ≠ none ↔ ∃ sample ∈ set.samples, ¬sample.1.Described) ∧
      (∀ rejection, (registry.publish set).2 = some rejection →
        (registry.publish set).1 = registry ∧
          ∃ sample ∈ set.samples, ¬sample.1.Described ∧ sample.1.Faulty rejection ∧
            ∀ other ∈ set.samples, ¬other.1.Described →
              other = sample ∨ sample.1.compare other.1 = .lt) ∧
      ((∀ sample ∈ set.samples, sample.1.Described) →
        ∃ series, set.series = .ok series ∧
          registry.reset.putAll series =
            ({ registry.reset with series := writeSeries registry.reset.series series }, none) ∧
          registry.publish set =
            ({ series := writeSeries registry.reset.series series, up := 1.0 }, none)) := by
  refine ⟨?_, ?_, ?_⟩
  · rw [Option.ne_none_iff_exists']
    simp only [publish_rejection_iff]
    constructor
    · rintro ⟨rejection, refused⟩
      obtain ⟨before, sample, after, split, _, faulty⟩ := SampleSet.series_eq_error_iff.mp refused
      exact ⟨sample, by simp [split], SampleKey.not_described_of_faulty faulty⟩
    · rintro ⟨sample, member, bad⟩
      cases checked : set.series with
      | error rejection => exact ⟨rejection, rfl⟩
      | ok series =>
          exact absurd (SampleSet.exists_series_eq_ok_iff.mp ⟨series, checked⟩ sample member) bad
  · intro rejection refused
    rw [publish_rejection_iff] at refused
    obtain ⟨before, sample, after, split, fine, faulty⟩ := SampleSet.series_eq_error_iff.mp refused
    refine ⟨by rw [publish_of_series_error refused], sample, by simp [split],
      SampleKey.not_described_of_faulty faulty, faulty, ?_⟩
    intro other member bad
    rw [split, List.mem_append, List.mem_cons] at member
    rcases member with earlier | rfl | later
    · exact absurd (fine other earlier) bad
    · exact .inl rfl
    · exact .inr (ordered.compare_of_split split later)
  · intro described
    obtain ⟨series, checked⟩ := SampleSet.exists_series_eq_ok_iff.mpr described
    exact ⟨series, checked, putAll_reset_of_series_ok checked registry,
      publish_eq_of_series_ok checked registry⟩

/-- Of two bad keys the lesser one is blamed, although its sample was recorded later; what
was published before stays. -/
theorem publish_refuses_missing_label :
    let before : Registry := (down.publish (SampleSet.empty.set ⟨"bbox_dns_max", []⟩ 50.0)).1
    let set : SampleSet :=
      ((SampleSet.empty.set ⟨"bbox_wan_unknown", []⟩ 1.0).set ⟨"bbox_dns_min", []⟩ 2.0).set
        ⟨"bbox_iptv_channel_received", [("name", "a"), ("name", "b")]⟩ 3.0
    let rejection : Rejection := .missingLabel "bbox_iptv_channel_received" "address"
    set.Ordered ∧ (before.publish set).2 = some rejection ∧ (before.publish set).1 = before := by
  intro before set rejection
  have ordered : set.Ordered := ((SampleSet.ordered_empty.set _ _).set _ _).set _ _
  have refused : (before.publish set).2 = some rejection := by decide +kernel
  exact ⟨ordered, refused, ((publish_refuses_least_fault before ordered).2.1 rejection refused).1⟩

end Registry

end RouterTelemetry
