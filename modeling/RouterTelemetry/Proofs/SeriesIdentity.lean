import Mathlib.Data.List.Nodup
import Mathlib.Data.List.Perm.Subperm
import RouterTelemetry.Proofs.Publication

/-!
# The identity of series

Written series are told apart by their tag, the name of their family with their joined
label values.  A tag is written once, so as many series are left as there are tags, and
all of them are left exactly when no two have one tag.
-/

namespace RouterTelemetry

/-- The name of the family with the identity in it. -/
def Series.tag (series : Series) : String × String :=
  (series.family.name, series.identity)

theorem Series.coincides_iff {series other : Series} :
    other.coincides series = true ↔ other.tag = series.tag := by
  simp [coincides, tag]

/-- A series whose tag is not held yet is written to the end. -/
theorem putSeries_of_notMem {one : Series} {held : List Series}
    (new : one.tag ∉ held.map Series.tag) : putSeries one held = held ++ [one] := by
  induction held with
  | nil => rfl
  | cons other rest ih =>
      rw [List.map_cons, List.mem_cons, not_or] at new
      have apart : ¬other.coincides one = true := by
        rw [Series.coincides_iff]
        exact Ne.symm new.1
      rw [putSeries, if_neg apart, ih new.2, List.cons_append]

/-- Writing over a held series leaves all tags as they are. -/
theorem tags_putSeries_of_mem {one : Series} {held : List Series}
    (present : one.tag ∈ held.map Series.tag) :
    (putSeries one held).map Series.tag = held.map Series.tag := by
  induction held with
  | nil => cases present
  | cons other rest ih =>
      by_cases same : other.tag = one.tag
      · rw [putSeries, if_pos (Series.coincides_iff.mpr same)]
        rfl
      · have later : one.tag ∈ rest.map Series.tag :=
          (List.mem_cons.mp present).resolve_left (Ne.symm same)
        rw [putSeries, if_neg (mt Series.coincides_iff.mp same), List.map_cons, ih later,
          List.map_cons]

theorem tags_putSeries_nodup {held : List Series} (one : Series)
    (apart : (held.map Series.tag).Nodup) : ((putSeries one held).map Series.tag).Nodup := by
  by_cases present : one.tag ∈ held.map Series.tag
  · rwa [tags_putSeries_of_mem present]
  · rw [putSeries_of_notMem present, List.map_append, List.map_singleton]
    exact List.Nodup.append apart (List.nodup_singleton _) (List.disjoint_singleton.mpr present)

theorem mem_tags_putSeries {tag : String × String} {one : Series} {held : List Series} :
    tag ∈ (putSeries one held).map Series.tag ↔ tag ∈ held.map Series.tag ∨ tag = one.tag := by
  by_cases present : one.tag ∈ held.map Series.tag
  · rw [tags_putSeries_of_mem present]
    exact ⟨.inl, fun either => either.elim id fun same => same ▸ present⟩
  · rw [putSeries_of_notMem present]
    simp

/-! ## Writing in a row -/

@[simp]
theorem writeSeries_nil (held : List Series) : writeSeries held [] = held :=
  rfl

@[simp]
theorem writeSeries_cons (held : List Series) (one : Series) (series : List Series) :
    writeSeries held (one :: series) = writeSeries (putSeries one held) series :=
  rfl

/-- No tag is written twice. -/
theorem tags_writeSeries_nodup {held : List Series} (apart : (held.map Series.tag).Nodup)
    (series : List Series) : ((writeSeries held series).map Series.tag).Nodup := by
  induction series generalizing held with
  | nil => exact apart
  | cons one rest ih => exact ih (tags_putSeries_nodup one apart)

theorem mem_tags_writeSeries {tag : String × String} {held series : List Series} :
    tag ∈ (writeSeries held series).map Series.tag ↔
      tag ∈ held.map Series.tag ∨ tag ∈ series.map Series.tag := by
  induction series generalizing held with
  | nil => simp
  | cons one rest ih =>
      rw [writeSeries_cons, ih, mem_tags_putSeries, List.map_cons, List.mem_cons, or_assoc]

/-- Series with tags of their own are written as they are. -/
theorem writeSeries_of_nodup {held series : List Series}
    (apart : ((held ++ series).map Series.tag).Nodup) :
    writeSeries held series = held ++ series := by
  induction series generalizing held with
  | nil => rw [writeSeries_nil, List.append_nil]
  | cons one rest ih =>
      have new : one.tag ∉ held.map Series.tag := by
        rw [List.map_append, List.nodup_append] at apart
        exact fun present => apart.2.2 one.tag present one.tag List.mem_cons_self rfl
      rw [writeSeries_cons, putSeries_of_notMem new, ih (by simpa using apart), List.append_assoc,
        List.singleton_append]

/-- As many series are left as were written exactly when no two of them have one tag. -/
theorem length_writeSeries_eq_iff {series : List Series} :
    (writeSeries [] series).length = series.length ↔ (series.map Series.tag).Nodup := by
  constructor
  · intro length_eq
    have apart : ((writeSeries [] series).map Series.tag).Nodup :=
      tags_writeSeries_nodup (by simp) series
    have within : (writeSeries [] series).map Series.tag ⊆ series.map Series.tag := by
      intro tag member
      simpa using mem_tags_writeSeries.mp member
    have perm : ((writeSeries [] series).map Series.tag).Perm (series.map Series.tag) :=
      (apart.subperm within).perm_of_length_le (by simp [length_eq])
    exact perm.nodup_iff.mp apart
  · intro apart
    rw [writeSeries_of_nodup (by simpa using apart), List.nil_append]

end RouterTelemetry
