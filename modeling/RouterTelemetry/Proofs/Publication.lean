import Mathlib.Data.List.Forall2
import RouterTelemetry.Cycle

/-!
# Publication

What a registry holds before a publication has no influence on what it holds after:
every series belongs to a family of the table, so a reset leaves none, and a checked
set can be written to its end.
-/

namespace RouterTelemetry

theorem forall₂_of_mapM_eq_ok {α β ε : Type} {f : α → Except ε β} {list : List α}
    {results : List β} (ok : list.mapM f = .ok results) :
    List.Forall₂ (fun a b => f a = .ok b) list results := by
  induction list generalizing results with
  | nil =>
      cases ok
      exact .nil
  | cons a rest ih =>
      rw [List.mapM_cons] at ok
      cases first : f a with
      | error fault =>
          rw [first] at ok
          cases ok
      | ok b =>
          cases later : rest.mapM f with
          | error fault =>
              rw [first, later] at ok
              cases ok
          | ok bs =>
              rw [first, later] at ok
              cases ok
              exact .cons first (ih later)

theorem forall_of_mapM_eq_ok {α β ε : Type} {f : α → Except ε β} {list : List α}
    {results : List β} {P : β → Prop} (each : ∀ a b, f a = .ok b → P b)
    (ok : list.mapM f = .ok results) : ∀ b ∈ results, P b := by
  have related := forall₂_of_mapM_eq_ok ok
  clear ok
  induction related with
  | nil => simp
  | @cons a b _ _ given _ ih =>
      rintro c (_ | ⟨_, later⟩)
      · exact each a b given
      · exact ih c later

/-! ## Series -/

/-- The family of the series is one of the table, and there is a value for each of its
labels. -/
structure Series.Fits (series : Series) : Prop where
  family : series.family ∈ families
  labelValues : series.labelValues.length = series.family.labels.length

theorem Series.ofSample_fits {key : SampleKey} {value : Float} {series : Series}
    (given : ofSample key value = .ok series) : series.Fits := by
  unfold ofSample at given
  cases found : Family.find? key.name with
  | none =>
      rw [found] at given
      cases given
  | some family =>
      simp only [found] at given
      split at given
      · cases given
      · cases values : family.labels.mapM key.labelValue with
        | error rejection =>
            rw [values] at given
            cases given
        | ok labelValues =>
            rw [values] at given
            cases given
            exact ⟨List.mem_of_find?_eq_some found, (forall₂_of_mapM_eq_ok values).length_eq.symm⟩

/-- Every series of a checked set fits. -/
theorem SampleSet.series_fit {set : SampleSet} {series : List Series}
    (checked : set.series = .ok series) : ∀ one ∈ series, one.Fits :=
  forall_of_mapM_eq_ok (fun _ _ => Series.ofSample_fits) checked

theorem mem_putSeries {series one : Series} {held : List Series}
    (member : one ∈ putSeries series held) :
    one.family = series.family ∨ ∃ other ∈ held, one.family = other.family := by
  induction held with
  | nil => exact .inl (by rw [List.mem_singleton.mp member])
  | cons other rest ih =>
      unfold putSeries at member
      split at member
      · rcases List.mem_cons.mp member with rfl | later
        · exact .inr ⟨other, List.mem_cons_self, rfl⟩
        · exact .inr ⟨one, List.mem_cons_of_mem other later, rfl⟩
      · rcases List.mem_cons.mp member with rfl | later
        · exact .inr ⟨one, List.mem_cons_self, rfl⟩
        · rcases ih later with same | ⟨held, heldMember, same⟩
          · exact .inl same
          · exact .inr ⟨held, List.mem_cons_of_mem other heldMember, same⟩

/-- The held series after others have been written to them in order. -/
def writeSeries (held series : List Series) : List Series :=
  series.foldl (fun held one => putSeries one held) held

namespace Registry

/-- Every series belongs to a family of the table. -/
def Known (registry : Registry) : Prop :=
  ∀ series ∈ registry.series, series.family ∈ families

theorem known_down : down.Known := by
  simp [Known, down]

theorem foldl_clear (cleared : List Family) (registry : Registry) :
    cleared.foldl clear registry =
      { registry with
        series := registry.series.filter fun series =>
          cleared.all fun family => series.family.name != family.name } := by
  induction cleared generalizing registry with
  | nil => simp
  | cons family rest ih => simp [ih, clear, List.filter_filter, Bool.and_comm]

/-- A reset leaves no series. -/
theorem reset_eq_of_known {registry : Registry} (known : registry.Known) :
    registry.reset = { series := [], up := registry.up } := by
  rw [reset, foldl_clear]
  congr 1
  rw [List.filter_eq_nil_iff]
  intro series member
  -- A series of a family of the table is dropped when that family is cleared.
  rw [List.all_eq_true]
  intro apart
  simpa using apart series.family (known series member)

theorem markDown_eq_of_known {registry : Registry} (known : registry.Known) :
    registry.markDown = down := by
  rw [markDown, reset_eq_of_known known, down]

/-- Series that fit are written to their end. -/
theorem putAll_eq_of_fits {series : List Series} (fits : ∀ one ∈ series, one.Fits)
    (registry : Registry) :
    registry.putAll series =
      ({ registry with series := writeSeries registry.series series }, none) := by
  induction series generalizing registry with
  | nil => rfl
  | cons one rest ih =>
      have written : registry.put one =
          .ok { registry with series := putSeries one registry.series } :=
        if_pos (fits one List.mem_cons_self).labelValues
      rw [putAll, written]
      exact ih (fun other member => fits other (List.mem_cons_of_mem one member)) _

theorem publish_of_series_error {set : SampleSet} {rejection : Rejection}
    (refused : set.series = .error rejection) (registry : Registry) :
    registry.publish set = (registry, some rejection) := by
  rw [publish, refused]

theorem publish_of_series_ok {set : SampleSet} {series : List Series}
    (checked : set.series = .ok series) {registry : Registry} (known : registry.Known) :
    registry.publish set =
      ({ series := writeSeries [] series, up := 1.0 }, none) := by
  rw [publish, checked, reset_eq_of_known known]
  dsimp only
  rw [putAll_eq_of_fits (SampleSet.series_fit checked)]

theorem known_writeSeries {series held : List Series} (fits : ∀ one ∈ series, one.Fits)
    (known : ∀ one ∈ held, one.family ∈ families) :
    ∀ one ∈ writeSeries held series, one.family ∈ families := by
  induction series generalizing held with
  | nil => exact known
  | cons first rest ih =>
      refine ih (fun other member => fits other (List.mem_cons_of_mem first member)) ?_
      intro one member
      rcases mem_putSeries member with same | ⟨other, heldMember, same⟩
      · exact same ▸ (fits first List.mem_cons_self).family
      · exact same ▸ known other heldMember

/-- A publication into a registry of known series leaves known series. -/
theorem known_publish {registry : Registry} (known : registry.Known) (set : SampleSet) :
    (registry.publish set).1.Known := by
  cases checked : set.series with
  | error rejection => rwa [publish_of_series_error checked]
  | ok series =>
      rw [publish_of_series_ok checked known]
      exact known_writeSeries (SampleSet.series_fit checked) (by simp)

end Registry

/-! ## The end of a cycle -/

namespace Collector

variable {registry : Registry}

theorem publishTo_of_series_error {samples : SampleSet} {rejection : Rejection}
    (refused : samples.series = .error rejection) :
    publishTo registry (.ok samples) = (registry, some (.registry rejection.message)) := by
  simp only [publishTo, Registry.publish_of_series_error refused, Option.map_some]

theorem publishTo_of_series_ok {samples : SampleSet} {series : List Series}
    (checked : samples.series = .ok series) (known : registry.Known) :
    publishTo registry (.ok samples) =
      ({ series := writeSeries [] series, up := 1.0 }, none) := by
  simp only [publishTo, Registry.publish_of_series_ok checked known, Option.map_none]

theorem known_publishTo (known : registry.Known) (result : Except Failure SampleSet) :
    (publishTo registry result).1.Known := by
  cases result with
  | error failure => exact known
  | ok samples => exact Registry.known_publish known samples

/-- A cycle that fails leaves no series, and its event tells the failure. -/
theorem conclude_of_failure (known : registry.Known) {result : Except Failure SampleSet}
    {failure : Failure} (failed : (conclude registry result).failure = some failure) :
    (conclude registry result).registry = .down ∧
      (conclude registry result).event = ⟨.error, "Bbox error: " ++ failure.message⟩ := by
  have touchedKnown := known_publishTo known result
  unfold conclude at failed ⊢
  rcases published : publishTo registry result with ⟨touched, _ | cause⟩
  · rw [published] at failed
    cases failed
  · rw [published] at failed touchedKnown
    cases failed
    exact ⟨Registry.markDown_eq_of_known touchedKnown, rfl⟩

/-- A cycle that does not fail leaves what a publication into a fresh registry gives. -/
theorem conclude_of_success (known : registry.Known) {result : Except Failure SampleSet}
    (succeeded : (conclude registry result).failure = none) :
    ∃ samples, result = .ok samples ∧
      Registry.down.publish samples = ((conclude registry result).registry, none) ∧
      (conclude registry result).registry.up = 1.0 ∧
      (conclude registry result).event.level = .info := by
  cases result with
  | error failure => cases succeeded
  | ok samples =>
      cases checked : samples.series with
      | error rejection =>
          rw [conclude, publishTo_of_series_error checked] at succeeded
          cases succeeded
      | ok series =>
          rw [conclude, publishTo_of_series_ok checked known,
            ← Registry.publish_of_series_ok checked Registry.known_down]
          exact ⟨samples, rfl, rfl, rfl, rfl⟩

/-- The end of a cycle does not depend on the registry that the cycle has found. -/
theorem conclude_eq_of_known (known : registry.Known) (result : Except Failure SampleSet) :
    conclude registry result = conclude .down result := by
  cases result with
  | error failure =>
      simp only [conclude, publishTo, Registry.markDown_eq_of_known known,
        Registry.markDown_eq_of_known Registry.known_down]
  | ok samples =>
      cases checked : samples.series with
      | error rejection =>
          simp only [conclude, publishTo_of_series_error checked,
            Registry.markDown_eq_of_known known,
            Registry.markDown_eq_of_known Registry.known_down]
      | ok series =>
          simp only [conclude, publishTo_of_series_ok checked known,
            publishTo_of_series_ok checked Registry.known_down]

/-- The series of a registry are known after a cycle if they were before. -/
theorem known_conclude (known : registry.Known) (result : Except Failure SampleSet) :
    (conclude registry result).registry.Known := by
  cases outcome : (conclude registry result).failure with
  | none =>
      obtain ⟨samples, _, published, _⟩ := conclude_of_success known outcome
      have publishedKnown := Registry.known_publish Registry.known_down samples
      rwa [published] at publishedKnown
  | some failure =>
      rw [(conclude_of_failure known outcome).1]
      exact Registry.known_down

end Collector

end RouterTelemetry
