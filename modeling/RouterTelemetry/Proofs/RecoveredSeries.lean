import RouterTelemetry.Proofs.ExpositionReading
import RouterTelemetry.Proofs.SeriesIdentity

/-!
# Recovered series

A registry that was reached by publications and by marking the router not available is recovered
from its exposition: every line is read as one of its series, none is missing, and no two lines are
of one series.  What the labels hold makes no difference.
-/

namespace RouterTelemetry

/-! ## Reachable registries -/

/-- The registries that publications and failures lead to, refused publications among them. -/
inductive Registry.Reachable : Registry → Prop where
  | down : Reachable .down
  | publish {registry : Registry} (before : registry.Reachable) (set : SampleSet) :
      Reachable (registry.publish set).1
  | markDown {registry : Registry} (before : registry.Reachable) : Reachable registry.markDown

/-- Writing a series changes no labels of another. -/
theorem fits_putSeries {one : Series} {held : List Series} (fits : one.Fits)
    (heldFit : ∀ other ∈ held, other.Fits) : ∀ other ∈ putSeries one held, other.Fits := by
  induction held with
  | nil => exact List.forall_mem_singleton.mpr fits
  | cons first rest ih =>
      rw [List.forall_mem_cons] at heldFit
      unfold putSeries
      split
      · exact List.forall_mem_cons.mpr ⟨⟨heldFit.1.family, heldFit.1.labelValues⟩, heldFit.2⟩
      · exact List.forall_mem_cons.mpr ⟨heldFit.1, ih heldFit.2⟩

theorem fits_writeSeries {held series : List Series} (fits : ∀ one ∈ series, one.Fits)
    (heldFit : ∀ one ∈ held, one.Fits) : ∀ one ∈ writeSeries held series, one.Fits := by
  induction series generalizing held with
  | nil => exact heldFit
  | cons one rest ih =>
      rw [List.forall_mem_cons] at fits
      exact ih fits.2 (fits_putSeries fits.1 heldFit)

namespace Registry

variable {registry : Registry}

/-- What every reachable registry keeps: its series fit, and no two have one tag. -/
structure Sound (registry : Registry) : Prop where
  fits : ∀ one ∈ registry.series, one.Fits
  apart : (registry.series.map Series.tag).Nodup

theorem Sound.known (sound : registry.Sound) : registry.Known :=
  fun one member => (sound.fits one member).family

theorem sound_down : down.Sound := by
  constructor
  · exact nofun
  · exact List.nodup_nil

theorem Sound.publish (sound : registry.Sound) (set : SampleSet) :
    (registry.publish set).1.Sound := by
  cases checked : set.series with
  | error rejection => rwa [publish_of_series_error checked]
  | ok series =>
      rw [publish_of_series_ok checked sound.known]
      constructor
      · exact fits_writeSeries (SampleSet.series_fit checked) nofun
      · exact tags_writeSeries_nodup (by simp) series

theorem Reachable.sound (reachable : registry.Reachable) : registry.Sound := by
  induction reachable with
  | down => exact sound_down
  | publish _ set ih => exact ih.publish set
  | markDown _ ih =>
      rw [markDown_eq_of_known ih.known]
      exact sound_down

/-- The series that are exposed. -/
def exposedSeries (registry : Registry) : List Series :=
  ⟨.up, [], registry.up⟩ :: registry.series

end Registry

/-! ## Lines of series -/

/-- Full names are metric names.  The characters of a name are at hand as its bytes. -/
theorem Family.isName_of_mem {family : Family} (member : family ∈ up :: families) :
    Reading.IsName family.fullName.toList := by
  have table : ∀ family ∈ up :: families,
      (family.name.toByteArray.data.toList.all fun b =>
        decide (b < 128) && Reading.continuesName (Char.ofUInt8 b)) = true := by
    decide +kernel
  have bytes := table family member
  simp only [List.all_eq_true, Bool.and_eq_true, decide_eq_true_eq] at bytes
  have chars := Json.toList_of_ascii fun b inside => (bytes b inside).1
  have split : family.fullName.toList = ['b', 'b', 'o', 'x', '_'] ++ family.name.toList := by
    simp [fullName, metricSpace]
  rw [split, chars]
  constructor
  · exact List.cons_ne_nil _ _
  · rintro c ⟨⟩
    decide
  · rw [List.forall_mem_append, Json.asciiChars, List.forall_mem_map]
    exact ⟨List.all_eq_true.mp (by decide), fun b inside => (bytes b inside).2⟩

theorem Family.isLabel_of_mem {family : Family} (member : family ∈ up :: families) {label : String}
    (inside : label ∈ family.labels) : Reading.IsLabel label.toList := by
  have table : ∀ family ∈ up :: families, ∀ label ∈ family.labels,
      label.toList ≠ [] ∧ label.toList.head?.all Reading.startsLabel = true ∧
        label.toList.all Reading.continuesLabel = true := by
    decide +kernel
  obtain ⟨nonempty, starts, continues⟩ := table family member label inside
  constructor
  · exact nonempty
  · exact (Option.all_eq_true _ _).mp starts
  · exact List.all_eq_true.mp continues

namespace Series

/-- The line of a series without its end. -/
def line (series : Series) : String :=
  String.ofList (bareLine series.family.fullName series.labels series.value)

/-- What the line of a series is read as. -/
def reading (series : Series) : Reading :=
  ⟨series.family.fullName, series.labels, series.value, none⟩

theorem readLine_line {series : Series} (member : series.family ∈ Family.up :: families) :
    readLine series.line = some series.reading := by
  apply Reading.readLine_bareLine series.value (Family.isName_of_mem member)
  exact fun pair inside => Family.isLabel_of_mem member (mem_labels inside)

/-- The reading has the name of the series, its label values under the labels of its family, all of
them and no others, and its value. -/
structure ReadAs (series : Series) (reading : Reading) : Prop where
  name : reading.name = series.family.fullName
  labels : reading.labels.Perm (series.family.labels.zip series.labelValues)
  complete : series.labelValues.length = series.family.labels.length
  value : reading.value = series.value
  time : reading.time = none

theorem readAs_reading {series : Series}
    (complete : series.labelValues.length = series.family.labels.length) :
    series.ReadAs series.reading := by
  constructor
  · rfl
  · exact List.mergeSort_perm _ _
  · exact complete
  · rfl
  · rfl

end Series

/-! ## Readings of one series -/

/-- Two readings are of one series: they have one name and the same labels, in whatever order. -/
def Reading.Same (reading other : Reading) : Prop :=
  reading.name = other.name ∧ reading.labels.Perm other.labels

/-- Label values under distinct labels are told by the labels in any order. -/
theorem eq_of_zip_perm {names values values' : List String} (distinct : names.Nodup)
    (complete : values.length = names.length) (complete' : values'.length = names.length)
    (same : (names.zip values).Perm (names.zip values')) : values = values' := by
  induction names generalizing values values' with
  | nil => rw [List.length_eq_zero_iff.mp complete, List.length_eq_zero_iff.mp complete']
  | cons name names ih =>
      obtain ⟨value, values, rfl⟩ := List.exists_cons_of_length_eq_add_one complete
      obtain ⟨value', values', rfl⟩ := List.exists_cons_of_length_eq_add_one complete'
      rw [List.nodup_cons] at distinct
      rw [List.zip_cons_cons, List.zip_cons_cons] at same
      have first : value = value' := by
        rcases List.mem_cons.mp (same.subset List.mem_cons_self) with one | later
        · exact (Prod.mk.inj one).2
        · exact absurd (List.of_mem_zip later).1 distinct.1
      subst first
      rw [ih distinct.2 (Nat.succ.inj complete) (Nat.succ.inj complete') same.cons_inv]

/-- Series that are read as the same have one tag. -/
theorem Series.tag_eq_of_same {one other : Series} {reading reading' : Reading}
    (member : one.family ∈ Family.up :: families) (member' : other.family ∈ Family.up :: families)
    (read : one.ReadAs reading) (read' : other.ReadAs reading') (same : reading.Same reading') :
    one.tag = other.tag := by
  have names : one.family.fullName = other.family.fullName := by
    rw [← read.name, ← read'.name, same.1]
  have families_eq : one.family = other.family :=
    List.inj_on_of_nodup_map fullNames_nodup member member' names
  have distinct : one.family.labels.Nodup := by
    rcases List.mem_cons.mp member with up | known
    · rw [up]
      exact List.nodup_nil
    · exact Family.labels_nodup known
  have zips := (read.labels.symm.trans same.2).trans read'.labels
  have complete' := read'.complete
  rw [← families_eq] at zips complete'
  rw [tag, tag, identity, identity, families_eq,
    eq_of_zip_perm distinct read.complete complete' zips]

/-! ## The exposition of a registry -/

theorem mapM_map_eq_some {α β γ : Type} {f : β → Option γ} {g : α → β} {h : α → γ} {list : List α}
    (each : ∀ a ∈ list, f (g a) = some (h a)) : (list.map g).mapM f = some (list.map h) := by
  induction list with
  | nil => rfl
  | cons a rest ih =>
      rw [List.forall_mem_cons] at each
      rw [List.map_cons, List.mapM_cons, each.1, ih each.2]
      rfl

namespace Registry

variable {registry : Registry}

theorem Sound.exposed_family (sound : registry.Sound) :
    ∀ one ∈ registry.exposedSeries, one.family ∈ Family.up :: families := by
  rw [exposedSeries, List.forall_mem_cons]
  exact ⟨List.mem_cons_self, fun one member => List.mem_cons_of_mem _ (sound.known one member)⟩

theorem Sound.exposed_complete (sound : registry.Sound) :
    ∀ one ∈ registry.exposedSeries, one.labelValues.length = one.family.labels.length := by
  rw [exposedSeries, List.forall_mem_cons]
  exact ⟨rfl, fun one member => (sound.fits one member).labelValues⟩

/-- The availability has a tag of its own. -/
theorem Sound.exposed_apart (sound : registry.Sound) :
    (registry.exposedSeries.map Series.tag).Nodup := by
  rw [exposedSeries, List.map_cons, List.nodup_cons]
  constructor
  · intro present
    obtain ⟨one, member, same⟩ := List.mem_map.mp present
    have named : one.family.name = Family.up.name := (Prod.mk.inj same).1
    have upNew := (List.nodup_cons.mp familyNames_nodup).1
    exact upNew (named ▸ List.mem_map_of_mem (sound.known one member))
  · exact sound.apart

/-- The lines of the exposition are those of the exposed series, in some order. -/
theorem dataLines_perm (known : registry.Known) :
    (dataLines registry.render).Perm (registry.exposedSeries.map Series.line) := by
  have ended : (registry.exposedSeries.map Series.line).map (· ++ "\n") =
      registry.exposedSeries.map Series.text := by
    rw [List.map_map]
    exact List.map_congr_left fun one _ => ofList_bareLine_append _ _ _
  have lines := dataLines_render_perm known
  rw [← List.map_cons, ← exposedSeries, ← ended] at lines
  have injective : Function.Injective fun line : String => line ++ "\n" :=
    fun _ _ same => String.append_left_inj _ |>.mp same
  exact (List.map_perm_map_iff injective).mp lines

/-- A reachable registry is recovered from its exposition: there is one reading for each of its
series and one for the availability, each with all that the series has, and no two readings are of
one series. -/
theorem readExposition_render (reachable : registry.Reachable) :
    ∃ (readings : List Reading) (series : List Series),
      readExposition registry.render = some readings ∧
        series.Perm (⟨.up, [], registry.up⟩ :: registry.series) ∧
        List.Forall₂ Series.ReadAs series readings ∧
        readings.Pairwise fun reading other => ¬reading.Same other := by
  have sound := reachable.sound
  obtain ⟨series, lines, order⟩ : ∃ series : List Series,
      dataLines registry.render = series.map Series.line ∧ series.Perm registry.exposedSeries := by
    have reordered := congrFun (congrFun (List.eq_map_comp_perm Series.line)
      (dataLines registry.render)) registry.exposedSeries
    exact reordered.mpr (dataLines_perm sound.known)
  have family : ∀ one ∈ series, one.family ∈ Family.up :: families :=
    fun one member => sound.exposed_family one (order.subset member)
  have complete : ∀ one ∈ series, one.labelValues.length = one.family.labels.length :=
    fun one member => sound.exposed_complete one (order.subset member)
  have apart : (series.map Series.tag).Nodup := (order.map _).nodup_iff.mpr sound.exposed_apart
  refine ⟨series.map Series.reading, series, ?_, order, ?_, ?_⟩
  · rw [readExposition, lines]
    exact mapM_map_eq_some fun one member => Series.readLine_line (family one member)
  · rw [List.forall₂_map_right_iff, List.forall₂_same]
    exact fun one member => Series.readAs_reading (complete one member)
  · rw [List.pairwise_map]
    rw [List.nodup_iff_pairwise_ne, List.pairwise_map] at apart
    apply apart.imp_of_mem
    intro one other member member' tags same
    exact tags (Series.tag_eq_of_same (family one member) (family other member')
      (Series.readAs_reading (complete one member)) (Series.readAs_reading (complete other member'))
      same)

/-- A channel whose name spells the end of its line and a whole line after it is one label value. -/
theorem readExposition_render_of_spelled_line :
    let name := "\\\"\x7d 1\nbbox_up 0\n#"
    let key : SampleKey :=
      ⟨"bbox_iptv_channel_received", [("name", name), ("address", "232.0.0.1")]⟩
    let registry := (Registry.down.publish (SampleSet.empty.set key 1.0)).1
    registry.Reachable ∧
      registry.series.map (fun one => (one.labelValues, one.value)) =
        [([name, "232.0.0.1"], 1.0)] ∧
      ∃ (readings : List Reading) (series : List Series),
        readExposition registry.render = some readings ∧
          series.Perm (⟨.up, [], registry.up⟩ :: registry.series) ∧
          List.Forall₂ Series.ReadAs series readings ∧
          readings.Pairwise fun reading other => ¬reading.Same other := by
  intro name key registry
  have reachable : registry.Reachable := .publish .down _
  exact ⟨reachable, by decide +kernel, readExposition_render reachable⟩

end Registry

end RouterTelemetry
