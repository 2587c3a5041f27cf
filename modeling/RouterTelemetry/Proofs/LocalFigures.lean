import RouterTelemetry.Proofs.FigureTraces
import RouterTelemetry.Proofs.GroupsApart

/-!
# Figures do not interfere

No two figures of a snapshot are recorded under one key, as long as no band is listed twice
and no two channels have one address, and nothing else is written under the key of a figure.
With another measure in its place a figure changes what is left under its own key, and
nothing else.
-/

namespace RouterTelemetry

theorem Band.label_injective : Function.Injective Band.label := by
  intro band other same
  cases band <;> cases other <;> first | rfl | exact absurd same (by decide)

namespace Projection

open Payload

/-! ## Keys of measures -/

namespace Script

/-- The keys under which the script records measures, in order. -/
def fieldKeys (script : Script) : List SampleKey :=
  script.filterMap fun step => step.recorded?.map (·.1)

theorem fieldKeys_append (script later : Script) :
    fieldKeys (script ++ later) = fieldKeys script ++ fieldKeys later :=
  List.filterMap_append

theorem fieldKeys_flatMap {α : Type} (list : List α) (script : α → Script) :
    fieldKeys (list.flatMap script) = list.flatMap fun a => fieldKeys (script a) :=
  List.filterMap_flatMap

theorem fieldKeys_filter (script : Script) :
    fieldKeys (script.filter Step.isField) = fieldKeys script := by
  induction script with
  | nil => rfl
  | cons step script ih =>
      cases step with
      | field key measure path => exact congrArg (key :: ·) ih
      | note event => exact ih
      | set key value => exact ih
      | count key => exact ih
      | stop failure => exact ih

theorem fieldKeys_inGroup (script : Script) (group : Group) :
    fieldKeys (script.inGroup group) = fieldKeys script := by
  rw [← fieldKeys_filter, filter_isField_inGroup, fieldKeys_filter]

theorem fieldKeys_eq_nil {script : Script} (none : script.filter Step.isField = []) :
    fieldKeys script = [] := by
  rw [← fieldKeys_filter, none]
  rfl

/-- Where all pages have the same keys, a list has those of a blank page, or none. -/
theorem fieldKeys_withFirst {α : Type} {steps : α → Script} (blank : α)
    (fixed : ∀ page, fieldKeys (steps page) = fieldKeys (steps blank)) (pages : List α)
    (path : String) :
    (fieldKeys (withFirst pages path steps)).Sublist (fieldKeys (steps blank)) := by
  cases pages with
  | nil => exact List.nil_sublist _
  | cons page rest => exact fixed page ▸ .refl _

theorem mem_fieldKeys_iff {script : Script} {key : SampleKey} :
    key ∈ fieldKeys script ↔ ∃ measure path, .field key measure path ∈ script := by
  rw [fieldKeys, List.mem_filterMap]
  constructor
  · rintro ⟨step, member, written⟩
    cases step with
    | field target measure path =>
        cases written
        exact ⟨measure, path, member⟩
    | note event => cases written
    | set target value => cases written
    | count target => cases written
    | stop failure => cases written
  · rintro ⟨measure, path, member⟩
    exact ⟨_, member, rfl⟩

theorem fieldKeys_sublist_keys (script : Script) : (fieldKeys script).Sublist (keys script) := by
  induction script with
  | nil => exact .slnil
  | cons step script ih =>
      cases step with
      | field key measure path => exact ih.cons_cons key
      | note event => exact ih
      | set key value => exact ih.cons key
      | count key => exact ih.cons key
      | stop failure => exact ih

end Script

/-! ## Keys of measures in a group

Most pages have fixed keys, those of the counters of a band are fixed by its label.  Channels
have their address in a label. -/

/-- The scripts of blank pages, group by group. -/
def pageScripts : List Script :=
  [deviceState {} ++ memory {} ++ processor {},
    servicesPage {},
    line {} ++ traffic "bbox_wan" [] "" true {} ++ fibre {} ++
      (probed "dns" {} ++ probed "ping" {} ++ probed "http" {}),
    traffic "bbox_lan" [] "" false {},
    traffic "bbox_wireless" [("frequency", Band.ghz24.label)] "" false {},
    traffic "bbox_wireless" [("frequency", Band.ghz5.label)] "" false {},
    resolver {}]

theorem pageScripts_fieldKeys_nodup :
    ∀ script ∈ pageScripts, (Script.fieldKeys script).Nodup := by
  decide +kernel

theorem fieldKeys_nodup_of_sublist {script : Script} (blank : Script)
    (member : blank ∈ pageScripts)
    (within : (Script.fieldKeys script).Sublist (Script.fieldKeys blank)) :
    (Script.fieldKeys script).Nodup :=
  (pageScripts_fieldKeys_nodup blank member).sublist within

theorem device_fieldKeys_nodup (pages : DevicePages) : (Script.fieldKeys (device pages)).Nodup := by
  refine fieldKeys_nodup_of_sublist (deviceState {} ++ memory {} ++ processor {})
    (by simp [pageScripts]) ?_
  change (Script.fieldKeys (_ ++ _ ++ _)).Sublist _
  simp only [Script.fieldKeys_append]
  exact ((Script.fieldKeys_withFirst {} (fun _ => rfl) _ _).append
    (Script.fieldKeys_withFirst {} (fun _ => rfl) _ _)).append
      (Script.fieldKeys_withFirst {} (fun _ => rfl) _ _)

theorem services_fieldKeys_nodup (pages : List Services) :
    (Script.fieldKeys (services pages)).Nodup := by
  have first : (Script.fieldKeys (withFirst pages Resource.services.path servicesPage)).Sublist
      (Script.fieldKeys (servicesPage {})) :=
    Script.fieldKeys_withFirst {} (fun _ => rfl) pages _
  exact fieldKeys_nodup_of_sublist (servicesPage {}) (by simp [pageScripts]) first

theorem probes_fieldKeys (mode : String) (list : List Probe) :
    (Script.fieldKeys (probes mode list)).Sublist (Script.fieldKeys (probed mode {})) := by
  unfold probes
  cases selectProbe? list with
  | none => exact List.nil_sublist _
  | some probe => exact .refl _

theorem diagnostics_fieldKeys (pages : List Diagnostics) (path : String) :
    (Script.fieldKeys (withFirst pages path diagnostics)).Sublist
      (Script.fieldKeys (probed "dns" {} ++ probed "ping" {} ++ probed "http" {})) := by
  cases pages with
  | nil => exact List.nil_sublist _
  | cons page rest =>
      simp only [withFirst, diagnostics, Script.fieldKeys_append]
      exact ((probes_fieldKeys _ _).append (probes_fieldKeys _ _)).append (probes_fieldKeys _ _)

theorem wan_fieldKeys_nodup (pages : WanPages) : (Script.fieldKeys (wan pages)).Nodup := by
  refine fieldKeys_nodup_of_sublist
    (line {} ++ traffic "bbox_wan" [] "" true {} ++ fibre {} ++
      (probed "dns" {} ++ probed "ping" {} ++ probed "http" {})) (by simp [pageScripts]) ?_
  change (Script.fieldKeys (_ ++ _ ++ _ ++ _)).Sublist _
  rw [Script.fieldKeys_append, Script.fieldKeys_append, Script.fieldKeys_append,
    Script.fieldKeys_append, Script.fieldKeys_append, Script.fieldKeys_append]
  exact (((Script.fieldKeys_withFirst {} (fun _ => rfl) _ _).append
    (Script.fieldKeys_withFirst {} (fun _ => rfl) _ _)).append
      (Script.fieldKeys_withFirst {} (fun _ => rfl) _ _)).append (diagnostics_fieldKeys _ _)

theorem lan_fieldKeys_nodup (pages : LanPages) : (Script.fieldKeys (lan pages)).Nodup := by
  have hosts := Script.fieldKeys_eq_nil
    (filter_withFirst filter_hosts pages.hosts Resource.hosts.path)
  have ports := Script.fieldKeys_eq_nil
    (filter_withFirst filter_ports pages.lan Resource.lan.path)
  refine fieldKeys_nodup_of_sublist (traffic "bbox_lan" [] "" false {}) (by simp [pageScripts]) ?_
  change (Script.fieldKeys (_ ++ _ ++ _)).Sublist _
  rw [Script.fieldKeys_append, Script.fieldKeys_append, hosts, ports, List.append_nil,
    List.append_nil]
  exact Script.fieldKeys_withFirst {} (fun _ => rfl) _ _

theorem band_fieldKeys (pages : BandPages) :
    (Script.fieldKeys (band pages)).Sublist (Script.fieldKeys
      (traffic "bbox_wireless" [("frequency", pages.band.label)] "" false {})) :=
  Script.fieldKeys_withFirst {} (fun _ => rfl) _ _

/-- The counters of a band are under its label. -/
theorem labels_of_mem_band {pages : BandPages} {key : SampleKey}
    (member : key ∈ Script.fieldKeys (band pages)) :
    key.labels = [("frequency", pages.band.label)] := by
  have labels : (Script.fieldKeys (traffic "bbox_wireless" [("frequency", pages.band.label)] ""
      false {})).map SampleKey.labels = List.replicate 8 [("frequency", pages.band.label)] :=
    rfl
  exact List.eq_of_mem_replicate
    (labels ▸ List.mem_map_of_mem ((band_fieldKeys pages).subset member))

theorem band_fieldKeys_nodup (pages : BandPages) : (Script.fieldKeys (band pages)).Nodup := by
  refine fieldKeys_nodup_of_sublist _ ?_ (band_fieldKeys pages)
  cases pages.band <;> simp [pageScripts]

theorem wireless_fieldKeys_nodup {bands : List BandPages}
    (distinct : (bands.map (·.band)).Nodup) : (Script.fieldKeys (wireless bands)).Nodup := by
  rw [wireless, Script.fieldKeys_flatMap, List.nodup_flatMap]
  refine ⟨fun pages _ => band_fieldKeys_nodup pages, ?_⟩
  refine (List.pairwise_map.mp distinct).imp fun ne key member member' => ne ?_
  have same := (labels_of_mem_band member).symm.trans (labels_of_mem_band member')
  exact Band.label_injective (by simpa using same)

theorem dns_fieldKeys_nodup (pages : List Resolver) : (Script.fieldKeys (dns pages)).Nodup := by
  refine fieldKeys_nodup_of_sublist (resolver {}) (by simp [pageScripts]) ?_
  exact Script.fieldKeys_withFirst {} (fun _ => rfl) pages _

theorem iptv_fieldKeys_nodup {pages : List Television}
    (distinct : ((pages.flatMap (·.channels)).map (·.address)).Nodup) :
    (Script.fieldKeys (iptv pages)).Nodup :=
  (keys_iptv_nodup distinct).sublist (Script.fieldKeys_sublist_keys _)

section

variable {snapshot : Snapshot} (bands : (snapshot.wireless.map (·.band)).Nodup)
  (addresses : ((snapshot.iptv.flatMap (·.channels)).map (·.address)).Nodup)

include bands addresses

theorem script_fieldKeys_nodup (group : Group) :
    (Script.fieldKeys (script snapshot group)).Nodup := by
  cases group with
  | device => exact device_fieldKeys_nodup _
  | services => exact services_fieldKeys_nodup _
  | wan => exact wan_fieldKeys_nodup _
  | lan => exact lan_fieldKeys_nodup _
  | wireless => exact wireless_fieldKeys_nodup bands
  | dns => exact dns_fieldKeys_nodup _
  | iptv => exact iptv_fieldKeys_nodup addresses

/-- No two measures of the snapshot are recorded under one key. -/
theorem wholeScript_fieldKeys_nodup : (Script.fieldKeys (wholeScript snapshot)).Nodup := by
  simp only [wholeScript, Script.fieldKeys_flatMap, Script.fieldKeys_inGroup]
  refine List.nodup_flatMap.mpr ⟨fun group _ => script_fieldKeys_nodup bands addresses group, ?_⟩
  refine List.Nodup.pairwise_of_forall_ne (by decide) fun group _ other _ ne => ?_
  intro key member member'
  exact ne (group_eq_of_mem_keys ((Script.fieldKeys_sublist_keys _).subset member)
    ((Script.fieldKeys_sublist_keys _).subset member'))

end

/-! ## Other keys -/

theorem Step.mark?_eq {step : Step} {key : SampleKey} (written : step.key? = some key) :
    step.mark? = some (key.shape, step.isField) := by
  cases step <;> cases written <;> rfl

/-- Measures are recorded under other names than link states and counts. -/
theorem Script.OfGroup.isField_eq_false_iff {group : Group} {script : Script}
    (ofGroup : OfGroup group script) {step : Step} (member : step ∈ script) {key : SampleKey}
    (written : step.key? = some key) : step.isField = false ↔ key.name ∈ stateNames :=
  (ofGroup _ (List.mem_filterMap.mpr ⟨step, member, Step.mark?_eq written⟩)).2

theorem isField_eq_false_iff_of_mem_wholeScript {snapshot : Snapshot} {step : Step}
    (member : step ∈ wholeScript snapshot) {key : SampleKey} (written : step.key? = some key) :
    step.isField = false ↔ key.name ∈ stateNames := by
  obtain ⟨group, _, inGroup⟩ := List.mem_flatMap.mp member
  obtain ⟨inner, inside, rfl⟩ := List.mem_map.mp inGroup
  have ofGroup := script_ofGroup snapshot group
  cases inner with
  | note event => cases written
  | stop failure => cases written
  | set target value => exact ofGroup.isField_eq_false_iff inside written
  | count target => exact ofGroup.isField_eq_false_iff inside written
  | field target measure path => exact ofGroup.isField_eq_false_iff inside written

/-- Before and after the step of a figure nothing is written under its key. -/
theorem notMem_keys_of_wholeScript_eq {snapshot : Snapshot} {before after : Script}
    {key : SampleKey} {measure : Measure} {path : String}
    (whole : wholeScript snapshot = before ++ .field key measure path :: after)
    (distinct : (Script.fieldKeys (wholeScript snapshot)).Nodup) :
    key ∉ Script.keys before ∧ key ∉ Script.keys after := by
  have member (step : Step) : step ∈ wholeScript snapshot ↔
      step ∈ before ∨ step = .field key measure path ∨ step ∈ after := by
    rw [whole, List.mem_append, List.mem_cons]
  have named : key.name ∉ stateNames := by
    have own := (member (.field key measure path)).mpr (.inr (.inl rfl))
    simpa [Step.isField] using isField_eq_false_iff_of_mem_wholeScript own rfl
  have recorded {steps : Script} (within : ∀ step ∈ steps, step ∈ wholeScript snapshot)
      (written : key ∈ Script.keys steps) : key ∈ Script.fieldKeys steps := by
    obtain ⟨step, inside, written⟩ := List.mem_filterMap.mp written
    have other := isField_eq_false_iff_of_mem_wholeScript (within step inside) written
    cases step with
    | field target measure path =>
        cases written
        exact Script.mem_fieldKeys_iff.mpr ⟨_, _, inside⟩
    | note event => cases written
    | set target value => exact absurd (other.mp rfl) named
    | count target => exact absurd (other.mp rfl) named
    | stop failure => cases written
  have parts : Script.fieldKeys (wholeScript snapshot) =
      Script.fieldKeys before ++ key :: Script.fieldKeys after := by
    rw [whole, Script.fieldKeys_append]
    rfl
  rw [parts] at distinct
  obtain ⟨-, rest, apart⟩ := List.nodup_append.mp distinct
  constructor
  · intro written
    refine apart key (recorded (fun step inside => ?_) written) key List.mem_cons_self rfl
    exact (member step).mpr (.inl inside)
  · intro written
    refine (List.nodup_cons.mp rest).1 (recorded (fun step inside => ?_) written)
    exact (member step).mpr (.inr (.inr inside))

/-! ## One figure -/

namespace Script

variable {before after : Script} {key : SampleKey}

theorem failure?_field (measure other : Measure) (path : String) :
    failure? (before ++ .field key measure path :: after) =
      failure? (before ++ .field key other path :: after) := by
  simp only [failure?_append, failure?_cons, Step.failure?]

theorem leaves_field_self (notBefore : key ∉ keys before) (notAfter : key ∉ keys after)
    (measure : Measure) (path : String) :
    leaves key none (before ++ .field key measure path :: after) = measure.quantity? := by
  rw [leaves_of_once notBefore notAfter, Step.leaves, if_pos rfl, Option.or_none]

theorem leaves_field_of_ne {target : SampleKey} (ne : target ≠ key) (held : Option Float)
    (measure other : Measure) (path : String) :
    leaves target held (before ++ .field key measure path :: after) =
      leaves target held (before ++ .field key other path :: after) := by
  have written (measure : Measure) : (Step.field key measure path).key? ≠ some target :=
    fun same => ne (Option.some.inj same).symm
  rw [leaves_append, leaves_append]
  refine congrArg (leaves target · after) ?_
  rw [Step.leaves_of_key?_ne (written measure), Step.leaves_of_key?_ne (written other)]

end Script

/-- The figures of a snapshot are all that its projection records through measures.  When it
can be projected, no band is listed twice and no two channels have one address, any other
measure may take the place of one of them: the projection succeeds, has a sample under the
key of the figure exactly when the new measure has a quantity, of this quantity, and is the
same under every other key.  The tries of a probe are left out, because they also decide
whether it counts. -/
theorem figures_are_local {snapshot : Snapshot} {samples : SampleSet}
    (projected : (project snapshot).1 = .ok samples)
    (bands : (snapshot.wireless.map (·.band)).Nodup)
    (addresses : ((snapshot.iptv.flatMap (·.channels)).map (·.address)).Nodup) :
    ((wholeScript snapshot).filter Step.isField =
      (figures snapshot).map fun figure => figure.step figure.measure) ∧
    ∀ figure ∈ figures snapshot,
      figure.replaced figure.measure = snapshot ∧
      (¬figure.CountsTries → ∀ measure, ∃ changed,
        (project (figure.replaced measure)).1 = .ok changed ∧
        changed.get? figure.key = measure.quantity? ∧
        ∀ key ≠ figure.key, changed.get? key = samples.get? key) := by
  have traces := wholeScript_traces snapshot
  refine ⟨traces.recorded, fun figure member => ?_⟩
  have kept := traces.kept figure member
  refine ⟨kept, fun other measure => ?_⟩
  obtain ⟨going, rfl⟩ := project_eq_ok_iff.mp projected
  obtain ⟨before, after, changed⟩ := traces.changed figure member other
  have whole : wholeScript snapshot =
      before ++ .field figure.key figure.measure figure.path :: after :=
    (congrArg wholeScript kept).symm.trans (changed figure.measure)
  have still : (wholeScript (figure.replaced measure)).failure? = none := by
    rw [changed, Figure.step, Script.failure?_field measure figure.measure, ← whole, going]
  refine ⟨_, project_eq_ok_iff.mpr ⟨still, rfl⟩, ?_, fun key ne => ?_⟩
  · obtain ⟨notBefore, notAfter⟩ :=
      notMem_keys_of_wholeScript_eq whole (wholeScript_fieldKeys_nodup bands addresses)
    rw [Script.get?_run_empty still, changed]
    exact Script.leaves_field_self notBefore notAfter measure figure.path
  · rw [Script.get?_run_empty still, Script.get?_run_empty going, changed, whole]
    exact Script.leaves_field_of_ne ne none measure figure.measure figure.path

/-- Of two channels of one name the second loses its receipt, and nothing else changes. -/
theorem second_receipt_is_local :
    let shown (address : String) : Channel :=
      { address, name := "News", receipt := .value 1.0 }
    let radio : Radio := { traffic := { received := { bytes := .value 7.0 } } }
    let tried : Probe := { tries := .value 3.0 }
    let snapshot (channels : List Channel) : Snapshot :=
      { device := ⟨[{}], [{}], [{}]⟩, services := [{}]
        wan := ⟨[{}], [{}], [{}], [{ ping := [{ tries := .value 0.0 }, tried] }]⟩
        lan := ⟨[{}], [{}], [[]]⟩, wireless := [⟨.ghz24, [radio]⟩, ⟨.ghz5, [radio]⟩], dns := [{}]
        iptv := [{ channels }] }
    let whole := snapshot [shown "232.0.0.1", shown "232.0.0.2"]
    let lost := snapshot [shown "232.0.0.1", { shown "232.0.0.2" with receipt := .missing }]
    let received : SampleKey :=
      ⟨"bbox_iptv_channel_received", [("name", "News"), ("address", "232.0.0.2")]⟩
    ∃ samples changed, (project whole).1 = .ok samples ∧ (project lost).1 = .ok changed ∧
      changed.get? received = none ∧
      ∀ key ≠ received, changed.get? key = samples.get? key := by
  intro shown radio tried snapshot whole lost received
  have projected : (project whole).1 = .ok ((wholeScript whole).run {}).samples := rfl
  let figure : Figure Snapshot :=
    ⟨received, "iptv.News.receipt", .value 1.0, fun receipt =>
      snapshot [shown "232.0.0.1", { shown "232.0.0.2" with receipt }]⟩
  have listed : figure ∈ groupFigures whole .iptv := .tail _ (.head _)
  obtain ⟨-, locally⟩ := figures_are_local projected (by decide) (by decide)
  obtain ⟨-, replaced⟩ := locally figure (List.mem_flatMap.mpr ⟨.iptv, Group.mem_all _, listed⟩)
  obtain ⟨changed, still, gone, others⟩ := replaced (by decide) .missing
  exact ⟨_, changed, projected, still, gone, others⟩

end Projection

end RouterTelemetry
