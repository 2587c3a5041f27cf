import RouterTelemetry.Proofs.Admission
import RouterTelemetry.Proofs.ScriptRuns

/-!
# Projected keys are in the table

The shape of a key is its name with the names of its labels.  The shapes that a projection
writes are those of the table of families, whatever the pages hold: figures, texts and
bands decide which steps are taken and which values labels have, but no shape.  Every
projected set is therefore admitted.  More closely, a group writes shapes of its own part of
the table, and measures are recorded under other names than link states and counts.  Television
writes no key twice when no two channels share an address.
-/

namespace RouterTelemetry

/-- A name with the names of its labels, in order. -/
abbrev Shape := String × List String

/-- The shape of the keys of a family. -/
def Family.shape (family : Family) : Shape :=
  (family.fullName, family.labels)

/-- The shape of a key. -/
def SampleKey.shape (key : SampleKey) : Shape :=
  (key.name, key.labelNames)

/-- The table has a family of this name and labels of these names in the same order. -/
def SampleKey.InTable (key : SampleKey) : Prop :=
  ∃ family ∈ families, family.fullName = key.name ∧ key.labelNames = family.labels

/-- The part of the table that is for a group. -/
def Group.families : Group → List Family
  | .device => deviceFamilies
  | .services => serviceFamilies
  | .wan => wanFamilies
  | .lan => lanFamilies
  | .wireless => wirelessFamilies
  | .dns => dnsFamilies
  | .iptv => iptvFamilies

theorem families_eq_flatMap : families = Group.all.flatMap Group.families :=
  rfl

/-- The names of link states and counts; all others are for measures. -/
def stateNames : List String :=
  ["bbox_wan_link_up", "bbox_wan_ftth_state", "bbox_lan_connected_devices",
    "bbox_lan_switch_port_up", "bbox_iptv_channels"]

/-- The shapes of the table. -/
def tableShapes : List Shape :=
  families.map Family.shape

theorem SampleKey.shape_mem_tableShapes_iff {key : SampleKey} :
    key.shape ∈ tableShapes ↔ key.InTable := by
  simp [tableShapes, Family.shape, shape, InTable, eq_comm]

theorem SampleKey.InTable.described {key : SampleKey} (inTable : key.InTable) :
    key.Described := by
  obtain ⟨family, member, named, labels⟩ := inTable
  exact ⟨family, member, named, labels ▸ .refl _⟩

namespace Projection

/-- The shape of the key that a step may write. -/
def Step.shape? : Step → Option Shape
  | .set key _ | .count key | .field key _ _ => some key.shape
  | .note _ | .stop _ => none

/-- The shapes of the keys that a script may write. -/
def Script.shapes (script : Script) : List Shape :=
  script.filterMap Step.shape?

/-- The shape of the key that a step may write, and whether the step records a measure. -/
def Step.mark? : Step → Option (Shape × Bool)
  | .field key _ _ => some (key.shape, true)
  | .set key _ | .count key => some (key.shape, false)
  | .note _ | .stop _ => none

/-- The marks of the steps of a script. -/
def Script.marks (script : Script) : List (Shape × Bool) :=
  script.filterMap Step.mark?

/-- The script writes keys of the group's part of the table, and records measures under no
name of a link state or a count. -/
def Script.OfGroup (group : Group) (script : Script) : Prop :=
  ∀ mark ∈ script.marks, mark.1 ∈ group.families.map Family.shape ∧
    (mark.2 = false ↔ mark.1.1 ∈ stateNames)

instance (group : Group) (script : Script) : Decidable (script.OfGroup group) :=
  inferInstanceAs (Decidable (∀ mark ∈ script.marks, _ ∧ _))

/-- Every shape that the script may write is one of the table. -/
def Script.Tabled (script : Script) : Prop :=
  ∀ shape ∈ script.shapes, shape ∈ tableShapes

instance (script : Script) : Decidable script.Tabled :=
  inferInstanceAs (Decidable (∀ shape ∈ script.shapes, shape ∈ tableShapes))

namespace Script

theorem shapes_eq (script : Script) : script.shapes = script.keys.map SampleKey.shape := by
  rw [shapes, keys, List.map_filterMap]
  congr 1
  funext step
  cases step <;> rfl

theorem tabled_cons_iff {step : Step} {script : Script} :
    Tabled (step :: script) ↔
      (∀ shape ∈ step.shape?, shape ∈ tableShapes) ∧ Tabled script := by
  cases written : step.shape? <;> simp [Tabled, shapes, written]

theorem tabled_flatMap {α : Type} {list : List α} {script : α → Script}
    (each : ∀ a ∈ list, Tabled (script a)) : Tabled (list.flatMap script) := by
  intro shape member
  rw [shapes, List.filterMap_flatMap, List.mem_flatMap] at member
  obtain ⟨a, inList, written⟩ := member
  exact each a inList shape written

theorem shapes_inGroup (script : Script) (group : Group) :
    (script.inGroup group).shapes = script.shapes := by
  rw [shapes, inGroup, List.filterMap_map, shapes]
  congr 1
  funext step
  cases step <;> rfl

/-- A run adds only keys that its script may write. -/
theorem run_inTable {script : Script} (tabled : Tabled script) {samples : SampleSet}
    (inTable : ∀ sample ∈ samples.samples, sample.1.InTable) :
    ∀ sample ∈ (run samples script).samples.samples, sample.1.InTable := by
  have recorded {samples : SampleSet} {key : SampleKey} (f : Option Float → Float)
      (inTable : ∀ sample ∈ samples.samples, sample.1.InTable) (keyInTable : key.InTable) :
      ∀ sample ∈ SampleSet.update f key samples.samples, sample.1.InTable := by
    intro sample member
    rcases SampleSet.key_of_mem_update member with same | ⟨held, heldMember, same⟩
    · exact same ▸ keyInTable
    · exact same ▸ inTable held heldMember
  induction script generalizing samples with
  | nil => exact inTable
  | cons step script ih =>
      obtain ⟨written, rest⟩ := tabled_cons_iff.mp tabled
      cases step with
      | note event => exact ih rest inTable
      | set key value =>
          have keyInTable := SampleKey.shape_mem_tableShapes_iff.mp (written _ rfl)
          exact ih rest (recorded _ inTable keyInTable)
      | count key =>
          have keyInTable := SampleKey.shape_mem_tableShapes_iff.mp (written _ rfl)
          exact ih rest (recorded _ inTable keyInTable)
      | field key measure path =>
          have keyInTable := SampleKey.shape_mem_tableShapes_iff.mp (written _ rfl)
          refine ih rest ?_
          unfold SampleSet.setMeasure
          cases measure.quantity? with
          | none => exact inTable
          | some quantity => exact recorded _ inTable keyInTable
      | stop failure => exact inTable

end Script

/-! ## Groups

Where the steps of a script are fixed, its marks are those that it has for a blank page;
where a page lists items, every item adds the marks of a blank one. -/

namespace Script

variable {group : Group}

theorem OfGroup.append {script later : Script} (first : OfGroup group script)
    (second : OfGroup group later) : OfGroup group (script ++ later) := by
  intro mark member
  rw [marks, List.filterMap_append, List.mem_append] at member
  exact member.elim (first mark) (second mark)

theorem OfGroup.inform {script : Script} (ofGroup : OfGroup group script) (message : String) :
    OfGroup group (Projection.inform message :: script) :=
  ofGroup

theorem ofGroup_flatMap {α : Type} {list : List α} {script : α → Script}
    (each : ∀ a ∈ list, OfGroup group (script a)) : OfGroup group (list.flatMap script) := by
  intro mark member
  rw [marks, List.filterMap_flatMap, List.mem_flatMap] at member
  obtain ⟨a, inList, written⟩ := member
  exact each a inList mark written

theorem ofGroup_withFirst {α : Type} {path : String} {steps : α → Script}
    (each : ∀ page, OfGroup group (steps page)) (pages : List α) :
    OfGroup group (withFirst pages path steps) := by
  cases pages with
  | nil => exact nofun
  | cons page rest => exact each page

theorem OfGroup.shape_mem {script : Script} (ofGroup : OfGroup group script) {key : SampleKey}
    (member : key ∈ script.keys) : key.shape ∈ group.families.map Family.shape := by
  obtain ⟨step, inScript, written⟩ := List.mem_filterMap.mp member
  cases step with
  | note event => cases written
  | set target value =>
      cases written
      exact (ofGroup (key.shape, false) (List.mem_filterMap.mpr ⟨_, inScript, rfl⟩)).1
  | count target =>
      cases written
      exact (ofGroup (key.shape, false) (List.mem_filterMap.mpr ⟨_, inScript, rfl⟩)).1
  | field target measure path =>
      cases written
      exact (ofGroup (key.shape, true) (List.mem_filterMap.mpr ⟨_, inScript, rfl⟩)).1
  | stop failure => cases written

theorem OfGroup.tabled {script : Script} (ofGroup : OfGroup group script) : Tabled script := by
  intro shape member
  rw [shapes_eq, List.mem_map] at member
  obtain ⟨key, written, rfl⟩ := member
  rw [tableShapes, families_eq_flatMap, List.map_flatMap]
  exact List.mem_flatMap.mpr ⟨group, group.mem_all, ofGroup.shape_mem written⟩

end Script

/-- The scripts of blank pages and of blank items. -/
def blankScripts : List Script :=
  [deviceState {}, memory {}, processor {}, feature "" {}, line {},
    traffic "bbox_wan" [] "" true {}, fibre {},
    ["min", "max", "avg", "success", "error", "tries"].map fun suffix =>
      .field ⟨"bbox_wan_diagnostics_" ++ suffix, [("mode", "")]⟩ .missing "",
    traffic "bbox_lan" [] "" false {},
    [.count ⟨"bbox_lan_connected_devices", [("link", "")]⟩], ports [{}],
    traffic "bbox_wireless" [("frequency", "")] "" false {}, resolver {},
    [channel {}], iptv []]

/-- Their groups, in the same order. -/
def blankGroups : List Group :=
  [.device, .device, .device, .services, .wan, .wan, .wan, .wan, .lan, .lan, .lan, .wireless,
    .dns, .iptv, .iptv]

theorem blankScripts_ofGroup :
    ∀ blank ∈ blankGroups.zip blankScripts, blank.2.OfGroup blank.1 := by
  decide +kernel

theorem Script.ofGroup_of_blank {group : Group} {script : Script} (blank : Script)
    (member : (group, blank) ∈ blankGroups.zip blankScripts)
    (within : ∀ mark ∈ script.marks, mark ∈ blank.marks) : OfGroup group script :=
  fun mark written => blankScripts_ofGroup _ member mark (within mark written)

theorem device_ofGroup (pages : DevicePages) : (device pages).OfGroup .device := by
  have state (page : Payload.Device) : (deviceState page).OfGroup .device :=
    Script.ofGroup_of_blank (deviceState {}) (by simp [blankScripts, blankGroups]) fun _ => id
  have room (page : Payload.Memory) : (memory page).OfGroup .device :=
    Script.ofGroup_of_blank (memory {}) (by simp [blankScripts, blankGroups]) fun _ => id
  have time (page : Payload.Processor) : (processor page).OfGroup .device :=
    Script.ofGroup_of_blank (processor {}) (by simp [blankScripts, blankGroups]) fun _ => id
  exact (((Script.ofGroup_withFirst state _).append (Script.ofGroup_withFirst room _)).append
    (Script.ofGroup_withFirst time _)).inform _

theorem services_ofGroup (pages : List Payload.Services) :
    (services pages).OfGroup .services := by
  have state (label : String) (state : Payload.ServiceState) :
      (feature label state).OfGroup .services :=
    Script.ofGroup_of_blank (feature "" {}) (by simp [blankScripts, blankGroups]) fun _ => id
  exact (Script.ofGroup_withFirst
    (fun _ => Script.ofGroup_flatMap fun _ _ => state _ _) _).inform _

/-- A mode without a tried probe writes nothing. -/
theorem probes_ofGroup (mode : String) (list : List Payload.Probe) :
    (probes mode list).OfGroup .wan := by
  unfold probes
  cases selectProbe? list with
  | none => exact nofun
  | some probe =>
      exact Script.ofGroup_of_blank
        (["min", "max", "avg", "success", "error", "tries"].map fun suffix =>
          .field ⟨"bbox_wan_diagnostics_" ++ suffix, [("mode", "")]⟩ .missing "")
        (by simp [blankScripts, blankGroups]) fun _ => id

theorem wan_ofGroup (pages : WanPages) : (wan pages).OfGroup .wan := by
  have state (page : Payload.Wan) : (line page).OfGroup .wan :=
    Script.ofGroup_of_blank (line {}) (by simp [blankScripts, blankGroups]) fun _ => id
  have figures (page : Payload.Traffic) :
      (traffic "bbox_wan" [] "wan.ip.stats" true page).OfGroup .wan :=
    Script.ofGroup_of_blank (traffic "bbox_wan" [] "" true {})
      (by simp [blankScripts, blankGroups]) fun _ => id
  have port (page : Payload.Fibre) : (fibre page).OfGroup .wan :=
    Script.ofGroup_of_blank (fibre {}) (by simp [blankScripts, blankGroups]) fun _ => id
  have probed (page : Payload.Diagnostics) : (diagnostics page).OfGroup .wan :=
    ((probes_ofGroup _ _).append (probes_ofGroup _ _)).append (probes_ofGroup _ _)
  exact ((((Script.ofGroup_withFirst state _).append (Script.ofGroup_withFirst figures _)).append
    (Script.ofGroup_withFirst port _)).append (Script.ofGroup_withFirst probed _)).inform _

theorem hosts_ofGroup (list : List Payload.Host) : (hosts list).OfGroup .lan := by
  refine Script.ofGroup_of_blank [.count ⟨"bbox_lan_connected_devices", [("link", "")]⟩]
    (by simp [blankScripts, blankGroups]) fun mark written => ?_
  obtain ⟨step, member, written⟩ := List.mem_filterMap.mp written
  obtain ⟨host, _, rfl⟩ := List.mem_map.mp member
  cases written
  exact .head _

theorem ports_ofGroup (list : List Payload.Port) : (ports list).OfGroup .lan := by
  refine Script.ofGroup_of_blank (ports [{}]) (by simp [blankScripts, blankGroups])
    fun mark written => ?_
  obtain ⟨step, member, written⟩ := List.mem_filterMap.mp written
  obtain ⟨position, _, rfl⟩ := List.mem_mapIdx.mp member
  cases written
  exact .head _

theorem lan_ofGroup (pages : LanPages) : (lan pages).OfGroup .lan := by
  have figures (page : Payload.Traffic) :
      (traffic "bbox_lan" [] "lan.stats" false page).OfGroup .lan :=
    Script.ofGroup_of_blank (traffic "bbox_lan" [] "" false {})
      (by simp [blankScripts, blankGroups]) fun _ => id
  exact (((Script.ofGroup_withFirst figures _).append
    (Script.ofGroup_withFirst hosts_ofGroup _)).append
      (Script.ofGroup_withFirst (fun page : Payload.Lan => ports_ofGroup page.ports) _)).inform _

theorem wireless_ofGroup (bands : List BandPages) : (wireless bands).OfGroup .wireless := by
  have figures (frequency path : String) (page : Payload.Traffic) :
      (traffic "bbox_wireless" [("frequency", frequency)] path false page).OfGroup .wireless :=
    Script.ofGroup_of_blank (traffic "bbox_wireless" [("frequency", "")] "" false {})
      (by simp [blankScripts, blankGroups]) fun _ => id
  exact Script.ofGroup_flatMap fun _ _ =>
    (Script.ofGroup_withFirst (fun _ => figures _ _ _) _).inform _

theorem dns_ofGroup (pages : List Payload.Resolver) : (dns pages).OfGroup .dns := by
  have answers (page : Payload.Resolver) : (resolver page).OfGroup .dns :=
    Script.ofGroup_of_blank (resolver {}) (by simp [blankScripts, blankGroups]) fun _ => id
  exact (Script.ofGroup_withFirst answers _).inform _

theorem channels_ofGroup (list : List Payload.Channel) :
    Script.OfGroup .iptv (list.map channel) := by
  refine Script.ofGroup_of_blank [channel {}] (by simp [blankScripts, blankGroups])
    fun mark written => ?_
  obtain ⟨step, member, written⟩ := List.mem_filterMap.mp written
  obtain ⟨one, _, rfl⟩ := List.mem_map.mp member
  cases written
  exact .head _

theorem iptv_ofGroup (pages : List Payload.Television) : (iptv pages).OfGroup .iptv := by
  refine ((channels_ofGroup _).append ?_).inform _
  exact Script.ofGroup_of_blank (iptv []) (by simp [blankScripts, blankGroups]) fun _ => id

/-- Distinct addresses are enough for distinct keys, whatever the names of the channels are. -/
theorem keys_iptv_nodup {pages : List Payload.Television}
    (distinct : ((pages.flatMap (·.channels)).map (·.address)).Nodup) :
    (Script.keys (iptv pages)).Nodup := by
  have keys (channels : List Payload.Channel) :
      Script.keys (channels.map channel) = channels.map fun shown =>
        ⟨"bbox_iptv_channel_received",
          [("name", orElse shown.name shown.address), ("address", shown.address)]⟩ := by
    induction channels with
    | nil => rfl
    | cons shown channels ih => exact congrArg (_ :: ·) ih
  change (Script.keys (_ ++ [_])).Nodup
  rw [Script.keys_append, keys, List.nodup_append]
  refine ⟨List.pairwise_map.mpr ?_, List.nodup_singleton _, fun key member count single same => ?_⟩
  · refine (List.pairwise_map.mp distinct).imp fun ne same => ne ?_
    have labels := congrArg SampleKey.labels same
    simp only [List.cons.injEq, Prod.mk.injEq, true_and, and_true] at labels
    exact labels.2
  · obtain ⟨shown, _, rfl⟩ := List.mem_map.mp member
    rw [List.mem_singleton.mp single] at same
    have names : "bbox_iptv_channel_received" = "bbox_iptv_channels" := congrArg SampleKey.name same
    exact absurd names (by decide)

/-- The steps of a group are for its own part of the table. -/
theorem script_ofGroup (snapshot : Snapshot) (group : Group) :
    (script snapshot group).OfGroup group := by
  cases group with
  | device => exact device_ofGroup _
  | services => exact services_ofGroup _
  | wan => exact wan_ofGroup _
  | lan => exact lan_ofGroup _
  | wireless => exact wireless_ofGroup _
  | dns => exact dns_ofGroup _
  | iptv => exact iptv_ofGroup _

theorem script_tabled (snapshot : Snapshot) (group : Group) :
    Script.Tabled (script snapshot group) :=
  (script_ofGroup snapshot group).tabled

theorem wholeScript_tabled (snapshot : Snapshot) : Script.Tabled (wholeScript snapshot) :=
  Script.tabled_flatMap fun group _ => by
    rw [Script.Tabled, Script.shapes_inGroup]
    exact script_tabled snapshot group

/-- The keys of a successful projection are in the table. -/
theorem project_inTable {snapshot : Snapshot} {samples : SampleSet}
    (projected : (project snapshot).1 = .ok samples) :
    ∀ sample ∈ samples.samples, sample.1.InTable := by
  rw [samples_of_project_eq_ok projected]
  exact Script.run_inTable (wholeScript_tabled snapshot) nofun

/-- The samples of a successful projection pass every check. -/
theorem exists_series_of_project {snapshot : Snapshot} {samples : SampleSet}
    (projected : (project snapshot).1 = .ok samples) : ∃ series, samples.series = .ok series :=
  SampleSet.exists_series_eq_ok_iff.mpr fun sample member =>
    (project_inTable projected sample member).described

/-- Whatever a group writes, on its own or before it fails, is in the table, and every
registry takes the samples of a successful projection. -/
theorem projected_samples_admitted (snapshot : Snapshot) :
    (∀ group, ∀ sample ∈ (ofGroup group snapshot).samples.samples, sample.1.InTable) ∧
      ∀ samples, (project snapshot).1 = .ok samples →
        (∀ sample ∈ samples.samples, sample.1.InTable) ∧
          ∀ registry : Registry, (registry.publish samples).2 = none := by
  refine ⟨fun group => Script.run_inTable (script_tabled snapshot group) nofun, ?_⟩
  intro samples projected
  obtain ⟨series, checked⟩ := exists_series_of_project projected
  refine ⟨project_inTable projected, fun registry => ?_⟩
  rw [Registry.publish_eq_of_series_ok checked]

/-- Texts of the router that look like parts of the exposition, figures that are no
numbers, a band that is fetched twice and pages without figures: all of it is admitted. -/
theorem odd_snapshot_admitted :
    let channel : Payload.Channel :=
      { address := "232.0.0.1", name := "a\"\x7d 1\nbbox_up", receipt := .value 1.0 }
    let snapshot : Snapshot :=
      { device := ⟨[{ status := .value 1.0 }], [{}], [{}]⟩, services := [{}]
        wan := ⟨[{}], [{}], [{}], [{ dns := [{ tries := .invalid (.missingField "tries") }] }]⟩
        lan := ⟨[{ ports := [{}, { id := .value 1.0, state := "up" }] }], [{}], [[{}]]⟩
        wireless := [⟨.ghz5, [{}]⟩, ⟨.ghz5, [{}]⟩], dns := [{}]
        iptv := [{ channels := [channel, {}] }] }
    ∃ samples, (project snapshot).1 = .ok samples ∧
      (Registry.down.publish samples).2 = none := by
  intro channel snapshot
  have projected : (project snapshot).1 = .ok ((wholeScript snapshot).run {}).samples := rfl
  exact ⟨_, projected, ((projected_samples_admitted snapshot).2 _ projected).2 .down⟩

end Projection

end RouterTelemetry
