import RouterTelemetry.Proofs.MeasureOrigin
import RouterTelemetry.Proofs.ProjectedKeys

/-!
# Where projected values come from

Every value of a projected set is counted, is the state of a link, or is the quantity of a
measure in one of the pages.  What is allowed for all of these is therefore so for the set.
-/

namespace RouterTelemetry

open Json

/-! ## Values of a set -/

/-- All values of the set are allowed. -/
def SampleSet.All (allowed : Float → Prop) (samples : SampleSet) : Prop :=
  ∀ sample ∈ samples.samples, allowed sample.2

section

variable {allowed : Float → Prop}

theorem SampleSet.all_update {f : Option Float → Float} {key : SampleKey}
    {samples : List (SampleKey × Float)} (new : allowed (f none))
    (again : ∀ value, allowed value → allowed (f (some value)))
    (all : ∀ sample ∈ samples, allowed sample.2) :
    ∀ sample ∈ update f key samples, allowed sample.2 := by
  fun_induction update f key samples with
  | case1 => simpa using new
  | case2 other value samples _ => simpa [new] using all
  | case3 other value samples _ =>
      rw [List.forall_mem_cons] at all ⊢
      exact ⟨again value all.1, all.2⟩
  | case4 other value samples _ ih =>
      rw [List.forall_mem_cons] at all ⊢
      exact ⟨all.1, ih all.2⟩

theorem SampleSet.All.set {samples : SampleSet} (all : samples.All allowed) (key : SampleKey)
    {value : Float} (new : allowed value) : (samples.set key value).All allowed :=
  all_update new (fun _ _ => new) all

/-- Values that links and counts may have. -/
structure Countable (allowed : Float → Prop) (bound : Nat) : Prop where
  zero : allowed 0.0
  one : allowed 1.0
  one_more : ∀ value, allowed value → allowed (value + 1.0)
  ofNat : ∀ number, number ≤ bound * bound → allowed (Float.ofNat number)

end

namespace Projection

variable {allowed : Float → Prop} {bound : Nat}

/-! ## Scripts -/

/-- The step writes no value but an allowed one. -/
def Step.All (allowed : Float → Prop) : Step → Prop
  | .set _ value => allowed value
  | .field _ measure _ => measure.All allowed
  | .note _ | .count _ | .stop _ => True

/-- No step writes a value but an allowed one. -/
def Script.All (allowed : Float → Prop) (script : Script) : Prop :=
  ∀ step ∈ script, step.All allowed

@[simp]
theorem Step.all_note (event : Event) : (note event).All allowed :=
  trivial

@[simp]
theorem Step.all_set {key : SampleKey} {value : Float} :
    (set key value).All allowed ↔ allowed value :=
  Iff.rfl

@[simp]
theorem Step.all_count (key : SampleKey) : (count key).All allowed :=
  trivial

@[simp]
theorem Step.all_field {key : SampleKey} {measure : Measure} {path : String} :
    (field key measure path).All allowed ↔ measure.All allowed :=
  Iff.rfl

@[simp]
theorem Step.all_stop (failure : Failure) : (stop failure).All allowed :=
  trivial

@[simp]
theorem Step.all_inform (message : String) : (inform message).All allowed :=
  trivial

@[simp]
theorem Step.all_plain {name : String} {measure : Measure} {path : String} :
    (plain name measure path).All allowed ↔ measure.All allowed :=
  Iff.rfl

namespace Script

@[simp]
theorem all_nil : All allowed [] := by
  simp [All]

@[simp]
theorem all_cons {step : Step} {script : Script} :
    All allowed (step :: script) ↔ step.All allowed ∧ All allowed script := by
  simp [All]

@[simp]
theorem all_append {script later : Script} :
    All allowed (script ++ later) ↔ All allowed script ∧ All allowed later := by
  simp [All, or_imp, forall_and]

@[simp]
theorem all_map {α : Type} {list : List α} {step : α → Step} :
    All allowed (list.map step) ↔ ∀ a ∈ list, (step a).All allowed := by
  simp [All]

@[simp]
theorem all_flatMap {α : Type} {list : List α} {script : α → Script} :
    All allowed (list.flatMap script) ↔ ∀ a ∈ list, All allowed (script a) := by
  simp only [All, List.mem_flatMap]
  exact ⟨fun all a member step inScript => all step ⟨a, member, inScript⟩,
    fun all step ⟨a, member, inScript⟩ => all a member step inScript⟩

theorem all_withFirst {α : Type} {pages : List α} {path : String} {steps : α → Script}
    (all : ∀ page ∈ pages, All allowed (steps page)) :
    All allowed (withFirst pages path steps) := by
  cases pages with
  | nil => simp [withFirst]
  | cons page rest => exact all page (by simp)

theorem all_inGroup {script : Script} (all : All allowed script) (group : Group) :
    All allowed (script.inGroup group) := by
  intro step member
  obtain ⟨inner, innerMember, rfl⟩ := List.mem_map.mp member
  have innerAll := all inner innerMember
  cases inner <;> exact innerAll

/-- A script that writes allowed values keeps a set of allowed values. -/
theorem run_all {script : Script} (countable : Countable allowed bound) (all : All allowed script)
    {samples : SampleSet} (before : samples.All allowed) :
    (run samples script).samples.All allowed := by
  induction script generalizing samples with
  | nil => exact before
  | cons step script ih =>
      obtain ⟨first, rest⟩ := all_cons.mp all
      cases step with
      | note event => exact ih rest before
      | set key value => exact ih rest (before.set key first)
      | count key =>
          refine ih rest (SampleSet.all_update ?_ ?_ before)
          · exact countable.one_more 0.0 countable.zero
          · exact countable.one_more
      | field key measure path =>
          refine ih rest ?_
          cases measure with
          | value quantity => exact before.set key (first quantity rfl)
          | invalid reason => exact before
          | missing => exact before
      | stop failure => exact before

end Script

/-! ## Groups -/

theorem allowed_linkState (countable : Countable allowed bound) (state : String) :
    allowed (linkState state) := by
  unfold linkState
  split_ifs
  · exact countable.one
  · exact countable.zero

end Projection

/-- All pages of the resource have allowed quantities. -/
def Resource.All {α : Type} (resource : Resource α) (allowed : Float → Prop) (bound : Nat)
    (pages : List α) : Prop :=
  (Format.list resource.page).Every allowed bound pages

/-- All pages of the snapshot have allowed quantities. -/
structure Snapshot.All (allowed : Float → Prop) (bound : Nat) (snapshot : Snapshot) : Prop where
  device : Resource.device.All allowed bound snapshot.device.device
  processor : Resource.processor.All allowed bound snapshot.device.processor
  memory : Resource.memory.All allowed bound snapshot.device.memory
  services : Resource.services.All allowed bound snapshot.services
  wan : Resource.wan.All allowed bound snapshot.wan.wan
  wanTraffic : Resource.wanTraffic.All allowed bound snapshot.wan.traffic
  fibre : Resource.fibre.All allowed bound snapshot.wan.fibre
  diagnostics : Resource.diagnostics.All allowed bound snapshot.wan.diagnostics
  lan : Resource.lan.All allowed bound snapshot.lan.lan
  lanTraffic : Resource.lanTraffic.All allowed bound snapshot.lan.traffic
  hosts : Resource.hosts.All allowed bound snapshot.lan.hosts
  wireless : ∀ band ∈ snapshot.wireless, (Resource.radio band.band).All allowed bound band.pages
  dns : Resource.resolver.All allowed bound snapshot.dns
  iptv : Resource.television.All allowed bound snapshot.iptv

namespace Projection

variable {allowed : Float → Prop} {bound : Nat}

open Payload

theorem counters_all (family : String) (labels : Labels) (direction short path : String)
    (line : Bool) {figures : Counters} (all : Counters.format.Every allowed bound figures) :
    Script.All allowed (counters family labels direction short path line figures) := by
  simp only [Counters.format, Members.field, Format.Every, Members.Every] at all
  cases line <;> simp [counters, all]

theorem traffic_all (family : String) (labels : Labels) (path : String) (line : Bool)
    {figures : Traffic} (all : Traffic.format.Every allowed bound figures) :
    Script.All allowed (traffic family labels path line figures) := by
  simp only [Traffic.format, Members.field, Format.Every, Members.Every] at all
  exact Script.all_append.mpr
    ⟨counters_all _ _ _ _ _ _ all.2.1, counters_all _ _ _ _ _ _ all.1⟩

theorem device_all {pages : DevicePages} (state : Resource.device.All allowed bound pages.device)
    (time : Resource.processor.All allowed bound pages.processor)
    (room : Resource.memory.All allowed bound pages.memory) :
    Script.All allowed (device pages) := by
  have first : Script.All allowed (withFirst pages.device Resource.device.path deviceState) := by
    refine Script.all_withFirst fun page member => ?_
    have every := state.2 page member
    simp only [Resource.device, Device.page, Device.format, Temperature.format, Access.format,
      Format.wrapped, Members.field, Format.Every, Members.Every, id_eq] at every
    simp [deviceState, every]
  have second : Script.All allowed (withFirst pages.memory Resource.memory.path memory) := by
    refine Script.all_withFirst fun page member => ?_
    have every := room.2 page member
    simp only [Resource.memory, Memory.page, Memory.format, Format.wrapped, Members.field,
      Format.Every, Members.Every, id_eq] at every
    simp [memory, every]
  have third : Script.All allowed
      (withFirst pages.processor Resource.processor.path processor) := by
    refine Script.all_withFirst fun page member => ?_
    have every := time.2 page member
    simp only [Resource.processor, Processor.page, Processor.format, ProcessorTime.format,
      Processes.format, Format.wrapped, Members.field, Format.Every, Members.Every, id_eq] at every
    simp [processor, every]
  simp [device, first, second, third]

theorem services_all {pages : List Services} (all : Resource.services.All allowed bound pages) :
    Script.All allowed (services pages) := by
  refine Script.all_cons.mpr ⟨Step.all_inform _, Script.all_withFirst fun page member => ?_⟩
  have every := all.2 page member
  simp only [Resource.services, Services.page, Services.format, Usb.format, Remote.format,
    Upnp.format, ServiceState.format, Format.wrapped, Members.field, Format.Every, Members.Every,
    id_eq] at every
  simp [features, feature, every]

theorem probes_all (mode : String) {list : List Probe}
    (all : ∀ probe ∈ list, Probe.format.Every allowed bound probe) :
    Script.All allowed (probes mode list) := by
  unfold probes
  cases found : selectProbe? list with
  | none => simp
  | some probe =>
      have every := all probe (List.mem_of_find?_eq_some found)
      simp only [Probe.format, Members.field, Format.Every, Members.Every] at every
      simp [every]

theorem wan_all (countable : Countable allowed bound) {pages : WanPages}
    (state : Resource.wan.All allowed bound pages.wan)
    (figures : Resource.wanTraffic.All allowed bound pages.traffic)
    (probed : Resource.diagnostics.All allowed bound pages.diagnostics) :
    Script.All allowed (wan pages) := by
  have first : Script.All allowed (withFirst pages.wan Resource.wan.path line) := by
    refine Script.all_withFirst fun page member => ?_
    have every := state.2 page member
    simp only [Resource.wan, Wan.page, Wan.format, Internet.format, Interface.format,
      WanAddress.format, WanLink.format, Format.wrapped, Members.field, Format.Every,
      Members.Every, id_eq] at every
    simp [line, every, allowed_linkState countable]
  have second : Script.All allowed (withFirst pages.traffic Resource.wanTraffic.path
      (traffic "bbox_wan" [] "wan.ip.stats" true)) := by
    refine Script.all_withFirst fun page member => ?_
    have every := figures.2 page member
    simp only [Resource.wanTraffic, wanTrafficPage, Format.wrapped, Format.Every,
      Members.Every, id_eq] at every
    exact traffic_all _ _ _ _ every.1.1.1
  have third : Script.All allowed (withFirst pages.fibre Resource.fibre.path fibre) :=
    Script.all_withFirst fun page _ => by simp [fibre, allowed_linkState countable]
  have fourth : Script.All allowed
      (withFirst pages.diagnostics Resource.diagnostics.path diagnostics) := by
    refine Script.all_withFirst fun page member => ?_
    have every := probed.2 page member
    simp only [Resource.diagnostics, Diagnostics.page, Diagnostics.format, Format.wrapped,
      Members.field, Format.Every, Members.Every, id_eq] at every
    simp only [diagnostics, Script.all_append]
    exact ⟨⟨probes_all _ every.1.1.2, probes_all _ every.1.2.1.2⟩,
      probes_all _ every.1.2.2.1.2⟩
  simp [wan, first, second, third, fourth]

theorem lan_all (countable : Countable allowed bound) {pages : LanPages}
    (figures : Resource.lanTraffic.All allowed bound pages.traffic) :
    Script.All allowed (lan pages) := by
  have first : Script.All allowed (withFirst pages.traffic Resource.lanTraffic.path
      (traffic "bbox_lan" [] "lan.stats" false)) := by
    refine Script.all_withFirst fun page member => ?_
    have every := figures.2 page member
    simp only [Resource.lanTraffic, lanTrafficPage, Format.wrapped, Format.Every,
      Members.Every, id_eq] at every
    exact traffic_all _ _ _ _ every.1.1
  have second : Script.All allowed (withFirst pages.hosts Resource.hosts.path hosts) :=
    Script.all_withFirst fun page _ => by simp [hosts]
  have third : Script.All allowed
      (withFirst pages.lan Resource.lan.path fun lan => ports lan.ports) := by
    refine Script.all_withFirst fun page _ step member => ?_
    obtain ⟨position, inside, rfl⟩ := List.mem_mapIdx.mp member
    exact allowed_linkState countable _
  simp [lan, first, second, third]

theorem wireless_all {bands : List BandPages}
    (all : ∀ band ∈ bands, (Resource.radio band.band).All allowed bound band.pages) :
    Script.All allowed (wireless bands) := by
  refine Script.all_flatMap.mpr fun pages member => ?_
  refine Script.all_cons.mpr ⟨Step.all_inform _, Script.all_withFirst fun page inPages => ?_⟩
  have every := (all pages member).2 page inPages
  simp only [Resource.radio, Radio.page, Radio.format, Format.wrapped, Members.field, Format.Every,
    Members.Every, id_eq] at every
  exact traffic_all _ _ _ _ every.1.1.2.1

theorem dns_all {pages : List Resolver} (all : Resource.resolver.All allowed bound pages) :
    Script.All allowed (dns pages) := by
  refine Script.all_cons.mpr ⟨Step.all_inform _, Script.all_withFirst fun page member => ?_⟩
  have every := all.2 page member
  simp only [Resource.resolver, Resolver.page, Resolver.format, Format.wrapped, Members.field,
    Format.Every, Members.Every, id_eq] at every
  simp [resolver, every]

/-- The channels of all pages are at most as many as pages of the longest kind would hold. -/
theorem iptv_all (countable : Countable allowed bound) {pages : List Television}
    (all : Resource.television.All allowed bound pages) : Script.All allowed (iptv pages) := by
  have every (page) (member : page ∈ pages) : page.channels.length ≤ bound ∧
      ∀ channel ∈ page.channels, channel.receipt.All allowed := by
    have every := all.2 page member
    simp only [Resource.television, Television.format, Channel.format, Members.field, Format.Every,
      Members.Every] at every
    exact ⟨every.1.1, fun channel inPage => (every.1.2 channel inPage).2.2.2.2.1⟩
  have count : (pages.flatMap (·.channels)).length ≤ bound * bound := by
    rw [List.length_flatMap]
    refine (List.sum_le_card_nsmul _ bound ?_).trans ?_
    · rintro _ measured
      obtain ⟨page, member, rfl⟩ := List.mem_map.mp measured
      exact (every page member).1
    · rw [List.length_map, smul_eq_mul]
      exact Nat.mul_le_mul_right bound all.1
  simp only [iptv, Script.all_cons, Script.all_append, Script.all_map, Script.all_nil]
  refine ⟨Step.all_inform _, fun shown member => ?_, countable.ofNat _ count, trivial⟩
  obtain ⟨page, inPages, inPage⟩ := List.mem_flatMap.mp member
  exact (every page inPages).2 shown inPage

/-- A projection writes nothing but quantities of its pages, link states and counts. -/
theorem project_all (countable : Countable allowed bound) {snapshot : Snapshot}
    (all : snapshot.All allowed bound) {samples : SampleSet}
    (projected : (project snapshot).1 = .ok samples) : samples.All allowed := by
  have scripts (group : Group) : Script.All allowed (script snapshot group) := by
    cases group with
    | device => exact device_all all.device all.processor all.memory
    | services => exact services_all all.services
    | wan => exact wan_all countable all.wan all.wanTraffic all.diagnostics
    | lan => exact lan_all countable all.lanTraffic
    | wireless => exact wireless_all all.wireless
    | dns => exact dns_all all.dns
    | iptv => exact iptv_all countable all.iptv
  have whole : Script.All allowed (wholeScript snapshot) :=
    Script.all_flatMap.mpr fun group _ => Script.all_inGroup (scripts group) group
  rw [samples_of_project_eq_ok projected]
  exact Script.run_all countable whole nofun

end Projection

end RouterTelemetry
