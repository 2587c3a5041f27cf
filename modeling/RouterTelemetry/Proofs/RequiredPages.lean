import RouterTelemetry.Proofs.ScriptRuns

/-!
# Pages that a projection requires

A projection takes the first page of every resource but television and fails if there is
none; nothing else makes it fail.  The failure names the first resource in the order of the
projection, which is not the order of the requests.  Later pages are never looked at, while
television is taken as a whole, however short it is.
-/

namespace RouterTelemetry

open Payload

/-- A resource of which the projection takes the first page. -/
structure Need where
  group : Group
  path : String
  /-- How many pages there are. -/
  pages : Nat

/-- Why the projection fails without a page of the resource. -/
def Need.failure (need : Need) : Failure :=
  .inGroup need.group (.emptyResponse need.path)

/-- The failure of a resource without pages. -/
def Need.failure? (need : Need) : Option Failure :=
  if need.pages = 0 then some need.failure else none

theorem Need.failure?_eq_none_iff {need : Need} : need.failure? = none ↔ need.pages ≠ 0 := by
  simp [failure?]

theorem Need.failure?_eq_some_iff {need : Need} {failure : Failure} :
    need.failure? = some failure ↔ need.pages = 0 ∧ failure = need.failure := by
  simp [failure?, eq_comm]

namespace Snapshot

/-- Every resource of which a first page is taken, in the order of the projection. -/
def needs (snapshot : Snapshot) : List Need :=
  [⟨.device, "/device", snapshot.device.device.length⟩,
    ⟨.device, "/device/mem", snapshot.device.memory.length⟩,
    ⟨.device, "/device/cpu", snapshot.device.processor.length⟩,
    ⟨.services, "/services", snapshot.services.length⟩,
    ⟨.wan, "/wan/ip", snapshot.wan.wan.length⟩,
    ⟨.wan, "/wan/ip/stats", snapshot.wan.traffic.length⟩,
    ⟨.wan, "/wan/ftth/stats", snapshot.wan.fibre.length⟩,
    ⟨.wan, "/wan/diags", snapshot.wan.diagnostics.length⟩,
    ⟨.lan, "/lan/stats", snapshot.lan.traffic.length⟩,
    ⟨.lan, "/hosts", snapshot.lan.hosts.length⟩,
    ⟨.lan, "/lan/ip", snapshot.lan.lan.length⟩] ++
  (snapshot.wireless.map fun pages =>
    ⟨.wireless, "/wireless/" ++ pages.band.code ++ "/stats", pages.pages.length⟩) ++
  [⟨.dns, "/dns/stats", snapshot.dns.length⟩]

/-- The snapshot without later pages; television keeps all of its pages. -/
def firstPages (snapshot : Snapshot) : Snapshot where
  device :=
    { device := snapshot.device.device.take 1
      processor := snapshot.device.processor.take 1
      memory := snapshot.device.memory.take 1 }
  services := snapshot.services.take 1
  wan :=
    { wan := snapshot.wan.wan.take 1
      traffic := snapshot.wan.traffic.take 1
      fibre := snapshot.wan.fibre.take 1
      diagnostics := snapshot.wan.diagnostics.take 1 }
  lan :=
    { lan := snapshot.lan.lan.take 1
      traffic := snapshot.lan.traffic.take 1
      hosts := snapshot.lan.hosts.take 1 }
  wireless := snapshot.wireless.map fun pages => { pages with pages := pages.pages.take 1 }
  dns := snapshot.dns.take 1
  iptv := snapshot.iptv

end Snapshot

namespace Projection

/-! ## Steps that do not stop -/

theorem failure?_traffic (family : String) (labels : Labels) (path : String) (line : Bool)
    (figures : Traffic) : (traffic family labels path line figures).failure? = none := by
  cases line <;> rfl

theorem failure?_probes (mode : String) (list : List Probe) :
    (probes mode list).failure? = none := by
  unfold probes
  cases selectProbe? list <;> rfl

theorem failure?_diagnostics (page : Diagnostics) : (diagnostics page).failure? = none := by
  simp only [diagnostics, Script.failure?_append, failure?_probes, Option.or_none]

theorem failure?_hosts (list : List Host) : (hosts list).failure? = none := by
  refine Script.failure?_eq_none_iff.mpr fun step member => ?_
  obtain ⟨host, _, rfl⟩ := List.mem_map.mp member
  rfl

theorem failure?_ports (list : List Port) : (ports list).failure? = none := by
  refine Script.failure?_eq_none_iff.mpr fun step member => ?_
  obtain ⟨position, _, rfl⟩ := List.mem_mapIdx.mp member
  rfl

theorem failure?_iptv (pages : List Television) : (iptv pages).failure? = none := by
  refine Script.failure?_eq_none_iff.mpr (List.forall_mem_cons.mpr ⟨rfl, ?_⟩)
  refine List.forall_mem_append.mpr ⟨fun step member => ?_, List.forall_mem_singleton.mpr rfl⟩
  obtain ⟨shown, _, rfl⟩ := List.mem_map.mp member
  rfl

/-! ## Failures of the groups -/

/-- The needs are looked at in order. -/
def firstUnmet? (needs : List Need) : Option Failure :=
  needs.findSome? Need.failure?

theorem firstUnmet?_append (needs later : List Need) :
    firstUnmet? (needs ++ later) = (firstUnmet? needs).or (firstUnmet? later) :=
  List.findSome?_append

section

variable (group : Group)

theorem Script.failure?_inform_inGroup (message : String) (script : Script) :
    (inGroup group (inform message :: script)).failure? = (inGroup group script).failure? :=
  rfl

theorem Script.failure?_append_inGroup (script later : Script) :
    (inGroup group (script ++ later)).failure? =
      (inGroup group script).failure?.or (inGroup group later).failure? := by
  rw [inGroup, List.map_append]
  exact failure?_append _ _

/-- The first page of a resource is a need of its group. -/
theorem Script.failure?_withFirst_inGroup {α : Type} {path : String} {steps : α → Script}
    (going : ∀ page, (steps page).failure? = none) (pages : List α) :
    (inGroup group (withFirst pages path steps)).failure? =
      firstUnmet? [⟨group, path, pages.length⟩] := by
  cases pages with
  | nil => rfl
  | cons page rest =>
      rw [failure?_inGroup, withFirst, going page]
      rfl

end

theorem failure?_device (pages : DevicePages) :
    ((device pages).inGroup .device).failure? =
      firstUnmet? [⟨.device, "/device", pages.device.length⟩,
        ⟨.device, "/device/mem", pages.memory.length⟩,
        ⟨.device, "/device/cpu", pages.processor.length⟩] := by
  rw [device, Script.failure?_inform_inGroup, Script.failure?_append_inGroup,
    Script.failure?_append_inGroup, Script.failure?_withFirst_inGroup _ fun _ => rfl,
    Script.failure?_withFirst_inGroup _ fun _ => rfl,
    Script.failure?_withFirst_inGroup _ fun _ => rfl, ← firstUnmet?_append, ← firstUnmet?_append]
  rfl

theorem failure?_services (pages : List Services) :
    ((services pages).inGroup .services).failure? =
      firstUnmet? [⟨.services, "/services", pages.length⟩] :=
  Script.failure?_withFirst_inGroup _ (fun _ => rfl) pages

theorem failure?_wan (pages : WanPages) :
    ((wan pages).inGroup .wan).failure? =
      firstUnmet? [⟨.wan, "/wan/ip", pages.wan.length⟩,
        ⟨.wan, "/wan/ip/stats", pages.traffic.length⟩,
        ⟨.wan, "/wan/ftth/stats", pages.fibre.length⟩,
        ⟨.wan, "/wan/diags", pages.diagnostics.length⟩] := by
  rw [wan, Script.failure?_inform_inGroup, Script.failure?_append_inGroup,
    Script.failure?_append_inGroup, Script.failure?_append_inGroup,
    Script.failure?_withFirst_inGroup _ fun _ => rfl,
    Script.failure?_withFirst_inGroup _ (failure?_traffic _ _ _ _),
    Script.failure?_withFirst_inGroup _ fun _ => rfl,
    Script.failure?_withFirst_inGroup _ failure?_diagnostics, ← firstUnmet?_append,
    ← firstUnmet?_append, ← firstUnmet?_append]
  rfl

theorem failure?_lan (pages : LanPages) :
    ((lan pages).inGroup .lan).failure? =
      firstUnmet? [⟨.lan, "/lan/stats", pages.traffic.length⟩,
        ⟨.lan, "/hosts", pages.hosts.length⟩, ⟨.lan, "/lan/ip", pages.lan.length⟩] := by
  rw [lan, Script.failure?_inform_inGroup, Script.failure?_append_inGroup,
    Script.failure?_append_inGroup,
    Script.failure?_withFirst_inGroup _ (failure?_traffic _ _ _ _),
    Script.failure?_withFirst_inGroup _ failure?_hosts,
    Script.failure?_withFirst_inGroup _ fun page : Lan => failure?_ports page.ports,
    ← firstUnmet?_append, ← firstUnmet?_append]
  rfl

/-- The bands are looked at in their order. -/
theorem failure?_wireless (bands : List BandPages) :
    ((wireless bands).inGroup .wireless).failure? =
      firstUnmet? (bands.map fun pages =>
        ⟨.wireless, "/wireless/" ++ pages.band.code ++ "/stats", pages.pages.length⟩) := by
  induction bands with
  | nil => rfl
  | cons pages bands ih =>
      rw [wireless, List.flatMap_cons, Script.failure?_append_inGroup, ← wireless, ih, band,
        Script.failure?_inform_inGroup,
        Script.failure?_withFirst_inGroup _ fun _ => failure?_traffic _ _ _ _ _,
        ← firstUnmet?_append, Band.statsPath_eq]
      rfl

theorem failure?_dns (pages : List Resolver) :
    ((dns pages).inGroup .dns).failure? = firstUnmet? [⟨.dns, "/dns/stats", pages.length⟩] :=
  Script.failure?_withFirst_inGroup _ (fun _ => rfl) pages

/-- The script of a projection fails with the first need that is not met. -/
theorem failure?_wholeScript (snapshot : Snapshot) :
    (wholeScript snapshot).failure? = firstUnmet? snapshot.needs := by
  have television : ((iptv snapshot.iptv).inGroup .iptv).failure? = none := by
    rw [Script.failure?_inGroup, failure?_iptv]
    rfl
  simp only [wholeScript, Group.all, List.flatMap_cons, List.flatMap_nil, Script.failure?_append,
    Script.failure?_nil, script, failure?_device, failure?_services, failure?_wan, failure?_lan,
    failure?_wireless, failure?_dns, television, Option.or_none]
  simp only [← firstUnmet?_append]
  rfl

/-! ## Later pages -/

theorem withFirst_take {α : Type} (pages : List α) (path : String) (steps : α → Script) :
    withFirst (pages.take 1) path steps = withFirst pages path steps := by
  cases pages <;> rfl

theorem band_take (pages : BandPages) :
    band { pages with pages := pages.pages.take 1 } = band pages := by
  rw [band, withFirst_take, band]

/-- No step of a projection comes from a later page. -/
theorem wholeScript_firstPages (snapshot : Snapshot) :
    wholeScript snapshot.firstPages = wholeScript snapshot := by
  have groups (group : Group) : script snapshot.firstPages group = script snapshot group := by
    cases group with
    | device => simp only [script, Snapshot.firstPages, device, withFirst_take]
    | services => simp only [script, Snapshot.firstPages, services, withFirst_take]
    | wan => simp only [script, Snapshot.firstPages, wan, withFirst_take]
    | lan => simp only [script, Snapshot.firstPages, lan, withFirst_take]
    | wireless => simp only [script, Snapshot.firstPages, wireless, List.flatMap_map, band_take]
    | dns => simp only [script, Snapshot.firstPages, dns, withFirst_take]
    | iptv => rfl
  simp only [wholeScript, groups]

/-- A projection fails exactly when a resource has no first page, and names the first such
resource.  Television cannot make it fail.  Result and events are those of the first pages
and of all pages of television. -/
theorem project_fails_at_first_empty (snapshot : Snapshot) :
    ((∃ failure, (project snapshot).1 = .error failure) ↔
        ∃ need ∈ snapshot.needs, need.pages = 0) ∧
      (∀ failure, (project snapshot).1 = .error failure ↔
        ∃ before need after, snapshot.needs = before ++ need :: after ∧
          (∀ earlier ∈ before, earlier.pages ≠ 0) ∧ need.pages = 0 ∧
            failure = .inGroup need.group (.emptyResponse need.path)) ∧
      (∀ pages failure, (project { snapshot with iptv := pages }).1 = .error failure ↔
        (project snapshot).1 = .error failure) ∧
      ∀ other : Snapshot, other.firstPages = snapshot.firstPages →
        project other = project snapshot := by
  refine ⟨?_, fun failure => ?_, fun pages failure => ?_, fun other same => ?_⟩
  · simp only [project_eq_error_iff, failure?_wholeScript, ← Option.ne_none_iff_exists']
    simp only [firstUnmet?, ne_eq, List.findSome?_eq_none_iff, Need.failure?_eq_none_iff,
      not_forall, not_not, exists_prop]
  · rw [project_eq_error_iff, failure?_wholeScript, firstUnmet?, List.findSome?_eq_some_iff]
    constructor
    · rintro ⟨before, need, after, split, unmet, met⟩
      obtain ⟨empty, named⟩ := Need.failure?_eq_some_iff.mp unmet
      exact ⟨before, need, after, split,
        fun earlier member => Need.failure?_eq_none_iff.mp (met earlier member), empty, named⟩
    · rintro ⟨before, need, after, split, met, empty, named⟩
      exact ⟨before, need, after, split, Need.failure?_eq_some_iff.mpr ⟨empty, named⟩,
        fun earlier member => Need.failure?_eq_none_iff.mpr (met earlier member)⟩
  · rw [project_eq_error_iff, project_eq_error_iff, failure?_wholeScript, failure?_wholeScript]
    rfl
  · have scripts : wholeScript other = wholeScript snapshot := by
      rw [← wholeScript_firstPages other, same, wholeScript_firstPages]
    rw [project, project, scripts]

/-- Memory comes before processor in a projection, although it is asked for later.  Second
pages, with a band among them, change nothing. -/
theorem memory_missed_before_processor :
    let snapshot : Snapshot :=
      { device := ⟨[{ status := .value 1.0 }], [], []⟩, services := [{}]
        wan := ⟨[{}], [{}], [{}], [{}]⟩, lan := ⟨[{}], [{}], []⟩
        wireless := [⟨.ghz5, [{}]⟩], dns := [{}], iptv := [] }
    let other : Snapshot :=
      { snapshot with
        device := ⟨[{ status := .value 1.0 }, { boots := .value 2.0 }], [], []⟩
        wireless := [⟨.ghz5, [{}, { traffic := { received := { bytes := .value 3.0 } } }]⟩] }
    other.firstPages = snapshot.firstPages ∧ project other = project snapshot ∧
      (project snapshot).1 = .error (.inGroup .device (.emptyResponse "/device/mem")) := by
  intro snapshot other
  obtain ⟨-, failing, -, later⟩ := project_fails_at_first_empty snapshot
  have same : other.firstPages = snapshot.firstPages := rfl
  refine ⟨same, later other same, (failing _).mpr ?_⟩
  exact ⟨[⟨.device, "/device", 1⟩], ⟨.device, "/device/mem", 0⟩, _, rfl,
    List.forall_mem_singleton.mpr Nat.one_ne_zero, rfl, rfl⟩

end Projection

end RouterTelemetry
