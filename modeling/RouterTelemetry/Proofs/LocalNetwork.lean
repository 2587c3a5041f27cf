import RouterTelemetry.Proofs.MeasureSigns
import RouterTelemetry.Proofs.OwnSamples
import RouterTelemetry.Proofs.ProjectedKeys
import RouterTelemetry.Proofs.RequiredPages
import RouterTelemetry.Proofs.WrittenValue

/-!
# Samples of the local network

Hosts are counted by their link: under a link stands what adding one for each active host makes
of zero, whatever the order of the hosts.  A port of the switch goes by its number, one without a
usable number by its position.  Numbers that differ are written differently, so the ports keep a
sample each as long as no position that stands in for a number is the number of another port;
otherwise the later port takes the place of the earlier one.
-/

namespace RouterTelemetry

theorem Decimal.exposed_render_injective : Function.Injective exposed.render := by
  intro value other same
  have read := parse?_render value
  rw [same, parse?_render] at read
  exact (Option.some.inj read).symm

/-- Positions up to fifty-three bits differ as doubles. -/
theorem Decimal.ofNat_inj {number other : Nat} (some_number : 0 < number) (few : number < 2 ^ 53)
    (some_other : 0 < other) (otherFew : other < 2 ^ 53)
    (same : Float.ofNat number = Float.ofNat other) : number = other := by
  have unpacked := congrArg (fun value : Float => value.toModel.unpack) same
  simp only [unpack_ofNat some_number few, unpack_ofNat some_other otherFew,
    Float.Model.UnpackedFloat.finite.injEq] at unpacked
  obtain ⟨-, mantissas, exponents⟩ := unpacked
  have value := scaled_nat_eq few some_number
  rw [mantissas, exponents, scaled_nat_eq otherFew some_other] at value
  exact_mod_cast value.symm

/-- The samples of one metric. -/
def SampleSet.ofMetric (set : SampleSet) (name : String) : List (SampleKey × Float) :=
  set.samples.filter (·.1.name == name)

namespace Payload

/-- The host is active and is seen on the link; without a link of its own it counts as seen on
`unknown`. -/
structure Host.ConnectedBy (host : Host) (link : String) : Prop where
  active : host.active.Positive
  link : host.link = link ∧ link ≠ "" ∨ host.link = "" ∧ link = "unknown"

end Payload

namespace Projection

open Payload

/-! ## Scripts of samples -/

namespace Script

/-- The script that records samples as they come. -/
def ofSamples (samples : List (SampleKey × Float)) : Script :=
  samples.map fun sample => .set sample.1 sample.2

theorem keys_ofSamples (samples : List (SampleKey × Float)) :
    keys (ofSamples samples) = samples.map Prod.fst := by
  rw [keys, ofSamples, List.filterMap_map, ← List.filterMap_eq_map]
  rfl

theorem ownSamples_ofSamples (samples : List (SampleKey × Float)) :
    ownSamples (ofSamples samples) = samples := by
  rw [ownSamples, ofSamples, List.filterMap_map]
  exact List.filterMap_some

/-- The last sample under a key is the one that stays. -/
theorem leaves_ofSamples (key : SampleKey) (held : Option Float)
    (samples : List (SampleKey × Float)) :
    leaves key held (ofSamples samples) = (samples.reverse.lookup key).or held := by
  induction samples generalizing held with
  | nil => rfl
  | cons sample samples ih =>
      refine (ih _).trans ?_
      rw [List.reverse_cons, List.lookup_append, Option.or_assoc]
      refine congrArg ((samples.reverse.lookup key).or ·) ?_
      by_cases same : sample.1 = key
      · simp [Step.leaves, List.lookup, same]
      · have other : (key == sample.1) = false := beq_eq_false_iff_ne.mpr (Ne.symm same)
        simp [Step.leaves, List.lookup, same, other]

end Script

/-! ## Steps of the group -/

/-- The steps for traffic and hosts. -/
def lanHead (figures : Traffic) (list : List Host) : Script :=
  inform "Store LAN metrics" :: (traffic "bbox_lan" [] "lan.stats" false figures ++ hosts list)

theorem lan_eq_head_append (lans : List Lan) (figures : Traffic) (others : List Traffic)
    (list : List Host) (rest : List (List Host)) :
    lan ⟨lans, figures :: others, list :: rest⟩ =
      lanHead figures list ++ withFirst lans Resource.lan.path fun lan => ports lan.ports :=
  rfl

theorem lan_of_pages (page : Lan) (later : List Lan) (figures : Traffic) (others : List Traffic)
    (list : List Host) (rest : List (List Host)) :
    lan ⟨page :: later, figures :: others, list :: rest⟩ =
      lanHead figures list ++ ports page.ports :=
  rfl

theorem failure?_lanHead (figures : Traffic) (list : List Host) :
    (lanHead figures list).failure? = none := by
  change Script.failure? (_ ++ _) = none
  rw [Script.failure?_append, failure?_traffic, failure?_hosts]
  rfl

theorem name_of_mem_hosts {list : List Host} {key : SampleKey}
    (member : key ∈ Script.keys (hosts list)) : key.name = "bbox_lan_connected_devices" := by
  obtain ⟨step, inScript, own⟩ := List.mem_filterMap.mp member
  obtain ⟨host, _, rfl⟩ := List.mem_map.mp inScript
  cases own
  rfl

theorem name_of_mem_ports {list : List Port} {key : SampleKey}
    (member : key ∈ Script.keys (ports list)) : key.name = "bbox_lan_switch_port_up" := by
  obtain ⟨step, inScript, own⟩ := List.mem_filterMap.mp member
  obtain ⟨position, _, rfl⟩ := List.mem_mapIdx.mp inScript
  cases own
  rfl

/-- Traffic is recorded under other names than link states and counts. -/
theorem name_of_mem_lanTraffic {figures : Traffic} {key : SampleKey}
    (member : key ∈ Script.keys (traffic "bbox_lan" [] "lan.stats" false figures)) :
    key.name ∉ stateNames := by
  have blank : ∀ key ∈ Script.keys (traffic "bbox_lan" [] "lan.stats" false {}),
      key.name ∉ stateNames := by
    decide +kernel
  exact blank key member

theorem name_ne_of_mem_lanHead {figures : Traffic} {list : List Host} {key : SampleKey}
    (member : key ∈ Script.keys (lanHead figures list)) :
    key.name ≠ "bbox_lan_switch_port_up" := by
  intro named
  change key ∈ Script.keys (_ ++ _) at member
  rw [Script.keys_append, List.mem_append] at member
  rcases member with ofTraffic | ofHosts
  · exact name_of_mem_lanTraffic ofTraffic (by simp [named, stateNames])
  · rw [name_of_mem_hosts ofHosts] at named
    exact absurd named (by decide)

/-! ## Hosts -/

/-- The key under which the hosts of a link are counted. -/
def devicesKey (link : String) : SampleKey :=
  ⟨"bbox_lan_connected_devices", [("link", link)]⟩

/-- The host is counted under the key. -/
def countsUnder (key : SampleKey) (host : Host) : Bool :=
  host.active.isPositive && devicesKey (orElse host.link "unknown") == key

theorem countsUnder_devicesKey_iff {host : Host} {link : String} :
    countsUnder (devicesKey link) host = true ↔ host.ConnectedBy link := by
  have seen : orElse host.link "unknown" = link ↔
      host.link = link ∧ link ≠ "" ∨ host.link = "" ∧ link = "unknown" := by
    by_cases empty : host.link = ""
    · have standIn : orElse "" "unknown" = "unknown" := rfl
      rw [empty, standIn]
      constructor
      · exact fun same => .inr ⟨rfl, same.symm⟩
      · rintro (⟨same, named⟩ | ⟨-, same⟩)
        · exact absurd same.symm named
        · exact same.symm
    · simp only [orElse, String.isEmpty_iff, empty, if_false, false_and, or_false]
      exact ⟨fun same => ⟨same, same ▸ empty⟩, And.left⟩
  rw [countsUnder, Bool.and_eq_true, Measure.isPositive_iff, beq_iff_eq]
  simp only [devicesKey, SampleKey.mk.injEq, List.cons.injEq, Prod.mk.injEq, true_and, and_true,
    seen]
  exact ⟨fun both => ⟨both.1, both.2⟩, fun connected => ⟨connected.active, connected.link⟩⟩

instance (host : Host) (link : String) : Decidable (host.ConnectedBy link) :=
  decidable_of_iff _ countsUnder_devicesKey_iff

/-- The hosts of a list add one each under their key. -/
theorem leaves_hosts (key : SampleKey) (held : Option Float) (list : List Host) :
    Script.leaves key held (hosts list) =
      if list.countP (countsUnder key) = 0 then held
      else some ((· + 1.0)^[list.countP (countsUnder key)] (held.getD 0.0)) := by
  induction list generalizing held with
  | nil => rfl
  | cons host list ih =>
      by_cases active : host.active.isPositive = true
      · have first : hosts (host :: list) =
            .count (devicesKey (orElse host.link "unknown")) :: hosts list := by
          rw [hosts,
            List.filter_cons_of_pos (p := fun host : Host => host.active.isPositive) active]
          rfl
        rw [first]
        refine (ih _).trans ?_
        by_cases same : devicesKey (orElse host.link "unknown") = key
        · have counted : countsUnder key host = true := by simp [countsUnder, active, same]
          rw [List.countP_cons_of_pos counted, if_neg (Nat.succ_ne_zero _),
            Function.iterate_succ_apply, Step.leaves, if_pos same]
          split
          next none => rw [none]; rfl
          next => rfl
        · have passed : ¬countsUnder key host = true := by simp [countsUnder, same]
          rw [List.countP_cons_of_neg passed, Step.leaves, if_neg same]
      · have passed : ¬countsUnder key host = true := by simp [countsUnder, active]
        have first : hosts (host :: list) = hosts list := by
          rw [hosts,
            List.filter_cons_of_neg (p := fun host : Host => host.active.isPositive) active]
          rfl
        rw [first, ih, List.countP_cons_of_neg passed]

section

variable (lans : List Lan) (figures : Traffic) (others : List Traffic) (rest : List (List Host))

/-- Hosts are counted by link and nothing else is recorded under the name. -/
theorem exists_link_of_mem_keys {list : List Host} {key : SampleKey}
    (member : key ∈ Script.keys (lan ⟨lans, figures :: others, list :: rest⟩))
    (named : key.name = "bbox_lan_connected_devices") : ∃ link, key = devicesKey link := by
  rw [lan_eq_head_append, Script.keys_append, List.mem_append] at member
  rcases member with inHead | ofLans
  · change key ∈ Script.keys (_ ++ _) at inHead
    rw [Script.keys_append, List.mem_append] at inHead
    rcases inHead with ofTraffic | ofHosts
    · exact absurd (by simp [named, stateNames]) (name_of_mem_lanTraffic ofTraffic)
    · obtain ⟨step, inScript, own⟩ := List.mem_filterMap.mp ofHosts
      obtain ⟨host, _, rfl⟩ := List.mem_map.mp inScript
      exact ⟨_, (Option.some.inj own).symm⟩
  · obtain ⟨page, ofPorts⟩ := Script.exists_mem_keys_of_withFirst ofLans
    rw [name_of_mem_ports ofPorts] at named
    exact absurd named (by decide)

/-- What stands under a link is what the hosts make of nothing. -/
theorem get?_devicesKey (list : List Host) (link : String) :
    ((lan ⟨lans, figures :: others, list :: rest⟩).run {}).samples.get? (devicesKey link) =
      Script.leaves (devicesKey link) none (hosts list) := by
  have notInPorts : devicesKey link ∉
      Script.keys (withFirst lans Resource.lan.path fun lan => ports lan.ports) := by
    intro member
    obtain ⟨page, written⟩ := Script.exists_mem_keys_of_withFirst member
    exact absurd (name_of_mem_ports written) (by simp [devicesKey])
  have notInTraffic : devicesKey link ∉
      Script.keys (traffic "bbox_lan" [] "lan.stats" false figures) :=
    fun written => name_of_mem_lanTraffic written (by simp [devicesKey, stateNames])
  change SampleSet.get? (Script.run {} (lan _)).samples _ = _
  rw [lan_eq_head_append, Script.samples_run_append (failure?_lanHead figures list),
    Script.get?_run_of_notMem notInPorts, Script.get?_run_empty (failure?_lanHead figures list)]
  change Script.leaves _ none (_ ++ _) = _
  rw [Script.leaves_append, Script.leaves_of_notMem notInTraffic]

/-- The order of the hosts does not matter. -/
theorem samples_lan_of_perm {list list' : List Host} (perm : list'.Perm list) :
    ((lan ⟨lans, figures :: others, list' :: rest⟩).run {}).samples =
      ((lan ⟨lans, figures :: others, list :: rest⟩).run {}).samples := by
  have head : (Script.run {} (lanHead figures list')).samples =
      (Script.run {} (lanHead figures list)).samples := by
    refine SampleSet.Ordered.ext (Script.ordered_run_empty _) (Script.ordered_run_empty _)
      fun key => ?_
    rw [Script.get?_run_empty (failure?_lanHead figures list'),
      Script.get?_run_empty (failure?_lanHead figures list)]
    change Script.leaves key none (_ ++ _) = Script.leaves key none (_ ++ _)
    rw [Script.leaves_append, Script.leaves_append, leaves_hosts, leaves_hosts, perm.countP_eq]
  change (Script.run {} (lan _)).samples = (Script.run {} (lan _)).samples
  rw [lan_eq_head_append, lan_eq_head_append,
    Script.samples_run_append (failure?_lanHead figures list'),
    Script.samples_run_append (failure?_lanHead figures list), head]

end

/-- Once there is a page of traffic, a link has a sample exactly when some host is connected by it,
and its value is what adding one for each such host makes of zero.  There are no other samples
of this metric, and the order of the hosts does not matter to any sample.  It is all the same
whether there is a page of ports. -/
theorem connected_devices_counted (lans : List Lan) (figures : Traffic) (others : List Traffic)
    (list : List Host) (rest : List (List Host)) :
    let left (list : List Host) :=
      ((lan ⟨lans, figures :: others, list :: rest⟩).run {}).samples
    (∀ link, ((left list).get? (devicesKey link)).isSome = true ↔
      ∃ host ∈ list, host.ConnectedBy link) ∧
    (∀ link value, (left list).get? (devicesKey link) = some value →
      value = (· + 1.0)^[list.countP (·.ConnectedBy link)] 0.0) ∧
    (∀ sample ∈ (left list).ofMetric "bbox_lan_connected_devices",
      ∃ link, sample.1 = devicesKey link) ∧
    ∀ list', list'.Perm list → left list' = left list := by
  intro left
  have counts (link : String) : list.countP (countsUnder (devicesKey link)) =
      list.countP (·.ConnectedBy link) :=
    List.countP_congr fun host _ => by rw [countsUnder_devicesKey_iff, decide_eq_true_iff]
  have value (link : String) : (left list).get? (devicesKey link) =
      if list.countP (·.ConnectedBy link) = 0 then none
      else some ((· + 1.0)^[list.countP (·.ConnectedBy link)] 0.0) := by
    rw [← counts]
    exact (get?_devicesKey lans figures others rest list link).trans (leaves_hosts _ none list)
  refine ⟨fun link => ?_, fun link held => ?_, fun sample member => ?_, fun list' perm => ?_⟩
  · have some_host := List.countP_pos_iff (p := (·.ConnectedBy link)) (l := list)
    simp only [decide_eq_true_iff] at some_host
    rw [value, ← some_host]
    split
    next none => simp [none]
    next some => simpa using Nat.pos_of_ne_zero some
  · rw [value]
    split
    next => exact nofun
    next => exact fun same => (Option.some.inj same).symm
  · obtain ⟨inSamples, named⟩ := List.mem_filter.mp member
    exact exists_link_of_mem_keys lans figures others rest (Script.mem_keys_of_mem_run inSamples)
      (by simpa using named)
  · exact samples_lan_of_perm lans figures others rest perm

/-- Hosts without a link and hosts on a link of the name `unknown` are counted together; flags
that are no numbers, zeros and hosts without a flag do not count. -/
theorem unknown_links_counted_together :
    let list : List Host :=
      [{ active := .value 1.0 }, { active := .value 0.0, link := "Ethernet" },
        { active := .value 2.5, link := "unknown" }, { link := "Wifi 5" },
        { active := .invalid (.value (.text "x") quantityName), link := "Ethernet" }]
    let left (list : List Host) := ((lan ⟨[], [{}], [list]⟩).run {}).samples
    (left list).get? (devicesKey "unknown") = some (0.0 + 1.0 + 1.0) ∧
      (left list).get? (devicesKey "Ethernet") = none ∧
      list.reverse.Perm list ∧ left list.reverse = left list := by
  intro list left
  obtain ⟨exists_iff, value, -, order⟩ := connected_devices_counted [] {} [] list []
  refine ⟨?_, ?_, List.reverse_perm list, order _ (List.reverse_perm list)⟩
  · obtain ⟨held, shown⟩ := Option.isSome_iff_exists.mp ((exists_iff "unknown").mpr (by decide))
    have counted : list.countP (·.ConnectedBy "unknown") = 2 := by decide
    have sum := value "unknown" held shown
    rw [counted] at sum
    exact shown.trans (congrArg some sum)
  · have none : ¬∃ host ∈ list, host.ConnectedBy "Ethernet" := by decide
    exact Option.not_isSome_iff_eq_none.mp (mt (exists_iff "Ethernet").mp none)

/-! ## Ports -/

/-- The number that a port goes by. -/
def portNumber (position : Nat) (port : Port) : Float :=
  port.id.quantity?.getD (Float.ofNat (position + 1))

/-- The state of a port under its number. -/
def portSample (position : Nat) (port : Port) : SampleKey × Float :=
  (⟨"bbox_lan_switch_port_up", [("port", portLabel position port)]⟩, linkState port.state)

/-- The usable numbers of the ports. -/
def portIds (ports : List Port) : List Float :=
  ports.filterMap (·.id.quantity?)

/-- A port without a usable number goes by another number than every other port. -/
def PortsApart (ports : List Port) : Prop :=
  ∀ position port, ports[position]? = some port → port.id.quantity? = none →
    ∀ place other, ports[place]? = some other → place ≠ position →
      portNumber place other ≠ portNumber position port

theorem portSample_key_eq_iff {position place : Nat} {port other : Port} :
    (portSample position port).1 = (portSample place other).1 ↔
      portNumber position port = portNumber place other := by
  have labels : (portSample position port).1 = (portSample place other).1 ↔
      Decimal.exposed.render (portNumber position port) =
        Decimal.exposed.render (portNumber place other) := by
    simp [portSample, portLabel, portNumber]
  rw [labels, Decimal.exposed_render_injective.eq_iff]

/-- Ports with distinct numbers have distinct keys exactly when they are apart. -/
theorem portKeys_nodup_iff {ports : List Port} (distinct : (portIds ports).Nodup) :
    ((ports.mapIdx portSample).map Prod.fst).Nodup ↔ PortsApart ports := by
  rw [List.nodup_iff_getElem?_ne_getElem?]
  simp only [List.length_map, List.length_mapIdx, List.getElem?_map, List.getElem?_mapIdx]
  constructor
  · intro keys position port here unnumbered place other there ne same
    rcases Nat.lt_or_gt_of_ne ne with before | after
    · refine keys place position before (List.getElem?_eq_some_iff.mp here).1 ?_
      simp [here, there, portSample_key_eq_iff.mpr same]
    · refine keys position place after (List.getElem?_eq_some_iff.mp there).1 ?_
      simp [here, there, portSample_key_eq_iff.mpr same.symm]
  · intro apart position place before inside same
    obtain ⟨other, there⟩ : ∃ other, ports[place]? = some other :=
      ⟨_, List.getElem?_eq_getElem inside⟩
    obtain ⟨port, here⟩ : ∃ port, ports[position]? = some port :=
      ⟨_, List.getElem?_eq_getElem (before.trans inside)⟩
    rw [here, there] at same
    have numbers := portSample_key_eq_iff.mp (Option.some.inj same)
    cases own : port.id.quantity? with
    | none => exact apart position port here own place other there before.ne' numbers.symm
    | some number =>
        cases otherOwn : other.id.quantity? with
        | none => exact apart place other there otherOwn position port here before.ne numbers
        | some otherNumber =>
            have ids := List.pairwise_iff_getElem.mp (List.pairwise_filterMap.mp distinct)
              position place (before.trans inside) inside before
            rw [List.getElem?_eq_some_iff] at here there
            obtain ⟨_, rfl⟩ := here
            obtain ⟨_, rfl⟩ := there
            refine ids number own otherNumber otherOwn ?_
            simpa [portNumber, own, otherOwn] using numbers

/-- Of fewer than two to the fifty-three ports, those without a usable number are apart from each
other. -/
theorem portsApart_iff_of_few {ports : List Port} (few : ports.length < 2 ^ 53) :
    PortsApart ports ↔ ∀ position port, ports[position]? = some port →
      port.id.quantity? = none → Float.ofNat (position + 1) ∉ portIds ports := by
  constructor
  · intro apart position port here unnumbered member
    obtain ⟨other, inPorts, numbered⟩ := List.mem_filterMap.mp member
    obtain ⟨place, there⟩ := List.mem_iff_getElem?.mp inPorts
    refine apart position port here unnumbered place other there ?_ ?_
    · rintro rfl
      rw [here] at there
      cases there
      rw [unnumbered] at numbered
      cases numbered
    · simp [portNumber, numbered, unnumbered]
  · intro free position port here unnumbered place other there ne same
    have inside := (List.getElem?_eq_some_iff.mp here).1
    have otherInside := (List.getElem?_eq_some_iff.mp there).1
    cases numbered : other.id.quantity? with
    | none =>
        simp only [portNumber, numbered, unnumbered, Option.getD_none] at same
        have places := Decimal.ofNat_inj (by omega) (by omega) (by omega) (by omega) same
        exact ne (Nat.succ.inj places)
    | some number =>
        simp only [portNumber, numbered, unnumbered, Option.getD_none, Option.getD_some] at same
        refine free position port here unnumbered (List.mem_filterMap.mpr ⟨other, ?_, ?_⟩)
        · exact List.mem_of_getElem? there
        · rw [numbered, same]

theorem ports_eq (list : List Port) : ports list = Script.ofSamples (list.mapIdx portSample) := by
  refine List.ext_getElem? fun position => ?_
  simp only [ports, Script.ofSamples, List.getElem?_mapIdx, List.getElem?_map, Option.map_map]
  rfl

section

variable (figures : Traffic) (list : List Host) (listed : List Port)

theorem keys_ports : Script.keys (ports listed) = (listed.mapIdx portSample).map Prod.fst := by
  rw [ports_eq, Script.keys_ofSamples]

theorem failure?_lanHead_append_ports :
    (lanHead figures list ++ ports listed).failure? = none := by
  rw [Script.failure?_append, failure?_lanHead, failure?_ports]
  rfl

/-- Under the key of a port stands the state of the last port that goes by it. -/
theorem get?_port {key : SampleKey} (named : key.name = "bbox_lan_switch_port_up") :
    ((lanHead figures list ++ ports listed).run {}).samples.get? key =
      (listed.mapIdx portSample).reverse.lookup key := by
  have early : key ∉ Script.keys (lanHead figures list) :=
    fun member => name_ne_of_mem_lanHead member named
  rw [Script.get?_run_empty (failure?_lanHead_append_ports figures list listed),
    Script.leaves_append, Script.leaves_of_notMem early, ports_eq, Script.leaves_ofSamples,
    Option.or_none]

/-- There is no sample of a port under another key than those of the list. -/
theorem shownPorts_keys_subset :
    (((lanHead figures list ++ ports listed).run {}).samples.ofMetric
      "bbox_lan_switch_port_up").map Prod.fst ⊆ (listed.mapIdx portSample).map Prod.fst := by
  intro key member
  obtain ⟨sample, inShown, rfl⟩ := List.mem_map.mp member
  obtain ⟨inSamples, named⟩ := List.mem_filter.mp inShown
  have written := Script.mem_keys_of_mem_run inSamples
  rw [Script.keys_append, List.mem_append] at written
  rcases written with early | ofPorts
  · exact absurd (by simpa using named) (name_ne_of_mem_lanHead early)
  · exact keys_ports listed ▸ ofPorts

/-- Ports with distinct keys keep a sample each. -/
theorem shownPorts_perm (distinct : ((listed.mapIdx portSample).map Prod.fst).Nodup) :
    (((lanHead figures list ++ ports listed).run {}).samples.ofMetric
      "bbox_lan_switch_port_up").Perm (listed.mapIdx portSample) := by
  have alone := Script.filter_samples_run_perm (·.name == "bbox_lan_switch_port_up")
    ((congrArg _ (List.append_nil _)).trans (failure?_lanHead_append_ports figures list listed))
    (fun key member => by simpa using name_ne_of_mem_lanHead member) (List.forall_mem_nil _)
    (fun key member => by simpa using name_of_mem_ports member)
    (keys_ports listed ▸ distinct)
  rw [List.append_nil, ports_eq, Script.ownSamples_ofSamples, ← ports_eq] at alone
  exact alone

end

/-- Of ports with distinct numbers as many samples are left as there are ports exactly when the
ports are apart.  Then each has its own state under its own number.  In any case a number has the
state of the last port that goes by it.  Fewer than two to the fifty-three ports are apart unless
one without a usable number stands where the number of another one says. -/
theorem ports_shown_iff (page : Lan) (later : List Lan) (figures : Traffic) (others : List Traffic)
    (list : List Host) (rest : List (List Host)) (distinct : (portIds page.ports).Nodup) :
    let samples := ((lan ⟨page :: later, figures :: others, list :: rest⟩).run {}).samples
    let shown := samples.ofMetric "bbox_lan_switch_port_up"
    let states := page.ports.mapIdx portSample
    (shown.length = page.ports.length ↔ PortsApart page.ports) ∧
      (PortsApart page.ports → shown.Perm states) ∧
      (∀ key, key.name = "bbox_lan_switch_port_up" →
        samples.get? key = states.reverse.lookup key) ∧
      (page.ports.length < 2 ^ 53 → (PortsApart page.ports ↔
        ∀ position port, page.ports[position]? = some port → port.id.quantity? = none →
          Float.ofNat (position + 1) ∉ portIds page.ports)) := by
  rw [lan_of_pages]
  intro samples shown states
  have shownKeys : (shown.map Prod.fst).Nodup :=
    (Script.ordered_run_empty _).keys_nodup.sublist (List.filter_sublist.map _)
  have complete (apart : PortsApart page.ports) : shown.Perm states :=
    shownPorts_perm figures list page.ports ((portKeys_nodup_iff distinct).mpr apart)
  refine ⟨⟨fun lengths => ?_, fun apart => ?_⟩, complete,
    fun key named => get?_port figures list page.ports named, portsApart_iff_of_few⟩
  · have within := shownPorts_keys_subset figures list page.ports
    have same := (List.subperm_of_subset shownKeys within).perm_of_length_le
      (by simp [lengths])
    exact (portKeys_nodup_iff distinct).mp (same.nodup_iff.mp shownKeys)
  · simpa [states] using (complete apart).length_eq

/-- Ports with a number, without one and with one that could not be read. -/
theorem unnumbered_ports_shown :
    let ports : List Port :=
      [{ state := "Up" }, { id := .value 5.0, state := "Down" },
        { id := .invalid (.value (.text "x") quantityName), state := "UP" }]
    let samples := ((lan ⟨[{ ports }], [{}], [[]]⟩).run {}).samples
    (portIds ports).Nodup ∧ PortsApart ports ∧
      (samples.ofMetric "bbox_lan_switch_port_up").Perm (ports.mapIdx portSample) := by
  intro ports samples
  have distinct : (portIds ports).Nodup := by decide
  have left : (samples.ofMetric "bbox_lan_switch_port_up").length = ports.length := by
    decide +kernel
  obtain ⟨apart_iff, shown, -, -⟩ := ports_shown_iff { ports } [] {} [] [] [] distinct
  exact ⟨distinct, apart_iff.mp left, shown (apart_iff.mp left)⟩

/-- The first of two ports has no number and is up, the second one is number one and is down: one
sample is left, and nothing of the first port. -/
theorem numbered_port_hides_first :
    let ports : List Port := [{ state := "Up" }, { id := .value 1.0, state := "Down" }]
    let outcome := (lan ⟨[{ ports }], [{}], [[]]⟩).run {}
    (portIds ports).Nodup ∧ outcome.failure = none ∧ ports.length = 2 ∧
      outcome.samples.ofMetric "bbox_lan_switch_port_up" =
        [(⟨"bbox_lan_switch_port_up", [("port", "1")]⟩, 0.0)] := by
  decide +kernel

end Projection

end RouterTelemetry
