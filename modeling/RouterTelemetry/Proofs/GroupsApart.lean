import RouterTelemetry.Proofs.OwnSamples
import RouterTelemetry.Proofs.ProjectedKeys

/-!
# Groups do not interfere

A name belongs to one group, so under every key at most one group leaves anything.  The
samples of a projection are therefore those of the seven groups on their own, put together,
and the groups may write to one set in any order.
-/

namespace RouterTelemetry

/-- A name is in the table for one group only. -/
theorem Group.eq_of_name_mem {group other : Group} {name : String}
    (member : name ∈ group.families.map Family.fullName)
    (otherMember : name ∈ other.families.map Family.fullName) : group = other := by
  have distinct : (Group.all.flatMap fun group => group.families.map Family.fullName).Nodup := by
    rw [← List.map_flatMap]
    exact fullNames_nodup.of_cons
  have apart := (List.nodup_flatMap.mp distinct).2
  have : Std.Symm (Function.onFun List.Disjoint
      fun group : Group => group.families.map Family.fullName) :=
    ⟨fun _ _ disjoint _ left right => disjoint right left⟩
  by_contra ne
  exact apart.forall group.mem_all other.mem_all ne member otherMember

namespace Projection

variable {snapshot : Snapshot}

/-! ## Keys of the groups -/

/-- The keys of a group have names of the group. -/
theorem Script.OfGroup.name_mem {group : Group} {script : Script} (ofGroup : OfGroup group script)
    {key : SampleKey} (member : key ∈ script.keys) :
    key.name ∈ group.families.map Family.fullName := by
  obtain ⟨family, ofFamily, shaped⟩ := List.mem_map.mp (ofGroup.shape_mem member)
  exact List.mem_map.mpr ⟨family, ofFamily, congrArg Prod.fst shaped⟩

theorem group_eq_of_mem_keys {group other : Group} {key : SampleKey}
    (member : key ∈ (script snapshot group).keys)
    (otherMember : key ∈ (script snapshot other).keys) : group = other :=
  Group.eq_of_name_mem ((script_ofGroup snapshot group).name_mem member)
    ((script_ofGroup snapshot other).name_mem otherMember)

theorem Script.leaves_inGroup (key : SampleKey) (held : Option Float) (script : Script)
    (group : Group) : leaves key held (script.inGroup group) = leaves key held script := by
  induction script generalizing held with
  | nil => rfl
  | cons step script ih => cases step <;> exact ih _

/-- Under a key of one group the groups of a list leave what this group leaves alone. -/
theorem leaves_flatMap_of_mem {group : Group} {order : List Group} (distinct : order.Nodup)
    (listed : group ∈ order) {key : SampleKey} (member : key ∈ (script snapshot group).keys) :
    Script.leaves key none (order.flatMap (script snapshot)) =
      Script.leaves key none (script snapshot group) := by
  have unwritten {others : List Group} (absent : group ∉ others) :
      key ∉ Script.keys (others.flatMap (script snapshot)) := by
    rw [Script.keys, List.filterMap_flatMap, List.mem_flatMap]
    rintro ⟨other, inOthers, written⟩
    exact absent (group_eq_of_mem_keys member written ▸ inOthers)
  obtain ⟨before, after, rfl⟩ := List.append_of_mem listed
  obtain ⟨-, rest, apart⟩ := List.nodup_append.mp distinct
  have notBefore : group ∉ before := fun inside => apart group inside group List.mem_cons_self rfl
  rw [List.flatMap_append, List.flatMap_cons, Script.leaves_append, Script.leaves_append,
    Script.leaves_of_notMem (unwritten notBefore),
    Script.leaves_of_notMem (unwritten (List.nodup_cons.mp rest).1)]

/-- The order of the groups has no influence on what they leave. -/
theorem leaves_flatMap_of_perm {order : List Group} (perm : order.Perm Group.all)
    (key : SampleKey) :
    Script.leaves key none (order.flatMap (script snapshot)) =
      Script.leaves key none (Group.all.flatMap (script snapshot)) := by
  by_cases written : ∃ group, key ∈ (script snapshot group).keys
  · obtain ⟨group, member⟩ := written
    have distinct : Group.all.Nodup := by decide
    rw [leaves_flatMap_of_mem (perm.nodup_iff.mpr distinct) (perm.mem_iff.mpr group.mem_all) member,
      leaves_flatMap_of_mem distinct group.mem_all member]
  · have unwritten (order : List Group) : key ∉ Script.keys (order.flatMap (script snapshot)) := by
      rw [Script.keys, List.filterMap_flatMap, List.mem_flatMap]
      rintro ⟨group, -, member⟩
      exact written ⟨group, member⟩
    rw [Script.leaves_of_notMem (unwritten order), Script.leaves_of_notMem (unwritten _)]

/-! ## Groups on their own and on one set -/

/-- The groups of a list, one after the other on one set, up to the first that fails. -/
def onShared (snapshot : Snapshot) : List Group → SampleSet → Except Failure SampleSet
  | [], samples => .ok samples
  | group :: groups, samples =>
      let outcome := (script snapshot group).run samples
      match outcome.failure with
      | some failure => .error failure
      | none => onShared snapshot groups outcome.samples

/-- Groups that do not fail run as one script. -/
theorem onShared_eq_ok (going : ∀ group, (script snapshot group).failure? = none)
    (order : List Group) (samples : SampleSet) :
    onShared snapshot order samples =
      .ok (Script.run samples (order.flatMap (script snapshot))).samples := by
  induction order generalizing samples with
  | nil => rfl
  | cons group order ih =>
      rw [onShared, Script.failure_run, going group, List.flatMap_cons,
        Script.samples_run_append (going group)]
      exact ih _

/-- A projection succeeds exactly when every group does. -/
theorem failure?_wholeScript_eq_none_iff :
    (wholeScript snapshot).failure? = none ↔
      ∀ group, (script snapshot group).failure? = none := by
  rw [wholeScript, Script.failure?_flatMap, List.findSome?_eq_none_iff]
  simp only [Script.failure?_inGroup, Option.map_eq_none_iff, Group.mem_all, true_imp_iff]

theorem leaves_wholeScript (key : SampleKey) (held : Option Float) :
    Script.leaves key held (wholeScript snapshot) =
      Script.leaves key held (Group.all.flatMap (script snapshot)) := by
  have each (order : List Group) (held : Option Float) :
      Script.leaves key held (order.flatMap fun group => (script snapshot group).inGroup group) =
        Script.leaves key held (order.flatMap (script snapshot)) := by
    induction order generalizing held with
    | nil => rfl
    | cons group order ih =>
        rw [List.flatMap_cons, List.flatMap_cons, Script.leaves_append, Script.leaves_append,
          Script.leaves_inGroup, ih]
  exact each Group.all held

theorem ordered_ofGroup (group : Group) : (ofGroup group snapshot).samples.Ordered :=
  Script.ordered_run_empty _

theorem ofGroup_keys_apart {group other : Group} (ne : group ≠ other)
    {sample sample' : SampleKey × Float}
    (member : sample ∈ (ofGroup group snapshot).samples.samples)
    (member' : sample' ∈ (ofGroup other snapshot).samples.samples) : sample.1 ≠ sample'.1 :=
  fun same => ne (group_eq_of_mem_keys (Script.mem_keys_of_mem_run member)
    (same ▸ Script.mem_keys_of_mem_run member'))

section

variable (going : ∀ group, (script snapshot group).failure? = none)

include going

theorem get?_ofGroup (group : Group) (key : SampleKey) :
    (ofGroup group snapshot).samples.get? key =
      Script.leaves key none (script snapshot group) :=
  Script.get?_run_empty (going group) key

theorem get?_run_flatMap (order : List Group) (key : SampleKey) :
    (Script.run {} (order.flatMap (script snapshot))).samples.get? key =
      Script.leaves key none (order.flatMap (script snapshot)) := by
  refine Script.get?_run_empty ?_ key
  rw [Script.failure?_flatMap, List.findSome?_eq_none_iff]
  exact fun group _ => going group

theorem get?_run_wholeScript (key : SampleKey) :
    ((wholeScript snapshot).run {}).samples.get? key =
      Script.leaves key none (Group.all.flatMap (script snapshot)) :=
  (Script.get?_run_empty (failure?_wholeScript_eq_none_iff.mpr going) key).trans
    (leaves_wholeScript key none)

/-- A sample of the projection is one of some group, and the other way round. -/
theorem mem_run_wholeScript_iff (sample : SampleKey × Float) :
    sample ∈ ((wholeScript snapshot).run {}).samples.samples ↔
      ∃ group, sample ∈ (ofGroup group snapshot).samples.samples := by
  have distinct : Group.all.Nodup := by decide
  obtain ⟨key, value⟩ := sample
  rw [← (Script.ordered_run_empty _).get?_eq_some_iff, get?_run_wholeScript going]
  constructor
  · intro left
    have written : key ∈ Script.keys (Group.all.flatMap (script snapshot)) := by
      by_contra unwritten
      rw [Script.leaves_of_notMem unwritten] at left
      cases left
    rw [Script.keys, List.filterMap_flatMap, List.mem_flatMap] at written
    obtain ⟨group, listed, member⟩ := written
    rw [leaves_flatMap_of_mem distinct listed member, ← get?_ofGroup going] at left
    exact ⟨group, (ordered_ofGroup group).get?_eq_some_iff.mp left⟩
  · rintro ⟨group, member⟩
    rw [leaves_flatMap_of_mem distinct group.mem_all (Script.mem_keys_of_mem_run member),
      ← get?_ofGroup going]
    exact (ordered_ofGroup group).get?_eq_some_iff.mpr member

theorem samples_perm_flatMap_ofGroup :
    ((wholeScript snapshot).run {}).samples.samples.Perm
      (Group.all.flatMap fun group => (ofGroup group snapshot).samples.samples) := by
  have joined : (Group.all.flatMap fun group =>
      (ofGroup group snapshot).samples.samples).Nodup := by
    rw [List.nodup_flatMap]
    refine ⟨fun group _ => (ordered_ofGroup group).samples_nodup, ?_⟩
    refine List.Nodup.pairwise_of_forall_ne (by decide) fun group _ other _ ne => ?_
    exact fun sample member member' => ofGroup_keys_apart ne member member' rfl
  rw [List.perm_ext_iff_of_nodup (Script.ordered_run_empty _).samples_nodup joined]
  intro sample
  simp only [mem_run_wholeScript_iff going, List.mem_flatMap, Group.mem_all, true_and]

/-- In whatever order the groups write to one set, it becomes that of the projection. -/
theorem onShared_of_perm {order : List Group} (perm : order.Perm Group.all) :
    onShared snapshot order {} = .ok ((wholeScript snapshot).run {}).samples := by
  rw [onShared_eq_ok going]
  refine congrArg Except.ok
    (SampleSet.Ordered.ext (Script.ordered_run_empty _) (Script.ordered_run_empty _) fun key => ?_)
  rw [get?_run_flatMap going, get?_run_wholeScript going, leaves_flatMap_of_perm perm]

end

/-- On a snapshot that can be projected every group succeeds on its own, no key comes from two
of them, the result has their samples and no others, and in whatever order the groups write to
one set, it becomes the same result. -/
theorem project_joins_groups {samples : SampleSet}
    (projected : (project snapshot).1 = .ok samples) :
    (∀ group, (ofGroup group snapshot).failure = none) ∧
      (∀ group other, group ≠ other →
        ∀ sample ∈ (ofGroup group snapshot).samples.samples,
          ∀ sample' ∈ (ofGroup other snapshot).samples.samples, sample.1 ≠ sample'.1) ∧
      samples.samples.Perm
        (Group.all.flatMap fun group => (ofGroup group snapshot).samples.samples) ∧
      ∀ order : List Group, order.Perm Group.all → onShared snapshot order {} = .ok samples := by
  obtain ⟨whole, rfl⟩ := project_eq_ok_iff.mp projected
  have going := failure?_wholeScript_eq_none_iff.mp whole
  refine ⟨fun group => ?_, fun group other ne sample member sample' member' => ?_, ?_, ?_⟩
  · exact (Script.failure_run _ _).trans (going group)
  · exact ofGroup_keys_apart ne member member'
  · exact samples_perm_flatMap_ofGroup going
  · exact fun order perm => onShared_of_perm going perm

/-- Hosts that are counted under one link, a band that is fetched twice, two channels of one
address and a port that takes the place of another: the groups are apart all the same, and
may run backwards. -/
theorem repeated_keys_join_backwards :
    let host : Payload.Host := { link := "Ethernet", active := .value 1.0 }
    let radio (bytes : Float) : Payload.Radio :=
      { traffic := { received := { bytes := .value bytes } } }
    let channel (receipt : Float) : Payload.Channel :=
      { address := "232.0.0.1", receipt := .value receipt }
    let snapshot : Snapshot :=
      { device := ⟨[{}], [{}], [{}]⟩, services := [{}], wan := ⟨[{}], [{}], [{}], [{}]⟩
        lan := ⟨[{ ports := [{}, { id := .value 1.0, state := "up" }] }], [{}], [[host, host]]⟩
        wireless := [⟨.ghz5, [radio 1.0]⟩, ⟨.ghz5, [radio 2.0]⟩], dns := [{}]
        iptv := [{ channels := [channel 1.0, channel 0.0] }] }
    ∃ samples, (project snapshot).1 = .ok samples ∧
      samples.samples.Perm
        (Group.all.flatMap fun group => (ofGroup group snapshot).samples.samples) ∧
      onShared snapshot Group.all.reverse {} = .ok samples := by
  intro host radio channel snapshot
  have projected : (project snapshot).1 = .ok ((wholeScript snapshot).run {}).samples := rfl
  obtain ⟨-, -, joined, shared⟩ := project_joins_groups projected
  exact ⟨_, projected, joined, shared _ (List.reverse_perm _)⟩

end Projection

end RouterTelemetry
