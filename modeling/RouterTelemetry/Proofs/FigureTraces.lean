import RouterTelemetry.Proofs.Figures

/-!
# What a figure changes in a script

The figures of a snapshot are what its script records.  With another measure in the place of
one of them the script of its page is the same but for the step that records it, and this
carries over from pages to groups and from groups to the whole script.  The one exception are
the tries of a probe, which also decide whether the probe counts.
-/

namespace RouterTelemetry.Projection

open Payload

variable {σ τ α β : Type}

/-- Other measures in the places of the figures change nothing of what is computed. -/
def IgnoresAt (whole : σ) (value : σ → β) (figures : List (Figure σ)) : Prop :=
  ∀ figure ∈ figures, ∀ measure, value (figure.replaced measure) = value whole

/-- The figures of a whole are what the steps record for it, in order.  With another measure in
the place of a figure that does not count tries, only the step that records it changes. -/
structure TracesAt (whole : σ) (steps : σ → Script) (figures : List (Figure σ)) : Prop where
  recorded : (steps whole).filter Step.isField = figures.map fun figure =>
    figure.step figure.measure
  kept : ∀ figure ∈ figures, figure.replaced figure.measure = whole
  changed : ∀ figure ∈ figures, ¬figure.CountsTries → ∃ before after, ∀ measure,
    steps (figure.replaced measure) = before ++ figure.step measure :: after

/-- At no whole other measures in the places of the figures change anything. -/
def Ignores (value : σ → β) (figures : σ → List (Figure σ)) : Prop :=
  ∀ whole, IgnoresAt whole value (figures whole)

/-- The figures of every whole are what the steps record for it. -/
def Traces (steps : σ → Script) (figures : σ → List (Figure σ)) : Prop :=
  ∀ whole, TracesAt whole steps (figures whole)

theorem IgnoresAt.append {whole : σ} {value : σ → β} {figures later : List (Figure σ)}
    (first : IgnoresAt whole value figures) (second : IgnoresAt whole value later) :
    IgnoresAt whole value (figures ++ later) := by
  intro figure member measure
  rcases List.mem_append.mp member with member | member
  · exact first figure member measure
  · exact second figure member measure

/-- What is the same for every part ignores the figures of the part. -/
theorem ignoresAt_within {whole : τ} {value : τ → β} {put : σ → τ} {figures : List (Figure σ)}
    (steady : ∀ part, value (put part) = value whole) :
    IgnoresAt whole value (figures.map (.within put)) := by
  intro figure member measure
  obtain ⟨inner, _, rfl⟩ := List.mem_map.mp member
  exact steady _

theorem Ignores.append {value : σ → β} {figures later : σ → List (Figure σ)}
    (first : Ignores value figures) (second : Ignores value later) :
    Ignores value fun whole => figures whole ++ later whole :=
  fun whole => (first whole).append (second whole)

theorem ignores_within {value : τ → β} {put : τ → σ → τ} {figures : τ → List (Figure σ)}
    (steady : ∀ whole part, value (put whole part) = value whole) :
    Ignores value fun whole => (figures whole).map (.within (put whole)) :=
  fun whole => ignoresAt_within (steady whole)

/-! ## Steps at one whole -/

namespace TracesAt

variable {whole : σ} {steps later : σ → Script} {figures rest : List (Figure σ)}

/-- Other steps trace the same figures where they are the same as these. -/
theorem congr (traces : TracesAt whole steps figures) (here : later whole = steps whole)
    (same : ∀ figure ∈ figures, ¬figure.CountsTries → ∀ measure,
      later (figure.replaced measure) = steps (figure.replaced measure)) :
    TracesAt whole later figures where
  recorded := here ▸ traces.recorded
  kept := traces.kept
  changed figure member other := by
    obtain ⟨before, after, changed⟩ := traces.changed figure member other
    exact ⟨before, after, fun measure => (same figure member other measure).trans (changed measure)⟩

/-- The figures of a part, in the whole that it is put into. -/
theorem within {part : σ} {inner : σ → Script} (traces : TracesAt part inner figures)
    (put : σ → τ) (steps : τ → Script) (same : ∀ part, steps (put part) = inner part) :
    TracesAt (put part) steps (figures.map (.within put)) where
  recorded := by
    rw [same, traces.recorded, List.map_map]
    rfl
  kept figure member := by
    obtain ⟨inner, inside, rfl⟩ := List.mem_map.mp member
    exact congrArg put (traces.kept inner inside)
  changed figure member other := by
    obtain ⟨inner, inside, rfl⟩ := List.mem_map.mp member
    obtain ⟨before, after, changed⟩ := traces.changed inner inside other
    exact ⟨before, after, fun measure => (same _).trans (changed measure)⟩

/-- Steps without measures have no figures. -/
theorem unrecorded (none : (steps whole).filter Step.isField = []) : TracesAt whole steps [] where
  recorded := none
  kept := nofun
  changed := nofun

theorem append (traces : TracesAt whole steps figures) (laterTraces : TracesAt whole later rest)
    (apart : IgnoresAt whole later figures) (laterApart : IgnoresAt whole steps rest) :
    TracesAt whole (fun whole => steps whole ++ later whole) (figures ++ rest) where
  recorded := by
    rw [List.filter_append, traces.recorded, laterTraces.recorded, List.map_append]
  kept figure member := by
    rcases List.mem_append.mp member with member | member
    · exact traces.kept figure member
    · exact laterTraces.kept figure member
  changed figure member other := by
    rcases List.mem_append.mp member with member | member
    · obtain ⟨before, after, changed⟩ := traces.changed figure member other
      refine ⟨before, after ++ later whole, fun measure => ?_⟩
      rw [changed, apart figure member, List.append_assoc, List.cons_append]
    · obtain ⟨before, after, changed⟩ := laterTraces.changed figure member other
      refine ⟨steps whole ++ before, after, fun measure => ?_⟩
      rw [changed, laterApart figure member, List.append_assoc]

end TracesAt

/-! ## Steps at every whole -/

namespace Traces

variable {steps later : σ → Script} {figures rest : σ → List (Figure σ)}

theorem append (traces : Traces steps figures) (laterTraces : Traces later rest)
    (apart : Ignores later figures) (laterApart : Ignores steps rest) :
    Traces (fun whole => steps whole ++ later whole) fun whole => figures whole ++ rest whole :=
  fun whole => (traces whole).append (laterTraces whole) (apart whole) (laterApart whole)

/-- Steps without measures may follow. -/
theorem followed (traces : Traces steps figures)
    (none : ∀ whole, (later whole).filter Step.isField = []) (apart : Ignores later figures) :
    Traces (fun whole => steps whole ++ later whole) figures := by
  intro whole
  have both := (traces whole).append (.unrecorded (none whole)) (apart whole) fun _ => nofun
  rwa [List.append_nil] at both

theorem inform (traces : Traces steps figures) (message : String) :
    Traces (fun whole => Projection.inform message :: steps whole) figures := by
  intro whole
  have note : TracesAt whole (fun _ => [Projection.inform message]) [] := .unrecorded rfl
  exact note.append (traces whole) nofun fun _ _ _ => rfl

/-- Steps that read one part of a whole trace the figures of this part. -/
theorem within (get : τ → σ) (put : τ → σ → τ) {steps : τ → σ → Script}
    {figures : τ → σ → List (Figure σ)} (traces : ∀ whole, Traces (steps whole) (figures whole))
    (steady : ∀ whole part, steps (put whole part) = steps whole)
    (get_put : ∀ whole part, get (put whole part) = part)
    (put_get : ∀ whole, put whole (get whole) = whole) :
    Traces (fun whole => steps whole (get whole))
      fun whole => (figures whole (get whole)).map (.within (put whole)) := by
  intro whole
  have inside := (traces whole (get whole)).within (put whole)
    (fun whole => steps whole (get whole)) fun part => by rw [steady, get_put]
  rwa [put_get] at inside

/-- The steps for a list of different things, each of which ignores the figures of the
others. -/
theorem flatMap {steps : α → σ → Script} {figures : α → σ → List (Figure σ)}
    (traces : ∀ a, Traces (steps a) (figures a))
    (apart : ∀ a b, a ≠ b → Ignores (steps a) (figures b)) {list : List α}
    (distinct : list.Nodup) :
    Traces (fun whole => list.flatMap (steps · whole)) fun whole =>
      list.flatMap (figures · whole) := by
  induction list with
  | nil => exact fun _ => .unrecorded rfl
  | cons a list ih =>
      obtain ⟨fresh, distinct⟩ := List.nodup_cons.mp distinct
      have ne {b : α} (listed : b ∈ list) : a ≠ b := fun same => fresh (same ▸ listed)
      refine (traces a).append (ih distinct) ?_ ?_
      · intro whole figure member measure
        refine congrArg List.flatten (List.map_congr_left fun b listed => ?_)
        exact apart b a (ne listed).symm whole figure member measure
      · intro whole figure member measure
        obtain ⟨b, listed, member⟩ := List.mem_flatMap.mp member
        exact apart a b (ne listed) whole figure member measure

/-- Only the first page is read. -/
theorem first {steps : α → Script} {figures : α → List (Figure α)} (traces : Traces steps figures)
    (path : String) : Traces (withFirst · path steps) (firstFigures figures) := by
  intro pages
  cases pages with
  | nil => exact .unrecorded rfl
  | cons page rest => exact (traces page).within (· :: rest) _ fun _ => rfl

/-- Every item is read, wherever it stands. -/
theorem each {steps : α → Script} {figures : α → List (Figure α)} (traces : Traces steps figures) :
    Traces (List.flatMap steps) (eachFigures figures) := by
  intro list
  induction list with
  | nil => exact .unrecorded rfl
  | cons item rest ih =>
      -- The steps fall into those for the head and those for the rest of a list, so that
      -- each part ignores the figures of the other.
      have parts (list : List α) : list.flatMap steps =
          (list.take 1).flatMap steps ++ (list.drop 1).flatMap steps := by
        rw [← List.flatMap_append, List.take_append_drop]
      have head := (traces item).within (· :: rest) (fun list => (list.take 1).flatMap steps)
        fun item => List.append_nil (steps item)
      have tail := ih.within (item :: ·) (fun list => (list.drop 1).flatMap steps) fun _ => rfl
      have both := head.append tail (ignoresAt_within fun _ => rfl) (ignoresAt_within fun _ => rfl)
      exact both.congr (parts _) fun _ _ _ _ => parts _

end Traces

/-- What is the same for every item is the same for the list. -/
theorem Ignores.each {value : α → β} {figures : α → List (Figure α)}
    (ignores : Ignores value figures) : Ignores (List.map value) (eachFigures figures) := by
  intro list
  induction list with
  | nil => exact nofun
  | cons item rest ih =>
      refine .append (fun figure member measure => ?_) fun figure member measure => ?_
      · obtain ⟨inner, inside, rfl⟩ := List.mem_map.mp member
        exact congrArg (· :: rest.map value) (ignores item inner inside measure)
      · obtain ⟨inner, inside, rfl⟩ := List.mem_map.mp member
        exact congrArg (value item :: ·) (ih inner inside measure)

/-- The figures of the items leave their number. -/
theorem ignores_length (figures : α → List (Figure α)) :
    Ignores List.length (eachFigures figures) := by
  intro list figure member measure
  have blank : Ignores (fun _ => ()) figures := fun _ _ _ _ => rfl
  have same := blank.each list figure member measure
  simpa only [List.length_map] using congrArg List.length same

/-! ## Pages -/

/-- Where every step records a measure, the places are given in the order of the steps. -/
theorem Traces.of_places {steps : σ → Script} {places : σ → List (Measure → σ)}
    (listed : ∀ whole, steps whole = (figuresAt steps places whole).map fun figure =>
      figure.step figure.measure)
    (kept : ∀ whole, (figuresAt steps places whole).map (fun figure =>
      figure.replaced figure.measure) = (figuresAt steps places whole).map fun _ => whole)
    (changed : ∀ whole measure, (figuresAt steps places whole).map (fun figure =>
      steps (figure.replaced measure)) =
        (figuresAt steps places whole).zipIdx.map fun (figure, position) =>
          (steps whole).set position (figure.step measure)) :
    Traces steps (figuresAt steps places) := fun whole => {
  recorded := by
    refine (List.filter_eq_self.mpr fun step member => ?_).trans (listed whole)
    rw [listed whole] at member
    obtain ⟨figure, _, rfl⟩ := List.mem_map.mp member
    rfl
  kept := List.map_inj_left.mp (kept whole)
  changed := by
    intro figure member _
    obtain ⟨position, inside, rfl⟩ := List.getElem_of_mem member
    refine ⟨(steps whole).take position, (steps whole).drop (position + 1), fun measure => ?_⟩
    have there := congrArg (·[position]?) (changed whole measure)
    simp only [List.getElem?_map, List.getElem?_zipIdx, List.getElem?_eq_getElem inside,
      Option.map_some, Option.some.injEq, Nat.zero_add] at there
    have within : position < (steps whole).length := by
      rw [listed whole, List.length_map]
      exact inside
    rw [there, List.set_eq_take_append_cons_drop, if_pos within] }

theorem deviceState_traces : Traces deviceState (figuresAt deviceState statePlaces) :=
  .of_places (fun _ => rfl) (fun _ => rfl) fun _ _ => rfl

theorem memory_traces : Traces memory (figuresAt memory memoryPlaces) :=
  .of_places (fun _ => rfl) (fun _ => rfl) fun _ _ => rfl

theorem processor_traces : Traces processor (figuresAt processor processorPlaces) :=
  .of_places (fun _ => rfl) (fun _ => rfl) fun _ _ => rfl

theorem services_traces : Traces servicesPage (figuresAt servicesPage servicesPlaces) :=
  .of_places (fun _ => rfl) (fun _ => rfl) fun _ _ => rfl

theorem traffic_traces (family : String) (labels : Labels) (path : String) (line : Bool) :
    Traces (traffic family labels path line)
      (figuresAt (traffic family labels path line) (trafficPlaces line)) := by
  cases line <;> exact .of_places (fun _ => rfl) (fun _ => rfl) fun _ _ => rfl

theorem resolver_traces : Traces resolver (figuresAt resolver resolverPlaces) :=
  .of_places (fun _ => rfl) (fun _ => rfl) fun _ _ => rfl

theorem channel_traces : Traces (fun shown => [channel shown])
    (figuresAt (fun shown => [channel shown]) channelPlaces) :=
  .of_places (fun _ => rfl) (fun _ => rfl) fun _ _ => rfl

theorem probed_traces (mode : String) :
    Traces (probed mode) (figuresAt (probed mode) probePlaces) :=
  .of_places (fun _ => rfl) (fun _ => rfl) fun _ _ => rfl

/-! ## The outside line

The state of the link, hosts and ports are no measures. -/

theorem line_traces : Traces line (figuresAt line linePlaces) := by
  have states : Traces (fun wan => (line wan).take 2) (figuresAt line linePlaces) :=
    .of_places (fun _ => rfl) (fun _ => rfl) fun _ _ => rfl
  have link : Ignores (fun wan => (line wan).drop 2) (figuresAt line linePlaces) := by
    intro wan figure member measure
    simp only [figuresAt, linePlaces, line, plain, Step.recorded?, List.filterMap_cons,
      List.filterMap_nil, List.zipWith_cons_cons, List.zipWith_nil_left,
      List.mem_cons, List.not_mem_nil, or_false] at member
    rcases member with rfl | rfl <;> rfl
  exact states.followed (fun _ => rfl) link

/-- The first probe that has been tried decides. -/
theorem probes_cons (mode : String) (probe : Probe) (rest : List Probe) :
    probes mode (probe :: rest) =
      if probe.tries.isPositive then probed mode probe else probes mode rest := by
  unfold probes selectProbe?
  rw [List.find?_cons]
  cases probe.tries.isPositive <;> rfl

/-- Whether a probe counts is up to its tries. -/
theorem tries_replaced {mode : String} {probe : Probe} {figure : Figure Probe}
    (member : figure ∈ figuresAt (probed mode) probePlaces probe) (other : ¬figure.CountsTries)
    (measure : Measure) : (figure.replaced measure).tries = probe.tries := by
  simp only [figuresAt, probed, probePlaces, Step.recorded?, List.map_cons, List.map_nil,
    List.filterMap_cons, List.filterMap_nil, List.zipWith_cons_cons, List.zipWith_nil_left,
    List.mem_cons, List.not_mem_nil, or_false] at member
  rcases member with rfl | rfl | rfl | rfl | rfl | tries
  case inr.inr.inr.inr.inr =>
    exact absurd (tries ▸ (rfl : "bbox_wan_diagnostics_" ++ "tries" = _)) other
  all_goals rfl

theorem probes_traces (mode : String) : Traces (probes mode) (probesFigures mode) := by
  intro list
  induction list with
  | nil => exact .unrecorded rfl
  | cons probe rest ih =>
      rw [probesFigures]
      split
      next tried =>
        have here : TracesAt probe (fun probe => probes mode (probe :: rest))
            (figuresAt (probed mode) probePlaces probe) := by
          refine (probed_traces mode probe).congr ?_ fun figure member other measure => ?_
          · rw [probes_cons, if_pos tried]
          · rw [probes_cons, tries_replaced member other, if_pos tried]
        exact here.within (· :: rest) _ fun _ => rfl
      next untried =>
        refine ih.within (probe :: ·) _ fun rest => ?_
        rw [probes_cons, if_neg untried]

theorem diagnostics_traces : Traces diagnostics diagnosticsFigures := by
  have dns := Traces.within Diagnostics.dns (fun page dns => { page with dns })
    (fun _ => probes_traces "dns") (fun _ _ => rfl) (fun _ _ => rfl) fun _ => rfl
  have ping := Traces.within Diagnostics.ping (fun page ping => { page with ping })
    (fun _ => probes_traces "ping") (fun _ _ => rfl) (fun _ _ => rfl) fun _ => rfl
  have http := Traces.within Diagnostics.http (fun page http => { page with http })
    (fun _ => probes_traces "http") (fun _ _ => rfl) (fun _ _ => rfl) fun _ => rfl
  refine (dns.append ping ?_ ?_).append http (.append ?_ ?_) ?_ <;>
    exact ignores_within fun _ _ => rfl

/-! ## Groups -/

/-- Where no page has measures to record, the first has none. -/
theorem filter_withFirst {steps : α → Script}
    (none : ∀ page, (steps page).filter Step.isField = []) (pages : List α) (path : String) :
    (withFirst pages path steps).filter Step.isField = [] := by
  cases pages with
  | nil => rfl
  | cons page rest => exact none page

theorem filter_hosts (list : List Host) : (hosts list).filter Step.isField = [] := by
  refine List.filter_eq_nil_iff.mpr fun step member => ?_
  obtain ⟨host, _, rfl⟩ := List.mem_map.mp member
  exact Bool.false_ne_true

theorem filter_ports (lan : Lan) : (ports lan.ports).filter Step.isField = [] := by
  refine List.filter_eq_nil_iff.mpr fun step member => ?_
  obtain ⟨position, _, rfl⟩ := List.mem_mapIdx.mp member
  exact Bool.false_ne_true

theorem device_traces : Traces device deviceFigures := by
  have state := Traces.within DevicePages.device (fun pages device => { pages with device })
    (fun _ => deviceState_traces.first Resource.device.path)
    (fun _ _ => rfl) (fun _ _ => rfl) fun _ => rfl
  have room := Traces.within DevicePages.memory (fun pages memory => { pages with memory })
    (fun _ => memory_traces.first Resource.memory.path)
    (fun _ _ => rfl) (fun _ _ => rfl) fun _ => rfl
  have time := Traces.within DevicePages.processor (fun pages processor => { pages with processor })
    (fun _ => processor_traces.first Resource.processor.path)
    (fun _ _ => rfl) (fun _ _ => rfl) fun _ => rfl
  refine ((state.append room ?_ ?_).append time (.append ?_ ?_) ?_).inform _ <;>
    exact ignores_within fun _ _ => rfl

theorem wan_traces : Traces wan wanFigures := by
  have state := Traces.within WanPages.wan (fun pages wan => { pages with wan })
    (fun _ => line_traces.first Resource.wan.path) (fun _ _ => rfl) (fun _ _ => rfl) fun _ => rfl
  have traffic := Traces.within WanPages.traffic (fun pages traffic => { pages with traffic })
    (fun _ => (traffic_traces "bbox_wan" [] "wan.ip.stats" true).first Resource.wanTraffic.path)
    (fun _ _ => rfl) (fun _ _ => rfl) fun _ => rfl
  have probes := Traces.within WanPages.diagnostics
    (fun pages diagnostics => { pages with diagnostics })
    (fun _ => diagnostics_traces.first Resource.diagnostics.path)
    (fun _ _ => rfl) (fun _ _ => rfl) fun _ => rfl
  have port (pages : WanPages) :
      (withFirst pages.fibre Resource.fibre.path fibre).filter Step.isField = [] :=
    filter_withFirst (fun _ => rfl) _ _
  refine (((state.append traffic ?_ ?_).followed port (.append ?_ ?_)).append probes
    (.append ?_ ?_) ?_).inform _ <;>
    exact ignores_within fun _ _ => rfl

theorem lan_traces : Traces lan lanFigures := by
  have traffic := Traces.within LanPages.traffic (fun pages traffic => { pages with traffic })
    (fun _ => (traffic_traces "bbox_lan" [] "lan.stats" false).first Resource.lanTraffic.path)
    (fun _ _ => rfl) (fun _ _ => rfl) fun _ => rfl
  have hosts (pages : LanPages) := filter_withFirst filter_hosts pages.hosts Resource.hosts.path
  have ports (pages : LanPages) := filter_withFirst filter_ports pages.lan Resource.lan.path
  refine ((traffic.followed hosts ?_).followed ports ?_).inform _ <;>
    exact ignores_within fun _ _ => rfl

theorem band_traces : Traces band bandFigures := by
  have radio (band : Band) := Traces.within Radio.traffic
    (fun radio traffic => { radio with traffic })
    (fun _ => traffic_traces "bbox_wireless" [("frequency", band.label)]
      ("wireless." ++ band.code ++ ".ssid.stats") false)
    (fun _ _ => rfl) (fun _ _ => rfl) fun _ => rfl
  exact Traces.within BandPages.pages (fun pages list => { pages with pages := list })
    (fun pages => ((radio pages.band).first pages.band.statsPath).inform
      ("Store wireless " ++ pages.band.label ++ " metrics"))
    (fun _ _ => rfl) (fun _ _ => rfl) fun _ => rfl

theorem television_traces :
    Traces (fun page => page.channels.flatMap fun shown => [channel shown]) televisionFigures :=
  .within Television.channels (fun page channels => { page with channels })
    (fun _ => channel_traces.each) (fun _ _ => rfl) (fun _ _ => rfl) fun _ => rfl

/-- The channels are counted, whatever their reception. -/
theorem ignores_total :
    Ignores (fun pages : List Television => (pages.flatMap (·.channels)).length)
      (eachFigures televisionFigures) := by
  have channels : Ignores (fun page => page.channels.length) televisionFigures := by
    intro page figure member measure
    obtain ⟨inner, inside, rfl⟩ := List.mem_map.mp member
    exact ignores_length _ page.channels inner inside measure
  intro pages figure member measure
  have same := channels.each pages figure member measure
  simp only [List.length_flatMap, same]

theorem iptv_traces : Traces iptv (eachFigures televisionFigures) := by
  have pageByPage (pages : List Television) : (pages.flatMap (·.channels)).map channel =
      pages.flatMap fun page => page.channels.flatMap fun shown => [channel shown] := by
    rw [List.map_flatMap]
    exact congrArg List.flatten (List.map_congr_left fun page _ => List.map_eq_flatMap)
  have shown : Traces (fun pages => (pages.flatMap (·.channels)).map channel)
      (eachFigures televisionFigures) := by
    rw [funext pageByPage]
    exact television_traces.each
  refine (shown.followed (fun _ => rfl) fun pages figure member measure => ?_).inform _
  exact congrArg (fun total => [Step.set ⟨"bbox_iptv_channels", []⟩ (Float.ofNat total)])
    (ignores_total pages figure member measure)

theorem script_traces (group : Group) : Traces (script · group) (groupFigures · group) := by
  cases group with
  | device =>
      exact .within Snapshot.device (fun snapshot device => { snapshot with device })
        (fun _ => device_traces) (fun _ _ => rfl) (fun _ _ => rfl) fun _ => rfl
  | services =>
      exact .within Snapshot.services (fun snapshot services => { snapshot with services })
        (fun _ => (services_traces.first Resource.services.path).inform _)
        (fun _ _ => rfl) (fun _ _ => rfl) fun _ => rfl
  | wan =>
      exact .within Snapshot.wan (fun snapshot wan => { snapshot with wan })
        (fun _ => wan_traces) (fun _ _ => rfl) (fun _ _ => rfl) fun _ => rfl
  | lan =>
      exact .within Snapshot.lan (fun snapshot lan => { snapshot with lan })
        (fun _ => lan_traces) (fun _ _ => rfl) (fun _ _ => rfl) fun _ => rfl
  | wireless =>
      exact .within Snapshot.wireless (fun snapshot wireless => { snapshot with wireless })
        (fun _ => band_traces.each) (fun _ _ => rfl) (fun _ _ => rfl) fun _ => rfl
  | dns =>
      exact .within Snapshot.dns (fun snapshot dns => { snapshot with dns })
        (fun _ => (resolver_traces.first Resource.resolver.path).inform _)
        (fun _ _ => rfl) (fun _ _ => rfl) fun _ => rfl
  | iptv =>
      exact .within Snapshot.iptv (fun snapshot iptv => { snapshot with iptv })
        (fun _ => iptv_traces) (fun _ _ => rfl) (fun _ _ => rfl) fun _ => rfl

/-- The groups read different parts of the snapshot. -/
theorem script_ignores {group other : Group} (ne : group ≠ other) :
    Ignores (script · group) (groupFigures · other) := by
  cases group <;> cases other <;>
    first | exact absurd rfl ne | exact ignores_within fun _ _ => rfl

/-! ## The whole script -/

/-- Groups are added to failures only. -/
theorem Script.filter_isField_inGroup (script : Script) (group : Group) :
    (script.inGroup group).filter Step.isField = script.filter Step.isField := by
  induction script with
  | nil => rfl
  | cons step script ih =>
      cases step with
      | field key measure path => exact congrArg (Step.field key measure path :: ·) ih
      | note event => exact ih
      | set key value => exact ih
      | count key => exact ih
      | stop failure => exact ih

theorem Traces.inGroup {steps : σ → Script} {figures : σ → List (Figure σ)}
    (traces : Traces steps figures) (group : Group) :
    Traces (fun whole => (steps whole).inGroup group) figures := fun whole => {
  recorded := (Script.filter_isField_inGroup _ group).trans (traces whole).recorded
  kept := (traces whole).kept
  changed := by
    intro figure member other
    obtain ⟨before, after, changed⟩ := (traces whole).changed figure member other
    refine ⟨Script.inGroup group before, Script.inGroup group after, fun measure => ?_⟩
    rw [changed, Script.inGroup, List.map_append]
    rfl }

theorem wholeScript_traces : Traces wholeScript figures := by
  refine .flatMap (fun group => (script_traces group).inGroup group) ?_ (by decide)
  intro group other ne snapshot figure member measure
  exact congrArg (Script.inGroup group) (script_ignores ne snapshot figure member measure)

end RouterTelemetry.Projection
