import RouterTelemetry.Proofs.Figures
import RouterTelemetry.Proofs.MeasureSigns
import RouterTelemetry.Proofs.OwnSamples
import RouterTelemetry.Proofs.RequiredPages

/-!
# Tried probes

Of the probes of a protocol the first that has been tried is shown, and no other: a sample for
each of its figures that has a quantity.  A protocol without such a probe is not shown at all.
What the other protocols have, and what stands behind the shown probe, makes no difference.
-/

namespace RouterTelemetry

namespace Payload

/-- The protocols that the router probes with. -/
inductive Protocol where
  | dns
  | ping
  | http
deriving DecidableEq

namespace Protocol

/-- The mode of the samples of a protocol. -/
def mode : Protocol → String
  | dns => "dns"
  | ping => "ping"
  | http => "http"

/-- The probes of a protocol. -/
def probes (page : Diagnostics) : Protocol → List Probe
  | dns => page.dns
  | ping => page.ping
  | http => page.http

/-- The page with other probes of a protocol. -/
def replace (page : Diagnostics) (list : List Probe) : Protocol → Diagnostics
  | dns => { page with dns := list }
  | ping => { page with ping := list }
  | http => { page with http := list }

theorem mode_injective : Function.Injective mode := by
  intro protocol other
  cases protocol <;> cases other <;> decide

end Protocol

/-- A sample for each figure of the probe that has a quantity. -/
def Probe.samples (probe : Probe) (protocol : Protocol) : List (SampleKey × Float) :=
  [("min", probe.min), ("max", probe.max), ("avg", probe.average), ("success", probe.success),
    ("error", probe.error), ("tries", probe.tries)].filterMap fun (suffix, measure) =>
      measure.quantity?.map (⟨"bbox_wan_diagnostics_" ++ suffix, [("mode", protocol.mode)]⟩, ·)

end Payload

open Payload

/-- The key is one of the diagnostics of a protocol. -/
def SampleKey.diagnoses (protocol : Protocol) (key : SampleKey) : Bool :=
  "bbox_wan_diagnostics_".toList.isPrefixOf key.name.toList &&
    key.labels.contains ("mode", protocol.mode)

/-- The samples of the diagnostics of a protocol. -/
def SampleSet.ofProtocol (set : SampleSet) (protocol : Protocol) : List (SampleKey × Float) :=
  set.samples.filter (·.1.diagnoses protocol)

namespace Projection

/-! ## Probes of one protocol -/

section

variable {mode : String} {before after : List Probe} {probe : Probe}

theorem probes_of_untried {list : List Probe} (untried : ∀ probe ∈ list, ¬probe.tries.Positive) :
    probes mode list =
      [.note ⟨.debug, "No " ++ mode ++ " diagnostic with tries > 0, skipping"⟩] := by
  have none : selectProbe? list = none :=
    List.find?_eq_none.mpr fun probe member =>
      mt Measure.isPositive_iff.mp (untried probe member)
  rw [probes, none]

/-- The first tried probe gives the steps. -/
theorem probes_of_tried (untried : ∀ earlier ∈ before, ¬earlier.tries.Positive)
    (tried : probe.tries.Positive) :
    probes mode (before ++ probe :: after) = probed mode probe := by
  have chosen : selectProbe? (before ++ probe :: after) = some probe := by
    refine List.find?_eq_some_iff_append.mpr
      ⟨Measure.isPositive_iff.mpr tried, before, after, rfl, fun earlier member => ?_⟩
    rw [Measure.isPositive_eq_false_iff.mpr (untried earlier member), Bool.not_false]
  rw [probes, chosen]
  rfl

theorem ownSamples_probed (protocol : Protocol) (probe : Probe) :
    Script.ownSamples (probed protocol.mode probe) = probe.samples protocol :=
  rfl

theorem keys_probed_nodup (mode : String) (probe : Probe) :
    (Script.keys (probed mode probe)).Nodup := by
  have names : (Script.keys (probed mode probe)).map SampleKey.name =
      ["min", "max", "avg", "success", "error", "tries"].map ("bbox_wan_diagnostics_" ++ ·) :=
    rfl
  refine List.Nodup.of_map SampleKey.name ?_
  rw [names]
  decide +kernel

/-- The keys of a mode are of the diagnostics and carry the mode. -/
theorem exists_of_mem_keys_probes {list : List Probe} {key : SampleKey}
    (member : key ∈ Script.keys (probes mode list)) :
    ∃ suffix, key = ⟨"bbox_wan_diagnostics_" ++ suffix, [("mode", mode)]⟩ := by
  unfold probes at member
  cases chosen : selectProbe? list with
  | none =>
      rw [chosen] at member
      cases member
  | some probe =>
      rw [chosen] at member
      obtain ⟨step, inScript, own⟩ := List.mem_filterMap.mp member
      obtain ⟨⟨suffix, measure, name⟩, _, rfl⟩ := List.mem_map.mp inScript
      exact ⟨suffix, (Option.some.inj own).symm⟩

theorem diagnoses_of_mem_probes {protocol other : Protocol} {list : List Probe} {key : SampleKey}
    (member : key ∈ Script.keys (probes other.mode list)) :
    key.diagnoses protocol = decide (protocol = other) := by
  obtain ⟨suffix, rfl⟩ := exists_of_mem_keys_probes member
  have named : "bbox_wan_diagnostics_".toList.isPrefixOf
      ("bbox_wan_diagnostics_" ++ suffix).toList = true := by
    rw [String.toList_append, List.isPrefixOf_iff_prefix]
    exact List.prefix_append _ _
  have labelled : [("mode", other.mode)].contains ("mode", protocol.mode) =
      decide (protocol = other) := by
    rw [Bool.eq_iff_iff, List.contains_iff_mem, List.mem_singleton, decide_eq_true_iff]
    exact ⟨fun same => Protocol.mode_injective (Prod.mk.inj same).2, fun same => same ▸ rfl⟩
  rw [SampleKey.diagnoses, named, labelled, Bool.true_and]

end

/-! ## The group -/

/-- The steps before those for the diagnostics. -/
def wanHead (lines : List Wan) (figures : List Traffic) (ports : List Fibre) : Script :=
  inform "Store WAN metrics" ::
    (withFirst lines Resource.wan.path line ++
      withFirst figures Resource.wanTraffic.path (traffic "bbox_wan" [] "wan.ip.stats" true) ++
      withFirst ports Resource.fibre.path fibre)

theorem wan_eq_head_append (lines : List Wan) (figures : List Traffic) (ports : List Fibre)
    (page : Diagnostics) (rest : List Diagnostics) :
    wan ⟨lines, figures, ports, page :: rest⟩ = wanHead lines figures ports ++ diagnostics page :=
  rfl

theorem failure?_wanHead_eq_none_iff {lines : List Wan} {figures : List Traffic}
    {ports : List Fibre} :
    (wanHead lines figures ports).failure? = none ↔ lines ≠ [] ∧ figures ≠ [] ∧ ports ≠ [] := by
  have first {α : Type} {pages : List α} {path : String} {steps : α → Script}
      (going : ∀ page, (steps page).failure? = none) :
      (withFirst pages path steps).failure? = none ↔ pages ≠ [] := by
    cases pages with
    | nil => exact iff_of_false nofun fun some => some rfl
    | cons page rest => exact iff_of_true (going page) nofun
  change Script.failure? (_ ++ _ ++ _) = none ↔ _
  rw [Script.failure?_append, Script.failure?_append, Option.or_eq_none_iff,
    Option.or_eq_none_iff, first fun _ => rfl, first (failure?_traffic _ _ _ _),
    first fun _ => rfl, and_assoc]

theorem diagnoses_of_mem_wanHead {lines : List Wan} {figures : List Traffic} {ports : List Fibre}
    {key : SampleKey} (member : key ∈ Script.keys (wanHead lines figures ports))
    (protocol : Protocol) : key.diagnoses protocol = false := by
  have blank : ∀ name ∈ (Script.keys
      (line {} ++ traffic "bbox_wan" [] "wan.ip.stats" true {} ++ fibre {})).map SampleKey.name,
      "bbox_wan_diagnostics_".toList.isPrefixOf name.toList = false := by
    decide +kernel
  rw [Script.keys_append, Script.keys_append, List.map_append, List.map_append,
    List.forall_mem_append, List.forall_mem_append] at blank
  obtain ⟨⟨blankLine, blankTraffic⟩, blankFibre⟩ := blank
  change key ∈ Script.keys (_ ++ _ ++ _) at member
  rw [Script.keys_append, Script.keys_append, List.mem_append, List.mem_append] at member
  have undiagnosed (none : "bbox_wan_diagnostics_".toList.isPrefixOf key.name.toList = false) :
      key.diagnoses protocol = false := by
    rw [SampleKey.diagnoses, none, Bool.false_and]
  rcases member with (ofLine | ofTraffic) | ofFibre
  · obtain ⟨page, inPage⟩ := Script.exists_mem_keys_of_withFirst ofLine
    have named : key.name ∈ (Script.keys (line page)).map SampleKey.name :=
      List.mem_map_of_mem inPage
    exact undiagnosed (blankLine key.name named)
  · obtain ⟨page, inPage⟩ := Script.exists_mem_keys_of_withFirst ofTraffic
    have named : key.name ∈
        (Script.keys (traffic "bbox_wan" [] "wan.ip.stats" true page)).map SampleKey.name :=
      List.mem_map_of_mem inPage
    exact undiagnosed (blankTraffic key.name named)
  · obtain ⟨page, inPage⟩ := Script.exists_mem_keys_of_withFirst ofFibre
    have named : key.name ∈ (Script.keys (fibre page)).map SampleKey.name :=
      List.mem_map_of_mem inPage
    exact undiagnosed (blankFibre key.name named)

/-- The steps of the group are those for the probes of a protocol, with others before and after
that record nothing under keys of the protocol. -/
theorem exists_split_wanHead_append (lines : List Wan) (figures : List Traffic)
    (ports : List Fibre) (page : Diagnostics) (protocol : Protocol) :
    ∃ before after, wanHead lines figures ports ++ diagnostics page =
        before ++ probes protocol.mode (protocol.probes page) ++ after ∧
      (∀ key ∈ Script.keys before, key.diagnoses protocol = false) ∧
      ∀ key ∈ Script.keys after, key.diagnoses protocol = false := by
  have head (key : SampleKey) (member : key ∈ Script.keys (wanHead lines figures ports)) :
      key.diagnoses protocol = false :=
    diagnoses_of_mem_wanHead member protocol
  have other (one : Protocol) (apart : decide (protocol = one) = false) {list : List Probe}
      (key : SampleKey) (member : key ∈ Script.keys (probes one.mode list)) :
      key.diagnoses protocol = false :=
    (diagnoses_of_mem_probes member).trans apart
  have both {script later : Script}
      (none : ∀ key ∈ Script.keys script, key.diagnoses protocol = false)
      (noneLater : ∀ key ∈ Script.keys later, key.diagnoses protocol = false) :
      ∀ key ∈ Script.keys (script ++ later), key.diagnoses protocol = false := by
    rw [Script.keys_append]
    exact List.forall_mem_append.mpr ⟨none, noneLater⟩
  cases protocol with
  | dns =>
      refine ⟨wanHead lines figures ports, probes "ping" page.ping ++ probes "http" page.http, ?_,
        head, both (other .ping rfl) (other .http rfl)⟩
      simp [diagnostics, Protocol.mode, Protocol.probes]
  | ping =>
      refine ⟨wanHead lines figures ports ++ probes "dns" page.dns, probes "http" page.http, ?_,
        both head (other .dns rfl), other .http rfl⟩
      simp [diagnostics, Protocol.mode, Protocol.probes]
  | http =>
      refine ⟨wanHead lines figures ports ++ probes "dns" page.dns ++ probes "ping" page.ping, [],
        ?_, both (both head (other .dns rfl)) (other .ping rfl), List.forall_mem_nil _⟩
      simp [diagnostics, Protocol.mode, Protocol.probes]

/-- A list of probes has a first tried one, or none is tried. -/
theorem untried_or_exists_first_tried (list : List Probe) :
    (∀ probe ∈ list, ¬probe.tries.Positive) ∨
      ∃ before probe after, list = before ++ probe :: after ∧
        (∀ earlier ∈ before, ¬earlier.tries.Positive) ∧ probe.tries.Positive := by
  cases chosen : selectProbe? list with
  | none =>
      left
      intro probe member
      exact mt Measure.isPositive_iff.mpr (List.find?_eq_none.mp chosen probe member)
  | some probe =>
      right
      obtain ⟨tried, before, after, split, untried⟩ := List.find?_eq_some_iff_append.mp chosen
      refine ⟨before, probe, after, split, fun earlier member => ?_,
        Measure.isPositive_iff.mp tried⟩
      have passed : earlier.tries.isPositive = false := by
        simpa only [Bool.not_eq_true'] using untried earlier member
      exact Measure.isPositive_eq_false_iff.mp passed

/-- Probes that give the same steps may take the place of those of the page. -/
theorem diagnostics_replace {page : Diagnostics} {list : List Probe} {protocol : Protocol}
    (same : probes protocol.mode list = probes protocol.mode (protocol.probes page)) :
    diagnostics (protocol.replace page list) = diagnostics page := by
  cases protocol with
  | dns => exact congrArg (· ++ probes "ping" page.ping ++ probes "http" page.http) same
  | ping => exact congrArg (probes "dns" page.dns ++ · ++ probes "http" page.http) same
  | http => exact congrArg (probes "dns" page.dns ++ probes "ping" page.ping ++ ·) same

section

variable {lines : List Wan} {figures : List Traffic} {ports : List Fibre} {page : Diagnostics}
variable {protocol : Protocol}

/-- The samples of a protocol are those of the steps for its probes. -/
theorem ofProtocol_run_perm (page : Diagnostics) (protocol : Protocol)
    (going : (wanHead lines figures ports).failure? = none)
    (distinct : (Script.keys (probes protocol.mode (protocol.probes page))).Nodup) :
    (((wanHead lines figures ports ++ diagnostics page).run {}).samples.ofProtocol protocol).Perm
      (Script.ownSamples (probes protocol.mode (protocol.probes page))) := by
  have whole : (wanHead lines figures ports ++ diagnostics page).failure? = none := by
    rw [Script.failure?_append, going, failure?_diagnostics]
    rfl
  obtain ⟨before, after, split, notBefore, notAfter⟩ :=
    exists_split_wanHead_append lines figures ports page protocol
  rw [split] at whole ⊢
  exact Script.filter_samples_run_perm (SampleKey.diagnoses protocol) whole notBefore notAfter
    (fun key member => (diagnoses_of_mem_probes member).trans (decide_eq_true rfl)) distinct

/-- Without a tried probe a protocol has no sample. -/
theorem ofProtocol_of_untried (going : (wanHead lines figures ports).failure? = none)
    (untried : ∀ probe ∈ protocol.probes page, ¬probe.tries.Positive) :
    ((wanHead lines figures ports ++ diagnostics page).run {}).samples.ofProtocol protocol =
      [] := by
  have own := ofProtocol_run_perm page protocol going
  rw [probes_of_untried untried] at own
  exact (own List.nodup_nil).eq_nil

/-- A protocol has the samples of its first tried probe. -/
theorem ofProtocol_of_tried (going : (wanHead lines figures ports).failure? = none)
    {before after : List Probe} {probe : Probe}
    (list : protocol.probes page = before ++ probe :: after)
    (untried : ∀ earlier ∈ before, ¬earlier.tries.Positive) (tried : probe.tries.Positive) :
    (((wanHead lines figures ports ++ diagnostics page).run {}).samples.ofProtocol protocol).Perm
      (probe.samples protocol) := by
  have own := ofProtocol_run_perm page protocol going
  rw [list, probes_of_tried untried tried, ownSamples_probed] at own
  exact own (keys_probed_nodup protocol.mode probe)

/-- A projection that stops before the probes shows none. -/
theorem ofProtocol_of_stopped (stopped : (wanHead lines figures ports).failure? ≠ none) :
    ((wanHead lines figures ports ++ diagnostics page).run {}).samples.ofProtocol protocol =
      [] := by
  rw [Script.run_append_of_stopped stopped]
  refine List.filter_eq_nil_iff.mpr fun sample member => ?_
  rw [diagnoses_of_mem_wanHead (Script.mem_keys_of_mem_run member)]
  exact Bool.false_ne_true

/-- What stands behind the first tried probe makes no difference. -/
theorem diagnostics_replace_later {before after : List Probe} {probe : Probe}
    (list : protocol.probes page = before ++ probe :: after)
    (untried : ∀ earlier ∈ before, ¬earlier.tries.Positive) (tried : probe.tries.Positive)
    (later : List Probe) :
    diagnostics (protocol.replace page (before ++ probe :: later)) = diagnostics page := by
  refine diagnostics_replace ?_
  rw [list, probes_of_tried untried tried, probes_of_tried untried tried]

end

/-- Where no resource of the line lacks a page, each protocol is shown by its own probes alone.
If none of them is tried, there is no sample of the protocol.  Otherwise the samples are those of
the first tried one, a sample for each figure that has a quantity; the tries of the earlier ones
are missing, invalid, not a number, zero or negative, and any other probes may follow.  Without a
page of another resource the projection fails, and no probe is shown. -/
theorem first_tried_probe_shown (lines : List Wan) (figures : List Traffic) (ports : List Fibre)
    (page : Diagnostics) (rest : List Diagnostics) (protocol : Protocol) :
    let outcome (page : Diagnostics) := (wan ⟨lines, figures, ports, page :: rest⟩).run {}
    let shown := (outcome page).samples.ofProtocol protocol
    (lines ≠ [] ∧ figures ≠ [] ∧ ports ≠ []) ∧ (outcome page).failure = none ∧
        ((∀ probe ∈ protocol.probes page, ¬probe.tries.Positive) ∧ shown = [] ∨
          ∃ before probe after, protocol.probes page = before ++ probe :: after ∧
            (∀ earlier ∈ before, earlier.tries.NotPositive) ∧ probe.tries.Positive ∧
            shown.Perm (probe.samples protocol) ∧
            ∀ later, outcome (protocol.replace page (before ++ probe :: later)) = outcome page) ∨
      (lines = [] ∨ figures = [] ∨ ports = []) ∧ (outcome page).failure ≠ none ∧ shown = [] := by
  simp only [wan_eq_head_append]
  have failure : ((wanHead lines figures ports ++ diagnostics page).run {}).failure =
      (wanHead lines figures ports).failure? := by
    rw [Script.failure_run, Script.failure?_append, failure?_diagnostics, Option.or_none]
  by_cases given : lines ≠ [] ∧ figures ≠ [] ∧ ports ≠ []
  · have going := failure?_wanHead_eq_none_iff.mpr given
    refine .inl ⟨given, failure.trans going, ?_⟩
    rcases untried_or_exists_first_tried (protocol.probes page) with
      untried | ⟨before, probe, after, list, untried, tried⟩
    · exact .inl ⟨untried, ofProtocol_of_untried going untried⟩
    · refine .inr ⟨before, probe, after, list, fun earlier member => ?_, tried,
        ofProtocol_of_tried going list untried tried, fun later => ?_⟩
      · exact Measure.not_positive_iff.mp (untried earlier member)
      · exact congrArg (fun steps => Script.run {} (wanHead lines figures ports ++ steps))
          (diagnostics_replace_later list untried tried later)
  · have stopped := mt failure?_wanHead_eq_none_iff.mp given
    exact .inr ⟨by simpa only [not_and_or, not_not] using given, failure ▸ stopped,
      ofProtocol_of_stopped stopped⟩

/-- Behind probes that do not count, one without an average is shown; the next one is not. -/
example :
    let untried (tries : Measure) : Probe := { tries, min := .value 9.0 }
    let dns : List Probe :=
      [untried (.value 0.0), untried (.value (0.0 / 0.0)), untried (.value (-1.0)),
        untried (.invalid (.value (.text "x") quantityName)), untried .missing,
        { tries := .value 3.0, min := .value 1.5, success := .value 2.0 },
        { tries := .value 7.0, average := .value 4.0 }]
    ((wan ⟨[{}], [{}], [{}], [{ dns }]⟩).run {}).samples.ofProtocol .dns =
      [(⟨"bbox_wan_diagnostics_min", [("mode", "dns")]⟩, 1.5),
        (⟨"bbox_wan_diagnostics_success", [("mode", "dns")]⟩, 2.0),
        (⟨"bbox_wan_diagnostics_tries", [("mode", "dns")]⟩, 3.0)] := by
  decide +kernel

end Projection

end RouterTelemetry
