import RouterTelemetry.Proofs.FigureTraces
import RouterTelemetry.Proofs.QuietCollection
import RouterTelemetry.Proofs.ScriptRuns

/-!
# Reported figures

A projection warns of the figures that could not be read, of each with its key and its place,
and of nothing else.  Flags of hosts, numbers of ports and the tries of probes that are passed
over are read without being recorded, and what could not be read of them goes unreported.
-/

namespace RouterTelemetry.Projection

open Payload

/-- The warning about a figure that could not be read. -/
def Figure.warning? {σ : Type} (figure : Figure σ) : Option Event :=
  match figure.measure with
  | .invalid reason =>
      some ⟨.warn, "Skipping " ++ figure.key.name ++ ": cannot decode " ++ figure.path ++ ": " ++
        reason.message⟩
  | .value _ | .missing => none

theorem Figure.warning?_eq {σ : Type} (figure : Figure σ) :
    (figure.step figure.measure).event?.filter (·.reaches .warn) = figure.warning? := by
  rw [Figure.step, Step.event?, warning?]
  cases figure.measure <;> rfl

/-- Of a calm script only measures are reported as severely as a warning. -/
theorem Script.Calm.atLevel_events {script : Script} (calm : Script.Calm script) :
    Event.atLevel .warn (script.filterMap Step.event?) =
      (script.filter Step.isField).filterMap fun step =>
        step.event?.filter (·.reaches .warn) := by
  rw [Event.atLevel, List.filter_filterMap, List.filterMap_filter]
  refine List.filterMap_congr fun step member => ?_
  have silent := calm step member
  cases step with
  | note event =>
      have quiet : event.reaches .warn = false := silent
      simp [Step.event?, Step.isField, Option.filter, quiet]
  | set key value => rfl
  | count key => rfl
  | field key measure path => rfl
  | stop failure => rfl

/-- The figures of a snapshot are all that its projection records through measures, and when it
can be projected, the warnings are those about figures that could not be read, in order. -/
theorem warnings_are_of_figures {snapshot : Snapshot} {samples : SampleSet}
    (projected : (project snapshot).1 = .ok samples) :
    ((wholeScript snapshot).filter Step.isField =
      (figures snapshot).map fun figure => figure.step figure.measure) ∧
    Event.atLevel .warn (project snapshot).2 = (figures snapshot).filterMap Figure.warning? := by
  have recorded := (wholeScript_traces snapshot).recorded
  refine ⟨recorded, ?_⟩
  have going := (project_eq_ok_iff.mp projected).1
  rw [events_project, Script.events_run going, (wholeScript_calm snapshot).atLevel_events, recorded,
    List.filterMap_map]
  exact congrArg (List.filterMap · _) (funext Figure.warning?_eq)

/-- Of two receipts one is no number. -/
theorem unread_receipt_warned :
    let reason : Json.Mismatch := .value (.text "x") quantityName
    let snapshot : Snapshot :=
      { device := ⟨[{}], [{}], [{}]⟩, services := [{}], wan := ⟨[{}], [{}], [{}], [{}]⟩
        lan := ⟨[{}], [{}], [[]]⟩, wireless := [], dns := [{}]
        iptv := [{ channels := [{ name := "News", receipt := .value 1.0 },
          { name := "Films", receipt := .invalid reason }] }] }
    ∃ samples, (project snapshot).1 = .ok samples ∧
      Event.atLevel .warn (project snapshot).2 =
        [⟨.warn, "Skipping bbox_iptv_channel_received: cannot decode iptv.Films.receipt: " ++
          reason.message⟩] := by
  intro reason snapshot
  have projected : (project snapshot).1 = .ok ((wholeScript snapshot).run {}).samples := rfl
  have warned : (figures snapshot).filterMap Figure.warning? =
      [⟨.warn, "Skipping bbox_iptv_channel_received: cannot decode iptv.Films.receipt: " ++
        reason.message⟩] := by
    decide +kernel
  exact ⟨_, projected, (warnings_are_of_figures projected).2.trans warned⟩

/-- A host whose flag is no number is not counted, a port whose number is none is numbered by
its position, and a probe whose tries are none is passed over; there is no warning of any of
them. -/
theorem unread_flags_not_warned :
    let unread : Measure := .invalid (.value (.text "x") quantityName)
    let host : Host := { link := "Ethernet", active := unread }
    let snapshot : Snapshot :=
      { device := ⟨[{}], [{}], [{}]⟩, services := [{}]
        wan := ⟨[{}], [{}], [{}], [{ ping := [{ tries := unread }] }]⟩
        lan := ⟨[{ ports := [{ id := unread }] }], [{}], [[host]]⟩
        wireless := [], dns := [{}], iptv := [] }
    ∃ samples, (project snapshot).1 = .ok samples ∧
      samples.get? ⟨"bbox_lan_connected_devices", [("link", "Ethernet")]⟩ = none ∧
      Event.atLevel .warn (project snapshot).2 = [] := by
  intro unread host snapshot
  exact ⟨_, rfl, by decide, by decide⟩

end RouterTelemetry.Projection
