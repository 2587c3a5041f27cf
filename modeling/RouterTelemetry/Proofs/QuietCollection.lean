import RouterTelemetry.Cycle
import RouterTelemetry.Proofs.Composition
import RouterTelemetry.Proofs.Exchange

/-!
# Collections report no error

Neither the exchanges with the router nor the projection report an event as severe as
an error; only the end of a cycle does.  What a projection reports as severely as a warning
is about measures.
-/

namespace RouterTelemetry

open Http

/-- The event is less severe than an error. -/
def Event.Mild (event : Event) : Prop :=
  event.level ≠ .error

instance (event : Event) : Decidable event.Mild :=
  inferInstanceAs (Decidable (event.level ≠ .error))

/-- The event is less severe than a warning. -/
def Event.Calm (event : Event) : Prop :=
  event.reaches .warn = false

instance (event : Event) : Decidable event.Calm :=
  inferInstanceAs (Decidable (event.reaches .warn = false))

theorem Event.Calm.mild {event : Event} (calm : event.Calm) : event.Mild := by
  intro level
  simp [Event.Calm, reaches, level, Level.rank] at calm

theorem Event.atLevel_append (level : Level) (events later : List Event) :
    atLevel level (events ++ later) = atLevel level events ++ atLevel level later :=
  List.filter_append events later

theorem Event.atLevel_error_eq_nil {events : List Event} (mild : ∀ event ∈ events, event.Mild) :
    atLevel .error events = [] := by
  rw [atLevel, List.filter_eq_nil_iff]
  intro event member
  have less := mild event member
  cases level : event.level with
  | error => exact absurd level less
  | warn => simp [reaches, level, Level.rank]
  | info => simp [reaches, level, Level.rank]
  | debug => simp [reaches, level, Level.rank]

/-! ## Projections -/

theorem Measure.mild_of_skipped? (measure : Measure) {name path : String} {event : Event}
    (skipped : measure.skipped? name path = some event) : event.Mild := by
  cases measure with
  | value quantity => cases skipped
  | invalid reason =>
      cases skipped
      simp [Event.Mild]
  | missing =>
      cases skipped
      simp [Event.Mild]

namespace Projection

/-- The step reports nothing of its own that is as severe as a warning. -/
def Step.Calm : Step → Prop
  | .note event => event.Calm
  | _ => True

/-- No step reports anything of its own that is as severe as a warning. -/
def Script.Calm (script : Script) : Prop :=
  ∀ step ∈ script, step.Calm

@[simp]
theorem Step.calm_note {event : Event} : (note event).Calm ↔ event.Calm :=
  Iff.rfl

@[simp]
theorem Step.calm_set (key : SampleKey) (value : Float) : (set key value).Calm :=
  trivial

@[simp]
theorem Step.calm_count (key : SampleKey) : (count key).Calm :=
  trivial

@[simp]
theorem Step.calm_field (key : SampleKey) (measure : Measure) (path : String) :
    (field key measure path).Calm :=
  trivial

@[simp]
theorem Step.calm_stop (failure : Failure) : (stop failure).Calm :=
  trivial

@[simp]
theorem Step.calm_inform (message : String) : (inform message).Calm := by
  simp [inform, Event.Calm, Event.reaches, Level.rank]

@[simp]
theorem Step.calm_plain (name : String) (measure : Measure) (path : String) :
    (plain name measure path).Calm :=
  trivial

@[simp]
theorem Script.calm_nil : Calm [] := by
  simp [Calm]

@[simp]
theorem Script.calm_cons {step : Step} {script : Script} :
    Calm (step :: script) ↔ step.Calm ∧ Calm script := by
  simp [Calm]

@[simp]
theorem Script.calm_append {script later : Script} :
    Calm (script ++ later) ↔ Calm script ∧ Calm later := by
  simp [Calm, or_imp, forall_and]

@[simp]
theorem Script.calm_map {α : Type} {list : List α} {step : α → Step} :
    Calm (list.map step) ↔ ∀ a ∈ list, (step a).Calm := by
  simp [Calm]

@[simp]
theorem Script.calm_mapIdx {α : Type} {list : List α} {step : Nat → α → Step} :
    Calm (list.mapIdx step) ↔ ∀ i, ∀ h : i < list.length, (step i list[i]).Calm := by
  simp only [Calm, List.mem_mapIdx]
  exact ⟨fun calm i inside => calm _ ⟨i, inside, rfl⟩,
    fun calm _ ⟨i, inside, equal⟩ => equal ▸ calm i inside⟩

@[simp]
theorem Script.calm_flatMap {α : Type} {list : List α} {script : α → Script} :
    Calm (list.flatMap script) ↔ ∀ a ∈ list, Calm (script a) := by
  simp only [Calm, List.mem_flatMap]
  exact ⟨fun calm a member step inScript => calm step ⟨a, member, inScript⟩,
    fun calm step ⟨a, member, inScript⟩ => calm a member step inScript⟩

@[simp]
theorem Script.calm_withFirst {α : Type} {pages : List α} {path : String} {steps : α → Script}
    (calm : ∀ page, Calm (steps page)) : Calm (withFirst pages path steps) := by
  cases pages with
  | nil => simp [withFirst]
  | cons page rest => exact calm page

theorem Script.calm_inGroup {script : Script} (calm : Calm script) (group : Group) :
    Calm (script.inGroup group) := by
  intro step member
  obtain ⟨inner, innerMember, rfl⟩ := List.mem_map.mp member
  have innerCalm := calm inner innerMember
  cases inner with
  | note event => exact innerCalm
  | set key value => trivial
  | count key => trivial
  | field key measure path => trivial
  | stop failure => trivial

theorem device_calm (pages : DevicePages) : Script.Calm (device pages) := by
  have state (page : Payload.Device) : Script.Calm (deviceState page) := by simp [deviceState]
  have room (page : Payload.Memory) : Script.Calm (memory page) := by simp [memory]
  have time (page : Payload.Processor) : Script.Calm (processor page) := by simp [processor]
  simp [device, state, room, time]

theorem services_calm (pages : List Payload.Services) : Script.Calm (services pages) := by
  simp [services, feature]

theorem counters_calm (family : String) (labels : Labels) (direction short path : String)
    (line : Bool) (figures : Payload.Counters) :
    Script.Calm (counters family labels direction short path line figures) := by
  cases line <;> simp [counters]

theorem traffic_calm (family : String) (labels : Labels) (path : String) (line : Bool)
    (figures : Payload.Traffic) : Script.Calm (traffic family labels path line figures) :=
  Script.calm_append.mpr ⟨counters_calm _ _ _ _ _ _ _, counters_calm _ _ _ _ _ _ _⟩

theorem probes_calm (mode : String) (list : List Payload.Probe) :
    Script.Calm (probes mode list) := by
  unfold probes
  cases selectProbe? list <;> simp [Event.Calm, Event.reaches, Level.rank]

theorem wan_calm (pages : WanPages) : Script.Calm (wan pages) := by
  have state (page : Payload.Wan) : Script.Calm (line page) := by simp [line]
  have port (page : Payload.Fibre) : Script.Calm (fibre page) := by simp [fibre]
  have probed (page : Payload.Diagnostics) : Script.Calm (diagnostics page) := by
    simp [diagnostics, probes_calm]
  simp [wan, state, port, probed, traffic_calm]

theorem lan_calm (pages : LanPages) : Script.Calm (lan pages) := by
  have seen (page : List Payload.Host) : Script.Calm (hosts page) := by simp [hosts]
  simp [lan, seen, ports, traffic_calm]

theorem wireless_calm (bands : List BandPages) : Script.Calm (wireless bands) := by
  simp [wireless, band, traffic_calm]

theorem dns_calm (pages : List Payload.Resolver) : Script.Calm (dns pages) := by
  have answers (page : Payload.Resolver) : Script.Calm (resolver page) := by simp [resolver]
  simp [dns, answers]

theorem iptv_calm (pages : List Payload.Television) : Script.Calm (iptv pages) := by
  simp [iptv, channel]

theorem script_calm (snapshot : Snapshot) (group : Group) :
    Script.Calm (script snapshot group) := by
  cases group with
  | device => exact device_calm _
  | services => exact services_calm _
  | wan => exact wan_calm _
  | lan => exact lan_calm _
  | wireless => exact wireless_calm _
  | dns => exact dns_calm _
  | iptv => exact iptv_calm _

theorem Script.run_mild {script : Script} (calm : Calm script) (samples : SampleSet) :
    ∀ event ∈ (run samples script).events, event.Mild := by
  induction script generalizing samples with
  | nil => simp [run]
  | cons step script ih =>
      obtain ⟨stepCalm, rest⟩ := calm_cons.mp calm
      cases step with
      | note event =>
          rintro other (_ | ⟨_, later⟩)
          · exact stepCalm.mild
          · exact ih rest samples other later
      | set key value => exact ih rest _
      | count key => exact ih rest _
      | field key measure path =>
          intro event member
          rcases List.mem_append.mp member with skipped | later
          · exact measure.mild_of_skipped? (Option.mem_toList.mp skipped)
          · exact ih rest _ event later
      | stop failure => simp [run]

/-- Only measures are reported as severely as a warning. -/
theorem wholeScript_calm (snapshot : Snapshot) : Script.Calm (wholeScript snapshot) :=
  Script.calm_flatMap.mpr fun group _ => Script.calm_inGroup (script_calm snapshot group) group

/-- A projection reports no error. -/
theorem project_mild (snapshot : Snapshot) : ∀ event ∈ (project snapshot).2, event.Mild := by
  have mild := Script.run_mild (wholeScript_calm snapshot) {}
  unfold project
  cases failed : ((wholeScript snapshot).run {}).failure with
  | none => simpa only [failed] using mild
  | some failure => simpa only [failed] using mild

end Projection

/-! ## Dialogues -/

/-- No run of the dialogue reports an error. -/
def Quiet {α : Type} (dialogue : Dialogue α) : Prop :=
  ∀ (σ : Type) (router : Router σ) (session : Session) (state : σ),
    ∀ event ∈ (dialogue.run router session state).events, event.Mild

theorem quiet_composable : Composable Quiet where
  done value σ router session state := by simp
  report mild next σ router session state := by
    rintro event (_ | ⟨_, later⟩)
    · exact mild
    · exact next σ router session state event later
  bind first rest σ router session state := by
    rw [Dialogue.run_bind, Dialogue.Run.events_followedBy]
    intro event member
    rcases List.mem_append.mp member with early | late
    · exact first σ router session state event early
    · exact rest _ σ router _ _ event late

namespace Client

theorem login_quiet (endpoint : Endpoint) (password : String) :
    Quiet (login endpoint password).run := by
  intro σ router session state
  cases parsed : Url.parse (endpoint.addressOf loginPath) with
  | error fault =>
      rw [login_run_of_parse_error password router session state parsed]
      simp [loginEvent, Event.Mild]
  | ok url =>
      rw [login_run_of_parse_ok password router session state parsed]
      dsimp only
      generalize (router.reply (loginRequest url password) state).1 = reply
      unfold grantEvents
      cases sessionFrom reply <;> simp [loginEvent, Event.Mild]

theorem get_quiet (endpoint : Endpoint) {α : Type} (resource : Resource α) :
    Quiet (get endpoint resource).run := by
  intro σ router session state
  cases parsed : Url.parse (endpoint.addressOf resource.path) with
  | error fault =>
      rw [get_run_of_parse_error resource router session state parsed]
      simp [fetchEvent, Event.Mild]
  | ok url =>
      rw [get_run_of_parse_ok resource router session state parsed]
      dsimp only
      rcases (router.reply (fetchRequest url session) state).1 with _ | ⟨status, setCookies, body⟩
      · simp [receiptEvents, fetchEvent, Event.Mild]
      · cases body <;> simp [receiptEvents, fetchEvent, Event.Mild]

end Client

theorem reportAll_quiet {events : List Event} (mild : ∀ event ∈ events, event.Mild) :
    Quiet (Attempt.reportAll events).run := by
  intro σ router session state
  rw [Attempt.run_reportAll_run]
  exact mild

/-- A collection reports no error. -/
theorem Collector.collect_quiet (collector : Collector) : Quiet collector.collect.run := by
  refine quiet_composable.attempt_bind ?_ fun snapshot => ?_
  · exact quiet_composable.takeSnapshot (Client.get_quiet _) (Client.login_quiet _ _) _
  · refine quiet_composable.attempt_bind ?_ fun _ => quiet_composable.done _
    exact reportAll_quiet (Projection.project_mild snapshot)

/-- A cycle reports no error before its end. -/
theorem Collector.cycle_quiet (collector : Collector) : Quiet collector.cycle :=
  quiet_composable.report (by decide) collector.collect_quiet

end RouterTelemetry
