import RouterTelemetry.Proofs.RecordMembers
import RouterTelemetry.Snapshot

/-!
# The pages are lawful

Every record in a page of the router is as a structure: each member has a key and a field of its
own.
-/

namespace RouterTelemetry

open Json

namespace Payload

theorem Counters.lawful : Counters.format.Lawful := by
  simp only [Counters.format, Members.field, Format.Lawful, Members.Lawful, Members.AllLawful,
    Members.AllApart]
  repeat' constructor
  all_goals first
    | (intros; rfl)
    | decide

theorem ServiceState.lawful : ServiceState.format.Lawful := by
  simp only [ServiceState.format, Members.field, Format.Lawful, Members.Lawful, Members.AllLawful,
    Members.AllApart]
  repeat' constructor
  all_goals first
    | (intros; rfl)
    | decide

end Payload

namespace Resource

open Payload

/-- The pages of all resources are lawful. -/
theorem lawful_pages :
    device.page.Lawful ∧ processor.page.Lawful ∧ memory.page.Lawful ∧ services.page.Lawful ∧
      wan.page.Lawful ∧ wanTraffic.page.Lawful ∧ fibre.page.Lawful ∧ diagnostics.page.Lawful ∧
      lan.page.Lawful ∧ lanTraffic.page.Lawful ∧ hosts.page.Lawful ∧
      (∀ band, (radio band).page.Lawful) ∧ resolver.page.Lawful ∧ television.page.Lawful := by
  refine ⟨?_, ?_, ?_, ?_, ?_, ?_, ?_, ?_, ?_, ?_, ?_, fun band => ?_, ?_, ?_⟩
  all_goals simp only [device, Device.page, Device.format, Temperature.format, Access.format,
    processor, Processor.page, Processor.format, ProcessorTime.format, Processes.format, memory,
    Memory.page, Memory.format, services, Services.page, Services.format, Usb.format, Remote.format,
    Upnp.format, wan, Wan.page, Wan.format, Internet.format, Interface.format, WanAddress.format,
    WanLink.format, wanTraffic, wanTrafficPage, Traffic.format, fibre, Fibre.page, Fibre.format,
    diagnostics, Diagnostics.page, Diagnostics.format, Probe.format, lan, Lan.page, Lan.format,
    LanAddress.format, Port.format, lanTraffic, lanTrafficPage, hosts, hostsPage, Host.format,
    radio, Radio.page, Radio.format, resolver, Resolver.page, Resolver.format, television,
    Television.format, Channel.format, Format.wrapped, Members.field, Format.Lawful,
    Members.Lawful, Members.AllLawful, Members.AllApart, Counters.lawful, ServiceState.lawful]
  -- Getting and setting compute, and the keys are different words.
  all_goals repeat' constructor
  all_goals first
    | (intros; rfl)
    | decide

end Resource

end RouterTelemetry
