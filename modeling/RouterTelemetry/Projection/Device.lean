import RouterTelemetry.Projection.Script
import RouterTelemetry.Snapshot

/-!
# Samples of the device group
-/

namespace RouterTelemetry.Projection

open Payload

/-- State and access technologies. -/
def deviceState (device : Device) : Script :=
  [plain "bbox_device_status" device.status "device.status",
    plain "bbox_device_number_of_boots" device.boots "device.numberofboots",
    plain "bbox_device_temperature" device.temperature.current "device.temperature.current"] ++
  [("ipv4", device.access.ipv4), ("ipv6", device.access.ipv6), ("ftth", device.access.ftth),
    ("adsl", device.access.adsl), ("vdsl", device.access.vdsl)].map fun (feature, measure) =>
      .field ⟨"bbox_device_using", [("feature", feature)]⟩ measure ("device.using." ++ feature)

/-- Memory. -/
def memory (memory : Memory) : Script :=
  [plain "bbox_device_memory_total" memory.total "device.mem.total",
    plain "bbox_device_memory_free" memory.free "device.mem.free",
    plain "bbox_device_memory_cached" memory.cached "device.mem.cached"]

/-- Processor time and processes. -/
def processor (processor : Processor) : Script :=
  let time := processor.time
  let process := processor.process
  ([("total", time.total), ("user", time.user), ("nice", time.nice), ("system", time.system),
    ("io", time.io), ("idle", time.idle), ("irq", time.irq)].map fun (key, measure) =>
      plain ("bbox_device_cpu_" ++ key) measure ("device.cpu.time." ++ key)) ++
  [("created", process.created), ("running", process.running),
    ("blocked", process.blocked)].map fun (key, measure) =>
      plain ("bbox_device_process_" ++ key) measure ("device.cpu.process." ++ key)

/-- The device group: state, memory, processor. -/
def device (pages : DevicePages) : Script :=
  inform "Store device metrics" ::
    (withFirst pages.device Resource.device.path deviceState ++
      withFirst pages.memory Resource.memory.path memory ++
      withFirst pages.processor Resource.processor.path processor)

end RouterTelemetry.Projection
