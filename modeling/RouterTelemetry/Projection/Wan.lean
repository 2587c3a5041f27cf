import RouterTelemetry.Projection.Link
import RouterTelemetry.Snapshot

/-!
# Samples of the outside line

Of the probes of one protocol, the first that has been tried counts: the router
lists targets that it has not probed yet with zero tries, and those would look
like answers without delay.
-/

namespace RouterTelemetry.Projection

open Payload

/-- The first probe with positive tries. -/
def selectProbe? (probes : List Probe) : Option Probe :=
  probes.find? (·.tries.isPositive)

/-- The probes of one protocol. -/
def probes (mode : String) (probes : List Probe) : Script :=
  match selectProbe? probes with
  | none => [.note ⟨.debug, "No " ++ mode ++ " diagnostic with tries > 0, skipping"⟩]
  | some probe =>
      [("min", probe.min, "min"), ("max", probe.max, "max"), ("avg", probe.average, "average"),
        ("success", probe.success, "success"), ("error", probe.error, "error"),
        ("tries", probe.tries, "tries")].map fun (suffix, measure, key) =>
          .field ⟨"bbox_wan_diagnostics_" ++ suffix, [("mode", mode)]⟩ measure
            ("diags." ++ mode ++ "." ++ key)

/-- The state of the line. -/
def line (wan : Wan) : Script :=
  [plain "bbox_wan_internet_state" wan.internet.state "wan.internet.state",
    plain "bbox_wan_interface_state" wan.interface.state "wan.interface.state",
    .set ⟨"bbox_wan_link_up", [("type", orElse wan.link.kind "unknown")]⟩
      (linkState wan.link.state)]

/-- The state of the fibre port. -/
def fibre (fibre : Fibre) : Script :=
  [.set ⟨"bbox_wan_ftth_state", []⟩ (linkState fibre.state)]

/-- The probes of every protocol. -/
def diagnostics (diagnostics : Diagnostics) : Script :=
  probes "dns" diagnostics.dns ++ probes "ping" diagnostics.ping ++ probes "http" diagnostics.http

/-- The group of the outside line. -/
def wan (pages : WanPages) : Script :=
  inform "Store WAN metrics" ::
    (withFirst pages.wan Resource.wan.path line ++
      withFirst pages.traffic Resource.wanTraffic.path
        (traffic "bbox_wan" [] "wan.ip.stats" true) ++
      withFirst pages.fibre Resource.fibre.path fibre ++
      withFirst pages.diagnostics Resource.diagnostics.path diagnostics)

end RouterTelemetry.Projection
