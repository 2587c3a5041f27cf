import RouterTelemetry.Decimal.Layout
import RouterTelemetry.Projection.Link
import RouterTelemetry.Snapshot

/-!
# Samples of the local network
-/

namespace RouterTelemetry.Projection

open Payload

/-- Counts every active host under the link it is seen on. -/
def hosts (hosts : List Host) : Script :=
  (hosts.filter (·.active.isPositive)).map fun host =>
    .count ⟨"bbox_lan_connected_devices", [("link", orElse host.link "unknown")]⟩

/-- The label of a port: its number, or its position from one on. -/
def portLabel (position : Nat) (port : Port) : String :=
  Decimal.exposed.render (port.id.quantity?.getD (Float.ofNat (position + 1)))

/-- The state of every port of the switch. -/
def ports (ports : List Port) : Script :=
  ports.mapIdx fun position port =>
    .set ⟨"bbox_lan_switch_port_up", [("port", portLabel position port)]⟩ (linkState port.state)

/-- The group of the local network: traffic, hosts, switch. -/
def lan (pages : LanPages) : Script :=
  inform "Store LAN metrics" ::
    (withFirst pages.traffic Resource.lanTraffic.path
        (traffic "bbox_lan" [] "lan.stats" false) ++
      withFirst pages.hosts Resource.hosts.path hosts ++
      withFirst pages.lan Resource.lan.path fun lan => ports lan.ports)

end RouterTelemetry.Projection
