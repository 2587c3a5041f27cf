import RouterTelemetry.Projection.Script
import RouterTelemetry.Snapshot

/-!
# Samples of the services group
-/

namespace RouterTelemetry.Projection

open Payload

/-- Every feature with its label. -/
def features (services : Services) : List (String × ServiceState) :=
  [("firewall", services.firewall),
    ("dyndns", services.dynamicDns),
    ("dhcp", services.dhcp),
    ("nat", services.nat),
    ("gamermode", services.gamerMode),
    ("upnp", services.upnp.gateway),
    ("remote_proxywol", services.remote.wakeOnLan),
    ("remote_admin", services.remote.admin),
    ("parentalcontrol", services.parentalControl),
    ("wifischeduler", services.wifiScheduler),
    ("voipscheduler", services.voipScheduler),
    ("notification", services.notifications),
    ("hotspot", services.hotspot),
    ("usb_samba", services.usb.samba),
    ("usb_printer", services.usb.printer),
    ("usb_dlna", services.usb.dlna)]

/-- The state of one feature. -/
def feature (label : String) (state : ServiceState) : Script :=
  let labels : Labels := [("service", label)]
  let path (key : String) := "services." ++ label ++ "." ++ key
  [.field ⟨"bbox_service_enabled", labels⟩ state.enabled (path "enable"),
    .field ⟨"bbox_service_status", labels⟩ state.status (path "status"),
    .field ⟨"bbox_service_rules", labels⟩ state.rules (path "nbrules")]

/-- The services group. -/
def services (pages : List Services) : Script :=
  inform "Store services metrics" ::
    withFirst pages Resource.services.path fun page =>
      (features page).flatMap fun (label, state) => feature label state

end RouterTelemetry.Projection
