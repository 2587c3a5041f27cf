import RouterTelemetry.Json.Format

/-!
# Features of the router

The features that `/services` reports, each with its state.
-/

namespace RouterTelemetry.Payload

open Json

/-- The state of one feature.  Not every feature reports every member, and one of
them calls its status `state`. -/
structure ServiceState where
  status : Measure := .missing
  enabled : Measure := .missing
  rules : Measure := .missing

/-- How it is written. -/
def ServiceState.format : Format ServiceState :=
  .record "ServiceState" {} <|
  .cons "status" "status" ["state"] false .measure (·.status) (fun v r => { r with status := v }) <|
  .field "enable" .measure (·.enabled) (fun v r => { r with enabled := v }) <|
  .field "nbrules" .measure (·.rules) (fun v r => { r with rules := v }) <|
  .nil

/-- Port mapping. -/
structure Upnp where
  gateway : ServiceState := {}

/-- How it is written. -/
def Upnp.format : Format Upnp :=
  .record "Upnp" {} <|
  .field "igd" ServiceState.format (·.gateway) (fun v r => { r with gateway := v }) <|
  .nil

/-- Remote access. -/
structure Remote where
  wakeOnLan : ServiceState := {}
  admin : ServiceState := {}

/-- How it is written. -/
def Remote.format : Format Remote :=
  .record "Remote" {} <|
  .field "proxywol" ServiceState.format (·.wakeOnLan) (fun v r => { r with wakeOnLan := v }) <|
  .field "admin" ServiceState.format (·.admin) (fun v r => { r with admin := v }) <|
  .nil

/-- Features of the USB port. -/
structure Usb where
  samba : ServiceState := {}
  printer : ServiceState := {}
  dlna : ServiceState := {}

/-- How it is written. -/
def Usb.format : Format Usb :=
  .record "Usb" {} <|
  .field "samba" ServiceState.format (·.samba) (fun v r => { r with samba := v }) <|
  .field "printer" ServiceState.format (·.printer) (fun v r => { r with printer := v }) <|
  .field "dlna" ServiceState.format (·.dlna) (fun v r => { r with dlna := v }) <|
  .nil

/-- The features of the router. -/
structure Services where
  now : String := ""
  firewall : ServiceState := {}
  dynamicDns : ServiceState := {}
  dhcp : ServiceState := {}
  nat : ServiceState := {}
  gamerMode : ServiceState := {}
  upnp : Upnp := {}
  remote : Remote := {}
  parentalControl : ServiceState := {}
  wifiScheduler : ServiceState := {}
  voipScheduler : ServiceState := {}
  notifications : ServiceState := {}
  hotspot : ServiceState := {}
  usb : Usb := {}

/-- How it is written. -/
def Services.format : Format Services :=
  .record "Services" {} <|
  .field "now" .text (·.now) (fun v r => { r with now := v }) <|
  .field "firewall" ServiceState.format (·.firewall) (fun v r => { r with firewall := v }) <|
  .field "dyndns" ServiceState.format (·.dynamicDns) (fun v r => { r with dynamicDns := v }) <|
  .field "dhcp" ServiceState.format (·.dhcp) (fun v r => { r with dhcp := v }) <|
  .field "nat" ServiceState.format (·.nat) (fun v r => { r with nat := v }) <|
  .field "gamermode" ServiceState.format (·.gamerMode) (fun v r => { r with gamerMode := v }) <|
  .field "upnp" Upnp.format (·.upnp) (fun v r => { r with upnp := v }) <|
  .field "remote" Remote.format (·.remote) (fun v r => { r with remote := v }) <|
  .field "parentalcontrol" ServiceState.format (·.parentalControl)
    (fun v r => { r with parentalControl := v }) <|
  .field "wifischeduler" ServiceState.format (·.wifiScheduler)
    (fun v r => { r with wifiScheduler := v }) <|
  .field "voipscheduler" ServiceState.format (·.voipScheduler)
    (fun v r => { r with voipScheduler := v }) <|
  .field "notification" ServiceState.format (·.notifications)
    (fun v r => { r with notifications := v }) <|
  .field "hotspot" ServiceState.format (·.hotspot) (fun v r => { r with hotspot := v }) <|
  .field "usb" Usb.format (·.usb) (fun v r => { r with usb := v }) <|
  .nil

/-- An element of `/services`. -/
def Services.page : Format Services :=
  .wrapped "ServicesInformations" {} "services" Services.format

end RouterTelemetry.Payload
