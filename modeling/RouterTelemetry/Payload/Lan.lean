import RouterTelemetry.Payload.Traffic

/-!
# The local network

Addresses, switch ports, traffic and hosts.
-/

namespace RouterTelemetry.Payload

open Json

/-- Addresses of the router on the local network. -/
structure LanAddress where
  state : String := ""
  mtu : Measure := .missing
  address : String := ""
  ip6Enabled : Measure := .missing
  ip6State : String := ""
  /-- Kept as they come, like the prefixes. -/
  ip6Addresses : List Value := []
  ip6Prefixes : List Value := []
  netmask : String := ""
  mac : String := ""
  hostname : String := ""
  domain : String := ""

/-- How it is written. -/
def LanAddress.format : Format LanAddress :=
  .record "LanIp" {} <|
  .field "state" .text (·.state) (fun v r => { r with state := v }) <|
  .field "mtu" .measure (·.mtu) (fun v r => { r with mtu := v }) <|
  .field "ipaddress" .text (·.address) (fun v r => { r with address := v }) <|
  .field "ip6enable" .measure (·.ip6Enabled) (fun v r => { r with ip6Enabled := v }) <|
  .field "ip6state" .text (·.ip6State) (fun v r => { r with ip6State := v }) <|
  .field "ip6address" (.list .any) (·.ip6Addresses) (fun v r => { r with ip6Addresses := v }) <|
  .field "ip6prefix" (.list .any) (·.ip6Prefixes) (fun v r => { r with ip6Prefixes := v }) <|
  .field "netmask" .text (·.netmask) (fun v r => { r with netmask := v }) <|
  .field "mac" .text (·.mac) (fun v r => { r with mac := v }) <|
  .field "hostname" .text (·.hostname) (fun v r => { r with hostname := v }) <|
  .field "domain" .text (·.domain) (fun v r => { r with domain := v }) <|
  .nil

/-- A port of the switch. -/
structure Port where
  id : Measure := .missing
  state : String := ""
  linkMode : String := ""
  blocked : Measure := .missing
  flickering : Measure := .missing

/-- How it is written. -/
def Port.format : Format Port :=
  .record "SwitchPort" {} <|
  .field "id" .measure (·.id) (fun v r => { r with id := v }) <|
  .field "state" .text (·.state) (fun v r => { r with state := v }) <|
  .field "link_mode" .text (·.linkMode) (fun v r => { r with linkMode := v }) <|
  .field "blocked" .measure (·.blocked) (fun v r => { r with blocked := v }) <|
  .field "flickering" .measure (·.flickering) (fun v r => { r with flickering := v }) <|
  .nil

/-- The local network. -/
structure Lan where
  ip : LanAddress := {}
  ports : List Port := []

/-- How it is written. -/
def Lan.format : Format Lan :=
  .record "LanIpInfo" {} <|
  .field "ip" LanAddress.format (·.ip) (fun v r => { r with ip := v }) <|
  .field "switch" (.wrapped "LanSwitch" [] "ports" (.list Port.format)) (·.ports)
    (fun v r => { r with ports := v }) <|
  .nil

/-- An element of `/lan/ip`. -/
def Lan.page : Format Lan :=
  .wrapped "LanIpInformations" {} "lan" Lan.format

/-- An element of `/lan/stats`. -/
def lanTrafficPage : Format Traffic :=
  .wrapped "LanStatistics" {} "lan" (.wrapped "LanStatsLan" {} "stats" Traffic.format)

/-- A host seen on the local network. -/
structure Host where
  id : Measure := .missing
  hostname : String := ""
  mac : String := ""
  address : String := ""
  kind : String := ""
  /-- The link it is seen on, such as `Ethernet` or `Wifi 5`. -/
  link : String := ""
  deviceKind : String := ""
  ip6Addresses : List Value := []
  lease : Measure := .missing
  /-- Positive while it is connected. -/
  active : Measure := .missing

/-- How it is written. -/
def Host.format : Format Host :=
  .record "LanHost" {} <|
  .field "id" .measure (·.id) (fun v r => { r with id := v }) <|
  .field "hostname" .text (·.hostname) (fun v r => { r with hostname := v }) <|
  .field "macaddress" .text (·.mac) (fun v r => { r with mac := v }) <|
  .field "ipaddress" .text (·.address) (fun v r => { r with address := v }) <|
  .cons "host_type" "type" [] false .text (·.kind) (fun v r => { r with kind := v }) <|
  .field "link" .text (·.link) (fun v r => { r with link := v }) <|
  .field "devicetype" .text (·.deviceKind) (fun v r => { r with deviceKind := v }) <|
  .field "ip6address" (.list .any) (·.ip6Addresses) (fun v r => { r with ip6Addresses := v }) <|
  .field "lease" .measure (·.lease) (fun v r => { r with lease := v }) <|
  .field "active" .measure (·.active) (fun v r => { r with active := v }) <|
  .nil

/-- An element of `/hosts`. -/
def hostsPage : Format (List Host) :=
  .wrapped "LanDevices" [] "hosts" (.wrapped "LanHosts" [] "list" (.list Host.format))

end RouterTelemetry.Payload
