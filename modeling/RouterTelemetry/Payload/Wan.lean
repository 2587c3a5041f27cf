import RouterTelemetry.Payload.Traffic

/-!
# The outside line

State, traffic, fibre port and diagnostics, as the resources below `/wan` report
them.
-/

namespace RouterTelemetry.Payload

open Json

/-- The state of the connection to the internet. -/
structure Internet where
  state : Measure := .missing

/-- How it is written. -/
def Internet.format : Format Internet :=
  .record "WanInternet" {} <|
  .field "state" .measure (·.state) (fun v r => { r with state := v }) <|
  .nil

/-- The interface in use. -/
structure Interface where
  id : Measure := .missing
  isDefault : Measure := .missing
  state : Measure := .missing

/-- How it is written. -/
def Interface.format : Format Interface :=
  .record "WanInterface" {} <|
  .field "id" .measure (·.id) (fun v r => { r with id := v }) <|
  .field "default" .measure (·.isDefault) (fun v r => { r with isDefault := v }) <|
  .field "state" .measure (·.state) (fun v r => { r with state := v }) <|
  .nil

/-- Addresses of the outside line. -/
structure WanAddress where
  address : String := ""
  state : String := ""
  gateway : String := ""
  dnsServers : String := ""
  subnet : String := ""
  ip6State : String := ""
  /-- Kept as they come, like the prefixes. -/
  ip6Addresses : List Value := []
  ip6Prefixes : List Value := []
  mac : String := ""
  mtu : Measure := .missing

/-- How it is written. -/
def WanAddress.format : Format WanAddress :=
  .record "WanIp" {} <|
  .field "address" .text (·.address) (fun v r => { r with address := v }) <|
  .field "state" .text (·.state) (fun v r => { r with state := v }) <|
  .field "gateway" .text (·.gateway) (fun v r => { r with gateway := v }) <|
  .field "dnsservers" .text (·.dnsServers) (fun v r => { r with dnsServers := v }) <|
  .field "subnet" .text (·.subnet) (fun v r => { r with subnet := v }) <|
  .field "ip6state" .text (·.ip6State) (fun v r => { r with ip6State := v }) <|
  .field "ip6address" (.list .any) (·.ip6Addresses) (fun v r => { r with ip6Addresses := v }) <|
  .field "ip6prefix" (.list .any) (·.ip6Prefixes) (fun v r => { r with ip6Prefixes := v }) <|
  .field "mac" .text (·.mac) (fun v r => { r with mac := v }) <|
  .field "mtu" .measure (·.mtu) (fun v r => { r with mtu := v }) <|
  .nil

/-- The physical line. -/
structure WanLink where
  state : String := ""
  kind : String := ""

/-- How it is written. -/
def WanLink.format : Format WanLink :=
  .record "WanLink" {} <|
  .field "state" .text (·.state) (fun v r => { r with state := v }) <|
  .cons "link_type" "type" [] false .text (·.kind) (fun v r => { r with kind := v }) <|
  .nil

/-- The outside line. -/
structure Wan where
  internet : Internet := {}
  interface : Interface := {}
  ip : WanAddress := {}
  link : WanLink := {}

/-- How it is written. -/
def Wan.format : Format Wan :=
  .record "WanIpInfo" {} <|
  .field "internet" Internet.format (·.internet) (fun v r => { r with internet := v }) <|
  .field "interface" Interface.format (·.interface) (fun v r => { r with interface := v }) <|
  .field "ip" WanAddress.format (·.ip) (fun v r => { r with ip := v }) <|
  .field "link" WanLink.format (·.link) (fun v r => { r with link := v }) <|
  .nil

/-- An element of `/wan/ip`. -/
def Wan.page : Format Wan :=
  .wrapped "WanIpInformations" {} "wan" Wan.format

/-- An element of `/wan/ip/stats`. -/
def wanTrafficPage : Format Traffic :=
  .wrapped "WanIpStatistics" {} "wan" <|
  .wrapped "WanIpStatsWan" {} "ip" <|
  .wrapped "WanIpStatsIp" {} "stats" Traffic.format

/-- The fibre port. -/
structure Fibre where
  mode : String := ""
  state : String := ""

/-- How it is written. -/
def Fibre.format : Format Fibre :=
  .record "Ftth" {} <|
  .field "mode" .text (·.mode) (fun v r => { r with mode := v }) <|
  .field "state" .text (·.state) (fun v r => { r with state := v }) <|
  .nil

/-- An element of `/wan/ftth/stats`. -/
def Fibre.page : Format Fibre :=
  .wrapped "FtthStatistics" {} "wan" (.wrapped "FtthWan" {} "ftth" Fibre.format)

/-- The outcome of probing one target. -/
structure Probe where
  host : String := ""
  min : Measure := .missing
  max : Measure := .missing
  average : Measure := .missing
  success : Measure := .missing
  error : Measure := .missing
  tries : Measure := .missing

/-- How it is written. -/
def Probe.format : Format Probe :=
  .record "DiagnosticResult" {} <|
  .field "host" .text (·.host) (fun v r => { r with host := v }) <|
  .field "min" .measure (·.min) (fun v r => { r with min := v }) <|
  .field "max" .measure (·.max) (fun v r => { r with max := v }) <|
  .field "average" .measure (·.average) (fun v r => { r with average := v }) <|
  .field "success" .measure (·.success) (fun v r => { r with success := v }) <|
  .field "error" .measure (·.error) (fun v r => { r with error := v }) <|
  .field "tries" .measure (·.tries) (fun v r => { r with tries := v }) <|
  .nil

/-- Probes by protocol, one for each target. -/
structure Diagnostics where
  dns : List Probe := []
  ping : List Probe := []
  http : List Probe := []

/-- How it is written. -/
def Diagnostics.format : Format Diagnostics :=
  .record "Diagnostics" {} <|
  .field "dns" (.list Probe.format) (·.dns) (fun v r => { r with dns := v }) <|
  .field "ping" (.list Probe.format) (·.ping) (fun v r => { r with ping := v }) <|
  .field "http" (.list Probe.format) (·.http) (fun v r => { r with http := v }) <|
  .nil

/-- An element of `/wan/diags`. -/
def Diagnostics.page : Format Diagnostics :=
  .wrapped "WanDiagnostics" {} "diags" Diagnostics.format

end RouterTelemetry.Payload
