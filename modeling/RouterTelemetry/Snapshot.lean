import RouterTelemetry.Band
import RouterTelemetry.Failure
import RouterTelemetry.Json.Shown
import RouterTelemetry.Payload.Device
import RouterTelemetry.Payload.Services
import RouterTelemetry.Payload.Wan
import RouterTelemetry.Payload.Lan
import RouterTelemetry.Payload.Radio
import RouterTelemetry.Payload.Resolver
import RouterTelemetry.Payload.Television

/-!
# Resources and snapshots

A resource is a path below the interface's root whose answer is a list of pages
in one format.  A snapshot holds the pages of every resource, by group; a log shows
the pages of a group as one record.
-/

namespace RouterTelemetry

open Json Payload

/-- A path, and the format of one element of its answer. -/
structure Resource (α : Type) where
  path : String
  page : Format α

/-- Decodes the whole answer of a resource. -/
def Resource.decode {α : Type} (resource : Resource α) (body : Input) :
    Except Failure (List α) :=
  match (Format.list resource.page).decode body with
  | .ok pages => .ok pages
  | .error fault => .error (.decode resource.path fault)

/-- The pages of a resource as a log shows them. -/
def Resource.shown {α : Type} (resource : Resource α) (pages : List α) : String :=
  Text.bracketed (pages.map fun page => (resource.page.view page).shown)

namespace Resource

/-- The router itself. -/
def device : Resource Device := ⟨"/device", Device.page⟩

/-- Its processor. -/
def processor : Resource Processor := ⟨"/device/cpu", Processor.page⟩

/-- Its memory. -/
def memory : Resource Memory := ⟨"/device/mem", Memory.page⟩

/-- Its features. -/
def services : Resource Services := ⟨"/services", Services.page⟩

/-- The outside line. -/
def wan : Resource Wan := ⟨"/wan/ip", Wan.page⟩

/-- Traffic of the outside line. -/
def wanTraffic : Resource Traffic := ⟨"/wan/ip/stats", wanTrafficPage⟩

/-- The fibre port. -/
def fibre : Resource Fibre := ⟨"/wan/ftth/stats", Fibre.page⟩

/-- Diagnostics of the outside line. -/
def diagnostics : Resource Diagnostics := ⟨"/wan/diags", Diagnostics.page⟩

/-- The local network. -/
def lan : Resource Lan := ⟨"/lan/ip", Lan.page⟩

/-- Traffic of the local network. -/
def lanTraffic : Resource Traffic := ⟨"/lan/stats", lanTrafficPage⟩

/-- Hosts on the local network. -/
def hosts : Resource (List Host) := ⟨"/hosts", hostsPage⟩

/-- One radio band. -/
def radio (band : Band) : Resource Radio := ⟨band.statsPath, Radio.page⟩

/-- The name resolver. -/
def resolver : Resource Resolver := ⟨"/dns/stats", Resolver.page⟩

/-- Television. -/
def television : Resource Television := ⟨"/iptv", Television.format⟩

end Resource

/-! ## Pages by group -/

/-- Pages of the device group. -/
structure DevicePages where
  device : List Device := []
  processor : List Processor := []
  memory : List Memory := []

/-- Pages of the group of the outside line. -/
structure WanPages where
  wan : List Wan := []
  traffic : List Traffic := []
  fibre : List Fibre := []
  diagnostics : List Diagnostics := []

/-- Pages of the group of the local network. -/
structure LanPages where
  lan : List Lan := []
  traffic : List Traffic := []
  hosts : List (List Host) := []

/-- Pages of one radio band. -/
structure BandPages where
  band : Band
  pages : List Radio

/-- The pages of every group. -/
structure Snapshot where
  device : DevicePages := {}
  services : List Services := []
  wan : WanPages := {}
  lan : LanPages := {}
  wireless : List BandPages := []
  dns : List Resolver := []
  iptv : List Television := []

/-! ## Groups in a log -/

/-- The device group as a log shows it. -/
def DevicePages.shown (pages : DevicePages) : String :=
  Text.structured "DeviceMetrics"
    [("informations", Resource.device.shown pages.device),
      ("cpu", Resource.processor.shown pages.processor),
      ("memory", Resource.memory.shown pages.memory)]

/-- The services group as a log shows it. -/
def shownServices (pages : List Services) : String :=
  Text.structured "ServicesMetrics" [("informations", Resource.services.shown pages)]

/-- The group of the outside line as a log shows it. -/
def WanPages.shown (pages : WanPages) : String :=
  Text.structured "WanMetrics"
    [("ip_informations", Resource.wan.shown pages.wan),
      ("ip_statistics", Resource.wanTraffic.shown pages.traffic),
      ("ftth_statistics", Resource.fibre.shown pages.fibre),
      ("diagnostics", Resource.diagnostics.shown pages.diagnostics)]

/-- The group of the local network as a log shows it. -/
def LanPages.shown (pages : LanPages) : String :=
  Text.structured "LanMetrics"
    [("ip_informations", Resource.lan.shown pages.lan),
      ("statistics", Resource.lanTraffic.shown pages.traffic),
      ("devices", Resource.hosts.shown pages.hosts)]

/-- One radio band as a log shows it. -/
def BandPages.shown (band : BandPages) : String :=
  Text.structured "BandStatistics"
    [("band", band.band.shown), ("statistics", (Resource.radio band.band).shown band.pages)]

/-- The wireless group as a log shows it. -/
def shownWireless (bands : List BandPages) : String :=
  Text.structured "WirelessMetrics" [("bands", Text.bracketed (bands.map BandPages.shown))]

/-- The group of the resolver as a log shows it. -/
def shownDns (pages : List Resolver) : String :=
  Text.structured "DnsMetrics" [("statistics", Resource.resolver.shown pages)]

/-- The television group as a log shows it. -/
def shownIptv (pages : List Television) : String :=
  Text.structured "IptvMetrics" [("informations", Resource.television.shown pages)]

end RouterTelemetry
