/-!
# Resource groups

The categories of telemetry, in the order in which they are fetched.
-/

namespace RouterTelemetry

/-- A category of telemetry. -/
inductive Group where
  | device
  | services
  | wan
  | lan
  | wireless
  | dns
  | iptv
deriving Repr, DecidableEq

/-- Every group, in the order in which they are fetched. -/
def Group.all : List Group :=
  [.device, .services, .wan, .lan, .wireless, .dns, .iptv]

/-- The name of a group in messages. -/
def Group.name : Group → String
  | .device => "device"
  | .services => "services"
  | .wan => "wan"
  | .lan => "lan"
  | .wireless => "wireless"
  | .dns => "dns"
  | .iptv => "iptv"

/-- The name of a group at the beginning of a message. -/
def Group.title : Group → String
  | .device => "Device"
  | .services => "Services"
  | .wan => "WAN"
  | .lan => "LAN"
  | .wireless => "Wireless"
  | .dns => "DNS"
  | .iptv => "IPTV"

theorem Group.mem_all (group : Group) : group ∈ Group.all := by
  cases group <;> decide

end RouterTelemetry
