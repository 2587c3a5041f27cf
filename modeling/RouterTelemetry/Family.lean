/-!
# Metric families

Every family of the exposition except the availability of the router itself: its
name below the common name space, its help text, and its label names in order.
-/

namespace RouterTelemetry

/-- The description of a metric family. -/
structure Family where
  name : String
  help : String
  labels : List String
deriving Repr, DecidableEq

/-- The name space of every family. -/
def metricSpace : String :=
  "bbox"

/-- The name of a family in the exposition. -/
def Family.fullName (family : Family) : String :=
  metricSpace ++ "_" ++ family.name

/-- The availability of the router in the last cycle. -/
def Family.up : Family :=
  ⟨"up", "Was the last query of Bbox successful", []⟩

/-- The router itself. -/
def deviceFamilies : List Family :=
  [⟨"device_status", "Current status", []⟩,
    ⟨"device_number_of_boots", "Number of boots since last reset to factory default", []⟩,
    ⟨"device_temperature", "Current internal temperature in °C", []⟩,
    ⟨"device_memory_total", "Total memory in kB", []⟩,
    ⟨"device_memory_free", "Free memory in kB", []⟩,
    ⟨"device_memory_cached", "Cached memory in kB", []⟩,
    ⟨"device_cpu_total", "CPU total time", []⟩,
    ⟨"device_cpu_user", "CPU user time", []⟩,
    ⟨"device_cpu_nice", "CPU nice time", []⟩,
    ⟨"device_cpu_system", "CPU system time", []⟩,
    ⟨"device_cpu_io", "CPU IO time", []⟩,
    ⟨"device_cpu_idle", "CPU idle time", []⟩,
    ⟨"device_cpu_irq", "CPU irq time", []⟩,
    ⟨"device_process_created", "Number of created processes", []⟩,
    ⟨"device_process_running", "Number of running processes", []⟩,
    ⟨"device_process_blocked", "Number of blocked processes", []⟩,
    ⟨"device_using", "Access technology in use (1=yes, 0=no)", ["feature"]⟩]

/-- Its features. -/
def serviceFamilies : List Family :=
  [⟨"service_enabled", "Router feature enabled (1=enabled, 0=disabled)", ["service"]⟩,
    ⟨"service_status", "Router feature status", ["service"]⟩,
    ⟨"service_rules", "Number of rules configured for the feature", ["service"]⟩]

/-- The outside line. -/
def wanFamilies : List Family :=
  [⟨"wan_transmitted_bytes", "TX bytes", []⟩,
    ⟨"wan_transmitted_packets", "TX packets", []⟩,
    ⟨"wan_transmitted_packets_errors", "TX packets in error", []⟩,
    ⟨"wan_transmitted_packets_discards", "TX packets discards", []⟩,
    ⟨"wan_transmitted_line_occupation", "TX line occupation", []⟩,
    ⟨"wan_transmitted_bandwidth", "TX bandwidth available", []⟩,
    ⟨"wan_transmitted_bandwidth_max", "TX maximum bandwidth available", []⟩,
    ⟨"wan_received_bytes", "RX bytes", []⟩,
    ⟨"wan_received_packets", "RX packets", []⟩,
    ⟨"wan_received_packets_errors", "RX packets in error", []⟩,
    ⟨"wan_received_packets_discards", "RX packets discards", []⟩,
    ⟨"wan_received_line_occupation", "RX line occupation", []⟩,
    ⟨"wan_received_bandwidth", "RX bandwidth available", []⟩,
    ⟨"wan_received_bandwidth_max", "RX maximum bandwidth available", []⟩,
    ⟨"wan_internet_state", "Internet connectivity state", []⟩,
    ⟨"wan_interface_state", "WAN interface state", []⟩,
    ⟨"wan_link_up", "WAN link state (1=up, 0=down)", ["type"]⟩,
    ⟨"wan_ftth_state", "LinkState of the GEth FTTH port", []⟩,
    ⟨"wan_diagnostics_min", "Minimum response time", ["mode"]⟩,
    ⟨"wan_diagnostics_max", "Maximum response time", ["mode"]⟩,
    ⟨"wan_diagnostics_avg", "Average response time", ["mode"]⟩,
    ⟨"wan_diagnostics_success", "Number of successes", ["mode"]⟩,
    ⟨"wan_diagnostics_error", "Number of errors", ["mode"]⟩,
    ⟨"wan_diagnostics_tries", "Number of tries", ["mode"]⟩]

/-- The local network. -/
def lanFamilies : List Family :=
  [⟨"lan_transmitted_bytes", "TX bytes", []⟩,
    ⟨"lan_transmitted_packets", "TX packets", []⟩,
    ⟨"lan_transmitted_packets_errors", "TX packets in error", []⟩,
    ⟨"lan_transmitted_packets_discards", "TX packets discards", []⟩,
    ⟨"lan_received_bytes", "RX bytes", []⟩,
    ⟨"lan_received_packets", "RX packets", []⟩,
    ⟨"lan_received_packets_errors", "RX packets in error", []⟩,
    ⟨"lan_received_packets_discards", "RX packets discards", []⟩,
    ⟨"lan_connected_devices", "Number of active hosts by link", ["link"]⟩,
    ⟨"lan_switch_port_up", "Switch port state (1=up, 0=down)", ["port"]⟩]

/-- The radio bands. -/
def wirelessFamilies : List Family :=
  [⟨"wireless_transmitted_bytes", "TX bytes", ["frequency"]⟩,
    ⟨"wireless_transmitted_packets", "TX packets", ["frequency"]⟩,
    ⟨"wireless_transmitted_packets_errors", "TX packets in error", ["frequency"]⟩,
    ⟨"wireless_transmitted_packets_discards", "TX packets discards", ["frequency"]⟩,
    ⟨"wireless_received_bytes", "RX bytes", ["frequency"]⟩,
    ⟨"wireless_received_packets", "RX packets", ["frequency"]⟩,
    ⟨"wireless_received_packets_errors", "RX packets in error", ["frequency"]⟩,
    ⟨"wireless_received_packets_discards", "RX packets discards", ["frequency"]⟩]

/-- The name resolver. -/
def dnsFamilies : List Family :=
  [⟨"dns_number_of_queries", "Number of queries", []⟩,
    ⟨"dns_min", "Minimum of average DNS response time", []⟩,
    ⟨"dns_max", "Maximum of average DNS response time", []⟩,
    ⟨"dns_average", "Average of average DNS response time", []⟩]

/-- Television. -/
def iptvFamilies : List Family :=
  [⟨"iptv_channel_received", "IPTV channel received (1=yes, 0=no)", ["name", "address"]⟩,
    ⟨"iptv_channels", "Number of IPTV channels", []⟩]

/-- Every family in the order of the table. -/
def families : List Family :=
  deviceFamilies ++
    serviceFamilies ++
    wanFamilies ++
    lanFamilies ++
    wirelessFamilies ++
    dnsFamilies ++
    iptvFamilies

/-- The family with a full name. -/
def Family.find? (fullName : String) : Option Family :=
  families.find? (·.fullName == fullName)

end RouterTelemetry
