import RouterTelemetry.Json.Format

/-!
# Traffic counters

The same counters describe the outside line, the local network and each radio
band.
-/

namespace RouterTelemetry.Payload

open Json

/-- Counters of one direction of a link. -/
structure Counters where
  packets : Measure := .missing
  bytes : Measure := .missing
  errors : Measure := .missing
  discards : Measure := .missing
  /-- Reported for the outside line only, like the two bandwidths. -/
  occupation : Measure := .missing
  bandwidth : Measure := .missing
  maxBandwidth : Measure := .missing

/-- How it is written. -/
def Counters.format : Format Counters :=
  .record "TrafficCounters" {} <|
  .field "packets" .measure (·.packets) (fun v r => { r with packets := v }) <|
  .field "bytes" .measure (·.bytes) (fun v r => { r with bytes := v }) <|
  .field "packetserrors" .measure (·.errors) (fun v r => { r with errors := v }) <|
  .field "packetsdiscards" .measure (·.discards) (fun v r => { r with discards := v }) <|
  .field "occupation" .measure (·.occupation) (fun v r => { r with occupation := v }) <|
  .field "bandwidth" .measure (·.bandwidth) (fun v r => { r with bandwidth := v }) <|
  .cons "max_bandwidth" "maxBandwidth" [] false .measure (·.maxBandwidth)
    (fun v r => { r with maxBandwidth := v }) <|
  .nil

/-- Traffic of a link in both directions. -/
structure Traffic where
  received : Counters := {}
  transmitted : Counters := {}

/-- How it is written. -/
def Traffic.format : Format Traffic :=
  .record "TrafficStats" {} <|
  .field "rx" Counters.format (·.received) (fun v r => { r with received := v }) <|
  .field "tx" Counters.format (·.transmitted) (fun v r => { r with transmitted := v }) <|
  .nil

end RouterTelemetry.Payload
