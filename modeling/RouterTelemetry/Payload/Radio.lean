import RouterTelemetry.Payload.Traffic

/-!
# Radio bands

Traffic of a wireless network on one band.
-/

namespace RouterTelemetry.Payload

open Json

/-- The statistics of one radio band. -/
structure Radio where
  /-- A number or a string, never used. -/
  id : Value := .null
  traffic : Traffic := {}

/-- How it is written. -/
def Radio.format : Format Radio :=
  .record "WirelessSsid" {} <|
  .field "id" .any (·.id) (fun v r => { r with id := v }) <|
  .field "stats" Traffic.format (·.traffic) (fun v r => { r with traffic := v }) <|
  .nil

/-- An element of the statistics of a band. -/
def Radio.page : Format Radio :=
  .wrapped "WirelessStatistics" {} "wireless" (.wrapped "WirelessInner" {} "ssid" Radio.format)

end RouterTelemetry.Payload
