import RouterTelemetry.Json.Format

/-!
# Television

Channels received over the internet line.
-/

namespace RouterTelemetry.Payload

open Json

/-- A television channel. -/
structure Channel where
  /-- The multicast address. -/
  address : String := ""
  /-- The address of the receiver. -/
  receiver : String := ""
  name : String := ""
  number : Measure := .missing
  /-- Positive while the channel is received. -/
  receipt : Measure := .missing
  programme : Measure := .missing

/-- How it is written. -/
def Channel.format : Format Channel :=
  .record "IptvChannel" {} <|
  .field "address" .text (·.address) (fun v r => { r with address := v }) <|
  .field "ipaddress" .text (·.receiver) (fun v r => { r with receiver := v }) <|
  .field "name" .text (·.name) (fun v r => { r with name := v }) <|
  .field "number" .measure (·.number) (fun v r => { r with number := v }) <|
  .field "receipt" .measure (·.receipt) (fun v r => { r with receipt := v }) <|
  .field "epgid" .measure (·.programme) (fun v r => { r with programme := v }) <|
  .nil

/-- The channels in use. -/
structure Television where
  channels : List Channel := []
  now : String := ""

/-- How it is written. -/
def Television.format : Format Television :=
  .record "IptvInformations" {} <|
  .field "iptv" (.list Channel.format) (·.channels) (fun v r => { r with channels := v }) <|
  .field "now" .text (·.now) (fun v r => { r with now := v }) <|
  .nil

end RouterTelemetry.Payload
