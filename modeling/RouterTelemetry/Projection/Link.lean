import RouterTelemetry.Payload.Traffic
import RouterTelemetry.Projection.Script

/-!
# Links and their traffic

Parts shared by the outside line, the local network and the radio bands.
-/

namespace RouterTelemetry.Projection

open Payload

/-- The lower-case form of an ASCII letter; every other character stays. -/
def foldLetter (c : Char) : Char :=
  if 'A' ≤ c ∧ c ≤ 'Z' then Char.ofNat (c.toNat + 32) else c

/-- One when a state reads `up` in any case of its ASCII letters, else zero. -/
def linkState (state : String) : Float :=
  if state.toList.map foldLetter = ['u', 'p'] then 1.0 else 0.0

/-- The text, or a stand-in for an empty one. -/
def orElse (text standIn : String) : String :=
  if text.isEmpty then standIn else text

/-- Counters of one direction.  `line` adds the figures that only the outside line
has. -/
def counters (family : String) (labels : Labels) (direction short path : String) (line : Bool)
    (counters : Counters) : Script :=
  let step (suffix : String) (measure : Measure) (key : String) : Step :=
    .field ⟨family ++ "_" ++ direction ++ "_" ++ suffix, labels⟩ measure
      (path ++ "." ++ short ++ "." ++ key)
  [step "bytes" counters.bytes "bytes",
    step "packets" counters.packets "packets",
    step "packets_errors" counters.errors "packetserrors",
    step "packets_discards" counters.discards "packetsdiscards"] ++
  if line then
    [step "line_occupation" counters.occupation "occupation",
      step "bandwidth" counters.bandwidth "bandwidth",
      step "bandwidth_max" counters.maxBandwidth "maxBandwidth"]
  else
    []

/-- Traffic of a link, what it sent before what it received. -/
def traffic (family : String) (labels : Labels) (path : String) (line : Bool)
    (traffic : Traffic) : Script :=
  counters family labels "transmitted" "tx" path line traffic.transmitted ++
    counters family labels "received" "rx" path line traffic.received

end RouterTelemetry.Projection
