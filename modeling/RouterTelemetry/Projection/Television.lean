import RouterTelemetry.Projection.Link
import RouterTelemetry.Snapshot

/-!
# Samples of television
-/

namespace RouterTelemetry.Projection

open Payload

/-- The reception of one channel, under its name or else its address. -/
def channel (channel : Channel) : Step :=
  let name := orElse channel.name channel.address
  .field ⟨"bbox_iptv_channel_received", [("name", name), ("address", channel.address)]⟩
    channel.receipt ("iptv." ++ name ++ ".receipt")

/-- The group of television: every channel of every page, and how many there are. -/
def iptv (pages : List Television) : Script :=
  let channels := pages.flatMap (·.channels)
  inform "Store IPTV metrics" ::
    (channels.map channel ++ [.set ⟨"bbox_iptv_channels", []⟩ (Float.ofNat channels.length)])

end RouterTelemetry.Projection
