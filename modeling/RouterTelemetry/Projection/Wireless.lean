import RouterTelemetry.Projection.Link
import RouterTelemetry.Snapshot

/-!
# Samples of the radio bands
-/

namespace RouterTelemetry.Projection

open Payload

/-- One radio band. -/
def band (pages : BandPages) : Script :=
  inform ("Store wireless " ++ pages.band.label ++ " metrics") ::
    withFirst pages.pages pages.band.statsPath fun radio =>
      traffic "bbox_wireless" [("frequency", pages.band.label)]
        ("wireless." ++ pages.band.code ++ ".ssid.stats") false radio.traffic

/-- The group of the radio bands, in the given order. -/
def wireless (bands : List BandPages) : Script :=
  bands.flatMap band

end RouterTelemetry.Projection
