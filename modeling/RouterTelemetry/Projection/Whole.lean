import RouterTelemetry.Projection.Device
import RouterTelemetry.Projection.Lan
import RouterTelemetry.Projection.Resolver
import RouterTelemetry.Projection.Services
import RouterTelemetry.Projection.Television
import RouterTelemetry.Projection.Wan
import RouterTelemetry.Projection.Wireless

/-!
# The projection of a snapshot
-/

namespace RouterTelemetry.Projection

/-- The script of one group. -/
def script (snapshot : Snapshot) : Group → Script
  | .device => device snapshot.device
  | .services => services snapshot.services
  | .wan => wan snapshot.wan
  | .lan => lan snapshot.lan
  | .wireless => wireless snapshot.wireless
  | .dns => dns snapshot.dns
  | .iptv => iptv snapshot.iptv

/-- One group on its own, on an empty set. -/
def ofGroup (group : Group) (snapshot : Snapshot) : Outcome :=
  (script snapshot group).run {}

/-- Every group in order; failures name their group. -/
def wholeScript (snapshot : Snapshot) : Script :=
  Group.all.flatMap fun group => (script snapshot group).inGroup group

/-- The samples of a snapshot, or why there are none, and the events on the way. -/
def project (snapshot : Snapshot) : Except Failure SampleSet × List Event :=
  let outcome := (wholeScript snapshot).run {}
  match outcome.failure with
  | some failure => (.error failure, outcome.events)
  | none => (.ok outcome.samples, outcome.events)

end RouterTelemetry.Projection
