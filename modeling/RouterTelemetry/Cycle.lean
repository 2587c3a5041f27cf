import RouterTelemetry.Client
import RouterTelemetry.Exposition
import RouterTelemetry.Projection.Whole

/-!
# Collection cycles

One cycle logs in, fetches every resource, projects the snapshot and publishes
the samples.  Whatever goes wrong on the way, publication included, the registry
is then marked down.
-/

namespace RouterTelemetry

/-- What a cycle needs to know. -/
structure Collector where
  endpoint : Endpoint
  password : String
  bands : List Band

namespace Collector

/-- Fetches and projects, without publishing. -/
def collect (collector : Collector) : Attempt SampleSet := do
  let snapshot ← Client.takeSnapshot collector.endpoint collector.password collector.bands
  let (result, events) := Projection.project snapshot
  Attempt.reportAll events
  Attempt.ofResult result

/-- Publishes what was collected; the failure is that of the collection or of the
publication. -/
def publishTo (registry : Registry) (result : Except Failure SampleSet) :
    Registry × Option Failure :=
  match result with
  | .error failure => (registry, some failure)
  | .ok samples =>
      let (after, rejection) := registry.publish samples
      (after, rejection.map fun rejection => .registry rejection.message)

/-- What a cycle ends in. -/
structure Outcome where
  registry : Registry
  /-- What went wrong, if anything did. -/
  failure : Option Failure
  /-- The event that closes the cycle. -/
  event : Event

/-- The end of a cycle that found a registry: what was collected is published, or the
registry is marked down. -/
def conclude (registry : Registry) (result : Except Failure SampleSet) : Outcome :=
  match publishTo registry result with
  | (published, none) => ⟨published, none, ⟨.info, "Bbox exporter finished"⟩⟩
  | (touched, some failure) =>
      ⟨touched.markDown, some failure, ⟨.error, "Bbox error: " ++ failure.message⟩⟩

/-- One cycle up to its end. -/
def cycle (collector : Collector) : Dialogue (Except Failure SampleSet) :=
  .report ⟨.info, "Bbox exporter starting"⟩ collector.collect.run

end Collector

end RouterTelemetry
