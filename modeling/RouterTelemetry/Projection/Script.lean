import RouterTelemetry.Failure
import RouterTelemetry.SampleSet

/-!
# Projection scripts

A projection turns pages into samples.  It is written as a script, a list of
steps that record a value, count something, report an event, or stop.  Running a
script applies its steps in order and ends at the first stop.
-/

namespace RouterTelemetry.Projection

/-- One step of a projection. -/
inductive Step where
  | note (event : Event)
  | set (key : SampleKey) (value : Float)
  | count (key : SampleKey)
  /-- Records a measure; `path` is where it stands in the page. -/
  | field (key : SampleKey) (measure : Measure) (path : String)
  | stop (failure : Failure)

/-- Steps in order. -/
abbrev Script := List Step

/-- What a script has led to so far. -/
structure Outcome where
  samples : SampleSet := {}
  events : List Event := []
  failure : Option Failure := none

/-- Runs a script on a set of samples. -/
def Script.run (samples : SampleSet) : Script → Outcome
  | [] => { samples }
  | .note event :: script =>
      let outcome := run samples script
      { outcome with events := event :: outcome.events }
  | .set key value :: script => run (samples.set key value) script
  | .count key :: script => run (samples.add key 1.0) script
  | .field key measure path :: script =>
      let outcome := run (samples.setMeasure key measure) script
      { outcome with events := (measure.skipped? key.name path).toList ++ outcome.events }
  | .stop failure :: _ => { samples, failure := some failure }

/-- The steps for the first page of a resource, or a stop if there is none. -/
def withFirst {α : Type} (pages : List α) (path : String) (steps : α → Script) : Script :=
  match pages with
  | [] => [.stop (.emptyResponse path)]
  | page :: _ => steps page

/-- The same steps, with the group added to failures. -/
def Script.inGroup (group : Group) (script : Script) : Script :=
  script.map fun step =>
    match step with
    | .stop failure => .stop (.inGroup group failure)
    | step => step

/-- Records a measure without labels. -/
def plain (name : String) (measure : Measure) (path : String) : Step :=
  .field ⟨name, []⟩ measure path

/-- An informational event. -/
def inform (message : String) : Step :=
  .note ⟨.info, message⟩

end RouterTelemetry.Projection
