import RouterTelemetry.Event
import RouterTelemetry.Measure

/-!
# Sample sets

A sample is a value under a key, and a key is a metric name with an ordered list
of labels.  A sample set keeps its samples in the order of their keys: by name,
then by the labels from the first one on, a shorter list before a longer one
that it begins.
-/

namespace RouterTelemetry

/-- Label names with their values, in order. -/
abbrev Labels := List (String × String)

/-- The identity of a sample. -/
structure SampleKey where
  name : String
  labels : Labels
deriving Repr, DecidableEq

/-- Labels are compared pair by pair. -/
def Labels.compare : Labels → Labels → Ordering
  | [], [] => .eq
  | [], _ :: _ => .lt
  | _ :: _, [] => .gt
  | (name, value) :: labels, (name', value') :: labels' =>
      ((Ord.compare name name').then (Ord.compare value value')).then
        (Labels.compare labels labels')

/-- Keys are compared by name, then by labels. -/
def SampleKey.compare (key other : SampleKey) : Ordering :=
  (Ord.compare key.name other.name).then (key.labels.compare other.labels)

/-- The key has this name and these labels: as many of them, and the same pair by pair. -/
def SampleKey.hasParts (key : SampleKey) (name : String) (labels : Labels) : Bool :=
  key.name == name && key.labels.length == labels.length &&
    (key.labels.zip labels).all fun pair => pair.1.1 == pair.2.1 && pair.1.2 == pair.2.2

/-- Samples in the order of their keys. -/
structure SampleSet where
  samples : List (SampleKey × Float) := []

namespace SampleSet

/-- The set without samples. -/
def empty : SampleSet := {}

/-- Replaces the value of a key by a function of the present one, if any. -/
def update (f : Option Float → Float) (key : SampleKey) :
    List (SampleKey × Float) → List (SampleKey × Float)
  | [] => [(key, f none)]
  | (other, value) :: samples =>
      match key.compare other with
      | .lt => (key, f none) :: (other, value) :: samples
      | .eq => (other, f (some value)) :: samples
      | .gt => (other, value) :: update f key samples

/-- Records a value, in place of an earlier one. -/
def set (set : SampleSet) (key : SampleKey) (value : Float) : SampleSet :=
  ⟨update (fun _ => value) key set.samples⟩

/-- Adds to the value of a key, starting from zero. -/
def add (set : SampleSet) (key : SampleKey) (amount : Float) : SampleSet :=
  ⟨update (fun old => old.getD 0.0 + amount) key set.samples⟩

/-- The value of a key: of the first sample with its parts, whatever the order. -/
def get? (set : SampleSet) (key : SampleKey) : Option Float :=
  (set.samples.find? fun sample => sample.1.hasParts key.name key.labels).map Prod.snd

/-- Some sample has this metric name. -/
def containsMetric (set : SampleSet) (name : String) : Bool :=
  set.samples.any fun sample => sample.1.name == name

/-- How many samples there are. -/
def size (set : SampleSet) : Nat :=
  set.samples.length

/-- There is no sample. -/
def isEmpty (set : SampleSet) : Bool :=
  set.samples.isEmpty

end SampleSet

/-! ## Recording measures -/

/-- What is reported for a measure that gives no sample. -/
def Measure.skipped? (measure : Measure) (name path : String) : Option Event :=
  match measure with
  | .value _ => none
  | .invalid reason =>
      some ⟨.warn, "Skipping " ++ name ++ ": cannot decode " ++ path ++ ": " ++ reason.message⟩
  | .missing => some ⟨.debug, "Skipping " ++ name ++ ": " ++ path ++ " not present"⟩

/-- Records a measure that has a quantity, and no sample for one that has none. -/
def SampleSet.setMeasure (set : SampleSet) (key : SampleKey) (measure : Measure) : SampleSet :=
  match measure.quantity? with
  | some quantity => set.set key quantity
  | none => set

end RouterTelemetry
