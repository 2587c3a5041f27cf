import RouterTelemetry.Family
import RouterTelemetry.SampleSet
import RouterTelemetry.Text.Quoted

/-!
# The registry

The registry holds the series of the last published sample set and the
availability of the router.  A set is checked as a whole before anything is
touched; only then is every family emptied and the new series are written one by
one.

Within a family a series is identified by its label values joined in the order of
the family's labels.  The first sample under an identity gives the series its
labels, the last one its value.
-/

namespace RouterTelemetry

/-- Why a sample set was refused. -/
inductive Rejection where
  | unknownMetric (name : String)
  | labelCount (name : String) (expected : List String) (given : Labels)
  | missingLabel (name label : String)
  /-- A series has more or fewer values than its family has labels. -/
  | valueCount (expected given : Nat)
deriving Repr, DecidableEq

/-- A label with its value as a message shows it. -/
def showLabel (label : String × String) : String :=
  "(" ++ Text.quoted label.1 ++ ", " ++ Text.quoted label.2 ++ ")"

/-- The wording of a refusal. -/
def Rejection.message : Rejection → String
  | .unknownMetric name => "unknown metric " ++ name
  | .labelCount name expected given =>
      name ++ " expects labels " ++ Text.bracketed (expected.map Text.quoted) ++ ", got " ++
        Text.bracketed (given.map showLabel)
  | .missingLabel name label => name ++ " is missing label " ++ label
  | .valueCount expected given =>
      "Inconsistent label cardinality, expect " ++ toString expected ++
        " label values, but got " ++ toString given

/-- A value of a family under label values in the order of the family's labels. -/
structure Series where
  family : Family
  labelValues : List String
  value : Float

/-- What identifies a series within its family. -/
def Series.identity (series : Series) : String :=
  String.join series.labelValues

/-- Two series of one family with one identity are the same series. -/
def Series.coincides (series other : Series) : Bool :=
  series.family.name == other.family.name && series.identity == other.identity

/-- Published series and the availability of the router. -/
structure Registry where
  series : List Series := []
  up : Float := 0.0

/-- The value that a key gives to a label. -/
def SampleKey.labelValue (key : SampleKey) (label : String) : Except Rejection String :=
  match key.labels.find? (·.1 == label) with
  | some (_, value) => .ok value
  | none => .error (.missingLabel key.name label)

/-- The series of a sample: its name is known and its labels are those of the
family. -/
def Series.ofSample (key : SampleKey) (value : Float) : Except Rejection Series :=
  match Family.find? key.name with
  | none => .error (.unknownMetric key.name)
  | some family =>
      if key.labels.length ≠ family.labels.length then
        .error (.labelCount key.name family.labels key.labels)
      else
        (family.labels.mapM key.labelValue).map fun labelValues => ⟨family, labelValues, value⟩

/-- Writes a series: the value of the series that it coincides with, or a new one. -/
def putSeries (series : Series) : List Series → List Series
  | [] => [series]
  | other :: rest =>
      if other.coincides series then
        { other with value := series.value } :: rest
      else
        other :: putSeries series rest

/-- The series of every sample; the first bad sample in the order of keys is the cause
of a refusal. -/
def SampleSet.series (set : SampleSet) : Except Rejection (List Series) :=
  set.samples.mapM fun (key, value) => Series.ofSample key value

namespace Registry

/-- The registry without series whose router is not available; also the registry
before the first cycle. -/
def down : Registry := {}

/-- Drops the series of one family. -/
def clear (registry : Registry) (family : Family) : Registry :=
  { registry with series := registry.series.filter (·.family.name != family.name) }

/-- Drops every series, one family after the other. -/
def reset (registry : Registry) : Registry :=
  families.foldl clear registry

/-- Writes a series, unless its values do not fit the labels of its family. -/
def put (registry : Registry) (series : Series) : Except Rejection Registry :=
  if series.labelValues.length = series.family.labels.length then
    .ok { registry with series := putSeries series registry.series }
  else
    .error (.valueCount series.family.labels.length series.labelValues.length)

/-- Writes series in order and ends at the first one that cannot be written; what
has been written by then stays. -/
def putAll (registry : Registry) : List Series → Registry × Option Rejection
  | [] => (registry, none)
  | series :: rest =>
      match registry.put series with
      | .error rejection => (registry, some rejection)
      | .ok next => next.putAll rest

/-- Replaces every series by those of a sample set and marks the router available,
unless the set is refused. -/
def publish (registry : Registry) (set : SampleSet) : Registry × Option Rejection :=
  match set.series with
  | .error rejection => (registry, some rejection)
  | .ok series =>
      match registry.reset.putAll series with
      | (written, some rejection) => (written, some rejection)
      | (written, none) => ({ written with up := 1.0 }, none)

/-- Drops every series and marks the router not available. -/
def markDown (registry : Registry) : Registry :=
  { registry.reset with up := 0.0 }

end Registry

end RouterTelemetry
