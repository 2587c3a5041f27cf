import RouterTelemetry.Decimal.Numeral
import RouterTelemetry.Json.Value

/-!
# Measures

A router writes the same figure as a number or as a string that spells one.
`readQuantity` accepts both and refuses anything else.  A `Measure` is a figure
whose trouble stays with it: any JSON value is accepted, and one that is no
quantity is kept with the reason, never as a zero.
-/

namespace RouterTelemetry

open Json

/-- A figure of a payload. -/
inductive Measure where
  | value (quantity : Float)
  | invalid (reason : Mismatch)
  | missing

/-- The quantity of a measure that has one. -/
def Measure.quantity? : Measure → Option Float
  | .value quantity => some quantity
  | .invalid _ => none
  | .missing => none

@[simp]
theorem Measure.quantity?_value (quantity : Float) :
    (Measure.value quantity).quantity? = some quantity :=
  rfl

@[simp]
theorem Measure.quantity?_invalid (reason : Mismatch) :
    (Measure.invalid reason).quantity? = none :=
  rfl

@[simp]
theorem Measure.quantity?_missing : Measure.missing.quantity? = none :=
  rfl

/-- There is a quantity and it is above zero. -/
def Measure.isPositive (measure : Measure) : Bool :=
  match measure.quantity? with
  | some quantity => quantity > 0.0
  | none => false

/-- What a message calls a quantity. -/
def quantityName : String :=
  "a number or a string containing a number"

/-- The quantity that a text spells. -/
def quantityOfText (text : String) : Except Mismatch Float :=
  match Decimal.parse? text with
  | some quantity => .ok quantity
  | none => .error (.value (.text text) quantityName)

/-- The quantity that a value stands for. -/
def quantityOfValue : Value → Except Mismatch Float
  | .number number => .ok number.toFloat
  | .text text => quantityOfText text
  | other => .error (.type other.found quantityName)

/-- The quantity that the head of a value stands for; a list or an object is
refused at its opening bracket. -/
def quantityOfHead : Head → Except Mismatch Float
  | .number number => .ok number.toFloat
  | .text text => quantityOfText text
  | other => .error (.type other.found quantityName)

/-- A value as a measure: its quantity, or why it has none. -/
def Measure.ofValue (value : Value) : Measure :=
  match quantityOfValue value with
  | .ok quantity => .value quantity
  | .error reason => .invalid reason

/-- Reads a quantity and nothing else. -/
def readQuantity : Reader Float := fun input =>
  match readHead input with
  | .error fault => .error fault
  | .ok head =>
      match quantityOfHead head.value with
      | .ok quantity => .ok (head.map fun _ => quantity)
      | .error reason => .error (.misshapen reason)

/-- Reads any value as a measure. -/
def readMeasure (depth : Nat) : Reader Measure := fun input =>
  (readValue depth input).map fun value => value.map Measure.ofValue

end RouterTelemetry
