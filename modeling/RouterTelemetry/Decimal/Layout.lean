import RouterTelemetry.Decimal.Shortest

/-!
# Notations for doubles

A notation fixes where positional writing ends, whether an integral value keeps
a point, where exact ties go and whether a positive exponent has a sign.  Three
notations are used: `exposed`, for values and labels that leave the program,
`quoted`, for numbers inside the messages of the JSON reader, and `logged`, for
quantities in a log.
-/

namespace RouterTelemetry.Decimal

/-- The decisions of one notation. -/
structure Style where
  /-- Leading digits with an exponent in this range are written positionally; no
  range means every exponent. -/
  positional : Option (Int × Int)
  /-- An integral value is written with `.0`. -/
  keepsPoint : Bool
  tie : Tie
  /-- A positive exponent is written with `+`. -/
  keepsPlus : Bool
deriving Repr, DecidableEq

/-- Published values: always positional, integers without a point. -/
def exposed : Style :=
  ⟨none, false, .awayFromZero, false⟩

/-- Numbers inside messages: positional from `1e-5` to below `1e16`, always with a
point when positional. -/
def quoted : Style :=
  ⟨some (-5, 16), true, .toEven, true⟩

/-- Quantities in a log: positional from `1e-4` to below `1e16`, always with a point
when positional. -/
def logged : Style :=
  ⟨some (-4, 16), true, .awayFromZero, false⟩

/-- `count` zeros. -/
def zeros (count : Nat) : String :=
  String.ofList (List.replicate count '0')

/-- The digits with a point after the first `point` of them, padded with zeros on
either side where the point falls outside. -/
def layPositional (keepsPoint : Bool) (digits : List Char) (point : Int) : String :=
  let count : Int := digits.length
  if point ≤ 0 then
    "0." ++ zeros (-point).toNat ++ String.ofList digits
  else if count ≤ point then
    String.ofList digits ++ zeros (point - count).toNat ++ (if keepsPoint then ".0" else "")
  else
    String.ofList (digits.take point.toNat) ++ "." ++ String.ofList (digits.drop point.toNat)

/-- One digit, a point if more follow, and the exponent. -/
def layScientific (keepsPlus : Bool) (digits : List Char) (exponent : Int) : String :=
  let mark := if exponent < 0 then "e-" else if keepsPlus then "e+" else "e"
  let fraction := digits.drop 1
  String.ofList (digits.take 1) ++ (if fraction.isEmpty then "" else "." ++ String.ofList fraction)
    ++ mark ++ toString exponent.natAbs

/-- The text of a magnitude in a notation. -/
def Style.magnitude (style : Style) (value : Binary) : String :=
  if value.mantissa = 0 then
    if style.keepsPoint then "0.0" else "0"
  else
    let decimal := value.shortest style.tie
    let digits := Nat.toDigits 10 decimal.digits
    let point : Int := digits.length + decimal.exponent
    match style.positional with
    | none => layPositional style.keepsPoint digits point
    | some (low, high) =>
        if low ≤ point - 1 ∧ point - 1 < high then
          layPositional style.keepsPoint digits point
        else
          layScientific style.keepsPlus digits (point - 1)

/-- The text of a double: the sign of zero is kept, not-a-number has none. -/
def Style.render (style : Style) (value : Float) : String :=
  match Datum.ofFloat value with
  | .nan => "NaN"
  | .infinite negative => if negative then "-inf" else "inf"
  | .finite negative magnitude =>
      (if negative then "-" else "") ++ style.magnitude magnitude

end RouterTelemetry.Decimal
