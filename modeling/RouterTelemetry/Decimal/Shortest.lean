import RouterTelemetry.Decimal.Binary

/-!
# The fewest digits that read back

For one, two, … seventeen digits, the two neighbours of a double on the decimal
grid of that many digits are tried.  The first grid with a neighbour that reads
back wins, and of two such neighbours the nearer one.  What happens on an exact
tie belongs to the notation that asks, so it is a parameter.
-/

namespace RouterTelemetry.Decimal

/-- Which of two equally near decimals is taken. -/
inductive Tie where
  | toEven
  | awayFromZero
deriving Repr, DecidableEq

/-- The lower neighbour and twice the distance to it, on the grid `10 ^ exponent`,
both as naturals over the returned denominator. -/
def Binary.onGrid (value : Binary) (exponent : Int) : Nat × Nat × Nat :=
  let (numerator, denominator) := value.ratio
  let n := numerator * Nat.pow 10 (-exponent).toNat
  let d := denominator * Nat.pow 10 exponent.toNat
  (n / d, 2 * (n % d), d)

/-- The upper neighbour is the nearer one, or the tie sends the value there. -/
def Tie.takesUpper (tie : Tie) (lower twiceDistance denominator : Nat) : Bool :=
  if twiceDistance = denominator then
    match tie with
    | .toEven => lower % 2 == 1
    | .awayFromZero => true
  else
    decide (denominator < twiceDistance)

/-- The better neighbour on one grid, if any reads back. -/
def Binary.candidate (value : Binary) (tie : Tie) (exponent : Int) : Option Scaled :=
  let (lower, twiceDistance, denominator) := value.onGrid exponent
  let floor : Scaled := ⟨lower, exponent⟩
  let ceiling : Scaled := ⟨lower + 1, exponent⟩
  match value.readsBack floor, value.readsBack ceiling with
  | true, true =>
      some (if tie.takesUpper lower twiceDistance denominator then ceiling else floor)
  | true, false => some floor
  | false, true => some ceiling
  | false, false => none

/-- Moves up to `limit` trailing zeros of the digits into the exponent. -/
def Scaled.strip : (limit : Nat) → Scaled → Scaled
  | 0, decimal => decimal
  | limit + 1, ⟨digits, exponent⟩ =>
      if digits ≠ 0 ∧ digits % 10 = 0 then
        Scaled.strip limit ⟨digits / 10, exponent + 1⟩
      else
        ⟨digits, exponent⟩

/-- The exact decimal value of a magnitude. -/
def Binary.exact (value : Binary) : Scaled :=
  ⟨value.mantissa * Nat.pow 2 value.exponent.toNat * Nat.pow 5 (-value.exponent).toNat,
    min value.exponent 0⟩

/-- The shortest decimal that reads back, nearest first; zero is `0 * 10 ^ 0`. -/
def Binary.shortest (value : Binary) (tie : Tie) : Scaled :=
  if value.mantissa = 0 then
    ⟨0, 0⟩
  else
    let scale := value.scale
    let found := (List.range 17).findSome? fun (count : Nat) =>
      value.candidate tie (scale - ((count : Int) + 1))
    let decimal := found.getD value.exact
    decimal.strip (digitCount decimal.digits)

end RouterTelemetry.Decimal
