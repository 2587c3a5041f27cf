/-!
# Binary and decimal magnitudes

A finite double is a sign and a magnitude `mantissa * 2 ^ exponent`.  This
module reads that magnitude off the bits, names decimal magnitudes
`digits * 10 ^ exponent`, and compares the two kinds exactly over the naturals.
`Binary.readsBack` is the test that the choice of digits rests on: it holds of
the decimals that round to the given double, halves going to the even mantissa.
-/

namespace RouterTelemetry.Decimal

/-- A magnitude `mantissa * 2 ^ exponent`. -/
structure Binary where
  mantissa : Nat
  exponent : Int
  /-- The gap to the next smaller double is half the gap to the next larger one. -/
  narrowBelow : Bool
deriving Repr, DecidableEq

/-- A magnitude `digits * 10 ^ exponent`. -/
structure Scaled where
  digits : Nat
  exponent : Int
deriving Repr, DecidableEq

/-- What the 64 bits of a double stand for. -/
inductive Datum where
  | nan
  | infinite (negative : Bool)
  | finite (negative : Bool) (magnitude : Binary)
deriving Repr, DecidableEq

/-- Sign bit, eleven exponent bits, fifty-two fraction bits.  The least exponent
has no hidden bit, and the greatest one is kept for infinities and not-a-number. -/
def Datum.ofBits (bits : UInt64) : Datum :=
  let negative := bits >>> 63 == 1
  let exponent := ((bits >>> 52) &&& 0x7FF).toNat
  let fraction := (bits &&& 0xFFFFFFFFFFFFF).toNat
  if exponent = 0x7FF then
    if fraction = 0 then .infinite negative else .nan
  else if exponent = 0 then
    .finite negative ⟨fraction, -1074, false⟩
  else
    .finite negative
      ⟨0x10000000000000 + fraction, (exponent : Int) - 1075, fraction == 0 && decide (1 < exponent)⟩

/-- The datum of a double. -/
def Datum.ofFloat (value : Float) : Datum :=
  .ofBits value.toBits

/-- Order of `a * 10 ^ i` and `n * 2 ^ j`, by cross-multiplication. -/
def compareScaled (a : Nat) (i : Int) (n : Nat) (j : Int) : Ordering :=
  compare (a * Nat.pow 10 i.toNat * Nat.pow 2 (-j).toNat)
    (n * Nat.pow 2 j.toNat * Nat.pow 10 (-i).toNat)

/-- The decimal lies between the midpoints to the two neighbouring doubles; the
midpoints themselves count exactly when the mantissa is even. -/
def Binary.readsBack (value : Binary) (decimal : Scaled) : Bool :=
  let lower := if value.narrowBelow then 4 * value.mantissa - 1 else 4 * value.mantissa - 2
  let upper := 4 * value.mantissa + 2
  let closed := value.mantissa % 2 == 0
  let below := compareScaled decimal.digits decimal.exponent lower (value.exponent - 2)
  let above := compareScaled decimal.digits decimal.exponent upper (value.exponent - 2)
  (below == .gt || (closed && below == .eq)) && (above == .lt || (closed && above == .eq))

/-- Numerator and denominator of the magnitude. -/
def Binary.ratio (value : Binary) : Nat × Nat :=
  (value.mantissa * Nat.pow 2 value.exponent.toNat, Nat.pow 2 (-value.exponent).toNat)

/-- The number of decimal digits of a natural number, one for zero. -/
def digitCount (n : Nat) : Nat :=
  (Nat.toDigits 10 n).length

/-- The least `k` with `value < 10 ^ k`, for a value that is not zero. -/
def Binary.scale (value : Binary) : Int :=
  let (numerator, denominator) := value.ratio
  if denominator ≤ numerator then
    digitCount (numerator / denominator)
  else
    let guess := digitCount (denominator / numerator)
    if denominator ≤ numerator * Nat.pow 10 (guess - 1) then 2 - (guess : Int)
    else 1 - (guess : Int)

end RouterTelemetry.Decimal
