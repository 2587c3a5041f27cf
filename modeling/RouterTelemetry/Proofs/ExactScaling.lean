import Mathlib
import RouterTelemetry.Decimal.Numeral

/-!
# Exact scaling

A double times one is that double: the product has the same value with fifty-two more
bits, and shifting them out again loses nothing, since a double is unpacked into a magnitude
whose exponent is already the one that rounding aims at.

The powers of ten up to `10 ^ 22` are doubles.  Up to there the double nearest to a decimal
of few digits is one product or quotient of doubles.
-/

namespace RouterTelemetry.Decimal

open Float.Model UnpackedFloat

/-! ## Shifting zeros out -/

theorem shiftRight_mul_two_pow (mantissa count : Nat) :
    (⟨mantissa * 2 ^ count, false, false⟩ : ExtendedMantissa) >>> count =
      ⟨mantissa, false, false⟩ := by
  change Nat.repeat ExtendedMantissa.shiftRightOne count _ = _
  induction count generalizing mantissa with
  | zero => rw [Nat.pow_zero, Nat.mul_one, Nat.repeat]
  | succ count ih =>
      have doubled : mantissa * 2 ^ (count + 1) = 2 * mantissa * 2 ^ count := by ring
      rw [Nat.repeat, doubled, ih]
      simp [ExtendedMantissa.shiftRightOne]

theorem log2_mul_two_pow {mantissa : Nat} (positive : 0 < mantissa) (count : Nat) :
    (mantissa * 2 ^ count).log2 = mantissa.log2 + count := by
  induction count with
  | zero => rw [Nat.pow_zero, Nat.mul_one, Nat.add_zero]
  | succ count ih =>
      have doubled : mantissa * 2 ^ (count + 1) = 2 * (mantissa * 2 ^ count) := by ring
      have apart : mantissa * 2 ^ count ≠ 0 := by positivity
      rw [doubled, Nat.log2_two_mul apart, ih, Nat.add_assoc]

/-- The exponent of the magnitude is the one that rounding aims at. -/
def Aimed (spec : Format) (mantissa : Nat) (exponent : Int) : Prop :=
  spec.targetExponent (totalExponent mantissa exponent) = exponent

/-- Rounding an aimed magnitude that is written with more bits gives it back. -/
theorem roundWithAccuracy_of_aimed {spec : Format} {mantissa : Nat} {exponent : Int}
    (aimed : Aimed spec mantissa exponent) (positive : 0 < mantissa) (sign : Sign) (count : Nat) :
    roundWithAccuracy spec sign (mantissa * 2 ^ count) (exponent - count) .exact =
      .finite sign mantissa exponent positive := by
  have total : totalExponent (mantissa * 2 ^ count) (exponent - count) =
      totalExponent mantissa exponent := by
    rw [totalExponent, totalExponent, log2_mul_two_pow positive]
    push_cast
    ring
  have first : shiftToTargetExponent spec (mantissa * 2 ^ count) (exponent - count) .exact =
      (⟨mantissa, false, false⟩, exponent) := by
    rw [shiftToTargetExponent, total, aimed, shiftToExponent, sub_sub_cancel, Int.toNat_natCast,
      ExtendedMantissa.ofMantissaAndAccuracy, shiftRight_mul_two_pow, sub_add_cancel]
  have second : shiftToTargetExponent spec mantissa exponent .exact =
      (⟨mantissa, false, false⟩, exponent) := by
    rw [shiftToTargetExponent, aimed, shiftToExponent, sub_self, Int.toNat_zero, Nat.cast_zero,
      add_zero]
    rfl
  have rounded : (⟨mantissa, false, false⟩ : ExtendedMantissa).roundedMantissa = mantissa := rfl
  simp only [roundWithAccuracy, first, rounded, second, dif_neg positive.ne']

/-! ## Doubles -/

theorem targetExponent_binary64 (total : Int) :
    Format.binary64.targetExponent total = max (total - 53) (-1074) :=
  rfl

/-- A magnitude of fifty-three bits, or of fewer bits at the least exponent. -/
theorem aimed_binary64 {mantissa : Nat} {exponent : Int} (bound : mantissa < 2 ^ 53)
    (least : -1074 ≤ exponent) (normal : 2 ^ 52 ≤ mantissa ∨ exponent = -1074)
    (positive : 0 < mantissa) : Aimed .binary64 mantissa exponent := by
  have log2_lt : mantissa.log2 < 53 := (Nat.log2_lt positive.ne').mpr bound
  rw [Aimed, targetExponent_binary64, totalExponent]
  rcases normal with full | lowest
  · have le_log2 : 52 ≤ mantissa.log2 := (Nat.le_log2 positive.ne').mpr full
    omega
  · omega

theorem toNat_one_append (mantissa : BitVec 52) :
    (1#1 ++ mantissa).toNat = 2 ^ 52 + mantissa.toNat := by
  rw [BitVec.toNat_append, ← Nat.shiftLeft_add_eq_or_of_lt mantissa.isLt]
  rfl

/-- The exponent of an unpacked double and its bias. -/
theorem bias_cancel (stored : Int) :
    stored - ((Format.binary64.exponentBias : Int) + Format.binary64.mantissaBitsWithoutImplicit) =
      stored - 1075 :=
  rfl

/-- An unpacked double is aimed. -/
theorem aimed_of_unpack_eq {bits : BitVec Format.binary64.numBits} {sign : Sign}
    {mantissa : Nat} {exponent : Int} {positive : 0 < mantissa}
    (unpacked : UnpackedFloat.unpack .binary64 bits = .finite sign mantissa exponent positive) :
    Aimed .binary64 mantissa exponent := by
  have mantissa_lt : (unpackMantissa bits).toNat < 2 ^ 52 := (unpackMantissa bits).isLt
  unfold UnpackedFloat.unpack at unpacked
  dsimp only at unpacked
  split_ifs at unpacked with special infinite zeros zero
  · cases unpacked
    have least : (unpackExponent bits).toNat = 0 := congrArg BitVec.toNat zeros
    rw [bias_cancel, least]
    exact aimed_binary64 (by omega) (by omega) (.inr (by omega)) positive
  · cases unpacked
    have normal : (unpackExponent bits).toNat ≠ 0 := fun zero =>
      zeros (BitVec.eq_of_toNat_eq zero)
    rw [bias_cancel, toNat_one_append]
    exact aimed_binary64 (by omega) (by omega) (.inl (by omega)) (by omega)

/-- One as a magnitude of fifty-three bits. -/
theorem unpack_one :
    (Float.ofBits 0x3FF0000000000000).toModel.unpack =
      .finite .positive (2 ^ 52) (-52) (by decide) :=
  rfl

theorem sign_mul_positive (sign : Sign) : sign * .positive = sign := by
  cases sign <;> rfl

/-- A double times one is that double. -/
theorem mul_one_eq (value : Float) : value * Float.ofBits 0x3FF0000000000000 = value := by
  have product : UnpackedFloat.mul .binary64 value.toModel.unpack
      (Float.ofBits 0x3FF0000000000000).toModel.unpack = value.toModel.unpack := by
    rw [unpack_one]
    cases unpacked : value.toModel.unpack with
    | notANumber => rfl
    | infinity sign => rw [UnpackedFloat.mul, sign_mul_positive]
    | zero sign => rw [UnpackedFloat.mul, sign_mul_positive]
    | finite sign mantissa exponent positive =>
        rw [UnpackedFloat.mul, sign_mul_positive]
        exact roundWithAccuracy_of_aimed (aimed_of_unpack_eq unpacked) positive sign 52
  change Float.ofModel (Float.Model.pack _) = value
  rw [product]
  exact Float.ofBits_toBits value

/-! ## Small powers of ten -/

/-- A power of ten as a double. -/
def tenPower (exponent : Nat) : Float :=
  Float.ofScientific 1 false exponent

/-- The stored powers are products with one. -/
theorem tenPower_eq {exponent : Nat}
    (stored : exponent < Float.exactlyRepresentablePowersOfTen.size) :
    tenPower exponent = Float.exactlyRepresentablePowersOfTen[exponent] := by
  have table : ∀ exponent : Fin 23,
      tenPower exponent = Float.exactlyRepresentablePowersOfTen[exponent] := by decide +kernel
  exact table ⟨exponent, stored⟩

/-- The natural numbers that are doubles, whatever their trailing zeros. -/
theorem ofNat_eq_of_lt {digits : Nat} (few : digits < 2 ^ 53) :
    Float.ofNat digits = digits.toUInt64.toFloat := by
  change Float.ofScientific digits false 0 = _
  rw [Float.ofScientific, dif_pos ⟨few, by decide⟩]
  exact mul_one_eq _

theorem ofScientific_of_few {digits exponent : Nat} (few : digits < 2 ^ 53)
    (small : exponent ≤ 22) (negative : Bool) :
    Float.ofScientific digits negative exponent =
      if negative then Float.ofNat digits / tenPower exponent
      else Float.ofNat digits * tenPower exponent := by
  rw [Float.ofScientific, dif_pos ⟨few, small⟩, ofNat_eq_of_lt few,
    tenPower_eq (Nat.lt_succ_of_le small)]
  rfl

end RouterTelemetry.Decimal
