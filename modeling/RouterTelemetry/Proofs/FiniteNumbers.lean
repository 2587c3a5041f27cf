import RouterTelemetry.Proofs.FiniteDoubles
import RouterTelemetry.Proofs.LiteralAgreement
import RouterTelemetry.Proofs.Results

/-!
# Finite numbers

A number without quotes is finite, or it is refused: an overflow is found where it happens.  A
numeral between quotes is read whatever it is, and is finite if it is a decimal in range.
-/

namespace RouterTelemetry.Json

open Decimal

theorem isFinite_tenPower {count : Nat} (bound : count ≤ 308) :
    (tenPower count).isFinite = true := by
  by_cases zero : count = 0
  · rw [zero]
    decide +kernel
  · obtain ⟨mantissa, exponent, positive, unpacked, _⟩ :=
      exists_tenPower (Nat.pos_of_ne_zero zero) bound
    change (tenPower count).toModel.unpack.isFinite = true
    rw [unpacked]
    rfl

theorem isFinite_div_tenPower {value : Float} (finite : value.isFinite = true) {count : Nat}
    (some_places : 0 < count) (bound : count ≤ 308) :
    (value / tenPower count).isFinite = true := by
  obtain ⟨mantissa, exponent, positive, unpacked, least⟩ := exists_tenPower some_places bound
  exact isFinite_div finite least unpacked

/-- Scaling a finite double ends in a finite one, or fails. -/
theorem isFinite_of_scaleBy {value result : Float} {exponent : Int}
    (finite : value.isFinite = true) (scaled : scaleBy value exponent = .ok result) :
    result.isFinite = true := by
  fun_induction scaleBy value exponent with
  | case1 | case5 => cases scaled
  | case2 value exponent small power positive product noInfinity =>
      rw [← Except.ok.inj scaled]
      exact isFinite_mul finite (isFinite_tenPower small) (by simpa using noInfinity)
  | case3 value exponent small power negative =>
      rw [← Except.ok.inj scaled]
      exact isFinite_div_tenPower finite (by omega) small
  | case4 =>
      cases scaled
      exact finite
  | case6 value exponent large nonzero negative ih =>
      exact ih (isFinite_div_tenPower finite (by decide) (by decide)) scaled

theorem isFinite_of_assemble {significand : Nat} {shift : Int}
    {exponent : Option (Bool × List UInt8)} {magnitude : Float}
    (fits : significand ≤ maxSignificand)
    (assembled : assemble significand shift exponent = .ok magnitude) :
    magnitude.isFinite = true := by
  have start : (Float.ofNat significand).isFinite = true :=
    isFinite_ofNat (Nat.lt_of_le_of_lt fits (by decide))
  cases exponent with
  | none => exact isFinite_of_scaleBy start assembled
  | some pair =>
      obtain ⟨negative, digits⟩ := pair
      rw [assemble] at assembled
      split_ifs at assembled
      · cases assembled
        decide +kernel
      · exact isFinite_of_scaleBy start assembled
      · exact isFinite_of_scaleBy start assembled

theorem gather_le {significand : Nat} {digits : List UInt8} (fits : significand ≤ maxSignificand) :
    (gather significand digits).1 ≤ maxSignificand := by
  fun_induction gather significand digits with
  | case1 => exact fits
  | case2 _ _ _ next small ih => exact ih small
  | case3 => exact fits

theorem isFinite_signed {value : Float} (finite : value.isFinite = true) (negative : Bool) :
    (signed negative value).isFinite = true := by
  cases negative with
  | false => exact finite
  | true => exact isFinite_neg finite

/-- A number that is accepted is finite. -/
theorem Literal.isFinite_number {literal : Literal} {number : Number}
    (accepted : literal.number = .ok number) : number.toFloat.isFinite = true := by
  have whole := @gather_le 0 literal.whole (Nat.zero_le _)
  rw [Literal.number] at accepted
  dsimp only at accepted
  split at accepted
  · cases accepted
    rw [toFloat_integerNumber]
    exact isFinite_signed (isFinite_ofNat (Nat.lt_of_le_of_lt whole (by decide))) _
  · obtain ⟨magnitude, assembled, rfl⟩ := map_eq_ok_iff.mp accepted
    exact isFinite_signed (isFinite_of_assemble (gather_le whole) assembled) literal.negative

end RouterTelemetry.Json
