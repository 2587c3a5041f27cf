import RouterTelemetry.Proofs.ExactScaling
import RouterTelemetry.Proofs.QuotedLiteral

/-!
# Numbers with and without quotes

A quoted literal has the double nearest to it.  A literal without quotes is assembled from
doubles, and every step of that may round.  Nothing is rounded twice where the literal is an
integer of at most 64 bits, or where its digits and its power of ten are doubles: there the
two readings agree.
-/

namespace RouterTelemetry.Json

open Decimal

/-! ## Gathered digits -/

/-- Appends digits to a natural number. -/
def appendDigits (significand : Nat) (digits : List UInt8) : Nat :=
  digits.foldl (fun total digit => 10 * total + digitValue digit) significand

theorem appendDigits_append (significand : Nat) (digits more : List UInt8) :
    appendDigits significand (digits ++ more) =
      appendDigits (appendDigits significand digits) more :=
  List.foldl_append

theorem le_appendDigits (significand : Nat) (digits : List UInt8) :
    significand ≤ appendDigits significand digits := by
  induction digits generalizing significand with
  | nil => exact Nat.le_refl _
  | cons digit digits ih =>
      calc
        significand ≤ 10 * significand + digitValue digit := by omega
        _ ≤ appendDigits significand (digit :: digits) := ih _

/-- Digits that fit are gathered to the last one. -/
theorem gather_eq_of_fits {significand : Nat} {digits : List UInt8}
    (fits : appendDigits significand digits ≤ maxSignificand) :
    gather significand digits = (appendDigits significand digits, []) := by
  induction digits generalizing significand with
  | nil => rfl
  | cons digit digits ih =>
      have next : 10 * significand + digitValue digit ≤ maxSignificand :=
        Nat.le_trans (le_appendDigits _ digits) fits
      rw [gather, if_pos next]
      exact ih fits

namespace Literal

variable {literal : Literal}

theorem significand_eq :
    literal.significand = appendDigits (appendDigits 0 literal.whole) (literal.fraction.getD []) :=
  appendDigits_append 0 _ _

/-- The whole digits of a literal whose digits fit are gathered. -/
theorem gather_whole (fits : literal.significand ≤ maxSignificand) :
    gather 0 literal.whole = (appendDigits 0 literal.whole, []) := by
  rw [significand_eq] at fits
  exact gather_eq_of_fits (Nat.le_trans (le_appendDigits _ _) fits)

theorem number_of_integer (fits : literal.significand ≤ maxSignificand)
    (noFraction : literal.fraction = none) (noExponent : literal.exponent = none) :
    literal.number = .ok (integerNumber literal.negative literal.significand) := by
  simp only [number, gather_whole fits, noFraction, noExponent, significand_eq]
  rfl

theorem number_of_assembled (fits : literal.significand ≤ maxSignificand)
    (parts : ¬(literal.fraction = none ∧ literal.exponent = none)) :
    literal.number =
      (assemble literal.significand (-(literal.fraction.getD []).length) literal.exponent).map
        fun magnitude => .float (signed literal.negative magnitude) := by
  have gathered : gather (appendDigits 0 literal.whole) (literal.fraction.getD []) =
      (literal.significand, []) := by
    rw [significand_eq] at fits ⊢
    exact gather_eq_of_fits fits
  have wholeGathered := gather_whole fits
  obtain ⟨negative, whole, fraction, exponent⟩ := literal
  dsimp only at gathered wholeGathered parts ⊢
  rw [number, wholeGathered]
  cases fraction with
  | some digits =>
      rw [Option.getD_some] at gathered
      simp [gathered, signed]
  | none =>
      rw [Option.getD_none] at gathered
      cases exponent with
      | some exponent => simp [gathered, signed]
      | none => exact absurd ⟨rfl, rfl⟩ parts

end Literal

/-! ## Scaling -/

theorem length_toDigits_le {digits : Nat} {count : Nat} (positive : 0 < count)
    (bound : digits < 10 ^ count) : (Nat.toDigits 10 digits).length ≤ count :=
  (Nat.length_toDigits_le_iff (by decide) positive).mpr bound

/-- Near the decimal point the nearest double is formed without a detour. -/
theorem nearest_of_near {digits : Nat} {exponent : Int} (some_digits : digits ≠ 0)
    (bound : digits < 10 ^ 20) (near : exponent.natAbs ≤ 22) :
    nearest digits exponent =
      Float.ofScientific digits (decide (exponent < 0)) exponent.natAbs := by
  have most := length_toDigits_le (by decide) bound
  rw [nearest, if_neg some_digits, if_neg (by omega), if_neg (by omega)]

theorem nearest_integer {digits : Nat} (fits : digits ≤ maxSignificand) :
    nearest digits 0 = Float.ofNat digits := by
  by_cases zero : digits = 0
  · rw [zero]
    decide +kernel
  · have bound : digits < 10 ^ 20 := Nat.lt_of_le_of_lt fits (by decide)
    exact nearest_of_near zero bound (by decide)

/-- Few digits times a small power are one product or one quotient of doubles. -/
theorem nearest_of_few {digits : Nat} {exponent : Int} (few : digits < 2 ^ 53)
    (small : exponent.natAbs ≤ 22) :
    nearest digits exponent =
      if exponent < 0 then Float.ofNat digits / tenPower exponent.natAbs
      else Float.ofNat digits * tenPower exponent.natAbs := by
  have unrounded := ofScientific_of_few few small (decide (exponent < 0))
  simp only [decide_eq_true_eq] at unrounded
  rw [← unrounded]
  by_cases zero : digits = 0
  · have zeros : ∀ negative, ∀ exponent : Fin 23, Float.ofScientific 0 negative exponent = 0.0 := by
      decide +kernel
    rw [nearest, if_pos zero, zero, zeros _ ⟨exponent.natAbs, by omega⟩]
  · exact nearest_of_near zero (Nat.lt_trans few (by decide)) small

/-- Scaling few digits by a small power gives the nearest double, unless it fails. -/
theorem eq_nearest_of_scaleBy {digits : Nat} {exponent : Int} {magnitude : Float}
    (few : digits < 2 ^ 53) (small : exponent.natAbs ≤ 22)
    (scaled : scaleBy (Float.ofNat digits) exponent = .ok magnitude) :
    magnitude = nearest digits exponent := by
  rw [nearest_of_few few small]
  rw [scaleBy, if_pos (by omega)] at scaled
  dsimp only at scaled
  split_ifs at scaled with positive infinite
  · cases scaled
    rw [if_neg (by omega)]
    rfl
  · cases scaled
    rw [if_pos (by omega)]
    rfl

/-- The magnitude of a literal with few digits and a small power is the nearest double. -/
theorem eq_nearest_of_assemble {digits : Nat} {shift : Int}
    {exponent : Option (Bool × List UInt8)} {magnitude : Float} (few : digits < 2 ^ 53)
    (left : shift ≤ 0) (small : (exponentPower exponent + shift).natAbs ≤ 22)
    (assembled : assemble digits shift exponent = .ok magnitude) :
    magnitude = nearest digits (exponentPower exponent + shift) := by
  cases exponent with
  | none =>
      rw [exponentPower, zero_add] at small ⊢
      exact eq_nearest_of_scaleBy few small assembled
  | some pair =>
      obtain ⟨negative, size⟩ := pair
      rw [exponentPower] at small ⊢
      rw [assemble] at assembled
      split_ifs at assembled with large overflow minus
      · -- So large an exponent is only let through for a zero, or far below the small powers.
        cases assembled
        by_cases zero : digits = 0
        · rw [nearest, if_pos zero]
        · have minus : negative = true := by simpa [zero] using overflow
          rw [minus, if_pos rfl] at small
          have limit : maxExponent = 0x7FFFFFFF := rfl
          omega
      · rw [if_pos minus] at small ⊢
        rw [sub_eq_neg_add] at assembled
        exact eq_nearest_of_scaleBy few small assembled
      · rw [if_neg minus] at small ⊢
        rw [add_comm] at assembled
        exact eq_nearest_of_scaleBy few small assembled

/-! ## Agreement -/

namespace Literal

/-- Nothing is rounded twice: an integer of at most 64 bits, or a literal whose digits and
whose power of ten are doubles. -/
def Exact (literal : Literal) : Prop :=
  (literal.fraction = none ∧ literal.exponent = none ∧ literal.significand ≤ maxSignificand) ∨
    (literal.significand < 2 ^ 53 ∧ literal.scale.natAbs ≤ 22)

variable {literal : Literal} {number : Number}

theorem toFloat_integerNumber (negative : Bool) (significand : Nat) :
    (integerNumber negative significand).toFloat = signed negative (Float.ofNat significand) := by
  cases negative with
  | false => rfl
  | true =>
      rw [integerNumber, if_pos rfl]
      split_ifs with outside
      · rfl
      · obtain ⟨before, rfl⟩ := Nat.exists_eq_succ_of_ne_zero fun zero => outside (.inl zero)
        rfl

/-- An exact literal that is accepted is the double nearest to its numeral. -/
theorem toFloat_eq_of_exact (exact : literal.Exact) (accepted : literal.number = .ok number) :
    number.toFloat = literal.numeral.value := by
  have integer (noFraction : literal.fraction = none) (noExponent : literal.exponent = none)
      (fits : literal.significand ≤ maxSignificand) : number.toFloat = literal.numeral.value := by
    rw [number_of_integer fits noFraction noExponent] at accepted
    cases accepted
    have noScale : literal.scale = 0 := by simp [scale, noFraction, noExponent, exponentPower]
    rw [toFloat_integerNumber, numeral, Numeral.value, noScale, nearest_integer fits]
  rcases exact with ⟨noFraction, noExponent, fits⟩ | ⟨few, small⟩
  · exact integer noFraction noExponent fits
  · have fits : literal.significand ≤ maxSignificand := by
      have limit : maxSignificand = 0xFFFFFFFFFFFFFFFF := rfl
      omega
    by_cases whole : literal.fraction = none ∧ literal.exponent = none
    · exact integer whole.1 whole.2 fits
    · rw [number_of_assembled fits whole] at accepted
      cases assembled : assemble literal.significand (-(literal.fraction.getD []).length)
          literal.exponent with
      | error fault =>
          rw [assembled] at accepted
          cases accepted
      | ok magnitude =>
          rw [assembled] at accepted
          cases accepted
          rw [scale, sub_eq_add_neg] at small
          rw [eq_nearest_of_assemble few (by omega) small assembled, ← sub_eq_add_neg]
          rfl

end Literal

section

variable {text : Input} {literal : Reading Literal text.length} {number : Number}

theorem Literal.spells_of_read_whole (read : Literal.read (.ended .value) text = .ok literal)
    (whole : literal.rest = []) : literal.value.Spells text := by
  obtain ⟨spelling, spelled, split⟩ := Literal.spells_of_read read
  rw [whole, List.append_nil] at split
  exact split ▸ spelled

/-- A literal without quotes is read as its number. -/
theorem readDocument_of_literal (read : Literal.read (.ended .value) text = .ok literal)
    (whole : literal.rest = []) (accepted : literal.value.number = .ok number) :
    readDocument readQuantity text = .ok number.toFloat ∧
      ∀ depth, readDocument (readMeasure depth) text = .ok (.value number.toFloat) := by
  have spelled := Literal.spells_of_read_whole read whole
  obtain ⟨value, rest, shorter⟩ := literal
  obtain rfl : rest = [] := whole
  have numbered : readNumber text = .ok ⟨number, [], shorter⟩ := by
    rw [readNumber, read]
    dsimp only
    rw [accepted]
    rfl
  exact readDocument_of_number (readHead_of_readNumber spelled numbered)

/-- A number is read as assembled, and between quotes as the double nearest to it.  The two
are the same double wherever nothing is rounded twice. -/
theorem quoted_number_agrees (read : Literal.read (.ended .value) text = .ok literal)
    (whole : literal.rest = []) (accepted : literal.value.number = .ok number) :
    (readDocument readQuantity text = .ok number.toFloat ∧
      ∀ depth, readDocument (readMeasure depth) text = .ok (.value number.toFloat)) ∧
    (readDocument readQuantity (quotation text) = .ok literal.value.numeral.value ∧
      ∀ depth, readDocument (readMeasure depth) (quotation text) =
        .ok (.value literal.value.numeral.value)) ∧
    (literal.value.Exact → number.toFloat = literal.value.numeral.value) := by
  have spelled := Literal.spells_of_read_whole read whole
  exact ⟨readDocument_of_literal read whole accepted, readDocument_quotation spelled,
    fun exact => Literal.toFloat_eq_of_exact exact accepted⟩

/-- A negative literal with a leading zero, an exponent in the other case and a plus sign. -/
theorem quoted_number_agrees_below_zero :
    let text : Input := "-0.00125E+3".toList.map byte
    ∃ (literal : Reading Literal text.length) (number : Number),
      Literal.read (.ended .value) text = .ok literal ∧ literal.rest = [] ∧
        literal.value.number = .ok number ∧ literal.value.Exact ∧
        readDocument readQuantity (quotation text) = readDocument readQuantity text := by
  intro text
  let value : Literal :=
    ⟨true, [byte '0'], some ("00125".toList.map byte), some (false, [byte '3'])⟩
  have read : Literal.read (.ended .value) text = .ok ⟨value, [], by decide⟩ := rfl
  have exact : value.Exact := .inr (by decide)
  have accepted : value.number = .ok (.float (-(Float.ofNat 125 / tenPower 2))) := by
    rw [Literal.number_of_assembled (by decide) (by decide)]
    change (scaleBy (Float.ofNat 125) (-2)).map _ = _
    rw [scaleBy, if_pos (by decide), if_neg (by decide)]
    rfl
  obtain ⟨plain, quoted, agree⟩ := quoted_number_agrees read rfl accepted
  exact ⟨_, _, read, rfl, accepted, exact, by rw [plain.1, quoted.1, agree exact]⟩

/-- The digits of this literal make more than `2 ^ 53`, so they are rounded before they are
divided by ten, and the quotient is rounded to another double than the literal itself. -/
theorem quoted_number_differs :
    let text : Input := "9007199254740993.0".toList.map byte
    (readDocument readQuantity text = .ok 9007199254740994.0 ∧
      ∀ depth, readDocument (readMeasure depth) text = .ok (.value 9007199254740994.0)) ∧
    (readDocument readQuantity (quotation text) = .ok 9007199254740992.0 ∧
      ∀ depth, readDocument (readMeasure depth) (quotation text) =
        .ok (.value 9007199254740992.0)) ∧
    (9007199254740994.0 : Float) ≠ 9007199254740992.0 := by
  intro text
  let value : Literal :=
    ⟨false, "9007199254740993".toList.map byte, some [byte '0'], none⟩
  have read : Literal.read (.ended .value) text = .ok ⟨value, [], by decide⟩ := rfl
  have accepted : value.number = .ok (.float 9007199254740994.0) := by
    rw [Literal.number_of_assembled (by decide) (by decide)]
    change (scaleBy (Float.ofNat 90071992547409930) (-1)).map _ = _
    rw [scaleBy, if_pos (by decide), if_neg (by decide)]
    have quotient : Float.ofNat 90071992547409930 / tenPower 1 = 9007199254740994.0 := by
      decide +kernel
    exact congrArg (fun magnitude => Except.ok (Number.float magnitude)) quotient
  have nearestDouble : value.numeral.value = 9007199254740992.0 := by decide +kernel
  have plain := readDocument_of_literal read rfl accepted
  have quoted := readDocument_quotation (Literal.spells_of_read_whole read rfl)
  rw [Number.toFloat] at plain
  rw [nearestDouble] at quoted
  exact ⟨plain, quoted, by decide +kernel⟩

end

end RouterTelemetry.Json
