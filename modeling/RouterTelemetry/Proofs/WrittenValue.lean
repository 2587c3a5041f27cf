import RouterTelemetry.Decimal.Layout
import RouterTelemetry.Proofs.NearestDouble
import RouterTelemetry.Proofs.QuotedLiteral
import RouterTelemetry.Proofs.ShortestDigits

/-!
# Written values

A published value is written with the shortest digits that round to it.  Read as a number, the
text is the value again: every double, with the sign of a zero, the infinities and not-a-number.
-/

namespace RouterTelemetry.Decimal

open Float.Model UnpackedFloat

/-! ## The bits of a double -/

/-- The sign that the sign bit stands for. -/
def signOf (negative : Bool) : Sign :=
  if negative then .negative else .positive

/-- What is read off the bits, and what the double is unpacked into. -/
inductive Shows : Datum → UnpackedFloat → Prop where
  | nan : Shows .nan .notANumber
  | infinite (negative : Bool) : Shows (.infinite negative) (.infinity (signOf negative))
  | zero (negative : Bool) (magnitude : Binary) (none : magnitude.mantissa = 0) :
      Shows (.finite negative magnitude) (.zero (signOf negative))
  | finite (negative : Bool) (magnitude : Binary)
      (canonical : Canonical magnitude.mantissa magnitude.exponent) (flagged : magnitude.Flagged)
      (most : magnitude.exponent ≤ 971) :
      Shows (.finite negative magnitude)
        (.finite (signOf negative) magnitude.mantissa magnitude.exponent canonical.positive)

theorem toNat_unpackMantissa (bits : BitVec Format.binary64.numBits) :
    (unpackMantissa bits).toNat = bits.toNat % 2 ^ 52 := by
  rw [unpackMantissa_def, BitVec.extractLsb'_toNat, Nat.shiftRight_zero]

theorem toNat_unpackExponent (bits : BitVec Format.binary64.numBits) :
    (unpackExponent bits).toNat = bits.toNat / 2 ^ 52 % 2 ^ 11 := by
  rw [unpackExponent_def, BitVec.extractLsb'_toNat, Nat.shiftRight_eq_div_pow]

theorem toNat_unpackSign (bits : BitVec Format.binary64.numBits) :
    (unpackSign bits).toNat = bits.toNat / 2 ^ 63 := by
  rw [unpackSign_def, BitVec.extractLsb'_toNat, Nat.shiftRight_eq_div_pow]
  have bound : bits.toNat < 2 ^ 64 := bits.isLt
  exact Nat.mod_eq_of_lt (by change bits.toNat / 2 ^ 63 < 2; omega)

section

variable (bits : UInt64)

theorem sign_eq :
    Sign.ofBitVec (@unpackSign .binary64 bits.toBitVec) = signOf (bits >>> 63 == 1) := by
  have shifted : (bits >>> 63).toNat = bits.toNat / 2 ^ 63 := by
    rw [UInt64.toNat_shiftRight, Nat.shiftRight_eq_div_pow]
    rfl
  have unpacked : (@unpackSign .binary64 bits.toBitVec).toNat = bits.toNat / 2 ^ 63 :=
    toNat_unpackSign bits.toBitVec
  have bound : bits.toNat < 2 ^ 64 := bits.toNat_lt
  have one : (1 : UInt64).toNat = 1 := rfl
  rw [Sign.ofBitVec, signOf]
  by_cases zero : bits.toNat / 2 ^ 63 = 0
  · have plus : @unpackSign .binary64 bits.toBitVec = 0#1 :=
      BitVec.eq_of_toNat_eq (unpacked.trans zero)
    have noMinus : ¬(bits >>> 63 == 1) = true := by
      rw [beq_iff_eq, ← UInt64.toNat_inj, shifted, zero]
      decide
    rw [if_pos plus, if_neg noMinus]
  · have minus : bits >>> 63 = 1 := by
      rw [← UInt64.toNat_inj, shifted, one]
      omega
    have noPlus : @unpackSign .binary64 bits.toBitVec ≠ 0#1 := by
      intro same
      rw [same] at unpacked
      exact zero unpacked.symm
    rw [if_neg noPlus, minus]
    rfl

theorem exponent_eq :
    ((bits >>> 52) &&& 0x7FF).toNat = (@unpackExponent .binary64 bits.toBitVec).toNat := by
  have mask : (0x7FF : UInt64).toNat = 2 ^ 11 - 1 := rfl
  have places : (52 : UInt64).toNat % 64 = 52 := rfl
  rw [UInt64.toNat_and, UInt64.toNat_shiftRight, mask, places, Nat.and_two_pow_sub_one_eq_mod,
    Nat.shiftRight_eq_div_pow]
  exact (toNat_unpackExponent bits.toBitVec).symm

theorem fraction_eq :
    (bits &&& 0xFFFFFFFFFFFFF).toNat = (@unpackMantissa .binary64 bits.toBitVec).toNat := by
  have mask : (0xFFFFFFFFFFFFF : UInt64).toNat = 2 ^ 52 - 1 := rfl
  rw [UInt64.toNat_and, mask, Nat.and_two_pow_sub_one_eq_mod]
  exact (toNat_unpackMantissa bits.toBitVec).symm

end

/-- A vector is the one with all bits, or none, if its number says so. -/
theorem eq_ones_iff (stored : BitVec 11) : stored = -1#11 ↔ stored.toNat = 0x7FF := by
  rw [← BitVec.toNat_inj]
  exact Iff.rfl

theorem eq_zeros_iff {width : Nat} (stored : BitVec width) :
    stored = BitVec.ofNat width 0 ↔ stored.toNat = 0 := by
  rw [← BitVec.toNat_inj, BitVec.toNat_zero]

/-- The bits of a double are read as it is unpacked. -/
theorem shows_ofFloat (value : Float) : Shows (Datum.ofFloat value) value.toModel.unpack := by
  change Shows (Datum.ofBits value.toModel.toBits)
    (UnpackedFloat.unpack .binary64 value.toModel.toBits.toBitVec)
  generalize value.toModel.toBits = bits
  have fields := @packComponents_unpackSign_unpackExponent_unpackMantissa .binary64 bits.toBitVec
  rw [← fields, Datum.ofBits, exponent_eq, fraction_eq, sign_eq]
  generalize @unpackExponent .binary64 bits.toBitVec = stored
  generalize @unpackMantissa .binary64 bits.toBitVec = fraction
  unfold UnpackedFloat.unpack
  simp only [unpackExponent_packComponents, unpackMantissa_packComponents,
    unpackSign_packComponents, Sign.ofBitVec_toBitVec]
  have stored_lt : stored.toNat < 2 ^ 11 := stored.isLt
  have fraction_lt : fraction.toNat < 2 ^ 52 := fraction.isLt
  by_cases special : stored.toNat = 0x7FF
  · rw [if_pos special, if_pos ((eq_ones_iff _).mpr special)]
    by_cases infinite : fraction.toNat = 0
    · rw [if_pos infinite, if_pos ((eq_zeros_iff _).mpr infinite)]
      exact .infinite _
    · rw [if_neg infinite, if_neg (mt (eq_zeros_iff _).mp infinite)]
      exact .nan
  · rw [if_neg special, if_neg (mt (eq_ones_iff _).mp special)]
    by_cases least : stored.toNat = 0
    · rw [if_pos least, if_pos ((eq_zeros_iff _).mpr least)]
      by_cases zero : fraction.toNat = 0
      · rw [dif_pos ((eq_zeros_iff _).mpr zero)]
        exact .zero _ _ zero
      · have canonical : Canonical fraction.toNat (-1074) := by
          constructor
          · omega
          · omega
          · omega
          · exact .inr rfl
        rw [dif_neg (mt (eq_zeros_iff _).mp zero)]
        simp only [least]
        apply Shows.finite _ _ canonical
        · intro full
          dsimp only at full
          omega
        · dsimp only
          omega
    · have hidden := toNat_one_append fraction
      have canonical : Canonical (0x10000000000000 + fraction.toNat) (stored.toNat - 1075) := by
        constructor
        · omega
        · omega
        · omega
        · left
          omega
      rw [if_neg least, if_neg (mt (eq_zeros_iff _).mp least)]
      simp only [hidden]
      apply Shows.finite _ _ canonical
      · intro full above
        dsimp only at full above
        have none : fraction.toNat = 0 := by omega
        rw [none]
        simp only [beq_self_eq_true, Bool.true_and, decide_eq_true_eq]
        omega
      · dsimp only
        omega

/-! ## Texts of digits -/

theorem digitsValue_eq (digits : List Char) : digitsValue digits = Nat.ofDigitChars 10 digits 0 :=
  Nat.ofDigitChars_eq_foldl.symm

theorem digitsValue_toDigits (digits : Nat) : digitsValue (Nat.toDigits 10 digits) = digits := by
  rw [digitsValue_eq, Nat.ofDigitChars_ten_toDigits]

theorem digitsValue_zeros_append (count : Nat) (digits : List Char) :
    digitsValue (List.replicate count '0' ++ digits) = digitsValue digits := by
  rw [digitsValue_eq, Nat.ofDigitChars_append, Nat.ofDigitChars_replicate_zero, Nat.mul_zero,
    digitsValue_eq]

theorem digitsValue_append_zeros (digits : List Char) (count : Nat) :
    digitsValue (digits ++ List.replicate count '0') = digitsValue digits * 10 ^ count := by
  rw [digitsValue_eq, Nat.ofDigitChars_append, Nat.ofDigitChars_replicate_zero, digitsValue_eq,
    Nat.mul_comm]

/-- A point and the digits after it, if there are any. -/
def pointed : List Char → List Char
  | [] => []
  | digit :: digits => '.' :: digit :: digits

section

variable {whole fraction : List Char}

theorem splitDigits_pointed (wholeDigits : ∀ c ∈ whole, c.isDigit = true)
    (fractionDigits : ∀ c ∈ fraction, c.isDigit = true) :
    splitDigits (whole ++ pointed fraction) = (whole, fraction, []) := by
  have taken (rest : List Char) (stop : rest.takeWhile Char.isDigit = []) :
      (whole ++ rest).takeWhile Char.isDigit = whole := by
    rw [List.takeWhile_append_of_pos wholeDigits, stop, List.append_nil]
  have left (rest : List Char) :
      (whole ++ rest).dropWhile Char.isDigit = rest.dropWhile Char.isDigit :=
    List.dropWhile_append_of_pos wholeDigits
  rw [splitDigits]
  cases fraction with
  | nil =>
      rw [pointed, taken [] rfl, left]
      rfl
  | cons digit digits =>
      have all := List.takeWhile_eq_self_iff.mpr fractionDigits
      have none := List.dropWhile_eq_nil_iff.mpr fractionDigits
      rw [pointed, taken _ rfl, left]
      change (whole, (digit :: digits).takeWhile Char.isDigit,
        (digit :: digits).dropWhile Char.isDigit) = _
      rw [all, none]

/-- Digits around a point are a decimal with the digits and with as many places. -/
theorem ofText?_pointed (negative : Bool) (nonempty : whole ≠ [])
    (wholeDigits : ∀ c ∈ whole, c.isDigit = true)
    (fractionDigits : ∀ c ∈ fraction, c.isDigit = true) :
    Numeral.ofText? ((if negative then "-" else "") ++ String.ofList (whole ++ pointed fraction)) =
      some (.decimal negative (digitsValue (whole ++ fraction)) (-fraction.length)) := by
  obtain ⟨first, rest, rfl⟩ := List.exists_cons_of_ne_nil nonempty
  have digit : first.isDigit = true := wholeDigits first List.mem_cons_self
  have sign : splitSign ((if negative then "-" else "") ++
      String.ofList (first :: rest ++ pointed fraction)).toList =
        (negative, first :: rest ++ pointed fraction) := by
    rw [String.toList_append, String.toList_ofList]
    cases negative with
    | true => rfl
    | false => exact Json.splitSign_of_isDigit digit _
  -- A body that begins with a digit is none of the words.
  have noWord (letter : Char) (word : List Char) (other : letter.isDigit = false) :
      ¬(first :: rest ++ pointed fraction).map Char.toLower = letter :: word := by
    intro same
    rw [List.cons_append, List.map_cons, Json.toLower_of_isDigit digit] at same
    rw [(List.cons.inj same).1, other] at digit
    cases digit
  have split := splitDigits_pointed wholeDigits fractionDigits
  rw [Numeral.ofText?, sign]
  dsimp only
  rw [if_neg (noWord 'n' _ rfl), if_neg (not_or.mpr ⟨noWord 'i' _ rfl, noWord 'i' _ rfl⟩), split]
  simp [exponentOf?]

end

theorem pointed_of_ne_nil {fraction : List Char} (nonempty : fraction ≠ []) :
    pointed fraction = '.' :: fraction := by
  obtain ⟨digit, digits, rfl⟩ := List.exists_cons_of_ne_nil nonempty
  rfl

/-- What a layout has to keep: digits on both sides of the point, and their value. -/
structure LaidOut (digits : List Char) (point : Int) (whole fraction : List Char) : Prop where
  text : layPositional false digits point = String.ofList (whole ++ pointed fraction)
  nonempty : whole ≠ []
  whole_digits : ∀ c ∈ whole, c.isDigit = true
  fraction_digits : ∀ c ∈ fraction, c.isDigit = true
  value : (digitsValue (whole ++ fraction) : ℚ) * 10 ^ (-fraction.length : Int) =
    digitsValue digits * 10 ^ (point - digits.length)

theorem isDigit_of_mem_replicate {count : Nat} {c : Char} (member : c ∈ List.replicate count '0') :
    c.isDigit = true := by
  rw [List.eq_of_mem_replicate member]
  rfl

/-- Digits are laid out with zeros before them, with zeros after them, or with the point inside. -/
theorem exists_laidOut {digits : List Char} (nonempty : digits ≠ [])
    (allDigits : ∀ c ∈ digits, c.isDigit = true) (point : Int) :
    ∃ whole fraction, LaidOut digits point whole fraction := by
  have ten : (10 : ℚ) ≠ 0 := by norm_num
  rcases le_or_gt point 0 with before | inside
  · refine ⟨['0'], List.replicate (-point).toNat '0' ++ digits, ?_⟩
    have some_fraction : List.replicate (-point).toNat '0' ++ digits ≠ [] := by simp [nonempty]
    constructor
    · apply String.toList_injective
      rw [layPositional, if_pos before, pointed_of_ne_nil some_fraction]
      simp [zeros]
    · exact List.cons_ne_nil _ _
    · exact List.forall_mem_singleton.mpr rfl
    · exact List.forall_mem_append.mpr ⟨fun _ => isDigit_of_mem_replicate, allDigits⟩
    · have lead : ['0'] ++ (List.replicate (-point).toNat '0' ++ digits) =
          List.replicate ((-point).toNat + 1) '0' ++ digits := by
        rw [List.replicate_succ]
        rfl
      have places : -((List.replicate (-point).toNat '0' ++ digits).length : Int) =
          point - digits.length := by
        simp
        omega
      rw [lead, digitsValue_zeros_append, places]
  · rcases le_or_gt (digits.length : Int) point with after | within
    · refine ⟨digits ++ List.replicate (point - digits.length).toNat '0', [], ?_⟩
      constructor
      · apply String.toList_injective
        rw [layPositional, if_neg (not_le.mpr inside), if_pos after]
        simp [zeros, pointed]
      · simp [nonempty]
      · exact List.forall_mem_append.mpr ⟨allDigits, fun _ => isDigit_of_mem_replicate⟩
      · exact nofun
      · have count : ((point - digits.length).toNat : Int) = point - digits.length := by omega
        rw [List.append_nil, digitsValue_append_zeros, ← count, zpow_natCast]
        simp
    · refine ⟨digits.take point.toNat, digits.drop point.toNat, ?_⟩
      have some_fraction : digits.drop point.toNat ≠ [] := by
        rw [ne_eq, List.drop_eq_nil_iff]
        omega
      constructor
      · apply String.toList_injective
        rw [layPositional, if_neg (not_le.mpr inside), if_neg (not_le.mpr within),
          pointed_of_ne_nil some_fraction]
        simp
      · rw [ne_eq, List.take_eq_nil_iff, not_or]
        exact ⟨by omega, nonempty⟩
      · exact fun c member => allDigits c (List.mem_of_mem_take member)
      · exact fun c member => allDigits c (List.mem_of_mem_drop member)
      · have places : -((digits.drop point.toNat).length : Int) = point - digits.length := by
          rw [List.length_drop]
          omega
        rw [List.take_append_drop, places]

/-! ## Values -/

/-- The shortest digits of a magnitude, laid out, are read as its double. -/
theorem parse?_layPositional {digits mantissa : Nat} {power exponent : Int}
    (near : Near mantissa exponent (digits * 10 ^ power))
    (canonical : Canonical mantissa exponent) (most : exponent ≤ 971) (negative : Bool) :
    parse? ((if negative then "-" else "") ++
        layPositional false (Nat.toDigits 10 digits) ((Nat.toDigits 10 digits).length + power)) =
      some (canonical.double (signOf negative)) := by
  obtain ⟨whole, fraction, laidOut⟩ := exists_laidOut (@Nat.toDigits_ne_nil digits 10)
    (fun c => Nat.isDigit_of_mem_toDigits (by decide) (by decide))
    ((Nat.toDigits 10 digits).length + power)
  have value := laidOut.value
  rw [digitsValue_toDigits, add_sub_cancel_left] at value
  rw [← value] at near
  have positive : 0 < digitsValue (whole ++ fraction) := by
    have least := near.two_zpow_le canonical
    by_contra none
    rw [Nat.eq_zero_of_not_pos none, Nat.cast_zero, zero_mul] at least
    exact absurd least (not_le.mpr (two_zpow_pos _))
  rw [parse?, laidOut.text,
    ofText?_pointed negative laidOut.nonempty laidOut.whole_digits laidOut.fraction_digits,
    Option.map_some, Numeral.value, nearest_eq_of_near near canonical most positive (by omega),
    canonical.signed_double most, signOf]

/-- A published value is read as it is. -/
theorem parse?_render (value : Float) : parse? (exposed.render value) = some value := by
  have shows := shows_ofFloat value
  have packed := ofModel_pack_unpack value
  rw [Style.render]
  generalize value.toModel.unpack = unpacked at shows packed
  generalize Datum.ofFloat value = datum at shows
  subst packed
  cases shows with
  | nan => decide +kernel
  | infinite negative =>
      cases negative
      · decide +kernel
      · decide +kernel
  | zero negative magnitude none =>
      have text : exposed.magnitude magnitude = "0" := by
        rw [Style.magnitude, if_pos none]
        rfl
      dsimp only
      rw [text]
      cases negative
      · decide +kernel
      · decide +kernel
  | finite negative magnitude canonical flagged most =>
      have near := magnitude.near_shortest flagged canonical.positive exposed.tie
      dsimp only
      rw [Style.magnitude, if_neg canonical.positive.ne']
      exact parse?_layPositional near canonical most negative

end RouterTelemetry.Decimal
