import RouterTelemetry.Proofs.NearestDouble

/-!
# Finite doubles

An operation on doubles has a finite result if the exponent of the exact result leaves room for
rounding.
-/

namespace RouterTelemetry.Decimal

open Float.Model UnpackedFloat

/-- Zero, or a magnitude whose exponent is that of a double. -/
def Small : UnpackedFloat → Prop
  | .zero _ => True
  | .finite _ _ exponent _ => exponent ≤ 971
  | _ => False

theorem unpackExponent_pack_of_small {unpacked : UnpackedFloat} (small : Small unpacked) :
    unpackExponent (UnpackedFloat.pack .binary64 unpacked) ≠ -1#11 := by
  cases unpacked with
  | notANumber => exact small.elim
  | infinity sign => exact small.elim
  | zero sign =>
      rw [UnpackedFloat.pack, packedZero, unpackExponent_packComponents]
      decide
  | finite sign mantissa exponent positive =>
      change exponent ≤ 971 at small
      have bias : (Format.binary64.exponentBias : Int) = 1023 := rfl
      have width : (Format.binary64.mantissaBitsWithoutImplicit : Int) = 52 := rfl
      have stored : (exponent + (Format.binary64.exponentBias : Int) +
          Format.binary64.mantissaBitsWithoutImplicit).toNat < 2047 := by omega
      rw [UnpackedFloat.pack]
      dsimp only
      generalize (exponent + (Format.binary64.exponentBias : Int) +
          Format.binary64.mantissaBitsWithoutImplicit).toNat = biased at stored
      have ordinary : ¬2 ^ Format.binary64.exponentBits ≤ biased + 1 := by
        change ¬2 ^ 11 ≤ biased + 1
        omega
      rw [if_neg ordinary]
      split_ifs
      · rw [unpackExponent_packComponents]
        intro same
        have := congrArg BitVec.toNat same
        rw [toNat_ofNat_of_lt (show biased < 2 ^ 11 by omega)] at this
        exact absurd this (by simp; omega)
      · rw [unpackExponent_packComponents]
        decide

/-- What is packed without overflow is finite. -/
theorem isFinite_of_small {unpacked : UnpackedFloat} (small : Small unpacked) :
    (Float.ofModel (Float.Model.pack unpacked)).isFinite = true := by
  have ordinary := unpackExponent_pack_of_small small
  change (UnpackedFloat.unpack .binary64 (UnpackedFloat.pack .binary64 unpacked)).isFinite = true
  unfold UnpackedFloat.unpack
  dsimp only
  rw [if_neg ordinary]
  split_ifs <;> rfl

/-- Finite bits are zero or a canonical magnitude. -/
theorem unpack_bits_cases {bits : BitVec Format.binary64.numBits}
    (finite : (UnpackedFloat.unpack .binary64 bits).isFinite = true) :
    (∃ sign, UnpackedFloat.unpack .binary64 bits = .zero sign) ∨
      ∃ (sign : Sign) (mantissa : Nat) (exponent : Int) (canonical : Canonical mantissa exponent),
        exponent ≤ 971 ∧ UnpackedFloat.unpack .binary64 bits =
          .finite sign mantissa exponent canonical.positive := by
  have mantissa_lt : (unpackMantissa bits).toNat < 2 ^ 52 := (unpackMantissa bits).isLt
  have exponent_lt : (unpackExponent bits).toNat < 2 ^ 11 := (unpackExponent bits).isLt
  unfold UnpackedFloat.unpack at finite ⊢
  dsimp only at finite ⊢
  split_ifs at finite ⊢ with special infinite zeros zero
  · cases finite
  · cases finite
  · exact .inl ⟨_, rfl⟩
  · have least : (unpackExponent bits).toNat = 0 := congrArg BitVec.toNat zeros
    have positive : 0 < (unpackMantissa bits).toNat :=
      Nat.pos_of_ne_zero fun none => zero (BitVec.eq_of_toNat_eq none)
    rw [bias_cancel, least]
    exact .inr ⟨_, _, _, ⟨positive, by omega, by omega, .inr (by omega)⟩, by omega, rfl⟩
  · have normal : (unpackExponent bits).toNat ≠ 0 := fun none =>
      zeros (BitVec.eq_of_toNat_eq none)
    have ordinary : (unpackExponent bits).toNat ≠ 2047 := fun ones =>
      special (BitVec.eq_of_toNat_eq ones)
    have hidden := toNat_one_append (unpackMantissa bits)
    rw [bias_cancel]
    exact .inr ⟨_, _, _, ⟨by omega, by omega, by omega, .inl (by omega)⟩, by omega, rfl⟩

/-- A finite double is zero or a canonical magnitude. -/
theorem unpack_cases {value : Float} (finite : value.isFinite = true) :
    (∃ sign, value.toModel.unpack = .zero sign) ∨
      ∃ (sign : Sign) (mantissa : Nat) (exponent : Int) (canonical : Canonical mantissa exponent),
        exponent ≤ 971 ∧
          value.toModel.unpack = .finite sign mantissa exponent canonical.positive :=
  unpack_bits_cases finite

/-- What is packed as a number is finite unless it overflows. -/
theorem isFinite_of_isInf_eq_false {unpacked : UnpackedFloat} (number : unpacked.isFinite = true)
    (noInfinity : (Float.ofModel (Float.Model.pack unpacked)).isInf = false) :
    (Float.ofModel (Float.Model.pack unpacked)).isFinite = true := by
  cases unpacked with
  | notANumber => cases number
  | infinity sign => cases number
  | zero sign => exact isFinite_of_small trivial
  | finite sign mantissa exponent positive =>
      by_cases low : exponent ≤ 971
      · exact isFinite_of_small low
      · have bias : (Format.binary64.exponentBias : Int) = 1023 := rfl
        have width : (Format.binary64.mantissaBitsWithoutImplicit : Int) = 52 := rfl
        have overflow : 2 ^ Format.binary64.exponentBits ≤
            (exponent + (Format.binary64.exponentBias : Int) +
              Format.binary64.mantissaBitsWithoutImplicit).toNat + 1 := by
          change 2 ^ 11 ≤ _
          omega
        change (UnpackedFloat.unpack .binary64 (UnpackedFloat.pack .binary64 _)).isInf = false
          at noInfinity
        rw [UnpackedFloat.pack] at noInfinity
        dsimp only at noInfinity
        rw [if_pos overflow] at noInfinity
        cases sign <;> cases noInfinity

/-! ## Rounding -/

theorem mantissa_shiftRight (extended : ExtendedMantissa) (count : Nat) :
    (extended >>> count).mantissa = extended.mantissa / 2 ^ count := by
  change (Nat.repeat ExtendedMantissa.shiftRightOne count extended).mantissa = _
  induction count with
  | zero => rw [Nat.repeat, Nat.pow_zero, Nat.div_one]
  | succ count ih =>
      rw [Nat.repeat, ExtendedMantissa.shiftRightOne, ih, Nat.pow_succ, Nat.div_div_eq_div_mul]

theorem mantissa_ofMantissaAndAccuracy (mantissa : Nat) (accuracy : Accuracy) :
    (ExtendedMantissa.ofMantissaAndAccuracy mantissa accuracy).mantissa = mantissa := by
  rcases accuracy with _ | (_ | _ | _) <;> rfl

theorem roundedMantissa_le (extended : ExtendedMantissa) :
    extended.roundedMantissa ≤ extended.mantissa + 1 := by
  obtain ⟨mantissa, roundBit, stickyBit⟩ := extended
  have parity := Nat.mod_lt mantissa two_pos
  cases roundBit <;> cases stickyBit <;>
    simp only [ExtendedMantissa.roundedMantissa, ExtendedMantissa.accuracy,
      Accuracy.roundToNearestEven] <;> omega

theorem le_roundedMantissa (extended : ExtendedMantissa) :
    extended.mantissa ≤ extended.roundedMantissa := by
  obtain ⟨mantissa, roundBit, stickyBit⟩ := extended
  cases roundBit <;> cases stickyBit <;>
    simp only [ExtendedMantissa.roundedMantissa, ExtendedMantissa.accuracy,
      Accuracy.roundToNearestEven] <;> omega

/-- Shifting goes as far as the target exponent, and never back. -/
theorem shiftToTargetExponent_eq (mantissa : Nat) (exponent : Int) (accuracy : Accuracy) :
    shiftToTargetExponent .binary64 mantissa exponent accuracy =
      (ExtendedMantissa.ofMantissaAndAccuracy mantissa accuracy >>>
        (Format.binary64.targetExponent (totalExponent mantissa exponent) - exponent).toNat,
        max exponent (Format.binary64.targetExponent (totalExponent mantissa exponent))) := by
  rw [shiftToTargetExponent, shiftToExponent]
  congr 1
  omega

theorem shiftRight_lt_two_pow (mantissa count : Nat) :
    mantissa / 2 ^ count < 2 ^ (mantissa.log2 + 1 - count) := by
  rw [Nat.div_lt_iff_lt_mul (Nat.two_pow_pos count), ← Nat.pow_add]
  calc
    mantissa < 2 ^ (mantissa.log2 + 1) := Nat.lt_log2_self
    _ ≤ 2 ^ (mantissa.log2 + 1 - count + count) := Nat.pow_le_pow_right two_pos (by omega)

theorem log2_le_of_le {mantissa bits : Nat} (bound : mantissa ≤ 2 ^ bits) :
    mantissa.log2 ≤ bits := by
  by_cases zero : mantissa = 0
  · simp [zero]
  · have less : mantissa < 2 ^ (bits + 1) :=
      Nat.lt_of_le_of_lt bound (Nat.pow_lt_pow_right (by decide) (Nat.lt_succ_self bits))
    exact Nat.le_of_lt_succ ((Nat.log2_lt zero).mpr less)

theorem log2_div_le (dividend : Nat) {divisor : Nat} (positive : 0 < divisor) :
    (dividend / divisor).log2 ≤ dividend.log2 + 1 - divisor.log2 := by
  apply log2_le_of_le
  calc
    dividend / divisor
    _ ≤ dividend / 2 ^ divisor.log2 :=
      Nat.div_le_div_left (Nat.log2_self_le positive.ne') (Nat.two_pow_pos _)
    _ ≤ 2 ^ (dividend.log2 + 1 - divisor.log2) := (shiftRight_lt_two_pow dividend _).le

/-- Rounding adds at most one bit. -/
theorem small_roundWithAccuracy {mantissa : Nat} {exponent : Int} (low : exponent ≤ 971)
    (room : totalExponent mantissa exponent ≤ 1023) (sign : Sign) (accuracy : Accuracy) :
    Small (roundWithAccuracy .binary64 sign mantissa exponent accuracy) := by
  rw [roundWithAccuracy]
  dsimp only
  split_ifs with zero
  · trivial
  · change (shiftToTargetExponent .binary64 _ _ .exact).2 ≤ 971
    rw [shiftToTargetExponent_eq mantissa exponent accuracy, shiftToTargetExponent_eq]
    dsimp only
    -- The exponent after the first shift, and the bits of the mantissa before the second one.
    have target := targetExponent_binary64 (totalExponent mantissa exponent)
    generalize Format.binary64.targetExponent (totalExponent mantissa exponent) = first at target ⊢
    have bits : (ExtendedMantissa.ofMantissaAndAccuracy mantissa accuracy >>>
        (first - exponent).toNat).roundedMantissa.log2 ≤
          mantissa.log2 + 1 - (first - exponent).toNat := by
      apply log2_le_of_le
      refine Nat.le_trans (roundedMantissa_le _) ?_
      rw [mantissa_shiftRight, mantissa_ofMantissaAndAccuracy]
      exact shiftRight_lt_two_pow mantissa _
    rw [targetExponent_binary64, totalExponent]
    rw [totalExponent] at room target
    omega

theorem small_round {mantissa : Nat} {exponent : Int} (positive : 0 < mantissa)
    (room : totalExponent mantissa exponent ≤ 1023) (sign : Sign) :
    Small (UnpackedFloat.round .binary64 sign mantissa exponent) := by
  rw [UnpackedFloat.round, decreaseExponent]
  dsimp only
  have target := targetExponent_binary64 (totalExponent mantissa exponent)
  generalize Format.binary64.targetExponent (totalExponent mantissa exponent) = first at target ⊢
  rw [totalExponent] at room target
  apply small_roundWithAccuracy
  · omega
  · rw [totalExponent, Nat.shiftLeft_eq, log2_mul_two_pow positive]
    omega

theorem small_normalize {mantissa exponent : Int}
    (room : totalExponent mantissa.natAbs exponent ≤ 1023) (zeroSign : Sign) :
    Small (UnpackedFloat.normalize .binary64 mantissa exponent zeroSign) := by
  rw [UnpackedFloat.normalize]
  rcases lt_trichotomy mantissa 0 with negative | rfl | positive
  · have magnitude : (-mantissa).toNat = mantissa.natAbs := by omega
    rw [Int.compare_eq_lt.mpr negative]
    dsimp only
    rw [magnitude]
    exact small_round (by omega) room .negative
  · trivial
  · have magnitude : mantissa.toNat = mantissa.natAbs := by omega
    rw [Int.compare_eq_gt.mpr positive]
    dsimp only
    rw [magnitude]
    exact small_round (by omega) room .positive

/-! ## Operations -/

section

variable {first second : Float}

theorem isFinite_neg (finite : first.isFinite = true) : (-first).isFinite = true := by
  change (Float.ofModel (Float.Model.pack first.toModel.unpack.neg)).isFinite = true
  rcases unpack_cases finite with
    ⟨sign, zero⟩ | ⟨sign, mantissa, exponent, canonical, low, magnitude⟩
  · rw [zero]
    exact isFinite_of_small trivial
  · rw [magnitude]
    exact isFinite_of_small low

/-- A product of finite doubles is finite unless it is an infinity. -/
theorem isFinite_mul (finite : first.isFinite = true) (finite' : second.isFinite = true)
    (noInfinity : (first * second).isInf = false) : (first * second).isFinite = true := by
  refine isFinite_of_isInf_eq_false ?_ noInfinity
  rcases unpack_cases finite with ⟨sign, zero⟩ | ⟨sign, mantissa, exponent, canonical, _, magnitude⟩
  · rw [zero]
    rcases unpack_cases finite' with ⟨_, other⟩ | ⟨_, _, _, _, _, other⟩ <;> rw [other] <;> rfl
  · rw [magnitude]
    rcases unpack_cases finite' with ⟨_, other⟩ | ⟨_, _, _, _, _, other⟩
    · rw [other]
      rfl
    · rw [other, UnpackedFloat.mul, roundWithAccuracy]
      dsimp only
      split_ifs <;> rfl

/-- A divisor of at least four leaves room for rounding. -/
theorem isFinite_div (finite : first.isFinite = true) {divisor : Nat} {power : Int}
    {positive : 0 < divisor} (least : 3 ≤ totalExponent divisor power)
    (unpacked : second.toModel.unpack = .finite .positive divisor power positive) :
    (first / second).isFinite = true := by
  change (Float.ofModel (Float.Model.pack (UnpackedFloat.div .binary64 first.toModel.unpack
    second.toModel.unpack))).isFinite = true
  rw [unpacked]
  rcases unpack_cases finite with
    ⟨sign, zero⟩ | ⟨sign, mantissa, exponent, canonical, low, magnitude⟩
  · rw [zero]
    exact isFinite_of_small trivial
  · have bits : mantissa.log2 < 53 := (Nat.log2_lt canonical.positive.ne').mpr canonical.bound
    rw [magnitude, UnpackedFloat.div, divCore]
    dsimp only
    have target := targetExponent_binary64
      (totalExponent mantissa exponent - totalExponent divisor power)
    generalize Format.binary64.targetExponent
      (totalExponent mantissa exponent - totalExponent divisor power) = target' at target ⊢
    rw [totalExponent] at least target
    rw [totalExponent] at target
    refine isFinite_of_small (small_roundWithAccuracy (by omega) ?_ _ _)
    generalize amount : (exponent - power - min (exponent - power) target').toNat = count
    have quotient := log2_div_le (mantissa <<< count) positive
    rw [Nat.shiftLeft_eq, log2_mul_two_pow canonical.positive] at quotient
    rw [totalExponent, Nat.shiftLeft_eq]
    omega

theorem unpack_one_point_zero :
    (1.0 : Float).toModel.unpack = .finite .positive (2 ^ 52) (-52) (by decide) := by
  have same : (1.0 : Float) = Float.ofBits 0x3FF0000000000000 := by decide +kernel
  rw [same]
  exact unpack_one

/-- The sum of a magnitude and one, in units of the lesser exponent. -/
theorem add_one_eq (sign : Sign) (mantissa : Nat) (exponent : Int) (positive : 0 < mantissa) :
    UnpackedFloat.add .binary64 (.finite sign mantissa exponent positive)
        (.finite .positive (2 ^ 52) (-52) (by decide)) =
      UnpackedFloat.normalize .binary64
        (sign.apply ((mantissa * 2 ^ (exponent - min exponent (-52)).toNat : Nat) : Int) +
          ((2 ^ 52 * 2 ^ (-52 - min exponent (-52)).toNat : Nat) : Int))
        (min exponent (-52)) .positive := by
  rw [UnpackedFloat.add, decreaseExponent, decreaseExponent, Nat.shiftLeft_eq, Nat.shiftLeft_eq]
  rfl

theorem natAbs_apply (sign : Sign) (magnitude : Nat) :
    (sign.apply (magnitude : Int)).natAbs = magnitude := by
  cases sign
  · exact Int.natAbs_neg _
  · rfl

/-- The sum of a magnitude that is not large and one leaves room for rounding. -/
theorem small_add_one_of_le {mantissa : Nat} {exponent : Int}
    (canonical : Canonical mantissa exponent) (low : exponent ≤ 900) (sign : Sign) :
    Small (UnpackedFloat.add .binary64 (.finite sign mantissa exponent canonical.positive)
      (.finite .positive (2 ^ 52) (-52) (by decide))) := by
  rw [add_one_eq]
  apply small_normalize
  generalize count_eq : (exponent - min exponent (-52)).toNat = count
  generalize count_eq' : (-52 - min exponent (-52)).toNat = count'
  have bits : (sign.apply ((mantissa * 2 ^ count : Nat) : Int) +
      ((2 ^ 52 * 2 ^ count' : Nat) : Int)).natAbs.log2 ≤ 54 + max count count' := by
    apply log2_le_of_le
    calc
      (sign.apply ((mantissa * 2 ^ count : Nat) : Int) +
        ((2 ^ 52 * 2 ^ count' : Nat) : Int)).natAbs
      _ ≤ mantissa * 2 ^ count + 2 ^ 52 * 2 ^ count' := by
        refine Nat.le_trans (Int.natAbs_add_le _ _) ?_
        rw [natAbs_apply, Int.natAbs_natCast]
      _ ≤ 2 ^ 53 * 2 ^ max count count' + 2 ^ 53 * 2 ^ max count count' := by
        have first := Nat.pow_le_pow_right two_pos (Nat.le_max_left count count')
        have second := Nat.pow_le_pow_right two_pos (Nat.le_max_right count count')
        exact Nat.add_le_add (Nat.mul_le_mul canonical.bound.le first)
          (Nat.mul_le_mul (by decide) second)
      _ = 2 ^ (54 + max count count') := by
        rw [Nat.pow_add]
        ring
  rw [totalExponent]
  omega

/-- One is less than a quarter of the last bit of a large magnitude. -/
theorem near_add_one {mantissa : Nat} {exponent : Int} (high : 2 ≤ exponent) (sign : Sign) :
    Near mantissa exponent (mantissa * 2 ^ exponent + (sign.apply 1 : Int)) := by
  have power : (4 : ℚ) ≤ 2 ^ exponent := by
    calc
      (4 : ℚ) = 2 ^ (2 : Int) := by norm_num
      _ ≤ 2 ^ exponent := zpow_le_zpow_right₀ (by norm_num) high
  have unit : (mantissa * 2 ^ exponent + ((sign.apply 1 : Int) : ℚ)) / 2 ^ exponent =
      mantissa + ((sign.apply 1 : Int) : ℚ) / 2 ^ exponent := by
    field_simp
  have small : |((sign.apply 1 : Int) : ℚ) / 2 ^ exponent| ≤ 1 / 4 := by
    have one : |((sign.apply 1 : Int) : ℚ)| = 1 := by cases sign <;> norm_num [Sign.apply]
    rw [abs_div, one, abs_of_pos (two_zpow_pos exponent)]
    exact one_div_le_one_div_of_le (by norm_num) power
  obtain ⟨low, high⟩ := abs_le.mp small
  constructor
  · rw [unit]
    constructor
    · linarith
    · linarith
    · intro same
      linarith
    · intro same
      linarith
  · intro _ _
    rw [unit]
    linarith

theorem normalize_apply {magnitude : Nat} (positive : 0 < magnitude) (sign zeroSign : Sign)
    (exponent : Int) :
    UnpackedFloat.normalize .binary64 (sign.apply (magnitude : Int)) exponent zeroSign =
      UnpackedFloat.round .binary64 sign magnitude exponent := by
  rw [UnpackedFloat.normalize]
  cases sign with
  | negative =>
      have less : -(magnitude : Int) < 0 := by omega
      rw [Sign.apply, Int.compare_eq_lt.mpr less]
      dsimp only
      rw [neg_neg, Int.toNat_natCast]
  | positive =>
      have greater : (0 : Int) < magnitude := by omega
      rw [Sign.apply, Int.compare_eq_gt.mpr greater]
      rfl

/-- The sum of a large magnitude and one, in units of the last bit of one. -/
theorem exists_sum_with_one {mantissa : Nat} (full : 2 ^ 52 ≤ mantissa) (count : Nat)
    (sign : Sign) :
    ∃ given : Nat,
      sign.apply ((mantissa * 2 ^ (count + 52) : Nat) : Int) + 2 ^ 52 = sign.apply (given : Int) ∧
      2 ^ (count + 103) ≤ given ∧
      (given : Int) = (mantissa * 2 ^ (count + 52) : Nat) + sign.apply 1 * 2 ^ 52 := by
  have power : 2 ^ (count + 103) = 2 ^ 52 * 2 ^ (count + 51) := by ring
  have large : 2 ^ 53 * 2 ^ (count + 51) ≤ mantissa * 2 ^ (count + 52) := by
    calc
      2 ^ 53 * 2 ^ (count + 51) = 2 ^ 52 * 2 ^ (count + 52) := by ring
      _ ≤ mantissa * 2 ^ (count + 52) := Nat.mul_le_mul_right _ full
  have room : 1 ≤ 2 ^ (count + 51) := Nat.one_le_two_pow
  rw [power]
  generalize mantissa * 2 ^ (count + 52) = scaled at large ⊢
  generalize 2 ^ (count + 51) = half at large room ⊢
  cases sign with
  | positive => exact ⟨scaled + 2 ^ 52, by simp [Sign.apply], by omega, by simp [Sign.apply]⟩
  | negative =>
      refine ⟨scaled - 2 ^ 52, ?_, by omega, ?_⟩
      · simp only [Sign.apply]
        omega
      · simp only [Sign.apply]
        omega

/-- The sum of a large magnitude and one is that magnitude. -/
theorem add_one_of_lt {mantissa : Nat} {exponent : Int}
    (canonical : Canonical mantissa exponent) (high : 900 < exponent) (sign : Sign) :
    UnpackedFloat.add .binary64 (.finite sign mantissa exponent canonical.positive)
        (.finite .positive (2 ^ 52) (-52) (by decide)) =
      .finite sign mantissa exponent canonical.positive := by
  have full : 2 ^ 52 ≤ mantissa := by
    rcases canonical.normal with full | lowest
    · exact full
    · omega
  obtain ⟨count, rfl⟩ : ∃ count : Nat, exponent = count := ⟨exponent.toNat, by omega⟩
  have least : min (count : Int) (-52) = -52 := by omega
  have shifted : ((count : Int) - -52).toNat = count + 52 := by omega
  obtain ⟨given, sum, bits, value⟩ := exists_sum_with_one full count sign
  have positive : 0 < given := Nat.lt_of_lt_of_le (Nat.two_pow_pos _) bits
  have wide : count + 103 ≤ given.log2 := (Nat.le_log2 positive.ne').mpr bits
  have fine : -52 ≤ Format.binary64.targetExponent (totalExponent given (-52)) := by
    rw [targetExponent_binary64, totalExponent]
    omega
  have number : (given : ℚ) * 2 ^ (-52 : Int) =
      mantissa * 2 ^ (count : Int) + ((sign.apply 1 : Int) : ℚ) := by
    have exact : (given : ℚ) = (mantissa * 2 ^ (count + 52) : Nat) +
        ((sign.apply 1 : Int) : ℚ) * 2 ^ 52 := by exact_mod_cast value
    rw [exact, zpow_neg, zpow_natCast]
    push_cast
    rw [pow_add]
    field_simp
    ring
  have accurate := Accurate.of_magnitude given (-52)
  rw [number] at accurate
  have rounded := roundWithAccuracy_of_near (near_add_one (by omega) sign) canonical accurate fine
    sign
  have amount : (-52 - Format.binary64.targetExponent (totalExponent given (-52))).toNat = 0 := by
    omega
  rw [add_one_eq, least, shifted, sub_self, Int.toNat_zero, Nat.pow_zero, Nat.mul_one]
  change UnpackedFloat.normalize .binary64 (_ + 2 ^ 52) _ _ = _
  rw [sum, normalize_apply positive, UnpackedFloat.round, decreaseExponent, amount]
  exact rounded

/-- A finite double and one have a finite sum. -/
theorem isFinite_add_one (finite : first.isFinite = true) : (first + 1.0).isFinite = true := by
  change (Float.ofModel (Float.Model.pack (UnpackedFloat.add .binary64 first.toModel.unpack
    (1.0 : Float).toModel.unpack))).isFinite = true
  rw [unpack_one_point_zero]
  apply isFinite_of_small
  rcases unpack_cases finite with
    ⟨sign, zero⟩ | ⟨sign, mantissa, exponent, canonical, low, magnitude⟩
  · rw [zero]
    change (-52 : Int) ≤ 971
    decide
  · rw [magnitude]
    by_cases high : exponent ≤ 900
    · exact small_add_one_of_le canonical high sign
    · rw [add_one_of_lt canonical (not_le.mp high)]
      exact low

/-- An infinity stays as it is when one is added, and so does what is not a number. -/
theorem add_one_eq_self (infinite : ¬first.isFinite = true) : first + 1.0 = first := by
  have same : UnpackedFloat.add .binary64 first.toModel.unpack (1.0 : Float).toModel.unpack =
      first.toModel.unpack := by
    rw [unpack_one_point_zero]
    change ¬first.toModel.unpack.isFinite = true at infinite
    cases unpacked : first.toModel.unpack with
    | notANumber => rfl
    | infinity sign => rfl
    | zero sign =>
        rw [unpacked] at infinite
        exact absurd rfl infinite
    | finite sign mantissa exponent positive =>
        rw [unpacked] at infinite
        exact absurd rfl infinite
  change Float.ofModel (Float.Model.pack _) = first
  rw [same]
  exact ofModel_pack_unpack first

/-! ## Natural numbers -/

/-- A natural number of at most 128 bits is a finite double. -/
theorem isFinite_ofNat {number : Nat} (bound : number < 2 ^ 128) :
    (Float.ofNat number).isFinite = true := by
  by_cases zero : number = 0
  · rw [zero]
    decide +kernel
  have positive : 0 < number := Nat.pos_of_ne_zero zero
  by_cases few : number < 2 ^ 53
  · change (Float.ofNat number).toModel.unpack.isFinite = true
    rw [unpack_ofNat positive few]
    rfl
  · have large : ¬(number < 2 ^ 53 ∧ 0 ≤ 22) := fun both => few both.1
    have bits : number.log2 < 128 := (Nat.log2_lt zero).mpr bound
    have power : (2 : Int) ^ Format.binary64.exponentBits = 2048 := rfl
    have width : Format.binary64.mantissaBits = 53 := rfl
    have none : Int.ofNat 0 = 0 := rfl
    change (Float.ofScientific number false 0).isFinite = true
    rw [Float.ofScientific, dif_neg large]
    dsimp only
    rw [if_neg Bool.false_ne_true, none, Float.Model.ofScientific, UnpackedFloat.ofScientific,
      dif_neg zero, power, if_neg (by decide), if_neg (by omega), if_pos (by decide),
      UnpackedFloat.mul, Nat.shiftLeft_eq, Int.toNat_zero, Nat.pow_zero, Nat.mul_one, add_zero,
      width, sign_mul_positive]
    refine isFinite_of_small (small_roundWithAccuracy (by decide) ?_ _ _)
    rw [totalExponent, log2_mul_two_pow positive]
    push_cast
    omega

/-! ## Powers of ten -/

/-- A magnitude with enough bits is rounded to fifty-three of them, in its own units or in the
next ones. -/
theorem exists_roundWithAccuracy {mantissa : Nat} {exponent : Int} (positive : 0 < mantissa)
    (fine : exponent ≤ totalExponent mantissa exponent - 53)
    (least : -1074 ≤ totalExponent mantissa exponent - 53) (sign : Sign) (accuracy : Accuracy) :
    ∃ (rounded : Nat) (last : Int) (canonical : Canonical rounded last),
      roundWithAccuracy .binary64 sign mantissa exponent accuracy =
        .finite sign rounded last canonical.positive ∧ 2 ^ 52 ≤ rounded ∧
      totalExponent mantissa exponent - 53 ≤ last ∧
        last ≤ totalExponent mantissa exponent - 52 := by
  obtain ⟨count, bits, last_eq⟩ : ∃ count : Nat, mantissa.log2 = count + 52 ∧
      totalExponent mantissa exponent - 53 = exponent + count := by
    rw [totalExponent] at fine ⊢
    exact ⟨mantissa.log2 - 52, by omega, by omega⟩
  rw [last_eq] at least ⊢
  have target : Format.binary64.targetExponent (totalExponent mantissa exponent) =
      exponent + count := by
    rw [targetExponent_binary64, last_eq]
    omega
  have first := shiftToTargetExponent_eq mantissa exponent accuracy
  have amount : (exponent + count - exponent).toNat = count := by omega
  rw [target, amount, max_eq_right (by omega)] at first
  -- Fifty-three bits are left, and rounding may carry into one more.
  have low :=
    le_roundedMantissa (ExtendedMantissa.ofMantissaAndAccuracy mantissa accuracy >>> count)
  have high := roundedMantissa_le
    (ExtendedMantissa.ofMantissaAndAccuracy mantissa accuracy >>> count)
  rw [mantissa_shiftRight, mantissa_ofMantissaAndAccuracy] at low high
  have upper := shiftRight_lt_two_pow mantissa count
  rw [bits, show count + 52 + 1 - count = 53 by omega] at upper
  have lower : 2 ^ 52 ≤ mantissa / 2 ^ count := by
    rw [Nat.le_div_iff_mul_le (Nat.two_pow_pos count), ← Nat.pow_add, Nat.add_comm, ← bits]
    exact Nat.log2_self_le positive.ne'
  generalize rounds : (ExtendedMantissa.ofMantissaAndAccuracy mantissa accuracy >>>
    count).roundedMantissa = rounded at low high
  by_cases carry : rounded < 2 ^ 53
  · have canonical : Canonical rounded (exponent + count) :=
      ⟨by omega, carry, least, .inl (by omega)⟩
    exact ⟨rounded, exponent + count, canonical, roundWithAccuracy_of_shifted first rounds
      canonical.shiftToTargetExponent_eq rfl canonical.positive, by omega, by omega, by omega⟩
  · obtain rfl : rounded = 2 ^ 53 := by omega
    have canonical : Canonical (2 ^ 52) (exponent + count + 1) :=
      ⟨by decide, by decide, by omega, .inl (by decide)⟩
    exact ⟨2 ^ 52, exponent + count + 1, canonical, roundWithAccuracy_of_shifted first rounds
      (shiftToTargetExponent_carry least) rfl canonical.positive, by decide, by omega, by omega⟩

/-- A power of ten that is not exact is rounded to a double. -/
theorem tenPower_eq_roundWithAccuracy {count : Nat} (large : 22 < count) (bound : count ≤ 308) :
    tenPower count = Float.ofModel (Float.Model.pack
      (roundWithAccuracy .binary64 .positive (10 ^ count * 2 ^ 53) (-53) .exact)) := by
  have slow : ¬(1 < 2 ^ 53 ∧ count ≤ 22) := fun both => absurd both.2 (not_le.mpr large)
  have power : (2 : Int) ^ Format.binary64.exponentBits = 2048 := rfl
  have width : Format.binary64.mantissaBits = 53 := rfl
  have places : Int.ofNat count = count := rfl
  have swapped : 2 ^ 53 * 10 ^ count = 10 ^ count * 2 ^ 53 := Nat.mul_comm _ _
  rw [tenPower, Float.ofScientific, dif_neg slow]
  dsimp only
  rw [if_neg Bool.false_ne_true, places, Float.Model.ofScientific, UnpackedFloat.ofScientific,
    dif_neg Nat.one_ne_zero, power, if_neg (by omega), if_neg (by omega), if_pos (by omega),
    UnpackedFloat.mul, Nat.shiftLeft_eq, Int.toNat_natCast, Nat.one_mul, add_zero, width,
    sign_mul_positive, swapped]
  rfl

theorem canonical_last : Canonical 5010420900022432 971 := by
  constructor <;> decide

/-- The last power of ten that is not an infinity. -/
theorem tenPower_last : tenPower 308 = canonical_last.double .positive := by
  decide +kernel

/-- The powers of ten that literals are scaled by are finite, and all but the first are at least
four. -/
theorem exists_tenPower {count : Nat} (some_places : 0 < count) (bound : count ≤ 308) :
    ∃ (mantissa : Nat) (exponent : Int) (positive : 0 < mantissa),
      (tenPower count).toModel.unpack = .finite .positive mantissa exponent positive ∧
        3 ≤ totalExponent mantissa exponent := by
  by_cases small : count ≤ 22
  · obtain ⟨mantissa, exponent, positive, unpacked, value⟩ := unpack_tenPower small
    refine ⟨mantissa, exponent, positive, unpacked, ?_⟩
    have bits : (mantissa : ℚ) < 2 ^ ((mantissa.log2 : ℤ) + 1) := by
      exact_mod_cast (Nat.lt_log2_self : mantissa < 2 ^ (mantissa.log2 + 1))
    have less : (2 : ℚ) ^ (3 : ℤ) < 2 ^ totalExponent mantissa exponent := by
      calc
        (2 : ℚ) ^ (3 : ℤ) ≤ 10 ^ 1 := by norm_num
        _ ≤ 10 ^ count := pow_le_pow_right₀ (by norm_num) some_places
        _ = mantissa * 2 ^ exponent := value.symm
        _ < 2 ^ ((mantissa.log2 : ℤ) + 1) * 2 ^ exponent :=
          mul_lt_mul_of_pos_right bits (two_zpow_pos exponent)
        _ = 2 ^ totalExponent mantissa exponent := (zpow_add₀ (by norm_num) _ _).symm
    exact (lt_of_two_zpow_lt less).le
  by_cases last : count = 308
  · subst last
    rw [tenPower_last]
    exact ⟨_, _, canonical_last.positive, canonical_last.unpack_double .positive (by decide),
      by decide⟩
  · have positive : 0 < 10 ^ count * 2 ^ 53 := by positivity
    have bits : (10 ^ count * 2 ^ 53).log2 = (10 ^ count).log2 + 53 :=
      log2_mul_two_pow (by positivity) 53
    have few : (10 ^ count).log2 < 1020 := by
      apply (Nat.log2_lt (by positivity)).mpr
      calc
        10 ^ count ≤ 10 ^ 307 := Nat.pow_le_pow_right (by decide) (by omega)
        _ < 2 ^ 1020 := by decide +kernel
    have many : 3 ≤ (10 ^ count).log2 := by
      apply (Nat.le_log2 (by positivity)).mpr
      calc
        2 ^ 3 ≤ 10 ^ 1 := by decide
        _ ≤ 10 ^ count := Nat.pow_le_pow_right (by decide) some_places
    have total : totalExponent (10 ^ count * 2 ^ 53) (-53) = (10 ^ count).log2 + 1 := by
      rw [totalExponent, bits]
      omega
    obtain ⟨rounded, exponent, canonical, round_eq, full, low, high⟩ :=
      @exists_roundWithAccuracy _ (-53) positive (by omega) (by omega) .positive .exact
    refine ⟨rounded, exponent, canonical.positive, ?_, ?_⟩
    · rw [tenPower_eq_roundWithAccuracy (not_le.mp small) bound, round_eq]
      exact canonical.unpack_double .positive (by omega)
    · have := (Nat.le_log2 canonical.positive.ne').mpr full
      rw [totalExponent]
      omega

end

end RouterTelemetry.Decimal
