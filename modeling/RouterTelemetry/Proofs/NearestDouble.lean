import RouterTelemetry.Proofs.NearestRounding

/-!
# The nearest double

A decimal that is nearer to a double than to any other is read as that double, whichever way its
digits and its power of ten are combined.
-/

namespace RouterTelemetry.Decimal

open Float.Model UnpackedFloat

/-! ## Doubles of canonical magnitudes -/

/-- A double is what it is unpacked into. -/
theorem ofModel_pack_unpack (value : Float) :
    Float.ofModel (Float.Model.pack value.toModel.unpack) = value :=
  Float.ofBits_toBits value

theorem toNat_ofNat_of_lt {width value : Nat} (fits : value < 2 ^ width) :
    (BitVec.ofNat width value).toNat = value := by
  rw [BitVec.toNat_ofNat, Nat.mod_eq_of_lt fits]

/-- The fields of a magnitude with a hidden bit. -/
theorem unpack_normal {stored fraction : Nat} (sign : Sign) (some_exponent : 0 < stored)
    (ordinary : stored < 2047) (bound : fraction < 2 ^ 52) :
    UnpackedFloat.unpack .binary64
        (packComponents .binary64 sign (BitVec.ofNat _ stored) (BitVec.ofNat _ fraction)) =
      .finite sign (2 ^ 52 + fraction) (stored - 1075) (by positivity) := by
  have fits : (BitVec.ofNat 11 stored).toNat = stored := toNat_ofNat_of_lt (by omega)
  have finite : BitVec.ofNat 11 stored ≠ -1#11 := by
    intro same
    have := congrArg BitVec.toNat same
    rw [fits] at this
    exact absurd this (by simp; omega)
  have hidden : BitVec.ofNat 11 stored ≠ 0#11 := by
    intro same
    have := congrArg BitVec.toNat same
    rw [fits] at this
    exact absurd this some_exponent.ne'
  unfold UnpackedFloat.unpack
  simp only [unpackExponent_packComponents, unpackMantissa_packComponents,
    unpackSign_packComponents, Sign.ofBitVec_toBitVec, if_neg finite, if_neg hidden, fits]
  congr 1
  rw [toNat_one_append, toNat_ofNat_of_lt bound]

/-- The fields of a magnitude without a hidden bit. -/
theorem unpack_subnormal {fraction : Nat} (sign : Sign) (positive : 0 < fraction)
    (bound : fraction < 2 ^ 52) :
    UnpackedFloat.unpack .binary64
        (packComponents .binary64 sign 0#_ (BitVec.ofNat _ fraction)) =
      .finite sign fraction (-1074) positive := by
  have fits : (BitVec.ofNat 52 fraction).toNat = fraction := toNat_ofNat_of_lt bound
  have nonzero : BitVec.ofNat 52 fraction ≠ 0#52 := by
    intro same
    have := congrArg BitVec.toNat same
    rw [fits] at this
    exact absurd this positive.ne'
  unfold UnpackedFloat.unpack
  simp only [unpackExponent_packComponents, unpackMantissa_packComponents,
    unpackSign_packComponents, Sign.ofBitVec_toBitVec, dif_neg nonzero, fits]
  rfl

section

variable {mantissa : Nat} {exponent : Int}

/-- The double of a canonical magnitude with a sign. -/
def Canonical.double (canonical : Canonical mantissa exponent) (sign : Sign) : Float :=
  Float.ofModel (Float.Model.pack (.finite sign mantissa exponent canonical.positive))

/-- A canonical magnitude that is not too large is unpacked as it was packed. -/
theorem Canonical.unpack_double (canonical : Canonical mantissa exponent) (sign : Sign)
    (most : exponent ≤ 971) :
    (canonical.double sign).toModel.unpack =
      .finite sign mantissa exponent canonical.positive := by
  obtain ⟨positive, bound, least, normal⟩ := canonical
  obtain ⟨stored, rfl⟩ : ∃ stored : Nat, exponent = stored - 1075 :=
    ⟨(exponent + 1075).toNat, by omega⟩
  have biased : ((stored : Int) - 1075 + (Format.binary64.exponentBias : Int) +
      Format.binary64.mantissaBitsWithoutImplicit).toNat = stored := by
    have bias : (Format.binary64.exponentBias : Int) = 1023 := rfl
    have width : (Format.binary64.mantissaBitsWithoutImplicit : Int) = 52 := rfl
    omega
  have ordinary : ¬2 ^ Format.binary64.exponentBits ≤ stored + 1 := by
    change ¬2 ^ 11 ≤ stored + 1
    omega
  change UnpackedFloat.unpack .binary64 (UnpackedFloat.pack .binary64 _) = _
  rw [UnpackedFloat.pack]
  dsimp only
  rw [biased, if_neg ordinary]
  by_cases full : 2 ^ 52 ≤ mantissa
  · have bits : mantissa.log2 + 1 = Format.binary64.mantissaBits := by
      have := (Nat.le_log2 positive.ne').mpr full
      have := (Nat.log2_lt positive.ne').mpr bound
      change mantissa.log2 + 1 = 53
      omega
    obtain ⟨fraction, rfl⟩ := Nat.exists_eq_add_of_le full
    have dropped : BitVec.ofNat 52 (2 ^ 52 + fraction) = BitVec.ofNat 52 fraction := by
      apply BitVec.eq_of_toNat_eq
      simp
    rw [if_pos bits, dropped]
    exact unpack_normal sign (by omega) (by omega) (by omega)
  · have bits : mantissa.log2 + 1 ≠ Format.binary64.mantissaBits := by
      have := (Nat.log2_lt positive.ne').mpr (not_le.mp full)
      change mantissa.log2 + 1 ≠ 53
      omega
    have lowest : stored = 1 := by omega
    subst lowest
    rw [if_neg bits]
    exact unpack_subnormal sign positive (by omega)

/-- The two doubles of a magnitude differ in their sign. -/
theorem Canonical.signed_double (canonical : Canonical mantissa exponent) (most : exponent ≤ 971)
    (negative : Bool) :
    signed negative (canonical.double .positive) =
      canonical.double (if negative then .negative else .positive) := by
  cases negative with
  | false => rfl
  | true =>
      change Float.ofModel (Float.Model.pack (canonical.double .positive).toModel.unpack.neg) = _
      rw [canonical.unpack_double .positive most]
      rfl

/-! ## Natural numbers -/

/-- A natural number with the bits of a double. -/
theorem canonical_of_nat {digits : Nat} (positive : 0 < digits) (few : digits < 2 ^ 53) :
    Canonical (digits * 2 ^ (52 - digits.log2)) (digits.log2 - 52) := by
  have bits : digits.log2 < 53 := (Nat.log2_lt positive.ne').mpr few
  have scaled : (digits * 2 ^ (52 - digits.log2)).log2 = 52 := by
    rw [log2_mul_two_pow positive]
    omega
  have product : digits * 2 ^ (52 - digits.log2) ≠ 0 := by positivity
  constructor
  · positivity
  · exact (Nat.log2_lt product).mp (by omega)
  · omega
  · exact .inl ((Nat.le_log2 product).mp scaled.ge)

/-- Rounding a natural number writes it with more bits first. -/
theorem ofUInt64_eq_roundWithAccuracy {digits : Nat} (positive : 0 < digits)
    (few : digits < 2 ^ 53) :
    UnpackedFloat.ofUInt64 .binary64 digits.toUInt64 =
      roundWithAccuracy .binary64 .positive (digits * 2 ^ (52 - digits.log2))
        (digits.log2 - 52) .exact := by
  have bits : digits.log2 < 53 := (Nat.log2_lt positive.ne').mpr few
  have fits : digits.toUInt64.toNat = digits := Nat.mod_eq_of_lt (by omega)
  have greater : compare (digits : Int) 0 = .gt := Int.compare_eq_gt.mpr (by omega)
  have amount : (0 - max ((digits.log2 : Int) + 1 + 0 - 53) (-1074)).toNat = 52 - digits.log2 := by
    omega
  have start : (0 : Int) - (52 - digits.log2 : Nat) = digits.log2 - 52 := by omega
  rw [UnpackedFloat.ofUInt64, UnpackedFloat.ofNat, UnpackedFloat.ofInt, UnpackedFloat.normalize,
    fits,
    greater]
  dsimp only
  rw [Int.toNat_natCast, UnpackedFloat.round]
  dsimp only
  rw [targetExponent_binary64, totalExponent, decreaseExponent]
  dsimp only
  rw [amount, start, Nat.shiftLeft_eq]

/-- A natural number is unpacked into fifty-three bits. -/
theorem unpack_ofNat {digits : Nat} (positive : 0 < digits) (few : digits < 2 ^ 53) :
    (Float.ofNat digits).toModel.unpack =
      .finite .positive (digits * 2 ^ (52 - digits.log2)) (digits.log2 - 52)
        (canonical_of_nat positive few).positive := by
  have canonical := canonical_of_nat positive few
  have bits : digits.log2 < 53 := (Nat.log2_lt positive.ne').mpr few
  have rounded := roundWithAccuracy_of_aimed canonical.aimed canonical.positive .positive 0
  rw [Nat.pow_zero, Nat.mul_one, Nat.cast_zero, sub_zero] at rounded
  rw [ofNat_eq_of_lt few, ← canonical.unpack_double .positive (by omega), Canonical.double,
    ← rounded, ← ofUInt64_eq_roundWithAccuracy positive few]
  rfl

/-- The value of a natural number that is written with more bits. -/
theorem scaled_nat_eq {digits : Nat} (few : digits < 2 ^ 53) (positive : 0 < digits) :
    ((digits * 2 ^ (52 - digits.log2) : Nat) : ℚ) * 2 ^ ((digits.log2 : Int) - 52) = digits := by
  have bits : digits.log2 < 53 := (Nat.log2_lt positive.ne').mpr few
  have negated : (digits.log2 : Int) - 52 = -((52 - digits.log2 : Nat) : Int) := by omega
  rw [negated, zpow_neg, zpow_natCast]
  push_cast
  field_simp

/-! ## Decimals -/

/-- A natural number near to a double is read as it. -/
theorem ofScientific_zero_of_near {digits : Nat} (near : Near mantissa exponent digits)
    (canonical : Canonical mantissa exponent) (positive : 0 < digits) :
    Float.ofScientific digits false 0 = canonical.double .positive := by
  by_cases few : digits < 2 ^ 53
  · have written := canonical_of_nat positive few
    have accurate := Accurate.of_magnitude (digits * 2 ^ (52 - digits.log2)) (digits.log2 - 52)
    rw [scaled_nat_eq few positive] at accurate
    have rounded := roundWithAccuracy_of_near near canonical accurate written.aimed.ge .positive
    change Float.ofNat digits = _
    rw [ofNat_eq_of_lt few, Canonical.double, ← rounded,
      ← ofUInt64_eq_roundWithAccuracy positive few]
    rfl
  · have accurate := Accurate.of_magnitude (digits * 2 ^ 53) (-53)
    have unscaled : ((digits * 2 ^ 53 : Nat) : ℚ) * 2 ^ (-53 : Int) = digits := by
      push_cast
      rw [zpow_neg]
      field_simp
      norm_num
    rw [unscaled] at accurate
    have fine : (-53 : Int) ≤
        Format.binary64.targetExponent (totalExponent (digits * 2 ^ 53) (-53)) := by
      rw [targetExponent_binary64, totalExponent, log2_mul_two_pow positive]
      push_cast
      omega
    have rounded := roundWithAccuracy_of_near near canonical accurate fine .positive
    have large : ¬(digits < 2 ^ 53 ∧ 0 ≤ 22) := fun both => few both.1
    rw [Float.ofScientific, dif_neg large, Canonical.double, ← rounded]
    dsimp only
    have power : (2 : Int) ^ Format.binary64.exponentBits = 2048 := rfl
    have width : Format.binary64.mantissaBits = 53 := rfl
    have none : Int.ofNat 0 = 0 := rfl
    rw [if_neg Bool.false_ne_true, none, Float.Model.ofScientific, UnpackedFloat.ofScientific,
      dif_neg positive.ne', power, if_neg (by decide), if_neg (by omega), if_pos (by decide),
      UnpackedFloat.mul, Nat.shiftLeft_eq, Int.toNat_zero, Nat.pow_zero, Nat.mul_one, add_zero,
      width, sign_mul_positive]
    rfl

/-- A small power of ten is exact: its odd part has at most fifty-three bits. -/
theorem unpack_tenPower {count : Nat} (small : count ≤ 22) :
    ∃ (divisor : Nat) (second : Int) (positive : 0 < divisor),
      (tenPower count).toModel.unpack = .finite .positive divisor second positive ∧
        (divisor : ℚ) * 2 ^ second = 10 ^ count := by
  have table : ∀ count : Fin 23, 5 ^ count.val < 2 ^ 53 ∧
      tenPower count = Float.ofModel (Float.Model.pack (.finite .positive
        (5 ^ count.val * 2 ^ (52 - (5 ^ count.val).log2)) ((5 ^ count.val).log2 - 52 + count.val)
        (by positivity))) := by
    decide +kernel
  obtain ⟨few, stored⟩ := table ⟨count, Nat.lt_succ_of_le small⟩
  dsimp only at few stored
  have positive : 0 < 5 ^ count := by positivity
  have odd := canonical_of_nat positive few
  have bits : (5 ^ count).log2 < 53 := (Nat.log2_lt positive.ne').mpr few
  have canonical : Canonical (5 ^ count * 2 ^ (52 - (5 ^ count).log2))
      ((5 ^ count).log2 - 52 + count) := by
    constructor
    · exact odd.positive
    · exact odd.bound
    · omega
    · left
      have := odd.normal
      omega
  refine ⟨_, (5 ^ count).log2 - 52 + count, canonical.positive, ?_, ?_⟩
  · rw [stored]
    exact canonical.unpack_double .positive (by omega)
  · rw [zpow_add₀ (by norm_num), ← mul_assoc, scaled_nat_eq few positive, zpow_natCast]
    push_cast
    rw [← mul_pow]
    norm_num

/-- A fraction near to a double is read as it. -/
theorem ofScientific_of_near {digits count : Nat}
    (near : Near mantissa exponent (digits / 10 ^ count))
    (canonical : Canonical mantissa exponent) (positive : 0 < digits) (some_places : 0 < count)
    (few_places : count ≤ 2 ^ 11 + digits.log2) :
    Float.ofScientific digits true count = canonical.double .positive := by
  by_cases few : digits < 2 ^ 53 ∧ count ≤ 22
  · obtain ⟨divisor, second, positive', unpacked, power⟩ := unpack_tenPower few.2
    have scaled := scaled_nat_eq few.1 positive
    have quotient : ((digits : ℚ) / 10 ^ count) * (divisor * 2 ^ second) =
        (digits * 2 ^ (52 - digits.log2) : Nat) * 2 ^ ((digits.log2 : Int) - 52) := by
      rw [power, scaled]
      field_simp
    have divided := div_of_near near canonical (canonical_of_nat positive few.1).positive positive'
      quotient .positive .positive
    rw [ofScientific_of_few few.1 few.2, if_pos rfl]
    change Float.ofModel (Float.Model.pack (UnpackedFloat.div .binary64
      (Float.ofNat digits).toModel.unpack (tenPower count).toModel.unpack)) = _
    rw [unpack_ofNat positive few.1, unpacked, divided]
    rfl
  · have quotient : ((digits : ℚ) / 10 ^ count) * ((10 ^ count : Nat) * 2 ^ (0 : Int)) =
        digits * 2 ^ (0 : Int) := by
      push_cast
      field_simp
    have divided := div_of_near near canonical positive (Nat.pow_pos (by decide)) quotient
      .positive .positive
    have places : Int.negOfNat count = -(count : Int) := by cases count <;> rfl
    have power : (2 : Int) ^ Format.binary64.exponentBits = 2048 := rfl
    rw [Float.ofScientific, dif_neg few]
    dsimp only
    rw [if_pos rfl, Float.Model.ofScientific, UnpackedFloat.ofScientific, dif_neg positive.ne',
      places, power, if_neg (by omega), if_neg (by omega), if_neg (by omega)]
    simp only [neg_neg, Int.toNat_natCast]
    rw [divided]
    rfl

/-! ## The range of doubles -/

theorem two_zpow_le_ten_zpow (count : Nat) : (2 : ℚ) ^ (3 * count : Int) ≤ 10 ^ (count : Int) := by
  rw [zpow_mul, zpow_natCast, zpow_natCast]
  exact pow_le_pow_left₀ (by norm_num) (by norm_num) count

theorem lt_of_ten_zpow_lt {first second : Int} (less : (10 : ℚ) ^ first < 10 ^ second) :
    first < second :=
  (zpow_lt_zpow_iff_right₀ (by norm_num)).mp less

/-- No number near to a double is far from one: four hundred places are enough for all. -/
theorem Near.places {number : ℚ} {top : Int} (near : Near mantissa exponent number)
    (canonical : Canonical mantissa exponent) (most : exponent ≤ 971)
    (low : (10 : ℚ) ^ (top - 1) ≤ number) (high : number < 10 ^ top) : top ≤ 400 ∧ -400 < top := by
  have least := canonical.least
  have above : top - 1 < 400 := by
    apply lt_of_ten_zpow_lt
    calc
      (10 : ℚ) ^ (top - 1)
      _ ≤ number := low
      _ < 2 ^ (53 + exponent) := near.lt_two_zpow canonical
      _ ≤ 2 ^ (3 * (400 : Nat) : Int) := zpow_le_zpow_right₀ (by norm_num) (by omega)
      _ ≤ 10 ^ (400 : Int) := two_zpow_le_ten_zpow 400
  have below : -400 < top := by
    apply lt_of_ten_zpow_lt
    calc
      (10 : ℚ) ^ (-400 : Int)
      _ ≤ 2 ^ (-(3 * (400 : Nat)) : Int) := by
        rw [zpow_neg, zpow_neg]
        exact inv_anti₀ (two_zpow_pos _) (two_zpow_le_ten_zpow 400)
      _ ≤ 2 ^ (exponent - 1) := zpow_le_zpow_right₀ (by norm_num) (by omega)
      _ ≤ number := near.two_zpow_le canonical
      _ < 10 ^ top := high
  exact ⟨by omega, below⟩

/-- The digits of a natural number tell its power of ten. -/
theorem ten_pow_le_of_digits {digits : Nat} (positive : 0 < digits) :
    10 ^ ((Nat.toDigits 10 digits).length - 1) ≤ digits ∧
      digits < 10 ^ (Nat.toDigits 10 digits).length := by
  have some_digits : 0 < (Nat.toDigits 10 digits).length := Nat.length_toDigits_pos
  constructor
  · by_contra less
    rcases Nat.eq_zero_or_pos ((Nat.toDigits 10 digits).length - 1) with none | more
    · rw [none] at less
      omega
    · have := (Nat.length_toDigits_le_iff (by decide) more).mpr (not_le.mp less)
      omega
  · exact (Nat.length_toDigits_le_iff (by decide) some_digits).mp le_rfl

theorem ten_zpow_le_of_digits {digits : Nat} (positive : 0 < digits) (power : Int) :
    (10 : ℚ) ^ (((Nat.toDigits 10 digits).length : Int) + power - 1) ≤ digits * 10 ^ power ∧
      (digits : ℚ) * 10 ^ power < 10 ^ (((Nat.toDigits 10 digits).length : Int) + power) := by
  have ten : (10 : ℚ) ≠ 0 := by norm_num
  have unit : (0 : ℚ) < 10 ^ power := zpow_pos (by norm_num) power
  have some_digits : 0 < (Nat.toDigits 10 digits).length := Nat.length_toDigits_pos
  obtain ⟨low, high⟩ := ten_pow_le_of_digits positive
  constructor
  · rw [add_sub_right_comm, zpow_add₀ ten, ← Nat.cast_pred some_digits, zpow_natCast]
    exact mul_le_mul_of_nonneg_right (by exact_mod_cast low) unit.le
  · rw [zpow_add₀ ten, zpow_natCast]
    exact mul_lt_mul_of_pos_right (by exact_mod_cast high) unit

theorem length_toDigits_le_log2 {digits : Nat} (positive : 0 < digits) :
    (Nat.toDigits 10 digits).length ≤ digits.log2 + 1 := by
  have power : 2 ^ ((Nat.toDigits 10 digits).length - 1) ≤ digits :=
    (Nat.pow_le_pow_left (by decide) _).trans (ten_pow_le_of_digits positive).1
  have := (Nat.le_log2 positive.ne').mpr power
  omega

/-- A decimal near to a double is read as it. -/
theorem nearest_eq_of_near {digits : Nat} {power : Int}
    (near : Near mantissa exponent (digits * 10 ^ power))
    (canonical : Canonical mantissa exponent) (most : exponent ≤ 971) (positive : 0 < digits)
    (whole : power ≤ 0) : nearest digits power = canonical.double .positive := by
  obtain ⟨count, rfl⟩ : ∃ count : Nat, power = -count := ⟨power.natAbs, by omega⟩
  obtain ⟨low, high⟩ := ten_zpow_le_of_digits positive (-count : Int)
  obtain ⟨least, greatest⟩ := near.places canonical most low high
  have bits := length_toDigits_le_log2 positive
  rw [nearest, if_neg positive.ne', if_neg (by omega), if_neg (by omega), Int.natAbs_neg,
    Int.natAbs_natCast]
  rw [zpow_neg, zpow_natCast, ← div_eq_mul_inv] at near
  rcases Nat.eq_zero_or_pos count with rfl | places
  · rw [pow_zero, div_one] at near
    exact ofScientific_zero_of_near near canonical positive
  · rw [decide_eq_true (by omega)]
    exact ofScientific_of_near near canonical positive places (by omega)

end

end RouterTelemetry.Decimal
