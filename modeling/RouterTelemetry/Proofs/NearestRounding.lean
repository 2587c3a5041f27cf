import Mathlib
import RouterTelemetry.Proofs.ExactScaling

/-!
# Rounding to the nearest double

Rounding shifts a mantissa to the exponent that it aims at and keeps of the bits shifted out what
decides between the two neighbours.  So a number nearer to a double than to any other is rounded to
it, whatever mantissa and accuracy the number was given by.
-/

namespace RouterTelemetry.Decimal

open Float.Model UnpackedFloat

/-! ## Accuracy -/

/-- A mantissa and its accuracy tell where a number is between the mantissa and the next one. -/
inductive Accurate (mantissa : Nat) (number : ℚ) : Accuracy → Prop where
  | exact (same : number = mantissa) : Accurate mantissa number .exact
  | lower (above : mantissa < number) (below : number < mantissa + 1 / 2) :
      Accurate mantissa number (.inexact .lt)
  | half (same : number = mantissa + 1 / 2) : Accurate mantissa number (.inexact .eq)
  | upper (above : mantissa + 1 / 2 < number) (below : number < mantissa + 1) :
      Accurate mantissa number (.inexact .gt)

section

variable {mantissa : Nat} {number : ℚ} {accuracy : Accuracy}

theorem Accurate.le (accurate : Accurate mantissa number accuracy) : (mantissa : ℚ) ≤ number := by
  cases accurate <;> linarith

theorem Accurate.lt_succ (accurate : Accurate mantissa number accuracy) :
    number < mantissa + 1 := by
  cases accurate <;> linarith

/-- No other natural number is nearer, and if one is as near, then this one is even. -/
structure Closest (mantissa : Nat) (number : ℚ) : Prop where
  lower : (mantissa : ℚ) - 1 / 2 ≤ number
  upper : number ≤ mantissa + 1 / 2
  even_of_lower : number = mantissa - 1 / 2 → mantissa % 2 = 0
  even_of_upper : number = mantissa + 1 / 2 → mantissa % 2 = 0

theorem Closest.self (mantissa : Nat) : Closest mantissa mantissa := by
  constructor
  · linarith
  · linarith
  · intro same
    linarith
  · intro same
    linarith

/-- The closest natural number is what rounding gives. -/
theorem Accurate.round_eq {closest : Nat} (accurate : Accurate mantissa number accuracy)
    (near : Closest closest number) : accuracy.roundToNearestEven mantissa = closest := by
  have lower := near.lower
  have upper := near.upper
  cases accurate with
  | exact same =>
      have below : (closest : ℚ) < mantissa + 1 := by linarith
      have above : (mantissa : ℚ) < closest + 1 := by linarith
      norm_cast at below above
      rw [Accuracy.roundToNearestEven]
      omega
  | lower exceeds _ =>
      have below : (closest : ℚ) < mantissa + 1 := by linarith
      have above : (mantissa : ℚ) < closest + 1 := by linarith
      norm_cast at below above
      rw [Accuracy.roundToNearestEven]
      omega
  | half same =>
      have below : (closest : ℚ) ≤ mantissa + 1 := by linarith
      have above : (mantissa : ℚ) ≤ closest := by linarith
      norm_cast at below above
      rw [Accuracy.roundToNearestEven]
      rcases Nat.le_iff_lt_or_eq.mp above with less | rfl
      · -- The number is halfway below its closest one.
        have succ : closest = mantissa + 1 := by omega
        have even := near.even_of_lower (by rw [same, succ]; push_cast; ring)
        omega
      · have even := near.even_of_upper same
        omega
  | upper exceeds _ =>
      have below : (closest : ℚ) < mantissa + 2 := by linarith
      have above : (mantissa : ℚ) < closest := by linarith
      norm_cast at below above
      rw [Accuracy.roundToNearestEven]
      omega

end

/-! ## Bits behind a mantissa -/

/-- A mantissa with the bits behind it tells where a number is. -/
def Tracks (extended : ExtendedMantissa) (number : ℚ) : Prop :=
  Accurate extended.mantissa number extended.accuracy

theorem tracks_ofMantissaAndAccuracy {mantissa : Nat} {number : ℚ} {accuracy : Accuracy}
    (accurate : Accurate mantissa number accuracy) :
    Tracks (.ofMantissaAndAccuracy mantissa accuracy) number := by
  cases accurate with
  | exact same => exact .exact same
  | lower above below => exact .lower above below
  | half same => exact .half same
  | upper above below => exact .upper above below

theorem Tracks.shiftRightOne {extended : ExtendedMantissa} {number : ℚ}
    (tracks : Tracks extended number) : Tracks extended.shiftRightOne (number / 2) := by
  obtain ⟨mantissa, roundBit, stickyBit⟩ := extended
  have halves : ((mantissa % 2 : Nat) : ℚ) + 2 * (mantissa / 2 : Nat) = mantissa := by
    exact_mod_cast Nat.mod_add_div mantissa 2
  have bit : mantissa % 2 = 0 ∨ mantissa % 2 = 1 := Nat.mod_two_eq_zero_or_one mantissa
  unfold Tracks at tracks ⊢
  rcases bit with bit | bit <;> cases roundBit <;> cases stickyBit <;>
    simp only [ExtendedMantissa.shiftRightOne, ExtendedMantissa.accuracy, bit] at tracks ⊢ <;>
    rw [bit] at halves <;> push_cast at halves <;> cases tracks
  · exact .exact (by linarith)
  · exact .lower (by linarith) (by linarith)
  · exact .lower (by linarith) (by linarith)
  · exact .lower (by linarith) (by linarith)
  · exact .half (by linarith)
  · exact .upper (by linarith) (by linarith)
  · exact .upper (by linarith) (by linarith)
  · exact .upper (by linarith) (by linarith)

theorem Tracks.shiftRight {extended : ExtendedMantissa} {number : ℚ}
    (tracks : Tracks extended number) (count : Nat) :
    Tracks (extended >>> count) (number / 2 ^ count) := by
  change Tracks (Nat.repeat ExtendedMantissa.shiftRightOne count extended) _
  induction count with
  | zero =>
      rw [Nat.repeat, pow_zero, div_one]
      exact tracks
  | succ count ih =>
      rw [Nat.repeat, pow_succ, ← div_div]
      exact ih.shiftRightOne

/-! ## Rounding -/

/-- A magnitude of a double in lowest terms: fifty-three bits, or fewer at the least exponent. -/
structure Canonical (mantissa : Nat) (exponent : Int) : Prop where
  positive : 0 < mantissa
  bound : mantissa < 2 ^ 53
  least : -1074 ≤ exponent
  normal : 2 ^ 52 ≤ mantissa ∨ exponent = -1074

/-- The number rounds to `mantissa * 2 ^ exponent`.  Doubles are closer together below a power of
two than above. -/
structure Near (mantissa : Nat) (exponent : Int) (number : ℚ) : Prop where
  closest : Closest mantissa (number / 2 ^ exponent)
  narrow : mantissa = 2 ^ 52 → -1074 < exponent →
    (mantissa : ℚ) - 1 / 4 ≤ number / 2 ^ exponent

section

variable {mantissa : Nat} {exponent : Int}

theorem two_zpow_pos (exponent : Int) : (0 : ℚ) < 2 ^ exponent :=
  zpow_pos (by norm_num) exponent

theorem Canonical.aimed (canonical : Canonical mantissa exponent) :
    Aimed .binary64 mantissa exponent :=
  aimed_binary64 canonical.bound canonical.least canonical.normal canonical.positive

/-- A canonical magnitude stays as it is. -/
theorem Canonical.shiftToTargetExponent_eq (canonical : Canonical mantissa exponent) :
    shiftToTargetExponent .binary64 mantissa exponent .exact =
      (⟨mantissa, false, false⟩, exponent) := by
  rw [shiftToTargetExponent, canonical.aimed, shiftToExponent, sub_self, Int.toNat_zero,
    Nat.cast_zero, add_zero]
  rfl

/-- A mantissa of one bit too many loses that bit. -/
theorem shiftToTargetExponent_carry (least : -1074 ≤ exponent) :
    shiftToTargetExponent .binary64 (2 ^ 53) exponent .exact =
      (⟨2 ^ 52, false, false⟩, exponent + 1) := by
  have target : Format.binary64.targetExponent (totalExponent (2 ^ 53) exponent) =
      exponent + 1 := by
    rw [targetExponent_binary64, totalExponent, Nat.log2_two_pow]
    omega
  have one : (exponent + 1 - exponent).toNat = 1 := by omega
  rw [shiftToTargetExponent, target, shiftToExponent, one]
  rfl

/-- Rounding in two steps: what the shifted mantissa rounds to, and whether that is carried. -/
theorem roundWithAccuracy_of_shifted {given : Nat} {start target : Int} {accuracy : Accuracy}
    {shifted : ExtendedMantissa} {rounded : Nat} {extended : ExtendedMantissa} {sign : Sign}
    (first : shiftToTargetExponent .binary64 given start accuracy = (shifted, target))
    (rounds : shifted.roundedMantissa = rounded)
    (second : shiftToTargetExponent .binary64 rounded target .exact = (extended, exponent))
    (final : extended.mantissa = mantissa) (positive : 0 < mantissa) :
    roundWithAccuracy .binary64 sign given start accuracy =
      .finite sign mantissa exponent positive := by
  subst final
  simp only [roundWithAccuracy, first, rounds, second, dif_neg positive.ne']

section

variable {given : Nat} {start : Int} {number : ℚ} {accuracy : Accuracy}

/-- The bits of a given mantissa bound the number from below. -/
theorem Accurate.two_zpow_le (accurate : Accurate given (number / 2 ^ start) accuracy)
    (nonzero : given ≠ 0) : (2 : ℚ) ^ ((given.log2 : ℤ) + start) ≤ number := by
  have bits : ((2 ^ given.log2 : Nat) : ℚ) ≤ given := by exact_mod_cast Nat.log2_self_le nonzero
  rw [zpow_add₀ (by norm_num), zpow_natCast]
  push_cast at bits
  exact (le_div_iff₀ (two_zpow_pos start)).mp (bits.trans accurate.le)

/-- The bits of a given mantissa bound the number from above. -/
theorem Accurate.lt_two_zpow (accurate : Accurate given (number / 2 ^ start) accuracy) :
    number < 2 ^ ((given.log2 : ℤ) + 1 + start) := by
  have bits : (given : ℚ) + 1 ≤ ((2 ^ (given.log2 + 1) : Nat) : ℚ) := by
    exact_mod_cast Nat.lt_log2_self
  have power : (2 : ℚ) ^ ((given.log2 : ℤ) + 1) = ((2 ^ (given.log2 + 1) : Nat) : ℚ) := by
    rw [← Nat.cast_succ, zpow_natCast]
    push_cast
    rfl
  rw [zpow_add₀ (by norm_num), power]
  exact (div_lt_iff₀ (two_zpow_pos start)).mp (accurate.lt_succ.trans_le bits)

theorem lt_of_two_zpow_lt {first second : ℤ} (less : (2 : ℚ) ^ first < 2 ^ second) :
    first < second :=
  (zpow_lt_zpow_iff_right₀ (by norm_num)).mp less

/-- A number near to a double is less than every power of two above all doubles. -/
theorem Near.lt_two_zpow (near : Near mantissa exponent number)
    (canonical : Canonical mantissa exponent) : number < 2 ^ (53 + exponent) := by
  have bound : (mantissa : ℚ) + 1 ≤ 2 ^ 53 := by exact_mod_cast canonical.bound
  have below : number / 2 ^ exponent < 2 ^ 53 := by linarith [near.closest.upper]
  rw [zpow_add₀ (by norm_num)]
  exact (div_lt_iff₀ (two_zpow_pos exponent)).mp below

theorem Near.two_zpow_le (near : Near mantissa exponent number)
    (canonical : Canonical mantissa exponent) : (2 : ℚ) ^ (exponent - 1) ≤ number := by
  have one : (1 : ℚ) ≤ mantissa := by exact_mod_cast canonical.positive
  have half : 1 / 2 ≤ number / 2 ^ exponent := by linarith [near.closest.lower]
  rw [zpow_sub₀ (by norm_num), zpow_one]
  have := (le_div_iff₀ (two_zpow_pos exponent)).mp half
  linarith

/-- A given magnitude is never rounded above the exponent of the double. -/
theorem Near.target_le (near : Near mantissa exponent number)
    (canonical : Canonical mantissa exponent)
    (accurate : Accurate given (number / 2 ^ start) accuracy)
    (fine : start ≤ Format.binary64.targetExponent (totalExponent given start)) :
    Format.binary64.targetExponent (totalExponent given start) ≤ exponent := by
  rw [targetExponent_binary64, totalExponent] at fine ⊢
  have least := canonical.least
  by_cases none : given = 0
  · have bits : (given.log2 : ℤ) = 0 := by
      rw [none]
      rfl
    omega
  · have high : (given.log2 : ℤ) + start < 53 + exponent :=
      lt_of_two_zpow_lt ((accurate.two_zpow_le none).trans_lt (near.lt_two_zpow canonical))
    omega

/-- Below its power of two the number is still in the upper half of the bits before. -/
theorem Near.lower_half (near : Near mantissa exponent number) (power : mantissa = 2 ^ 52)
    (above : -1074 < exponent) : (2 : ℚ) ^ (51 + exponent) ≤ number := by
  have narrow := near.narrow power above
  rw [power] at narrow
  push_cast at narrow
  rw [zpow_add₀ (by norm_num)]
  apply (le_div_iff₀ (two_zpow_pos exponent)).mp
  linarith

/-- A given magnitude is rounded at the exponent of the double that the number is near to, or one
below if the number is below a power of two. -/
theorem Near.target_cases (near : Near mantissa exponent number)
    (canonical : Canonical mantissa exponent)
    (accurate : Accurate given (number / 2 ^ start) accuracy)
    (fine : start ≤ Format.binary64.targetExponent (totalExponent given start)) :
    Format.binary64.targetExponent (totalExponent given start) = exponent ∨
      (Format.binary64.targetExponent (totalExponent given start) = exponent - 1 ∧
        mantissa = 2 ^ 52 ∧ -1074 < exponent ∧ number < 2 ^ 52 * 2 ^ exponent) := by
  have most := near.target_le canonical accurate fine
  rw [targetExponent_binary64, totalExponent] at most ⊢
  rcases canonical.least.lt_or_eq with above | lowest
  · have normal := canonical.normal.resolve_right above.ne'
    rcases le_or_gt ((2 : ℚ) ^ 52 * 2 ^ exponent) number with full | below
    · have low : 52 + exponent < given.log2 + 1 + start := by
        apply lt_of_two_zpow_lt
        apply lt_of_le_of_lt _ accurate.lt_two_zpow
        rw [zpow_add₀ (by norm_num)]
        exact full
      left
      omega
    · have less : number / 2 ^ exponent < 2 ^ 52 := (div_lt_iff₀ (two_zpow_pos exponent)).mpr below
      have power : mantissa = 2 ^ 52 := by
        have small : (mantissa : ℚ) < 2 ^ 52 + 1 := by linarith [near.closest.lower]
        norm_cast at small
        omega
      have low : 51 + exponent < given.log2 + 1 + start :=
        lt_of_two_zpow_lt ((near.lower_half power above).trans_lt accurate.lt_two_zpow)
      have aims : max ((given.log2 : ℤ) + 1 + start - 53) (-1074) = exponent ∨
          max ((given.log2 : ℤ) + 1 + start - 53) (-1074) = exponent - 1 := by omega
      exact aims.imp_right fun before => ⟨before, power, above, below⟩
  · left
    omega

/-- In units half as large, a number just below a power of two is closest to one bit too many. -/
theorem Near.closest_carry (near : Near mantissa exponent number) (power : mantissa = 2 ^ 52)
    (above : -1074 < exponent) (below : number < 2 ^ 52 * 2 ^ exponent) :
    Closest (2 ^ 53) (number / 2 ^ (exponent - 1)) := by
  have doubled : number / 2 ^ (exponent - 1) = 2 * (number / 2 ^ exponent) := by
    rw [zpow_sub₀ (by norm_num), zpow_one]
    field_simp
  have narrow := near.narrow power above
  have less : number / 2 ^ exponent < 2 ^ 52 := (div_lt_iff₀ (two_zpow_pos exponent)).mpr below
  rw [power] at narrow
  push_cast at narrow
  rw [doubled]
  constructor
  · push_cast
    linarith
  · push_cast
    linarith
  · exact fun _ => rfl
  · exact fun _ => rfl

/-- A number near to a double is rounded to it. -/
theorem roundWithAccuracy_of_near (near : Near mantissa exponent number)
    (canonical : Canonical mantissa exponent)
    (accurate : Accurate given (number / 2 ^ start) accuracy)
    (fine : start ≤ Format.binary64.targetExponent (totalExponent given start)) (sign : Sign) :
    roundWithAccuracy .binary64 sign given start accuracy =
      .finite sign mantissa exponent canonical.positive := by
  obtain ⟨target, target_eq⟩ : ∃ target, target =
      Format.binary64.targetExponent (totalExponent given start) := ⟨_, rfl⟩
  obtain ⟨count, count_eq⟩ : ∃ count : Nat, target = start + count :=
    Int.le.dest (target_eq ▸ fine) |>.imp fun _ same => same.symm
  have amount : (target - start).toNat = count := by omega
  have shifted : shiftToTargetExponent .binary64 given start accuracy =
      (ExtendedMantissa.ofMantissaAndAccuracy given accuracy >>> count, target) := by
    rw [shiftToTargetExponent, ← target_eq, shiftToExponent, amount, ← count_eq]
  have tracks : Tracks (ExtendedMantissa.ofMantissaAndAccuracy given accuracy >>> count)
      (number / 2 ^ target) := by
    have scaled : (2 : ℚ) ^ target = 2 ^ start * 2 ^ count := by
      rw [count_eq, zpow_add₀ (by norm_num), zpow_natCast]
    rw [scaled, ← div_div]
    exact (tracks_ofMantissaAndAccuracy accurate).shiftRight count
  rcases near.target_cases canonical accurate fine with same | ⟨before, power, above, below⟩
  · rw [← target_eq] at same
    subst same
    exact roundWithAccuracy_of_shifted shifted (tracks.round_eq near.closest)
      canonical.shiftToTargetExponent_eq rfl canonical.positive
  · -- Rounding goes up to the power of two, which is then carried.
    rw [← target_eq] at before
    have closest := near.closest_carry power above below
    rw [← before] at closest
    have carry := @shiftToTargetExponent_carry target (by omega)
    have next : target + 1 = exponent := by omega
    rw [next] at carry
    exact roundWithAccuracy_of_shifted shifted (tracks.round_eq closest) carry power.symm
      canonical.positive

end

end

/-! ## Quotients -/

/-- A magnitude that is given exactly. -/
theorem Accurate.of_magnitude (given : Nat) (start : ℤ) :
    Accurate given ((given : ℚ) * 2 ^ start / 2 ^ start) .exact :=
  .exact (mul_div_cancel_right₀ _ (two_zpow_pos start).ne')

theorem accurate_of_fraction {numerator denominator : Nat} (positive : 0 < denominator) :
    Accurate (numerator / denominator) ((numerator : ℚ) / denominator)
      (accuracyOfFraction (numerator % denominator) denominator) := by
  have whole : (0 : ℚ) < denominator := by exact_mod_cast positive
  have less : ((numerator % denominator : Nat) : ℚ) < denominator := by
    exact_mod_cast Nat.mod_lt numerator positive
  have quotient : (numerator : ℚ) / denominator =
      (numerator / denominator : Nat) + ((numerator % denominator : Nat) : ℚ) / denominator := by
    rw [eq_comm, ← eq_sub_iff_add_eq', eq_comm, eq_div_iff whole.ne', sub_mul,
      div_mul_cancel₀ _ whole.ne', sub_eq_iff_eq_add']
    exact_mod_cast (Nat.div_add_mod' numerator denominator).symm
  rw [quotient]
  generalize numerator % denominator = rest at *
  unfold accuracyOfFraction
  split_ifs with none
  · rw [none]
    apply Accurate.exact
    simp
  · have some : (0 : ℚ) < rest := by exact_mod_cast Nat.pos_of_ne_zero none
    have share : (0 : ℚ) < rest / denominator := div_pos some whole
    rcases order : compare (2 * rest) denominator with _ | _ | _
    · have small : (2 : ℚ) * rest < denominator := by
        exact_mod_cast Nat.compare_eq_lt.mp order
      have half : (rest : ℚ) / denominator < 1 / 2 := by
        rw [div_lt_iff₀ whole]
        linarith
      exact .lower (by linarith) (by linarith)
    · have same : (2 : ℚ) * rest = denominator := by
        exact_mod_cast Nat.compare_eq_eq.mp order
      have half : (rest : ℚ) / denominator = 1 / 2 := by
        rw [div_eq_iff whole.ne']
        linarith
      exact .half (by linarith)
    · have large : (denominator : ℚ) < 2 * rest := by
        exact_mod_cast Nat.compare_eq_gt.mp order
      have half : 1 / 2 < (rest : ℚ) / denominator := by
        rw [lt_div_iff₀ whole]
        linarith
      have one : (rest : ℚ) / denominator < 1 := (div_lt_one whole).mpr less
      exact .upper (by linarith) (by linarith)

section

variable {mantissa dividend divisor : Nat} {exponent first second : Int} {number : ℚ}

/-- A dividend with enough bits has a quotient of fifty-three bits. -/
theorem two_pow_le_quotient {count : Nat} (positive : 0 < dividend) (positive' : 0 < divisor)
    (enough : 52 + (divisor.log2 + 1) ≤ dividend.log2 + count) :
    2 ^ 52 ≤ dividend * 2 ^ count / divisor := by
  apply (Nat.le_div_iff_mul_le positive').mpr
  calc
    2 ^ 52 * divisor ≤ 2 ^ 52 * 2 ^ (divisor.log2 + 1) :=
      Nat.mul_le_mul_left _ Nat.lt_log2_self.le
    _ = 2 ^ (52 + (divisor.log2 + 1)) := (Nat.pow_add ..).symm
    _ ≤ 2 ^ (dividend.log2 + count) := Nat.pow_le_pow_right (by decide) enough
    _ = 2 ^ dividend.log2 * 2 ^ count := Nat.pow_add ..
    _ ≤ dividend * 2 ^ count := Nat.mul_le_mul_right _ (Nat.log2_self_le positive.ne')

/-- The quotient in units of an exponent is a fraction of natural numbers. -/
theorem quotient_scaled {start : Int} {count : Nat} (sum : first = second + start + count)
    (positive' : 0 < divisor) (quotient : number * (divisor * 2 ^ second) = dividend * 2 ^ first) :
    number / 2 ^ start = ((dividend * 2 ^ count : Nat) : ℚ) / divisor := by
  have whole : (0 : ℚ) < divisor := by exact_mod_cast positive'
  have power := two_zpow_pos second
  have unit := two_zpow_pos start
  have two : (2 : ℚ) ≠ 0 := by norm_num
  rw [sum, zpow_add₀ two, zpow_add₀ two, zpow_natCast] at quotient
  have cancelled : number * divisor * 2 ^ second =
      dividend * 2 ^ count * 2 ^ start * 2 ^ second := by linarith
  push_cast
  rw [div_eq_div_iff unit.ne' whole.ne']
  exact mul_right_cancel₀ power.ne' cancelled

/-- The quotient has all the bits that rounding wants. -/
theorem quotient_fine {start : Int} {count : Nat} (positive : 0 < dividend)
    (positive' : 0 < divisor) (sum : first = second + start + count)
    (start_eq : start = min (first - second)
      (Format.binary64.targetExponent
        (totalExponent dividend first - totalExponent divisor second))) :
    start ≤ Format.binary64.targetExponent
      (totalExponent (dividend * 2 ^ count / divisor) start) := by
  rw [targetExponent_binary64, totalExponent]
  rw [targetExponent_binary64, totalExponent, totalExponent] at start_eq
  by_cases enough : 52 + (divisor.log2 + 1) ≤ dividend.log2 + count
  · have full := two_pow_le_quotient positive positive' enough
    have bits : 52 ≤ (dividend * 2 ^ count / divisor).log2 := (Nat.le_log2 (by omega)).mpr full
    omega
  · omega

/-- A quotient near to a double is rounded to it. -/
theorem div_of_near (near : Near mantissa exponent number)
    (canonical : Canonical mantissa exponent) (positive : 0 < dividend) (positive' : 0 < divisor)
    (quotient : number * (divisor * 2 ^ second) = dividend * 2 ^ first) (sign sign' : Sign) :
    UnpackedFloat.div .binary64 (.finite sign dividend first positive)
        (.finite sign' divisor second positive') =
      .finite (sign / sign') mantissa exponent canonical.positive := by
  obtain ⟨start, start_eq⟩ : ∃ start, start = min (first - second)
      (Format.binary64.targetExponent
        (totalExponent dividend first - totalExponent divisor second)) :=
    ⟨_, rfl⟩
  obtain ⟨count, count_eq⟩ : ∃ count : Nat, first - second = start + count :=
    Int.le.dest (start_eq ▸ min_le_left _ _) |>.imp fun _ same => same.symm
  have sum : first = second + start + count := by omega
  have amount : (first - second - start).toNat = count := by omega
  have accurate := @accurate_of_fraction (dividend * 2 ^ count) divisor positive'
  rw [← quotient_scaled sum positive' quotient] at accurate
  rw [UnpackedFloat.div, divCore]
  dsimp only
  rw [← start_eq, amount, Nat.shiftLeft_eq]
  exact roundWithAccuracy_of_near near canonical accurate
    (quotient_fine positive positive' sum start_eq) _

end

end RouterTelemetry.Decimal
