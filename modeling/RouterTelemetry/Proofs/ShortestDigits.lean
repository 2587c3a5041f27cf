import RouterTelemetry.Decimal.Shortest
import RouterTelemetry.Proofs.NearestRounding

/-!
# The shortest digits

The test for the shortest digits compares whole numbers.  It is passed by the decimals that round
to the given magnitude only, so the decimal that is chosen rounds to it, whichever grid it is from.
-/

namespace RouterTelemetry.Decimal

/-! ## Exact comparison -/

theorem zpow_mul_pow_toNat {base : ℚ} (nonzero : base ≠ 0) (power : Int) :
    base ^ power * base ^ (-power).toNat = base ^ power.toNat := by
  rw [← zpow_natCast, ← zpow_natCast, ← zpow_add₀ nonzero]
  congr 1
  omega

section

variable (a : Nat) (i : Int) (n : Nat) (j : Int)

/-- The sides of a comparison are the two magnitudes, multiplied by one factor. -/
theorem cast_decimal_side :
    ((a * Nat.pow 10 i.toNat * Nat.pow 2 (-j).toNat : Nat) : ℚ) =
      a * 10 ^ i * (10 ^ (-i).toNat * 2 ^ (-j).toNat) := by
  simp only [Nat.pow_eq]
  push_cast
  rw [← zpow_mul_pow_toNat (show (10 : ℚ) ≠ 0 by norm_num) i]
  ring

theorem cast_binary_side :
    ((n * Nat.pow 2 j.toNat * Nat.pow 10 (-i).toNat : Nat) : ℚ) =
      n * 2 ^ j * (10 ^ (-i).toNat * 2 ^ (-j).toNat) := by
  simp only [Nat.pow_eq]
  push_cast
  rw [← zpow_mul_pow_toNat (show (2 : ℚ) ≠ 0 by norm_num) j]
  ring

theorem compareScaled_eq_lt : compareScaled a i n j = .lt ↔ (a : ℚ) * 10 ^ i < n * 2 ^ j := by
  have factor : (0 : ℚ) < 10 ^ (-i).toNat * 2 ^ (-j).toNat := by positivity
  rw [compareScaled, Nat.compare_eq_lt, ← @Nat.cast_lt ℚ, cast_decimal_side, cast_binary_side,
    mul_lt_mul_iff_left₀ factor]

theorem compareScaled_eq_gt : compareScaled a i n j = .gt ↔ (n : ℚ) * 2 ^ j < a * 10 ^ i := by
  have factor : (0 : ℚ) < 10 ^ (-i).toNat * 2 ^ (-j).toNat := by positivity
  rw [compareScaled, Nat.compare_eq_gt, ← @Nat.cast_lt ℚ, cast_decimal_side, cast_binary_side,
    mul_lt_mul_iff_left₀ factor]

theorem compareScaled_eq_eq : compareScaled a i n j = .eq ↔ (a : ℚ) * 10 ^ i = n * 2 ^ j := by
  have factor : (0 : ℚ) < 10 ^ (-i).toNat * 2 ^ (-j).toNat := by positivity
  rw [compareScaled, Nat.compare_eq_eq, ← @Nat.cast_inj ℚ, cast_decimal_side, cast_binary_side,
    mul_left_inj' factor.ne']

end

/-! ## Decimals that read back -/

/-- The value of a decimal magnitude. -/
def Scaled.value (decimal : Scaled) : ℚ :=
  decimal.digits * 10 ^ decimal.exponent

/-- The flag for a narrow gap is set wherever the gap is narrow. -/
def Binary.Flagged (value : Binary) : Prop :=
  value.mantissa = 2 ^ 52 → -1074 < value.exponent → value.narrowBelow = true

variable {value : Binary} {decimal : Scaled} {tie : Tie}

/-- The lower end of what rounds to the magnitude, in units of its last place. -/
def Binary.lowerEnd (value : Binary) : ℚ :=
  if value.narrowBelow then value.mantissa - 1 / 4 else value.mantissa - 1 / 2

theorem Binary.half_le_lowerEnd (value : Binary) :
    (value.mantissa : ℚ) - 1 / 2 ≤ value.lowerEnd := by
  unfold lowerEnd
  split_ifs
  · linarith
  · exact le_rfl

/-- The test takes the lower end in quarters. -/
theorem Binary.quarters_eq_lowerEnd (positive : 0 < value.mantissa) :
    ((if value.narrowBelow then 4 * value.mantissa - 1 else 4 * value.mantissa - 2 : Nat) : ℚ) / 4 =
      value.lowerEnd := by
  unfold lowerEnd
  split_ifs
  · rw [Nat.cast_sub (by omega)]
    push_cast
    ring
  · rw [Nat.cast_sub (by omega)]
    push_cast
    ring

/-- What the test says of both ends. -/
theorem Binary.ends_of_readsBack (positive : 0 < value.mantissa)
    (reads : value.readsBack decimal = true) :
    let units : ℚ := decimal.value / 2 ^ value.exponent
    (value.lowerEnd < units ∨ value.mantissa % 2 = 0 ∧ units = value.lowerEnd) ∧
      (units < value.mantissa + 1 / 2 ∨
        value.mantissa % 2 = 0 ∧ units = value.mantissa + 1 / 2) := by
  intro units
  have unit := two_zpow_pos value.exponent
  have quarter (quarters : ℚ) :
      quarters * 2 ^ (value.exponent - 2) = quarters / 4 * 2 ^ value.exponent := by
    rw [zpow_sub₀ (by norm_num)]
    norm_num
    ring
  have half : ((4 * value.mantissa + 2 : Nat) : ℚ) / 4 = value.mantissa + 1 / 2 := by
    push_cast
    ring
  have number : (decimal.digits : ℚ) * 10 ^ decimal.exponent = units * 2 ^ value.exponent :=
    (div_mul_cancel₀ _ unit.ne').symm
  simp only [readsBack, Bool.and_eq_true, Bool.or_eq_true, beq_iff_eq, compareScaled_eq_lt,
    compareScaled_eq_gt, compareScaled_eq_eq, quarter, half, number,
    quarters_eq_lowerEnd positive] at reads
  rw [mul_lt_mul_iff_left₀ unit, mul_lt_mul_iff_left₀ unit, mul_left_inj' unit.ne',
    mul_left_inj' unit.ne'] at reads
  exact reads

/-- A decimal that passes the test rounds to the magnitude. -/
theorem Binary.near_of_readsBack (flagged : value.Flagged) (positive : 0 < value.mantissa)
    (reads : value.readsBack decimal = true) :
    Near value.mantissa value.exponent decimal.value := by
  obtain ⟨above, below⟩ := ends_of_readsBack positive reads
  have half := value.half_le_lowerEnd
  constructor
  · constructor
    · rcases above with more | ⟨_, same⟩
      · linarith
      · linarith
    · rcases below with less | ⟨_, same⟩
      · exact less.le
      · exact same.le
    · intro same
      rcases above with more | ⟨even, _⟩
      · linarith
      · exact even
    · intro same
      rcases below with less | ⟨even, _⟩
      · linarith
      · exact even
  · intro power beyond
    rw [lowerEnd, if_pos (flagged power beyond)] at above
    rcases above with more | ⟨_, same⟩
    · exact more.le
    · exact same.ge

/-- All digits of the magnitude are its value. -/
theorem Binary.value_exact (value : Binary) :
    value.exact.value = value.mantissa * 2 ^ value.exponent := by
  rw [Scaled.value, exact]
  dsimp only [Nat.pow_eq]
  push_cast
  rcases le_total 0 value.exponent with whole | fraction
  · obtain ⟨count, same⟩ := Int.eq_ofNat_of_zero_le whole
    rw [same, min_eq_right (Int.natCast_nonneg count), Int.toNat_natCast, Int.toNat_neg_natCast]
    simp
  · obtain ⟨count, same⟩ : ∃ count : Nat, value.exponent = -count :=
      ⟨value.exponent.natAbs, by omega⟩
    have ten : (10 : ℚ) ^ count = 5 ^ count * 2 ^ count := by rw [← mul_pow]; norm_num
    rw [min_eq_left fraction, same, Int.toNat_neg_natCast, neg_neg, Int.toNat_natCast, zpow_neg,
      zpow_neg, zpow_natCast, zpow_natCast, ten]
    field_simp

theorem Binary.near_exact (value : Binary) :
    Near value.mantissa value.exponent value.exact.value := by
  have units : value.exact.value / 2 ^ value.exponent = value.mantissa := by
    rw [value_exact, mul_div_cancel_right₀ _ (two_zpow_pos _).ne']
  constructor
  · rw [units]
    exact Closest.self value.mantissa
  · intro _ _
    rw [units]
    linarith

/-! ## The choice -/

/-- A decimal from a grid passes the test. -/
theorem Binary.readsBack_of_candidate {power : Int}
    (found : value.candidate tie power = some decimal) : value.readsBack decimal = true := by
  unfold candidate at found
  dsimp only at found
  split at found
  next low high =>
    cases found
    split_ifs
    · exact high
    · exact low
  next low high =>
    cases found
    exact low
  next low high =>
    cases found
    exact high
  next => cases found

/-- Trailing zeros may stand in the digits or in the exponent. -/
theorem Scaled.value_strip (limit : Nat) (decimal : Scaled) :
    (decimal.strip limit).value = decimal.value := by
  induction limit generalizing decimal with
  | zero => rw [strip]
  | succ limit ih =>
      obtain ⟨digits, exponent⟩ := decimal
      rw [strip]
      split_ifs with trailing
      · obtain ⟨fewer, rfl⟩ : 10 ∣ digits := Nat.dvd_of_mod_eq_zero trailing.2
        rw [ih, Scaled.value, Scaled.value]
        dsimp only
        rw [Nat.mul_div_cancel_left fewer (by decide), zpow_add₀ (by norm_num), zpow_one]
        push_cast
        ring
      · rfl

/-- The shortest digits of a magnitude round to it. -/
theorem Binary.near_shortest (flagged : value.Flagged) (positive : 0 < value.mantissa)
    (tie : Tie) : Near value.mantissa value.exponent (value.shortest tie).value := by
  rw [shortest, if_neg positive.ne']
  dsimp only
  rw [Scaled.value_strip]
  cases search : (List.range 17).findSome? fun (count : Nat) =>
      value.candidate tie (value.scale - ((count : Int) + 1)) with
  | none => exact near_exact value
  | some decimal =>
      obtain ⟨count, _, found⟩ := List.exists_of_findSome?_eq_some search
      exact near_of_readsBack flagged positive (readsBack_of_candidate found)

end RouterTelemetry.Decimal
