import Mathlib
import RouterTelemetry.Measure

/-!
# Signs of measures

A measure counts as positive when it has a quantity above zero.  There are five ways not to be:
no measure, one that could not be read, what is not a number, a zero and a quantity below zero.
-/

namespace RouterTelemetry

open Float.Model

/-- Doubles are compared as they are unpacked. -/
theorem float_lt_iff {less greater : Float} :
    less < greater ↔ less.toModel.unpack.lt greater.toModel.unpack = true := by
  change Float.lt less greater = true ↔ _
  rw [Float.lt, decide_eq_true_iff]
  rfl

/-- A double that is not above zero is not a number, or a zero, or below zero. -/
theorem not_pos_iff {quantity : Float} :
    ¬quantity > 0.0 ↔ quantity.isNaN = true ∨ (quantity == 0.0) = true ∨ quantity < 0.0 := by
  have zero : (0.0 : Float).toModel.unpack = .zero .positive := rfl
  have same : (quantity == 0.0) = quantity.toModel.unpack.beq (0.0 : Float).toModel.unpack := rfl
  have none : quantity.isNaN = quantity.toModel.unpack.isNaN := rfl
  rw [gt_iff_lt, float_lt_iff, float_lt_iff, same, none, zero]
  cases quantity.toModel.unpack with
  | notANumber => simp [UnpackedFloat.lt, UnpackedFloat.compare, UnpackedFloat.isNaN]
  | zero sign => simp [UnpackedFloat.lt, UnpackedFloat.beq, UnpackedFloat.compare]
  | infinity sign =>
      cases sign <;>
        simp [UnpackedFloat.lt, UnpackedFloat.beq, UnpackedFloat.compare, UnpackedFloat.isNaN]
  | finite sign mantissa exponent positive =>
      cases sign <;>
        simp [UnpackedFloat.lt, UnpackedFloat.beq, UnpackedFloat.compare, UnpackedFloat.isNaN]

namespace Measure

/-- The measure has a quantity above zero. -/
def Positive (measure : Measure) : Prop :=
  ∃ quantity, measure = .value quantity ∧ quantity > 0.0

/-- Why a measure is not positive. -/
inductive NotPositive : Measure → Prop where
  | missing : NotPositive .missing
  | invalid (reason : Json.Mismatch) : NotPositive (.invalid reason)
  | notANumber {quantity : Float} (unordered : quantity.isNaN = true) :
      NotPositive (.value quantity)
  | zero {quantity : Float} (zero : (quantity == 0.0) = true) : NotPositive (.value quantity)
  | negative {quantity : Float} (below : quantity < 0.0) : NotPositive (.value quantity)

theorem isPositive_iff {measure : Measure} : measure.isPositive = true ↔ measure.Positive := by
  cases measure <;> simp [isPositive, Positive]

theorem isPositive_eq_false_iff {measure : Measure} :
    measure.isPositive = false ↔ ¬measure.Positive := by
  rw [← isPositive_iff, Bool.not_eq_true]

theorem not_positive_iff {measure : Measure} : ¬measure.Positive ↔ measure.NotPositive := by
  cases measure with
  | missing => exact iff_of_true nofun .missing
  | invalid reason => exact iff_of_true nofun (.invalid reason)
  | value quantity =>
      have above : Positive (.value quantity) ↔ quantity > 0.0 := by simp [Positive]
      rw [above, not_pos_iff]
      constructor
      · rintro (unordered | zero | below)
        · exact .notANumber unordered
        · exact .zero zero
        · exact .negative below
      · intro notPositive
        cases notPositive with
        | notANumber unordered => exact .inl unordered
        | zero zero => exact .inr (.inl zero)
        | negative below => exact .inr (.inr below)

end Measure

end RouterTelemetry
