import Mathlib.Data.List.TakeWhile
import RouterTelemetry.Measure

/-!
# How literals are spelled

A number literal is read off a text that spells it: a sign, its digits, a fraction and an
exponent.  The relation between a literal and the texts that spell it says all that reading
lets through, and leaves open what a literal does not keep, the case of the exponent letter
and a plus sign behind it.
-/

namespace RouterTelemetry.Json

/-- A non-empty run of digits. -/
structure DigitRun (digits : List UInt8) : Prop where
  nonempty : digits ≠ []
  digit : ∀ b ∈ digits, isDigit b = true

/-- The text of a sign in front of a number. -/
def minusText (negative : Bool) : Input :=
  if negative then [byte '-'] else []

/-- The text of a fraction. -/
def fractionText : Option (List UInt8) → Input
  | none => []
  | some digits => byte '.' :: digits

/-- The text between the letter and the digits of an exponent. -/
inductive ExponentSign : Bool → Input → Prop where
  | minus : ExponentSign true [byte '-']
  | plus : ExponentSign false [byte '+']
  | bare : ExponentSign false []

/-- The texts of an exponent. -/
inductive ExponentText : Option (Bool × List UInt8) → Input → Prop where
  | absent : ExponentText none []
  | present {mark : UInt8} {negative : Bool} {sign digits : Input}
      (letter : mark = byte 'e' ∨ mark = byte 'E') (signed : ExponentSign negative sign)
      (run : DigitRun digits) : ExponentText (some (negative, digits)) (mark :: (sign ++ digits))

/-- The text spells the literal. -/
structure Literal.Spells (literal : Literal) (text : Input) : Prop where
  whole : DigitRun literal.whole
  fraction : ∀ digits ∈ literal.fraction, DigitRun digits
  parts : ∃ exponent, ExponentText literal.exponent exponent ∧
    text = minusText literal.negative ++ literal.whole ++ fractionText literal.fraction ++ exponent

section

variable {atEnd : Fault} {input : Input}

theorem readDigits_eq_ok {digits : Reading (List UInt8) input.length}
    (read : readDigits atEnd input = .ok digits) :
    DigitRun digits.value ∧ input = digits.value ++ digits.rest := by
  cases input with
  | nil => cases read
  | cons b rest =>
      unfold readDigits at read
      dsimp only at read
      split_ifs at read with digit
      cases read
      refine ⟨⟨List.cons_ne_nil _ _, ?_⟩, ?_⟩
      · exact List.forall_mem_cons.mpr ⟨digit, fun c member => List.mem_takeWhile_imp member⟩
      · exact congrArg (b :: ·) (List.takeWhile_append_dropWhile).symm

theorem readWhole_eq_ok {whole : Reading (List UInt8) input.length}
    (read : readWhole atEnd input = .ok whole) :
    DigitRun whole.value ∧ input = whole.value ++ whole.rest := by
  cases input with
  | nil => cases read
  | cons b rest =>
      unfold readWhole at read
      dsimp only at read
      split_ifs at read with zero another
      · cases read
        refine ⟨⟨List.cons_ne_nil _ _, fun c member => ?_⟩, rfl⟩
        rw [List.mem_singleton.mp member, zero]
        rfl
      · exact readDigits_eq_ok read

theorem readFraction_eq_ok {fraction : Option (List UInt8)} {rest : Rest input.length}
    (read : readFraction atEnd input = .ok (fraction, rest)) :
    (∀ digits ∈ fraction, DigitRun digits) ∧ input = fractionText fraction ++ rest.val := by
  cases input with
  | nil =>
      cases read
      exact ⟨nofun, rfl⟩
  | cons b tail =>
      unfold readFraction at read
      dsimp only at read
      split_ifs at read with point
      · cases run : readDigits atEnd tail with
        | error fault => simp only [run, reduceCtorEq] at read
        | ok digits =>
            simp only [run] at read
            cases read
            obtain ⟨digitRun, split⟩ := readDigits_eq_ok run
            refine ⟨fun other same => ?_, ?_⟩
            · cases same
              exact digitRun
            · rw [point, fractionText, List.cons_append, ← split]
      · cases read
        exact ⟨nofun, rfl⟩

theorem readSign_spelled (input : Input) :
    ∃ sign, ExponentSign (readSign input).1 sign ∧ input = sign ++ (readSign input).2.val := by
  unfold readSign
  cases input with
  | nil => exact ⟨[], .bare, rfl⟩
  | cons b rest =>
      dsimp only
      split_ifs with minus plus
      · exact ⟨[byte '-'], .minus, congrArg (· :: rest) minus⟩
      · exact ⟨[byte '+'], .plus, congrArg (· :: rest) plus⟩
      · exact ⟨[], .bare, rfl⟩

theorem readExponent_eq_ok {exponent : Option (Bool × List UInt8)} {rest : Rest input.length}
    (read : readExponent atEnd input = .ok (exponent, rest)) :
    ∃ text, ExponentText exponent text ∧ input = text ++ rest.val := by
  cases input with
  | nil =>
      cases read
      exact ⟨[], .absent, rfl⟩
  | cons b tail =>
      unfold readExponent at read
      dsimp only at read
      split_ifs at read with letter
      · obtain ⟨sign, signed, split⟩ := readSign_spelled tail
        cases run : readDigits atEnd (readSign tail).2.val with
        | error fault => simp only [run, reduceCtorEq] at read
        | ok digits =>
            simp only [run] at read
            cases read
            obtain ⟨digitRun, digitSplit⟩ := readDigits_eq_ok run
            refine ⟨b :: (sign ++ digits.value), .present letter signed digitRun, ?_⟩
            rw [List.cons_append, List.append_assoc, ← digitSplit, ← split]
      · cases read
        exact ⟨[], .absent, rfl⟩

theorem readMinus_spelled (input : Input) :
    input = minusText (readMinus input).1 ++ (readMinus input).2.val := by
  cases input with
  | nil => rfl
  | cons b rest =>
      unfold readMinus
      dsimp only
      split_ifs with minus
      · exact congrArg (· :: rest) minus
      · rfl

/-- What is read as a literal is a text that spells it. -/
theorem Literal.spells_of_read {literal : Reading Literal input.length}
    (read : Literal.read atEnd input = .ok literal) :
    ∃ text, literal.value.Spells text ∧ input = text ++ literal.rest := by
  have minus := readMinus_spelled input
  rcases first : readMinus input with ⟨negative, unsigned, le⟩
  rw [first] at minus
  unfold Literal.read at read
  rw [first] at read
  dsimp only at read
  cases second : readWhole atEnd unsigned with
  | error fault => simp only [second, reduceCtorEq] at read
  | ok whole =>
      obtain ⟨wholeRun, wholeSplit⟩ := readWhole_eq_ok second
      rw [second] at read
      dsimp only at read
      cases third : readFraction atEnd whole.rest with
      | error fault => simp only [third, reduceCtorEq] at read
      | ok pair =>
          obtain ⟨fraction, afterFraction⟩ := pair
          obtain ⟨fractionRun, fractionSplit⟩ := readFraction_eq_ok third
          rw [third] at read
          dsimp only at read
          cases fourth : readExponent atEnd afterFraction.val with
          | error fault => simp only [fourth, reduceCtorEq] at read
          | ok pair =>
              obtain ⟨exponent, rest⟩ := pair
              obtain ⟨exponentText, spelled, exponentSplit⟩ := readExponent_eq_ok fourth
              rw [fourth] at read
              dsimp only at read
              cases read
              refine ⟨_, ⟨wholeRun, fractionRun, exponentText, spelled, rfl⟩, ?_⟩
              simp only [List.append_assoc]
              rw [← exponentSplit, ← fractionSplit, ← wholeSplit]
              exact minus

end

end RouterTelemetry.Json
