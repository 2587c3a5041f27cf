import RouterTelemetry.Proofs.LiteralSpelling
import RouterTelemetry.Proofs.QuotedText

/-!
# Literals between quotes

A text that spells a number literal is read between quotes as the numeral of the same sign,
digits and power of ten, so its quantity is the double nearest to what is written.
-/

namespace RouterTelemetry.Json

/-! ## What a literal stands for -/

/-- The exponent as written. -/
def exponentPower : Option (Bool × List UInt8) → Int
  | none => 0
  | some (negative, digits) =>
      if negative then -(exponentSize digits : Int) else exponentSize digits

namespace Literal

/-- All digits of a literal, without the point. -/
def digits (literal : Literal) : List UInt8 :=
  literal.whole ++ literal.fraction.getD []

/-- The digits as one natural number. -/
def significand (literal : Literal) : Nat :=
  exponentSize literal.digits

/-- The power of ten that the significand is multiplied by. -/
def scale (literal : Literal) : Int :=
  exponentPower literal.exponent - (literal.fraction.getD []).length

/-- The numeral that the literal writes. -/
def numeral (literal : Literal) : Decimal.Numeral :=
  .decimal literal.negative literal.significand literal.scale

end Literal

/-! ## Bytes and characters -/

theorem isDigit_iff {b : UInt8} : isDigit b = true ↔ 48 ≤ b.toNat ∧ b.toNat ≤ 57 := by
  simp [isDigit, UInt8.le_iff_toNat_le]

theorem isDigit_ofUInt8 (b : UInt8) : (Char.ofUInt8 b).isDigit = isDigit b := by
  rw [Bool.eq_iff_iff, isDigit_iff, Char.isDigit, Bool.and_eq_true, decide_eq_true_eq,
    decide_eq_true_eq, UInt32.le_iff_toNat_le, ge_iff_le, UInt32.le_iff_toNat_le]
  exact Iff.rfl

theorem plainByte_of_isDigit {b : UInt8} (digit : isDigit b = true) : PlainByte b := by
  have range := isDigit_iff.mp digit
  constructor
  · rintro rfl
    exact absurd digit (by decide)
  · rintro rfl
    exact absurd digit (by decide)
  · rw [UInt8.lt_iff_toNat_lt]
    have bound : (32 : UInt8).toNat = 32 := rfl
    omega
  · rw [UInt8.lt_iff_toNat_lt]
    have bound : (128 : UInt8).toNat = 128 := rfl
    omega

/-- The signs of a literal beside digits. -/
theorem plainByte_of_sign {b : UInt8}
    (sign : b ∈ [byte '-', byte '+', byte '.', byte 'e', byte 'E']) : PlainByte b := by
  have plain : ∀ b ∈ [byte '-', byte '+', byte '.', byte 'e', byte 'E'],
      b ≠ byte '"' ∧ b ≠ byte '\\' ∧ ¬b < 32 ∧ b < 128 := by decide +kernel
  obtain ⟨noQuote, noSlash, printed, ascii⟩ := plain b sign
  exact ⟨noQuote, noSlash, printed, ascii⟩

theorem DigitRun.plain {digits : List UInt8} (run : DigitRun digits) :
    ∀ b ∈ digits, PlainByte b :=
  fun b member => plainByte_of_isDigit (run.digit b member)

theorem ExponentText.plain {exponent : Option (Bool × List UInt8)} {text : Input}
    (spelled : ExponentText exponent text) : ∀ b ∈ text, PlainByte b := by
  cases spelled with
  | absent => exact nofun
  | @present mark negative sign digits letter signed run =>
      have markPlain : PlainByte mark := by
        rcases letter with rfl | rfl
        · exact plainByte_of_sign (by simp)
        · exact plainByte_of_sign (by simp)
      have signPlain : ∀ b ∈ sign, PlainByte b := by
        cases signed with
        | minus => exact List.forall_mem_singleton.mpr (plainByte_of_sign (by simp))
        | plus => exact List.forall_mem_singleton.mpr (plainByte_of_sign (by simp))
        | bare => exact nofun
      exact List.forall_mem_cons.mpr
        ⟨markPlain, List.forall_mem_append.mpr ⟨signPlain, run.plain⟩⟩

theorem digitsValue_asciiChars (digits : List UInt8) :
    Decimal.digitsValue (asciiChars digits) = exponentSize digits := by
  rw [Decimal.digitsValue, asciiChars, List.foldl_map]
  rfl

theorem asciiChars_append (bytes more : List UInt8) :
    asciiChars (bytes ++ more) = asciiChars bytes ++ asciiChars more :=
  List.map_append

theorem DigitRun.isDigit_asciiChars {digits : List UInt8} (run : DigitRun digits) :
    ∀ c ∈ asciiChars digits, c.isDigit = true := by
  rw [asciiChars, List.forall_mem_map]
  exact fun b member => (isDigit_ofUInt8 b).trans (run.digit b member)

/-- The characters of a run of digits begin with a digit. -/
theorem DigitRun.exists_cons {digits : List UInt8} (run : DigitRun digits) (rest : List Char) :
    ∃ c tail, asciiChars digits ++ rest = c :: tail ∧ c.isDigit = true := by
  obtain ⟨b, tail, rfl⟩ := List.exists_cons_of_ne_nil run.nonempty
  exact ⟨Char.ofUInt8 b, asciiChars tail ++ rest, rfl,
    run.isDigit_asciiChars _ List.mem_cons_self⟩

/-! ## The numeral of a literal -/

open Decimal

theorem splitSign_of_isDigit {c : Char} (digit : c.isDigit = true) (rest : List Char) :
    splitSign (c :: rest) = (false, c :: rest) := by
  unfold splitSign
  split
  next same =>
    cases same
    exact absurd digit (by decide)
  next same =>
    cases same
    exact absurd digit (by decide)
  next => rfl

theorem splitSign_minusText {digits : List UInt8} (run : DigitRun digits) (negative : Bool)
    (rest : List Char) :
    splitSign (asciiChars (minusText negative) ++ (asciiChars digits ++ rest)) =
      (negative, asciiChars digits ++ rest) := by
  cases negative with
  | true => rfl
  | false =>
      obtain ⟨c, tail, start, digit⟩ := run.exists_cons rest
      rw [start]
      exact splitSign_of_isDigit digit tail

theorem splitSign_exponentSign {digits sign : List UInt8} {negative : Bool}
    (signed : ExponentSign negative sign) (run : DigitRun digits) :
    splitSign (asciiChars (sign ++ digits)) = (negative, asciiChars digits) := by
  cases signed with
  | minus => rfl
  | plus => rfl
  | bare => simpa [minusText, asciiChars] using splitSign_minusText run false []

/-- The characters of an exponent have its power. -/
theorem exponentOf?_asciiChars {exponent : Option (Bool × List UInt8)} {text : Input}
    (spelled : ExponentText exponent text) :
    exponentOf? (asciiChars text) = some (exponentPower exponent) := by
  cases spelled with
  | absent => rfl
  | @present mark negative sign digits letter signed run =>
      have mark_eq : Char.ofUInt8 mark = 'e' ∨ Char.ofUInt8 mark = 'E' := by
        rcases letter with rfl | rfl
        · exact .inl (by decide)
        · exact .inr (by decide)
      have some_digits : (asciiChars digits).isEmpty = false := by
        simpa [asciiChars] using run.nonempty
      have all_digits : (asciiChars digits).all Char.isDigit = true :=
        List.all_eq_true.mpr run.isDigit_asciiChars
      change exponentOf? (Char.ofUInt8 mark :: asciiChars (sign ++ digits)) = _
      rw [exponentOf?, if_pos mark_eq, splitSign_exponentSign signed run]
      simp [some_digits, all_digits, digitsValue_asciiChars, exponentPower]

/-- A run of digits ends before anything that does not begin with a digit. -/
theorem DigitRun.span_asciiChars {digits : List UInt8} (run : DigitRun digits) {rest : List Char}
    (stop : ∀ c ∈ rest.head?, c.isDigit = false) :
    (asciiChars digits ++ rest).takeWhile Char.isDigit = asciiChars digits ∧
      (asciiChars digits ++ rest).dropWhile Char.isDigit = rest := by
  rw [List.takeWhile_append_of_pos run.isDigit_asciiChars,
    List.dropWhile_append_of_pos run.isDigit_asciiChars]
  cases rest with
  | nil => exact ⟨List.append_nil _, rfl⟩
  | cons c tail =>
      have noDigit : ¬c.isDigit = true := by simp [stop c rfl]
      rw [List.takeWhile_cons_of_neg noDigit, List.dropWhile_cons_of_neg noDigit, List.append_nil]
      exact ⟨rfl, rfl⟩

theorem ExponentText.noDigit {exponent : Option (Bool × List UInt8)} {text : Input}
    (spelled : ExponentText exponent text) :
    ∀ c ∈ (asciiChars text).head?, c.isDigit = false ∧ c ≠ '.' := by
  cases spelled with
  | absent => exact nofun
  | present letter signed run =>
      rintro c ⟨⟩
      rcases letter with rfl | rfl
      · decide
      · decide

theorem splitDigits_asciiChars {whole : List UInt8} {fraction : Option (List UInt8)}
    {exponent : Option (Bool × List UInt8)} {text : Input} (run : DigitRun whole)
    (fractionRun : ∀ digits ∈ fraction, DigitRun digits) (spelled : ExponentText exponent text) :
    splitDigits (asciiChars whole ++ (asciiChars (fractionText fraction) ++ asciiChars text)) =
      (asciiChars whole, asciiChars (fraction.getD []), asciiChars text) := by
  have stop := spelled.noDigit
  cases fraction with
  | none =>
      obtain ⟨taken, left⟩ := run.span_asciiChars fun c first => (stop c first).1
      change splitDigits (asciiChars whole ++ asciiChars text) =
        (asciiChars whole, [], asciiChars text)
      rw [splitDigits, taken, left]
      split
      next rest point => exact absurd rfl (stop '.' (by rw [point]; rfl)).2
      next => rfl
  | some digits =>
      have pointStop : ∀ c ∈ ('.' :: (asciiChars digits ++ asciiChars text)).head?,
          c.isDigit = false := by
        rintro c ⟨⟩
        rfl
      obtain ⟨taken, left⟩ := run.span_asciiChars pointStop
      obtain ⟨fractionTaken, fractionLeft⟩ :=
        (fractionRun digits rfl).span_asciiChars fun c first => (stop c first).1
      change splitDigits (asciiChars whole ++ '.' :: (asciiChars digits ++ asciiChars text)) =
        (asciiChars whole, asciiChars digits, asciiChars text)
      rw [splitDigits, taken, left]
      simp only [fractionTaken, fractionLeft]

theorem toLower_of_isDigit {c : Char} (digit : c.isDigit = true) : c.toLower = c := by
  simp only [Char.isDigit, Bool.and_eq_true, decide_eq_true_eq, ge_iff_le,
    UInt32.le_iff_toNat_le] at digit
  have noUpper : ¬(c.val ≥ 'A'.val ∧ c.val ≤ 'Z'.val) := by
    rw [ge_iff_le, UInt32.le_iff_toNat_le]
    have nine_lt : '9'.val.toNat < 'A'.val.toNat := by decide
    omega
  exact dif_neg noUpper

namespace Literal

/-- The characters of a text that spells a literal are its numeral. -/
theorem Spells.ofText?_eq {literal : Literal} {text : Input} (spelled : literal.Spells text) :
    Numeral.ofText? (String.ofList (asciiChars text)) = some literal.numeral := by
  obtain ⟨exponent, exponentSpelled, rfl⟩ := spelled.parts
  have run := spelled.whole
  have sign := splitSign_minusText run literal.negative
    (asciiChars (fractionText literal.fraction) ++ asciiChars exponent)
  obtain ⟨c, tail, start, digit⟩ := run.exists_cons
    (asciiChars (fractionText literal.fraction) ++ asciiChars exponent)
  -- A body that begins with a digit is none of the words.
  have noWord (first : Char) (word : List Char) (letter : first.isDigit = false) :
      ¬(c :: tail).map Char.toLower = first :: word := by
    intro same
    rw [List.map_cons, toLower_of_isDigit digit] at same
    rw [(List.cons.inj same).1, letter] at digit
    cases digit
  have split := splitDigits_asciiChars run spelled.fraction exponentSpelled
  have someDigits : (asciiChars literal.whole).isEmpty = false := by
    simpa [asciiChars] using run.nonempty
  simp only [asciiChars_append, List.append_assoc, Numeral.ofText?, String.toList_ofList, sign]
  rw [start] at split ⊢
  rw [if_neg (noWord 'n' _ rfl), if_neg (not_or.mpr ⟨noWord 'i' _ rfl, noWord 'i' _ rfl⟩), split]
  have value : digitsValue (asciiChars literal.whole ++ asciiChars (literal.fraction.getD [])) =
      literal.significand := by
    rw [← asciiChars_append, digitsValue_asciiChars]
    rfl
  have size : (asciiChars (literal.fraction.getD [])).length = (literal.fraction.getD []).length :=
    List.length_map _
  simp only [someDigits, exponentOf?_asciiChars exponentSpelled, value, size, Bool.false_and,
    Bool.false_eq_true, if_false, Option.map_some]
  rfl

/-- A text that spells a literal needs no escapes. -/
theorem Spells.plain {literal : Literal} {text : Input} (spelled : literal.Spells text) :
    ∀ b ∈ text, PlainByte b := by
  obtain ⟨exponent, exponentSpelled, rfl⟩ := spelled.parts
  have minusPlain : ∀ b ∈ minusText literal.negative, PlainByte b := by
    cases literal.negative with
    | true => exact List.forall_mem_singleton.mpr (plainByte_of_sign (by simp))
    | false => exact nofun
  have fractionPlain : ∀ b ∈ fractionText literal.fraction, PlainByte b := by
    cases written : literal.fraction with
    | none => exact nofun
    | some digits =>
        exact List.forall_mem_cons.mpr
          ⟨plainByte_of_sign (by simp), (spelled.fraction digits written).plain⟩
  simp only [List.forall_mem_append]
  exact ⟨⟨⟨minusPlain, spelled.whole.plain⟩, fractionPlain⟩, exponentSpelled.plain⟩

end Literal

/-! ## Reading -/

section

variable {input : Input} {shorter : ([] : Input).length < input.length}

/-- A document that is a text is read as what the text spells. -/
theorem readDocument_of_text {text : String} {quantity : Float}
    (head : readHead input = .ok ⟨.text text, [], shorter⟩)
    (spelled : parse? text = some quantity) :
    readDocument readQuantity input = .ok quantity ∧
      ∀ depth, readDocument (readMeasure depth) input = .ok (.value quantity) := by
  have given : quantityOfText text = .ok quantity := by rw [quantityOfText, spelled]
  constructor
  · simp only [readDocument, readQuantity, head, quantityOfHead, given]
    rfl
  · intro depth
    have measure : Measure.ofValue (.text text) = .value quantity := by
      rw [Measure.ofValue, quantityOfValue, given]
    rw [readDocument, readMeasure, readValue.eq_1, head, ← measure]
    rfl

/-- A document that is a number is read as that number. -/
theorem readDocument_of_number {number : Number}
    (head : readHead input = .ok ⟨.number number, [], shorter⟩) :
    readDocument readQuantity input = .ok number.toFloat ∧
      ∀ depth, readDocument (readMeasure depth) input = .ok (.value number.toFloat) := by
  constructor
  · simp only [readDocument, readQuantity, head, quantityOfHead]
    rfl
  · intro depth
    rw [readDocument, readMeasure, readValue.eq_1, head]
    rfl

end

section

variable {literal : Literal} {text : Input}

/-- Between quotes a literal is read as the double nearest to its numeral. -/
theorem readDocument_quotation (spelled : literal.Spells text) :
    readDocument readQuantity (quotation text) = .ok literal.numeral.value ∧
      ∀ depth, readDocument (readMeasure depth) (quotation text) =
        .ok (.value literal.numeral.value) := by
  obtain ⟨shorter, head⟩ := readHead_quotation spelled.plain
  exact readDocument_of_text head (by rw [parse?, spelled.ofText?_eq, Option.map_some])

/-- A text that spells a literal begins with a minus sign or a digit. -/
theorem Literal.Spells.exists_cons (spelled : literal.Spells text) :
    ∃ b rest, text = b :: rest ∧ (b = byte '-' ∨ isDigit b = true) := by
  obtain ⟨exponent, _, rfl⟩ := spelled.parts
  cases literal.negative with
  | true => exact ⟨byte '-', _, rfl, .inl rfl⟩
  | false =>
      obtain ⟨b, tail, whole⟩ := List.exists_cons_of_ne_nil spelled.whole.nonempty
      rw [whole]
      refine ⟨b, _, rfl, .inr (spelled.whole.digit b ?_)⟩
      rw [whole]
      exact List.mem_cons_self

/-- Without quotes a text that is read as a number is that number. -/
theorem readHead_of_readNumber {number : Reading Number text.length} (spelled : literal.Spells text)
    (read : readNumber text = .ok number) :
    readHead text = .ok ⟨.number number.value, number.rest, number.shorter⟩ := by
  obtain ⟨b, rest, rfl, first⟩ := spelled.exists_cons
  have noNumber : ∀ mark ∈
      [32, 9, 10, 13, byte '[', byte '{', byte '"', byte 'n', byte 't', byte 'f'],
      ¬(mark = byte '-' ∨ isDigit mark = true) := by decide +kernel
  have apart : ∀ mark ∈ [32, 9, 10, 13, byte '[', byte '{', byte '"', byte 'n', byte 't', byte 'f'],
      b ≠ mark := fun mark member same => noNumber mark member (same ▸ first)
  simp only [List.forall_mem_cons] at apart
  obtain ⟨space, tab, feed, carriage, list, object, quote, null, yes, no, -⟩ := apart
  have noBlank : ¬isBlank b = true := by simp [isBlank, space, tab, feed, carriage]
  have start : skipBlank (b :: rest) = ⟨b :: rest, Nat.le_refl _⟩ :=
    Subtype.ext (List.dropWhile_cons_of_neg noBlank)
  have here : readHeadHere (b :: rest) =
      .ok ⟨.number number.value, number.rest, number.shorter⟩ := by
    rw [readHeadHere, if_neg list, if_neg object, if_neg quote, if_neg null, if_neg yes, if_neg no,
      if_pos first, read]
    rfl
  rw [readHead, start]
  dsimp only
  rw [here]
  rfl

end

end RouterTelemetry.Json
