import RouterTelemetry.Proofs.QuotedLiteral
import RouterTelemetry.Proofs.StringReading

/-!
# Reading heads

What a reader finds at the beginning of a tree depends on the tree alone, whatever blanks stand
before it and whatever follows it, as long as that does not go on with a number.
-/

namespace RouterTelemetry.Json

/-- What has been read and what is left of the input, without its bound. -/
def remainder {α : Type} {bound : Nat} (result : Except Fault (α × Rest bound)) :
    Except Fault (α × Input) :=
  result.map fun read => (read.1, read.2.val)

/-! ## Numbers -/

/-- No digit stands first. -/
def NoDigit (rest : Input) : Prop :=
  ∀ b ∈ rest.head?, isDigit b = false

/-- What stands first does not go on with a number. -/
def Stops (rest : Input) : Prop :=
  ∀ b ∈ rest.head?, isDigit b = false ∧ b ∉ [byte '.', byte 'e', byte 'E']

theorem Stops.noDigit {rest : Input} (stops : Stops rest) : NoDigit rest := fun b first =>
  (stops b first).1

section

variable (atEnd : Fault) {digits rest : Input}

theorem takeWhile_isDigit (digit : ∀ b ∈ digits, isDigit b = true) (noDigit : NoDigit rest) :
    (digits ++ rest).takeWhile isDigit = digits ∧ (digits ++ rest).dropWhile isDigit = rest := by
  rw [List.takeWhile_append_of_pos digit, List.dropWhile_append_of_pos digit]
  cases rest with
  | nil => simp
  | cons b rest =>
      have first : ¬isDigit b = true := by simp [noDigit b rfl]
      simp [first]

theorem outcome_readDigits (run : DigitRun digits) (noDigit : NoDigit rest) :
    outcome (readDigits atEnd (digits ++ rest)) = .ok (digits, rest) := by
  obtain ⟨b, more, rfl⟩ := List.exists_cons_of_ne_nil run.nonempty
  obtain ⟨digit, digits⟩ := List.forall_mem_cons.mp run.digit
  obtain ⟨taken, left⟩ := takeWhile_isDigit digits noDigit
  rw [List.cons_append, readDigits, if_pos digit]
  simp [taken, skipDigits, left]

theorem outcome_readWhole (run : DigitRun digits)
    (noLeadingZero : digits = [byte '0'] ∨ digits.head? ≠ some (byte '0'))
    (noDigit : NoDigit rest) : outcome (readWhole atEnd (digits ++ rest)) = .ok (digits, rest) := by
  rcases noLeadingZero with rfl | other
  · have alone : ¬(rest.head?.map isDigit).getD false = true := by
      cases first : rest.head? with
      | none => simp
      | some b => simp [noDigit b first]
    rw [List.cons_append, List.nil_append, readWhole, if_pos rfl, if_neg alone]
    rfl
  · have whole := outcome_readDigits atEnd run noDigit
    obtain ⟨b, more, rfl⟩ := List.exists_cons_of_ne_nil run.nonempty
    have noZero : b ≠ byte '0' := by simpa using other
    rw [List.cons_append] at whole ⊢
    rw [readWhole, if_neg noZero]
    exact whole

theorem remainder_readFraction {fraction : Option (List UInt8)}
    (run : ∀ digits ∈ fraction, DigitRun digits) (noDigit : NoDigit rest)
    (noPoint : ∀ b ∈ rest.head?, b ≠ byte '.') :
    remainder (readFraction atEnd (fractionText fraction ++ rest)) = .ok (fraction, rest) := by
  cases fraction with
  | none =>
      change remainder (readFraction atEnd rest) = .ok (none, rest)
      cases rest with
      | nil => rfl
      | cons b rest =>
          rw [readFraction, if_neg (noPoint b rfl)]
          rfl
  | some digits =>
      obtain ⟨shorter, read⟩ := eq_ok_of_outcome
        (outcome_readDigits atEnd (run digits rfl) noDigit)
      change remainder (readFraction atEnd (byte '.' :: (digits ++ rest))) = .ok (some digits, rest)
      rw [readFraction, if_pos rfl, read]
      rfl

theorem readSign_append {negative : Bool} {sign : Input} (signed : ExponentSign negative sign)
    (run : DigitRun digits) (rest : Input) :
    (readSign (sign ++ (digits ++ rest))).1 = negative ∧
      (readSign (sign ++ (digits ++ rest))).2.val = digits ++ rest := by
  obtain ⟨b, more, rfl⟩ := List.exists_cons_of_ne_nil run.nonempty
  have digit := run.digit b (by simp)
  cases signed with
  | minus => exact ⟨rfl, rfl⟩
  | plus => exact ⟨rfl, rfl⟩
  | bare =>
      have noMinus : b ≠ byte '-' := by
        rintro rfl
        exact absurd digit (by decide)
      have noPlus : b ≠ byte '+' := by
        rintro rfl
        exact absurd digit (by decide)
      simp [readSign, noMinus, noPlus]

theorem readMinus_append (negative : Bool) (run : DigitRun digits) (rest : Input) :
    (readMinus (minusText negative ++ (digits ++ rest))).1 = negative ∧
      (readMinus (minusText negative ++ (digits ++ rest))).2.val = digits ++ rest := by
  obtain ⟨b, more, rfl⟩ := List.exists_cons_of_ne_nil run.nonempty
  have digit := run.digit b (by simp)
  cases negative with
  | true => exact ⟨rfl, rfl⟩
  | false =>
      have noMinus : b ≠ byte '-' := by
        rintro rfl
        exact absurd digit (by decide)
      simp [readMinus, minusText, noMinus]

theorem remainder_readExponent {exponent : Option (Bool × List UInt8)} {text : Input}
    (spelled : ExponentText exponent text) (stops : Stops rest) :
    remainder (readExponent atEnd (text ++ rest)) = .ok (exponent, rest) := by
  cases spelled with
  | absent =>
      change remainder (readExponent atEnd rest) = .ok (none, rest)
      cases rest with
      | nil => rfl
      | cons b rest =>
          have noLetter : ¬(b = byte 'e' ∨ b = byte 'E') := by
            rintro (rfl | rfl)
            · exact (stops _ rfl).2 (by simp)
            · exact (stops _ rfl).2 (by simp)
          rw [readExponent, if_neg noLetter]
          rfl
  | @present mark negative sign digits letter signed run =>
      obtain ⟨sign_eq, left⟩ := readSign_append signed run rest
      rw [List.cons_append, List.append_assoc, readExponent, if_pos letter]
      rcases first : readSign (sign ++ (digits ++ rest)) with ⟨found, signless, le⟩
      rw [first] at sign_eq left
      dsimp only at sign_eq left ⊢
      subst sign_eq left
      obtain ⟨shorter, read⟩ := eq_ok_of_outcome
        (outcome_readDigits atEnd run stops.noDigit)
      rw [read]
      rfl

/-- What follows a fraction or the whole digits is an exponent or what comes after. -/
theorem ExponentText.follows {exponent : Option (Bool × List UInt8)} {text : Input}
    (spelled : ExponentText exponent text) (stops : Stops rest) :
    ∀ b ∈ (text ++ rest).head?, isDigit b = false ∧ b ≠ byte '.' := by
  cases spelled with
  | absent =>
      intro b first
      obtain ⟨noDigit, others⟩ := stops b first
      exact ⟨noDigit, fun same => others (by simp [same])⟩
  | present letter signed run =>
      rintro b ⟨⟩
      rcases letter with rfl | rfl
      · decide
      · decide

/-- A literal is read part by part. -/
theorem outcome_read (atEnd : Fault) (input : Input) :
    outcome (Literal.read atEnd input) = do
      let whole ← outcome (readWhole atEnd (readMinus input).2.val)
      let fraction ← remainder (readFraction atEnd whole.2)
      let exponent ← remainder (readExponent atEnd fraction.2)
      return (⟨(readMinus input).1, whole.1, fraction.1, exponent.1⟩, exponent.2) := by
  unfold Literal.read
  rcases readMinus input with ⟨negative, unsigned, le⟩
  dsimp only
  cases readWhole atEnd unsigned with
  | error fault => rfl
  | ok whole =>
      dsimp only
      cases second : readFraction atEnd whole.rest with
      | error fault => simp [bind, Except.bind, remainder, Except.map, second]
      | ok fraction =>
          obtain ⟨fraction, afterFraction⟩ := fraction
          dsimp only
          cases third : readExponent atEnd afterFraction.val with
          | error fault => simp [bind, Except.bind, remainder, Except.map, second, third]
          | ok exponent =>
              simp [bind, Except.bind, pure, Except.pure, remainder, Except.map, second, third]

/-- A spelling is read as its literal. -/
theorem outcome_readLiteral (spelling : Spelling) (stops : Stops rest) :
    outcome (Literal.read atEnd (spelling.text ++ rest)) = .ok (spelling.literal, rest) := by
  obtain ⟨literal, text, ⟨wholeRun, fractionRun, exponentText, spelled, rfl⟩, noLeadingZero⟩ :=
    spelling
  have follows := spelled.follows stops
  have wholeStops : NoDigit (fractionText literal.fraction ++ (exponentText ++ rest)) := by
    cases literal.fraction with
    | none => exact fun b first => (follows b first).1
    | some digits =>
        rintro b ⟨⟩
        rfl
  obtain ⟨negative_eq, unsigned⟩ := readMinus_append literal.negative wholeRun
    (fractionText literal.fraction ++ (exponentText ++ rest))
  have first := outcome_readWhole atEnd wholeRun noLeadingZero wholeStops
  have second := remainder_readFraction atEnd fractionRun
    (fun b begins => (follows b begins).1) (fun b begins => (follows b begins).2)
  have third := remainder_readExponent atEnd spelled stops
  have split : minusText literal.negative ++ literal.whole ++ fractionText literal.fraction ++
      exponentText ++ rest = minusText literal.negative ++
        (literal.whole ++ (fractionText literal.fraction ++ (exponentText ++ rest))) := by
    simp only [List.append_assoc]
  dsimp only
  rw [split, outcome_read, negative_eq, unsigned, first]
  simp only [bind, Except.bind, second, third, pure, Except.pure]

theorem outcome_readNumber (spelling : Spelling) (stops : Stops rest) :
    outcome (readNumber (spelling.text ++ rest)) =
      spelling.literal.number.map fun number => (number, rest) := by
  obtain ⟨shorter, read⟩ := eq_ok_of_outcome
    (outcome_readLiteral (.ended .value) spelling stops)
  rw [readNumber, read]
  dsimp only
  cases spelling.literal.number <;> rfl

end

/-! ## Beginnings -/

/-- A tree may begin with this byte. -/
def IsOpener (b : UInt8) : Prop :=
  b ∈ [byte 'n', byte 't', byte 'f', byte '"', byte '[', byte '{', byte '-'] ∨ isDigit b = true

/-- A byte at which a tree may begin separates nothing. -/
theorem IsOpener.apart {b : UInt8} (opener : IsOpener b) :
    isBlank b = false ∧ b ≠ byte ']' ∧ b ≠ byte '}' ∧ b ≠ byte ',' := by
  rcases opener with listed | digit
  · simp only [List.mem_cons, List.not_mem_nil, or_false] at listed
    rcases listed with rfl | rfl | rfl | rfl | rfl | rfl | rfl <;> decide
  · refine ⟨?_, ?_, ?_, ?_⟩
    · have range := isDigit_iff.mp digit
      rw [Bool.eq_false_iff]
      intro blank
      simp only [isBlank, Bool.or_eq_true, beq_iff_eq] at blank
      rcases blank with ((rfl | rfl) | rfl) | rfl <;> exact absurd digit (by decide)
    all_goals
      rintro rfl
      exact absurd digit (by decide)

/-- A byte at which a number may begin begins nothing else. -/
theorem noMark_of_number {b : UInt8} (first : b = byte '-' ∨ isDigit b = true) :
    b ≠ byte '[' ∧ b ≠ byte '{' ∧ b ≠ byte '"' ∧ b ≠ byte 'n' ∧ b ≠ byte 't' ∧ b ≠ byte 'f' := by
  rcases first with rfl | digit
  · decide
  · refine ⟨?_, ?_, ?_, ?_, ?_, ?_⟩
    all_goals
      rintro rfl
      exact absurd digit (by decide)

theorem Tree.exists_opener (tree : Tree) : ∃ b rest, tree.text = b :: rest ∧ IsOpener b := by
  cases tree with
  | null => exact ⟨_, _, rfl, .inl (by simp)⟩
  | boolean value => cases value <;> exact ⟨_, _, rfl, .inl (by simp)⟩
  | number spelling =>
      obtain ⟨b, rest, text_eq, first⟩ := spelling.spells.exists_cons
      refine ⟨b, rest, text_eq, ?_⟩
      rcases first with rfl | digit
      · exact .inl (by simp)
      · exact .inr digit
  | string glyphs => exact ⟨_, _, rfl, .inl (by simp)⟩
  | list items last => exact ⟨_, _, rfl, .inl (by simp)⟩
  | object entries last => exact ⟨_, _, rfl, .inl (by simp)⟩

/-- Blanks are skipped up to a byte that is none. -/
theorem skipBlank_append (blank : Blank) {b : UInt8} (noBlank : isBlank b = false) (rest : Input) :
    (skipBlank (blank.bytes ++ b :: rest)).val = b :: rest := by
  have first : ¬isBlank b = true := by simp [noBlank]
  change (blank.bytes ++ b :: rest).dropWhile isBlank = b :: rest
  rw [List.dropWhile_append_of_pos blank.blank, List.dropWhile_cons_of_neg first]

theorem exists_skipBlank {input here : Input} (skipped : (skipBlank input).val = here) :
    ∃ le, skipBlank input = ⟨here, le⟩ :=
  ⟨skipped ▸ (skipBlank input).property, Subtype.ext skipped⟩

/-! ## Heads -/

/-- The head of a tree. -/
def Tree.head : Tree → Except Fault Head
  | .null => .ok .null
  | .boolean value => .ok (.boolean value)
  | .number spelling => spelling.literal.number.map .number
  | .string glyphs => (Glyph.string glyphs).map .text
  | .list _ _ => .ok .list
  | .object _ _ => .ok .object

/-- The text of a tree behind its head. -/
def Tree.afterHead : Tree → Input
  | .null | .boolean _ | .number _ | .string _ => []
  | .list items last => items.text true ++ (last.bytes ++ [byte ']'])
  | .object entries last => entries.text true ++ (last.bytes ++ [byte '}'])

theorem exists_readWord (word : List Char) (rest : Input) :
    ∃ le, readWord word (wordText word ++ rest) = .ok ⟨rest, le⟩ := by
  induction word with
  | nil => exact ⟨Nat.le_refl _, rfl⟩
  | cons c word ih =>
      obtain ⟨le, read⟩ := ih
      refine ⟨Nat.le_succ_of_le le, ?_⟩
      change readWord (c :: word) (byte c :: (wordText word ++ rest)) = _
      rw [readWord, if_pos rfl, read]
      rfl

theorem outcome_readHeadHere (tree : Tree) {rest : Input} (stops : Stops rest) :
    outcome (readHeadHere (tree.text ++ rest)) =
      tree.head.map fun head => (head, tree.afterHead ++ rest) := by
  cases tree with
  | null =>
      obtain ⟨le, word⟩ := exists_readWord ['u', 'l', 'l'] rest
      change outcome (readHeadHere (byte 'n' :: (wordText ['u', 'l', 'l'] ++ rest))) = _
      rw [readHeadHere, if_neg (by decide), if_neg (by decide), if_neg (by decide), if_pos rfl]
      dsimp only
      rw [word]
      rfl
  | boolean value =>
      cases value with
      | true =>
          obtain ⟨le, word⟩ := exists_readWord ['r', 'u', 'e'] rest
          change outcome (readHeadHere (byte 't' :: (wordText ['r', 'u', 'e'] ++ rest))) = _
          rw [readHeadHere, if_neg (by decide), if_neg (by decide), if_neg (by decide),
            if_neg (by decide), if_pos rfl]
          dsimp only
          rw [word]
          rfl
      | false =>
          obtain ⟨le, word⟩ := exists_readWord ['a', 'l', 's', 'e'] rest
          change outcome (readHeadHere (byte 'f' :: (wordText ['a', 'l', 's', 'e'] ++ rest))) = _
          rw [readHeadHere, if_neg (by decide), if_neg (by decide), if_neg (by decide),
            if_neg (by decide), if_neg (by decide), if_pos rfl]
          dsimp only
          rw [word]
          rfl
  | number spelling =>
      obtain ⟨b, more, text_eq, first⟩ := spelling.spells.exists_cons
      obtain ⟨list, object, quote, null, yes, no⟩ := noMark_of_number first
      have number := outcome_readNumber spelling stops
      rw [Tree.text, Tree.head, Tree.afterHead]
      rw [text_eq, List.cons_append] at number ⊢
      rw [readHeadHere, if_neg list, if_neg object, if_neg quote, if_neg null, if_neg yes,
        if_neg no, if_pos first, outcome_map_map, number]
      cases spelling.literal.number <;> rfl
  | string glyphs =>
      have text := outcome_readQuotation glyphs rest
      have text_eq : (Tree.string glyphs).text ++ rest =
          byte '"' :: (glyphs.flatMap Glyph.text ++ byte '"' :: rest) := by
        simp [Tree.text, Glyph.quoted, quotation]
      rw [text_eq, readHeadHere, if_neg (by decide), if_neg (by decide), if_pos rfl]
      rw [Tree.head, Tree.afterHead]
      cases read : Glyph.string glyphs with
      | error fault =>
          rw [read] at text
          rw [eq_error_of_outcome text]
          rfl
      | ok string =>
          rw [read] at text
          obtain ⟨shorter, quoted⟩ := eq_ok_of_outcome text
          rw [quoted]
          rfl
  | list items last =>
      rw [Tree.text, List.cons_append, readHeadHere, if_pos rfl]
      rfl
  | object entries last =>
      rw [Tree.text, List.cons_append, readHeadHere, if_neg (by decide), if_pos rfl]
      rfl

/-- The head of a tree behind blanks. -/
theorem outcome_readHead (blank : Blank) (tree : Tree) {rest : Input} (stops : Stops rest) :
    outcome (readHead (blank.bytes ++ (tree.text ++ rest))) =
      tree.head.map fun head => (head, tree.afterHead ++ rest) := by
  rw [← outcome_readHeadHere tree stops]
  obtain ⟨b, more, text_eq, opener⟩ := tree.exists_opener
  have skipped := skipBlank_append blank opener.apart.1 (more ++ rest)
  rw [← List.cons_append, ← text_eq] at skipped
  obtain ⟨le, start⟩ := exists_skipBlank skipped
  rw [readHead, start]
  exact outcome_map_widen _ le

/-- A head is a bracket, a string, a word or a number, as its first byte tells. -/
theorem readHeadHere_cons (b : UInt8) (rest : Input) :
    readHeadHere (b :: rest) =
      if b = byte '[' then .ok ⟨.list, rest, rest_shorter b rest⟩
      else if b = byte '{' then .ok ⟨.object, rest, rest_shorter b rest⟩
      else if b = byte '"' then (readQuotation rest).map fun text =>
        ⟨.text text.value, text.rest, Nat.lt_succ_of_lt text.shorter⟩
      else if b = byte 'n' then (readWord ['u', 'l', 'l'] rest).map fun after =>
        ⟨.null, after, Nat.lt_succ_of_le after.property⟩
      else if b = byte 't' then (readWord ['r', 'u', 'e'] rest).map fun after =>
        ⟨.boolean true, after, Nat.lt_succ_of_le after.property⟩
      else if b = byte 'f' then (readWord ['a', 'l', 's', 'e'] rest).map fun after =>
        ⟨.boolean false, after, Nat.lt_succ_of_le after.property⟩
      else if b = byte '-' ∨ isDigit b then (readNumber (b :: rest)).map fun number =>
        number.map .number
      else .error (.malformed .expectedValue) := by
  rw [readHeadHere]
  dsimp only
  cases readQuotation rest <;> cases readWord ['u', 'l', 'l'] rest <;>
    cases readWord ['r', 'u', 'e'] rest <;> cases readWord ['a', 'l', 's', 'e'] rest <;> rfl

end RouterTelemetry.Json
