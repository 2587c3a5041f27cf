import RouterTelemetry.Proofs.LawfulPages
import RouterTelemetry.Proofs.LiteralAgreement
import RouterTelemetry.Proofs.SoundTree

/-!
# Tolerance of measures

A measure accepts every value, so a text in the place of a measure fails only where it has no
value at all.  The grammar has such texts: a number beyond every double, and a surrogate that is
no half of a pair.  Up to the limit of brackets these are all.  Any other text is a measure, and
an object with such a text in one of its measures keeps all its other members.
-/

namespace RouterTelemetry

open Json

/-- A measure that has been read is not missing. -/
theorem Measure.ofValue_ne_missing (value : Value) : Measure.ofValue value ≠ .missing := by
  rw [Measure.ofValue]
  cases quantityOfValue value <;> simp

namespace Json

/-! ## Texts that are measures -/

/-- An integer of at most 64 bits is in range. -/
theorem Spelling.inRange_of_integer {spelling : Spelling}
    (fits : spelling.literal.significand ≤ maxSignificand)
    (noFraction : spelling.literal.fraction = none)
    (noExponent : spelling.literal.exponent = none) : spelling.InRange :=
  ⟨_, Literal.number_of_integer fits noFraction noExponent⟩

section

variable {depth : Nat} {tree : Tree}

/-- A sound tree within the limit is a measure. -/
theorem Tree.exists_measure (sound : tree.Sound) (shallow : tree.depth ≤ depth) :
    ∃ value, tree.value depth = .ok value := by
  rcases tree.settled_value shallow with ⟨_, value, read⟩ | ⟨unsound, _⟩
  · exact ⟨value, read⟩
  · exact absurd sound unsound

/-- Any other tree within the limit has a flaw. -/
theorem Tree.exists_flaw (unsound : ¬tree.Sound) (shallow : tree.depth ≤ depth) :
    ∃ flaw ∈ grammaticalFlaws, tree.value depth = .error (.malformed flaw) := by
  rcases tree.settled_value shallow with ⟨sound, _⟩ | ⟨_, flawed⟩
  · exact absurd sound unsound
  · exact flawed

/-- Two readings of one tree are the same. -/
theorem Reads.unique {α : Type} {reader : Reader α} {first second : Except Fault α}
    (one : Reads reader tree first) (other : Reads reader tree second) : first = second := by
  have same := (one .none [] (by simp [Stops])).symm.trans (other .none [] (by simp [Stops]))
  cases first with
  | error fault =>
      cases second with
      | error _ =>
          cases same
          rfl
      | ok _ => cases same
  | ok value =>
      cases second with
      | error _ => cases same
      | ok _ =>
          cases same
          rfl

end

/-- A text between blanks is a measure if and only if it is sound, and a measure in an object
takes any such text: it is set to what the text is, and all other members stay.  A text that is
not sound fails the whole object.  The objects may be inside of others, as the bound on open
brackets is any; `Resource.lawful_pages` says that those of the pages are lawful. -/
theorem measure_accepts_sound {α : Type} {members : Members α} {written key : String}
    {get : α → Measure} {set : Measure → α → α} (lawful : members.Lawful)
    (holds : members.Holds written key get set) :
    (∀ (before after : Blank) (tree : Tree), tree.depth < 128 →
      (tree.Sound → ∃ measure, measure ≠ .missing ∧
        Format.measure.decode (before.bytes ++ (tree.text ++ after.bytes)) = .ok measure) ∧
      (¬tree.Sound → ∃ flaw ∈ grammaticalFlaws,
        Format.measure.decode (before.bytes ++ (tree.text ++ after.bytes)) =
          .error (.malformed flaw))) ∧
    (∀ (name : String) (blank record : α) (depth : Nat) (gap : Gap) (old new : Tree),
      Glyph.string gap.key = .ok written → new.depth ≤ depth →
      Reads ((Format.record name blank members).read (depth + 1)) (gap.fill old) (.ok record) →
      (new.Sound → ∃ measure, measure ≠ .missing ∧ Reads (readMeasure depth) new (.ok measure) ∧
        Reads ((Format.record name blank members).read (depth + 1)) (gap.fill new)
          (.ok (set measure record)) ∧
        get (set measure record) = measure ∧ members.AgreeBut key record (set measure record)) ∧
      (¬new.Sound → ∃ flaw ∈ grammaticalFlaws,
        Reads ((Format.record name blank members).read (depth + 1)) (gap.fill new)
          (.error (.malformed flaw)))) := by
  constructor
  · intro before after tree shallow
    have within : tree.depth ≤ depthLimit := Nat.le_of_lt_succ shallow
    rw [Format.decode_text, Format.ofTree]
    constructor
    · intro sound
      obtain ⟨value, read⟩ := tree.exists_measure sound within
      exact ⟨.ofValue value, Measure.ofValue_ne_missing value, by rw [read]; rfl⟩
    · intro unsound
      obtain ⟨flaw, listed, read⟩ := tree.exists_flaw unsound within
      exact ⟨flaw, listed, by rw [read]; rfl⟩
  · intro name blank record depth gap old new spelled shallow read
    have made := (reads_format _ _ _).unique read
    constructor
    · intro sound
      obtain ⟨value, valued⟩ := new.exists_measure sound shallow
      refine ⟨.ofValue value, Measure.ofValue_ne_missing value, ?_, ?_, ?_, ?_⟩
      · have measured := reads_format .measure depth new
        rw [Format.ofTree, valued] at measured
        exact measured
      · rw [← holds.ofTree_refill lawful spelled made valued]
        exact reads_format _ _ _
      · exact (holds.accessors lawful).get_set _ _
      · exact holds.agreeBut lawful _ _
    · intro unsound
      obtain ⟨flaw, listed, valued⟩ := new.exists_flaw unsound shallow
      refine ⟨flaw, listed, ?_⟩
      rw [← holds.ofTree_refill_error spelled made valued]
      exact reads_format _ _ _

/-! ## Two counters -/

theorem printed_of_isLower {c : Char} (lower : c.isLower = true) :
    32 ≤ c.toNat ∧ c ≠ '"' ∧ c ≠ '\\' := by
  refine ⟨?_, ?_, ?_⟩
  · simp only [Char.isLower, Bool.and_eq_true, decide_eq_true_eq] at lower
    exact Nat.le_trans (by decide) (UInt32.le_iff_toNat_le.mp lower.1)
  · rintro rfl
    exact absurd lower (by decide)
  · rintro rfl
    exact absurd lower (by decide)

/-- Lower case letters, as they are. -/
def Glyph.ofLetters (letters : List Char) (lower : letters.all Char.isLower = true) :
    List Glyph :=
  letters.attach.map fun letter =>
    have printed := printed_of_isLower (List.all_eq_true.mp lower letter.1 letter.2)
    .plain letter.1 printed.1 printed.2.1 printed.2.2

theorem DigitRun.of_all {digits : List UInt8} (nonempty : digits ≠ [])
    (digit : digits.all isDigit = true) : DigitRun digits :=
  ⟨nonempty, List.all_eq_true.mp digit⟩

/-- The number `7`. -/
def seven : Spelling where
  literal := ⟨false, [byte '7'], none, none⟩
  text := [byte '7']
  spells := ⟨.of_all (by decide) rfl, by simp, [], .absent, rfl⟩
  noLeadingZero := .inr (by decide)

/-- Two counters, of which the first one lacks its value. -/
def countersGap : Gap where
  front := .nil
  pad := .none
  blank := .none
  key := Glyph.ofLetters ['b', 'y', 't', 'e', 's'] rfl
  afterKey := .none
  beforeValue := .none
  more := .cons .none .none (Glyph.ofLetters ['p', 'a', 'c', 'k', 'e', 't', 's'] rfl) .none
    .none (.number seven) .nil
  last := .none

/-- The list `[7]`. -/
def listOfSeven : Tree :=
  .list (.cons .none .none (.number seven) .nil) .none

/-- A list in the place of a counter leaves the other counter. -/
theorem counters_accept_list :
    ∃ measure, measure ≠ .missing ∧
      Reads (Payload.Counters.format.read 127) (countersGap.fill listOfSeven)
        (.ok { packets := .value (Number.toFloat (.integer 7)), bytes := measure }) := by
  have made : Reads (Payload.Counters.format.read 127) (countersGap.fill .null)
      (.ok { packets := .value (Number.toFloat (.integer 7)),
             bytes := .invalid (.type .null quantityName) }) :=
    reads_format Payload.Counters.format 127 (countersGap.fill .null)
  obtain ⟨_, objects⟩ := @measure_accepts_sound _ _ "bytes" "bytes" Payload.Counters.bytes
    (fun v r => { r with bytes := v }) Payload.Counters.lawful.1
    (.later (by decide) (.here (.inl rfl)))
  have sound : listOfSeven.Sound := ⟨Spelling.inRange_of_integer (by decide) rfl rfl, trivial⟩
  obtain ⟨measure, present, _, read, _⟩ :=
    (objects "TrafficCounters" {} _ 126 countersGap .null listOfSeven rfl (by decide) made).1
      sound
  exact ⟨measure, present, read⟩

/-- The number `1e400`. -/
def huge : Spelling where
  literal := ⟨false, [byte '1'], none, some (false, [byte '4', byte '0', byte '0'])⟩
  text := [byte '1', byte 'e', byte '4', byte '0', byte '0']
  spells := ⟨.of_all (by decide) rfl, by simp, _,
    .present (.inl rfl) .bare (.of_all (by decide) rfl), rfl⟩
  noLeadingZero := .inr (by decide)

theorem number_huge : huge.literal.number = .error (.malformed .numberOutOfRange) := by
  have nonzero : ¬(Float.ofNat 1 == 0.0) = true := by decide +kernel
  have beyond : scaleBy (Float.ofNat 1) 400 = .error (.malformed .numberOutOfRange) := by
    rw [scaleBy, if_neg (by decide), if_neg nonzero, if_pos (by decide)]
  change (assemble 1 0 (some (false, [byte '4', byte '0', byte '0']))).map _ = _
  rw [assemble, if_neg (by decide)]
  change (scaleBy (Float.ofNat 1) 400).map _ = _
  rw [beyond]
  rfl

/-- The first half of a pair of surrogates: `\ud800`. -/
def half : CodeUnit :=
  ⟨⟨byte 'd', 13, rfl⟩, ⟨byte '8', 8, rfl⟩, ⟨byte '0', 0, rfl⟩, ⟨byte '0', 0, rfl⟩⟩

/-- A number beyond every double and half a pair of surrogates are texts of the grammar, and
fail where a measure is read; the number fails the object that holds it. -/
theorem measure_refuses_grammatical :
    (Tree.number huge).text = ['1', 'e', '4', '0', '0'].map byte ∧
    Format.measure.decode (Tree.number huge).text = .error (.malformed .numberOutOfRange) ∧
    (Tree.string [.coded half]).text = ['"', '\\', 'u', 'd', '8', '0', '0', '"'].map byte ∧
    Format.measure.decode (Tree.string [.coded half]).text =
      .error (.malformed .unfinishedSurrogatePair) ∧
    (countersGap.fill (.number huge)).text =
      "\x7b\"bytes\":1e400,\"packets\":7\x7d".toList.map byte ∧
    Payload.Counters.format.decode (countersGap.fill (.number huge)).text =
      .error (.malformed .numberOutOfRange) := by
  refine ⟨rfl, ?_, rfl, ?_, rfl, ?_⟩
  · rw [Format.decode_tree, Format.ofTree, Tree.value, number_huge]
    rfl
  · rw [Format.decode_tree]
    rfl
  · have made : Payload.Counters.format.ofTree 127 (countersGap.fill .null) = .ok
        { packets := .value (Number.toFloat (.integer 7)),
          bytes := .invalid (.type .null quantityName) } := rfl
    have refused : (Tree.number huge).value 126 = .error (.malformed .numberOutOfRange) := by
      rw [Tree.value, number_huge]
      rfl
    have holds := @Members.Holds.later Payload.Counters "bytes" "bytes" Payload.Counters.bytes
      (fun v r => { r with bytes := v })
    rw [Format.decode_tree]
    exact Members.Holds.ofTree_refill_error (holds (by decide) (.here (.inl rfl))) rfl made refused

end Json

end RouterTelemetry
