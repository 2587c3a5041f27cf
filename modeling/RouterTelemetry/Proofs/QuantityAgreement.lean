import RouterTelemetry.Proofs.SoundTree
import RouterTelemetry.Proofs.TreeFormats

/-!
# Quantities and measures of one text

A quantity is read up to the head of a value, and a list or an object is refused at its opening
bracket.  A measure is read from the whole value.  Both make the same of every text: a measure
has a value where a quantity is read, and where it has none its reason is that of the refused
quantity.  A text that is no measure breaks the grammar, and is no quantity either.
-/

namespace RouterTelemetry.Json

/-! ## Refusals for the grammar -/

/-- A refusal, if there is one, is for the grammar of the text and not for the shape of a value. -/
def Grammatical {α : Type} (result : Except Fault α) : Prop :=
  ∀ fault, result = .error fault → fault.kind ≠ .data

section

variable {α β : Type} {result : Except Fault α}

theorem Grammatical.ok (value : α) : Grammatical (.ok value : Except Fault α) := by
  intro fault refused
  cases refused

theorem Grammatical.error {fault : Fault} (grammar : fault.kind ≠ .data) :
    Grammatical (.error fault : Except Fault α) := by
  intro other same
  cases same
  exact grammar

theorem Grammatical.malformed (flaw : Flaw) :
    Grammatical (.error (.malformed flaw) : Except Fault α) := by
  refine .error fun shape => ?_
  cases shape

theorem Grammatical.ended (construct : Construct) :
    Grammatical (.error (.ended construct) : Except Fault α) := by
  refine .error fun shape => ?_
  cases shape

theorem Grammatical.map (grammatical : Grammatical result) (f : α → β) :
    Grammatical (result.map f) :=
  fun fault refused => grammatical fault (map_eq_error_iff.mp refused)

theorem Grammatical.bind {next : α → Except Fault β} (grammatical : Grammatical result)
    (each : ∀ value, Grammatical (next value)) : Grammatical (result >>= next) := by
  cases result with
  | error fault => exact .error (grammatical fault rfl)
  | ok value => exact each value

theorem grammatical_outcome_iff {bound : Nat} {result : Except Fault (Reading α bound)} :
    Grammatical (outcome result) ↔ Grammatical result := by
  constructor
  · intro grammatical fault refused
    exact grammatical fault (by rw [refused]; rfl)
  · exact fun grammatical => grammatical.map _

end

/-! ### Words and numbers -/

theorem grammatical_readWord (word : List Char) (input : Input) :
    Grammatical (readWord word input) := by
  fun_induction readWord word input with
  | case1 | case4 => exact .ok _
  | case2 => exact .ended _
  | case5 => exact .malformed _
  | case3 _ _ _ fault refused ih => exact .error (ih fault refused)

section

variable {atEnd : Fault} (grammar : atEnd.kind ≠ .data) (input : Input)

include grammar

theorem grammatical_readDigits : Grammatical (readDigits atEnd input) := by
  cases input with
  | nil => exact .error grammar
  | cons b rest =>
      rw [readDigits]
      split
      · exact .ok _
      · exact .malformed _

theorem grammatical_readWhole : Grammatical (readWhole atEnd input) := by
  cases input with
  | nil => exact .error grammar
  | cons b rest =>
      rw [readWhole]
      split
      · split
        · exact .malformed _
        · exact .ok _
      · exact grammatical_readDigits grammar _

theorem grammatical_readFraction : Grammatical (readFraction atEnd input) := by
  cases input with
  | nil => exact .ok _
  | cons b rest =>
      rw [readFraction]
      split
      · split
        next fault refused => exact .error (grammatical_readDigits grammar rest fault refused)
        · exact .ok _
      · exact .ok _

theorem grammatical_readExponent : Grammatical (readExponent atEnd input) := by
  cases input with
  | nil => exact .ok _
  | cons b rest =>
      rw [readExponent]
      split
      · dsimp only
        split
        next fault refused => exact .error (grammatical_readDigits grammar _ fault refused)
        · exact .ok _
      · exact .ok _

theorem grammatical_literal : Grammatical (Literal.read atEnd input) := by
  rw [Literal.read]
  dsimp only
  split
  next fault refused => exact .error (grammatical_readWhole grammar _ fault refused)
  · split
    next fault refused => exact .error (grammatical_readFraction grammar _ fault refused)
    · split
      next fault refused => exact .error (grammatical_readExponent grammar _ fault refused)
      · exact .ok _

end

/-- A literal is refused for nothing but its size. -/
theorem grammatical_number (literal : Literal) : Grammatical literal.number := by
  rw [Literal.number]
  dsimp only
  split
  · exact .ok _
  · refine .map (fun fault refused => ?_) _
    rw [eq_numberOutOfRange_of_assemble refused]
    decide

theorem grammatical_readNumber (input : Input) : Grammatical (readNumber input) := by
  have grammar : (Fault.ended .value).kind ≠ .data := by decide
  rw [readNumber]
  split
  next fault refused => exact .error (grammatical_literal grammar input fault refused)
  · exact (grammatical_number _).map _

/-! ### Strings -/

theorem grammatical_readCodeUnit (input : Input) : Grammatical (readCodeUnit input) := by
  unfold readCodeUnit
  split
  · split
    · exact .ok _
    · exact .malformed _
  · exact .ended _

theorem grammatical_readTextByte (expected : UInt8) (otherwise : Flaw) (input : Input) :
    Grammatical (readTextByte expected otherwise input) := by
  cases input with
  | nil => exact .ended _
  | cons b rest =>
      rw [readTextByte]
      split
      · exact .ok _
      · exact .malformed _

theorem grammatical_readCodePoint (input : Input) : Grammatical (readCodePoint input) := by
  rw [readCodePoint]
  split
  next fault refused => exact .error (grammatical_readCodeUnit input fault refused)
  split_ifs
  · exact .malformed _
  · exact .ok _
  split
  next fault refused => exact .error (grammatical_readTextByte _ _ _ fault refused)
  split
  next fault refused => exact .error (grammatical_readTextByte _ _ _ fault refused)
  split
  next fault refused => exact .error (grammatical_readCodeUnit _ fault refused)
  split_ifs
  · exact .malformed _
  · exact .ok _

theorem grammatical_readEscape (input : Input) : Grammatical (readEscape input) := by
  cases input with
  | nil => exact .ended _
  | cons b rest =>
      rw [readEscape]
      split
      · exact .ok _
      · split_ifs
        · split
          next fault refused => exact .error (grammatical_readCodePoint rest fault refused)
          · exact .ok _
        · exact .malformed _

theorem grammatical_readTextBytes (input : Input) : Grammatical (readTextBytes input) := by
  fun_induction readTextBytes input with
  | case1 => exact .ended _
  | case6 => exact .malformed _
  | case2 | case5 | case8 => exact .ok _
  | case3 => exact .error (grammatical_readEscape _ _ ‹_›)
  | case4 _ _ _ _ _ _ _ ih => exact .error (ih _ ‹_›)
  | case7 _ _ _ _ _ _ _ ih => exact .error (ih _ ‹_›)

theorem grammatical_readQuotation (input : Input) : Grammatical (readQuotation input) := by
  rw [readQuotation]
  split
  next fault refused => exact .error (grammatical_readTextBytes input fault refused)
  split
  · exact .ok _
  · exact .malformed _

/-! ### Values -/

theorem grammatical_readHeadHere (input : Input) : Grammatical (readHeadHere input) := by
  cases input with
  | nil => exact .ended _
  | cons b rest =>
      rw [readHeadHere_cons]
      split_ifs
      · exact .ok _
      · exact .ok _
      · exact (grammatical_readQuotation rest).map _
      · exact (grammatical_readWord _ rest).map _
      · exact (grammatical_readWord _ rest).map _
      · exact (grammatical_readWord _ rest).map _
      · exact (grammatical_readNumber _).map _
      · exact .malformed _

theorem grammatical_readHead (input : Input) : Grammatical (readHead input) := by
  rw [readHead]
  exact (grammatical_readHeadHere _).map _

theorem grammatical_nextItem (first : Bool) (input : Input) :
    Grammatical (nextItem first input) := by
  rw [nextItem]
  split
  · exact .ended _
  · dsimp only
    split_ifs
    · exact .ok _
    · exact .ok _
    · split
      · exact .ended _
      · split_ifs
        · exact .malformed _
        · exact .ok _
    · exact .malformed _

theorem grammatical_nextMember (first : Bool) (input : Input) :
    Grammatical (nextMember first input) := by
  rw [nextMember]
  split
  · exact .ended _
  · dsimp only
    split_ifs
    · exact .ok _
    · exact (grammatical_readQuotation _).map _
    · exact .malformed _
    · split
      · exact .ended _
      · split_ifs
        · exact (grammatical_readQuotation _).map _
        · exact .malformed _
        · exact .malformed _
    · exact .malformed _

theorem grammatical_readColon (input : Input) : Grammatical (readColon input) := by
  rw [readColon]
  split
  · exact .ended _
  · split_ifs
    · exact .ok _
    · exact .malformed _

theorem grammatical_readItems {α : Type} {item : Reader α}
    (each : ∀ input, Grammatical (item input)) (first : Bool) (input : Input) :
    Grammatical (readItems item first input) := by
  fun_induction readItems item first input with
  | case1 => exact .error (grammatical_nextItem _ _ _ ‹_›)
  | case2 => exact .ok _
  | case3 => exact .error (each _ _ ‹_›)
  | case4 _ _ _ _ _ _ _ _ _ _ refused ih => exact .error (ih _ refused)
  | case5 => exact .ok _

/-- Every key is accepted, and its value is refused for the grammar only. -/
def AllGrammatical {σ : Type} (entry : String → σ → Except Fault (Reader σ)) : Prop :=
  ∀ key state, ∃ reader, entry key state = .ok reader ∧ ∀ input, Grammatical (reader input)

theorem grammatical_readMembers {σ : Type} {entry : String → σ → Except Fault (Reader σ)}
    (each : AllGrammatical entry) (first : Bool) (state : σ) (input : Input) :
    Grammatical (readMembers entry first state input) := by
  fun_induction readMembers entry first state input with
  | case1 => exact .error (grammatical_nextMember _ _ _ ‹_›)
  | case2 | case7 => exact .ok _
  | case3 first state input key _ _ _ _ refused =>
      obtain ⟨reader, accepted, _⟩ := each key state
      rw [refused] at accepted
      cases accepted
  | case4 => exact .error (grammatical_readColon _ _ ‹_›)
  | case5 first state input key _ _ _ reader chosen _ _ _ refused =>
      obtain ⟨_, accepted, grammatical⟩ := each key state
      rw [chosen] at accepted
      cases accepted
      exact .error (grammatical _ _ refused)
  | case6 _ _ _ _ _ _ _ _ _ _ _ _ _ _ _ refused ih => exact .error (ih _ refused)

/-- Reading any value looks at no shape. -/
theorem grammatical_readValue (depth : Nat) (input : Input) :
    Grammatical (readValue depth input) := by
  induction depth generalizing input with
  | zero =>
      rw [← grammatical_outcome_iff, outcome_readValue]
      refine (grammatical_outcome_iff.mpr (grammatical_readHead input)).bind fun head => ?_
      cases head.1 with
      | list | object => exact .malformed _
      | _ => exact .ok _
  | succ depth ih =>
      have entry : AllGrammatical (valueEntry depth) :=
        fun _ _ => ⟨_, rfl, fun input => (ih input).map _⟩
      rw [← grammatical_outcome_iff, outcome_readValue]
      refine (grammatical_outcome_iff.mpr (grammatical_readHead input)).bind fun head => ?_
      cases head.1 with
      | list => exact (grammatical_outcome_iff.mpr (grammatical_readItems ih true head.2)).map _
      | object =>
          exact (grammatical_outcome_iff.mpr
            (grammatical_readMembers entry true [] head.2)).map _
      | _ => exact .ok _

theorem grammatical_readEnd (input : Input) : Grammatical (readEnd input) := by
  rw [readEnd]
  split
  · exact .ok _
  · exact .malformed _

/-! ## One head, two readers -/

theorem readDocument_eq {α : Type} (reader : Reader α) (document : Input) :
    readDocument reader document = (do
      let read ← outcome (reader document)
      readEnd read.2
      return read.1) := by
  rw [readDocument]
  cases reader document <;> rfl

theorem outcome_readQuantity (input : Input) :
    outcome (readQuantity input) = (do
      let head ← outcome (readHead input)
      match quantityOfHead head.1 with
      | .ok quantity => return (quantity, head.2)
      | .error reason => .error (.misshapen reason)) := by
  rw [readQuantity]
  cases readHead input with
  | error fault => rfl
  | ok head =>
      simp only [outcome_ok, bind, Except.bind]
      cases quantityOfHead head.value <;> rfl

theorem outcome_readMeasure (depth : Nat) (input : Input) :
    outcome (readMeasure depth input) =
      (outcome (readValue depth input)).map fun read => (Measure.ofValue read.1, read.2) :=
  outcome_map_map _ _

section

variable {depth : Nat} {input rest : Input} {head : Head}
  (begins : outcome (readHead input) = .ok (head, rest))

include begins

/-- Where the head is a quantity, it is the whole value. -/
theorem exists_value_of_quantityOfHead {quantity : Float}
    (isQuantity : quantityOfHead head = .ok quantity) :
    ∃ value, outcome (readValue depth input) = .ok (value, rest) ∧
      quantityOfValue value = .ok quantity := by
  rw [outcome_readValue, begins]
  cases head with
  | number number => exact ⟨_, rfl, isQuantity⟩
  | text text => exact ⟨_, rfl, isQuantity⟩
  | null | boolean _ | list | object => cases isQuantity

/-- A value is the quantity that its head is, or is none for the same reason. -/
theorem quantityOfValue_of_readValue {value : Value} {after : Input}
    (read : outcome (readValue depth input) = .ok (value, after)) :
    quantityOfValue value = quantityOfHead head := by
  rw [outcome_readValue, begins] at read
  cases head with
  | null | boolean _ | number _ | text _ =>
      cases read
      rfl
  | list =>
      cases depth with
      | zero => cases read
      | succ depth =>
          obtain ⟨items, _, same⟩ := map_eq_ok_iff.mp read
          cases same
          rfl
  | object =>
      cases depth with
      | zero => cases read
      | succ depth =>
          obtain ⟨members, _, same⟩ := map_eq_ok_iff.mp read
          cases same
          rfl

end

/-! ## Agreement -/

/-- What a quantity and a measure of one text have to do with each other. -/
inductive Agree : Except Fault Float → Except Fault Measure → Prop where
  | value (quantity : Float) : Agree (.ok quantity) (.ok (.value quantity))
  | invalid (reason : Mismatch) : Agree (.error (.misshapen reason)) (.ok (.invalid reason))
  | refused {fault : Fault} (grammar : fault.kind ≠ .data) (other : Fault) :
      Agree (.error other) (.error fault)

/-- Every text is read alike as a quantity and as a measure. -/
theorem agree_readDocument (depth : Nat) (document : Input) :
    Agree (readDocument readQuantity document) (readDocument (readMeasure depth) document) := by
  rw [readDocument_eq, readDocument_eq, outcome_readQuantity, outcome_readMeasure]
  cases begins : outcome (readHead document) with
  | error fault =>
      have value : outcome (readValue depth document) = .error fault := by
        rw [outcome_readValue, begins]
        rfl
      rw [value]
      exact .refused
        (grammatical_outcome_iff.mpr (grammatical_readHead document) fault begins) fault
  | ok read =>
      obtain ⟨head, rest⟩ := read
      cases found : quantityOfHead head with
      | ok quantity =>
          obtain ⟨value, whole, same⟩ :=
            @exists_value_of_quantityOfHead depth _ _ _ begins _ found
          simp only [whole, found, bind, Except.bind, Except.map, pure, Except.pure]
          cases ends : readEnd rest with
          | error fault => exact .refused (grammatical_readEnd rest fault ends) fault
          | ok _ =>
              simp only [Measure.ofValue, same]
              exact .value quantity
      | error reason =>
          simp only [found, bind, Except.bind]
          cases whole : outcome (readValue depth document) with
          | error fault =>
              exact .refused
                (grammatical_outcome_iff.mpr (grammatical_readValue depth document) fault whole) _
          | ok read =>
              have same := quantityOfValue_of_readValue begins whole
              simp only [Except.map]
              cases ends : readEnd read.2 with
              | error fault => exact .refused (grammatical_readEnd _ fault ends) _
              | ok _ =>
                  simp only [Measure.ofValue, same, found]
                  exact .invalid reason

/-- A text is read alike as a quantity and as a measure.  The measure has a value exactly where
there is a quantity, and then it is that one.  Where the measure is invalid, the quantity is
refused for the shape of the text, in the words that the measure keeps.  The measure itself is
refused for nothing but the grammar, and there the quantity is refused as well. -/
theorem measure_agrees_with_quantity (document : Input) :
    (∀ quantity, Format.measure.decode document = .ok (.value quantity) ↔
      readDocument readQuantity document = .ok quantity) ∧
    (∀ reason, Format.measure.decode document = .ok (.invalid reason) →
      ∃ fault, readDocument readQuantity document = .error fault ∧
        fault.kind = .data ∧ fault.message = reason.message) ∧
    (∀ fault, Format.measure.decode document = .error fault →
      (fault.kind = .syntactic ∨ fault.kind = .eof) ∧
        ∃ other, readDocument readQuantity document = .error other) ∧
    Format.measure.decode document ≠ .ok .missing := by
  have agree : Agree (readDocument readQuantity document) (Format.measure.decode document) :=
    agree_readDocument depthLimit document
  generalize readDocument readQuantity document = strict at agree ⊢
  generalize Format.measure.decode document = tolerant at agree ⊢
  cases agree with
  | value quantity =>
      refine ⟨fun other => ?_, nofun, nofun, nofun⟩
      constructor
      · rintro ⟨⟩
        rfl
      · rintro ⟨⟩
        rfl
  | invalid reason =>
      refine ⟨fun _ => ⟨nofun, nofun⟩, ?_, nofun, nofun⟩
      rintro _ ⟨⟩
      exact ⟨_, rfl, rfl, rfl⟩
  | @refused fault grammar other =>
      refine ⟨fun _ => ⟨nofun, nofun⟩, nofun, ?_, nofun⟩
      rintro _ ⟨⟩
      refine ⟨?_, other, rfl⟩
      cases fault with
      | ended => exact .inr rfl
      | malformed => exact .inl rfl
      | misshapen => exact absurd rfl grammar

/-- An empty list is a measure without a value, and is no quantity for the same reason.  A word
with a comma after it is no measure, and is no quantity for another reason. -/
theorem no_quantity_no_value :
    (∃ reason fault, Format.measure.decode (['[', ']'].map byte) = .ok (.invalid reason) ∧
      readDocument readQuantity (['[', ']'].map byte) = .error fault ∧ fault.kind = .data ∧
        fault.message = reason.message) ∧
    Format.measure.decode (['t', 'r', 'u', 'e', ','].map byte) =
      .error (.malformed .trailingCharacters) ∧
    ∃ other, readDocument readQuantity (['t', 'r', 'u', 'e', ','].map byte) = .error other := by
  have list : Format.measure.decode (['[', ']'].map byte) =
      .ok (.invalid (.type .list quantityName)) :=
    Format.measure.decode_tree (.list .nil .none)
  have word : Format.measure.decode (['t', 'r', 'u', 'e', ','].map byte) =
      .error (.malformed .trailingCharacters) := rfl
  have agrees := measure_agrees_with_quantity (['[', ']'].map byte)
  obtain ⟨fault, refused, data, same⟩ := agrees.2.1 _ list
  exact ⟨⟨_, fault, list, refused, data, same⟩, word,
    ((measure_agrees_with_quantity _).2.2.1 _ word).2⟩

end RouterTelemetry.Json
