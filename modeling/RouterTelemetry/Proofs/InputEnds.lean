import RouterTelemetry.Proofs.Results
import RouterTelemetry.Proofs.TreeFormats

/-!
# What readers leave

A reader leaves an end of its input.
-/

namespace RouterTelemetry.Json

/-- What a reader leaves is an end of the input. -/
def Ends {α : Type} {bound : Nat} (input : Input) (result : Except Fault (Reading α bound)) :
    Prop :=
  ∀ reading, result = .ok reading → reading.rest <:+ input

section

variable {α β : Type} {bound : Nat} {input : Input} {result : Except Fault (Reading α bound)}

theorem Ends.error (fault : Fault) :
    Ends input (.error fault : Except Fault (Reading α bound)) := by
  intro reading read
  cases read

theorem Ends.ok {reading : Reading α bound} (suffix : reading.rest <:+ input) :
    Ends input (.ok reading) := by
  rintro _ ⟨⟩
  exact suffix

theorem Ends.trans {shorter : Input} (ends : Ends shorter result) (suffix : shorter <:+ input) :
    Ends input result :=
  fun reading read => (ends reading read).trans suffix

/-- Another value or another bound does not change what is left. -/
theorem Ends.map {bound' : Nat} {f : Reading α bound → Reading β bound'} (ends : Ends input result)
    (keeps : ∀ reading, (f reading).rest = reading.rest) : Ends input (result.map f) := by
  intro reading read
  obtain ⟨reading, found, rfl⟩ := map_eq_ok_iff.mp read
  rw [keeps]
  exact ends reading found

theorem ends_outcome_iff :
    Ends input result ↔ ∀ value rest, outcome result = .ok (value, rest) → rest <:+ input := by
  constructor
  · intro ends value rest read
    obtain ⟨shorter, found⟩ := eq_ok_of_outcome read
    exact ends _ found
  · intro ends reading read
    exact ends reading.value reading.rest (by rw [read]; rfl)

end

theorem skipBlank_suffix (input : Input) : (skipBlank input).val <:+ input :=
  List.dropWhile_suffix isBlank

theorem readWord_suffix {word : List Char} {input : Input} {rest : Rest input.length}
    (read : readWord word input = .ok rest) : rest.val <:+ input := by
  fun_induction readWord word input with
  | case1 =>
      cases read
      exact List.suffix_rfl
  | case2 | case3 | case5 => cases read
  | case4 _ _ _ _ read' ih =>
      cases read
      exact (ih read').trans (List.suffix_cons _ _)

/-! ### Strings -/

theorem ends_readCodeUnit (input : Input) : Ends input (readCodeUnit input) := by
  unfold readCodeUnit
  split
  · split
    · exact .ok ⟨[_, _, _, _], rfl⟩
    · exact .error _
  · exact .error _

theorem ends_readTextByte (expected : UInt8) (otherwise : Flaw) (input : Input) :
    Ends input (readTextByte expected otherwise input) := by
  cases input with
  | nil => exact .error _
  | cons b rest =>
      rw [readTextByte]
      split
      · exact .ok (List.suffix_cons _ _)
      · exact .error _

theorem ends_readCodePoint (input : Input) : Ends input (readCodePoint input) := by
  rw [readCodePoint]
  split
  · exact .error _
  next lead read =>
    have first := ends_readCodeUnit input lead read
    split_ifs
    · exact .error _
    · exact .ok first
    split
    · exact .error _
    next slash read =>
      have second := ends_readTextByte _ _ _ slash read
      split
      · exact .error _
      next letter read =>
        have third := ends_readTextByte _ _ _ letter read
        split
        · exact .error _
        next trail read =>
          have fourth := ends_readCodeUnit _ trail read
          split_ifs
          · exact .error _
          · exact .ok (fourth.trans (third.trans (second.trans first)))

theorem ends_readEscape (input : Input) : Ends input (readEscape input) := by
  cases input with
  | nil => exact .error _
  | cons b rest =>
      rw [readEscape]
      split
      · exact .ok (List.suffix_cons _ _)
      · split_ifs
        · split
          · exact .error _
          next point read =>
            exact .ok ((ends_readCodePoint rest point read).trans (List.suffix_cons _ _))
        · exact .error _

theorem ends_readTextBytes (input : Input) : Ends input (readTextBytes input) := by
  fun_induction readTextBytes input with
  | case1 | case3 | case4 | case6 | case7 => exact .error _
  | case2 => exact .ok (List.suffix_cons _ _)
  | case5 rest escape read _ tail read' _ ih =>
      have first := ends_readEscape rest escape read
      exact .ok ((ih tail read').trans (first.trans (List.suffix_cons _ _)))
  | case8 b rest _ _ _ tail read ih => exact .ok ((ih tail read).trans (List.suffix_cons _ _))

theorem ends_readQuotation (input : Input) : Ends input (readQuotation input) := by
  rw [readQuotation]
  split
  · exact .error _
  next bytes read =>
    split
    · exact .ok (ends_readTextBytes input bytes read)
    · exact .error _

theorem ends_skimEscape (input : Input) : Ends input (skimEscape input) := by
  cases input with
  | nil => exact .error _
  | cons b rest =>
      rw [skimEscape]
      split_ifs
      · exact .ok (List.suffix_cons _ _)
      · split
        · exact .error _
        next unit read =>
          exact .ok ((ends_readCodeUnit rest unit read).trans (List.suffix_cons _ _))
      · exact .error _

theorem ends_skimQuotation (input : Input) : Ends input (skimQuotation input) := by
  fun_induction skimQuotation input with
  | case1 | case3 | case4 | case6 | case7 => exact .error _
  | case2 => exact .ok (List.suffix_cons _ _)
  | case5 rest escape read _ tail read' _ ih =>
      have first := ends_skimEscape rest escape read
      exact .ok ((ih tail read').trans (first.trans (List.suffix_cons _ _)))
  | case8 b rest _ _ _ tail read ih => exact .ok ((ih tail read).trans (List.suffix_cons _ _))

/-! ### Heads -/

theorem ends_literal (atEnd : Fault) (input : Input) : Ends input (Literal.read atEnd input) := by
  intro literal read
  obtain ⟨text, _, whole⟩ := Literal.spells_of_read read
  exact ⟨text, whole.symm⟩

theorem ends_readNumber (input : Input) : Ends input (readNumber input) := by
  rw [readNumber]
  split
  · exact .error _
  next literal read =>
    intro number made
    obtain ⟨value, _, rfl⟩ := map_eq_ok_iff.mp made
    exact ends_literal _ input literal read

theorem ends_readHeadHere (input : Input) : Ends input (readHeadHere input) := by
  cases input with
  | nil => exact .error _
  | cons b rest =>
      have tail := List.suffix_cons b rest
      have word {letters : List Char} {head : Head} : Ends (b :: rest)
          ((readWord letters rest).map fun after : Rest rest.length =>
            (⟨head, after, Nat.lt_succ_of_le after.property⟩ :
              Reading Head (b :: rest).length)) := by
        intro reading read
        obtain ⟨after, found, rfl⟩ := map_eq_ok_iff.mp read
        exact (readWord_suffix found).trans tail
      rw [readHeadHere_cons]
      split_ifs
      · exact .ok tail
      · exact .ok tail
      · exact ((ends_readQuotation rest).trans tail).map fun _ => rfl
      · exact word
      · exact word
      · exact word
      · exact (ends_readNumber _).map fun _ => rfl
      · exact .error _

theorem ends_readHead (input : Input) : Ends input (readHead input) := by
  rw [readHead]
  exact ((ends_readHeadHere _).trans (skipBlank_suffix input)).map fun _ => rfl

/-- What is left after a turn. -/
def Turn.rest {α : Type} {bound : Nat} : Turn α bound → Input
  | .closed rest _ => rest
  | .next _ rest _ => rest

section

variable {input : Input} {b : UInt8} {rest : Input}

theorem suffix_of_skipBlank {le : (b :: rest).length ≤ input.length}
    (skipped : skipBlank input = ⟨b :: rest, le⟩) : b :: rest <:+ input := by
  have suffix := skipBlank_suffix input
  rwa [skipped] at suffix

theorem rest_suffix_of_skipBlank {le : (b :: rest).length ≤ input.length}
    (skipped : skipBlank input = ⟨b :: rest, le⟩) : rest <:+ input :=
  (List.suffix_cons b rest).trans (suffix_of_skipBlank skipped)

theorem nextItem_suffix {first : Bool} {turn : Turn Unit input.length}
    (decided : nextItem first input = .ok turn) : turn.rest <:+ input := by
  rw [nextItem] at decided
  split at decided
  · cases decided
  next b rest le skipped =>
    have whole := suffix_of_skipBlank skipped
    have suffix := rest_suffix_of_skipBlank skipped
    dsimp only at decided
    split_ifs at decided
    · cases decided
      exact suffix
    · cases decided
      exact whole
    · split at decided
      · cases decided
      next c after le' skipped' =>
        split_ifs at decided
        cases decided
        exact (suffix_of_skipBlank skipped').trans suffix

theorem nextMember_suffix {first : Bool} {turn : Turn String input.length}
    (decided : nextMember first input = .ok turn) : turn.rest <:+ input := by
  rw [nextMember] at decided
  split at decided
  · cases decided
  next b rest le skipped =>
    have suffix := rest_suffix_of_skipBlank skipped
    dsimp only at decided
    split_ifs at decided
    · cases decided
      exact suffix
    · obtain ⟨key, read, rfl⟩ := map_eq_ok_iff.mp decided
      exact (ends_readQuotation rest key read).trans suffix
    · split at decided
      · cases decided
      next c after le' skipped' =>
        split_ifs at decided
        obtain ⟨key, read, rfl⟩ := map_eq_ok_iff.mp decided
        exact (ends_readQuotation after key read).trans
          ((rest_suffix_of_skipBlank skipped').trans suffix)

theorem ends_readColon (input : Input) : Ends input (readColon input) := by
  rw [readColon]
  split
  · exact .error _
  next b rest le skipped =>
    split_ifs
    · exact .ok (rest_suffix_of_skipBlank skipped)
    · exact .error _

theorem ends_readListEnd (input : Input) : Ends input (readListEnd input) := by
  rw [readListEnd]
  split
  · exact .error _
  next b rest le skipped =>
    split_ifs
    · exact .ok (rest_suffix_of_skipBlank skipped)
    · split
      · exact .error _
      · split_ifs <;> exact .error _
    · exact .error _

end

/-! ### Passing over -/

mutual

theorem ends_skimValue (input : Input) : Ends input (skimValue input) := by
  rw [skimValue]
  split
  · exact .error _
  next b rest le skipped =>
    have whole := suffix_of_skipBlank skipped
    have suffix := rest_suffix_of_skipBlank skipped
    have shorter : rest.length < input.length := shorter_of_le le
    have word {letters : List Char} {after : Rest rest.length}
        (read : readWord letters rest = .ok after) : after.val <:+ input :=
      (readWord_suffix read).trans suffix
    dsimp only
    split_ifs
    · exact ((ends_skimItems true rest).trans suffix).map fun _ => rfl
    · exact ((ends_skimMembers true rest).trans suffix).map fun _ => rfl
    · exact ((ends_skimQuotation rest).trans suffix).map fun _ => rfl
    · split
      · exact .error _
      next after read => exact .ok (word read)
    · split
      · exact .error _
      next after read => exact .ok (word read)
    · split
      · exact .error _
      next after read => exact .ok (word read)
    · exact ((ends_literal _ (b :: rest)).trans whole).map fun _ => rfl
    · exact .error _
termination_by (input.length, 0)

theorem ends_skimItems (first : Bool) (input : Input) : Ends input (skimItems first input) := by
  rw [skimItems]
  split
  · exact .error _
  next b rest le skipped =>
    have whole := suffix_of_skipBlank skipped
    have suffix := rest_suffix_of_skipBlank skipped
    have shorter : rest.length < input.length := shorter_of_le le
    dsimp only
    split_ifs
    · exact .ok suffix
    · split
      · exact .error _
      next item read =>
        have item_suffix := (ends_skimValue (b :: rest) item read).trans whole
        have : item.rest.length < input.length := Nat.lt_of_lt_of_le item.shorter le
        exact ((ends_skimItems false item.rest).trans item_suffix).map fun _ => rfl
    · split
      · exact .error _
      next item read =>
        have item_suffix := (ends_skimValue rest item read).trans suffix
        have : item.rest.length < input.length := Nat.lt_trans item.shorter shorter
        exact ((ends_skimItems false item.rest).trans item_suffix).map fun _ => rfl
    · exact .error _
termination_by (input.length, 2)
decreasing_by all_goals (simp only [List.length_cons] at *; simp only [Prod.lex_def]; omega)

theorem ends_skimMembers (first : Bool) (input : Input) :
    Ends input (skimMembers first input) := by
  rw [skimMembers]
  split
  · exact .error _
  next b rest le skipped =>
    have whole := suffix_of_skipBlank skipped
    have suffix := rest_suffix_of_skipBlank skipped
    have shorter : rest.length < input.length := shorter_of_le le
    dsimp only
    split_ifs
    · exact .ok suffix
    · split
      · exact .error _
      next member read =>
        have member_suffix := (ends_skimMember (b :: rest) member read).trans whole
        have : member.rest.length < input.length := Nat.lt_of_lt_of_le member.shorter le
        exact ((ends_skimMembers false member.rest).trans member_suffix).map fun _ => rfl
    · split
      · exact .error _
      next member read =>
        have member_suffix := (ends_skimMember rest member read).trans suffix
        have : member.rest.length < input.length := Nat.lt_trans member.shorter shorter
        exact ((ends_skimMembers false member.rest).trans member_suffix).map fun _ => rfl
    · exact .error _
termination_by (input.length, 2)
decreasing_by all_goals (simp only [List.length_cons] at *; simp only [Prod.lex_def]; omega)

theorem ends_skimMember (input : Input) : Ends input (skimMember input) := by
  rw [skimMember]
  split
  · exact .error _
  next b rest le skipped =>
    have suffix := rest_suffix_of_skipBlank skipped
    split_ifs
    · split
      · exact .error _
      next key read =>
        have key_suffix := (ends_skimQuotation rest key read).trans suffix
        split
        · exact .error _
        next colon read' =>
          have colon_suffix := (ends_readColon key.rest colon read').trans key_suffix
          have : colon.rest.length < input.length :=
            Nat.lt_trans colon.shorter (Nat.lt_trans key.shorter (shorter_of_le le))
          exact ((ends_skimValue colon.rest).trans colon_suffix).map fun _ => rfl
    · exact .error _
termination_by (input.length, 1)

end

end RouterTelemetry.Json
