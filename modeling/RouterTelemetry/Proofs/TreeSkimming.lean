import RouterTelemetry.Json.Skim
import RouterTelemetry.Proofs.TreeReading

/-!
# Passing over trees

Every tree can be passed over: neither the depth of its brackets nor the size of its numbers nor
the pairs in its strings matter to a reader that keeps nothing.
-/

namespace RouterTelemetry.Json

/-! ## One step -/

section

variable {input rest : Input} {b : UInt8}

/-- How a value goes on is decided by its first byte. -/
theorem outcome_skimValue (skipped : (skipBlank input).val = b :: rest) :
    outcome (skimValue input) =
      if b = byte '[' then outcome (skimItems true rest)
      else if b = byte '{' then outcome (skimMembers true rest)
      else if b = byte '"' then outcome (skimQuotation rest)
      else if b = byte 'n' then (readWord ['u', 'l', 'l'] rest).map fun after => ((), after.val)
      else if b = byte 't' then (readWord ['r', 'u', 'e'] rest).map fun after => ((), after.val)
      else if b = byte 'f' then
        (readWord ['a', 'l', 's', 'e'] rest).map fun after => ((), after.val)
      else if b = byte '-' ∨ isDigit b = true then
        (outcome (Literal.read (.malformed .invalidNumber) (b :: rest))).map fun read =>
          ((), read.2)
      else .error (.malformed .expectedValue) := by
  rw [skimValue.eq_def]
  obtain ⟨le, start⟩ := exists_skipBlank skipped
  rw [start]
  dsimp only
  split_ifs
  · exact outcome_map_widen _ _
  · exact outcome_map_widen _ _
  · exact outcome_map_widen _ _
  · cases readWord ['u', 'l', 'l'] rest <;> rfl
  · cases readWord ['r', 'u', 'e'] rest <;> rfl
  · cases readWord ['a', 'l', 's', 'e'] rest <;> rfl
  · exact outcome_map_map_widen _ _ _
  · rfl

theorem outcome_skimItems (first : Bool) (skipped : (skipBlank input).val = b :: rest) :
    outcome (skimItems first input) =
      if b = byte ']' then .ok ((), rest)
      else if first then do
        let item ← outcome (skimValue (b :: rest))
        outcome (skimItems false item.2)
      else if b = byte ',' then do
        let item ← outcome (skimValue rest)
        outcome (skimItems false item.2)
      else .error (.malformed .expectedCommaOrBracket) := by
  rw [skimItems.eq_def]
  obtain ⟨le, start⟩ := exists_skipBlank skipped
  rw [start]
  dsimp only
  split_ifs
  · rfl
  · cases skimValue (b :: rest) with
    | error fault => rfl
    | ok item => exact outcome_map_widen _ _
  · cases skimValue rest with
    | error fault => rfl
    | ok item => exact outcome_map_widen _ _
  · rfl

theorem outcome_skimMembers (first : Bool) (skipped : (skipBlank input).val = b :: rest) :
    outcome (skimMembers first input) =
      if b = byte '}' then .ok ((), rest)
      else if first then do
        let member ← outcome (skimMember (b :: rest))
        outcome (skimMembers false member.2)
      else if b = byte ',' then do
        let member ← outcome (skimMember rest)
        outcome (skimMembers false member.2)
      else .error (.malformed .expectedCommaOrBrace) := by
  rw [skimMembers.eq_def]
  obtain ⟨le, start⟩ := exists_skipBlank skipped
  rw [start]
  dsimp only
  split_ifs
  · rfl
  · cases skimMember (b :: rest) with
    | error fault => rfl
    | ok member => exact outcome_map_widen _ _
  · cases skimMember rest with
    | error fault => rfl
    | ok member => exact outcome_map_widen _ _
  · rfl

theorem outcome_skimMember (skipped : (skipBlank input).val = byte '"' :: rest) :
    outcome (skimMember input) = (do
      let key ← outcome (skimQuotation rest)
      let colon ← outcome (readColon key.2)
      outcome (skimValue colon.2)) := by
  rw [skimMember.eq_def]
  obtain ⟨le, start⟩ := exists_skipBlank skipped
  rw [start]
  dsimp only
  rw [if_pos rfl]
  cases skimQuotation rest with
  | error fault => rfl
  | ok key =>
      dsimp only
      cases colon : readColon key.rest with
      | error fault => simp [bind, Except.bind, colon]
      | ok afterColon =>
          simp only [outcome_ok, bind, Except.bind, colon]
          exact outcome_map_widen _ _

end

/-! ## Trees -/

/-- Items can be passed over if each of them can. -/
theorem outcome_skimItems_text (items : Items)
    (each : ∀ tree ∈ items.trees, Reads skimValue tree (.ok ())) (first : Bool) (last : Blank)
    (rest : Input) :
    outcome (skimItems first (items.text first ++ (last.bytes ++ byte ']' :: rest))) =
      .ok ((), rest) := by
  match items with
  | .nil =>
      have skipped := skipBlank_append last (by decide : isBlank (byte ']') = false) rest
      change outcome (skimItems first (last.bytes ++ byte ']' :: rest)) = _
      rw [outcome_skimItems first skipped, if_pos rfl]
  | .cons pad blank tree more =>
      rw [Items.trees, List.forall_mem_cons] at each
      obtain ⟨b, text, text_eq, opener⟩ := tree.exists_opener
      obtain ⟨noBlank, noClose, _, _⟩ := opener.apart
      have stops := more.stops last rest
      have tail := outcome_skimItems_text more each.2 false last rest
      rw [Items.text_cons_append]
      generalize more.text false ++ (last.bytes ++ byte ']' :: rest) = after at stops tail ⊢
      cases first with
      | true =>
          have skipped := skipBlank_append (pad.append blank) noBlank (text ++ after)
          have item : outcome (skimValue (b :: (text ++ after))) = .ok ((), after) := by
            have read := each.1 .none after stops
            rw [text_eq] at read
            exact read
          rw [Blank.append, List.append_assoc] at skipped
          rw [text_eq]
          refine (outcome_skimItems true skipped).trans ?_
          rw [if_neg noClose, if_pos rfl, item]
          exact tail
      | false =>
          have skipped := skipBlank_append pad (by decide : isBlank (byte ',') = false)
            (blank.bytes ++ (tree.text ++ after))
          have item := each.1 blank after stops
          refine (outcome_skimItems false skipped).trans ?_
          rw [if_neg (by decide), if_neg (by decide), if_pos rfl, item]
          exact tail

/-- Members can be passed over if each of their values can. -/
theorem outcome_skimMembers_text (entries : Entries)
    (each : ∀ tree ∈ entries.trees, Reads skimValue tree (.ok ())) (first : Bool) (last : Blank)
    (rest : Input) :
    outcome (skimMembers first (entries.text first ++ (last.bytes ++ byte '}' :: rest))) =
      .ok ((), rest) := by
  match entries with
  | .nil =>
      have skipped := skipBlank_append last (by decide : isBlank (byte '}') = false) rest
      change outcome (skimMembers first (last.bytes ++ byte '}' :: rest)) = _
      rw [outcome_skimMembers first skipped, if_pos rfl]
  | .cons pad blank key afterKey beforeValue tree more =>
      rw [Entries.trees, List.forall_mem_cons] at each
      have stops := more.stops last rest
      have tail := outcome_skimMembers_text more each.2 false last rest
      rw [Entries.text_cons_append]
      generalize more.text false ++ (last.bytes ++ byte '}' :: rest) = after at stops tail ⊢
      have noBlank : isBlank (byte '"') = false := by decide
      have value := each.1 beforeValue after stops
      have member (blank : Blank) : outcome (skimMember (blank.bytes ++ byte '"' ::
          (key.flatMap Glyph.text ++ byte '"' :: (afterKey.bytes ++ byte ':' ::
            (beforeValue.bytes ++ (tree.text ++ after)))))) = .ok ((), after) := by
        have colon := outcome_readColon (skipBlank_append afterKey
          (by decide : isBlank (byte ':') = false) (beforeValue.bytes ++ (tree.text ++ after)))
        refine (outcome_skimMember (skipBlank_append blank noBlank _)).trans ?_
        simp only [outcome_skimQuotation, bind, Except.bind, colon, value]
        rfl
      cases first with
      | true =>
          have skipped := skipBlank_append (pad.append blank) noBlank
            (key.flatMap Glyph.text ++ byte '"' :: (afterKey.bytes ++ byte ':' ::
              (beforeValue.bytes ++ (tree.text ++ after))))
          rw [Blank.append, List.append_assoc] at skipped
          refine (outcome_skimMembers true skipped).trans ?_
          have first : outcome (skimMember (byte '"' :: (key.flatMap Glyph.text ++ byte '"' ::
              (afterKey.bytes ++ byte ':' :: (beforeValue.bytes ++ (tree.text ++ after)))))) =
                .ok ((), after) := member .none
          rw [if_neg (by decide), if_pos rfl, first]
          exact tail
      | false =>
          have skipped := skipBlank_append pad (by decide : isBlank (byte ',') = false)
            (blank.bytes ++ byte '"' :: (key.flatMap Glyph.text ++ byte '"' ::
              (afterKey.bytes ++ byte ':' :: (beforeValue.bytes ++ (tree.text ++ after)))))
          refine (outcome_skimMembers false skipped).trans ?_
          rw [if_neg (by decide), if_neg (by decide), if_pos rfl, member blank]
          exact tail

/-- Every tree is passed over as a whole. -/
theorem reads_skimValue (tree : Tree) : Reads skimValue tree (.ok ()) := by
  induction tree using Tree.induction with
  | null =>
      intro blank rest _
      obtain ⟨le, word⟩ := exists_readWord ['u', 'l', 'l'] rest
      have skipped := skipBlank_append blank (by decide : isBlank (byte 'n') = false)
        (wordText ['u', 'l', 'l'] ++ rest)
      refine (outcome_skimValue skipped).trans ?_
      rw [if_neg (by decide), if_neg (by decide), if_neg (by decide), if_pos rfl, word]
      rfl
  | boolean value =>
      intro blank rest _
      cases value with
      | true =>
          obtain ⟨le, word⟩ := exists_readWord ['r', 'u', 'e'] rest
          have skipped := skipBlank_append blank (by decide : isBlank (byte 't') = false)
            (wordText ['r', 'u', 'e'] ++ rest)
          refine (outcome_skimValue skipped).trans ?_
          rw [if_neg (by decide), if_neg (by decide), if_neg (by decide), if_neg (by decide),
            if_pos rfl, word]
          rfl
      | false =>
          obtain ⟨le, word⟩ := exists_readWord ['a', 'l', 's', 'e'] rest
          have skipped := skipBlank_append blank (by decide : isBlank (byte 'f') = false)
            (wordText ['a', 'l', 's', 'e'] ++ rest)
          refine (outcome_skimValue skipped).trans ?_
          rw [if_neg (by decide), if_neg (by decide), if_neg (by decide), if_neg (by decide),
            if_neg (by decide), if_pos rfl, word]
          rfl
  | number spelling =>
      intro blank rest stops
      obtain ⟨b, more, text_eq, first⟩ := spelling.spells.exists_cons
      have opener : IsOpener b := by
        rcases first with rfl | digit
        · exact .inl (by simp)
        · exact .inr digit
      have literal := outcome_readLiteral (.malformed .invalidNumber) spelling stops
      have skipped := skipBlank_append blank opener.apart.1 (more ++ rest)
      obtain ⟨list, object, quote, null, yes, no⟩ := noMark_of_number first
      change outcome (skimValue (blank.bytes ++ (spelling.text ++ rest))) = _
      rw [text_eq, List.cons_append] at literal ⊢
      refine (outcome_skimValue skipped).trans ?_
      rw [if_neg list, if_neg object, if_neg quote, if_neg null, if_neg yes, if_neg no,
        if_pos first, literal]
      rfl
  | string glyphs =>
      intro blank rest _
      have skipped := skipBlank_append blank (by decide : isBlank (byte '"') = false)
        (glyphs.flatMap Glyph.text ++ byte '"' :: rest)
      have text_eq : (Tree.string glyphs).text ++ rest =
          byte '"' :: (glyphs.flatMap Glyph.text ++ byte '"' :: rest) := by
        simp [Tree.text, Glyph.quoted, quotation]
      rw [text_eq]
      refine (outcome_skimValue skipped).trans ?_
      rw [if_neg (by decide), if_neg (by decide), if_pos rfl, outcome_skimQuotation]
      rfl
  | list items last each =>
      intro blank rest _
      have skipped := skipBlank_append blank (by decide : isBlank (byte '[') = false)
        (items.text true ++ (last.bytes ++ byte ']' :: rest))
      have text_eq : (Tree.list items last).text ++ rest =
          byte '[' :: (items.text true ++ (last.bytes ++ byte ']' :: rest)) := by
        simp [Tree.text]
      rw [text_eq]
      refine (outcome_skimValue skipped).trans ?_
      rw [if_pos rfl]
      exact outcome_skimItems_text items each true last rest
  | object entries last each =>
      intro blank rest _
      have skipped := skipBlank_append blank (by decide : isBlank (byte '{') = false)
        (entries.text true ++ (last.bytes ++ byte '}' :: rest))
      have text_eq : (Tree.object entries last).text ++ rest =
          byte '{' :: (entries.text true ++ (last.bytes ++ byte '}' :: rest)) := by
        simp [Tree.text]
      rw [text_eq]
      refine (outcome_skimValue skipped).trans ?_
      rw [if_neg (by decide), if_pos rfl]
      exact outcome_skimMembers_text entries each true last rest

end RouterTelemetry.Json
