import RouterTelemetry.Json.Format
import RouterTelemetry.Proofs.TreeSkimming

/-!
# Trees in a format

What a format makes of a tree does not depend on the blanks around it nor on what follows:
`Format.ofTree` is that result, and the reader of the format returns it.
-/

namespace RouterTelemetry.Json

/-! ## What a format makes of a tree -/

mutual

/-- What a format makes of a tree, with at most `depth` more open brackets. -/
def Format.ofTree {α : Type} : Format α → (depth : Nat) → Tree → Except Fault α
  | .measure, depth, tree => (tree.value depth).map Measure.ofValue
  | .any, depth, tree => tree.value depth
  | .text, _, tree =>
      tree.head.bind fun head =>
        match head with
        | .text text => .ok text
        | other => other.refused "a string"
  | .list item, depth, tree =>
      match tree, depth with
      | .list _ _, 0 => .error (.malformed .tooDeep)
      | .list items _, depth + 1 => items.collect (item.ofTree depth)
      | tree, _ => tree.head.bind fun head => head.refused "a sequence"
  | .record name blank members, depth, tree =>
      match tree, depth with
      | .list _ _, 0 => .error (.malformed .tooDeep)
      | .object _ _, 0 => .error (.malformed .tooDeep)
      | .list items _, depth + 1 =>
          members.ofItems depth name members.keys.length 0 blank items
      | .object entries _, depth + 1 =>
          (entries.fold (members.ofMember depth) ⟨blank, []⟩).bind fun filling =>
            match members.absent? filling.seen with
            | some key => .error (.misshapen (.missingField key))
            | none => .ok filling.record
      | tree, _ => tree.head.bind fun head => head.refused ("struct " ++ name)

/-- What the members make of the value of a key: it fills the member of this key or alias, once. -/
def Members.ofMember {α : Type} : Members α → (depth : Nat) → (key : String) → Tree →
    Filling α → Except Fault (Filling α)
  | .nil, _, _, _, filling => .ok filling
  | .cons _ name aliases _ format _ set rest, depth, key, tree, filling =>
      if name = key ∨ key ∈ aliases then
        if filling.seen.contains name then
          .error (.misshapen (.duplicateField name))
        else
          (format.ofTree depth tree).map fun value =>
            ⟨set value filling.record, name :: filling.seen⟩
      else
        rest.ofMember depth key tree filling

/-- What the members make of items by their order. -/
def Members.ofItems {α : Type} : Members α → (depth : Nat) → (name : String) →
    (size position : Nat) → (record : α) → Items → Except Fault α
  | .nil, _, _, _, _, record, items =>
      match items with
      | .nil => .ok record
      | .cons _ _ _ _ => .error (.malformed .trailingCharacters)
  | .cons label key aliases required format get set rest, depth, name, size, position, record,
      items =>
      match items with
      | .nil => Members.leave name size position
          (.cons label key aliases required format get set rest) record
      | .cons _ _ item more =>
          (format.ofTree depth item).bind fun value =>
            rest.ofItems depth name size (position + 1) (set value record) more

end

/-! ## One step of the reader -/

section

variable {α β : Type} (depth : Nat) (input : Input)

theorem outcome_read_text :
    outcome (Format.text.read depth input) = (do
      let head ← outcome (readHead input)
      match head.1 with
      | .text text => return (text, head.2)
      | other => other.refused "a string") := by
  -- The reader opens up to the head that it reads first, and no further.
  conv => lhs; arg 1; whnf
  cases readHead input with
  | error fault => rfl
  | ok head =>
      obtain ⟨value, rest, shorter⟩ := head
      cases value <;> rfl

theorem outcome_read_list (item : Format α) :
    outcome ((Format.list item).read depth input) = (do
      let head ← outcome (readHead input)
      match head.1, depth with
      | .list, 0 => .error (.malformed .tooDeep)
      | .list, depth + 1 => outcome (readItems (item.read depth) true head.2)
      | other, _ => other.refused "a sequence") := by
  conv => lhs; arg 1; whnf
  cases readHead input with
  | error fault => rfl
  | ok head =>
      obtain ⟨value, rest, shorter⟩ := head
      cases value with
      | list =>
          cases depth with
          | zero => rfl
          | succ depth => exact outcome_map_widen _ _
      | _ => rfl

theorem outcome_read_record (name : String) (blank : α) (members : Members α) :
    outcome ((Format.record name blank members).read depth input) = (do
      let head ← outcome (readHead input)
      match head.1, depth with
      | .list, 0 => .error (.malformed .tooDeep)
      | .object, 0 => .error (.malformed .tooDeep)
      | .list, depth + 1 =>
          outcome (members.readPlaces depth name members.keys.length 0 blank head.2)
      | .object, depth + 1 =>
          (outcome (readMembers (members.entry depth) true ⟨blank, []⟩ head.2)).bind fun filled =>
            match members.absent? filled.1.seen with
            | some key => .error (.misshapen (.missingField key))
            | none => return (filled.1.record, filled.2)
      | other, _ => other.refused ("struct " ++ name)) := by
  conv => lhs; arg 1; whnf
  cases readHead input with
  | error fault => rfl
  | ok head =>
      obtain ⟨value, rest, shorter⟩ := head
      cases value with
      | list =>
          cases depth with
          | zero => rfl
          | succ depth => exact outcome_map_widen _ _
      | object =>
          cases depth with
          | zero => rfl
          | succ depth =>
              simp only [outcome_ok, bind, Except.bind]
              cases readMembers (members.entry depth) true ⟨blank, []⟩ rest with
              | error fault => rfl
              | ok filling =>
                  simp only [outcome_ok]
                  cases members.absent? filling.value.seen <;> rfl
      | _ => rfl

theorem outcome_readPlaces {label key : String} {aliases : List String} {required : Bool}
    (format : Format β) {get : α → β} (set : β → α → α) (members : Members α) (name : String)
    (size position : Nat) (record : α) :
    outcome ((Members.cons label key aliases required format get set members).readPlaces depth name
        size position record input) = (do
      let turn ← decision (nextItem (position == 0) input)
      match turn.1 with
      | none =>
          (Members.leave name size position
            (.cons label key aliases required format get set members) record).map fun record =>
              (record, turn.2)
      | some () =>
          let value ← outcome (format.read depth turn.2)
          outcome (members.readPlaces depth name size (position + 1) (set value.1 record)
            value.2)) := by
  rw [Members.readPlaces]
  dsimp only
  rcases nextItem (position == 0) input with fault | ⟨rest, shorter⟩ | ⟨⟨⟩, here, le⟩
  · rfl
  · simp only [decision, Except.map, bind, Except.bind]
    cases Members.leave name size position
      (.cons label key aliases required format get set members) record <;> rfl
  · simp only [decision, Except.map, bind, Except.bind]
    cases format.read depth here with
    | error fault => rfl
    | ok value => exact outcome_map_widen _ _

end

section

variable {input rest : Input} {b : UInt8}

theorem outcome_readListEnd_of_close (skipped : (skipBlank input).val = byte ']' :: rest) :
    outcome (readListEnd input) = .ok ((), rest) := by
  unfold readListEnd
  obtain ⟨le, start⟩ := exists_skipBlank skipped
  rw [start]
  dsimp only
  rw [if_pos rfl]
  rfl

theorem outcome_readListEnd_of_other (skipped : (skipBlank input).val = b :: rest)
    (noClose : b ≠ byte ']') (noComma : b ≠ byte ',') :
    outcome (readListEnd input) = .error (.malformed .trailingCharacters) := by
  unfold readListEnd
  obtain ⟨le, start⟩ := exists_skipBlank skipped
  rw [start]
  dsimp only
  rw [if_neg noClose, if_neg noComma]
  rfl

theorem outcome_readListEnd_of_comma {after : Input}
    (skipped : (skipBlank input).val = byte ',' :: rest)
    (next : (skipBlank rest).val = b :: after) (noClose : b ≠ byte ']') :
    outcome (readListEnd input) = .error (.malformed .trailingCharacters) := by
  unfold readListEnd
  obtain ⟨le, start⟩ := exists_skipBlank skipped
  rw [start]
  dsimp only
  rw [if_neg (by decide), if_pos rfl, next]
  dsimp only
  rw [if_neg noClose]
  rfl

end

/-- A list with more items than there are places does not end where it should. -/
theorem outcome_readListEnd_item (first : Bool) (pad blank : Blank) (item : Tree) (rest : Input) :
    outcome (readListEnd
        (pad.bytes ++ (separator first ++ (blank.bytes ++ (item.text ++ rest))))) =
      .error (.malformed .trailingCharacters) := by
  obtain ⟨b, more, text_eq, opener⟩ := item.exists_opener
  obtain ⟨noBlank, noClose, _, noComma⟩ := opener.apart
  rw [text_eq, List.cons_append]
  cases first with
  | true =>
      have skipped := skipBlank_append (pad.append blank) noBlank (more ++ rest)
      rw [Blank.append, List.append_assoc] at skipped
      exact outcome_readListEnd_of_other skipped noClose noComma
  | false =>
      have skipped := skipBlank_append pad (by decide : isBlank (byte ',') = false)
        (blank.bytes ++ b :: (more ++ rest))
      have next := skipBlank_append blank noBlank (more ++ rest)
      exact outcome_readListEnd_of_comma skipped next noClose

/-! ## The reader of a format -/

mutual

/-- A tree is read as what the format makes of it. -/
theorem reads_format {α : Type} (format : Format α) (depth : Nat) (tree : Tree) :
    Reads (format.read depth) tree (format.ofTree depth tree) := by
  -- The recursion is that of the format; what is inside of brackets is read by a smaller one.
  match format with
  | .measure =>
      intro blank rest stops
      have read := reads_readValue depth tree blank rest stops
      rw [Format.ofTree]
      refine (outcome_map_map _ _).trans ?_
      rw [read]
      cases tree.value depth <;> rfl
  | .any => exact reads_readValue depth tree
  | .text =>
      intro blank rest stops
      rw [outcome_read_text, outcome_readHead blank tree stops, Format.ofTree.eq_def]
      dsimp only
      cases tree with
      | number spelling =>
          rw [Tree.head]
          cases spelling.literal.number <;> rfl
      | string glyphs =>
          rw [Tree.head]
          cases Glyph.string glyphs <;> rfl
      | _ => rfl
  | .list item =>
      intro blank rest stops
      rw [outcome_read_list, outcome_readHead blank tree stops, Format.ofTree.eq_def]
      dsimp only
      cases tree with
      | number spelling =>
          dsimp only [Tree.head]
          cases spelling.literal.number <;> rfl
      | string glyphs =>
          dsimp only [Tree.head]
          cases Glyph.string glyphs <;> rfl
      | list items last =>
          cases depth with
          | zero => rfl
          | succ depth =>
              have read := outcome_readItems_text items
                (fun tree _ => reads_format item depth tree) true last rest
              rw [Tree.head, Tree.afterHead_list]
              exact read
      | _ => rfl
  | .record name blank members =>
      intro pad rest stops
      rw [outcome_read_record, outcome_readHead pad tree stops, Format.ofTree.eq_def]
      dsimp only
      cases tree with
      | number spelling =>
          dsimp only [Tree.head]
          cases spelling.literal.number <;> rfl
      | string glyphs =>
          dsimp only [Tree.head]
          cases Glyph.string glyphs <;> rfl
      | list items last =>
          cases depth with
          | zero => rfl
          | succ depth =>
              have read := outcome_readPlaces_text members depth name members.keys.length 0 blank
                items last rest
              rw [Tree.head, Tree.afterHead_list]
              exact read
      | object entries last =>
          cases depth with
          | zero => rfl
          | succ depth =>
              have read := outcome_readMembers_text entries
                (fun tree _ => entryReads_members members depth tree) true ⟨blank, []⟩ last rest
              rw [Tree.head, Tree.afterHead_object]
              simp only [Except.map, bind, Except.bind]
              rw [read]
              cases entries.fold (members.ofMember depth) ⟨blank, []⟩ with
              | error fault => rfl
              | ok filling =>
                  simp only [Except.map]
                  cases members.absent? filling.seen <;> rfl
      | _ => rfl

theorem entryReads_members {α : Type} (members : Members α) (depth : Nat) (tree : Tree) :
    EntryReads (members.entry depth) tree fun key => members.ofMember depth key tree := by
  match members with
  | .nil =>
      intro key filling
      refine .inr ⟨_, rfl, ?_⟩
      intro blank rest stops
      rw [outcome_map_map, reads_skimValue tree blank rest stops]
      rfl
  | .cons _ name aliases _ format _ set members =>
      intro key filling
      have read := reads_format format depth tree
      have later := entryReads_members members depth tree key filling
      dsimp only
      rw [Members.entry, Members.ofMember]
      split_ifs with matched repeated
      · exact .inl ⟨_, rfl, rfl⟩
      · refine .inr ⟨_, rfl, ?_⟩
        intro blank rest stops
        rw [outcome_map_map, read blank rest stops]
        cases format.ofTree depth tree <;> rfl
      · exact later

theorem outcome_readPlaces_text {α : Type} (members : Members α) (depth : Nat) (name : String)
    (size position : Nat) (record : α) (items : Items) (last : Blank) (rest : Input) :
    outcome (members.readPlaces depth name size position record
        (items.text (position == 0) ++ (last.bytes ++ byte ']' :: rest))) =
      (members.ofItems depth name size position record items).map fun record =>
        (record, rest) := by
  match members, items with
  | .nil, .nil =>
      have skipped := skipBlank_append last (by decide : isBlank (byte ']') = false) rest
      refine (outcome_map_map _ _).trans ?_
      change (outcome (readListEnd (last.bytes ++ byte ']' :: rest))).map _ = _
      rw [outcome_readListEnd_of_close skipped]
      rfl
  | .nil, .cons pad blank tree more =>
      refine (outcome_map_map _ _).trans ?_
      rw [Items.text_cons_append, outcome_readListEnd_item]
      rfl
  | .cons label key aliases required format get set members, .nil =>
      have skipped := skipBlank_append last (by decide : isBlank (byte ']') = false) rest
      rw [outcome_readPlaces]
      change (decision (nextItem (position == 0) (last.bytes ++ byte ']' :: rest)) >>= _) = _
      rw [decision_nextItem_of_close _ skipped]
      rfl
  | .cons label key aliases required format get set members, .cons pad blank tree more =>
      have value := reads_format format depth tree .none
        (more.text false ++ (last.bytes ++ byte ']' :: rest)) (more.stops last rest)
      rw [outcome_readPlaces, Items.text_cons_append, decision_nextItem, Members.ofItems]
      simp only [Blank.none, List.nil_append] at value
      simp only [bind, Except.bind, value]
      cases format.ofTree depth tree with
      | error fault => rfl
      | ok value =>
          exact outcome_readPlaces_text members depth name size (position + 1) (set value record)
            more last rest

end

/-- Nothing but blanks is left at the end of a document. -/
theorem readEnd_blank (blank : Blank) : readEnd blank.bytes = .ok () := by
  have nothing : (skipBlank blank.bytes).val = [] :=
    List.dropWhile_eq_nil_iff.mpr blank.blank
  rw [readEnd, nothing]
  rfl

/-- A document that is a tree between blanks is what the format makes of the tree. -/
theorem Format.decode_text {α : Type} (format : Format α) (before after : Blank) (tree : Tree) :
    format.decode (before.bytes ++ (tree.text ++ after.bytes)) =
      format.ofTree depthLimit tree := by
  have read := reads_format format depthLimit tree before after.bytes after.stops
  rw [Format.decode, readDocument]
  cases made : format.ofTree depthLimit tree with
  | error fault =>
      rw [made] at read
      rw [eq_error_of_outcome read]
      rfl
  | ok value =>
      rw [made] at read
      obtain ⟨shorter, reading⟩ := eq_ok_of_outcome read
      rw [reading]
      simp only [bind, Except.bind, readEnd_blank]
      rfl

theorem Format.decode_tree {α : Type} (format : Format α) (tree : Tree) :
    format.decode tree.text = format.ofTree depthLimit tree := by
  have decoded := format.decode_text .none .none tree
  rwa [Blank.none, List.nil_append, List.append_nil] at decoded

end RouterTelemetry.Json
