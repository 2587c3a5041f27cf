import RouterTelemetry.Json.Skim
import RouterTelemetry.Proofs.HeadReading

/-!
# Reading trees

Items and members are read one after the other, so what is read of a list or of an object is
put together from what is read of its parts.  The value of a tree is read so, and every tree
can be passed over.
-/

namespace RouterTelemetry.Json

/-- The reader makes this of the tree, whatever blanks stand before it and whatever follows
it. -/
def Reads {α : Type} (reader : Reader α) (tree : Tree) (result : Except Fault α) : Prop :=
  ∀ (blank : Blank) (rest : Input), Stops rest →
    outcome (reader (blank.bytes ++ (tree.text ++ rest))) =
      result.map fun value => (value, rest)

/-! ## Between elements -/

/-- Blanks in a row. -/
def Blank.append (first second : Blank) : Blank where
  bytes := first.bytes ++ second.bytes
  blank := List.forall_mem_append.mpr ⟨first.blank, second.blank⟩

/-- No blanks. -/
def Blank.none : Blank where
  bytes := []
  blank := nofun

/-- A number does not go on with a blank. -/
theorem stops_of_isBlank {b : UInt8} (blank : isBlank b = true) :
    isDigit b = false ∧ b ∉ [byte '.', byte 'e', byte 'E'] := by
  simp only [isBlank, Bool.or_eq_true, beq_iff_eq] at blank
  rcases blank with ((rfl | rfl) | rfl) | rfl <;> decide

theorem Blank.stops (blank : Blank) : Stops blank.bytes := fun b first =>
  stops_of_isBlank (blank.blank b (List.mem_of_mem_head? first))

theorem stops_append (blank : Blank) {b : UInt8} (closes : b ∈ [byte ',', byte ']', byte '}'])
    (rest : Input) : Stops (blank.bytes ++ b :: rest) := by
  intro first begins
  cases bytes : blank.bytes with
  | nil =>
      rw [bytes] at begins
      cases begins
      simp only [List.mem_cons, List.not_mem_nil, or_false] at closes
      rcases closes with rfl | rfl | rfl <;> decide
  | cons blankByte more =>
      rw [bytes] at begins
      cases begins
      exact stops_of_isBlank (blank.blank first (by simp [bytes]))

theorem Items.text_cons_append (pad blank : Blank) (item : Tree) (more : Items) (first : Bool)
    (rest : Input) :
    (Items.cons pad blank item more).text first ++ rest =
      pad.bytes ++ (separator first ++ (blank.bytes ++ (item.text ++
        (more.text false ++ rest)))) := by
  simp only [Items.text, List.append_assoc]

theorem Entries.text_cons_append (pad blank : Blank) (key : List Glyph)
    (afterKey beforeValue : Blank) (value : Tree) (more : Entries) (first : Bool) (rest : Input) :
    (Entries.cons pad blank key afterKey beforeValue value more).text first ++ rest =
      pad.bytes ++ (separator first ++ (blank.bytes ++ byte '"' :: (key.flatMap Glyph.text ++
        byte '"' :: (afterKey.bytes ++ byte ':' :: (beforeValue.bytes ++ (value.text ++
          (more.text false ++ rest))))))) := by
  simp only [Entries.text, Glyph.quoted, quotation, List.append_assoc, List.cons_append,
    List.nil_append]

theorem Items.stops (items : Items) (last : Blank) (rest : Input) :
    Stops (items.text false ++ (last.bytes ++ byte ']' :: rest)) := by
  cases items with
  | nil => exact stops_append last (by simp) rest
  | cons pad blank item more =>
      simp only [Items.text, List.append_assoc]
      exact stops_append pad (by simp) _

theorem Entries.stops (entries : Entries) (last : Blank) (rest : Input) :
    Stops (entries.text false ++ (last.bytes ++ byte '}' :: rest)) := by
  cases entries with
  | nil => exact stops_append last (by simp) rest
  | cons pad blank key afterKey beforeValue value more =>
      simp only [Entries.text, List.append_assoc]
      exact stops_append pad (by simp) _

/-- What was decided before an element, without the bound. -/
def decision {α : Type} {bound : Nat} (result : Except Fault (Turn α bound)) :
    Except Fault (Option α × Input) :=
  result.map fun turn =>
    match turn with
    | .closed rest _ => (none, rest)
    | .next value rest _ => (some value, rest)

section

variable {input rest after : Input} {b c : UInt8}

theorem decision_nextItem_of_close (first : Bool)
    (skipped : (skipBlank input).val = byte ']' :: rest) :
    decision (nextItem first input) = .ok (none, rest) := by
  unfold nextItem
  obtain ⟨le, start⟩ := exists_skipBlank skipped
  rw [start]
  dsimp only
  rw [if_pos rfl]
  rfl

theorem decision_nextItem_of_first (skipped : (skipBlank input).val = b :: rest)
    (noClose : b ≠ byte ']') : decision (nextItem true input) = .ok (some (), b :: rest) := by
  unfold nextItem
  obtain ⟨le, start⟩ := exists_skipBlank skipped
  rw [start]
  dsimp only
  rw [if_neg noClose]
  rfl

theorem decision_nextItem_of_comma (skipped : (skipBlank input).val = byte ',' :: rest)
    (next : (skipBlank rest).val = c :: after) (noClose : c ≠ byte ']') :
    decision (nextItem false input) = .ok (some (), c :: after) := by
  unfold nextItem
  obtain ⟨le, start⟩ := exists_skipBlank skipped
  rw [start]
  dsimp only
  rw [if_neg (by decide), if_neg (by decide), if_pos rfl]
  obtain ⟨le', start'⟩ := exists_skipBlank next
  rw [start']
  dsimp only
  rw [if_neg noClose]
  rfl

end

theorem decision_nextItem (first : Bool) (pad blank : Blank) (item : Tree) (rest : Input) :
    decision (nextItem first
        (pad.bytes ++ (separator first ++ (blank.bytes ++ (item.text ++ rest))))) =
      .ok (some (), item.text ++ rest) := by
  obtain ⟨b, more, text_eq, opener⟩ := item.exists_opener
  obtain ⟨noBlank, noClose, _, _⟩ := opener.apart
  rw [text_eq, List.cons_append]
  cases first with
  | true =>
      have skipped := skipBlank_append (pad.append blank) noBlank (more ++ rest)
      rw [Blank.append, List.append_assoc] at skipped
      exact decision_nextItem_of_first skipped noClose
  | false =>
      have skipped := skipBlank_append pad (by decide : isBlank (byte ',') = false)
        (blank.bytes ++ b :: (more ++ rest))
      have next := skipBlank_append blank noBlank (more ++ rest)
      exact decision_nextItem_of_comma skipped next noClose

/-- Items are read one by one. -/
theorem outcome_readItems {α : Type} (item : Reader α) (first : Bool) (input : Input) :
    outcome (readItems item first input) = do
      let turn ← decision (nextItem first input)
      match turn.1 with
      | none => return ([], turn.2)
      | some () =>
          let head ← outcome (item turn.2)
          let tail ← outcome (readItems item false head.2)
          return (head.1 :: tail.1, tail.2) := by
  rw [readItems]
  rcases nextItem first input with fault | ⟨rest, shorter⟩ | ⟨⟨⟩, here, le⟩
  · rfl
  · rfl
  · dsimp only
    simp only [decision, Except.map, bind, Except.bind]
    cases item here with
    | error fault => rfl
    | ok head =>
        dsimp only [outcome_ok]
        cases tailRead : readItems item false head.rest with
        | error fault => simp
        | ok tail => simp [pure, Except.pure]

/-- What is made of all items, in order. -/
def Items.collect {α : Type} (result : Tree → Except Fault α) : Items → Except Fault (List α)
  | .nil => .ok []
  | .cons _ _ item more => do
      let value ← result item
      let values ← more.collect result
      return value :: values

/-- The items of a list are read as what the reader makes of each. -/
theorem outcome_readItems_text {α : Type} {item : Reader α} {result : Tree → Except Fault α}
    (items : Items) (each : ∀ tree ∈ items.trees, Reads item tree (result tree)) (first : Bool)
    (last : Blank) (rest : Input) :
    outcome (readItems item first (items.text first ++ (last.bytes ++ byte ']' :: rest))) =
      (items.collect result).map fun values => (values, rest) := by
  match items with
  | .nil =>
      have skipped := skipBlank_append last (by decide : isBlank (byte ']') = false) rest
      rw [outcome_readItems, Items.text, List.nil_append, decision_nextItem_of_close first skipped]
      rfl
  | .cons pad blank tree more =>
      rw [Items.trees, List.forall_mem_cons] at each
      have head := each.1 .none (more.text false ++ (last.bytes ++ byte ']' :: rest))
        (more.stops last rest)
      have tail := outcome_readItems_text more each.2 false last rest
      simp only [Blank.none, List.nil_append] at head
      rw [Items.text_cons_append, outcome_readItems, Items.collect, decision_nextItem]
      simp only [bind, Except.bind, head]
      cases result tree with
      | error fault => rfl
      | ok value =>
          simp only [Except.map, tail]
          cases more.collect result <;> rfl

/-! ## Members -/

section

variable {input rest after : Input} {b : UInt8}

theorem decision_nextMember_of_close (first : Bool)
    (skipped : (skipBlank input).val = byte '}' :: rest) :
    decision (nextMember first input) = .ok (none, rest) := by
  unfold nextMember
  obtain ⟨le, start⟩ := exists_skipBlank skipped
  rw [start]
  dsimp only
  rw [if_pos rfl]
  rfl

theorem decision_nextMember_of_first (skipped : (skipBlank input).val = byte '"' :: rest) :
    decision (nextMember true input) =
      (outcome (readQuotation rest)).map fun key => (some key.1, key.2) := by
  unfold nextMember
  obtain ⟨le, start⟩ := exists_skipBlank skipped
  rw [start]
  dsimp only
  rw [if_neg (by decide), if_pos rfl, if_pos rfl]
  cases readQuotation rest <;> rfl

theorem decision_nextMember_of_comma (skipped : (skipBlank input).val = byte ',' :: rest)
    (next : (skipBlank rest).val = byte '"' :: after) :
    decision (nextMember false input) =
      (outcome (readQuotation after)).map fun key => (some key.1, key.2) := by
  unfold nextMember
  obtain ⟨le, start⟩ := exists_skipBlank skipped
  rw [start]
  dsimp only
  rw [if_neg (by decide), if_neg (by decide), if_pos rfl]
  obtain ⟨le', start'⟩ := exists_skipBlank next
  rw [start']
  dsimp only
  rw [if_pos rfl]
  cases readQuotation after <;> rfl

theorem outcome_readColon (skipped : (skipBlank input).val = byte ':' :: rest) :
    outcome (readColon input) = .ok ((), rest) := by
  unfold readColon
  obtain ⟨le, start⟩ := exists_skipBlank skipped
  rw [start]
  dsimp only
  rw [if_pos rfl]
  rfl

end

theorem decision_nextMember (first : Bool) (pad blank : Blank) (key : List Glyph) (rest : Input) :
    decision (nextMember first (pad.bytes ++ (separator first ++ (blank.bytes ++
        byte '"' :: (key.flatMap Glyph.text ++ byte '"' :: rest))))) =
      (Glyph.string key).map fun key => (some key, rest) := by
  have noBlank : isBlank (byte '"') = false := by decide
  have read := outcome_readQuotation key rest
  cases first with
  | true =>
      have skipped := skipBlank_append (pad.append blank) noBlank
        (key.flatMap Glyph.text ++ byte '"' :: rest)
      rw [Blank.append, List.append_assoc] at skipped
      refine (decision_nextMember_of_first skipped).trans ?_
      rw [read]
      cases Glyph.string key <;> rfl
  | false =>
      have skipped := skipBlank_append pad (by decide : isBlank (byte ',') = false)
        (blank.bytes ++ byte '"' :: (key.flatMap Glyph.text ++ byte '"' :: rest))
      have next := skipBlank_append blank noBlank (key.flatMap Glyph.text ++ byte '"' :: rest)
      refine (decision_nextMember_of_comma skipped next).trans ?_
      rw [read]
      cases Glyph.string key <;> rfl

/-- Members are read one by one. -/
theorem outcome_readMembers {σ : Type} (entry : String → σ → Except Fault (Reader σ))
    (first : Bool) (state : σ) (input : Input) :
    outcome (readMembers entry first state input) = (do
      let turn ← decision (nextMember first input)
      match turn.1 with
      | none => return (state, turn.2)
      | some key =>
          let reader ← entry key state
          let colon ← outcome (readColon turn.2)
          let filled ← outcome (reader colon.2)
          outcome (readMembers entry false filled.1 filled.2)) := by
  rw [readMembers]
  rcases nextMember first input with fault | ⟨rest, shorter⟩ | ⟨key, afterKey, le⟩
  · rfl
  · rfl
  · dsimp only
    simp only [decision, Except.map, bind, Except.bind]
    cases entry key state with
    | error fault => rfl
    | ok reader =>
        dsimp only
        cases readColon afterKey with
        | error fault => rfl
        | ok colon =>
            dsimp only [outcome_ok]
            cases reader colon.rest with
            | error fault => simp
            | ok value =>
                dsimp only
                cases tailRead : readMembers entry false value.value value.rest with
                | error fault => simp [tailRead]
                | ok tail => simp [tailRead, Reading.widen]

/-- What is made of all members after some state, in order. -/
def Entries.fold {σ : Type} (result : String → Tree → σ → Except Fault σ) :
    Entries → σ → Except Fault σ
  | .nil, state => .ok state
  | .cons _ _ key _ _ value more, state => do
      let key ← Glyph.string key
      let next ← result key value state
      more.fold result next

/-- With every key the entry either refuses it or reads the tree. -/
def EntryReads {σ : Type} (entry : String → σ → Except Fault (Reader σ)) (tree : Tree)
    (result : String → σ → Except Fault σ) : Prop :=
  ∀ key state,
    (∃ fault, entry key state = .error fault ∧ result key state = .error fault) ∨
      ∃ reader, entry key state = .ok reader ∧ Reads reader tree (result key state)

/-- The members of an object are read as what the entry makes of each. -/
theorem outcome_readMembers_text {σ : Type} {entry : String → σ → Except Fault (Reader σ)}
    {result : String → Tree → σ → Except Fault σ} (entries : Entries)
    (each : ∀ tree ∈ entries.trees, EntryReads entry tree fun key => result key tree)
    (first : Bool) (state : σ) (last : Blank) (rest : Input) :
    outcome (readMembers entry first state
        (entries.text first ++ (last.bytes ++ byte '}' :: rest))) =
      (entries.fold result state).map fun state => (state, rest) := by
  match entries with
  | .nil =>
      have skipped := skipBlank_append last (by decide : isBlank (byte '}') = false) rest
      change outcome (readMembers entry first state (last.bytes ++ byte '}' :: rest)) = _
      rw [outcome_readMembers, decision_nextMember_of_close first skipped]
      rfl
  | .cons pad blank key afterKey beforeValue tree more =>
      rw [Entries.trees, List.forall_mem_cons] at each
      rw [Entries.text_cons_append, outcome_readMembers, Entries.fold, decision_nextMember]
      cases Glyph.string key with
      | error fault => rfl
      | ok key =>
          have colon := outcome_readColon (skipBlank_append afterKey
            (by decide : isBlank (byte ':') = false)
            (beforeValue.bytes ++ (tree.text ++ (more.text false ++
              (last.bytes ++ byte '}' :: rest)))))
          simp only [Except.map, bind, Except.bind]
          rcases each.1 key state with ⟨fault, refused, same⟩ | ⟨reader, chosen, reads⟩
          · dsimp only at same
            rw [refused, same]
          · have value := reads beforeValue (more.text false ++ (last.bytes ++ byte '}' :: rest))
              (more.stops last rest)
            simp only [chosen, colon, value]
            cases result key tree state with
            | error fault => rfl
            | ok next =>
                simp only [Except.map]
                exact outcome_readMembers_text more each.2 false next last rest

/-! ## Values -/

theorem Tree.afterHead_list (items : Items) (last : Blank) (rest : Input) :
    (Tree.list items last).afterHead ++ rest =
      items.text true ++ (last.bytes ++ byte ']' :: rest) := by
  simp [Tree.afterHead]

theorem Tree.afterHead_object (entries : Entries) (last : Blank) (rest : Input) :
    (Tree.object entries last).afterHead ++ rest =
      entries.text true ++ (last.bytes ++ byte '}' :: rest) := by
  simp [Tree.afterHead]

theorem Items.values_eq (items : Items) (depth : Nat) :
    items.values depth = items.collect fun tree => tree.value depth := by
  cases items with
  | nil => rfl
  | cons pad blank item more => rw [Items.values, Items.collect, more.values_eq depth]

/-- What a member adds to the ones before it. -/
def addMember (depth : Nat) (key : String) (tree : Tree) (members : List (String × Value)) :
    Except Fault (List (String × Value)) :=
  (tree.value depth).map fun value => putMember key value members

theorem Entries.members_eq (entries : Entries) (depth : Nat) (members : List (String × Value)) :
    entries.members depth members = entries.fold (addMember depth) members := by
  cases entries with
  | nil => rfl
  | cons pad blank key afterKey beforeValue tree more =>
      rw [Entries.members, Entries.fold]
      cases Glyph.string key with
      | error fault => rfl
      | ok key =>
          cases read : tree.value depth with
          | error fault => simp only [bind, Except.bind, addMember, read, Except.map]
          | ok value =>
              simp only [bind, Except.bind, addMember, read, Except.map]
              exact more.members_eq depth (putMember key value members)

/-- The reader for a member of any object. -/
def valueEntry (depth : Nat) (key : String) (members : List (String × Value)) :
    Except Fault (Reader (List (String × Value))) :=
  .ok fun input =>
    (readValue depth input).map fun value => value.map fun value => putMember key value members

theorem entryReads_valueEntry {depth : Nat} {tree : Tree}
    (reads : Reads (readValue depth) tree (tree.value depth)) :
    EntryReads (valueEntry depth) tree fun key => addMember depth key tree := by
  intro key members
  refine .inr ⟨_, rfl, ?_⟩
  intro blank rest stops
  dsimp only [addMember]
  rw [outcome_map_map, reads blank rest stops]
  cases tree.value depth <;> rfl

/-- After its head, a value is complete or goes on with items or members. -/
theorem outcome_readValue (depth : Nat) (input : Input) :
    outcome (readValue depth input) = (do
      let head ← outcome (readHead input)
      match head.1, depth with
      | .null, _ => return (.null, head.2)
      | .boolean value, _ => return (.boolean value, head.2)
      | .number value, _ => return (.number value, head.2)
      | .text value, _ => return (.text value, head.2)
      | .list, 0 => .error (.malformed .tooDeep)
      | .object, 0 => .error (.malformed .tooDeep)
      | .list, depth + 1 =>
          (outcome (readItems (readValue depth) true head.2)).map fun items =>
            (.list items.1, items.2)
      | .object, depth + 1 =>
          (outcome (readMembers (valueEntry depth) true [] head.2)).map fun members =>
            (.object members.1, members.2)) := by
  rw [readValue.eq_def]
  cases read : readHead input with
  | error fault => simp [bind, Except.bind]
  | ok head =>
      obtain ⟨value, rest, shorter⟩ := head
      simp only [outcome_ok, bind, Except.bind]
      cases value with
      | list => cases depth <;> simp
      | object =>
          cases depth with
          | zero => rfl
          | succ depth =>
              simp only [outcome_map_map_widen]
              rfl
      | _ => rfl

/-- A tree is read as its value. -/
theorem reads_readValue (depth : Nat) (tree : Tree) :
    Reads (readValue depth) tree (tree.value depth) := by
  intro blank rest stops
  rw [outcome_readValue, outcome_readHead blank tree stops]
  match tree, depth with
  | .null, _ => rfl
  | .boolean _, _ => rfl
  | .number spelling, _ =>
      rw [Tree.head, Tree.value]
      cases spelling.literal.number <;> rfl
  | .string glyphs, _ =>
      rw [Tree.head, Tree.value]
      cases Glyph.string glyphs <;> rfl
  | .list _ _, 0 => rfl
  | .object _ _, 0 => rfl
  | .list items last, depth + 1 =>
      have read := outcome_readItems_text items (fun tree _ => reads_readValue depth tree) true
        last rest
      rw [Tree.value, Tree.head, Tree.afterHead_list, Items.values_eq]
      simp only [Except.map, bind, Except.bind]
      rw [read]
      cases items.collect fun tree => tree.value depth <;> rfl
  | .object entries last, depth + 1 =>
      have read := outcome_readMembers_text entries
        (fun tree _ => entryReads_valueEntry (reads_readValue depth tree)) true [] last rest
      rw [Tree.value, Tree.head, Tree.afterHead_object, Entries.members_eq]
      simp only [Except.map, bind, Except.bind]
      rw [read]
      cases entries.fold (addMember depth) [] <;> rfl

end RouterTelemetry.Json
