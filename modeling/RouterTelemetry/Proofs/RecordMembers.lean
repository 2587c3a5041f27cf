import RouterTelemetry.Proofs.Results
import RouterTelemetry.Proofs.TreeFormats

/-!
# Replacing a member

A record is filled member by member.  Where getting and setting behave as for the fields of a
structure, another value in the place of a measure changes that measure and nothing else.
-/

namespace RouterTelemetry.Json

/-! ## Laws of members -/

section

variable {α β γ : Type}

/-- What was set is got back, and what is set last counts. -/
structure Accessors (get : α → β) (set : β → α → α) : Prop where
  get_set : ∀ value record, get (set value record) = value
  set_set : ∀ old new record, set new (set old record) = set new record

/-- Setting one member leaves the other as it is, and the order does not matter. -/
structure Apart (get : α → β) (set : β → α → α) (get' : α → γ) (set' : γ → α → α) : Prop where
  keeps : ∀ value record, get' (set value record) = get' record
  kept : ∀ value record, get (set' value record) = get record
  commute : ∀ value other record, set value (set' other record) = set' other (set value record)

/-- One member is apart from all of these. -/
def Members.AllApart (get : α → β) (set : β → α → α) : Members α → Prop
  | .nil => True
  | .cons _ _ _ _ _ get' set' rest => Apart get set get' set' ∧ rest.AllApart get set

/-- The members are as the fields of a structure, each with a key of its own. -/
def Members.Lawful : Members α → Prop
  | .nil => True
  | .cons _ key _ _ _ get set rest =>
      Accessors get set ∧ key ∉ rest.keys ∧ rest.AllApart get set ∧ rest.Lawful

mutual

/-- All records of a format are as structures. -/
def Format.Lawful {α : Type} : Format α → Prop
  | .measure | .text | .any => True
  | .list item => item.Lawful
  | .record _ _ members => members.Lawful ∧ members.AllLawful

/-- The formats of all members are lawful. -/
def Members.AllLawful {α : Type} : Members α → Prop
  | .nil => True
  | .cons _ _ _ _ format _ _ rest => format.Lawful ∧ rest.AllLawful

end

/-- Two records have the same members, apart from the one of this key. -/
def Members.AgreeBut (key : String) : Members α → α → α → Prop
  | .nil, _, _ => True
  | .cons _ other _ _ _ get _ rest, record, record' =>
      (other = key ∨ get record = get record') ∧ rest.AgreeBut key record record'

/-- The first member that goes by the name `written`, as its key or as an alias, is a measure of
this key. -/
inductive Members.Holds (written key : String) (get : α → Measure) (set : Measure → α → α) :
    Members α → Prop where
  | here {label : String} {aliases : List String} {required : Bool} {rest : Members α}
      (named : key = written ∨ written ∈ aliases) :
      Holds written key get set (.cons label key aliases required .measure get set rest)
  | later {β : Type} {label other : String} {aliases : List String} {required : Bool}
      {format : Format β} {get' : α → β} {set' : β → α → α} {rest : Members α}
      (unnamed : ¬(other = written ∨ written ∈ aliases)) (holds : rest.Holds written key get set) :
      Holds written key get set (.cons label other aliases required format get' set' rest)

end

section

variable {α : Type} {members : Members α} {written key : String} {get : α → Measure}
  {set : Measure → α → α}

/-- The laws of a measure are among those of its record. -/
theorem Members.Holds.accessors (holds : members.Holds written key get set)
    (lawful : members.Lawful) : Accessors get set := by
  induction holds with
  | here named => exact lawful.1
  | later unnamed holds ih => exact ih lawful.2.2.2

/-- A member that is apart from all others is apart from a measure among them. -/
theorem Members.Holds.apart {β : Type} {get' : α → β} {set' : β → α → α}
    (holds : members.Holds written key get set) (apart : members.AllApart get' set') :
    Apart get' set' get set := by
  induction holds with
  | here named => exact apart.1
  | later unnamed holds ih => exact ih apart.2

/-- Setting a member leaves all that are apart from it. -/
theorem Members.agreeBut_of_allApart {members : Members α} (apart : members.AllApart get set)
    (measure : Measure) (record : α) : members.AgreeBut key record (set measure record) := by
  match members with
  | .nil => trivial
  | .cons _ _ _ _ _ _ _ rest =>
      exact ⟨.inr (apart.1.keeps measure record).symm, agreeBut_of_allApart apart.2 measure record⟩

/-- Setting a measure leaves all other members of the record. -/
theorem Members.Holds.agreeBut (holds : members.Holds written key get set)
    (lawful : members.Lawful) (measure : Measure) (record : α) :
    members.AgreeBut key record (set measure record) := by
  induction holds with
  | here named =>
      obtain ⟨_, _, apart, _⟩ := lawful
      exact ⟨.inl rfl, agreeBut_of_allApart apart measure record⟩
  | later unnamed holds ih =>
      obtain ⟨_, _, apart, lawful⟩ := lawful
      exact ⟨.inr ((holds.apart apart).kept measure record).symm, ih lawful⟩

/-! ## Filling with another measure -/

/-- The same filling with another value of a member. -/
def Filling.put {β : Type} (set : β → α → α) (value : β) (filling : Filling α) : Filling α :=
  ⟨set value filling.record, filling.seen⟩

variable {depth : Nat} {tree : Tree} {filling filled : Filling α} {name : String}

/-- The value under the name of a measure is read as one, if it has not been met. -/
theorem Members.Holds.ofMember_eq (holds : members.Holds written key get set) :
    members.ofMember depth written tree filling =
      if filling.seen.contains key then
        .error (.misshapen (.duplicateField key))
      else
        (tree.value depth).map fun value =>
          ⟨set (Measure.ofValue value) filling.record, key :: filling.seen⟩ := by
  induction holds with
  | here named =>
      rw [Members.ofMember, if_pos named, Format.ofTree]
      cases tree.value depth <;> rfl
  | later unnamed holds ih => rw [Members.ofMember, if_neg unnamed, ih]

/-- Keys that have been met stay so. -/
theorem Members.seen_of_ofMember {members : Members α}
    (made : members.ofMember depth name tree filling = .ok filled) (seen : key ∈ filling.seen) :
    key ∈ filled.seen := by
  match members with
  | .nil =>
      cases made
      exact seen
  | .cons _ other aliases _ format _ set' rest =>
      rw [Members.ofMember] at made
      split_ifs at made with named repeated
      · obtain ⟨value, _, rfl⟩ := map_eq_ok_iff.mp made
        exact List.mem_cons_of_mem _ seen
      · exact seen_of_ofMember made seen

/-- Members apart from a measure are filled alike, whatever it is. -/
theorem Members.ofMember_put_of_allApart {members : Members α}
    (apart : members.AllApart get set) (measure : Measure)
    (made : members.ofMember depth name tree filling = .ok filled) :
    members.ofMember depth name tree (filling.put set measure) = .ok (filled.put set measure) := by
  match members with
  | .nil =>
      cases made
      rfl
  | .cons _ other aliases _ format _ set' rest =>
      rw [Members.ofMember] at made ⊢
      split_ifs at made with named repeated
      · obtain ⟨value, read, rfl⟩ := map_eq_ok_iff.mp made
        rw [if_pos named, Filling.put, if_neg repeated, read]
        simp only [Except.map, Filling.put, apart.1.commute]
      · rw [if_neg named]
        exact ofMember_put_of_allApart apart.2 measure made

/-- Once a measure has been met, all that follows is filled alike, whatever it is. -/
theorem Members.Holds.ofMember_put (holds : members.Holds written key get set)
    (lawful : members.Lawful) (measure : Measure) (seen : key ∈ filling.seen)
    (made : members.ofMember depth name tree filling = .ok filled) :
    members.ofMember depth name tree (filling.put set measure) = .ok (filled.put set measure) := by
  induction holds with
  | here named =>
      obtain ⟨_, _, apart, _⟩ := lawful
      rw [Members.ofMember] at made ⊢
      split_ifs at made with same repeated
      · -- A second value of the measure itself would have been refused.
        exact absurd (List.contains_iff_mem.mpr seen) repeated
      · rw [if_neg same]
        exact ofMember_put_of_allApart apart measure made
  | @later _ _ other _ _ format _ set' rest unnamed holds ih =>
      obtain ⟨_, _, apart, lawful⟩ := lawful
      rw [Members.ofMember] at made ⊢
      split_ifs at made with same repeated
      · obtain ⟨value, read, rfl⟩ := map_eq_ok_iff.mp made
        rw [if_pos same, Filling.put, if_neg repeated, read]
        simp only [Except.map, Filling.put, (holds.apart apart).commute]
      · rw [if_neg same]
        exact ih lawful made

/-- The rest of an object is filled alike, whatever a measure is that has been met. -/
theorem Members.Holds.fold_put (holds : members.Holds written key get set)
    (lawful : members.Lawful) (measure : Measure) (entries : Entries)
    {filling filled : Filling α} (seen : key ∈ filling.seen)
    (made : entries.fold (members.ofMember depth) filling = .ok filled) :
    entries.fold (members.ofMember depth) (filling.put set measure) =
      .ok (filled.put set measure) := by
  match entries with
  | .nil =>
      cases made
      rfl
  | .cons _ _ glyphs _ _ tree more =>
      rw [Entries.fold] at made ⊢
      obtain ⟨name, spelled, made⟩ := bind_eq_ok_iff.mp made
      obtain ⟨next, first, made⟩ := bind_eq_ok_iff.mp made
      rw [spelled]
      simp only [bind, Except.bind, holds.ofMember_put lawful measure seen first]
      exact holds.fold_put lawful measure more (seen_of_ofMember first seen) made

end

/-! ## Objects with a gap -/

/-- All members of one row and then those of another. -/
def Entries.append : Entries → Entries → Entries
  | .nil, others => others
  | .cons pad blank key afterKey beforeValue value more, others =>
      .cons pad blank key afterKey beforeValue value (more.append others)

theorem Entries.fold_append {σ : Type} (result : String → Tree → σ → Except Fault σ)
    (entries others : Entries) (state : σ) :
    (entries.append others).fold result state =
      (entries.fold result state).bind fun state => others.fold result state := by
  cases entries with
  | nil => rfl
  | cons pad blank key afterKey beforeValue tree more =>
      rw [Entries.append, Entries.fold, Entries.fold]
      cases Glyph.string key with
      | error fault => rfl
      | ok key =>
          simp only [bind, Except.bind]
          cases result key tree state with
          | error fault => rfl
          | ok next => exact more.fold_append result others next

/-- An object that lacks the value of one member. -/
structure Gap where
  front : Entries
  pad : Blank
  blank : Blank
  key : List Glyph
  afterKey : Blank
  beforeValue : Blank
  more : Entries
  last : Blank

/-- The object with this value in its gap. -/
def Gap.fill (gap : Gap) (tree : Tree) : Tree :=
  .object (gap.front.append
    (.cons gap.pad gap.blank gap.key gap.afterKey gap.beforeValue tree gap.more)) gap.last

section

variable {α : Type} {name : String} {blank : α} {members : Members α} {written key : String}
  {get : α → Measure} {set : Measure → α → α} {depth : Nat} {gap : Gap} {tree : Tree} {record : α}

/-- An object is read up to its gap, over it and on to its end. -/
theorem ofTree_fill (spelled : Glyph.string gap.key = .ok written) (tree : Tree) :
    (Format.record name blank members).ofTree (depth + 1) (gap.fill tree) = (do
      let before ← gap.front.fold (members.ofMember depth) ⟨blank, []⟩
      let filled ← members.ofMember depth written tree before
      let after ← gap.more.fold (members.ofMember depth) filled
      match members.absent? after.seen with
      | some key => .error (.misshapen (.missingField key))
      | none => return after.record) := by
  rw [Gap.fill, Format.ofTree, Entries.fold_append]
  cases gap.front.fold (members.ofMember depth) ⟨blank, []⟩ with
  | error fault => rfl
  | ok before =>
      simp only [Except.bind, bind, Entries.fold, spelled]
      cases members.ofMember depth written tree before with
      | error fault => rfl
      | ok filled => rfl

/-- What can be told of an object that was read: the measure in its gap had a value, had not been
met before, and is set to that value. -/
theorem Members.Holds.exists_fillings (holds : members.Holds written key get set)
    (spelled : Glyph.string gap.key = .ok written)
    (made : (Format.record name blank members).ofTree (depth + 1) (gap.fill tree) = .ok record) :
    ∃ value before after, tree.value depth = .ok value ∧
      gap.front.fold (members.ofMember depth) ⟨blank, []⟩ = .ok before ∧
      ¬before.seen.contains key = true ∧
      gap.more.fold (members.ofMember depth)
        ⟨set (Measure.ofValue value) before.record, key :: before.seen⟩ = .ok after ∧
      members.absent? after.seen = none ∧ after.record = record := by
  rw [ofTree_fill spelled] at made
  obtain ⟨before, start, made⟩ := bind_eq_ok_iff.mp made
  obtain ⟨filled, member, made⟩ := bind_eq_ok_iff.mp made
  obtain ⟨after, finish, ended⟩ := bind_eq_ok_iff.mp made
  rw [holds.ofMember_eq] at member
  split_ifs at member with repeated
  obtain ⟨value, read, rfl⟩ := map_eq_ok_iff.mp member
  cases absent : members.absent? after.seen with
  | some missing =>
      rw [absent] at ended
      cases ended
  | none =>
      rw [absent] at ended
      cases ended
      exact ⟨value, before, after, read, start, repeated, finish, absent, rfl⟩

/-- Another value in the gap of a measure sets that measure and changes nothing else. -/
theorem Members.Holds.ofTree_refill (holds : members.Holds written key get set)
    (lawful : members.Lawful) (spelled : Glyph.string gap.key = .ok written)
    (made : (Format.record name blank members).ofTree (depth + 1) (gap.fill tree) = .ok record)
    {other : Tree} {value : Value} (read : other.value depth = .ok value) :
    (Format.record name blank members).ofTree (depth + 1) (gap.fill other) =
      .ok (set (Measure.ofValue value) record) := by
  obtain ⟨old, before, after, _, start, unmet, finish, absent, rfl⟩ :=
    holds.exists_fillings spelled made
  have rest := holds.fold_put lawful (Measure.ofValue value) gap.more List.mem_cons_self finish
  rw [Filling.put, (holds.accessors lawful).set_set] at rest
  have filled : members.ofMember depth written other before =
      .ok ⟨set (Measure.ofValue value) before.record, key :: before.seen⟩ := by
    rw [holds.ofMember_eq, if_neg unmet, read]
    rfl
  rw [ofTree_fill spelled, start]
  simp only [bind, Except.bind, filled, rest, Filling.put, absent]
  rfl

/-- A value that cannot be read in the gap of a measure fails the whole object. -/
theorem Members.Holds.ofTree_refill_error (holds : members.Holds written key get set)
    (spelled : Glyph.string gap.key = .ok written)
    (made : (Format.record name blank members).ofTree (depth + 1) (gap.fill tree) = .ok record)
    {other : Tree} {fault : Fault} (read : other.value depth = .error fault) :
    (Format.record name blank members).ofTree (depth + 1) (gap.fill other) = .error fault := by
  obtain ⟨_, before, _, _, start, unmet, _⟩ := holds.exists_fillings spelled made
  have refused : members.ofMember depth written other before = .error fault := by
    rw [holds.ofMember_eq, if_neg unmet, read]
    rfl
  rw [ofTree_fill spelled, start]
  simp only [bind, Except.bind, refused]

end

end RouterTelemetry.Json
