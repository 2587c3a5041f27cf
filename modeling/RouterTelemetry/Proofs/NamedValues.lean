import RouterTelemetry.Proofs.MeasureOrigin
import RouterTelemetry.Proofs.SkimmedReadings
import RouterTelemetry.Proofs.WellShaped

/-!
# Values by their names

Where the values of a document stand can be told without a format: at the items of its lists, and
under the keys of its objects.  A record that is an object has in each member what stands under
the key of that member, or under an alias of it.  A record can also be a list, and then its members
are what stands at their positions, under no key at all.
-/

namespace RouterTelemetry.Json

/-! ## Spots of a document -/

/-- Passes over a value and keeps the spot where it stands: the input that it begins. -/
def readSpot : Reader Input := fun input =>
  (skimValue input).map fun value => value.map fun _ => input

/-- Adds the spot of the value of a key. -/
def spotEntry (key : String) (entries : List (String × Input)) :
    Except Fault (Reader (List (String × Input))) :=
  .ok fun input => (readSpot input).map fun spot => spot.map fun spot => entries ++ [(key, spot)]

/-- The spots of the items, if there is a list at this spot. -/
def itemsAt? (spot : Input) : Option (List Input) :=
  match outcome (readHead spot) with
  | .ok (.list, rest) => (outcome (readItems readSpot true rest)).toOption.map Prod.fst
  | _ => none

/-- The keys and the spots of their values, if there is an object at this spot. -/
def membersAt? (spot : Input) : Option (List (String × Input)) :=
  match outcome (readHead spot) with
  | .ok (.object, rest) => (outcome (readMembers spotEntry true [] rest)).toOption.map Prod.fst
  | _ => none

/-- The reader makes this value of what stands at the spot. -/
def Makes {α : Type} (reader : Reader α) (spot : Input) (value : α) : Prop :=
  ∃ rest, outcome (reader spot) = .ok (value, rest)

/-- The value of what stands at the spot. -/
def ValueAt (spot : Input) (value : Value) : Prop :=
  ∃ depth, Makes (readValue depth) spot value

/-! ## Members by name and by position -/

/-- The entries whose key is this one or an alias of it. -/
def called (key : String) (aliases : List String) (entries : List (String × Input)) :
    List (String × Input) :=
  entries.filter fun entry => key = entry.1 ∨ entry.1 ∈ aliases

/-- The entries that go by another name. -/
def uncalled (key : String) (aliases : List String) (entries : List (String × Input)) :
    List (String × Input) :=
  entries.filter fun entry => ¬(key = entry.1 ∨ entry.1 ∈ aliases)

mutual

/-- Nothing is in the value. -/
def Format.IsBlank {α : Type} : Format α → α → Prop
  | .measure, measure => measure = .missing
  | .text, text => text = ""
  | .any, value => value = .null
  | .list _, items => items = []
  | .record _ _ members, record => members.AllBlank record

/-- Nothing is in any of the members. -/
def Members.AllBlank {α : Type} : Members α → α → Prop
  | .nil, _ => True
  | .cons _ _ _ _ format get _ rest, record => format.IsBlank (get record) ∧ rest.AllBlank record

end

mutual

/-- The value is what stands at the spot.  For a record it is an object there, or a list where
members may also be known by their positions. -/
def Format.StandsAt (byPosition : Bool) {α : Type} : Format α → Input → α → Prop
  | .measure, spot, measure => ∃ value, ValueAt spot value ∧ measure = .ofValue value
  | .text, spot, text => Makes readHead spot (.text text)
  | .any, spot, value => ValueAt spot value
  | .list item, spot, items =>
      ∃ spots, itemsAt? spot = some spots ∧ List.Forall₂ (item.StandsAt byPosition) spots items
  | .record _ _ members, spot, record =>
      (∃ entries, membersAt? spot = some entries ∧ members.NamedIn byPosition entries record) ∨
        (byPosition = true ∧
          ∃ spots, itemsAt? spot = some spots ∧ members.PlacedAt byPosition spots record)

/-- Every member is what stands under its name, once, or nothing where there is none. -/
def Members.NamedIn (byPosition : Bool) {α : Type} :
    Members α → List (String × Input) → α → Prop
  | .nil, _, _ => True
  | .cons _ key aliases _ format get _ rest, entries, record =>
      ((∃ entry, called key aliases entries = [entry] ∧
          format.StandsAt byPosition entry.2 (get record)) ∨
        (called key aliases entries = [] ∧ format.IsBlank (get record))) ∧
      rest.NamedIn byPosition (uncalled key aliases entries) record

/-- Every member is what stands at its position, or nothing if the spots end before. -/
def Members.PlacedAt (byPosition : Bool) {α : Type} : Members α → List Input → α → Prop
  | .nil, spots, _ => spots = []
  | .cons _ _ _ _ format get _ rest, spots, record =>
      match spots with
      | [] => format.IsBlank (get record) ∧ rest.PlacedAt byPosition [] record
      | spot :: spots =>
          format.StandsAt byPosition spot (get record) ∧ rest.PlacedAt byPosition spots record

end

mutual

/-- All records that the format meets in the document are objects. -/
def Format.InObjects {α : Type} : Format α → Input → Prop
  | .measure, _ | .text, _ | .any, _ => True
  | .list item, spot => ∃ spots, itemsAt? spot = some spots ∧ ∀ spot ∈ spots, item.InObjects spot
  | .record _ _ members, spot =>
      ∃ entries, membersAt? spot = some entries ∧ members.AllInObjects entries

/-- All records in the members are objects. -/
def Members.AllInObjects {α : Type} : Members α → List (String × Input) → Prop
  | .nil, _ => True
  | .cons _ key aliases _ format _ _ rest, entries =>
      (∀ entry ∈ called key aliases entries, format.InObjects entry.2) ∧
        rest.AllInObjects (uncalled key aliases entries)

end

mutual

/-- Every record starts with nothing in it. -/
def Format.StartsBlank {α : Type} : Format α → Prop
  | .measure | .text | .any => True
  | .list item => item.StartsBlank
  | .record _ blank members => members.AllBlank blank ∧ members.AllStartBlank

/-- The records of all members do. -/
def Members.AllStartBlank {α : Type} : Members α → Prop
  | .nil => True
  | .cons _ _ _ _ format _ _ rest => format.StartsBlank ∧ rest.AllStartBlank

end

/-! ## Objects only -/

theorem itemsAt?_eq_none {spot : Input} {entries : List (String × Input)}
    (object : membersAt? spot = some entries) : itemsAt? spot = none := by
  rw [membersAt?] at object
  split at object
  next read => rw [itemsAt?, read]
  · cases object

/-- A relation that depends on the left side alone holds in a row where a property does. -/
theorem forall₂_iff_forall {α β : Type} {R : α → β → Prop} {P : α → Prop} {left : List α}
    {right : List β} (alike : List.Forall₂ (fun a b => R a b ↔ P a) left right) :
    List.Forall₂ R left right ↔ ∀ a ∈ left, P a := by
  induction alike with
  | nil => simp
  | cons same _ ih => rw [List.forall₂_cons, List.forall_mem_cons, same, ih]

mutual

/-- What stands at a spot is known by names alone if and only if all its records are objects. -/
theorem Format.standsAt_by_name_iff {α : Type} (format : Format α) {spot : Input} :
    ∀ {value : α}, format.StandsAt true spot value →
      (format.StandsAt false spot value ↔ format.InObjects spot) := by
  match format with
  | .measure | .text | .any =>
      intro value stands
      exact iff_of_true stands trivial
  | .list item =>
      rintro items ⟨spots, found, each⟩
      have alike := forall₂_iff_forall (each.imp fun _ _ => item.standsAt_by_name_iff)
      simp only [Format.StandsAt, Format.InObjects, found, Option.some.injEq,
        exists_eq_left', alike]
  | .record _ _ members =>
      rintro record (⟨entries, found, named⟩ | ⟨_, spots, found, _⟩)
      · have alike := members.namedIn_by_name_iff named
        simp only [Format.StandsAt, Format.InObjects, found, Option.some.injEq, exists_eq_left',
          alike, Bool.false_eq_true, false_and, or_false]
      · have noObject : ∀ entries, membersAt? spot ≠ some entries := by
          intro entries object
          rw [itemsAt?_eq_none object] at found
          cases found
        simp [Format.StandsAt, Format.InObjects, noObject]

theorem Members.namedIn_by_name_iff {α : Type} (members : Members α)
    {entries : List (String × Input)} :
    ∀ {record : α}, members.NamedIn true entries record →
      (members.NamedIn false entries record ↔ members.AllInObjects entries) := by
  match members with
  | .nil =>
      intro record _
      exact Iff.rfl
  | .cons _ key aliases _ format get _ rest =>
      rintro record ⟨first, others⟩
      have alike := rest.namedIn_by_name_iff others
      rw [Members.NamedIn, Members.AllInObjects, alike]
      refine and_congr_left' ?_
      rcases first with ⟨entry, single, stands⟩ | ⟨none, blank⟩
      · simp [single, format.standsAt_by_name_iff stands]
      · simp [none, blank]

end

/-! ## Spots that a reader visits -/

theorem outcome_readSpot {spot rest : Input} (passed : outcome (skimValue spot) = .ok ((), rest)) :
    outcome (readSpot spot) = .ok (spot, rest) := by
  rw [readSpot, outcome_map_map, passed]
  rfl

/-- The items that are read stand at the spots of the items. -/
theorem Skims.exists_spots {α : Type} {item : Reader α} (skims : Skims item) {first : Bool}
    {input : Input} {items : Reading (List α) input.length}
    (found : readItems item first input = .ok items) :
    ∃ spots, outcome (readItems readSpot first input) = .ok (spots, items.rest) ∧
      List.Forall₂ (Makes item) spots items.value := by
  fun_induction readItems item first input with
  | case1 | case3 | case4 => cases found
  | case2 first input rest shorter decided =>
      cases found
      refine ⟨[], ?_, .nil⟩
      rw [outcome_readItems, decided]
      rfl
  | case5 first input _ here le decided head headRead _ tail tailRead ih =>
      cases found
      have given : outcome (item here) = .ok (head.value, head.rest) := by
        rw [headRead]
        rfl
      have spot := outcome_readSpot (skims given)
      obtain ⟨spots, more, each⟩ := ih tailRead
      refine ⟨here :: spots, ?_, .cons ⟨_, given⟩ each⟩
      rw [outcome_readItems, decided]
      simp only [decision, Except.map, bind, Except.bind, spot, more]
      rfl

/-- From state to state the entries are read one after the other. -/
inductive Gathers {σ : Type} (entry : String → σ → Except Fault (Reader σ)) :
    σ → List (String × Input) → σ → Prop where
  | nil (state : σ) : Gathers entry state [] state
  | cons {key : String} {spot : Input} {state next after : σ} {reader : Reader σ}
      {entries : List (String × Input)} (entered : entry key state = .ok reader)
      (given : Makes reader spot next) (more : Gathers entry next entries after) :
      Gathers entry state ((key, spot) :: entries) after

/-- What every entry keeps true holds when all of them are read. -/
theorem Gathers.invariant {σ : Type} {entry : String → σ → Except Fault (Reader σ)}
    {P : List (String × Input) → σ → Prop}
    (step : ∀ {key spot state next reader processed}, entry key state = .ok reader →
      Makes reader spot next → P processed state → P (processed ++ [(key, spot)]) next)
    {state after : σ} {entries : List (String × Input)}
    (gathered : Gathers entry state entries after) {processed : List (String × Input)}
    (holds : P processed state) : P (processed ++ entries) after := by
  induction gathered generalizing processed with
  | nil state => rwa [List.append_nil]
  | cons entered given _ ih =>
      rw [List.append_cons]
      exact ih (step entered given holds)

/-- The members that are read stand at the spots of the members. -/
theorem Skims.exists_entries {σ : Type} {entry : String → σ → Except Fault (Reader σ)}
    (skims : ∀ {key state reader}, entry key state = .ok reader → Skims reader) {first : Bool}
    {state : σ} {input : Input} {members : Reading σ input.length}
    (found : readMembers entry first state input = .ok members)
    (before : List (String × Input)) :
    ∃ entries, outcome (readMembers spotEntry first before input) =
        .ok (before ++ entries, members.rest) ∧ Gathers entry state entries members.value := by
  fun_induction readMembers entry first state input generalizing before with
  | case1 | case3 | case4 | case5 | case6 => cases found
  | case2 first state input rest shorter decided =>
      cases found
      refine ⟨[], ?_, .nil _⟩
      rw [outcome_readMembers, decided, List.append_nil]
      rfl
  | case7 first state input key afterKey le decided reader entered colon colonRead value valueRead
      _ tail tailRead ih =>
      cases found
      have given : outcome (reader colon.rest) = .ok (value.value, value.rest) := by
        rw [valueRead]
        rfl
      have spot := outcome_readSpot (skims entered given)
      obtain ⟨entries, rest, more⟩ := ih tailRead (before ++ [(key, colon.rest)])
      refine ⟨(key, colon.rest) :: entries, ?_, .cons entered ⟨_, given⟩ more⟩
      have turn : decision (Except.ok (Turn.next key afterKey le)) = .ok (some key, afterKey) := rfl
      have added : outcome ((readSpot colon.rest).map fun spot =>
          spot.map fun spot => before ++ [(key, spot)]) =
            .ok (before ++ [(key, colon.rest)], value.rest) := by
        rw [outcome_map_map, spot]
        rfl
      rw [outcome_readMembers, decided, turn]
      simp only [bind, Except.bind, spotEntry, colonRead, outcome_ok, added, rest,
        List.append_assoc, List.singleton_append]
      rfl

/-! ## Filling a record -/

section

variable {α β : Type} {key written : String} {aliases : List String}
  {processed : List (String × Input)} {spot : Input}

theorem called_append_of_named (named : key = written ∨ written ∈ aliases) :
    called key aliases (processed ++ [(written, spot)]) =
      called key aliases processed ++ [(written, spot)] := by
  simp [called, named]

theorem uncalled_append_of_named (named : key = written ∨ written ∈ aliases) :
    uncalled key aliases (processed ++ [(written, spot)]) = uncalled key aliases processed := by
  simpa [uncalled] using or_iff_not_imp_left.mp named

theorem called_append_of_unnamed (unnamed : ¬(key = written ∨ written ∈ aliases)) :
    called key aliases (processed ++ [(written, spot)]) = called key aliases processed := by
  simp [called, unnamed]

theorem uncalled_append_of_unnamed (unnamed : ¬(key = written ∨ written ∈ aliases)) :
    uncalled key aliases (processed ++ [(written, spot)]) =
      uncalled key aliases processed ++ [(written, spot)] := by
  simpa [uncalled] using not_or.mp unnamed

/-- Setting a member leaves those apart from it as they stand. -/
theorem Members.namedIn_set {byPosition : Bool} {members : Members α} {get : α → β}
    {set : β → α → α} {entries : List (String × Input)} {record : α}
    (named : members.NamedIn byPosition entries record) (apart : members.AllApart get set)
    (value : β) : members.NamedIn byPosition entries (set value record) := by
  match members with
  | .nil => trivial
  | .cons _ _ _ _ format get' _ rest =>
      have same := apart.1.keeps value record
      refine ⟨?_, namedIn_set named.2 apart.2 value⟩
      rw [same]
      exact named.1

theorem Members.allBlank_set {members : Members α} {get : α → β} {set : β → α → α} {record : α}
    (blank : members.AllBlank record) (apart : members.AllApart get set) (value : β) :
    members.AllBlank (set value record) := by
  match members with
  | .nil => trivial
  | .cons _ _ _ _ format get' _ rest =>
      refine ⟨?_, allBlank_set blank.2 apart.2 value⟩
      rw [apart.1.keeps value record]
      exact blank.1

/-- The keys that have been met are those of the members that entries were given for. -/
def Members.MetIn : Members α → List (String × Input) → List String → Prop
  | .nil, _, _ => True
  | .cons _ key aliases _ _ _ _ rest, entries, seen =>
      (key ∈ seen ↔ called key aliases entries ≠ []) ∧
        rest.MetIn (uncalled key aliases entries) seen

theorem Members.metIn_cons {members : Members α} {entries : List (String × Input)}
    {seen : List String} (met : members.MetIn entries seen) (other : key ∉ members.keys) :
    members.MetIn entries (key :: seen) := by
  match members with
  | .nil => trivial
  | .cons _ key' aliases' _ _ _ _ rest =>
      rw [Members.keys, List.mem_cons, not_or] at other
      refine ⟨?_, metIn_cons met.2 other.2⟩
      rw [List.mem_cons, or_iff_right (Ne.symm other.1)]
      exact met.1

/-- A key that no member has is met as before. -/
theorem Members.mem_seen_iff_of_entry {members : Members α} {depth : Nat}
    {filling after : Filling α} {reader : Reader (Filling α)}
    (entered : members.entry depth written filling = .ok reader) (given : Makes reader spot after)
    (other : key ∉ members.keys) : key ∈ after.seen ↔ key ∈ filling.seen := by
  obtain ⟨rest, read⟩ := given
  match members with
  | .nil =>
      cases entered
      rw [outcome_map_map] at read
      obtain ⟨_, _, same⟩ := map_eq_ok_iff.mp read
      cases same
      rfl
  | .cons _ name _ _ format _ _ members =>
      rw [Members.keys, List.mem_cons, not_or] at other
      rw [Members.entry] at entered
      split_ifs at entered
      · cases entered
        rw [outcome_map_map] at read
        obtain ⟨_, _, same⟩ := map_eq_ok_iff.mp read
        cases same
        rw [List.mem_cons, or_iff_right other.1]
      · exact mem_seen_iff_of_entry entered ⟨rest, read⟩ other.2

end

/-- The empty object has no entries, and none of them has been met. -/
theorem Members.namedIn_of_allBlank {α : Type} {byPosition : Bool} {members : Members α}
    {record : α} (blank : members.AllBlank record) :
    members.NamedIn byPosition [] record ∧ members.MetIn [] [] := by
  match members with
  | .nil => exact ⟨trivial, trivial⟩
  | .cons _ key aliases _ format get _ rest =>
      obtain ⟨named, met⟩ := namedIn_of_allBlank blank.2
      exact ⟨⟨.inr ⟨rfl, blank.1⟩, named⟩, by simp [called], met⟩

/-- A list that ends has no spots for members that are not reached. -/
theorem Members.placedAt_of_allBlank {α : Type} {byPosition : Bool} {members : Members α}
    {record : α} (blank : members.AllBlank record) : members.PlacedAt byPosition [] record := by
  match members with
  | .nil => rfl
  | .cons _ _ _ _ _ _ _ rest => exact ⟨blank.1, placedAt_of_allBlank blank.2⟩

theorem itemsAt?_eq_some {spot rest after : Input} {spots : List Input}
    (headRead : outcome (readHead spot) = .ok (.list, rest))
    (found : outcome (readItems readSpot true rest) = .ok (spots, after)) :
    itemsAt? spot = some spots := by
  rw [itemsAt?, headRead]
  dsimp only
  rw [found]
  rfl

theorem membersAt?_eq_some {spot rest after : Input} {entries : List (String × Input)}
    (headRead : outcome (readHead spot) = .ok (.object, rest))
    (found : outcome (readMembers spotEntry true [] rest) = .ok (entries, after)) :
    membersAt? spot = some entries := by
  rw [membersAt?, headRead]
  dsimp only
  rw [found]
  rfl

/-! ## What is read -/

/-- The conditions on a format under which its values stand where they should. -/
structure Format.Plain {α : Type} (format : Format α) : Prop where
  lawful : format.Lawful
  fromNothing : format.FromNothing
  startsBlank : format.StartsBlank

/-- The formats of all members are plain. -/
structure Members.Plain {α : Type} (members : Members α) : Prop where
  lawful : members.Lawful
  allLawful : members.AllLawful
  fromNothing : members.AllFromNothing
  startsBlank : members.AllStartBlank

theorem Members.Plain.rest {α β : Type} {label key : String} {aliases : List String}
    {required : Bool} {format : Format β} {get : α → β} {set : β → α → α} {rest : Members α}
    (plain : (Members.cons label key aliases required format get set rest).Plain) : rest.Plain :=
  ⟨plain.lawful.2.2.2, plain.allLawful.2, plain.fromNothing.2, plain.startsBlank.2⟩

theorem Members.Plain.first {α β : Type} {label key : String} {aliases : List String}
    {required : Bool} {format : Format β} {get : α → β} {set : β → α → α} {rest : Members α}
    (plain : (Members.cons label key aliases required format get set rest).Plain) : format.Plain :=
  ⟨plain.allLawful.1, plain.fromNothing.1, plain.startsBlank.1⟩

mutual

/-- What a format reads is what stands at the spot. -/
theorem Format.standsAt_of_read {α : Type} (format : Format α) {depth : Nat} {spot : Input} :
    ∀ {value : α}, format.Plain → Makes (format.read depth) spot value →
      format.StandsAt true spot value := by
  match format with
  | .measure =>
      rintro value plain ⟨rest, read⟩
      have read : outcome (readMeasure depth spot) = .ok (value, rest) := read
      rw [readMeasure, outcome_map_map] at read
      obtain ⟨⟨whole, left⟩, found, same⟩ := map_eq_ok_iff.mp read
      cases same
      exact ⟨whole, ⟨depth, _, found⟩, rfl⟩
  | .any =>
      intro value plain made
      exact ⟨depth, made⟩
  | .text =>
      rintro value plain ⟨rest, read⟩
      rw [outcome_read_text] at read
      obtain ⟨⟨head, after⟩, headRead, read⟩ := bind_eq_ok_iff.mp read
      cases head <;> cases read
      exact ⟨_, headRead⟩
  | .list item =>
      rintro value plain ⟨rest, read⟩
      rw [outcome_read_list] at read
      obtain ⟨⟨head, after⟩, headRead, read⟩ := bind_eq_ok_iff.mp read
      cases head with
      | list =>
          cases depth with
          | zero => cases read
          | succ depth =>
              obtain ⟨shorter, found⟩ := eq_ok_of_outcome read
              obtain ⟨spots, spotted, each⟩ := (item.skims depth).exists_spots found
              have plain : item.Plain := ⟨plain.lawful, plain.fromNothing, plain.startsBlank⟩
              exact ⟨spots, itemsAt?_eq_some headRead spotted,
                each.imp fun _ _ made => item.standsAt_of_read plain made⟩
      | _ => cases read
  | .record name blank members =>
      rintro value ⟨lawful, fromNothing, startsBlank⟩ ⟨rest, read⟩
      have plain : members.Plain := ⟨lawful.1, lawful.2, fromNothing.2, startsBlank.2⟩
      rw [outcome_read_record] at read
      obtain ⟨⟨head, after⟩, headRead, read⟩ := bind_eq_ok_iff.mp read
      cases head with
      | list =>
          cases depth with
          | zero => cases read
          | succ depth =>
              obtain ⟨spots, spotted, placed⟩ :=
                members.placedAt_of_readPlaces plain startsBlank.1 read
              exact .inr ⟨rfl, spots, itemsAt?_eq_some headRead spotted, placed⟩
      | object =>
          cases depth with
          | zero => cases read
          | succ depth =>
              obtain ⟨⟨filling, left⟩, found, complete⟩ := bind_eq_ok_iff.mp read
              dsimp only at complete
              split at complete <;> cases complete
              obtain ⟨shorter, found⟩ := eq_ok_of_outcome found
              obtain ⟨entries, spotted, gathered⟩ :=
                Skims.exists_entries members.skims_entry found []
              have all := gathered.invariant
                (P := fun entries filling => members.NamedIn true entries filling.record ∧
                  members.MetIn entries filling.seen)
                (fun entered made held => members.namedIn_of_entry plain entered made held.1 held.2)
                (Members.namedIn_of_allBlank startsBlank.1)
              exact .inl ⟨entries, membersAt?_eq_some headRead spotted, all.1⟩
      | _ => cases read

/-- One entry more is given for a record. -/
theorem Members.namedIn_of_entry {α : Type} (members : Members α) (plain : members.Plain)
    {depth : Nat} {written : String} {filling after : Filling α} {reader : Reader (Filling α)}
    {processed : List (String × Input)} {spot : Input}
    (entered : members.entry depth written filling = .ok reader)
    (made : Makes reader spot after) (named : members.NamedIn true processed filling.record)
    (met : members.MetIn processed filling.seen) :
    members.NamedIn true (processed ++ [(written, spot)]) after.record ∧
      members.MetIn (processed ++ [(written, spot)]) after.seen := by
  match members with
  | .nil => exact ⟨trivial, trivial⟩
  | .cons _ key aliases _ format get set rest =>
      obtain ⟨first, others⟩ := named
      obtain ⟨metFirst, metOthers⟩ := met
      obtain ⟨accessors, single, apart, lawful⟩ := plain.lawful
      rw [Members.entry] at entered
      split_ifs at entered with calls repeated
      · cases entered
        obtain ⟨left, read⟩ := made
        rw [outcome_map_map] at read
        obtain ⟨⟨value, left⟩, found, same⟩ := map_eq_ok_iff.mp read
        cases same
        have unmet : called key aliases processed = [] := by
          by_contra some
          exact repeated (by simpa using metFirst.mpr some)
        have stands := format.standsAt_of_read plain.first ⟨left, found⟩
        rw [Members.NamedIn, Members.MetIn, called_append_of_named calls,
          uncalled_append_of_named calls, unmet, List.nil_append]
        refine ⟨⟨.inl ⟨_, rfl, ?_⟩, Members.namedIn_set others apart value⟩, by simp,
          Members.metIn_cons metOthers single⟩
        rwa [accessors.get_set]
      · obtain ⟨left, read⟩ := made
        have filled := rest.filled_of_entry lawful plain.rest.allLawful plain.rest.fromNothing
          entered read
        have same := filled.others get set apart
        have seen := Members.mem_seen_iff_of_entry entered ⟨left, read⟩ single
        obtain ⟨named, met⟩ :=
          rest.namedIn_of_entry plain.rest entered ⟨left, read⟩ others metOthers
        rw [Members.NamedIn, Members.MetIn, called_append_of_unnamed calls,
          uncalled_append_of_unnamed calls, same, seen]
        exact ⟨⟨first, named⟩, metFirst, met⟩

theorem Members.placedAt_of_readPlaces {α : Type} (members : Members α) (plain : members.Plain)
    {depth : Nat} {name : String} {size position : Nat} {record after : α} {input rest : Input}
    (blank : members.AllBlank record)
    (read : outcome (members.readPlaces depth name size position record input) =
      .ok (after, rest)) :
    ∃ spots, outcome (readItems readSpot (position == 0) input) = .ok (spots, rest) ∧
      members.PlacedAt true spots after := by
  match members with
  | .nil =>
      rw [Members.readPlaces, outcome_map_map] at read
      obtain ⟨⟨_, left⟩, found, same⟩ := map_eq_ok_iff.mp read
      cases same
      refine ⟨[], ?_, rfl⟩
      rw [outcome_readItems, decision_nextItem_of_readListEnd _ found]
      rfl
  | .cons _ _ _ _ format get set members =>
      rw [outcome_readPlaces] at read
      obtain ⟨⟨turn, here⟩, decided, read⟩ := bind_eq_ok_iff.mp read
      obtain ⟨accessors, _, apart, lawful⟩ := plain.lawful
      cases turn with
      | none =>
          obtain ⟨left, stopped, same⟩ := map_eq_ok_iff.mp read
          cases same
          rw [Members.leave] at stopped
          split at stopped <;> cases stopped
          refine ⟨[], ?_, Members.placedAt_of_allBlank blank⟩
          rw [outcome_readItems, decided]
          rfl
      | some =>
          obtain ⟨⟨value, left⟩, found, read⟩ := bind_eq_ok_iff.mp read
          have filled := members.filled_of_readPlaces lawful plain.rest.allLawful
            plain.rest.fromNothing read
          have same := filled.others get set apart
          obtain ⟨spots, spotted, placed⟩ := members.placedAt_of_readPlaces plain.rest
            (Members.allBlank_set blank.2 apart value) read
          have stands := format.standsAt_of_read plain.first ⟨left, found⟩
          refine ⟨here :: spots, ?_, ?_, placed⟩
          · rw [outcome_readItems, decided]
            have more : outcome (readItems readSpot false left) = .ok (spots, rest) := spotted
            simp only [bind, Except.bind, outcome_readSpot (format.skims depth found), more]
            rfl
          · rwa [same, accessors.get_set]

end

/-- What a format makes of a document is what stands in it. -/
theorem Format.standsAt_of_decode {α : Type} (format : Format α) (plain : format.Plain)
    {document : Input} {value : α} (decoded : format.decode document = .ok value) :
    format.StandsAt true document value := by
  obtain ⟨reading, read, rest⟩ := bind_eq_ok_iff.mp decoded
  obtain ⟨_, _, same⟩ := bind_eq_ok_iff.mp rest
  cases same
  exact format.standsAt_of_read plain ⟨_, by rw [read]; rfl⟩

/-! ## Spots in the text of a tree -/

/-- The only item of a list stands behind its bracket. -/
theorem itemsAt?_singleton (tree : Tree) (rest : Input) :
    itemsAt? (tree.singleton.text ++ rest) = some [tree.text ++ byte ']' :: rest] := by
  have start : tree.singleton.text ++ rest = byte '[' :: (tree.text ++ byte ']' :: rest) := by
    simp [Tree.singleton, Tree.text, Items.text, Blank.none, separator]
  have headRead : outcome (readHead (byte '[' :: (tree.text ++ byte ']' :: rest))) =
      .ok (.list, tree.text ++ byte ']' :: rest) := rfl
  have stops : Stops (byte ']' :: rest) := stops_append .none (by simp) rest
  have passed : outcome (skimValue (tree.text ++ byte ']' :: rest)) = .ok ((), byte ']' :: rest) :=
    reads_skimValue tree .none (byte ']' :: rest) stops
  have more : outcome (readItems readSpot false (byte ']' :: rest)) = .ok ([], rest) := by
    have closed : skipBlank (byte ']' :: rest) = byte ']' :: rest := rfl
    rw [outcome_readItems, decision_nextItem_of_close false closed]
    rfl
  have found : outcome (readItems readSpot true (tree.text ++ byte ']' :: rest)) =
      .ok ([tree.text ++ byte ']' :: rest], rest) := by
    have decided : decision (nextItem true (tree.text ++ byte ']' :: rest)) =
        .ok (some (), tree.text ++ byte ']' :: rest) :=
      decision_nextItem true .none .none tree (byte ']' :: rest)
    rw [outcome_readItems, decided]
    simp only [bind, Except.bind, outcome_readSpot passed, more]
    rfl
  rw [start]
  exact itemsAt?_eq_some headRead found

end RouterTelemetry.Json

namespace RouterTelemetry.Resource

open Json Payload

/-! ## Pages of the router -/

section

variable {α : Type} {resource : Resource α} (fetched : resource.Fetched)

include fetched

/-- Every record in a page starts with nothing in it. -/
theorem startsBlank_of_fetched : resource.page.StartsBlank := by
  cases fetched
  all_goals simp [device, Device.page, Device.format, Temperature.format, Access.format,
    processor, Processor.page, Processor.format, ProcessorTime.format, Processes.format, memory,
    Memory.page, Memory.format, services, Services.page, Services.format, Usb.format, Remote.format,
    Upnp.format, wan, Wan.page, Wan.format, Internet.format, Interface.format, WanAddress.format,
    WanLink.format, wanTraffic, wanTrafficPage, Traffic.format, fibre, Fibre.page, Fibre.format,
    diagnostics, Diagnostics.page, Diagnostics.format, Probe.format, lan, Lan.page, Lan.format,
    LanAddress.format, Port.format, lanTraffic, lanTrafficPage, hosts, hostsPage, Host.format,
    radio, Radio.page, Radio.format, resolver, Resolver.page, Resolver.format, television,
    Television.format, Channel.format, Format.wrapped, Members.field, Counters.format,
    ServiceState.format, Format.StartsBlank, Members.AllStartBlank, Members.AllBlank,
    Format.IsBlank]

theorem plain_of_fetched : resource.page.Plain := by
  obtain ⟨device, processor, memory, services, wan, wanTraffic, fibre, diagnostics, lan,
    lanTraffic, hosts, radio, resolver, television⟩ := lawful_pages
  obtain ⟨device', processor', memory', services', wan', wanTraffic', fibre', diagnostics', lan',
    lanTraffic', hosts', radio', resolver', television'⟩ := pages_fromNothing
  refine ⟨?_, ?_, startsBlank_of_fetched fetched⟩
  · cases fetched <;> first | assumption | exact radio _
  · cases fetched <;> first | assumption | exact radio' _

end

/-- In an answer that is decoded every value is what stands under its name, or at its position in
a list that stands for its record.  It is under its name throughout if and only if every record is
an object. -/
theorem decoded_values_stand {α : Type} {resource : Resource α} (fetched : resource.Fetched)
    {body : Input} {pages : List α} (decoded : resource.decode body = .ok pages) :
    (Format.list resource.page).StandsAt true body pages ∧
      ((Format.list resource.page).StandsAt false body pages ↔
        (Format.list resource.page).InObjects body) := by
  have plain : (Format.list resource.page).Plain :=
    let page := plain_of_fetched fetched
    ⟨page.lawful, page.fromNothing, page.startsBlank⟩
  rw [Resource.decode] at decoded
  split at decoded <;> cases decoded
  next found =>
  have stands := Format.standsAt_of_decode _ plain found
  exact ⟨stands, Format.standsAt_by_name_iff _ stands⟩

/-- The page `[{"dns":{"nbqueries":7}}]` of the resolver. -/
def sevenQueries : Tree :=
  .singleton <| .object (.lettered ['d', 'n', 's'] rfl
    (.object (.lettered ['n', 'b', 'q', 'u', 'e', 'r', 'i', 'e', 's'] rfl (.number seven) .nil)
      .none) .nil) .none

theorem resolver_queries_stand :
    resolver.Fetched ∧
    resolver.decode sevenQueries.text = .ok [{ queries := .value (Number.toFloat (.integer 7)) }] ∧
    ((Format.list resolver.page).StandsAt true sevenQueries.text
        [{ queries := .value (Number.toFloat (.integer 7)) }] ∧
      ((Format.list resolver.page).StandsAt false sevenQueries.text
          [{ queries := .value (Number.toFloat (.integer 7)) }] ↔
        (Format.list resolver.page).InObjects sevenQueries.text)) := by
  have decoded : resolver.decode sevenQueries.text =
      .ok [{ queries := .value (Number.toFloat (.integer 7)) }] := by
    rw [Resource.decode, Format.decode_tree]
    rfl
  exact ⟨.resolver, decoded, decoded_values_stand .resolver decoded⟩

/-- In the answer `[[[7]]]` there are no names, and yet the resolver has had seven queries. -/
theorem resolver_reads_nameless_list :
    let body := "[[[7]]]".toList.map byte
    let page : Resolver := { queries := .value (Number.toFloat (.integer 7)) }
    byte '"' ∉ body ∧ resolver.decode body = .ok [page] ∧
      ¬(Format.list resolver.page).StandsAt false body [page] := by
  intro body page
  have text : body = (listOfSeven.singleton.singleton).text ++ [] := rfl
  refine ⟨by decide, ?_, ?_⟩
  · rw [text, List.append_nil, Resource.decode, Format.decode_tree]
    rfl
  · rintro ⟨spots, found, each⟩
    rw [text, itemsAt?_singleton] at found
    cases found
    obtain ⟨entries, object, _⟩ | ⟨never, _⟩ := (List.forall₂_cons.mp each).1
    · have list := itemsAt?_singleton listOfSeven [byte ']']
      rw [itemsAt?_eq_none object] at list
      cases list
    · cases never

end RouterTelemetry.Resource
