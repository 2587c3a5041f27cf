import RouterTelemetry.Json.Skim
import RouterTelemetry.Measure

/-!
# Typed formats

A `Format α` describes the JSON documents that stand for an `α`: measures,
texts, any value, lists, and records with named members.  The reader is derived
from the description.  A record is read from an object, in any order and with
unknown keys passed over, or from a list by the order of its members.  Members
that are absent keep the value of the blank record.

Reading goes through the document from front to back, and the first problem met
is the cause of the refusal.
-/

namespace RouterTelemetry.Json

mutual

/-- How values of a type are written. -/
inductive Format : Type → Type 1 where
  | measure : Format Measure
  | text : Format String
  | any : Format Value
  | list {α : Type} (item : Format α) : Format (List α)
  /-- A record starts as `blank` and is filled member by member. -/
  | record {α : Type} (name : String) (blank : α) (members : Members α) : Format α

/-- The members of a record, in order. -/
inductive Members : Type → Type 1 where
  | nil {α : Type} : Members α
  | cons {α β : Type} (label : String) (key : String) (aliases : List String)
      (required : Bool) (format : Format β) (get : α → β) (set : β → α → α)
      (rest : Members α) : Members α

end

/-! ## What is known of the members -/

/-- The keys of the members, in order, without aliases. -/
def Members.keys {α : Type} : Members α → List String
  | .nil => []
  | .cons _ key _ _ _ _ _ rest => key :: rest.keys

/-- The first required member whose key is not among `seen`. -/
def Members.absent? {α : Type} (seen : List String) : Members α → Option String
  | .nil => none
  | .cons _ key _ required _ _ _ rest =>
      if required && !seen.contains key then some key else rest.absent? seen

/-- The position of the first required member. -/
def Members.requiredAt? {α : Type} (position : Nat) : Members α → Option Nat
  | .nil => none
  | .cons _ _ _ required _ _ _ rest =>
      if required then some position else rest.requiredAt? (position + 1)

/-- A record as a message counts its members. -/
def recordWithSize (name : String) (size : Nat) : String :=
  "struct " ++ name ++ " with " ++ toString size ++ (if size = 1 then " element" else " elements")

/-- Reads the end of a list all of whose places have been filled. -/
def readListEnd (input : Input) : Except Fault (Reading Unit input.length) :=
  match skipBlank input with
  | ⟨[], _⟩ => .error (.ended .list)
  | ⟨b :: rest, le⟩ =>
      if b = byte ']' then
        .ok ⟨(), rest, shorter_of_le le⟩
      else if b = byte ',' then
        match (skipBlank rest).val with
        | [] => .error (.malformed .trailingCharacters)
        | c :: _ =>
            if c = byte ']' then .error (.malformed .trailingComma)
            else .error (.malformed .trailingCharacters)
      else
        .error (.malformed .trailingCharacters)

/-- What is left of a record when its list has ended before the member at
`position`: the members not reached stay blank, unless one is required. -/
def Members.leave {α : Type} (name : String) (size position : Nat) (members : Members α)
    (record : α) : Except Fault α :=
  match members.requiredAt? position with
  | none => .ok record
  | some missing => .error (.misshapen (.tooShort missing (recordWithSize name size)))

/-! ## The reader of a format -/

/-- The state of a record that is being read from an object: the record so far and
the keys met. -/
structure Filling (α : Type) where
  record : α
  seen : List String

mutual

/-- Reads a value in a format, with at most `depth` more open brackets. -/
def Format.read {α : Type} : Format α → (depth : Nat) → Reader α
  | .measure, depth => readMeasure depth
  | .any, depth => readValue depth
  | .text, _ => fun input =>
      match readHead input with
      | .error fault => .error fault
      | .ok head =>
          match head.value with
          | .text text => .ok (head.map fun _ => text)
          | other => other.refused "a string"
  | .list item, depth => fun input =>
      match readHead input with
      | .error fault => .error fault
      | .ok head =>
          match head.value with
          | .list =>
              match depth with
              | 0 => .error (.malformed .tooDeep)
              | depth + 1 =>
                  (readItems (item.read depth) true head.rest).map fun items =>
                    items.widen (Nat.le_of_lt head.shorter)
          | other => other.refused "a sequence"
  | .record name blank members, depth => fun input =>
      match readHead input with
      | .error fault => .error fault
      | .ok head =>
          match head.value with
          | .list =>
              match depth with
              | 0 => .error (.malformed .tooDeep)
              | depth + 1 =>
                  (members.readPlaces depth name members.keys.length 0 blank head.rest).map
                    fun record => record.widen (Nat.le_of_lt head.shorter)
          | .object =>
              match depth with
              | 0 => .error (.malformed .tooDeep)
              | depth + 1 =>
                  match readMembers (members.entry depth) true ⟨blank, []⟩ head.rest with
                  | .error fault => .error fault
                  | .ok filling =>
                      match members.absent? filling.value.seen with
                      | some key => .error (.misshapen (.missingField key))
                      | none =>
                          .ok ((filling.map Filling.record).widen (Nat.le_of_lt head.shorter))
          | other => other.refused ("struct " ++ name)

/-- The reader for the value of a key: the one of the member with this key or
alias, once; any other value is passed over. -/
def Members.entry {α : Type} : Members α → (depth : Nat) → (key : String) → Filling α →
    Except Fault (Reader (Filling α))
  | .nil, _, _, filling => .ok fun input =>
      (skimValue input).map fun value => value.map fun _ => filling
  | .cons _ name aliases _ format _ set rest, depth, key, filling =>
      if name = key ∨ key ∈ aliases then
        if filling.seen.contains name then
          .error (.misshapen (.duplicateField name))
        else
          .ok fun input =>
            (format.read depth input).map fun value =>
              value.map fun value => ⟨set value filling.record, name :: filling.seen⟩
      else
        rest.entry depth key filling

/-- Reads members from a list by their order, from the member at `position` on. -/
def Members.readPlaces {α : Type} : Members α → (depth : Nat) → (name : String) →
    (size position : Nat) → (record : α) → Reader α
  | .nil, _, _, _, _, record => fun input =>
      (readListEnd input).map fun ending => ending.map fun _ => record
  | .cons label key aliases required format get set rest, depth, name, size, position, record =>
      fun input =>
        match nextItem (position == 0) input with
        | .error fault => .error fault
        | .ok (.closed after shorter) =>
            (Members.leave name size position
              (.cons label key aliases required format get set rest) record).map fun record =>
                ⟨record, after, shorter⟩
        | .ok (.next _ here le) =>
            match format.read depth here with
            | .error fault => .error fault
            | .ok value =>
                (rest.readPlaces depth name size (position + 1) (set value.value record)
                  value.rest).map fun record =>
                    record.widen (Nat.le_of_lt (Nat.lt_of_lt_of_le value.shorter le))

end

/-- Reads a whole document in a format. -/
def Format.decode {α : Type} (format : Format α) (document : Input) : Except Fault α :=
  readDocument (format.read depthLimit) document

/-! ## Building formats -/

/-- A record with one member that holds the whole value: a wrapper without a type of
its own. -/
def Format.wrapped {α : Type} (name : String) (blank : α) (key : String) (inner : Format α) :
    Format α :=
  .record name blank (.cons key key [] false inner id (fun value _ => value) .nil)

/-- Prepends an optional member whose label is its key. -/
def Members.field {α β : Type} (key : String) (format : Format β) (get : α → β)
    (set : β → α → α) (rest : Members α) : Members α :=
  .cons key key [] false format get set rest

/-! ## The labelled view of a value -/

/-- A value with the names of its records and the labels of their members. -/
inductive Labelled where
  | measure (measure : Measure)
  | text (text : String)
  | any (value : Value)
  | list (items : List Labelled)
  | record (name : String) (members : List (String × Labelled))

mutual

/-- Every record of a value with its name, and every member under its label. -/
def Format.view {α : Type} : Format α → α → Labelled
  | .measure, measure => .measure measure
  | .text, text => .text text
  | .any, value => .any value
  | .list item, items => .list (items.map item.view)
  | .record name _ members, record => .record name (members.view record)

/-- The members of a record under their labels. -/
def Members.view {α : Type} : Members α → α → List (String × Labelled)
  | .nil, _ => []
  | .cons label _ _ _ format get _ rest, record =>
      (label, format.view (get record)) :: rest.view record

end

end RouterTelemetry.Json
