import RouterTelemetry.Json.Literal
import RouterTelemetry.Json.Quotation

/-!
# Heads, items and members

Every value begins with a head: a scalar in full, or an opening bracket.  Lists
and objects are then read one item or member at a time.  `nextItem` and
`nextMember` decide between the closing bracket, the first element and the
comma before a later one.
-/

namespace RouterTelemetry.Json

/-- The beginning of a value. -/
inductive Head where
  | null
  | boolean (value : Bool)
  | number (value : Number)
  | text (value : String)
  | list
  | object

/-- A number as a message describes it. -/
def Number.found : Number → Found
  | .integer value => .integer value
  | .float value => .float value

/-- A head as a message describes it. -/
def Head.found : Head → Found
  | .null => .null
  | .boolean value => .boolean value
  | .number value => value.found
  | .text value => .text value
  | .list => .list
  | .object => .object

/-- The head is not of the expected kind. -/
def Head.refused {α : Type} (head : Head) (expected : String) : Except Fault α :=
  .error (.misshapen (.type head.found expected))

/-- Reads a head that begins right here. -/
def readHeadHere (input : Input) : Except Fault (Reading Head input.length) :=
  match input with
  | [] => .error (.ended .value)
  | b :: rest =>
      let word (letters : List Char) (head : Head) :
          Except Fault (Reading Head (b :: rest).length) :=
        match readWord letters rest with
        | .error fault => .error fault
        | .ok after => .ok ⟨head, after, Nat.lt_succ_of_le after.property⟩
      if b = byte '[' then .ok ⟨.list, rest, rest_shorter b rest⟩
      else if b = byte '{' then .ok ⟨.object, rest, rest_shorter b rest⟩
      else if b = byte '"' then
        match readQuotation rest with
        | .error fault => .error fault
        | .ok text => .ok ⟨.text text.value, text.rest, Nat.lt_succ_of_lt text.shorter⟩
      else if b = byte 'n' then word ['u', 'l', 'l'] .null
      else if b = byte 't' then word ['r', 'u', 'e'] (.boolean true)
      else if b = byte 'f' then word ['a', 'l', 's', 'e'] (.boolean false)
      else if b = byte '-' ∨ isDigit b then
        (readNumber (b :: rest)).map fun number => number.map .number
      else
        .error (.malformed .expectedValue)

/-- Reads a head after blanks. -/
def readHead : Reader Head := fun input =>
  let ⟨here, le⟩ := skipBlank input
  (readHeadHere here).map fun head => head.widen le

/-! ## Elements of lists and objects -/

/-- Before an element: either the closing bracket was read, or an element is next. -/
inductive Turn (α : Type) (bound : Nat) where
  | closed (rest : Input) (shorter : rest.length < bound)
  | next (value : α) (rest : Input) (within : rest.length ≤ bound)

/-- Decides whether a list has another item; `first` holds before the first one. -/
def nextItem (first : Bool) (input : Input) : Except Fault (Turn Unit input.length) :=
  match skipBlank input with
  | ⟨[], _⟩ => .error (.ended .list)
  | ⟨b :: rest, le⟩ =>
      have shorter : rest.length < input.length := shorter_of_le le
      if b = byte ']' then
        .ok (.closed rest shorter)
      else if first then
        .ok (.next () (b :: rest) le)
      else if b = byte ',' then
        match skipBlank rest with
        | ⟨[], _⟩ => .error (.ended .value)
        | ⟨c :: after, le'⟩ =>
            if c = byte ']' then
              .error (.malformed .trailingComma)
            else
              .ok (.next () (c :: after) (Nat.le_trans le' (Nat.le_of_lt shorter)))
      else
        .error (.malformed .expectedCommaOrBracket)

/-- Decides whether an object has another member, and reads its key. -/
def nextMember (first : Bool) (input : Input) : Except Fault (Turn String input.length) :=
  match skipBlank input with
  | ⟨[], _⟩ => .error (.ended .object)
  | ⟨b :: rest, le⟩ =>
      have shorter : rest.length < input.length := shorter_of_le le
      if b = byte '}' then
        .ok (.closed rest shorter)
      else if first then
        if b = byte '"' then
          (readQuotation rest).map fun key =>
            .next key.value key.rest (Nat.le_of_lt (Nat.lt_trans key.shorter shorter))
        else
          .error (.malformed .keyNotText)
      else if b = byte ',' then
        match skipBlank rest with
        | ⟨[], _⟩ => .error (.ended .value)
        | ⟨c :: after, le'⟩ =>
            if c = byte '"' then
              (readQuotation after).map fun key =>
                .next key.value key.rest (Nat.le_of_lt (Nat.lt_trans
                  (Nat.lt_of_lt_of_le (Nat.lt_succ_of_lt key.shorter) le') shorter))
            else if c = byte '}' then
              .error (.malformed .trailingComma)
            else
              .error (.malformed .keyNotText)
      else
        .error (.malformed .expectedCommaOrBrace)

/-- Reads the colon after a key. -/
def readColon (input : Input) : Except Fault (Reading Unit input.length) :=
  match skipBlank input with
  | ⟨[], _⟩ => .error (.ended .object)
  | ⟨b :: rest, le⟩ =>
      if b = byte ':' then .ok ⟨(), rest, shorter_of_le le⟩
      else .error (.malformed .expectedColon)

/-- Reads the items of a list up to its closing bracket. -/
def readItems {α : Type} (item : Reader α) (first : Bool) (input : Input) :
    Except Fault (Reading (List α) input.length) :=
  match nextItem first input with
  | .error fault => .error fault
  | .ok (.closed rest shorter) => .ok ⟨[], rest, shorter⟩
  | .ok (.next _ here le) =>
      match item here with
      | .error fault => .error fault
      | .ok head =>
          have : head.rest.length < input.length := Nat.lt_of_lt_of_le head.shorter le
          match readItems item false head.rest with
          | .error fault => .error fault
          | .ok tail => .ok ⟨head.value :: tail.value, tail.rest, Nat.lt_trans tail.shorter this⟩
termination_by input.length

/-- Reads the members of an object up to its closing brace, folding them into a
state.  `entry` picks the reader for the value of a key, or refuses the key. -/
def readMembers {σ : Type} (entry : String → σ → Except Fault (Reader σ)) (first : Bool)
    (state : σ) (input : Input) : Except Fault (Reading σ input.length) :=
  match nextMember first input with
  | .error fault => .error fault
  | .ok (.closed rest shorter) => .ok ⟨state, rest, shorter⟩
  | .ok (.next key afterKey le) =>
      match entry key state with
      | .error fault => .error fault
      | .ok reader =>
          match readColon afterKey with
          | .error fault => .error fault
          | .ok colon =>
              match reader colon.rest with
              | .error fault => .error fault
              | .ok value =>
                  have : value.rest.length < input.length :=
                    Nat.lt_of_lt_of_le (Nat.lt_trans value.shorter colon.shorter) le
                  match readMembers entry false value.value value.rest with
                  | .error fault => .error fault
                  | .ok tail => .ok (tail.widen (Nat.le_of_lt this))
termination_by input.length

end RouterTelemetry.Json
