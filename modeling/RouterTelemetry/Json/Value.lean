import RouterTelemetry.Json.Head

/-!
# Any JSON value

Values of any shape, to at most 127 open brackets.  Of two members of an object
with one key, the later one counts.
-/

namespace RouterTelemetry.Json

/-- A JSON value. -/
inductive Value where
  | null
  | boolean (value : Bool)
  | number (value : Number)
  | text (value : String)
  | list (items : List Value)
  | object (members : List (String × Value))

/-- The value as a message describes it. -/
def Value.found : Value → Found
  | .null => .null
  | .boolean value => .boolean value
  | .number value => value.found
  | .text value => .text value
  | .list _ => .list
  | .object _ => .object

/-- Sets the member of a key.  Members are kept in the order of their keys. -/
def putMember (key : String) (value : Value) :
    List (String × Value) → List (String × Value)
  | [] => [(key, value)]
  | (other, old) :: members =>
      if key < other then (key, value) :: (other, old) :: members
      else if key = other then (key, value) :: members
      else (other, old) :: putMember key value members

/-- How many brackets may be open at once. -/
def depthLimit : Nat :=
  127

/-- Reads any value with at most `depth` more open brackets. -/
def readValue (depth : Nat) : Reader Value := fun input =>
  match readHead input with
  | .error fault => .error fault
  | .ok head =>
      match head.value with
      | .null => .ok (head.map fun _ => .null)
      | .boolean value => .ok (head.map fun _ => .boolean value)
      | .number value => .ok (head.map fun _ => .number value)
      | .text value => .ok (head.map fun _ => .text value)
      | .list =>
          match depth with
          | 0 => .error (.malformed .tooDeep)
          | depth + 1 =>
              (readItems (readValue depth) true head.rest).map fun items =>
                (items.map .list).widen (Nat.le_of_lt head.shorter)
      | .object =>
          match depth with
          | 0 => .error (.malformed .tooDeep)
          | depth + 1 =>
              (readMembers (fun key members => .ok fun input =>
                  (readValue depth input).map fun value =>
                    value.map fun value => putMember key value members)
                true [] head.rest).map fun members =>
                (members.map .object).widen (Nat.le_of_lt head.shorter)
termination_by structural depth

end RouterTelemetry.Json
