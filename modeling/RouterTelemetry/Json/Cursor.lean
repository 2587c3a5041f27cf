import RouterTelemetry.Json.Fault

/-!
# Reading bytes from the front

A reader takes the bytes that are left and either refuses or returns a value
with the bytes after it.  What it returns carries the fact that the rest is
shorter, so that repeated reading ends.
-/

namespace RouterTelemetry.Json

/-- The bytes that are left to read. -/
abbrev Input := List UInt8

/-- What follows the first byte is shorter than the whole. -/
theorem rest_shorter (b : UInt8) (rest : Input) : rest.length < (b :: rest).length :=
  Nat.lt_succ_self _

/-- What follows a byte is shorter than anything that is no shorter than both. -/
theorem shorter_of_le {input : Input} {b : UInt8} {rest : Input}
    (le : (b :: rest).length ≤ input.length) : rest.length < input.length :=
  Nat.lt_of_succ_le le

/-- A value read, and a rest with fewer than `bound` bytes. -/
structure Reading (α : Type) (bound : Nat) where
  value : α
  rest : Input
  shorter : rest.length < bound

/-- Reads one `α` from the front of the input. -/
abbrev Reader (α : Type) := (input : Input) → Except Fault (Reading α input.length)

/-- A rest with at most `bound` bytes. -/
abbrev Rest (bound : Nat) := { rest : Input // rest.length ≤ bound }

/-- The same reading under a larger bound. -/
def Reading.widen {α : Type} {small large : Nat} (reading : Reading α small)
    (le : small ≤ large) : Reading α large :=
  ⟨reading.value, reading.rest, Nat.lt_of_lt_of_le reading.shorter le⟩

/-- The same rest with another value. -/
def Reading.map {α β : Type} {bound : Nat} (f : α → β) (reading : Reading α bound) :
    Reading β bound :=
  ⟨f reading.value, reading.rest, reading.shorter⟩

/-- The byte of an ASCII character. -/
def byte (c : Char) : UInt8 :=
  c.toUInt8

/-- Space, tab, line feed and carriage return. -/
def isBlank (b : UInt8) : Bool :=
  b == 32 || b == 9 || b == 10 || b == 13

/-- The ten decimal digits. -/
def isDigit (b : UInt8) : Bool :=
  48 ≤ b && b ≤ 57

/-- The value of a decimal digit. -/
def digitValue (b : UInt8) : Nat :=
  b.toNat - 48

/-- The input from its first byte that is not blank. -/
def skipBlank (input : Input) : Rest input.length :=
  ⟨input.dropWhile isBlank, (List.dropWhile_suffix isBlank).length_le⟩

/-- The input after its leading digits. -/
def skipDigits (input : Input) : Rest input.length :=
  ⟨input.dropWhile isDigit, (List.dropWhile_suffix isDigit).length_le⟩

/-- Reads the remaining letters of a word. -/
def readWord : List Char → (input : Input) → Except Fault (Rest input.length)
  | [], input => .ok ⟨input, Nat.le_refl _⟩
  | _ :: _, [] => .error (.ended .value)
  | c :: word, b :: input =>
      if b = byte c then
        match readWord word input with
        | .error fault => .error fault
        | .ok rest => .ok ⟨rest.val, Nat.le_succ_of_le rest.property⟩
      else
        .error (.malformed .expectedWord)

/-- Only blanks may follow a document. -/
def readEnd (input : Input) : Except Fault Unit :=
  if (skipBlank input).val.isEmpty then .ok () else .error (.malformed .trailingCharacters)

/-- Reads a whole document. -/
def readDocument {α : Type} (reader : Reader α) (input : Input) : Except Fault α := do
  let reading ← reader input
  readEnd reading.rest
  return reading.value

end RouterTelemetry.Json
