import RouterTelemetry.Json.Value
import RouterTelemetry.Proofs.LiteralSpelling
import RouterTelemetry.Proofs.QuotedText

/-!
# Trees of JSON texts

A tree is a JSON text taken apart by the grammar, with all that a reader passes over: blanks,
the spelling of numbers and the escapes of strings.  `Tree.text` puts it together again, and
`Tree.value` is the value it has for a reader that opens so many brackets at most.
-/

namespace RouterTelemetry.Json

/-! ## Parts of a text -/

/-- Bytes between values that stand for nothing. -/
structure Blank where
  bytes : Input
  blank : ∀ b ∈ bytes, isBlank b = true

/-- A hexadecimal digit in either case. -/
structure HexDigit where
  byte : UInt8
  value : Nat
  known : hexValue? byte = some value

/-- Four hexadecimal digits. -/
structure CodeUnit where
  first : HexDigit
  second : HexDigit
  third : HexDigit
  fourth : HexDigit

namespace CodeUnit

/-- How a code unit is written. -/
def text (unit : CodeUnit) : Input :=
  [unit.first.byte, unit.second.byte, unit.third.byte, unit.fourth.byte]

/-- The number that the digits make. -/
def value (unit : CodeUnit) : Nat :=
  ((unit.first.value * 16 + unit.second.value) * 16 + unit.third.value) * 16 + unit.fourth.value

/-- The first half of a pair of surrogates. -/
def Leads (unit : CodeUnit) : Prop :=
  0xD800 ≤ unit.value ∧ unit.value ≤ 0xDBFF

/-- The second half of a pair of surrogates. -/
def Trails (unit : CodeUnit) : Prop :=
  0xDC00 ≤ unit.value ∧ unit.value ≤ 0xDFFF

instance (unit : CodeUnit) : Decidable unit.Leads :=
  inferInstanceAs (Decidable (_ ∧ _))

instance (unit : CodeUnit) : Decidable unit.Trails :=
  inferInstanceAs (Decidable (_ ∧ _))

end CodeUnit

/-- A character of a string as it is written: itself, an escape of one letter, or a code
unit. -/
inductive Glyph where
  | plain (c : Char) (printed : 32 ≤ c.toNat) (noQuote : c ≠ '"') (noSlash : c ≠ '\\')
  | short (letter meaning : UInt8) (known : shortEscape? letter = some meaning)
  | coded (unit : CodeUnit)

namespace Glyph

/-- How a glyph is written. -/
def text : Glyph → Input
  | .plain c _ _ _ => String.utf8EncodeChar c
  | .short letter _ _ => [byte '\\', letter]
  | .coded unit => byte '\\' :: byte 'u' :: unit.text

/-- The characters that glyphs stand for: a code unit is a character of its own, or the two
halves of a pair are one. -/
def decode : List Glyph → Except Fault (List Char)
  | [] => .ok []
  | .plain c _ _ _ :: glyphs => (decode glyphs).map (c :: ·)
  | .short _ meaning _ :: glyphs => (decode glyphs).map (Char.ofUInt8 meaning :: ·)
  | .coded unit :: glyphs =>
      if unit.Trails then
        .error (.malformed .loneSurrogate)
      else if unit.Leads then
        match glyphs with
        | .coded trail :: glyphs =>
            if trail.Trails then
              (decode glyphs).map (Char.ofNat (joinSurrogates unit.value trail.value) :: ·)
            else
              .error (.malformed .loneSurrogate)
        | _ => .error (.malformed .unfinishedSurrogatePair)
      else
        (decode glyphs).map (Char.ofNat unit.value :: ·)

/-- The text that glyphs stand for. -/
def string (glyphs : List Glyph) : Except Fault String :=
  (decode glyphs).map String.ofList

/-- The bytes of some glyphs between quotes. -/
def quoted (glyphs : List Glyph) : Input :=
  quotation (glyphs.flatMap text)

end Glyph

/-- A number as it is written. -/
structure Spelling where
  literal : Literal
  text : Input
  spells : literal.Spells text
  noLeadingZero : literal.whole = [byte '0'] ∨ literal.whole.head? ≠ some (byte '0')

/-! ## Trees -/

mutual

/-- A JSON text without blanks around it. -/
inductive Tree where
  | null
  | boolean (value : Bool)
  | number (spelling : Spelling)
  | string (glyphs : List Glyph)
  | list (items : Items) (last : Blank)
  | object (entries : Entries) (last : Blank)

/-- Items of a list with the blanks before and after their commas. -/
inductive Items where
  | nil
  | cons (pad blank : Blank) (item : Tree) (more : Items)

/-- Members of an object with the blanks around their commas and colons. -/
inductive Entries where
  | nil
  | cons (pad blank : Blank) (key : List Glyph) (afterKey beforeValue : Blank) (value : Tree)
      (more : Entries)

end

/-- The bytes of a word. -/
def wordText (word : List Char) : Input :=
  word.map byte

/-- What stands between an element and the one before it. -/
def separator (first : Bool) : Input :=
  if first then [] else [byte ',']

mutual

/-- The text of a tree. -/
def Tree.text : Tree → Input
  | .null => wordText ['n', 'u', 'l', 'l']
  | .boolean true => wordText ['t', 'r', 'u', 'e']
  | .boolean false => wordText ['f', 'a', 'l', 's', 'e']
  | .number spelling => spelling.text
  | .string glyphs => Glyph.quoted glyphs
  | .list items last => byte '[' :: (items.text true ++ (last.bytes ++ [byte ']']))
  | .object entries last => byte '{' :: (entries.text true ++ (last.bytes ++ [byte '}']))

/-- The text of items, of which the first one may be the first one of its list. -/
def Items.text : Items → (first : Bool) → Input
  | .nil, _ => []
  | .cons pad blank item more, first =>
      pad.bytes ++ (separator first ++ (blank.bytes ++ (item.text ++ more.text false)))

/-- The text of members, of which the first one may be the first one of its object. -/
def Entries.text : Entries → (first : Bool) → Input
  | .nil, _ => []
  | .cons pad blank key afterKey beforeValue value more, first =>
      pad.bytes ++ (separator first ++ (blank.bytes ++ (Glyph.quoted key ++ (afterKey.bytes ++
        (byte ':' :: (beforeValue.bytes ++ (value.text ++ more.text false)))))))

end

mutual

/-- How many brackets are open at most. -/
def Tree.depth : Tree → Nat
  | .null | .boolean _ | .number _ | .string _ => 0
  | .list items _ => items.depth + 1
  | .object entries _ => entries.depth + 1

/-- The depth of the deepest item. -/
def Items.depth : Items → Nat
  | .nil => 0
  | .cons _ _ item more => max item.depth more.depth

/-- The depth of the deepest value of a member. -/
def Entries.depth : Entries → Nat
  | .nil => 0
  | .cons _ _ _ _ _ value more => max value.depth more.depth

end

mutual

/-- The value of a tree, if at most `depth` brackets are opened. -/
def Tree.value : Tree → (depth : Nat) → Except Fault Value
  | .null, _ => .ok .null
  | .boolean value, _ => .ok (.boolean value)
  | .number spelling, _ => spelling.literal.number.map .number
  | .string glyphs, _ => (Glyph.string glyphs).map .text
  | .list _ _, 0 => .error (.malformed .tooDeep)
  | .list items _, depth + 1 => (items.values depth).map .list
  | .object _ _, 0 => .error (.malformed .tooDeep)
  | .object entries _, depth + 1 => (entries.members depth []).map .object

/-- The values of items. -/
def Items.values : Items → (depth : Nat) → Except Fault (List Value)
  | .nil, _ => .ok []
  | .cons _ _ item more, depth => do
      let value ← item.value depth
      let values ← more.values depth
      return value :: values

/-- The members of an object after some others. -/
def Entries.members : Entries → (depth : Nat) → List (String × Value) →
    Except Fault (List (String × Value))
  | .nil, _, members => .ok members
  | .cons _ _ key _ _ value more, depth, members => do
      let key ← Glyph.string key
      let value ← value.value depth
      more.members depth (putMember key value members)

end

/-! ## Induction -/

/-- The items without their blanks. -/
def Items.trees : Items → List Tree
  | .nil => []
  | .cons _ _ item more => item :: more.trees

/-- The values of members. -/
def Entries.trees : Entries → List Tree
  | .nil => []
  | .cons _ _ _ _ _ value more => value :: more.trees

mutual

/-- Induction over trees: what holds of all items or values of members holds of the whole. -/
theorem Tree.induction {P : Tree → Prop} (null : P .null) (boolean : ∀ value, P (.boolean value))
    (number : ∀ spelling, P (.number spelling)) (string : ∀ glyphs, P (.string glyphs))
    (list : ∀ items last, (∀ item ∈ items.trees, P item) → P (.list items last))
    (object : ∀ entries last, (∀ value ∈ entries.trees, P value) → P (.object entries last)) :
    ∀ tree, P tree
  | .null => null
  | .boolean value => boolean value
  | .number spelling => number spelling
  | .string glyphs => string glyphs
  | .list items last => list items last (items.induction null boolean number string list object)
  | .object entries last =>
      object entries last (entries.induction null boolean number string list object)

theorem Items.induction {P : Tree → Prop} (null : P .null) (boolean : ∀ value, P (.boolean value))
    (number : ∀ spelling, P (.number spelling)) (string : ∀ glyphs, P (.string glyphs))
    (list : ∀ items last, (∀ item ∈ items.trees, P item) → P (.list items last))
    (object : ∀ entries last, (∀ value ∈ entries.trees, P value) → P (.object entries last)) :
    ∀ items : Items, ∀ item ∈ items.trees, P item
  | .nil => by simp [Items.trees]
  | .cons _ _ item more => by
      rw [Items.trees, List.forall_mem_cons]
      exact ⟨item.induction null boolean number string list object,
        more.induction null boolean number string list object⟩

theorem Entries.induction {P : Tree → Prop} (null : P .null)
    (boolean : ∀ value, P (.boolean value))
    (number : ∀ spelling, P (.number spelling)) (string : ∀ glyphs, P (.string glyphs))
    (list : ∀ items last, (∀ item ∈ items.trees, P item) → P (.list items last))
    (object : ∀ entries last, (∀ value ∈ entries.trees, P value) → P (.object entries last)) :
    ∀ entries : Entries, ∀ value ∈ entries.trees, P value
  | .nil => by simp [Entries.trees]
  | .cons _ _ _ _ _ value more => by
      rw [Entries.trees, List.forall_mem_cons]
      exact ⟨value.induction null boolean number string list object,
        more.induction null boolean number string list object⟩

end

end RouterTelemetry.Json
