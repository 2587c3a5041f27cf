import RouterTelemetry.Settings.Tree

/-!
# Places in a setting tree

The name of a setting says where it stands: keys with dots between them, and
positions in brackets, of which negative ones count from the end.  A name of any
other form is a single key.  Writing to a place makes the tables and lists that
lead to it, in place of whatever else is there.
-/

namespace RouterTelemetry.Setting

/-- A step from a setting to one inside it. -/
inductive Step where
  | key (key : String)
  | position (index : Int)
deriving Repr, DecidableEq

/-- A place as the steps that lead to it. -/
abbrev Place := List Step

/-! ## Names -/

/-- May stand in a key of a name. -/
def isKeyChar (c : Char) : Bool :=
  c.isAlphanum || c = '_' || c = '-'

/-- Reads a key from the front. -/
def readKey? (cs : List Char) : Option (String × List Char) :=
  match cs.takeWhile isKeyChar with
  | [] => none
  | key => some (String.ofList key, cs.dropWhile isKeyChar)

/-- A position is a number of 64 bits. -/
def positionInRange? (index : Int) : Option Int :=
  if -0x8000000000000000 ≤ index ∧ index < 0x8000000000000000 then some index else none

/-- Reads a position and the bracket that closes it. -/
def readPosition? (cs : List Char) : Option (Int × List Char) :=
  let (negative, cs) := match cs with
    | '-' :: cs => (true, cs)
    | cs => (false, cs)
  match cs.takeWhile Char.isDigit, cs.dropWhile Char.isDigit with
  | digit :: digits, ']' :: rest => do
      let number : Int := (digit :: digits).foldl (fun n c => 10 * n + (c.toNat - 48)) 0
      return (← positionInRange? (if negative then -number else number), rest)
  | _, _ => none

/-- Reads the steps after the first key. -/
def readSteps? (cs : List Char) : Option Place :=
  match cs with
  | [] => some []
  | '.' :: rest => do
      let (key, rest') ← readKey? rest
      if rest'.length ≤ rest.length then
        return .key key :: (← readSteps? rest')
      none
  | '[' :: rest => do
      let (index, rest') ← readPosition? rest
      if rest'.length ≤ rest.length then
        return .position index :: (← readSteps? rest')
      none
  | _ => none
termination_by cs.length

/-- Reads a name of keys and positions. -/
def readPlace? (cs : List Char) : Option Place := do
  let (key, rest) ← readKey? cs
  return .key key :: (← readSteps? rest)

/-- The place that a name stands for. -/
def placeOf (name : String) : Place :=
  (readPlace? name.toList).getD [.key name]

/-! ## Writing -/

/-- Changes the item at a position; places up to it are made if they are missing, and
a position before the first makes places at the front. -/
def changeItem (index : Int) (change : Option Setting → Setting) (items : List Setting) :
    List Setting :=
  let index := if index < 0 then items.length + index else index
  if index < 0 then
    change (some .unset) :: List.replicate (index.natAbs - 1) .unset ++ items
  else
    let n := index.toNat
    items.take n ++ List.replicate (n - items.length) .unset ++
      [change items[n]?] ++ items.drop (n + 1)

/-- Writes a setting to a place. -/
def writtenAt (setting : Setting) : Place → Option Setting → Setting
  | [], present => writtenOver present setting
  | .key key :: place, present =>
      .table (changeEntry key (writtenAt setting place) ((present.map entries).getD []))
  | .position index :: place, present =>
      .list (changeItem index (writtenAt setting place) ((present.map items).getD []))

end RouterTelemetry.Setting
