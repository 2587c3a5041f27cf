import RouterTelemetry.Toml.Atom
import RouterTelemetry.Toml.Literal
import RouterTelemetry.Toml.Tree

/-!
# Documents

A document is a list of statements, each on a line: headers of tables, and
assignments of values to dotted keys.  Within brackets and braces line ends and
comments may stand between the parts, and a comma may follow the last part.
-/

namespace RouterTelemetry.Toml

/-- Reads an `α` from the front of a text. -/
abbrev Reader (α : Type) := List Char → Option (α × List Char)

/-! ## Between the parts -/

/-- The text from its first character that is not a space or a tab. -/
def skipSpace (input : List Char) : List Char :=
  input.dropWhile isSpace

/-- The text from its first character that is neither blank nor in a comment. -/
def skipGap : (inComment : Bool) → List Char → Option (List Char)
  | _, [] => some []
  | _, '\n' :: cs => skipGap false cs
  | _, '\r' :: '\n' :: cs => skipGap false cs
  | true, c :: cs => if isPlain c then skipGap true cs else none
  | false, c :: cs =>
      if isSpace c then skipGap false cs
      else if c = '#' then skipGap true cs
      else some (c :: cs)

/-- Ends a line, which may end in a comment. -/
def endLine (input : List Char) : Option (List Char) :=
  let input := skipSpace input
  let input := match input with
    | '#' :: cs => cs.dropWhile isPlain
    | cs => cs
  match input with
  | [] => some []
  | '\n' :: cs => some cs
  | '\r' :: '\n' :: cs => some cs
  | _ => none

/-! ## Keys -/

/-- May stand in a key without quotes. -/
def isKeyChar (c : Char) : Bool :=
  c.isAlphanum || c = '-' || c = '_'

/-- Reads a key without dots. -/
def readSimpleKey : Reader String := fun input =>
  match readLineText? input with
  | some quotation => quotation.map fun (text, rest) => (String.ofList text, rest)
  | none =>
      match input.takeWhile isKeyChar with
      | [] => none
      | key => some (String.ofList key, input.dropWhile isKeyChar)

/-- Reads a dotted key: the keys before the last one, and the last one. -/
def readKey (input : List Char) : Option ((Path × String) × List Char) := do
  let (key, rest) ← readSimpleKey input
  match skipSpace rest with
  | '.' :: rest =>
      let next := skipSpace rest
      if next.length < input.length then
        let ((path, last), rest) ← readKey next
        some ((key :: path, last), rest)
      else
        none
  | rest => some (([], key), rest)
termination_by input.length

/-! ## Values -/

/-- Reads an assignment, given how to read its value. -/
def readAssignment (value : Reader Value) : Reader ((Path × String) × Value) := fun input => do
  let (key, rest) ← readKey input
  match rest with
  | '=' :: rest =>
      let (value, rest) ← value (skipSpace rest)
      return ((key, value), rest)
  | _ => none

/-- Reads parts with commas between them up to a closing bracket. -/
def readParts {α : Type} (part : Reader α) (closing : Char) (input : List Char) :
    Option (List α × List Char) := do
  match ← skipGap false input with
  | [] => none
  | c :: cs =>
      if c = closing then
        return ([], cs)
      let (value, rest) ← part (c :: cs)
      match ← skipGap false rest with
      | [] => none
      | c :: rest =>
          if c = closing then
            return ([value], rest)
          if c = ',' ∧ rest.length < input.length then
            let (values, rest) ← readParts part closing rest
            return (value :: values, rest)
          none
termination_by input.length

/-- The table of some assignments between braces. -/
def tableOf? (assignments : List ((Path × String) × Value)) : Option Value := do
  let entries ← assignments.foldlM
    (fun entries ((path, key), value) => Entries.assign? path key value entries) []
  return .table (valuesOf entries)

/-- How many brackets and braces may be open at once. -/
def nestingLimit : Nat :=
  80

/-- Reads a value with at most `depth` more brackets and braces open. -/
def readValue (depth : Nat) : Reader Value := fun input =>
  match readText? input with
  | some quotation => quotation.map fun (text, rest) => (.text (String.ofList text), rest)
  | none =>
      match depth, input with
      | depth + 1, '[' :: rest => do
          let (items, rest) ← readParts (readValue depth) ']' rest
          return (.list items, rest)
      | depth + 1, '\x7b' :: rest => do
          let (assignments, rest) ← readParts (readAssignment (readValue depth)) '\x7d' rest
          return (← tableOf? assignments, rest)
      | _, input => readAtom input
termination_by structural depth

/-! ## Statements -/

/-- What a line says. -/
inductive Statement where
  /-- Opens a table. -/
  | header (path : Path) (key : String)
  /-- Opens one more of the tables with one header. -/
  | elementHeader (path : Path) (key : String)
  | assignment (path : Path) (key : String) (value : Value)

/-- Reads a header after its opening brackets. -/
def readHeader (closing : List Char) : Reader (Path × String) := fun input => do
  let (key, rest) ← readKey (skipSpace input)
  if closing.isPrefixOf rest then
    return (key, rest.drop closing.length)
  none

/-- Reads a statement. -/
def readStatement : Reader Statement := fun input =>
  match input with
  | '[' :: '[' :: rest => do
      let ((path, key), rest) ← readHeader [']', ']'] rest
      return (.elementHeader path key, rest)
  | '[' :: rest => do
      let ((path, key), rest) ← readHeader [']'] rest
      return (.header path key, rest)
  | input => do
      let (((path, key), value), rest) ← readAssignment (readValue nestingLimit) input
      return (.assignment path key value, rest)

/-- Reads the statements of a document. -/
def readStatements (input : List Char) : Option (List Statement) := do
  match ← skipGap false input with
  | [] => return []
  | start =>
      let (statement, rest) ← readStatement start
      let rest ← endLine rest
      if rest.length < input.length then
        return statement :: (← readStatements rest)
      none
termination_by input.length

/-! ## The whole -/

/-- A tree that is growing, and the header under which assignments stand. -/
structure Growth where
  entries : Entries := []
  header : Path := []

/-- Grows the tree by a statement. -/
def Growth.step? (growth : Growth) : Statement → Option Growth
  | .header path key => do
      return ⟨← growth.entries.openTable? path key, path ++ [key]⟩
  | .elementHeader path key => do
      return ⟨← growth.entries.openElement? path key, path ++ [key]⟩
  | .assignment path key value => do
      return { growth with entries := ← growth.entries.assignUnder? growth.header path key value }

/-- The entries that the statements of a document make. -/
def entriesOf? (statements : List Statement) : Option (List (String × Value)) := do
  let growth ← statements.foldlM Growth.step? {}
  return valuesOf growth.entries

/-- The text without the mark of its byte order. -/
def withoutMark : List Char → List Char
  | '\uFEFF' :: cs => cs
  | cs => cs

/-- Reads a document. -/
def parse? (text : String) : Option (List (String × Value)) := do
  entriesOf? (← readStatements (withoutMark text.toList))

end RouterTelemetry.Toml
