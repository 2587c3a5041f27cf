import RouterTelemetry.Environment.Basic
import RouterTelemetry.Text.Alphanumeric
import RouterTelemetry.Text.Blank

/-!
# Environment files

An environment file sets variables that are not set yet, line by line.  A line
that ends within quotes goes on with the next one.  Reading stops at the first
line that is malformed; what stands before it counts.

In a value a backslash escapes, except between single quotes, and a dollar sign
is replaced by the variable whose name follows it.
-/

namespace RouterTelemetry.Environment

open Text

/-! ## Lines -/

/-- Where in a line a character stands. -/
inductive Position where
  | plain
  /-- After a blank; a `#` here starts a comment. -/
  | blank
  | escape
  | single
  | singleEscape
  | double
  | doubleEscape
deriving Repr, DecidableEq

/-- The position that a quote or a backslash outside of quotes leads to. -/
def Position.opened (c : Char) : Position :=
  if c = '\\' then .escape
  else if c = '"' then .double
  else if c = '\'' then .single
  else .plain

/-- The position after a character. -/
def Position.next (position : Position) (c : Char) : Position :=
  match position with
  | .plain => if isBlank c && c ≠ '\n' && c ≠ '\r' then .blank else .opened c
  | .blank => .opened c
  | .escape => .plain
  | .single => if c = '\\' then .singleEscape else if c = '\'' then .plain else .single
  | .singleEscape => .single
  | .double => if c = '\\' then .doubleEscape else if c = '"' then .plain else .double
  | .doubleEscape => .double

/-- The characters before a comment, and the position at the end if there is none. -/
def scanLine (position : Position) : List Char → List Char × Option Position
  | [] => ([], some position)
  | c :: cs =>
      if position = .blank ∧ c = '#' then
        ([], none)
      else
        let (kept, last) := scanLine (position.next c) cs
        (c :: kept, last)

/-- The lines of a text, each with its line feed. -/
def linesOf : (current : List Char) → List Char → List (List Char)
  | [], [] => []
  | current, [] => [current]
  | current, c :: cs =>
      if c = '\n' then (current ++ [c]) :: linesOf [] cs else linesOf (current ++ [c]) cs

/-- A line without its line end. -/
def withoutLineEnd (line : List Char) : List Char :=
  match line.reverse with
  | '\n' :: '\r' :: cs => cs.reverse
  | '\n' :: cs => cs.reverse
  | _ => line

/-- The first character that is not blank is a `#`. -/
def isComment (line : List Char) : Bool :=
  (line.dropWhile isBlank).head? == some '#'

/-- Joins lines that end within quotes with those after them, and cuts comments off.
`none` stands for a text that ends within quotes. -/
def joinLines (pending : List Char) (position : Position) :
    List (List Char) → List (Option (List Char))
  | [] => if position = .plain then [] else [none]
  | line :: lines =>
      let whole := pending ++ line
      if isComment whole then
        some [] :: joinLines [] .plain lines
      else
        match scanLine position line with
        | (kept, none) => some (pending ++ kept) :: joinLines [] .plain lines
        | (_, some .plain) => some (withoutLineEnd whole) :: joinLines [] .plain lines
        | (_, some position) => joinLines whole position lines

/-! ## Values -/

/-- How the next character of a value is meant. -/
inductive Mode where
  | text
  | escaped
  /-- Between single quotes. -/
  | single
  /-- In the name after a dollar sign. -/
  | name (soFar : List Char)
  /-- In the name between braces after a dollar sign. -/
  | braced (soFar : List Char)
  /-- After the end of the value. -/
  | ended
deriving Repr, DecidableEq

/-- What a name after a dollar sign is replaced by. -/
def substitute (environment : Environment) (name : List Char) : List Char :=
  ((environment.value? (String.ofList name)).getD "").toList

/-- The character that an escape stands for. -/
def unescape? (c : Char) : Option Char :=
  if ['\\', '\'', '"', '$', ' '].contains c then some c
  else if c = 'n' then some '\n'
  else none

/-- What a value means at its end. -/
def endValue (environment : Environment) (mode : Mode) (inDouble : Bool) : Option (List Char) :=
  if inDouble then
    none
  else
    match mode with
    | .single => none
    | .braced _ => none
    | .name name => some (substitute environment name)
    | _ => some []

/-- What the characters of a value mean. -/
def valueFrom (environment : Environment) : Mode → (inDouble : Bool) → List Char →
    Option (List Char)
  | mode, inDouble, [] => endValue environment mode inDouble
  | .text, inDouble, c :: cs =>
      if c = '$' then valueFrom environment (.name []) inDouble cs
      else if c = '\\' then valueFrom environment .escaped inDouble cs
      else if c = '"' then valueFrom environment .text (!inDouble) cs
      else if inDouble then (valueFrom environment .text true cs).map (c :: ·)
      else if c = '\'' then valueFrom environment .single false cs
      else if c = ' ' ∨ c = '\t' then valueFrom environment .ended false cs
      else (valueFrom environment .text false cs).map (c :: ·)
  | .escaped, inDouble, c :: cs =>
      match unescape? c with
      | some meant => (valueFrom environment .text inDouble cs).map (meant :: ·)
      | none => none
  | .single, inDouble, c :: cs =>
      if c = '\'' then valueFrom environment .text inDouble cs
      else (valueFrom environment .single inDouble cs).map (c :: ·)
  | .name name, inDouble, c :: cs =>
      if isAlphanumeric c then
        valueFrom environment (.name (name ++ [c])) inDouble cs
      else if c = '\x7b' ∧ name = [] then
        valueFrom environment (.braced []) inDouble cs
      else if c = '$' then
        (valueFrom environment (.name []) inDouble cs).map (substitute environment name ++ ·)
      else
        (valueFrom environment .text inDouble cs).map
          (substitute environment name ++ c :: ·)
  | .braced name, inDouble, c :: cs =>
      if c = '\x7d' then
        (valueFrom environment .text inDouble cs).map (substitute environment name ++ ·)
      else
        valueFrom environment (.braced (name ++ [c])) inDouble cs
  | .ended, inDouble, c :: cs =>
      if c = '#' then some []
      else if c = ' ' ∨ c = '\t' then valueFrom environment .ended inDouble cs
      else none

/-! ## Assignments -/

/-- May stand in the name of a variable. -/
def isNameChar (c : Char) : Bool :=
  c.isAlphanum || c = '_' || c = '.'

/-- Reads a name from the front. -/
def readName? : List Char → Option (List Char × List Char)
  | [] => none
  | c :: cs =>
      if c.isAlpha || c = '_' then
        some (c :: cs.takeWhile isNameChar, cs.dropWhile isNameChar)
      else
        none

/-- Reads a name and the equals sign after it. -/
def readTarget? (line : List Char) : Option (List Char × List Char) := do
  let (name, rest) ← readName? line
  match rest.dropWhile isBlank with
  | '=' :: rest => some (name, rest)
  | _ => none

/-- Reads a name and the equals sign after it; a word may precede them. -/
def readExport? (line : List Char) : Option (List Char × List Char) :=
  match readTarget? line, readName? line with
  | some target, _ => some target
  | none, some (['e', 'x', 'p', 'o', 'r', 't'], rest) => readTarget? (rest.dropWhile isBlank)
  | none, _ => none

/-- The line has nothing to say from here on. -/
def isBare (line : List Char) : Bool :=
  line.isEmpty || line.head? == some '#'

/-- The value after the equals sign. -/
def valueOf? (environment : Environment) (text : List Char) : Option String :=
  let text := text.dropWhile isBlank
  if isBare text then some ""
  else (valueFrom environment .text false text).map String.ofList

/-- What a line assigns, if anything; `none` for a malformed line. -/
def assignment? (environment : Environment) (line : List Char) :
    Option (Option (String × String)) :=
  let line := trimmed line
  if isBare line then
    some none
  else do
    let (name, rest) ← readExport? line
    let value ← valueOf? environment rest
    return some (String.ofList name, value)

/-! ## The file -/

/-- Sets what some lines assign. -/
def setLines (environment : Environment) : List (Option (List Char)) → Environment
  | [] => environment
  | none :: _ => environment
  | some line :: lines =>
      match assignment? environment line with
      | none => environment
      | some none => setLines environment lines
      | some (some (name, value)) => setLines (environment.withDefault name value) lines

/-- The text without the mark of its byte order. -/
def withoutMark : List Char → List Char
  | '\uFEFF' :: cs => cs
  | cs => cs

/-- The environment after reading a file. -/
def withFile (environment : Environment) (text : String) : Environment :=
  setLines environment (joinLines [] .plain (linesOf [] (withoutMark text.toList)))

end RouterTelemetry.Environment
