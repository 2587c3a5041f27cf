/-!
# Quoted text in documents

There are four kinds of quoted text: with double quotes, in which a backslash
escapes, or with single quotes, in which nothing does, and each on one line or,
with the quotes tripled, on several.  A line end in a text is a line feed.
-/

namespace RouterTelemetry.Toml

/-- May stand for itself in a text or a comment. -/
def isPlain (c : Char) : Bool :=
  c = '\t' || (' ' ≤ c && c ≠ '\x7f')

/-- A space or a tab. -/
def isSpace (c : Char) : Bool :=
  c = ' ' || c = '\t'

/-! ## Escapes -/

/-- The value of a hexadecimal digit. -/
def hexValue? (c : Char) : Option Nat :=
  if c.isDigit then some (c.toNat - '0'.toNat)
  else if 'a' ≤ c ∧ c ≤ 'f' then some (c.toNat - 'a'.toNat + 10)
  else if 'A' ≤ c ∧ c ≤ 'F' then some (c.toNat - 'A'.toNat + 10)
  else none

/-- The character whose code point some hexadecimal digits are. -/
def charOfHex? (digits : List Char) : Option Char := do
  let values ← digits.mapM hexValue?
  let code := values.foldl (fun total value => 16 * total + value) 0
  if code.isValidChar then some (Char.ofNat code) else none

/-- The character that an escape by code point stands for, with the length of the
escape. -/
def codePoint? (size : Nat) (cs : List Char) : Option (Char × Nat) :=
  if cs.length < size then none
  else (charOfHex? (cs.take size)).map fun c => (c, size + 1)

/-- The character that an escape stands for, with the length of the escape after
its backslash. -/
def unescape? : List Char → Option (Char × Nat)
  | [] => none
  | c :: cs =>
      match c with
      | 'b' => some ('\x08', 1)
      | 't' => some ('\t', 1)
      | 'n' => some ('\n', 1)
      | 'f' => some ('\x0c', 1)
      | 'r' => some ('\r', 1)
      | 'e' => some ('\x1b', 1)
      | '"' => some ('"', 1)
      | '\\' => some ('\\', 1)
      | 'x' => codePoint? 2 cs
      | 'u' => codePoint? 4 cs
      | 'U' => codePoint? 8 cs
      | _ => none

/-! ## Text on one line -/

/-- A text and what follows its closing quote. -/
abbrev Quotation := List Char × List Char

/-- The same text after one more character. -/
def pushChar (c : Char) (quotation : Quotation) : Quotation :=
  (c :: quotation.1, quotation.2)

/-- Reads up to the closing double quote. -/
def readEscaped : List Char → Option Quotation
  | [] => none
  | c :: cs =>
      if c = '"' then
        some ([], cs)
      else if c = '\\' then
        match unescape? cs with
        | some (meant, size) => (readEscaped (cs.drop size)).map (pushChar meant)
        | none => none
      else if isPlain c then
        (readEscaped cs).map (pushChar c)
      else
        none
termination_by cs => cs.length
decreasing_by all_goals simp only [List.length_cons, List.length_drop]; omega

/-- Reads up to the closing single quote. -/
def readVerbatim : List Char → Option Quotation
  | [] => none
  | c :: cs =>
      if c = '\'' then some ([], cs)
      else if isPlain c then (readVerbatim cs).map (pushChar c)
      else none

/-! ## Text on several lines -/

/-- What follows three closing quotes: two more of them still belong to the text. -/
def closeTripled (quote : Char) : List Char → Quotation
  | c :: d :: cs =>
      if c ≠ quote then ([], c :: d :: cs)
      else if d ≠ quote then ([c], d :: cs)
      else ([c, d], cs)
  | [c] => if c = quote then ([c], []) else ([], [c])
  | [] => ([], [])

/-- The text without blanks and line ends at its front. -/
def skipLineEnds : List Char → List Char
  | '\r' :: '\n' :: cs => skipLineEnds cs
  | c :: cs => if isSpace c || c = '\n' then skipLineEnds cs else c :: cs
  | [] => []

/-- Blanks up to a line end start here. -/
def startsLineEnd (cs : List Char) : Bool :=
  match cs.dropWhile isSpace with
  | '\n' :: _ => true
  | '\r' :: '\n' :: _ => true
  | _ => false

theorem length_skipLineEnds_le (cs : List Char) : (skipLineEnds cs).length ≤ cs.length := by
  fun_induction skipLineEnds cs <;> grind

/-- Reads up to three closing double quotes. -/
def readEscapedLines : List Char → Option Quotation
  | '"' :: '"' :: '"' :: cs => some (closeTripled '"' cs)
  | '\r' :: '\n' :: cs => (readEscapedLines cs).map (pushChar '\n')
  | [] => none
  | c :: cs =>
      if c = '\\' then
        if startsLineEnd cs then
          readEscapedLines (skipLineEnds cs)
        else
          match unescape? cs with
          | some (meant, size) => (readEscapedLines (cs.drop size)).map (pushChar meant)
          | none => none
      else if isPlain c || c = '\n' then
        (readEscapedLines cs).map (pushChar c)
      else
        none
termination_by cs => cs.length
decreasing_by
  · simp only [List.length_cons]; omega
  · exact Nat.lt_succ_of_le (length_skipLineEnds_le cs)
  · simp only [List.length_cons, List.length_drop]; omega
  · simp only [List.length_cons]; omega

/-- Reads up to three closing single quotes. -/
def readVerbatimLines : List Char → Option Quotation
  | '\'' :: '\'' :: '\'' :: cs => some (closeTripled '\'' cs)
  | '\r' :: '\n' :: cs => (readVerbatimLines cs).map (pushChar '\n')
  | [] => none
  | c :: cs =>
      if isPlain c || c = '\n' then (readVerbatimLines cs).map (pushChar c) else none

/-- A line end right after three opening quotes does not count. -/
def skipFirstLineEnd : List Char → List Char
  | '\n' :: cs => cs
  | '\r' :: '\n' :: cs => cs
  | cs => cs

/-! ## Any quoted text -/

/-- Reads a text on one line, if a quote stands here. -/
def readLineText? : List Char → Option (Option Quotation)
  | '"' :: cs => some (readEscaped cs)
  | '\'' :: cs => some (readVerbatim cs)
  | _ => none

/-- Reads a text of any kind, if a quote stands here. -/
def readText? : List Char → Option (Option Quotation)
  | '"' :: '"' :: '"' :: cs => some (readEscapedLines (skipFirstLineEnd cs))
  | '\'' :: '\'' :: '\'' :: cs => some (readVerbatimLines (skipFirstLineEnd cs))
  | cs => readLineText? cs

end RouterTelemetry.Toml
