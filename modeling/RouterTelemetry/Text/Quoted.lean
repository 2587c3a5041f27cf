import RouterTelemetry.Text.Printable

/-!
# Quoted text in messages

Messages show foreign text between double quotes, so that where it ends can be
seen.  The quote, the backslash and the common control characters have short
escapes; other characters that are not shown as themselves are written by their
code point.
-/

namespace RouterTelemetry.Text

/-- The code point in lower-case hexadecimal, in an escape with braces. -/
def codeEscape (c : Char) : List Char :=
  ['\\', 'u', '\x7b'] ++ Nat.toDigits 16 c.toNat ++ ['\x7d']

/-- How one character is written between quotes. -/
def quotedChar (c : Char) : List Char :=
  if c = '\x00' then ['\\', '0']
  else if c = '\t' then ['\\', 't']
  else if c = '\r' then ['\\', 'r']
  else if c = '\n' then ['\\', 'n']
  else if c = '"' then ['\\', '"']
  else if c = '\\' then ['\\', '\\']
  else if ' ' ≤ c ∧ c ≤ '~' then [c]
  else if extending.holds c || unprintable.holds c then codeEscape c
  else [c]

/-- A text between double quotes. -/
def quoted (text : String) : String :=
  String.ofList ('"' :: text.toList.flatMap quotedChar ++ ['"'])

/-- Texts of a bracketed, comma-separated list. -/
def bracketed (items : List String) : String :=
  "[" ++ ", ".intercalate items ++ "]"

/-- Names with their texts, separated by commas. -/
def listed (members : List (String × String)) : String :=
  ", ".intercalate (members.map fun member => member.1 ++ ": " ++ member.2)

/-- A record by its name, with the texts of its members between braces. -/
def structured (name : String) (members : List (String × String)) : String :=
  name ++ " \x7b " ++ listed members ++ " \x7d"

end RouterTelemetry.Text
