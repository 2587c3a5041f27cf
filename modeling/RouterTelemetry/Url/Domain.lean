import RouterTelemetry.Text.Printable
import RouterTelemetry.Unicode.Folding
import RouterTelemetry.Unicode.Normal
import RouterTelemetry.Url.Address
import RouterTelemetry.Url.Punycode

/-!
# Domain names

A domain name is folded, normalised and cut into labels.  A label of ASCII
characters stands as it is; one with other characters is written in Punycode
behind the mark `xn--`.
-/

namespace RouterTelemetry.Url

open Unicode

/-- ASCII characters that no domain name has. -/
def isForbiddenInDomain (c : Char) : Bool :=
  c.toNat ≤ 0x20 || c.toNat == 0x7F ||
    ['%', '#', '/', ':', '<', '>', '?', '@', '[', '\\', ']', '^', '|'].contains c

/-- The lower-case form of an ASCII letter; every other character stays. -/
def lowerLetter (c : Char) : Char :=
  if 'A' ≤ c ∧ c ≤ 'Z' then Char.ofNat (c.toNat + 32) else c

/-- Characters that leave no trace in a name. -/
def ignoredInDomain : Text.CodeRanges :=
  [(0xAD, 0xAD), (0x34F, 0x34F), (0x180B, 0x180D), (0x180F, 0x180F), (0x200B, 0x200B),
    (0x2060, 0x2060), (0x2064, 0x2064), (0xFE00, 0xFE0F), (0xFEFF, 0xFEFF),
    (0xE0100, 0xE01EF)]

/-- Visible characters that no name has. -/
def barredInDomain : Text.CodeRanges :=
  [(0x2488, 0x249B), (0x2FF0, 0x2FFF), (0xFFFC, 0xFFFD)]

/-- What a character of a name is read as. -/
def mapInDomain (c : Char) : List Char :=
  if c.toNat < 128 then [lowerLetter c]
  else if ignoredInDomain.holds c then []
  else if c = 'ẞ' then ['ß']
  else if c = '。' ∨ c = '｡' then ['.']
  else fold c

/-- The joiners, which need a virama before them. -/
def isJoiner (c : Char) : Bool :=
  c.toNat == 0x200C || c.toNat == 0x200D

/-- Every character may stand in a name, with the given code point before it. -/
def areAllowed : (before : Nat) → List Char → Bool
  | _, [] => true
  | before, c :: rest =>
      (if isJoiner c then combiningClass before == 9
        else c.toNat < 128 || !(Text.unprintable.holds c || barredInDomain.holds c)) &&
      areAllowed c.toNat rest

/-- The label begins with a mark. -/
def beginsWithMark (label : List Char) : Bool :=
  match label with
  | [] => false
  | c :: _ => Text.extending.holds c

/-- Reading the character as part of a name leaves it as it is. -/
def standsForItself (c : Char) : Bool :=
  mapInDomain c == [c]

/-- A label beyond ASCII that needs no further mapping. -/
def isProperLabel (label : List Char) : Bool :=
  label.all standsForItself && normalize label == label && areAllowed 0 label &&
    !beginsWithMark label

/-- The mark of an encoded label. -/
def encodedMark : List Char :=
  ['x', 'n', '-', '-']

/-- The label that an encoded one stands for is beyond ASCII and proper. -/
def isProperEncoding (text : List Char) : Bool :=
  match Punycode.decode? text with
  | none => false
  | some label => label.any (128 ≤ ·.toNat) && isProperLabel label

/-- The ASCII form of a label. -/
def asciiLabel? (label : List Char) : Option (List Char) :=
  if label.all (·.toNat < 128) then
    if !label.all standsForItself then none
    else if label.take 4 = encodedMark ∧ isProperEncoding (label.drop 4) = false then none
    else some label
  else if isProperLabel label then
    (Punycode.encode? label).map (encodedMark ++ ·)
  else
    none

/-- The ASCII form of a name. -/
def asciiDomain? (name : List Char) : Option (List Char) := do
  let mapped := name.flatMap mapInDomain
  let normal := if mapped.all (·.toNat < 128) then mapped else normalize mapped
  let labels ← (splitAt '.' normal).mapM asciiLabel?
  let ascii := joinWith '.' labels
  if ascii.any isForbiddenInDomain then none else some ascii

end RouterTelemetry.Url
