/-!
# Percent encoding

A byte is written as a percent sign and two upper-case hexadecimal digits.
Which ASCII characters are written so depends on the part of a URL they stand
in; every other character always is.
-/

namespace RouterTelemetry.Url

/-- The ASCII characters that are encoded, besides control characters. -/
abbrev EncodeSet := List Char

/-- Characters encoded in a fragment. -/
def fragmentSet : EncodeSet :=
  [' ', '"', '<', '>', '\x60']

/-- Characters encoded in a path. -/
def pathSet : EncodeSet :=
  fragmentSet ++ ['#', '?', '\x7b', '\x7d']

/-- Characters encoded in a user name or a password. -/
def userSet : EncodeSet :=
  pathSet ++ ['/', ':', ';', '=', '@', '[', '\\', ']', '^', '|']

/-- Characters encoded in a query. -/
def querySet : EncodeSet :=
  [' ', '"', '#', '<', '>']

/-- Characters encoded in the query of a web address. -/
def webQuerySet : EncodeSet :=
  '\'' :: querySet

/-- Control characters and everything beyond ASCII. -/
def isAlwaysEncoded (c : Char) : Bool :=
  c.toNat < 0x20 || 0x7F ≤ c.toNat

/-- An upper-case hexadecimal digit. -/
def hexDigit (n : Nat) : Char :=
  if n < 10 then Char.ofNat (48 + n) else Char.ofNat (55 + n)

/-- A byte as a percent sign and two digits. -/
def encodeByte (b : UInt8) : List Char :=
  ['%', hexDigit (b.toNat / 16), hexDigit (b.toNat % 16)]

/-- One character of a part of a URL. -/
def encodeChar (set : EncodeSet) (c : Char) : List Char :=
  if isAlwaysEncoded c || set.contains c then
    (String.utf8EncodeChar c).flatMap encodeByte
  else
    [c]

/-- A part of a URL. -/
def encode (set : EncodeSet) (text : List Char) : List Char :=
  text.flatMap (encodeChar set)

/-- The value of a hexadecimal digit in either case. -/
def hexValue? (c : Char) : Option Nat :=
  if '0' ≤ c ∧ c ≤ '9' then some (c.toNat - 48)
  else if 'a' ≤ c ∧ c ≤ 'f' then some (c.toNat - 87)
  else if 'A' ≤ c ∧ c ≤ 'F' then some (c.toNat - 55)
  else none

/-- The bytes of a text; a percent sign before two hexadecimal digits stands with
them for one byte, any other one for itself. -/
def decodeBytes : List Char → List UInt8
  | [] => []
  | '%' :: high :: low :: rest =>
      match hexValue? high, hexValue? low with
      | some high, some low => (high * 16 + low).toUInt8 :: decodeBytes rest
      | _, _ => String.utf8EncodeChar '%' ++ decodeBytes (high :: low :: rest)
  | c :: rest => String.utf8EncodeChar c ++ decodeBytes rest

end RouterTelemetry.Url
