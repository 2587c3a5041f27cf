/-!
# Blank characters

The characters with the Unicode property `White_Space`.
-/

namespace RouterTelemetry.Text

/-- The code point is blank. -/
def isBlankCode (n : Nat) : Bool :=
  (0x9 ≤ n && n ≤ 0xD) || n == 0x20 || n == 0x85 || n == 0xA0 || n == 0x1680 ||
    (0x2000 ≤ n && n ≤ 0x200A) || n == 0x2028 || n == 0x2029 || n == 0x202F || n == 0x205F ||
    n == 0x3000

/-- The character is blank. -/
def isBlank (c : Char) : Bool :=
  isBlankCode c.toNat

/-- The characters without the blank ones at either end. -/
def trimmed (text : List Char) : List Char :=
  ((text.dropWhile isBlank).reverse.dropWhile isBlank).reverse

end RouterTelemetry.Text
