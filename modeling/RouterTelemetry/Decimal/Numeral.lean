/-!
# Reading numerals

`Numeral.ofText?` is the grammar of a number written as text: an optional sign,
then digits with an optional point (a digit on at least one side) and an
optional exponent, or one of the words for infinity and not-a-number in any
case.  `Numeral.value` is the nearest double, halves to even; a numeral too
large for a double is an infinity and one too small is a zero.
-/

namespace RouterTelemetry.Decimal

/-- A numeral as written. -/
inductive Numeral where
  | notANumber (negative : Bool)
  | infinity (negative : Bool)
  | decimal (negative : Bool) (digits : Nat) (exponent : Int)
deriving Repr, DecidableEq

/-- Applies a sign. -/
def signed (negative : Bool) (value : Float) : Float :=
  if negative then -value else value

/-- The value of a string of decimal digits. -/
def digitsValue (digits : List Char) : Nat :=
  digits.foldl (fun total digit => 10 * total + (digit.toNat - '0'.toNat)) 0

/-- The double nearest to `digits * 10 ^ exponent`.  Outside the range in which any
double lies the answer is known without forming the power. -/
def nearest (digits : Nat) (exponent : Int) : Float :=
  let top : Int := (Nat.toDigits 10 digits).length + exponent
  if digits = 0 then
    0.0
  else if 400 < top then
    1.0 / 0.0
  else if top < -400 then
    0.0
  else
    Float.ofScientific digits (decide (exponent < 0)) exponent.natAbs

/-- The double that a numeral stands for. -/
def Numeral.value : Numeral → Float
  | .notANumber negative => signed negative (0.0 / 0.0)
  | .infinity negative => signed negative (1.0 / 0.0)
  | .decimal negative digits exponent => signed negative (nearest digits exponent)

/-- A sign, if there is one, and the text after it. -/
def splitSign : List Char → Bool × List Char
  | '-' :: rest => (true, rest)
  | '+' :: rest => (false, rest)
  | text => (false, text)

/-- The exponent part: nothing, or `e` with a signed non-empty run of digits. -/
def exponentOf? : List Char → Option Int
  | [] => some 0
  | mark :: rest =>
      if mark = 'e' ∨ mark = 'E' then
        let (negative, digits) := splitSign rest
        if digits.isEmpty || !digits.all Char.isDigit then
          none
        else
          let size : Int := digitsValue digits
          some (if negative then -size else size)
      else
        none

/-- Digits around an optional point, and the text after them. -/
def splitDigits (text : List Char) : List Char × List Char × List Char :=
  let whole := text.takeWhile Char.isDigit
  match text.dropWhile Char.isDigit with
  | '.' :: rest => (whole, rest.takeWhile Char.isDigit, rest.dropWhile Char.isDigit)
  | rest => (whole, [], rest)

/-- The numeral that a text spells, if it spells one. -/
def Numeral.ofText? (text : String) : Option Numeral :=
  let (negative, body) := splitSign text.toList
  let word := body.map Char.toLower
  if word = ['n', 'a', 'n'] then
    some (.notANumber negative)
  else if word = ['i', 'n', 'f'] ∨ word = ['i', 'n', 'f', 'i', 'n', 'i', 't', 'y'] then
    some (.infinity negative)
  else
    let (whole, fraction, rest) := splitDigits body
    if whole.isEmpty && fraction.isEmpty then
      none
    else
      (exponentOf? rest).map fun exponent =>
        .decimal negative (digitsValue (whole ++ fraction)) (exponent - fraction.length)

/-- The double that a text spells, if it spells a number. -/
def parse? (text : String) : Option Float :=
  (Numeral.ofText? text).map Numeral.value

end RouterTelemetry.Decimal
