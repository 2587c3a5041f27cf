import RouterTelemetry.Decimal.Numeral
import RouterTelemetry.Toml.Moment
import RouterTelemetry.Toml.Value

/-!
# Atoms

An atom is a value written without quotes or brackets: a truth value, an
integer, a real number, or a moment.  Underscores may stand between digits.
Integers are those of 64 bits, and a real number must be finite unless its word
says otherwise.
-/

namespace RouterTelemetry.Toml

/-! ## Digits -/

/-- The digits of a number in which every underscore stands between two digits;
`afterDigit` says whether one has just been read. -/
def plainDigits (isDigit : Char → Bool) : (afterDigit : Bool) → List Char → Option (List Char)
  | afterDigit, [] => if afterDigit then some [] else none
  | afterDigit, c :: cs =>
      if c = '_' then
        if afterDigit then plainDigits isDigit false cs else none
      else if isDigit c then
        (plainDigits isDigit true cs).map (c :: ·)
      else
        none

/-- The digits of a decimal number; zero starts no longer number. -/
def decimalDigits (cs : List Char) : Option (List Char) :=
  match plainDigits Char.isDigit false cs with
  | some ('0' :: _ :: _) => none
  | digits? => digits?

/-- The value of a digit in any base to sixteen. -/
def digitOf (c : Char) : Nat :=
  if c.isDigit then c.toNat - '0'.toNat else c.toLower.toNat - 'a'.toNat + 10

/-- The character is a digit of a base. -/
def isDigitOf (base : Nat) (c : Char) : Bool :=
  c.isAlphanum && digitOf c < base

/-- The number that some digits are in a base. -/
def numberOf (base : Nat) (digits : List Char) : Nat :=
  digits.foldl (fun total digit => base * total + digitOf digit) 0

/-- A sign and what follows it. -/
def splitSign : List Char → Bool × List Char
  | '-' :: cs => (true, cs)
  | '+' :: cs => (false, cs)
  | cs => (false, cs)

/-! ## Integers -/

/-- An integer of 64 bits. -/
def integerInRange? (value : Int) : Option Int :=
  if -0x8000000000000000 ≤ value ∧ value < 0x8000000000000000 then some value else none

/-- An integer in a base that its mark names. -/
def markedInteger? (base : Nat) (cs : List Char) : Option Int := do
  let digits ← plainDigits (isDigitOf base) false cs
  integerInRange? (numberOf base digits)

/-- A decimal integer. -/
def decimalInteger? (cs : List Char) : Option Int := do
  let (negative, cs) := splitSign cs
  let digits ← decimalDigits cs
  let value : Int := numberOf 10 digits
  integerInRange? (if negative then -value else value)

/-- An integer. -/
def integer? : List Char → Option Int
  | '0' :: 'x' :: cs => markedInteger? 16 cs
  | '0' :: 'o' :: cs => markedInteger? 8 cs
  | '0' :: 'b' :: cs => markedInteger? 2 cs
  | cs => decimalInteger? cs

/-! ## Real numbers -/

/-- The digits of a fraction, if there is a point. -/
def fractionDigits : List Char → Option (List Char)
  | [] => some []
  | '.' :: cs => plainDigits Char.isDigit false cs
  | _ => none

/-- The value of an exponent, if there is a mark. -/
def exponentOf : List Char → Option Int
  | [] => some 0
  | _ :: cs => do
      let (negative, cs) := splitSign cs
      let digits ← plainDigits Char.isDigit false cs
      let value : Int := numberOf 10 digits
      return if negative then -value else value

/-- Starts an exponent. -/
def isExponentMark (c : Char) : Bool :=
  c = 'e' || c = 'E'

/-- A number with a point or an exponent. -/
def decimalReal? (cs : List Char) : Option Float := do
  let (significand, exponent) := cs.span (!isExponentMark ·)
  let (whole, fraction) := significand.span (· != '.')
  if fraction.isEmpty && exponent.isEmpty then
    none
  let wholeDigits ← decimalDigits whole
  let fractionDigits ← fractionDigits fraction
  let scale ← exponentOf exponent
  let value := Decimal.nearest (numberOf 10 (wholeDigits ++ fractionDigits))
    (scale - fractionDigits.length)
  if value.isFinite then some value else none

/-- A real number. -/
def real? (cs : List Char) : Option Float := do
  let (negative, cs) := splitSign cs
  let value ←
    if cs = ['i', 'n', 'f'] then some (1.0 / 0.0)
    else if cs = ['n', 'a', 'n'] then some (0.0 / 0.0)
    else decimalReal? cs
  return Decimal.signed negative value

/-! ## Atoms -/

/-- May stand in an atom. -/
def isAtomChar (c : Char) : Bool :=
  c.isAlphanum || c = '+' || c = '-' || c = '_' || c = '.' || c = ':'

/-- The value of an atom. -/
def atom? (cs : List Char) : Option Value :=
  if cs = ['t', 'r', 'u', 'e'] then some (.boolean true)
  else if cs = ['f', 'a', 'l', 's', 'e'] then some (.boolean false)
  else
    match Moment.parse? cs with
    | some moment => some (.moment moment.text)
    | none =>
        match integer? cs with
        | some value => some (.integer value)
        | none => (real? cs).map .real

/-- An atom that starts here and what follows it.  A date goes on after one blank
if a digit follows. -/
def splitAtom (input : List Char) : List Char × List Char :=
  let (cs, rest) := input.span isAtomChar
  match readDate? cs, rest with
  | some (_, []), ' ' :: digit :: rest =>
      if digit.isDigit then
        let (more, rest) := (digit :: rest).span isAtomChar
        (cs ++ ' ' :: more, rest)
      else
        (cs, ' ' :: digit :: rest)
  | _, _ => (cs, rest)

/-- Reads an atom from the front. -/
def readAtom (input : List Char) : Option (Value × List Char) := do
  let (cs, rest) := splitAtom input
  return (← atom? cs, rest)

end RouterTelemetry.Toml
