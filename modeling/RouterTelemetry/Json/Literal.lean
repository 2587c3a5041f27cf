import RouterTelemetry.Json.Cursor

/-!
# Number literals

`Literal.read` reads the parts of a number as written, `Literal.number` gives
its value.  An integer that fits sixty-four bits (with a sign bit when negative)
is exact.  Every other literal is assembled: its digits are gathered into a
64-bit significand for as long as they fit, and the significand is scaled by a
power of ten in one operation.
-/

namespace RouterTelemetry.Json

/-- A number literal as written; digits are ASCII bytes. -/
structure Literal where
  negative : Bool
  whole : List UInt8
  fraction : Option (List UInt8)
  /-- Its sign, true for a minus, and its digits. -/
  exponent : Option (Bool × List UInt8)
deriving Repr, DecidableEq

/-- A number read from a document. -/
inductive Number where
  | integer (value : Int)
  | float (value : Float)

/-- The double nearest to a number. -/
def Number.toFloat : Number → Float
  | .integer value => Float.ofInt value
  | .float value => value

/-! ## Parts of a literal -/

/-- A non-empty run of digits.  `atEnd` is the cause when there is no byte left. -/
def readDigits (atEnd : Fault) (input : Input) :
    Except Fault (Reading (List UInt8) input.length) :=
  match input with
  | [] => .error atEnd
  | b :: rest =>
      if isDigit b then
        .ok ⟨b :: rest.takeWhile isDigit, skipDigits rest, Nat.lt_succ_of_le (skipDigits rest).2⟩
      else
        .error (.malformed .invalidNumber)

/-- The digits before the point: no leading zero before another digit. -/
def readWhole (atEnd : Fault) (input : Input) :
    Except Fault (Reading (List UInt8) input.length) :=
  match input with
  | [] => .error atEnd
  | b :: rest =>
      if b = byte '0' then
        if (rest.head?.map isDigit).getD false then
          .error (.malformed .invalidNumber)
        else
          .ok ⟨[b], rest, rest_shorter b rest⟩
      else
        readDigits atEnd (b :: rest)

/-- The digits after a point, if a point follows. -/
def readFraction (atEnd : Fault) (input : Input) :
    Except Fault (Option (List UInt8) × Rest input.length) :=
  match input with
  | [] => .ok (none, ⟨[], Nat.le_refl _⟩)
  | b :: rest =>
      if b = byte '.' then
        match readDigits atEnd rest with
        | .error fault => .error fault
        | .ok digits =>
            .ok (some digits.value, ⟨digits.rest, Nat.le_succ_of_le (Nat.le_of_lt digits.shorter)⟩)
      else
        .ok (none, ⟨b :: rest, Nat.le_refl _⟩)

/-- A sign, true for a minus, and the input after it. -/
def readSign (input : Input) : Bool × Rest input.length :=
  match input with
  | [] => (false, ⟨[], Nat.le_refl _⟩)
  | b :: rest =>
      if b = byte '-' then (true, ⟨rest, Nat.le_succ _⟩)
      else if b = byte '+' then (false, ⟨rest, Nat.le_succ _⟩)
      else (false, ⟨b :: rest, Nat.le_refl _⟩)

/-- The sign and digits of an exponent, if one follows. -/
def readExponent (atEnd : Fault) (input : Input) :
    Except Fault (Option (Bool × List UInt8) × Rest input.length) :=
  match input with
  | [] => .ok (none, ⟨[], Nat.le_refl _⟩)
  | b :: rest =>
      if b = byte 'e' ∨ b = byte 'E' then
        let (negative, ⟨signless, le⟩) := readSign rest
        match readDigits atEnd signless with
        | .error fault => .error fault
        | .ok digits =>
            .ok (some (negative, digits.value),
              ⟨digits.rest, Nat.le_succ_of_le (Nat.le_trans (Nat.le_of_lt digits.shorter) le)⟩)
      else
        .ok (none, ⟨b :: rest, Nat.le_refl _⟩)

/-- A minus sign, if there is one, and the input after it. -/
def readMinus (input : Input) : Bool × Rest input.length :=
  match input with
  | [] => (false, ⟨[], Nat.le_refl _⟩)
  | b :: rest =>
      if b = byte '-' then (true, ⟨rest, Nat.le_succ _⟩) else (false, ⟨b :: rest, Nat.le_refl _⟩)

/-- Reads a literal.  `atEnd` is the cause when the text stops where a digit has
to be. -/
def Literal.read (atEnd : Fault) (input : Input) :
    Except Fault (Reading Literal input.length) :=
  let (negative, ⟨unsigned, le⟩) := readMinus input
  match readWhole atEnd unsigned with
  | .error fault => .error fault
  | .ok whole =>
      match readFraction atEnd whole.rest with
      | .error fault => .error fault
      | .ok (fraction, ⟨afterFraction, le'⟩) =>
          match readExponent atEnd afterFraction with
          | .error fault => .error fault
          | .ok (exponent, ⟨rest, le''⟩) =>
              .ok ⟨⟨negative, whole.value, fraction, exponent⟩, rest,
                Nat.lt_of_le_of_lt (Nat.le_trans le'' le') (Nat.lt_of_lt_of_le whole.shorter le)⟩

/-! ## The value of a literal -/

/-- The greatest significand. -/
def maxSignificand : Nat :=
  0xFFFFFFFFFFFFFFFF

/-- The greatest exponent that is taken as written. -/
def maxExponent : Nat :=
  0x7FFFFFFF

/-- Appends digits to a significand while it fits, and returns the digits that
were left out. -/
def gather : (significand : Nat) → List UInt8 → Nat × List UInt8
  | significand, [] => (significand, [])
  | significand, digit :: digits =>
      let next := 10 * significand + digitValue digit
      if next ≤ maxSignificand then gather next digits else (significand, digit :: digits)

/-- Scales by powers of ten of at most `10 ^ 308`.  A value too large for a double
is refused; one that has become zero stays zero. -/
def scaleBy (value : Float) (exponent : Int) : Except Fault Float :=
  if exponent.natAbs ≤ 308 then
    let power := Float.ofScientific 1 false exponent.natAbs
    if 0 ≤ exponent then
      let product := value * power
      if product.isInf then .error (.malformed .numberOutOfRange) else .ok product
    else
      .ok (value / power)
  else if value == 0.0 then
    .ok value
  else if 0 ≤ exponent then
    .error (.malformed .numberOutOfRange)
  else
    scaleBy (value / Float.ofScientific 1 false 308) (exponent + 308)
termination_by exponent.natAbs
decreasing_by omega

/-- The value of an exponent's digits. -/
def exponentSize (digits : List UInt8) : Nat :=
  digits.foldl (fun total digit => 10 * total + digitValue digit) 0

/-- The magnitude `significand * 10 ^ (shift + exponent)`.  An exponent beyond 31
bits gives zero, unless it is positive and the significand is not zero. -/
def assemble (significand : Nat) (shift : Int) :
    (exponent : Option (Bool × List UInt8)) → Except Fault Float
  | none => scaleBy (Float.ofNat significand) shift
  | some (negative, digits) =>
      let size := exponentSize digits
      if maxExponent < size then
        if significand ≠ 0 ∧ negative = false then
          .error (.malformed .numberOutOfRange)
        else
          .ok 0.0
      else
        scaleBy (Float.ofNat significand) (if negative then shift - size else shift + size)

/-- A literal without fraction and exponent whose digits all fit. -/
def integerNumber (negative : Bool) (significand : Nat) : Number :=
  if negative then
    if significand = 0 ∨ 0x8000000000000000 < significand then
      .float (-(Float.ofNat significand))
    else
      .integer (-(significand : Int))
  else
    .integer significand

/-- The number that a literal stands for. -/
def Literal.number (literal : Literal) : Except Fault Number :=
  let (whole, dropped) := gather 0 literal.whole
  match literal.fraction, literal.exponent, dropped with
  | none, none, [] => .ok (integerNumber literal.negative whole)
  | fraction, exponent, _ =>
      let digits := fraction.getD []
      let (significand, unused) := gather whole digits
      let taken := digits.length - unused.length
      let shift : Int := (dropped.length : Int) - taken
      (assemble significand shift exponent).map fun magnitude =>
        .float (if literal.negative then -magnitude else magnitude)

/-- Reads a number. -/
def readNumber (input : Input) : Except Fault (Reading Number input.length) :=
  match Literal.read (.ended .value) input with
  | .error fault => .error fault
  | .ok literal => literal.value.number.map fun number => literal.map fun _ => number

end RouterTelemetry.Json
