/-!
# Dates and times

A moment is a date, a time of day, or a date with a time and perhaps its offset
from universal time.  Seconds may be left out; of a fraction nine digits count.
A moment is written with a `T` between date and time and with a `Z` for
universal time, however it was read.
-/

namespace RouterTelemetry.Toml

/-- A day of the calendar. -/
structure Date where
  year : Nat
  month : Nat
  day : Nat
deriving Repr, DecidableEq

/-- A time of day. -/
structure ClockTime where
  hour : Nat
  minute : Nat
  second : Option Nat
  /-- The digits after the point. -/
  fraction : Option (List Char)
deriving Repr, DecidableEq

/-- How far a clock is ahead of universal time. -/
inductive Offset where
  | universal
  | ahead (minutes : Int)
deriving Repr, DecidableEq

/-- A date, a time of day, or both. -/
inductive Moment where
  | onDay (date : Date)
  | atTime (time : ClockTime)
  | dayAndTime (date : Date) (time : ClockTime) (offset : Option Offset)
deriving Repr, DecidableEq

/-! ## The calendar -/

/-- A year of 366 days. -/
def isLeapYear (year : Nat) : Bool :=
  year % 4 == 0 && (year % 100 != 0 || year % 400 == 0)

/-- The days of a month. -/
def daysInMonth (year month : Nat) : Nat :=
  if month = 2 then (if isLeapYear year then 29 else 28)
  else if month = 4 ∨ month = 6 ∨ month = 9 ∨ month = 11 then 30
  else 31

/-- The day is in the calendar. -/
def Date.isReal (date : Date) : Bool :=
  1 ≤ date.month && date.month ≤ 12 && 1 ≤ date.day && date.day ≤ daysInMonth date.year date.month

/-! ## Reading -/

/-- The number that some decimal digits are. -/
def number? (digits : List Char) : Option Nat :=
  if digits.all Char.isDigit then
    some (digits.foldl (fun total digit => 10 * total + (digit.toNat - '0'.toNat)) 0)
  else
    none

/-- A number of two digits below a bound. -/
def pair? (tens ones : Char) (bound : Nat) : Option Nat := do
  let n ← number? [tens, ones]
  if n < bound then some n else none

/-- Reads a date from the front. -/
def readDate? : List Char → Option (Date × List Char)
  | y₁ :: y₂ :: y₃ :: y₄ :: '-' :: m₁ :: m₂ :: '-' :: d₁ :: d₂ :: rest => do
      let year ← number? [y₁, y₂, y₃, y₄]
      let month ← number? [m₁, m₂]
      let day ← number? [d₁, d₂]
      let date : Date := { year, month, day }
      if date.isReal then some (date, rest) else none
  | _ => none

/-- Reads the digits of a fraction, of which nine are kept. -/
def readFraction? : List Char → Option (Option (List Char) × List Char)
  | '.' :: rest =>
      match rest.takeWhile Char.isDigit with
      | [] => none
      | digits => some (some (digits.take 9), rest.dropWhile Char.isDigit)
  | rest => some (none, rest)

/-- Reads a time of day from the front. -/
def readTime? : List Char → Option (ClockTime × List Char)
  | h₁ :: h₂ :: ':' :: m₁ :: m₂ :: rest => do
      let hour ← pair? h₁ h₂ 24
      let minute ← pair? m₁ m₂ 60
      match rest with
      | ':' :: s₁ :: s₂ :: rest =>
          let second ← pair? s₁ s₂ 61
          let (fraction, rest) ← readFraction? rest
          some ({ hour, minute, second := some second, fraction }, rest)
      | rest => some ({ hour, minute, second := none, fraction := none }, rest)
  | _ => none

/-- Reads an offset that takes up all that is left; nothing is no offset. -/
def offset? : List Char → Option (Option Offset)
  | [] => some none
  | [c] => if c = 'Z' ∨ c = 'z' then some (some .universal) else none
  | [sign, h₁, h₂, ':', m₁, m₂] => do
      let hours ← pair? h₁ h₂ 24
      let minutes ← pair? m₁ m₂ 60
      let total : Int := (hours * 60 + minutes : Nat)
      if sign = '+' then some (some (.ahead total))
      else if sign = '-' then some (some (.ahead (-total)))
      else none
  | _ => none

/-- Stands between a date and a time. -/
def isDateEnd (c : Char) : Bool :=
  c = 'T' || c = 't' || c = ' '

/-- Reads a moment. -/
def Moment.parse? (text : List Char) : Option Moment :=
  match readDate? text with
  | some (date, []) => some (.onDay date)
  | some (date, c :: rest) =>
      if isDateEnd c then do
        let (time, rest) ← readTime? rest
        return .dayAndTime date time (← offset? rest)
      else
        none
  | none =>
      match readTime? text with
      | some (time, []) => some (.atTime time)
      | _ => none

/-! ## Writing -/

/-- A number with at least `width` digits. -/
def padded (width n : Nat) : String :=
  let digits := Nat.toDigits 10 n
  String.ofList (List.replicate (width - digits.length) '0' ++ digits)

/-- The text of a date. -/
def Date.text (date : Date) : String :=
  padded 4 date.year ++ "-" ++ padded 2 date.month ++ "-" ++ padded 2 date.day

/-- The digits of a fraction without the zeros at their end; one digit is left. -/
def trimFraction (digits : List Char) : List Char :=
  match (digits.reverse.dropWhile (· == '0')).reverse with
  | [] => ['0']
  | trimmed => trimmed

/-- The text of a time of day. -/
def ClockTime.text (time : ClockTime) : String :=
  padded 2 time.hour ++ ":" ++ padded 2 time.minute ++
  (time.second.map fun second => ":" ++ padded 2 second).getD "" ++
  (time.fraction.map fun digits => "." ++ String.ofList (trimFraction digits)).getD ""

/-- The text of an offset. -/
def Offset.text : Offset → String
  | .universal => "Z"
  | .ahead minutes =>
      (if minutes < 0 then "-" else "+") ++
      padded 2 (minutes.natAbs / 60) ++ ":" ++ padded 2 (minutes.natAbs % 60)

/-- The text of a moment. -/
def Moment.text : Moment → String
  | .onDay date => date.text
  | .atTime time => time.text
  | .dayAndTime date time offset =>
      date.text ++ "T" ++ time.text ++ (offset.map Offset.text).getD ""

end RouterTelemetry.Toml
