/-!
# Reading tables

Tables of code points are kept as text, hexadecimal numbers with blanks and line
ends between them, and read into tuples.
-/

namespace RouterTelemetry.Unicode

/-- Adds a lower-case hexadecimal digit to a number. -/
def pushDigit (n : Nat) (c : Char) : Nat :=
  n * 16 + (if c ≤ '9' then c.toNat - 48 else c.toNat - 87)

/-- Stands between two numbers. -/
def separates (c : Char) : Bool :=
  c = ' ' || c = '\n'

/-- The numbers of a table. -/
def readNumbers : (current : Option Nat) → List Char → List Nat
  | current, [] => current.toList
  | current, c :: rest =>
      if separates c then
        current.toList ++ readNumbers none rest
      else
        readNumbers (some (pushDigit (current.getD 0) c)) rest

/-- Groups of three. -/
def triples : List Nat → List (Nat × Nat × Nat)
  | a :: b :: c :: rest => (a, b, c) :: triples rest
  | _ => []

/-- Groups of four. -/
def quadruples : List Nat → List (Nat × Nat × Nat × Nat)
  | a :: b :: c :: d :: rest => (a, b, c, d) :: quadruples rest
  | _ => []

/-- A number, a length, and as many numbers as that, again and again; at most `fuel`
times. -/
def sequences : (fuel : Nat) → List Nat → List (Nat × List Nat)
  | fuel + 1, code :: length :: rest =>
      (code, rest.take length) :: sequences fuel (rest.drop length)
  | _, _ => []

end RouterTelemetry.Unicode
