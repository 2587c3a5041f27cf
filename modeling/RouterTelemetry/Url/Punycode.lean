/-!
# Punycode

The encoding of a label with letters beyond ASCII in ASCII letters and digits.
The characters beyond ASCII are inserted in the order of their code points, and
each insertion is written as a number of variable length whose digit thresholds
adapt to the numbers before.
-/

namespace RouterTelemetry.Url.Punycode

/-- The digit of a value below 36. -/
def digitChar (value : Nat) : Char :=
  if value < 26 then Char.ofNat (97 + value) else Char.ofNat (22 + value)

/-- The value of a digit in either case. -/
def digitValue? (c : Char) : Option Nat :=
  if 'a' ≤ c ∧ c ≤ 'z' then some (c.toNat - 97)
  else if 'A' ≤ c ∧ c ≤ 'Z' then some (c.toNat - 65)
  else if '0' ≤ c ∧ c ≤ '9' then some (c.toNat - 22)
  else none

/-- The largest number of an encoded form. -/
def numberLimit : Nat :=
  0x7FFFFFFF

/-- The threshold of the digit at position `k`, which counts in steps of 36. -/
def threshold (k bias : Nat) : Nat :=
  if k ≤ bias then 1 else if bias + 26 ≤ k then 26 else k - bias

theorem threshold_pos (k bias : Nat) : 1 ≤ threshold k bias := by
  unfold threshold
  split
  · omega
  · split <;> omega

theorem threshold_le (k bias : Nat) : threshold k bias ≤ 26 := by
  unfold threshold
  split
  · omega
  · split <;> omega

/-- Divides by 35 until the value is at most 455, counting in steps of 36. -/
def shrink (delta k : Nat) : Nat × Nat :=
  if 455 < delta then shrink (delta / 35) (k + 36) else (delta, k)
termination_by delta
decreasing_by exact Nat.div_lt_self (by omega) (by omega)

/-- The next bias after a number. -/
def adapt (delta points : Nat) (isFirst : Bool) : Nat :=
  let damped := if isFirst then delta / 700 else delta / 2
  let (rest, k) := shrink (damped + damped / points) 0
  k + 36 * rest / (rest + 38)

/-- The digits of a number under a bias, from position `k` on. -/
def encodeNumber (number k bias : Nat) : List Char :=
  let t := threshold k bias
  if number < t then
    [digitChar number]
  else
    digitChar (t + (number - t) % (36 - t)) :: encodeNumber ((number - t) / (36 - t)) (k + 36) bias
termination_by number
decreasing_by
  have low := threshold_pos k bias
  have high := threshold_le k bias
  exact Nat.lt_of_le_of_lt (Nat.div_le_self _ _) (by omega)

/-- What is carried between insertions. -/
structure State where
  delta : Nat
  bias : Nat
  handled : Nat

/-- Writes the insertions of one code point: every character before it in the order
of code points moves the position on. -/
def encodePoint (basic point : Nat) : List Nat → State → List Char → State × List Char
  | [], state, written => (state, written)
  | c :: rest, state, written =>
      if c < point then
        encodePoint basic point rest { state with delta := state.delta + 1 } written
      else if c = point then
        encodePoint basic point rest
          ⟨0, adapt state.delta (state.handled + 1) (state.handled == basic), state.handled + 1⟩
          (written ++ encodeNumber state.delta 36 state.bias)
      else
        encodePoint basic point rest state written

/-- Writes the insertions of the given code points, which are in increasing order. -/
def encodePoints (basic : Nat) (input : List Nat) : List Nat → Nat → State → List Char
  | [], _, _ => []
  | point :: points, from', state =>
      let moved := { state with delta := state.delta + (point - from') * (state.handled + 1) }
      let (next, written) := encodePoint basic point input moved []
      written ++ encodePoints basic input points (point + 1) { next with delta := next.delta + 1 }

/-- The code points beyond ASCII, each once, in increasing order. -/
def extendedPoints (input : List Nat) : List Nat :=
  ((input.filter (128 ≤ ·)).mergeSort (· ≤ ·)).eraseDups

/-- The ASCII characters of a label. -/
def basicPart (label : List Char) : List Char :=
  label.filter (·.toNat < 128)

/-- The insertions of all other characters. -/
def insertions (label : List Char) : List Char :=
  let input := label.map Char.toNat
  let basic := (basicPart label).length
  encodePoints basic input (extendedPoints input) 128 ⟨0, 72, basic⟩

/-- The encoded form of a label that is short enough for its numbers to stay below the limit. -/
def encode? (label : List Char) : Option (List Char) :=
  if numberLimit < (label.length + 1) * 0x110000 then
    none
  else
    some ((if (basicPart label).isEmpty then [] else basicPart label ++ ['-']) ++ insertions label)

/-! ## Decoding -/

/-- Reads one number: the digits it adds to `i`, weighted. -/
def decodeNumber (bias : Nat) : (k weight i : Nat) → List Char → Option (Nat × List Char)
  | _, _, _, [] => none
  | k, weight, i, c :: rest => do
      let digit ← digitValue? c
      let i := i + digit * weight
      let t := threshold k bias
      if digit < t then some (i, rest)
      else if numberLimit < i then none
      else decodeNumber bias (k + 36) (weight * (36 - t)) i rest

/-- Inserts the code points of the numbers that are left; at most `fuel` of them. -/
def decodePoints : (fuel : Nat) → List Char → (point i bias : Nat) → List Nat →
    Option (List Nat)
  | _, [], _, _, _, output => some output
  | 0, _ :: _, _, _, _, _ => none
  | fuel + 1, text, point, i, bias, output => do
      let (next, rest) ← decodeNumber bias 36 1 i text
      let size := output.length + 1
      let point := point + next / size
      let place := next % size
      if 0x10FFFF < point ∨ (0xD800 ≤ point ∧ point ≤ 0xDFFF) then
        none
      else
        decodePoints fuel rest point (place + 1) (adapt (next - i) size (i == 0))
          (output.take place ++ point :: output.drop place)

/-- The text before the last hyphen, and the text after it. -/
def splitLastHyphen (text : List Char) : List Char × List Char :=
  let tail := (text.reverse.takeWhile (· != '-')).reverse
  if tail.length = text.length then ([], text)
  else (text.take (text.length - tail.length - 1), tail)

/-- The label of an encoded form. -/
def decode? (text : List Char) : Option (List Char) :=
  let (ascii, tail) := splitLastHyphen text
  if ascii.any (128 ≤ ·.toNat) then
    none
  else
    (decodePoints tail.length tail 128 0 72 (ascii.map Char.toNat)).map (·.map Char.ofNat)

end RouterTelemetry.Url.Punycode
