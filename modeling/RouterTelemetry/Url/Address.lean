import RouterTelemetry.Url.Percent

/-!
# Numeric addresses

Hosts that are written as numbers: four bytes with points between them, in any of
the accepted bases and lengths, and eight 16-bit pieces with colons.
-/

namespace RouterTelemetry.Url

/-- The parts of a text between separators. -/
def splitAt (separator : Char) : List Char → List (List Char)
  | [] => [[]]
  | c :: rest =>
      if c = separator then
        [] :: splitAt separator rest
      else
        match splitAt separator rest with
        | [] => [[c]]
        | part :: parts => (c :: part) :: parts

/-- Parts with separators between them. -/
def joinWith (separator : Char) : List (List Char) → List Char
  | [] => []
  | [part] => part
  | part :: parts => part ++ separator :: joinWith separator parts

/-! ## Four bytes -/

/-- The value of digits in a base, or nothing if one is no digit of that base. -/
def valueIn? (base : Nat) (digits : List Char) : Option Nat :=
  digits.foldl (fun total? c => do
    let total ← total?
    let digit ← hexValue? c
    if digit < base then some (total * base + digit) else none) (some 0)

/-- A part of an address: hexadecimal after `0x`, octal after `0`, else decimal. -/
def addressPart? : List Char → Option Nat
  | [] => none
  | ['0'] => some 0
  | '0' :: 'x' :: digits => valueIn? 16 digits
  | '0' :: 'X' :: digits => valueIn? 16 digits
  | '0' :: digits => valueIn? 8 digits
  | digits => valueIn? 10 digits

/-- The last part, one empty part at the end not counted. -/
def lastPart (host : List Char) : List Char :=
  match (splitAt '.' host).reverse with
  | [] :: part :: _ => part
  | part :: _ => part
  | [] => []

/-- The host is taken for an address: its last part is a number. -/
def endsInNumber (host : List Char) : Bool :=
  let part := lastPart host
  (!part.isEmpty && part.all Char.isDigit) || (addressPart? part).isSome

/-- The parts of an address, one empty part at the end not counted. -/
def addressParts (host : List Char) : List (List Char) :=
  match (splitAt '.' host).reverse with
  | [] :: parts => parts.reverse
  | parts => parts.reverse

/-- The 32-bit number of an address whose last part fills the bytes that are left. -/
def parseAddress? (host : List Char) : Option Nat := do
  let numbers ← (addressParts host).mapM addressPart?
  match numbers.reverse with
  | [] => none
  | last :: front =>
      let front := front.reverse
      if 3 < front.length || front.any (255 < ·) || Nat.pow 256 (4 - front.length) ≤ last then
        none
      else
        let high := front.foldl (fun total n => 256 * total + n) 0
        some (high * Nat.pow 256 (4 - front.length) + last)

/-- Four decimal bytes with points between them. -/
def showAddress (address : Nat) : String :=
  ".".intercalate ([16777216, 65536, 256, 1].map fun unit => toString (address / unit % 256))

/-! ## Eight pieces -/

/-- The pieces read so far, latest first, and how many there were after the double
colon. -/
structure Pieces where
  reversed : List Nat := []
  compressed : Option Nat := none

/-- Adds a piece. -/
def Pieces.push (pieces : Pieces) (piece : Nat) : Pieces :=
  { pieces with reversed := piece :: pieces.reversed }

/-- Four decimal bytes at the end, without leading zeros. -/
def byteParts? (text : List Char) : Option (List Nat) := do
  let parts ← (splitAt '.' text).mapM fun part =>
    match part with
    | [] => none
    | ['0'] => some 0
    | '0' :: _ => none
    | digits => if digits.length ≤ 3 then valueIn? 10 digits else none
  if parts.length = 4 && parts.all (· ≤ 255) then some parts else none

/-- Reads pieces; a double colon stands for at least one zero and comes once. -/
def readPieces (text : List Char) (pieces : Pieces) : Option Pieces :=
  match text with
  | [] => some pieces
  | c :: rest =>
      if pieces.reversed.length = 8 then
        none
      else if c = ':' then
        match pieces.compressed with
        | some _ => none
        | none =>
            readPieces rest
              ⟨0 :: pieces.reversed, some (pieces.reversed.length + 1)⟩
      else
        let whole := c :: rest
        let digits := (whole.take 4).takeWhile fun c => (hexValue? c).isSome
        match _drop_eq : whole.drop digits.length with
        | [] => (valueIn? 16 digits).map pieces.push
        | '.' :: _ =>
            if digits.isEmpty || 6 < pieces.reversed.length then
              none
            else
              match byteParts? whole with
              | some [a, b, c, d] => some ((pieces.push (a * 256 + b)).push (c * 256 + d))
              | _ => none
        | ':' :: next :: after =>
            match valueIn? 16 digits with
            | some piece => readPieces (next :: after) (pieces.push piece)
            | none => none
        | _ => none
termination_by text.length
decreasing_by
  · simp
  · have length := congrArg List.length _drop_eq
    simp only [whole, List.length_drop, List.length_cons] at length
    simp only [List.length_cons]
    omega

/-- Reads the whole text, which may begin with a double colon. -/
def readAllPieces (text : List Char) : Option Pieces :=
  match text with
  | ':' :: ':' :: rest => readPieces rest ⟨[0], some 1⟩
  | ':' :: _ => none
  | _ :: _ :: _ => readPieces text {}
  | _ => none

/-- Eight pieces: those that were read, and zeros in the place of the double colon. -/
def Pieces.filled? (pieces : Pieces) : Option (List Nat) :=
  let read := pieces.reversed.reverse
  match pieces.compressed with
  | some count => some (read.take count ++ List.replicate (8 - read.length) 0 ++ read.drop count)
  | none => if read.length = 8 then some read else none

/-- The eight pieces of an address in brackets. -/
def parsePieces? (text : List Char) : Option (List Nat) :=
  (readAllPieces text).bind Pieces.filled?

/-- The length of the run of zeros at the front. -/
def zeroRun (pieces : List Nat) : Nat :=
  (pieces.takeWhile (· == 0)).length

/-- The first of the longest runs of zeros, as its start and length. -/
def longestZeros (pieces : List Nat) : Nat × Nat :=
  (List.range pieces.length).foldl (fun best start =>
    let run := zeroRun (pieces.drop start)
    if best.2 < run then (start, run) else best) (0, 0)

/-- A piece in lower-case hexadecimal. -/
def showPiece (piece : Nat) : List Char :=
  Nat.toDigits 16 piece

/-- Pieces with colons, the longest run of two or more zeros left out. -/
def showPieces (pieces : List Nat) : String :=
  let (start, run) := longestZeros pieces
  let join (pieces : List Nat) : List Char := joinWith ':' (pieces.map showPiece)
  if run < 2 then
    String.ofList (join pieces)
  else
    String.ofList (join (pieces.take start) ++ [':', ':'] ++ join (pieces.drop (start + run)))

end RouterTelemetry.Url
