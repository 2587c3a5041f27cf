import RouterTelemetry.Unicode.CompositionTable
import RouterTelemetry.Unicode.Table

/-!
# Canonical composition

The composed normal form: characters are taken apart, marks are ordered by their
combining classes, and what can be composed is put together again.  Syllables of
the Korean script are composed by arithmetic.
-/

namespace RouterTelemetry.Unicode

/-- Every composite with its two parts. -/
def composites : List (Nat × Nat × Nat) :=
  triples (readNumbers none compositions.toList)

/-- Every range of code points with a combining class. -/
def classRanges : List (Nat × Nat × Nat) :=
  triples (readNumbers none combiningClasses.toList)

/-- The canonical combining class. -/
def combiningClass (code : Nat) : Nat :=
  match classRanges.find? fun (low, high, _) => decide (low ≤ code ∧ code ≤ high) with
  | some (_, _, value) => value
  | none => 0

/-! ## Taking apart -/

/-- The parts of a Korean syllable. -/
def syllableParts (code : Nat) : List Nat :=
  let index := code - 0xAC00
  let tail := index % 28
  [0x1100 + index / 588, 0x1161 + index % 588 / 28] ++ if tail = 0 then [] else [0x11A7 + tail]

/-- The full decomposition; `depth` bounds how often a composite is taken apart. -/
def decompose : (depth : Nat) → Nat → List Nat
  | 0, code => [code]
  | depth + 1, code =>
      if 0xAC00 ≤ code ∧ code ≤ 0xD7A3 then
        syllableParts code
      else
        match composites.find? (·.1 == code) with
        | some (_, first, second) => decompose depth first ++ [second]
        | none => [code]

/-- Puts a mark before the marks of higher classes at the end; the text is reversed. -/
def insertMark (code cls : Nat) : List (Nat × Nat) → List (Nat × Nat)
  | [] => [(code, cls)]
  | (last, lastClass) :: text =>
      if cls ≠ 0 ∧ cls < lastClass then (last, lastClass) :: insertMark code cls text
      else (code, cls) :: (last, lastClass) :: text

/-- Code points with their classes, marks in canonical order. -/
def orderMarks (codes : List Nat) : List (Nat × Nat) :=
  (codes.foldl (fun text code => insertMark code (combiningClass code) text) []).reverse

/-! ## Putting together -/

/-- The composite of two code points. -/
def composePair? (first second : Nat) : Option Nat :=
  if 0x1100 ≤ first ∧ first ≤ 0x1112 ∧ 0x1161 ≤ second ∧ second ≤ 0x1175 then
    some (0xAC00 + ((first - 0x1100) * 21 + (second - 0x1161)) * 28)
  else if 0xAC00 ≤ first ∧ first ≤ 0xD7A3 ∧ (first - 0xAC00) % 28 = 0 ∧ 0x11A8 ≤ second ∧
      second ≤ 0x11C2 then
    some (first + (second - 0x11A7))
  else
    (composites.find? fun (_, a, b) => a == first && b == second).map (·.1)

/-- A starter, and what stands after it without being composed, reversed. -/
structure Cluster where
  starter : Option Nat := none
  after : List (Nat × Nat) := []

/-- The code points of a cluster. -/
def Cluster.codes (cluster : Cluster) : List Nat :=
  cluster.starter.toList ++ cluster.after.reverse.map Prod.fst

/-- Composes from left to right. -/
def composeFrom (cluster : Cluster) : List (Nat × Nat) → List Nat
  | [] => cluster.codes
  | (code, cls) :: rest =>
      let lastClass := (cluster.after.head?.map Prod.snd).getD 0
      let blocked := !cluster.after.isEmpty && (lastClass == 0 || decide (cls ≤ lastClass))
      let composed := if blocked then none else cluster.starter.bind (composePair? · code)
      match composed with
      | some whole => composeFrom { cluster with starter := some whole } rest
      | none =>
          if cls = 0 then
            cluster.codes ++ composeFrom ⟨some code, []⟩ rest
          else
            composeFrom { cluster with after := (code, cls) :: cluster.after } rest

/-- The composed normal form. -/
def normalize (text : List Char) : List Char :=
  let parts := text.flatMap fun c => decompose 4 c.toNat
  (composeFrom {} (orderMarks parts)).map Char.ofNat

end RouterTelemetry.Unicode
