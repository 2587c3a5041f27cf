import RouterTelemetry.Unicode.FoldingTable
import RouterTelemetry.Unicode.Table

/-!
# Compatibility folding

What remains of a character when its case and its presentation (width, position,
style, ligature) are put aside.
-/

namespace RouterTelemetry.Unicode

/-- Entries of characters that become one other. -/
def foldedRanges : List (Nat × Nat × Nat × Nat) :=
  quadruples (readNumbers none foldingRanges.toList)

/-- Entries of characters that become several. -/
def foldedSequences : List (Nat × List Nat) :=
  let numbers := readNumbers none foldingSequences.toList
  sequences numbers.length numbers

/-- The code points that a code point becomes. -/
def foldCode (code : Nat) : List Nat :=
  let range := foldedRanges.find? fun (low, high, step, _) =>
    decide (low ≤ code ∧ code ≤ high ∧ (code - low) % step = 0)
  match range with
  | some (low, _, _, target) => [target + (code - low)]
  | none =>
      match foldedSequences.find? (·.1 == code) with
      | some (_, codes) => codes
      | none => [code]

/-- The characters that a character becomes. -/
def fold (c : Char) : List Char :=
  (foldCode c.toNat).map Char.ofNat

end RouterTelemetry.Unicode
