import RouterTelemetry.Proofs.SeparatedText
import RouterTelemetry.Url.Basic

/-!
# The encoded form of a part

Encoding a part of a URL leaves characters that are encoded no further.
-/

namespace RouterTelemetry.Url

/-- The character is not encoded. -/
def Plain (set : EncodeSet) (c : Char) : Prop :=
  isAlwaysEncoded c = false ∧ c ∉ set

instance (set : EncodeSet) (c : Char) : Decidable (Plain set c) :=
  inferInstanceAs (Decidable (_ ∧ _))

/-- The characters of an encoded byte are not encoded again. -/
def EscapesPlain (set : EncodeSet) : Prop :=
  Plain set '%' ∧ ∀ n < 16, Plain set (hexDigit n)

instance (set : EncodeSet) : Decidable (EscapesPlain set) :=
  inferInstanceAs (Decidable (_ ∧ _))

theorem escapesPlain_userSet : EscapesPlain userSet := by decide

theorem escapesPlain_pathSet : EscapesPlain pathSet := by decide

section

variable {set : EncodeSet} {text : List Char} {c : Char}

theorem encode_of_plain (plain : ∀ c ∈ text, Plain set c) : encode set text = text := by
  induction text with
  | nil => rfl
  | cons c text ih =>
      obtain ⟨⟨always, listed⟩, plain⟩ := List.forall_mem_cons.mp plain
      have kept : encodeChar set c = [c] := by
        rw [encodeChar, if_neg (by simp [always, listed])]
      rw [encode, List.flatMap_cons, kept]
      exact congrArg (c :: ·) (ih plain)

/-- Encoding keeps a character that is plain and adds the characters of escapes. -/
theorem mem_encode (member : c ∈ encode set text) :
    (c ∈ text ∧ Plain set c) ∨ c = '%' ∨ ∃ n < 16, c = hexDigit n := by
  obtain ⟨letter, inText, written⟩ := List.mem_flatMap.mp member
  rw [encodeChar] at written
  split_ifs at written with encoded
  · obtain ⟨b, _, inByte⟩ := List.mem_flatMap.mp written
    have small := b.toNat_lt
    rw [encodeByte, List.mem_cons, List.mem_cons, List.mem_singleton] at inByte
    rcases inByte with rfl | rfl | rfl
    · exact .inr (.inl rfl)
    · exact .inr (.inr ⟨_, by omega, rfl⟩)
    · exact .inr (.inr ⟨_, by omega, rfl⟩)
  · rw [List.mem_singleton] at written
    rw [written]
    exact .inl ⟨inText, by simpa [Plain, not_or] using encoded⟩

theorem plain_of_mem_encode (escapes : EscapesPlain set) (member : c ∈ encode set text) :
    Plain set c := by
  rcases mem_encode member with ⟨_, plain⟩ | rfl | ⟨n, small, rfl⟩
  · exact plain
  · exact escapes.1
  · exact escapes.2 n small

/-- What is not encoded is no edge where spaces are encoded. -/
theorem Plain.not_edge (plain : Plain set c) (space : ' ' ∈ set) : isEdge c = false := by
  obtain ⟨always, listed⟩ := plain
  have range : 32 ≤ c.toNat ∧ c.toNat < 127 := by simpa [isAlwaysEncoded] using always
  have other : c.toNat ≠ ' '.toNat := by
    intro same
    rw [Char.toNat_inj.mp same] at listed
    exact listed space
  refine decide_eq_false fun edge => ?_
  have below : c.toNat ≤ ' '.toNat := edge
  exact other (Nat.le_antisymm below range.1)

end

end RouterTelemetry.Url
