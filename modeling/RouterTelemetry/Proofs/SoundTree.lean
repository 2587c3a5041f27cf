import RouterTelemetry.Proofs.JsonTree
import RouterTelemetry.Proofs.Results

/-!
# Sound trees

The grammar allows more than a value can hold: numbers beyond every double, and escapes of
surrogates that are no pair.  A tree with neither is sound.  Up to the limit of brackets, the
sound trees are those that have a value, and every other tree has a flaw of one of these kinds.
-/

namespace RouterTelemetry.Json

/-! ## Results decided by a property -/

/-- The flaws of a text that the grammar allows. -/
def grammaticalFlaws : List Flaw :=
  [.numberOutOfRange, .loneSurrogate, .unfinishedSurrogatePair]

/-- There is a result where the property holds, and a flaw of a grammatical text where not. -/
def Settled {α : Type} (sound : Prop) (result : Except Fault α) : Prop :=
  (sound ∧ ∃ value, result = .ok value) ∨
    (¬sound ∧ ∃ flaw ∈ grammaticalFlaws, result = .error (.malformed flaw))

section

variable {α β : Type} {sound later : Prop} {result : Except Fault α}

theorem Settled.ok (value : α) (holds : sound) : Settled sound (.ok value : Except Fault α) :=
  .inl ⟨holds, value, rfl⟩

theorem Settled.error {flaw : Flaw} (listed : flaw ∈ grammaticalFlaws) (fails : ¬sound) :
    Settled sound (.error (.malformed flaw) : Except Fault α) :=
  .inr ⟨fails, flaw, listed, rfl⟩

theorem Settled.congr (settled : Settled sound result) (same : sound ↔ later) :
    Settled later result := by
  rw [Settled, ← same]
  exact settled

theorem Settled.map (settled : Settled sound result) (f : α → β) :
    Settled sound (result.map f) := by
  rcases settled with ⟨holds, value, rfl⟩ | ⟨fails, flaw, listed, rfl⟩
  · exact .ok (f value) holds
  · exact .error listed fails

/-- One step after another is decided by both properties. -/
theorem Settled.bind {next : α → Except Fault β} (settled : Settled sound result)
    (each : ∀ value, Settled later (next value)) : Settled (sound ∧ later) (result >>= next) := by
  rcases settled with ⟨holds, value, rfl⟩ | ⟨fails, flaw, listed, rfl⟩
  · exact (each value).congr (by simp [holds])
  · exact .error listed fun both => fails both.1

end

/-! ## Numbers -/

/-- The number has a value. -/
def Spelling.InRange (spelling : Spelling) : Prop :=
  ∃ number, spelling.literal.number = .ok number

theorem eq_numberOutOfRange_of_scaleBy {value : Float} {exponent : Int} {fault : Fault}
    (refused : scaleBy value exponent = .error fault) : fault = .malformed .numberOutOfRange := by
  fun_induction scaleBy value exponent with
  | case1 value exponent small power positive product infinite =>
      cases refused
      rfl
  | case2 | case3 | case4 => cases refused
  | case5 => 
      cases refused
      rfl
  | case6 value exponent large nonzero negative ih => exact ih refused

theorem eq_numberOutOfRange_of_assemble {significand : Nat} {shift : Int}
    {exponent : Option (Bool × List UInt8)} {fault : Fault}
    (refused : assemble significand shift exponent = .error fault) :
    fault = .malformed .numberOutOfRange := by
  match exponent with
  | none => exact eq_numberOutOfRange_of_scaleBy refused
  | some (negative, digits) =>
      rw [assemble] at refused
      split_ifs at refused with large positive
      · cases refused
        rfl
      · exact eq_numberOutOfRange_of_scaleBy refused
      · exact eq_numberOutOfRange_of_scaleBy refused

/-- A number is refused for nothing but its size. -/
theorem Spelling.settled (spelling : Spelling) :
    Settled spelling.InRange spelling.literal.number := by
  cases result : spelling.literal.number with
  | ok number => exact .ok number ⟨number, result⟩
  | error fault =>
      have outOfRange : fault = .malformed .numberOutOfRange := by
        rw [Literal.number] at result
        dsimp only at result
        split at result
        · cases result
        · exact eq_numberOutOfRange_of_assemble (map_eq_error_iff.mp result)
      subst outOfRange
      refine .error (by decide) ?_
      rintro ⟨number, accepted⟩
      rw [result] at accepted
      cases accepted

/-! ## Strings -/

/-- The glyph is one half of a pair of surrogates. -/
def Glyph.IsHalf : Glyph → Prop
  | .coded unit => unit.Leads ∨ unit.Trails
  | _ => False

/-- Every half of a pair has its other half. -/
inductive Glyph.Paired : List Glyph → Prop where
  | nil : Paired []
  | single {glyph : Glyph} {glyphs : List Glyph} (whole : ¬glyph.IsHalf) (rest : Paired glyphs) :
      Paired (glyph :: glyphs)
  | pair {lead trail : CodeUnit} {glyphs : List Glyph} (leads : lead.Leads) (trails : trail.Trails)
      (rest : Paired glyphs) : Paired (.coded lead :: .coded trail :: glyphs)

theorem CodeUnit.not_leads_of_trails {unit : CodeUnit} (trails : unit.Trails) : ¬unit.Leads := by
  intro leads
  have low := trails.1
  have high := leads.2
  omega

namespace Glyph

theorem paired_single_iff {glyph : Glyph} {glyphs : List Glyph} (whole : ¬glyph.IsHalf) :
    Paired (glyph :: glyphs) ↔ Paired glyphs := by
  constructor
  · intro paired
    cases paired with
    | single _ rest => exact rest
    | pair leads _ _ => exact absurd (.inl leads) whole
  · exact .single whole

theorem paired_lead_iff {lead : CodeUnit} {glyphs : List Glyph} (leads : lead.Leads) :
    Paired (.coded lead :: glyphs) ↔
      ∃ trail rest, glyphs = .coded trail :: rest ∧ trail.Trails ∧ Paired rest := by
  constructor
  · intro paired
    cases paired with
    | single whole _ => exact absurd (.inl leads) whole
    | pair _ trails rest => exact ⟨_, _, rfl, trails, rest⟩
  · rintro ⟨trail, rest, rfl, trails, paired⟩
    exact .pair leads trails paired

/-- Glyphs stand for characters if and only if all halves are in pairs. -/
theorem settled_decode (glyphs : List Glyph) : Settled (Paired glyphs) (decode glyphs) := by
  match glyphs with
  | [] => exact .ok [] .nil
  | .plain c _ _ _ :: glyphs =>
      exact ((settled_decode glyphs).map (c :: ·)).congr (paired_single_iff id).symm
  | .short _ meaning _ :: glyphs =>
      exact ((settled_decode glyphs).map (Char.ofUInt8 meaning :: ·)).congr
        (paired_single_iff id).symm
  | .coded unit :: glyphs =>
      rw [decode.eq_def]
      dsimp only
      split_ifs with trails leads
      · refine .error (by decide) ?_
        rintro (_ | ⟨whole, _⟩ | ⟨leads, _, _⟩)
        · exact whole (.inr trails)
        · exact CodeUnit.not_leads_of_trails trails leads
      · match glyphs with
        | [] => exact .error (by decide) (mt (paired_lead_iff leads).mp (by simp))
        | .plain .. :: _ => exact .error (by decide) (mt (paired_lead_iff leads).mp (by simp))
        | .short .. :: _ => exact .error (by decide) (mt (paired_lead_iff leads).mp (by simp))
        | .coded trail :: glyphs =>
            dsimp only
            split_ifs with trails
            · exact ((settled_decode glyphs).map _).congr (by simp [paired_lead_iff leads, trails])
            · exact .error (by decide) (mt (paired_lead_iff leads).mp (by simp [trails]))
      · have whole : ¬(coded unit).IsHalf := not_or.mpr ⟨leads, trails⟩
        exact ((settled_decode glyphs).map _).congr (paired_single_iff whole).symm

theorem settled_string (glyphs : List Glyph) : Settled (Paired glyphs) (string glyphs) :=
  (settled_decode glyphs).map String.ofList

end Glyph

/-! ## Trees -/

mutual

/-- All numbers are in range, and all surrogates are in pairs. -/
def Tree.Sound : Tree → Prop
  | .null | .boolean _ => True
  | .number spelling => spelling.InRange
  | .string glyphs => Glyph.Paired glyphs
  | .list items _ => items.Sound
  | .object entries _ => entries.Sound

/-- All items are sound. -/
def Items.Sound : Items → Prop
  | .nil => True
  | .cons _ _ item more => item.Sound ∧ more.Sound

/-- All keys and values are sound. -/
def Entries.Sound : Entries → Prop
  | .nil => True
  | .cons _ _ key _ _ value more => Glyph.Paired key ∧ value.Sound ∧ more.Sound

end

mutual

/-- Up to the limit of brackets, a tree has a value if and only if it is sound. -/
theorem Tree.settled_value (tree : Tree) {depth : Nat} (shallow : tree.depth ≤ depth) :
    Settled tree.Sound (tree.value depth) := by
  match tree, depth with
  | .null, _ => exact .ok _ trivial
  | .boolean _, _ => exact .ok _ trivial
  | .number spelling, _ => exact spelling.settled.map _
  | .string glyphs, _ => exact (Glyph.settled_string glyphs).map _
  | .list items _, 0 => exact absurd shallow (Nat.not_succ_le_zero _)
  | .object entries _, 0 => exact absurd shallow (Nat.not_succ_le_zero _)
  | .list items _, depth + 1 =>
      exact (items.settled_values (Nat.le_of_succ_le_succ shallow)).map _
  | .object entries _, depth + 1 =>
      exact (entries.settled_members (Nat.le_of_succ_le_succ shallow) []).map _

theorem Items.settled_values (items : Items) {depth : Nat} (shallow : items.depth ≤ depth) :
    Settled items.Sound (items.values depth) := by
  match items with
  | .nil => exact .ok _ trivial
  | .cons _ _ item more =>
      rw [Items.depth, Nat.max_le] at shallow
      rw [Items.values]
      exact (item.settled_value shallow.1).bind fun value =>
        (more.settled_values shallow.2).map (value :: ·)

theorem Entries.settled_members (entries : Entries) {depth : Nat}
    (shallow : entries.depth ≤ depth) (members : List (String × Value)) :
    Settled entries.Sound (entries.members depth members) := by
  match entries with
  | .nil => exact .ok _ trivial
  | .cons _ _ key _ _ value more =>
      rw [Entries.depth, Nat.max_le] at shallow
      rw [Entries.members]
      exact (Glyph.settled_string key).bind fun key =>
        (value.settled_value shallow.1).bind fun value => more.settled_members shallow.2 _

end

end RouterTelemetry.Json
