import Mathlib.Data.List.TakeWhile
import RouterTelemetry.Session

/-!
# Well-formed cookies

A raw value gives a cookie exactly if it begins with a name and an equals sign,
both before the first semicolon.
-/

namespace RouterTelemetry

theorem Text.trimmed_eq_nil_iff {text : List Char} :
    trimmed text = [] ↔ ∀ c ∈ text, isBlank c = true := by
  rw [trimmed, List.reverse_eq_nil_iff, List.dropWhile_eq_nil_iff]
  constructor
  · intro blank c member
    rw [← List.takeWhile_append_dropWhile (p := isBlank) (l := text)] at member
    rcases List.mem_append.mp member with early | late
    · exact List.mem_takeWhile_imp early
    · exact blank c (List.mem_reverse.mpr late)
  · intro blank c member
    exact blank c ((List.dropWhile_suffix _).subset (List.mem_reverse.mp member))

/-- The value begins with a name, not all of it blank, and an equals sign. -/
def Cookie.WellFormed (raw : String) : Prop :=
  ∃ name rest, raw.toList = name ++ '=' :: rest ∧ '=' ∉ name ∧ ';' ∉ name ∧
    ∃ c ∈ name, Text.isBlank c = false

/-- A value is read at its first equals sign, if that comes before every semicolon. -/
theorem Cookie.ofHeader?_of_split {raw : String} {name rest : List Char}
    (split : raw.toList = name ++ '=' :: rest) (noSign : '=' ∉ name) (noEnd : ';' ∉ name) :
    ofHeader? raw = if (Text.trimmed name).isEmpty then none else
      some ⟨String.ofList (Text.trimmed name),
        String.ofList (Text.trimmed (rest.takeWhile (· != ';')))⟩ := by
  have pair : raw.toList.takeWhile (· != ';') = name ++ '=' :: rest.takeWhile (· != ';') := by
    rw [split, List.takeWhile_append_of_pos]
    · rfl
    · intro d dMember
      exact bne_iff_ne.mpr (ne_of_mem_of_not_mem dMember noEnd)
  have signs : ∀ d ∈ name, (d != '=') = true := by
    intro d dMember
    exact bne_iff_ne.mpr (ne_of_mem_of_not_mem dMember noSign)
  simp [ofHeader?, pair, List.dropWhile_append_of_pos signs, List.takeWhile_append_of_pos signs]

theorem Cookie.ofHeader?_isSome_of_wellFormed {raw : String} (wellFormed : WellFormed raw) :
    (ofHeader? raw).isSome := by
  obtain ⟨name, rest, split, noSign, noEnd, c, member, notBlank⟩ := wellFormed
  have named : Text.trimmed name ≠ [] := by
    intro allBlank
    have blank := Text.trimmed_eq_nil_iff.mp allBlank c member
    rw [notBlank] at blank
    cases blank
  simp [ofHeader?_of_split split noSign noEnd, named]

theorem Cookie.wellFormed_of_ofHeader?_isSome {raw : String} (given : (ofHeader? raw).isSome) :
    WellFormed raw := by
  obtain ⟨pair, pair_eq⟩ : ∃ pair, pair = raw.toList.takeWhile (· != ';') := ⟨_, rfl⟩
  obtain ⟨name, name_eq⟩ : ∃ name, name = pair.takeWhile (· != '=') := ⟨_, rfl⟩
  have pairSplit : name ++ pair.dropWhile (· != '=') = pair :=
    name_eq ▸ List.takeWhile_append_dropWhile
  have rawSplit : pair ++ raw.toList.dropWhile (· != ';') = raw.toList :=
    pair_eq ▸ List.takeWhile_append_dropWhile
  have noEnd : ';' ∉ name := by
    intro member
    have inPair : ';' ∈ pair := pairSplit ▸ List.mem_append_left _ member
    rw [pair_eq] at inPair
    simpa using List.mem_takeWhile_imp inPair
  have noSign : '=' ∉ name := by
    intro member
    rw [name_eq] at member
    simpa using List.mem_takeWhile_imp member
  simp only [ofHeader?, ← pair_eq, ← name_eq] at given
  cases rest : pair.dropWhile (· != '=') with
  | nil => simp [rest] at given
  | cons sign value =>
      have isSign : sign = '=' := by
        have first := List.head_dropWhile_not (· != '=') (l := pair) (by simp [rest])
        simpa [rest] using first
      have named : Text.trimmed name ≠ [] := by
        intro allBlank
        simp [rest, allBlank] at given
      refine ⟨name, value ++ raw.toList.dropWhile (· != ';'), ?_, noSign, noEnd, ?_⟩
      · calc
          raw.toList = (name ++ sign :: value) ++ raw.toList.dropWhile (· != ';') := by
            rw [← rest, pairSplit, rawSplit]
          _ = name ++ '=' :: (value ++ raw.toList.dropWhile (· != ';')) := by
            rw [isSign, List.append_assoc, List.cons_append]
      · by_contra noLetter
        apply named
        rw [Text.trimmed_eq_nil_iff]
        intro c member
        by_contra notBlank
        exact noLetter ⟨c, member, Bool.eq_false_iff.mpr notBlank⟩

/-- A value gives a cookie exactly if it is well-formed. -/
theorem Cookie.ofHeader?_isSome_iff {raw : String} : (ofHeader? raw).isSome ↔ WellFormed raw :=
  ⟨wellFormed_of_ofHeader?_isSome, ofHeader?_isSome_of_wellFormed⟩

end RouterTelemetry
