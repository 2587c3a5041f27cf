import Mathlib.Data.List.TakeWhile
import RouterTelemetry.Url.Address

/-!
# Texts with separators

Parts without the separator are found again between separators, and what follows the last one is
found from the end.
-/

namespace RouterTelemetry.Url

section

variable {separator : Char} {front tail text : List Char}

theorem takeWhile_of_notMem (plain : separator ∉ text) :
    text.takeWhile (· != separator) = text := by
  refine List.takeWhile_eq_self_iff.mpr fun c member => bne_iff_ne.mpr ?_
  rintro rfl
  exact plain member

theorem takeWhile_append_separator (plain : separator ∉ front) (rest : List Char) :
    (front ++ separator :: rest).takeWhile (· != separator) = front := by
  rw [List.takeWhile_append_of_pos, List.takeWhile_cons_of_neg (by simp), List.append_nil]
  exact List.takeWhile_eq_self_iff.mp (takeWhile_of_notMem plain)

theorem dropWhile_append_separator (plain : separator ∉ front) (rest : List Char) :
    (front ++ separator :: rest).dropWhile (· != separator) = separator :: rest := by
  rw [List.dropWhile_append_of_pos, List.dropWhile_cons_of_neg (by simp)]
  exact List.takeWhile_eq_self_iff.mp (takeWhile_of_notMem plain)

/-- What follows the last separator. -/
theorem afterLast_append (front : List Char) (plain : separator ∉ tail) :
    ((front ++ separator :: tail).reverse.takeWhile (· != separator)).reverse = tail := by
  rw [List.reverse_append, List.reverse_cons, List.append_assoc, List.singleton_append,
    takeWhile_append_separator (by rwa [List.mem_reverse]), List.reverse_reverse]

/-- What stands before the last separator, counted from the end. -/
theorem take_beforeLast (front tail : List Char) (separator : Char) :
    (front ++ separator :: tail).take ((front ++ separator :: tail).length - tail.length - 1) =
      front := by
  have count : (front ++ separator :: tail).length - tail.length - 1 = front.length := by
    rw [List.length_append, List.length_cons]
    omega
  rw [count, List.take_left]

theorem length_ne_append_separator (front tail : List Char) (separator : Char) :
    tail.length ≠ (front ++ separator :: tail).length := by
  rw [List.length_append, List.length_cons]
  omega

theorem afterLast_of_notMem (plain : separator ∉ text) :
    (text.reverse.takeWhile (· != separator)).reverse = text := by
  rw [takeWhile_of_notMem (by rwa [List.mem_reverse]), List.reverse_reverse]

end

section

variable {p : Char → Bool} {front rest : List Char}

theorem takeWhile_append_of_head (all : ∀ c ∈ front, p c) (stops : ∀ c ∈ rest.head?, p c = false) :
    (front ++ rest).takeWhile p = front := by
  rw [List.takeWhile_append_of_pos all]
  cases rest with
  | nil => exact List.append_nil front
  | cons c rest =>
      rw [List.takeWhile_cons_of_neg (Bool.eq_false_iff.mp (stops c rfl)), List.append_nil]

theorem dropWhile_append_of_head (all : ∀ c ∈ front, p c) (stops : ∀ c ∈ rest.head?, p c = false) :
    (front ++ rest).dropWhile p = rest := by
  rw [List.dropWhile_append_of_pos all]
  cases rest with
  | nil => rfl
  | cons c rest => exact List.dropWhile_cons_of_neg (Bool.eq_false_iff.mp (stops c rfl))

end

/-! ## Parts -/

section

variable {separator : Char} {parts : List (List Char)}

theorem splitAt_of_notMem {text : List Char} (plain : separator ∉ text) :
    splitAt separator text = [text] := by
  induction text with
  | nil => rfl
  | cons c text ih =>
      obtain ⟨other, plain⟩ := not_or.mp (List.mem_cons.not.mp plain)
      rw [splitAt, if_neg (Ne.symm other), ih plain]

theorem splitAt_append_separator {part : List Char} (plain : separator ∉ part) (rest : List Char) :
    splitAt separator (part ++ separator :: rest) = part :: splitAt separator rest := by
  induction part with
  | nil => rw [List.nil_append, splitAt, if_pos rfl]
  | cons c part ih =>
      obtain ⟨other, plain⟩ := not_or.mp (List.mem_cons.not.mp plain)
      rw [List.cons_append, splitAt, if_neg (Ne.symm other), ih plain]

/-- Parts are found again between separators. -/
theorem splitAt_joinWith (some : parts ≠ []) (plain : ∀ part ∈ parts, separator ∉ part) :
    splitAt separator (joinWith separator parts) = parts := by
  fun_induction joinWith separator parts with
  | case1 => exact absurd rfl some
  | case2 part => exact splitAt_of_notMem (plain part (List.mem_singleton_self part))
  | case3 part rest more ih =>
      obtain ⟨first, plain⟩ := List.forall_mem_cons.mp plain
      rw [splitAt_append_separator first, ih more plain]

theorem splitAt_ne_nil (separator : Char) (text : List Char) : splitAt separator text ≠ [] := by
  cases text with
  | nil => exact List.cons_ne_nil _ _
  | cons c text =>
      rw [splitAt]
      split_ifs
      · exact List.cons_ne_nil _ _
      · cases splitAt separator text <;> exact List.cons_ne_nil _ _

theorem notMem_of_mem_splitAt {text part : List Char} (member : part ∈ splitAt separator text) :
    separator ∉ part := by
  induction text generalizing part with
  | nil =>
      rw [splitAt, List.mem_singleton] at member
      rw [member]
      exact List.not_mem_nil
  | cons c text ih =>
      rw [splitAt] at member
      split_ifs at member with same
      · rcases List.mem_cons.mp member with rfl | later
        · exact List.not_mem_nil
        · exact ih later
      · cases split : splitAt separator text with
        | nil => exact absurd split (splitAt_ne_nil separator text)
        | cons first rest =>
            rw [split] at member ih
            rcases List.mem_cons.mp member with rfl | later
            · exact List.mem_cons.not.mpr (not_or.mpr ⟨Ne.symm same, ih List.mem_cons_self⟩)
            · exact ih (List.mem_cons_of_mem first later)

theorem mem_of_mem_splitAt {text part : List Char} (member : part ∈ splitAt separator text)
    {c : Char} (inPart : c ∈ part) : c ∈ text := by
  induction text generalizing part with
  | nil =>
      rw [splitAt, List.mem_singleton] at member
      rwa [member] at inPart
  | cons first text ih =>
      rw [splitAt] at member
      split_ifs at member with same
      · rcases List.mem_cons.mp member with rfl | later
        · cases inPart
        · exact List.mem_cons_of_mem first (ih later inPart)
      · cases split : splitAt separator text with
        | nil => exact absurd split (splitAt_ne_nil separator text)
        | cons part' rest =>
            rw [split] at member ih
            rcases List.mem_cons.mp member with rfl | later
            · rcases List.mem_cons.mp inPart with rfl | inPart
              · exact List.mem_cons_self
              · exact List.mem_cons_of_mem first (ih List.mem_cons_self inPart)
            · exact List.mem_cons_of_mem first (ih (List.mem_cons_of_mem part' later) inPart)

theorem mem_joinWith {c : Char} (member : c ∈ joinWith separator parts) :
    c = separator ∨ ∃ part ∈ parts, c ∈ part := by
  fun_induction joinWith separator parts with
  | case1 => cases member
  | case2 part => exact .inr ⟨part, List.mem_singleton_self part, member⟩
  | case3 part rest more ih =>
      rcases List.mem_append.mp member with first | later
      · exact .inr ⟨part, List.mem_cons_self, first⟩
      · rcases List.mem_cons.mp later with rfl | later
        · exact .inl rfl
        · rcases ih later with same | ⟨other, listed, inside⟩
          · exact .inl same
          · exact .inr ⟨other, List.mem_cons_of_mem part listed, inside⟩

end

end RouterTelemetry.Url
