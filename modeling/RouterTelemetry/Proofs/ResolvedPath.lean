import Mathlib.Data.List.DropRight
import Mathlib.Tactic.MkIffOfInductiveProp
import RouterTelemetry.Proofs.PercentForm

/-!
# Resolved paths

The path of a web address consists of segments, each with a slash before it.  A segment is settled
when reading it again leaves it as it is: every character is plain and it is no dot segment.  All
segments of a path that has been read are settled, so such a path is read back unchanged.
-/

namespace RouterTelemetry.Url

/-- Segments with a slash before each. -/
def slashed (segments : List (List Char)) : List Char :=
  segments.flatMap ('/' :: ·)

@[simp]
theorem slashed_append (front tail : List (List Char)) :
    slashed (front ++ tail) = slashed front ++ slashed tail :=
  List.flatMap_append

theorem slash_joinWith {segments : List (List Char)} (some : segments ≠ []) :
    '/' :: joinWith '/' segments = slashed segments := by
  fun_induction joinWith '/' segments with
  | case1 => exact absurd rfl some
  | case2 segment => exact (List.append_nil _).symm
  | case3 segment rest more ih =>
      rw [slashed, List.flatMap_cons, ← slashed, ← ih more, List.cons_append]

theorem mem_slashed {segments : List (List Char)} {c : Char} (member : c ∈ slashed segments) :
    c = '/' ∨ ∃ segment ∈ segments, c ∈ segment := by
  obtain ⟨segment, listed, inside⟩ := List.mem_flatMap.mp member
  rcases List.mem_cons.mp inside with slash | inSegment
  · exact .inl slash
  · exact .inr ⟨segment, listed, inSegment⟩

/-! ## Settled segments -/

/-- Reading the segment again leaves it as it is. -/
@[mk_iff]
structure Settled (segment : List Char) : Prop where
  plain : ∀ c ∈ segment, Plain pathSet c
  whole : ∀ c ∈ segment, isSlash .web c = false
  notSingle : isSingleDot segment = false
  notDouble : isDoubleDot segment = false

theorem settled_iff_all (segment : List Char) :
    ((segment.all fun c => Plain pathSet c ∧ isSlash .web c = false) ∧
        isSingleDot segment = false ∧ isDoubleDot segment = false) ↔ Settled segment := by
  simp [settled_iff, forall_and, and_assoc]

instance (segment : List Char) : Decidable (Settled segment) :=
  decidable_of_iff _ (settled_iff_all segment)

theorem settled_nil : Settled [] := by decide

section

variable {segment : List Char} {segments path : List (List Char)}

theorem Settled.slash_notMem (settled : Settled segment) : '/' ∉ segment := fun member =>
  Bool.false_ne_true ((settled.whole '/' member).symm.trans rfl)

/-! ## Dot segments -/

theorem mem_of_mem_dropSegment (member : segment ∈ dropSegment path) : segment ∈ path := by
  cases path with
  | nil => exact member
  | cons last path =>
      rw [dropSegment] at member
      split_ifs at member
      · exact member
      · exact List.mem_cons_of_mem last member

/-- What a resolved path is made of. -/
theorem mem_resolve (member : segment ∈ resolve path segments) :
    segment ∈ path ∨ segment = [] ∨
      (segment ∈ segments ∧ isSingleDot segment = false ∧ isDoubleDot segment = false) := by
  fun_induction resolve path segments with
  | case1 path => exact .inl (List.mem_reverse.mp member)
  | case2 path last double =>
      rcases List.mem_cons.mp (List.mem_reverse.mp member) with rfl | before
      · exact .inr (.inl rfl)
      · exact .inl (mem_of_mem_dropSegment before)
  | case3 path last double single =>
      rcases List.mem_cons.mp (List.mem_reverse.mp member) with rfl | before
      · exact .inr (.inl rfl)
      · exact .inl before
  | case4 path last double single =>
      rcases List.mem_cons.mp (List.mem_reverse.mp member) with rfl | before
      · exact .inr (.inr ⟨List.mem_singleton_self _, Bool.eq_false_iff.mpr single,
          Bool.eq_false_iff.mpr double⟩)
      · exact .inl before
  | case5 path first rest more double ih =>
      rcases ih member with before | empty | ⟨later, noDots⟩
      · exact .inl (mem_of_mem_dropSegment before)
      · exact .inr (.inl empty)
      · exact .inr (.inr ⟨List.mem_cons_of_mem first later, noDots⟩)
  | case6 path first rest more double single ih =>
      rcases ih member with before | empty | ⟨later, noDots⟩
      · exact .inl before
      · exact .inr (.inl empty)
      · exact .inr (.inr ⟨List.mem_cons_of_mem first later, noDots⟩)
  | case7 path first rest more double single ih =>
      rcases ih member with before | empty | ⟨later, noDots⟩
      · rcases List.mem_cons.mp before with rfl | before
        · exact .inr (.inr ⟨List.mem_cons_self, Bool.eq_false_iff.mpr single,
            Bool.eq_false_iff.mpr double⟩)
        · exact .inl before
      · exact .inr (.inl empty)
      · exact .inr (.inr ⟨List.mem_cons_of_mem first later, noDots⟩)

theorem resolve_ne_nil (some : segments ≠ []) : resolve path segments ≠ [] := by
  fun_induction resolve path segments with
  | case1 path => exact absurd rfl some
  | case2 path last double => exact List.reverse_ne_nil_iff.mpr (List.cons_ne_nil _ _)
  | case3 path last double single => exact List.reverse_ne_nil_iff.mpr (List.cons_ne_nil _ _)
  | case4 path last double single => exact List.reverse_ne_nil_iff.mpr (List.cons_ne_nil _ _)
  | case5 path first rest more double ih => exact ih more
  | case6 path first rest more double single ih => exact ih more
  | case7 path first rest more double single ih => exact ih more

theorem resolve_of_settled (settled : ∀ segment ∈ segments, Settled segment) :
    resolve path segments = path.reverse ++ segments := by
  induction segments generalizing path with
  | nil => rw [resolve, List.append_nil]
  | cons segment rest ih =>
      obtain ⟨first, settled⟩ := List.forall_mem_cons.mp settled
      cases rest with
      | nil => simp [resolve, first.notDouble, first.notSingle]
      | cons next rest =>
          rw [resolve, if_neg (Bool.eq_false_iff.mp first.notDouble),
            if_neg (Bool.eq_false_iff.mp first.notSingle), ih settled, List.reverse_cons,
            List.append_assoc, List.singleton_append]
          exact List.cons_ne_nil _ _

/-! ## Reading -/

/-- A segment that was encoded and is no dot segment is settled. -/
theorem settled_encode (whole : ∀ c ∈ segment, isSlash .web c = false)
    (notSingle : isSingleDot (encode pathSet segment) = false)
    (notDouble : isDoubleDot (encode pathSet segment) = false) :
    Settled (encode pathSet segment) where
  plain _ member := plain_of_mem_encode escapesPlain_pathSet member
  whole c member := by
    rcases mem_encode member with ⟨inText, _⟩ | rfl | ⟨n, small, rfl⟩
    · exact whole c inText
    · rfl
    · have all : ∀ n < 16, isSlash .web (hexDigit n) = false := by decide
      exact all n small
  notSingle := notSingle
  notDouble := notDouble

/-- The segments that are made of a text without backslashes. -/
theorem settled_of_mem_body {body : List Char} (clear : ∀ c ∈ body, c ≠ '\\')
    (member : segment ∈ resolve [] ((splitAt '/' body).map (encode pathSet))) :
    Settled segment := by
  rcases mem_resolve member with before | rfl | ⟨listed, notSingle, notDouble⟩
  · cases before
  · exact settled_nil
  · obtain ⟨part, inBody, rfl⟩ := List.mem_map.mp listed
    refine settled_encode (fun c inPart => ?_) notSingle notDouble
    have notSlash : c ≠ '/' := by
      rintro rfl
      exact notMem_of_mem_splitAt inBody inPart
    simp [isSlash, notSlash, clear c (mem_of_mem_splitAt inBody inPart)]

/-- The path of a web address is made of settled segments. -/
theorem exists_settled_of_readPath (text : List Char) :
    ∃ segments ≠ [], (∀ segment ∈ segments, Settled segment) ∧
      readPath .web text = String.ofList (slashed segments) := by
  have clear : ∀ c ∈ text.map fun c => if isSlash .web c then '/' else c, c ≠ '\\' := by
    intro c member
    obtain ⟨letter, _, rfl⟩ := List.mem_map.mp member
    split_ifs with slash
    · decide
    · rintro rfl
      exact slash rfl
  rw [readPath]
  generalize (text.map fun c => if isSlash .web c then '/' else c) = written at clear
  cases written with
  | nil => exact ⟨[[]], List.cons_ne_nil _ _, by decide, rfl⟩
  | cons c rest =>
      have bodyClear : ∀ letter ∈ if c = '/' then rest else c :: rest, letter ≠ '\\' := by
        split_ifs
        · exact (List.forall_mem_cons.mp clear).2
        · exact clear
      have parts : (splitAt '/' (if c = '/' then rest else c :: rest)).map (encode pathSet) ≠ [] :=
        List.map_eq_nil_iff.not.mpr (splitAt_ne_nil '/' _)
      exact ⟨_, resolve_ne_nil parts, fun segment => settled_of_mem_body bodyClear,
        congrArg String.ofList (slash_joinWith (resolve_ne_nil parts))⟩

/-- A path of settled segments is read back. -/
theorem readPath_slashed (some : segments ≠ [])
    (settled : ∀ segment ∈ segments, Settled segment) :
    readPath .web (slashed segments) = String.ofList (slashed segments) := by
  have letters : ∀ c ∈ '/' :: joinWith '/' segments, (if isSlash .web c then '/' else c) = c := by
    intro c member
    rcases List.mem_cons.mp member with rfl | member
    · rfl
    rcases mem_joinWith member with rfl | ⟨segment, listed, inside⟩
    · rfl
    · rw [(settled segment listed).whole c inside, if_neg Bool.false_ne_true]
  have encoded : segments.map (encode pathSet) = segments :=
    (List.map_congr_left fun segment listed =>
      encode_of_plain (settled segment listed).plain).trans (List.map_id' segments)
  rw [← slash_joinWith some, readPath, List.map_congr_left letters, List.map_id']
  dsimp only
  rw [if_pos rfl, splitAt_joinWith some fun segment listed => (settled segment listed).slash_notMem,
    encoded, resolve_of_settled settled]
  rfl

/-! ## Slashes at the end -/

/-- Slashes at the end are empty segments. -/
theorem rdropWhile_slashed (whole : ∀ segment ∈ segments, '/' ∉ segment) :
    (slashed segments).rdropWhile (· == '/') = slashed (segments.rdropWhile List.isEmpty) := by
  induction segments using List.reverseRecOn with
  | nil => rfl
  | append_singleton segments segment ih =>
      rw [List.forall_mem_append] at whole
      rw [slashed_append]
      have single : slashed [segment] = '/' :: segment := List.append_nil _
      rw [single]
      rcases List.eq_nil_or_concat segment with rfl | ⟨front, c, rfl⟩
      · rw [List.rdropWhile_concat_pos _ _ _ (by rfl), List.rdropWhile_concat_pos _ _ _ (by rfl)]
        exact ih whole.1
      · have other : c ≠ '/' := by
          rintro rfl
          exact whole.2 _ (List.mem_singleton_self _) (by simp)
        rw [List.concat_eq_append, ← List.cons_append, ← List.append_assoc,
          List.rdropWhile_concat_neg _ _ _ (by simpa using other),
          List.rdropWhile_concat_neg _ _ _ (by simp)]
        simp [slashed]

end

end RouterTelemetry.Url
