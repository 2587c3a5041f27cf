import RouterTelemetry.Environment.File
import RouterTelemetry.Proofs.SeparatedText

/-!
# Variables written to an environment file

A line with a name, an equals sign and a quoted value sets that variable to that value, whatever
characters the value has.  Read as the first line of a file, it is as if the variable had been set
before the rest of the file was read.
-/

namespace RouterTelemetry.Environment

open Text

/-! ## Quoted values -/

/-- A character between double quotes. -/
def escapedChar (c : Char) : List Char :=
  if c = '\n' then ['\\', 'n']
  else if c = '\\' ∨ c = '"' ∨ c = '$' then ['\\', c]
  else [c]

/-- Characters between double quotes. -/
def escaped (value : List Char) : List Char :=
  value.flatMap escapedChar

/-- A value in double quotes. -/
def quotedValue (value : List Char) : List Char :=
  '"' :: (escaped value ++ ['"'])

theorem escaped_cons (c : Char) (value : List Char) :
    escaped (c :: value) = escapedChar c ++ escaped value :=
  rfl

/-- A character that is escaped stands for itself. -/
theorem valueFrom_escapedChar (environment : Environment) (c : Char) (rest : List Char) :
    valueFrom environment .text true (escapedChar c ++ rest) =
      (valueFrom environment .text true rest).map (c :: ·) := by
  rw [escapedChar]
  split_ifs with feed special
  · subst feed
    simp [valueFrom, unescape?]
  · rcases special with rfl | rfl | rfl <;> simp [valueFrom, unescape?]
  · rw [not_or, not_or] at special
    simp [valueFrom, special]

theorem valueFrom_escaped (environment : Environment) (value rest : List Char) :
    valueFrom environment .text true (escaped value ++ rest) =
      (valueFrom environment .text true rest).map (value ++ ·) := by
  induction value with
  | nil => simp [escaped]
  | cons c value ih =>
      rw [escaped_cons, List.append_assoc, valueFrom_escapedChar, ih, Option.map_map]
      rfl

/-- A quoted value is read as the value. -/
theorem valueFrom_quotedValue (environment : Environment) (value : List Char) :
    valueFrom environment .text false (quotedValue value) = some value := by
  have opened : valueFrom environment .text false (quotedValue value) =
      valueFrom environment .text true (escaped value ++ ['"']) := by
    simp [quotedValue, valueFrom]
  have closed : valueFrom environment .text true ['"'] = some [] := by
    simp [valueFrom, endValue]
  rw [opened, valueFrom_escaped, closed, Option.map_some, List.append_nil]

theorem newline_notMem_escaped (value : List Char) : '\n' ∉ escaped value := by
  rw [escaped, List.mem_flatMap]
  rintro ⟨c, _, member⟩
  rw [escapedChar] at member
  split_ifs at member with feed special
  · simp at member
  · rcases special with rfl | rfl | rfl <;> simp at member
  · exact feed (List.mem_singleton.mp member).symm

/-! ## Lines -/

/-- Within quotes a line stays so over what is escaped. -/
theorem scanLine_escaped (value rest : List Char) :
    scanLine .double (escaped value ++ rest) =
      (escaped value ++ (scanLine .double rest).1, (scanLine .double rest).2) := by
  induction value with
  | nil => rfl
  | cons c value ih =>
      rw [escaped_cons, List.append_assoc, List.append_assoc, escapedChar]
      split_ifs with feed special
      · simp [scanLine, Position.next, ih]
      · rcases special with rfl | rfl | rfl <;> simp [scanLine, Position.next, ih]
      · rw [not_or, not_or] at special
        simp [scanLine, Position.next, ih, special]

/-- The codes of the characters in names. -/
theorem toNat_of_isNameChar {c : Char} (named : isNameChar c = true) :
    46 ≤ c.toNat ∧ c.toNat ≤ 122 := by
  have isUpper : c.isUpper = decide (c.val ≥ 'A'.val ∧ c.val ≤ 'Z'.val) := rfl
  have isLower : c.isLower = (decide (c.val ≥ 'a'.val) && decide (c.val ≤ 'z'.val)) := rfl
  have isAlpha : c.isAlpha = (c.isUpper || c.isLower) := rfl
  simp only [isNameChar, Char.isAlphanum, isAlpha, isUpper, isLower, Char.isDigit,
    Bool.or_eq_true, Bool.and_eq_true, decide_eq_true_eq, UInt32.le_iff_toNat_le] at named
  rcases named with (((⟨low, high⟩ | ⟨low, high⟩) | ⟨low, high⟩) | rfl) | rfl
  · exact ⟨Nat.le_trans (by decide) low, Nat.le_trans high (by decide)⟩
  · exact ⟨Nat.le_trans (by decide) low, Nat.le_trans high (by decide)⟩
  · exact ⟨Nat.le_trans (by decide) low, Nat.le_trans high (by decide)⟩
  · decide
  · decide

theorem isBlank_of_isNameChar {c : Char} (named : isNameChar c = true) : isBlank c = false := by
  have range := toNat_of_isNameChar named
  simp only [isBlank, isBlankCode, Bool.or_eq_false_iff, Bool.and_eq_false_iff,
    decide_eq_false_iff_not, beq_eq_false_iff_ne]
  omega

theorem noHash_of_isNameChar {c : Char} (named : isNameChar c = true) : c ≠ '#' := by
  rintro rfl
  exact absurd named (by decide)

/-- A name stays outside of quotes. -/
theorem scanLine_name {name : List Char} (named : ∀ c ∈ name, isNameChar c = true)
    (rest : List Char) :
    scanLine .plain (name ++ rest) =
      (name ++ (scanLine .plain rest).1, (scanLine .plain rest).2) := by
  induction name with
  | nil => rfl
  | cons c name ih =>
      rw [List.forall_mem_cons] at named
      have blank := isBlank_of_isNameChar named.1
      have noSlash : c ≠ '\\' := by
        rintro rfl
        exact absurd named.1 (by decide)
      have noQuote : c ≠ '"' := by
        rintro rfl
        exact absurd named.1 (by decide)
      have noApostrophe : c ≠ '\'' := by
        rintro rfl
        exact absurd named.1 (by decide)
      have next : Position.next .plain c = .plain := by
        simp [Position.next, Position.opened, blank, noSlash, noQuote, noApostrophe]
      simp [scanLine, next, ih named.2]

theorem linesOf_append {line : List Char} (single : '\n' ∉ line) (current rest : List Char) :
    linesOf current (line ++ '\n' :: rest) = (current ++ line ++ ['\n']) :: linesOf [] rest := by
  induction line generalizing current with
  | nil => simp [linesOf]
  | cons c line ih =>
      rw [List.mem_cons, not_or] at single
      rw [List.cons_append, linesOf, if_neg (Ne.symm single.1), ih single.2]
      simp only [List.append_assoc, List.singleton_append]

/-! ## Assignments -/

/-- A name that a variable may have in a file. -/
def IsVariableName (name : List Char) : Prop :=
  ∃ c cs, name = c :: cs ∧ (c.isAlpha || c = '_') = true ∧ ∀ other ∈ cs, isNameChar other = true

/-- A line that sets a variable, without its line feed. -/
def assignment (name value : List Char) : List Char :=
  name ++ '=' :: quotedValue value

section

variable {name : List Char} (named : IsVariableName name) (value : List Char)

include named

theorem IsVariableName.isNameChar : ∀ c ∈ name, isNameChar c = true := by
  obtain ⟨c, cs, rfl, first, others⟩ := named
  rw [List.forall_mem_cons]
  refine ⟨?_, others⟩
  simp only [Bool.or_eq_true, decide_eq_true_eq] at first
  rcases first with letter | rfl
  · simp [Environment.isNameChar, Char.isAlphanum, letter]
  · rfl

theorem newline_notMem_assignment : '\n' ∉ assignment name value := by
  have inName : '\n' ∉ name := by
    intro member
    exact absurd (named.isNameChar _ member) (by decide)
  have inValue := newline_notMem_escaped value
  simp [assignment, quotedValue, inName, inValue]

theorem scanLine_assignment :
    scanLine .plain (assignment name value ++ ['\n']) =
      (assignment name value ++ ['\n'], some .plain) := by
  have ended : scanLine .double ['"', '\n'] = (['"', '\n'], some .plain) := by decide
  have quoted : scanLine .plain ('=' :: (quotedValue value ++ ['\n'])) =
      ('=' :: (quotedValue value ++ ['\n']), some .plain) := by
    have opened : ∀ rest, scanLine .plain ('=' :: '"' :: rest) =
        ('=' :: '"' :: (scanLine .double rest).1, (scanLine .double rest).2) := fun _ => rfl
    rw [quotedValue, List.cons_append, List.append_assoc, List.singleton_append, opened,
      scanLine_escaped, ended]
  rw [assignment, List.append_assoc, List.cons_append, scanLine_name named.isNameChar, quoted]

theorem exists_assignment_eq_cons :
    ∃ c cs, assignment name value = c :: cs ∧ Environment.isNameChar c = true := by
  have all := named.isNameChar
  obtain ⟨c, cs, rfl, _, _⟩ := named
  exact ⟨c, _, rfl, all c List.mem_cons_self⟩

/-- The line is taken from the file as it is. -/
theorem joinLines_assignment (lines : List (List Char)) :
    joinLines [] .plain ((assignment name value ++ ['\n']) :: lines) =
      some (assignment name value) :: joinLines [] .plain lines := by
  have noComment : ¬isComment (assignment name value ++ ['\n']) = true := by
    obtain ⟨c, cs, start, first⟩ := exists_assignment_eq_cons named value
    simp [isComment, start, isBlank_of_isNameChar first, noHash_of_isNameChar first]
  have ended : withoutLineEnd (assignment name value ++ ['\n']) = assignment name value := by
    simp [withoutLineEnd, assignment, quotedValue]
  rw [joinLines, List.nil_append, if_neg noComment, scanLine_assignment named value]
  simp only [ended]

theorem trimmed_assignment : trimmed (assignment name value) = assignment name value := by
  obtain ⟨c, cs, start, first⟩ := exists_assignment_eq_cons named value
  have ended : (assignment name value).reverse =
      '"' :: (name ++ '=' :: '"' :: escaped value).reverse := by
    simp [assignment, quotedValue]
  have noBlank : ¬isBlank c = true := by simp [isBlank_of_isNameChar first]
  rw [trimmed, start, List.dropWhile_cons_of_neg noBlank, ← start, ended,
    List.dropWhile_cons_of_neg (by decide), ← ended, List.reverse_reverse]

theorem readExport?_assignment :
    readExport? (assignment name value) = some (name, quotedValue value) := by
  obtain ⟨c, cs, rfl, first, others⟩ := named
  have stops : ∀ c ∈ ('=' :: quotedValue value).head?, Environment.isNameChar c = false := by
    rintro _ ⟨⟩
    rfl
  have found : readName? (assignment (c :: cs) value) =
      some (c :: cs, '=' :: quotedValue value) := by
    rw [assignment, List.cons_append, readName?, if_pos first,
      Url.takeWhile_append_of_head others stops, Url.dropWhile_append_of_head others stops]
  have target : readTarget? (assignment (c :: cs) value) = some (c :: cs, quotedValue value) := by
    rw [readTarget?, found]
    rfl
  rw [readExport?, target]

/-- The line assigns the value to the name. -/
theorem assignment?_assignment (environment : Environment) :
    assignment? environment (assignment name value) =
      some (some (String.ofList name, String.ofList value)) := by
  obtain ⟨c, cs, start, first⟩ := exists_assignment_eq_cons named value
  have notBare : ¬isBare (assignment name value) = true := by
    simp [isBare, start, noHash_of_isNameChar first]
  have valued : valueOf? environment (quotedValue value) = some (String.ofList value) := by
    have kept : (quotedValue value).dropWhile isBlank = quotedValue value :=
      List.dropWhile_cons_of_neg (by decide)
    have quoted : ¬isBare (quotedValue value) = true := by simp [isBare, quotedValue]
    simp only [valueOf?, kept, if_neg quoted, valueFrom_quotedValue, Option.map_some]
  simp only [assignment?, trimmed_assignment named value, if_neg notBare,
    readExport?_assignment named value, bind, Option.bind, valued]
  rfl

end

/-! ## Files -/

/-- A text that sets a variable before the rest of the file is read, unless it is set already. -/
def Sets (text name value : String) : Prop :=
  ∀ (environment : Environment) (rest : String), withoutMark rest.toList = rest.toList →
    environment.withFile (text ++ rest) = (environment.withDefault name value).withFile rest

/-- A line that sets a variable. -/
def assignmentLine (name value : String) : String :=
  String.ofList (assignment name.toList value.toList ++ ['\n'])

/-- A line with a quoted value sets its variable. -/
theorem sets_assignmentLine {name : String} (named : IsVariableName name.toList) (value : String) :
    Sets (assignmentLine name value) name value := by
  intro environment rest unmarked
  have whole : (assignmentLine name value ++ rest).toList =
      assignment name.toList value.toList ++ '\n' :: rest.toList := by simp [assignmentLine]
  have noMark : withoutMark (assignment name.toList value.toList ++ '\n' :: rest.toList) =
      assignment name.toList value.toList ++ '\n' :: rest.toList := by
    obtain ⟨c, cs, start, first⟩ := exists_assignment_eq_cons named value.toList
    rw [start, List.cons_append]
    refine withoutMark.eq_2 _ ?_
    rintro other ⟨rfl, _⟩
    exact absurd first (by decide)
  rw [withFile, withFile, whole, noMark, unmarked,
    linesOf_append (newline_notMem_assignment named value.toList), List.nil_append,
    joinLines_assignment named value.toList, setLines,
    assignment?_assignment named value.toList, String.ofList_toList, String.ofList_toList]

/-! ## Variables that are not set yet -/

theorem value?_append_of_ne {name other : String} (ne : other ≠ name) (value : String)
    (environment : Environment) :
    value? (environment ++ [(name, value)]) other = environment.value? other := by
  have differs : (other == name) = false := by simpa using ne
  simp [value?, List.lookup_append, List.lookup_cons, differs]

theorem withDefault_of_unset {environment : Environment} {name : String}
    (unset : environment.value? name = none) (value : String) :
    environment.withDefault name value = environment ++ [(name, value)] := by
  rw [withDefault, unset]

end RouterTelemetry.Environment
