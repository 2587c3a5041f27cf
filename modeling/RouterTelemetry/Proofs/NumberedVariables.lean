import RouterTelemetry.Proofs.QuotedLiteral
import RouterTelemetry.Settings.Load

/-!
# Variables of items

The name of a variable may end in positions, each written in brackets.  Such a variable sets the
item at that position.
-/

namespace RouterTelemetry

namespace Settings

/-! ## Names with a suffix -/

/-- Single underscores are left. -/
theorem dotted_of_notMem {cs : List Char} (plain : '_' ∉ cs) : dotted cs = cs := by
  induction cs with
  | nil => rfl
  | cons c cs ih =>
      rw [List.mem_cons, not_or] at plain
      rw [dotted, ih plain.2]
      rintro _ rfl
      exact absurd rfl plain.1

theorem dotted_append (cs : List Char) {rest : List Char} (plain : '_' ∉ rest) :
    dotted (cs ++ rest) = dotted cs ++ rest := by
  fun_induction dotted cs with
  | case1 cs ih => rw [List.cons_append, List.cons_append, dotted, ih, List.cons_append]
  | case2 c cs single ih =>
      -- A suffix does not start with an underscore, so it makes no pair with the last one.
      have stillSingle : ∀ more, c = '_' → cs ++ rest = '_' :: more → False := by
        intro more isUnderscore pair
        cases cs with
        | nil => exact plain (by rw [← List.nil_append rest, pair]; exact List.mem_cons_self)
        | cons next cs =>
            cases pair
            exact single cs isUnderscore rfl
      rw [List.cons_append, dotted, ih, List.cons_append]
      exact stillSingle
  | case3 => exact dotted_of_notMem plain

theorem toList_toLower (text : String) : text.toLower.toList = text.toList.map Char.toLower :=
  String.toList_map

/-- What follows the name of a variable follows the name of its setting. -/
theorem settingName?_append {name setting suffix : String}
    (sets : settingName? name = some setting)
    (lower : suffix.toList.map Char.toLower = suffix.toList) (plain : '_' ∉ suffix.toList) :
    settingName? (name ++ suffix) = some (setting ++ suffix) := by
  have whole : (name ++ suffix).toLower.toList = name.toLower.toList ++ suffix.toList := by
    rw [toList_toLower, toList_toLower, String.toList_append, List.map_append, lower]
  rw [settingName?] at sets ⊢
  rw [whole]
  split at sets
  next starts =>
    obtain ⟨rest, isRest⟩ := List.isPrefixOf_iff_prefix.mp starts
    cases sets
    have still : variableStart.isPrefixOf (name.toLower.toList ++ suffix.toList) = true :=
      List.isPrefixOf_iff_prefix.mpr ⟨rest ++ suffix.toList, by rw [← isRest, List.append_assoc]⟩
    rw [if_pos still, ← isRest, List.append_assoc, List.drop_left, List.drop_left,
      dotted_append rest plain, String.ofList_append, String.ofList_toList]
  · cases sets

end Settings

namespace Setting

open Settings

/-! ## Positions -/

/-- A position in brackets. -/
def bracketed (index : Nat) : String :=
  "[" ++ toString index ++ "]"

theorem toList_bracketed (index : Nat) :
    (bracketed index).toList = '[' :: (Nat.toDigits 10 index ++ [']']) := by
  simp [bracketed]

theorem isDigit_of_mem (index : Nat) : ∀ c ∈ Nat.toDigits 10 index, c.isDigit = true :=
  fun _ => Nat.isDigit_of_mem_toDigits (by decide) (by decide)

theorem eq_bracket_or_isDigit_of_mem {index : Nat} {c : Char}
    (member : c ∈ (bracketed index).toList) : c = '[' ∨ c = ']' ∨ c.isDigit = true := by
  rw [toList_bracketed, List.mem_cons, List.mem_append, List.mem_singleton] at member
  rcases member with bracket | digit | bracket
  · exact .inl bracket
  · exact .inr (.inr (isDigit_of_mem index c digit))
  · exact .inr (.inl bracket)

theorem map_toLower_bracketed (index : Nat) :
    (bracketed index).toList.map Char.toLower = (bracketed index).toList := by
  refine (List.map_congr_left fun c member => ?_).trans (List.map_id _)
  rcases eq_bracket_or_isDigit_of_mem member with rfl | rfl | digit
  · rfl
  · rfl
  · exact Json.toLower_of_isDigit digit

theorem notMem_bracketed {mark : Char} (other : mark ≠ '[' ∧ mark ≠ ']' ∧ mark.isDigit = false)
    (index : Nat) : mark ∉ (bracketed index).toList := by
  intro member
  rcases eq_bracket_or_isDigit_of_mem member with bracket | bracket | digit
  · exact other.1 bracket
  · exact other.2.1 bracket
  · exact absurd digit (Bool.eq_false_iff.mp other.2.2)

/-- The number of some digits is the same as an integer. -/
theorem foldl_digits {digits : List Char} (all : ∀ c ∈ digits, c.isDigit = true) (start : Nat) :
    digits.foldl (fun (n : Int) c => 10 * n + (c.toNat - 48)) start =
      (digits.foldl (fun n c => 10 * n + (c.toNat - '0'.toNat)) start : Nat) := by
  induction digits generalizing start with
  | nil => rfl
  | cons c digits ih =>
      rw [List.forall_mem_cons] at all
      have digit := all.1
      simp only [Char.isDigit, Bool.and_eq_true, decide_eq_true_eq, ge_iff_le,
        UInt32.le_iff_toNat_le] at digit
      have low : 48 ≤ c.toNat := digit.1
      have step : 10 * (start : Int) + (c.toNat - 48) =
          (10 * start + (c.toNat - '0'.toNat) : Nat) := by
        have zero : '0'.toNat = 48 := rfl
        omega
      rw [List.foldl_cons, List.foldl_cons, step]
      exact ih all.2 _

theorem readPosition?_toDigits {index : Nat} (inRange : index < 0x8000000000000000)
    (rest : List Char) :
    readPosition? (Nat.toDigits 10 index ++ ']' :: rest) = some ((index : Int), rest) := by
  have all := isDigit_of_mem index
  have taken : (Nat.toDigits 10 index ++ ']' :: rest).takeWhile Char.isDigit =
      Nat.toDigits 10 index := by
    rw [List.takeWhile_append_of_pos all]
    simp
  have left : (Nat.toDigits 10 index ++ ']' :: rest).dropWhile Char.isDigit = ']' :: rest := by
    rw [List.dropWhile_append_of_pos all]
    rfl
  have value : (Nat.toDigits 10 index).foldl (fun (n : Int) c => 10 * n + (c.toNat - 48)) 0 =
      index := by
    have digits := foldl_digits all 0
    rw [← Nat.ofDigitChars_eq_foldl, Nat.ofDigitChars_ten_toDigits] at digits
    exact digits
  obtain ⟨digit, digits, start⟩ : ∃ digit digits, Nat.toDigits 10 index = digit :: digits :=
    List.exists_cons_of_ne_nil Nat.toDigits_ne_nil
  have unsigned : digit ≠ '-' := by
    rintro rfl
    exact absurd (all '-' (by rw [start]; exact List.mem_cons_self)) (by decide)
  rw [start] at taken left value ⊢
  have noSign : ∀ cs, digit :: digits ++ ']' :: rest = '-' :: cs → False :=
    fun _ same => unsigned (List.cons.inj same).1
  rw [readPosition?]
  · have small : positionInRange? index = some (index : Int) := by
      rw [positionInRange?, if_pos (by omega)]
    rw [taken, left]
    simp only [value]
    exact congrArg (Option.bind · fun position => some (position, rest)) small
  · exact noSign

theorem readKey?_append {key : List Char} (nonempty : key ≠ [])
    (all : ∀ c ∈ key, isKeyChar c = true) {mark : Char} (stop : isKeyChar mark = false)
    (rest : List Char) :
    readKey? (key ++ mark :: rest) = some (String.ofList key, mark :: rest) := by
  have taken : (key ++ mark :: rest).takeWhile isKeyChar = key := by
    rw [List.takeWhile_append_of_pos all]
    simp [stop]
  have left : (key ++ mark :: rest).dropWhile isKeyChar = mark :: rest := by
    rw [List.dropWhile_append_of_pos all]
    simp [stop]
  rw [readKey?, taken, left]
  split
  · exact absurd rfl nonempty
  · rfl

/-! ## Places -/

/-- A key, and then further steps. -/
theorem readSteps?_key {key : List Char} (nonempty : key ≠ [])
    (all : ∀ c ∈ key, isKeyChar c = true) {mark : Char} (stop : isKeyChar mark = false)
    {rest : List Char} {place : Place} (steps : readSteps? (mark :: rest) = some place) :
    readSteps? ('.' :: (key ++ mark :: rest)) = some (.key (String.ofList key) :: place) := by
  rw [readSteps?, readKey?_append nonempty all stop]
  simp [steps]

/-- A position, and then further steps. -/
theorem readSteps?_position {index : Nat} (inRange : index < 0x8000000000000000)
    {rest : List Char} {place : Place} (steps : readSteps? rest = some place) :
    readSteps? ((bracketed index).toList ++ rest) = some (.position index :: place) := by
  rw [toList_bracketed, List.cons_append, List.append_assoc, readSteps?,
    List.singleton_append, readPosition?_toDigits inRange]
  simp [steps]
  omega

theorem placeOf_key (key : List Char) (nonempty : key ≠ [])
    (all : ∀ c ∈ key, isKeyChar c = true) {mark : Char} (stop : isKeyChar mark = false)
    {rest : List Char} {place : Place} (steps : readSteps? (mark :: rest) = some place)
    {name : String} (isName : name.toList = key ++ mark :: rest) :
    placeOf name = .key (String.ofList key) :: place := by
  rw [placeOf, isName, readPlace?, readKey?_append nonempty all stop]
  simp [steps]

/-- The places of names that end in a position. -/
theorem placeOf_item {index : Nat} (inRange : index < 0x8000000000000000) :
    placeOf ("bbox.wireless_bands" ++ bracketed index) =
        [.key "bbox", .key "wireless_bands", .position index] ∧
      placeOf ("bbox[3]" ++ bracketed index) = [.key "bbox", .position 3, .position index] := by
  have last : readSteps? (bracketed index).toList = some [.position index] := by
    have ending : readSteps? [] = some [] := by rw [readSteps?]
    have steps := readSteps?_position inRange ending
    rwa [List.append_nil] at steps
  have table : ∀ c ∈ "bbox".toList, isKeyChar c = true := List.all_eq_true.mp (by decide)
  constructor
  · have list : readSteps? ('.' :: ("wireless_bands".toList ++ (bracketed index).toList)) =
        some [.key "wireless_bands", .position index] := by
      rw [toList_bracketed] at last ⊢
      exact readSteps?_key (by decide) (List.all_eq_true.mp (by decide)) (by decide) last
    exact placeOf_key "bbox".toList (by decide) table (by decide) list (by simp)
  · have third : readSteps? ((bracketed 3).toList ++ (bracketed index).toList) =
        some [.position 3, .position index] := readSteps?_position (by decide) last
    have three : Nat.toDigits 10 3 = ['3'] := by decide
    rw [toList_bracketed, three, List.cons_append] at third
    exact placeOf_key "bbox".toList (by decide) table (by decide) third (by simp)

/-! ## Ports -/

theorem countOfText?_toString (n : Nat) : countOfText? (toString n) = some n := by
  have isText : (toString n).toList = Nat.toDigits 10 n := by simp
  have allDigits : (Nat.toDigits 10 n).all Char.isDigit = true :=
    List.all_eq_true.mpr (isDigit_of_mem n)
  have unsigned : ∀ cs, Nat.toDigits 10 n = '+' :: cs → False := by
    intro cs plus
    have digit := isDigit_of_mem n '+' (by rw [plus]; exact List.mem_cons_self)
    exact absurd digit (by decide)
  rw [countOfText?, isText]
  split
  next cs plus => exact (unsigned cs plus).elim
  next =>
    have nonempty : (Nat.toDigits 10 n).isEmpty = false := by simp
    rw [nonempty, allDigits, ← Nat.ofDigitChars_eq_foldl, Nat.ofDigitChars_ten_toDigits]
    rfl

/-- A number is none of the words. -/
theorem toLower_toString_notMem (n : Nat) {words : List String}
    (letters : ∀ word ∈ words, word.toList.head?.any Char.isDigit = false) :
    words.contains (toString n).toLower = false := by
  rw [List.contains_eq_mem, decide_eq_false_iff_not]
  intro member
  have letter := letters _ member
  have lowered : (toString n).toLower.toList = (Nat.toDigits 10 n).map Char.toLower := by
    rw [Settings.toList_toLower]
    simp
  obtain ⟨digit, digits, start⟩ : ∃ digit digits, Nat.toDigits 10 n = digit :: digits :=
    List.exists_cons_of_ne_nil Nat.toDigits_ne_nil
  have isDigit : digit.isDigit = true :=
    isDigit_of_mem n digit (by rw [start]; exact List.mem_cons_self)
  rw [lowered, start, List.map_cons, Json.toLower_of_isDigit isDigit] at letter
  exact absurd isDigit (Bool.eq_false_iff.mp letter)

/-- A port is read as it is written. -/
theorem port?_toString (port : UInt16) : port? (.text (toString port.toNat)) = some port := by
  have noTrue : trueWords.contains (toString port.toNat).toLower = false :=
    toLower_toString_notMem _ (by decide)
  have noFalse : falseWords.contains (toString port.toNat).toLower = false :=
    toLower_toString_notMem _ (by decide)
  have count : count? (.text (toString port.toNat)) = some port.toNat := by
    rw [count?, noTrue, noFalse]
    exact countOfText?_toString port.toNat
  rw [port?, count]
  have small : port.toNat < 0x10000 := port.toNat_lt
  simp [small]

end Setting

end RouterTelemetry
