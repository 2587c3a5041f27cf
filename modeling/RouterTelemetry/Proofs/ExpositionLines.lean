import Mathlib.Data.List.Nodup
import Mathlib.Data.List.Perm.Basic
import RouterTelemetry.Proofs.Admission

/-!
# The lines of the exposition

The exposition is a sequence of lines.  A label value is escaped, so it breaks no line, and
the lines of a family's help and type begin with a number sign.  What is left are the lines
of series: one for each series of the registry, and one for the availability.
-/

namespace RouterTelemetry

/-! ## Lines of a text -/

/-- Lines with a line feed after each of them. -/
def joinLines (lines : List (List Char)) : List Char :=
  lines.flatMap (· ++ ['\n'])

theorem splitOn_joinLines {lines : List (List Char)} (unbroken : ∀ line ∈ lines, '\n' ∉ line) :
    (joinLines lines).splitOn '\n' = lines ++ [[]] := by
  induction lines with
  | nil => simp [joinLines]
  | cons line rest ih =>
      rw [List.forall_mem_cons] at unbroken
      rw [joinLines, List.flatMap_cons, List.append_assoc, List.singleton_append,
        List.splitOn_append_cons_self_of_not_mem unbroken.1, ← joinLines, ih unbroken.2,
        List.cons_append]

theorem notMem_intercalate {c : Char} {separator : List Char} {texts : List (List Char)}
    (apart : c ∉ separator) (free : ∀ text ∈ texts, c ∉ text) :
    c ∉ separator.intercalate texts := by
  induction texts with
  | nil => simp
  | cons text rest ih =>
      rw [List.forall_mem_cons] at free
      cases rest with
      | nil => simpa using free.1
      | cons next later =>
          rw [List.intercalate_cons_cons, List.append_assoc, List.mem_append, List.mem_append,
            not_or, not_or]
          exact ⟨free.1, apart, ih free.2⟩

/-- The line is neither blank nor a comment. -/
def holdsSeries : List Char → Bool
  | [] => false
  | first :: _ => first != '#'

/-- The lines of an exposition that hold series. -/
def dataLines (text : String) : List String :=
  ((text.toList.splitOn '\n').filter holdsSeries).map String.ofList

theorem dataLines_of_toList_eq {text : String} {lines : List (List Char)}
    (unbroken : ∀ line ∈ lines, '\n' ∉ line) (written : text.toList = joinLines lines) :
    dataLines text = (lines.filter holdsSeries).map String.ofList := by
  rw [dataLines, written, splitOn_joinLines unbroken, List.filter_append]
  simp [holdsSeries]

/-! ## Values -/

/-- The characters of values beside digits. -/
def valueSigns : List Char :=
  ['.', '-', 'N', 'a', 'i', 'n', 'f']

namespace Decimal

theorem isDigit_of_mem_zeros {count : Nat} {c : Char} (member : c ∈ (zeros count).toList) :
    c.isDigit = true := by
  rw [zeros, String.toList_ofList] at member
  rw [List.eq_of_mem_replicate member]
  rfl

theorem valueChar_of_mem_layPositional {digits : List Char} {point : Int} {c : Char}
    (isDigit : ∀ d ∈ digits, d.isDigit = true)
    (member : c ∈ (layPositional false digits point).toList) :
    c.isDigit = true ∨ c ∈ valueSigns := by
  simp only [layPositional, Bool.false_eq_true, if_false] at member
  split_ifs at member
  · simp only [String.toList_append, List.mem_append, String.toList_ofList] at member
    rcases member with (lead | zero) | digit
    · rcases List.mem_cons.mp lead with rfl | point
      · exact .inl rfl
      · rw [List.mem_singleton.mp point]
        exact .inr (by decide)
    · exact .inl (isDigit_of_mem_zeros zero)
    · exact .inl (isDigit c digit)
  · simp only [String.toList_append, List.mem_append, String.toList_ofList] at member
    rcases member with (digit | zero) | nothing
    · exact .inl (isDigit c digit)
    · exact .inl (isDigit_of_mem_zeros zero)
    · cases nothing
  · simp only [String.toList_append, List.mem_append, String.toList_ofList] at member
    rcases member with (digit | point) | digit
    · exact .inl (isDigit c (List.mem_of_mem_take digit))
    · rw [List.mem_singleton.mp point]
      exact .inr (by decide)
    · exact .inl (isDigit c (List.mem_of_mem_drop digit))

/-- A published value is written with digits and a few signs. -/
theorem valueChar_of_mem_render {value : Float} {c : Char}
    (member : c ∈ (exposed.render value).toList) : c.isDigit = true ∨ c ∈ valueSigns := by
  unfold Style.render at member
  cases datum : Datum.ofFloat value with
  | nan =>
      rw [datum] at member
      have signs : ['N', 'a', 'N'] ⊆ valueSigns := by decide
      exact .inr (signs member)
  | infinite negative =>
      rw [datum] at member
      have signs : ['-', 'i', 'n', 'f'] ⊆ valueSigns := by decide
      cases negative with
      | true => exact .inr (signs member)
      | false => exact .inr (signs (List.mem_cons_of_mem '-' member))
  | finite negative magnitude =>
      simp only [datum, String.toList_append, List.mem_append] at member
      rcases member with sign | figure
      · cases negative with
        | true =>
            rw [List.mem_singleton.mp sign]
            exact .inr (by decide)
        | false => cases sign
      · unfold Style.magnitude at figure
        split at figure
        · rw [List.mem_singleton.mp figure]
          exact .inl rfl
        · refine valueChar_of_mem_layPositional (fun d inside => ?_) figure
          exact Nat.isDigit_of_mem_toDigits (by decide) (by decide) inside

end Decimal

theorem newline_notMem_render (value : Float) : '\n' ∉ (Decimal.exposed.render value).toList := by
  intro member
  rcases Decimal.valueChar_of_mem_render member with digit | sign
  · exact absurd digit (by decide)
  · exact absurd sign (by decide)

/-! ## Lines of series -/

/-- An escaped label value breaks no line. -/
theorem newline_notMem_escapeLabel (value : String) : '\n' ∉ (escapeLabel value).toList := by
  rw [escapeLabel, String.toList_ofList, List.mem_flatMap]
  rintro ⟨c, _, member⟩
  unfold escapeLabelChar at member
  split_ifs at member with slash feed quote
  · simp at member
  · simp at member
  · simp at member
  · exact feed (List.mem_singleton.mp member).symm

/-- The line of a series without its end. -/
def bareLine (name : String) (labels : Labels) (value : Float) : List Char :=
  (seriesLine name labels value).toList.dropLast

theorem toList_seriesLine (name : String) (labels : Labels) (value : Float) :
    (seriesLine name labels value).toList = bareLine name labels value ++ ['\n'] := by
  rw [bareLine, seriesLine, String.toList_append]
  exact (congrArg (· ++ ['\n']) List.dropLast_concat).symm

theorem ofList_bareLine_append (name : String) (labels : Labels) (value : Float) :
    String.ofList (bareLine name labels value) ++ "\n" = seriesLine name labels value := by
  apply String.toList_injective
  rw [toList_seriesLine, String.toList_append, String.toList_ofList]
  rfl

/-- What stands between the name and the value of a series breaks no line. -/
theorem newline_notMem_bareLine {name : String} {labels : Labels} (value : Float)
    (nameUnbroken : '\n' ∉ name.toList) (unbroken : ∀ label ∈ labels, '\n' ∉ label.1.toList) :
    '\n' ∉ bareLine name labels value := by
  rw [bareLine, seriesLine, String.toList_append]
  refine (congrArg ('\n' ∉ ·) List.dropLast_concat).mpr ?_
  simp only [String.toList_append, List.mem_append, not_or]
  refine ⟨⟨⟨nameUnbroken, ?_⟩, by decide⟩, newline_notMem_render value⟩
  split
  · decide
  · simp only [String.toList_append, List.mem_append, not_or, String.toList_intercalate]
    refine ⟨⟨by decide, notMem_intercalate (by decide) ?_⟩, by decide⟩
    simp only [List.map_map, List.forall_mem_map, Function.comp_apply, String.toList_append,
      List.mem_append, not_or]
    intro label member
    exact ⟨⟨⟨unbroken label member, by decide⟩, newline_notMem_escapeLabel label.2⟩, by decide⟩

/-- The line of a series begins with its name. -/
theorem holdsSeries_bareLine {name : String} {first : Char} (labels : Labels) (value : Float)
    (begins : name.toList.head? = some first) (noComment : first ≠ '#') :
    holdsSeries (bareLine name labels value) = true := by
  obtain ⟨rest, nameEq⟩ := List.head?_eq_some_iff.mp begins
  rw [bareLine, seriesLine, String.toList_append]
  refine (congrArg (holdsSeries · = true) List.dropLast_concat).mpr ?_
  simp [nameEq, holdsSeries, noComment]

/-! ## Families -/

/-- The texts of a family break no line, and its name does not begin like a comment. -/
structure Family.Plain (family : Family) : Prop where
  name : '\n' ∉ family.fullName.toList
  help : '\n' ∉ family.help.toList
  labels : ∀ label ∈ family.labels, '\n' ∉ label.toList
  begins : family.fullName.toList.head? = some 'b'

/-- A line feed of a text is one of its bytes.  Bytes of a literal are at hand, while its
characters have to be decoded. -/
theorem newline_notMem_toList {text : String} (absent : 10 ∉ text.toByteArray.data.toList) :
    '\n' ∉ text.toList := by
  intro member
  rw [← String.utf8Encode_toList, List.utf8Encode, List.data_toByteArray] at absent
  have encoded : (10 : UInt8) ∈ String.utf8EncodeChar '\n' := by decide
  exact absent (by simpa using ⟨'\n', member, encoded⟩)

theorem Family.plain_of_mem {family : Family} (member : family ∈ up :: families) :
    family.Plain := by
  have table : ∀ family ∈ up :: families,
      10 ∉ family.name.toByteArray.data.toList ∧ 10 ∉ family.help.toByteArray.data.toList ∧
        ∀ label ∈ family.labels, 10 ∉ label.toByteArray.data.toList := by
    decide +kernel
  obtain ⟨name, help, labels⟩ := table family member
  constructor
  · simp only [fullName, metricSpace, String.toList_append, List.mem_append, not_or]
    exact ⟨by decide, newline_notMem_toList name⟩
  · exact newline_notMem_toList help
  · exact fun label inside => newline_notMem_toList (labels label inside)
  · simp [fullName, metricSpace]

theorem exposedFamilies_perm : exposedFamilies.Perm (Family.up :: families) :=
  List.mergeSort_perm _ _

/-- The lines of a family without their ends. -/
def familyLines (family : Family) (series : List Series) : List (List Char) :=
  if series.isEmpty then
    []
  else
    ("# HELP " ++ family.fullName ++ " " ++ family.help).toList ::
      ("# TYPE " ++ family.fullName ++ " gauge").toList ::
        (series.mergeSort Series.le).map fun one => bareLine family.fullName one.labels one.value

theorem toList_familyText (family : Family) (series : List Series) :
    (familyText family series).toList = joinLines (familyLines family series) := by
  unfold familyText familyLines
  split
  · rfl
  · simp only [String.toList_append, String.toList_join, joinLines, List.flatMap_cons,
      List.flatMap_map, toList_seriesLine, List.append_assoc]
    rfl

theorem Series.mem_labels {series : Series} {label : String × String}
    (member : label ∈ series.labels) : label.1 ∈ series.family.labels :=
  (List.of_mem_zip (List.mem_mergeSort.mp member)).1

section

variable {family : Family} {series : List Series}

theorem unbroken_familyLines (plain : family.Plain) (each : ∀ one ∈ series, one.family.Plain) :
    ∀ line ∈ familyLines family series, '\n' ∉ line := by
  unfold familyLines
  split
  · exact nofun
  · rw [List.forall_mem_cons, List.forall_mem_cons, List.forall_mem_map]
    simp only [String.toList_append, List.mem_append, not_or]
    refine ⟨⟨⟨⟨by decide, plain.name⟩, by decide⟩, plain.help⟩,
      ⟨⟨by decide, plain.name⟩, by decide⟩, ?_⟩
    intro one member
    have onePlain := each one (List.mem_mergeSort.mp member)
    exact newline_notMem_bareLine one.value plain.name fun label inside =>
      onePlain.labels label.1 (Series.mem_labels inside)

/-- Help and type are comments, the rest are lines of series. -/
theorem filter_familyLines (plain : family.Plain) :
    (familyLines family series).filter holdsSeries =
      (series.mergeSort Series.le).map fun one =>
        bareLine family.fullName one.labels one.value := by
  unfold familyLines
  split
  next empty =>
    rw [List.isEmpty_iff.mp empty, List.mergeSort_nil]
    rfl
  next =>
    have comment (text : String) : holdsSeries ("# " ++ text).toList = false := by
      simp [holdsSeries]
    have help := comment ("HELP " ++ family.fullName ++ " " ++ family.help)
    have type := comment ("TYPE " ++ family.fullName ++ " gauge")
    simp only [← String.append_assoc] at help type
    rw [List.filter_cons_of_neg (by simpa using help),
      List.filter_cons_of_neg (by simpa using type),
      List.filter_eq_self]
    rw [List.forall_mem_map]
    exact fun one _ => holdsSeries_bareLine one.labels one.value plain.begins (by decide)

end

/-! ## Registries -/

/-- The line of a series. -/
def Series.text (series : Series) : String :=
  seriesLine series.family.fullName series.labels series.value

namespace Registry

variable {registry : Registry}

theorem toList_render (registry : Registry) :
    registry.render.toList =
      joinLines (exposedFamilies.flatMap fun family =>
        familyLines family (registry.seriesOf family)) := by
  simp only [render, String.toList_join, List.flatMap_map, toList_familyText, joinLines,
    List.flatMap_assoc]

theorem plain_of_mem_seriesOf (known : registry.Known) {family : Family} {one : Series}
    (member : one ∈ registry.seriesOf family) : one.family.Plain := by
  unfold seriesOf at member
  split at member
  · rw [List.mem_singleton.mp member]
    exact Family.plain_of_mem List.mem_cons_self
  · exact Family.plain_of_mem (List.mem_cons_of_mem _ (known one (List.mem_filter.mp member).1))

theorem fullName_of_mem_seriesOf {family : Family} {one : Series}
    (member : one ∈ registry.seriesOf family) : one.family.fullName = family.fullName := by
  unfold seriesOf at member
  split at member
  next up => rw [List.mem_singleton.mp member, up]
  next =>
    have named : one.family.name = family.name := by simpa using (List.mem_filter.mp member).2
    rw [Family.fullName, named, Family.fullName]

/-- The lines of series, family by family. -/
theorem dataLines_render (known : registry.Known) :
    (dataLines registry.render).map (· ++ "\n") =
      exposedFamilies.flatMap fun family =>
        ((registry.seriesOf family).mergeSort Series.le).map Series.text := by
  have plain {family : Family} (member : family ∈ exposedFamilies) : family.Plain :=
    Family.plain_of_mem (exposedFamilies_perm.subset member)
  have unbroken : ∀ line ∈ exposedFamilies.flatMap fun family =>
      familyLines family (registry.seriesOf family), '\n' ∉ line := by
    intro line member
    obtain ⟨family, familyMember, lineMember⟩ := List.mem_flatMap.mp member
    exact unbroken_familyLines (plain familyMember) (fun _ => plain_of_mem_seriesOf known) line
      lineMember
  rw [dataLines_of_toList_eq unbroken (toList_render registry), List.filter_flatMap,
    List.map_map, List.map_flatMap]
  refine List.flatMap_congr fun family member => ?_
  rw [filter_familyLines (plain member), List.map_map]
  refine List.map_congr_left fun one inside => ?_
  have named := fullName_of_mem_seriesOf (List.mem_mergeSort.mp inside)
  rw [Function.comp_apply, Function.comp_apply, ofList_bareLine_append, Series.text, named]

end Registry

/-- Items gathered under distinct keys, of which every item has one, are all the items. -/
theorem flatMap_filter_perm {α κ : Type} [DecidableEq κ] {keys : List κ} (distinct : keys.Nodup)
    (key : α → κ) {items : List α} (covered : ∀ item ∈ items, key item ∈ keys) :
    (keys.flatMap fun k => items.filter (key · == k)).Perm items := by
  induction keys generalizing items with
  | nil =>
      cases items with
      | nil => exact .refl _
      | cons item rest => exact nomatch covered item List.mem_cons_self
  | cons k rest ih =>
      obtain ⟨new, distinctRest⟩ := List.nodup_cons.mp distinct
      have others : ∀ item ∈ items.filter (fun item => !(key item == k)), key item ∈ rest := by
        intro item member
        obtain ⟨inside, apart⟩ := List.mem_filter.mp member
        exact (List.mem_cons.mp (covered item inside)).resolve_left (by simpa using apart)
      have later : (rest.flatMap fun k' => items.filter (key · == k')) =
          rest.flatMap fun k' =>
            (items.filter fun item => !(key item == k)).filter (key · == k') := by
        refine List.flatMap_congr fun k' member => ?_
        rw [List.filter_filter]
        refine List.filter_congr fun item _ => ?_
        have apart : k' ≠ k := fun same => new (same ▸ member)
        by_cases here : key item = k' <;> simp [here, apart]
      rw [List.flatMap_cons, later]
      exact ((ih distinctRest others).append_left _).trans (List.filter_append_perm _ _)

namespace Registry

variable {registry : Registry}

theorem familyNames_nodup : ((Family.up :: families).map Family.name).Nodup := by
  refine List.Nodup.of_map (metricSpace ++ "_" ++ ·) ?_
  rw [List.map_map]
  exact fullNames_nodup

/-- The exposition has one line for the availability and one for each series. -/
theorem dataLines_render_perm (known : registry.Known) :
    ((dataLines registry.render).map (· ++ "\n")).Perm
      (Series.text ⟨.up, [], registry.up⟩ :: registry.series.map Series.text) := by
  have upOnly : registry.seriesOf .up = [⟨.up, [], registry.up⟩] := if_pos rfl
  obtain ⟨upNew, distinct⟩ := List.nodup_cons.mp familyNames_nodup
  have noUp : ∀ family ∈ families, family ≠ .up := fun family member same =>
    upNew (same ▸ List.mem_map_of_mem member)
  have ofFamily : (families.flatMap fun family => registry.seriesOf family) =
      (families.map Family.name).flatMap fun name =>
        registry.series.filter (·.family.name == name) := by
    rw [List.flatMap_map]
    exact List.flatMap_congr fun family member => if_neg (noUp family member)
  have covered : ∀ one ∈ registry.series, one.family.name ∈ families.map Family.name :=
    fun one member => List.mem_map_of_mem (known one member)
  have gathered :
      (families.flatMap fun family => registry.seriesOf family).Perm registry.series := by
    rw [ofFamily]
    exact flatMap_filter_perm distinct (fun one : Series => one.family.name) covered
  have sorted : (exposedFamilies.flatMap fun family =>
        ((registry.seriesOf family).mergeSort Series.le).map Series.text).Perm
      (exposedFamilies.flatMap fun family => (registry.seriesOf family).map Series.text) :=
    List.Perm.flatMap_left _ fun family _ => (List.mergeSort_perm _ _).map _
  rw [dataLines_render known]
  refine (sorted.trans (exposedFamilies_perm.flatMap_right _)).trans ?_
  rw [← List.map_flatMap, List.flatMap_cons, upOnly, List.singleton_append, List.map_cons]
  exact (gathered.map _).cons _

end Registry

end RouterTelemetry
