import RouterTelemetry.Proofs.ExpositionLines
import RouterTelemetry.Proofs.WrittenValue

/-!
# Reading the exposition

A reader of the text format, written from the format alone: it knows no family and no label.  It
goes through a line character by character and keeps where it is and what it has read.  The line of
a series takes it from place to place to the value, whatever stands in the label values, so what it
has read in the end are the name, the labels and the value of the series.
-/

namespace RouterTelemetry

/-! ## The reader -/

/-- A sample as it is read off a line. -/
structure Reading where
  name : String
  labels : Labels
  value : Float
  time : Option Int

namespace Reading

/-- A blank between the parts of a line. -/
def isBlank (c : Char) : Bool :=
  c == ' ' || c == '\t'

/-- The first character of the name of a metric. -/
def startsName (c : Char) : Bool :=
  c.isAlpha || c == '_' || c == ':'

/-- A later character of the name of a metric. -/
def continuesName (c : Char) : Bool :=
  startsName c || c.isDigit

/-- The first character of the name of a label. -/
def startsLabel (c : Char) : Bool :=
  c.isAlpha || c == '_'

/-- A later character of the name of a label. -/
def continuesLabel (c : Char) : Bool :=
  startsLabel c || c.isDigit

/-- What a backslash and a character stand for. -/
def unescape? : Char → Option Char
  | '\\' => some '\\'
  | 'n' => some '\n'
  | '"' => some '"'
  | _ => none

/-- Where the reader is in a line, with what it has read. -/
inductive Place where
  | start
  | inName (name : List Char)
  | afterName (name : List Char)
  | beforeLabel (name : List Char) (labels : Labels)
  | inLabel (name : List Char) (labels : Labels) (label : List Char)
  | afterLabel (name : List Char) (labels : Labels) (label : List Char)
  | beforeText (name : List Char) (labels : Labels) (label : List Char)
  | inText (name : List Char) (labels : Labels) (label text : List Char)
  | inEscape (name : List Char) (labels : Labels) (label text : List Char)
  | afterText (name : List Char) (labels : Labels)
  | inTail (name : List Char) (labels : Labels) (rest : List Char)

/-- Where one more character takes the reader, if the format allows it there. -/
def Place.step : Place → Char → Option Place
  | .start, c =>
      if isBlank c then some .start
      else if startsName c then some (.inName [c])
      else none
  | .inName name, c =>
      if continuesName c then some (.inName (name ++ [c]))
      else if isBlank c then some (.afterName name)
      else if c = '{' then some (.beforeLabel name [])
      else none
  | .afterName name, c =>
      if isBlank c then some (.afterName name)
      else if c = '{' then some (.beforeLabel name [])
      else some (.inTail name [] [c])
  | .beforeLabel name labels, c =>
      if isBlank c then some (.beforeLabel name labels)
      else if startsLabel c then some (.inLabel name labels [c])
      else if c = '}' then some (.inTail name labels [])
      else none
  | .inLabel name labels label, c =>
      if continuesLabel c then some (.inLabel name labels (label ++ [c]))
      else if isBlank c then some (.afterLabel name labels label)
      else if c = '=' then some (.beforeText name labels label)
      else none
  | .afterLabel name labels label, c =>
      if isBlank c then some (.afterLabel name labels label)
      else if c = '=' then some (.beforeText name labels label)
      else none
  | .beforeText name labels label, c =>
      if isBlank c then some (.beforeText name labels label)
      else if c = '"' then some (.inText name labels label [])
      else none
  | .inText name labels label text, c =>
      if c = '\\' then some (.inEscape name labels label text)
      else if c = '"' then
        some (.afterText name (labels ++ [(String.ofList label, String.ofList text)]))
      else some (.inText name labels label (text ++ [c]))
  | .inEscape name labels label text, c =>
      (unescape? c).map fun meant => .inText name labels label (text ++ [meant])
  | .afterText name labels, c =>
      if isBlank c then some (.afterText name labels)
      else if c = ',' then some (.beforeLabel name labels)
      else if c = '}' then some (.inTail name labels [])
      else none
  | .inTail name labels rest, c => some (.inTail name labels (rest ++ [c]))

/-- What stands between blanks. -/
def words (text : List Char) : List (List Char) :=
  (text.splitOnP isBlank).filter (!·.isEmpty)

/-- The sample at the end of a line: a value stands there, and a time may. -/
def Place.finish? : Place → Option Reading
  | .inTail name labels rest =>
      match words rest with
      | [value] =>
          (Decimal.parse? (String.ofList value)).map fun value =>
            ⟨String.ofList name, labels, value, none⟩
      | [value, time] =>
          match Decimal.parse? (String.ofList value), (String.ofList time).toInt? with
          | some value, some time => some ⟨String.ofList name, labels, value, some time⟩
          | _, _ => none
      | _ => none
  | _ => none

end Reading

/-- The sample on a line. -/
def readLine (line : String) : Option Reading :=
  (line.toList.foldlM Reading.Place.step .start).bind Reading.Place.finish?

/-- The samples of an exposition: there is one on every line that is neither blank nor a comment. -/
def readExposition (text : String) : Option (List Reading) :=
  (dataLines text).mapM readLine

/-! ## Going through a text -/

namespace Reading

/-- The text takes the reader from one place to another. -/
def Leads (place : Place) (text : List Char) (place' : Place) : Prop :=
  text.foldlM Place.step place = some place'

section

variable {place place' place'' : Place} {text more : List Char} {c : Char}

theorem Leads.nil (place : Place) : Leads place [] place :=
  rfl

theorem Leads.cons (first : place.step c = some place') (later : Leads place' text place'') :
    Leads place (c :: text) place'' := by
  rw [Leads, List.foldlM_cons, first]
  exact later

theorem Leads.append (first : Leads place text place') (later : Leads place' more place'') :
    Leads place (text ++ more) place'' := by
  rw [Leads, List.foldlM_append, first]
  exact later

end

/-- Characters that are each read to their end, in whatever writing, are read in a row. -/
theorem leads_flatMap {place : List Char → Place} {written : Char → List Char} {chars : List Char}
    (each : ∀ c ∈ chars, ∀ read, Leads (place read) (written c) (place (read ++ [c])))
    (read : List Char) :
    Leads (place read) (chars.flatMap written) (place (read ++ chars)) := by
  induction chars generalizing read with
  | nil =>
      rw [List.append_nil]
      exact Leads.nil _
  | cons c chars ih =>
      rw [List.forall_mem_cons] at each
      rw [List.flatMap_cons, List.append_cons]
      exact (each.1 read).append (ih each.2 (read ++ [c]))

theorem leads_chars {place : List Char → Place} {chars : List Char}
    (each : ∀ c ∈ chars, ∀ read, (place read).step c = some (place (read ++ [c])))
    (read : List Char) : Leads (place read) chars (place (read ++ chars)) := by
  have single : ∀ c ∈ chars, ∀ read, Leads (place read) [c] (place (read ++ [c])) :=
    fun c member read => Leads.cons (each c member read) (Leads.nil _)
  have row := leads_flatMap single read
  rwa [List.flatMap_singleton'] at row

/-- The text begins with a character of one kind and goes on with characters of another. -/
structure Spelled (starts continues : Char → Bool) (text : List Char) : Prop where
  nonempty : text ≠ []
  starts : ∀ c ∈ text.head?, starts c = true
  continues : ∀ c ∈ text, continues c = true

/-- A text is read where its first character and its other characters are. -/
theorem Spelled.leads {starts continues : Char → Bool} {text : List Char} {before : Place}
    {place : List Char → Place} (spelled : Spelled starts continues text)
    (begins : ∀ c, starts c = true → before.step c = some (place [c]))
    (goes : ∀ c, continues c = true → ∀ read, (place read).step c = some (place (read ++ [c]))) :
    Leads before text (place text) := by
  obtain ⟨nonempty, start, continues⟩ := spelled
  obtain ⟨first, rest, rfl⟩ := List.exists_cons_of_ne_nil nonempty
  rw [List.forall_mem_cons] at continues
  apply Leads.cons (begins first (start first rfl))
  exact leads_chars (fun c member => goes c (continues.2 c member)) [first]

/-- The text is a metric name. -/
def IsName (text : List Char) : Prop :=
  Spelled startsName continuesName text

/-- The text is a label name. -/
def IsLabel (text : List Char) : Prop :=
  Spelled startsLabel continuesLabel text

section

variable {name label text : List Char} {labels : Labels}

theorem isBlank_iff {c : Char} : isBlank c = true ↔ c = ' ' ∨ c = '\t' := by
  rw [isBlank, Bool.or_eq_true, beq_iff_eq, beq_iff_eq]

theorem isBlank_of_startsName {c : Char} (starts : startsName c = true) : ¬isBlank c = true := by
  rw [isBlank_iff]
  rintro (rfl | rfl)
  · exact absurd starts (by decide)
  · exact absurd starts (by decide)

theorem isBlank_of_startsLabel {c : Char} (starts : startsLabel c = true) : ¬isBlank c = true := by
  apply isBlank_of_startsName
  rw [startsName, ← startsLabel, starts, Bool.true_or]

theorem leads_name (isName : IsName name) : Leads .start name (.inName name) := by
  apply isName.leads
  · intro c starts
    rw [Place.step, if_neg (isBlank_of_startsName starts), if_pos starts]
  · intro c continues read
    rw [Place.step, if_pos continues]

theorem leads_label (isLabel : IsLabel label) :
    Leads (.beforeLabel name labels) label (.inLabel name labels label) := by
  apply isLabel.leads
  · intro c starts
    rw [Place.step, if_neg (isBlank_of_startsLabel starts), if_pos starts]
  · intro c continues read
    rw [Place.step, if_pos continues]

/-! ### Label values -/

/-- An escaped character is read as that character, and never as the end of the text. -/
theorem leads_escapeLabelChar (c : Char) :
    Leads (.inText name labels label text) (escapeLabelChar c)
      (.inText name labels label (text ++ [c])) := by
  unfold escapeLabelChar
  split_ifs with slash feed quote
  · subst slash
    exact Leads.cons rfl (Leads.cons rfl (Leads.nil _))
  · subst feed
    exact Leads.cons rfl (Leads.cons rfl (Leads.nil _))
  · subst quote
    exact Leads.cons rfl (Leads.cons rfl (Leads.nil _))
  · have step : (Place.inText name labels label text).step c =
        some (.inText name labels label (text ++ [c])) := by
      rw [Place.step, if_neg slash, if_neg quote]
    exact Leads.cons step (Leads.nil _)

/-- Every text is read back from its escapes. -/
theorem leads_escapes (chars text : List Char) :
    Leads (.inText name labels label text) (chars.flatMap escapeLabelChar)
      (.inText name labels label (text ++ chars)) :=
  leads_flatMap (fun c _ _ => leads_escapeLabelChar c) text

/-- A label with its value between quotes. -/
def pairText (pair : String × String) : List Char :=
  pair.1.toList ++ '=' :: '"' :: (pair.2.toList.flatMap escapeLabelChar ++ ['"'])

theorem leads_pair {pair : String × String} (isLabel : IsLabel pair.1.toList) :
    Leads (.beforeLabel name labels) (pairText pair) (.afterText name (labels ++ [pair])) := by
  have equals : (Place.inLabel name labels pair.1.toList).step '=' =
      some (.beforeText name labels pair.1.toList) := rfl
  have opens : (Place.beforeText name labels pair.1.toList).step '"' =
      some (.inText name labels pair.1.toList []) := rfl
  have closes : (Place.inText name labels pair.1.toList pair.2.toList).step '"' =
      some (.afterText name (labels ++ [pair])) := by
    change some (Place.afterText name
      (labels ++ [(String.ofList pair.1.toList, String.ofList pair.2.toList)])) = _
    rw [String.ofList_toList, String.ofList_toList]
  have escaped := (@leads_escapes name pair.1.toList labels pair.2.toList []).append
    (Leads.cons closes (Leads.nil _))
  exact (leads_label isLabel).append (Leads.cons equals (Leads.cons opens escaped))

/-- Labels between commas, and the brace after them. -/
theorem leads_pairs {pairs : Labels} (nonempty : pairs ≠ [])
    (areLabels : ∀ pair ∈ pairs, IsLabel pair.1.toList) (labels : Labels) :
    Leads (.beforeLabel name labels) ([','].intercalate (pairs.map pairText) ++ ['}'])
      (.inTail name (labels ++ pairs) []) := by
  induction pairs generalizing labels with
  | nil => exact absurd rfl nonempty
  | cons pair rest ih =>
      rw [List.forall_mem_cons] at areLabels
      cases rest with
      | nil =>
          rw [List.map_singleton, List.intercalate_singleton]
          exact (leads_pair areLabels.1).append (Leads.cons rfl (Leads.nil _))
      | cons next later =>
          rw [List.map_cons, List.map_cons, List.intercalate_cons_cons, List.append_assoc,
            List.append_assoc, List.append_cons labels]
          apply (leads_pair areLabels.1).append
          apply Leads.cons rfl
          exact ih (List.cons_ne_nil _ _) areLabels.2 (labels ++ [pair])

/-! ### Values -/

/-- A text without blanks is one word, with a blank before it or without. -/
theorem words_of_unblank (nonempty : text ≠ []) (unblank : ∀ c ∈ text, isBlank c = false) :
    words text = [text] ∧ words (' ' :: text) = [text] := by
  have one : text.splitOnP isBlank = [text] := List.splitOnP_eq_singleton unblank
  have blank : isBlank ' ' = true := rfl
  constructor
  · simp [words, one, nonempty]
  · simp [words, List.splitOnP_cons_eq_if_modifyHead, blank, one, nonempty]

theorem leads_inTail (text rest : List Char) :
    Leads (.inTail name labels rest) text (.inTail name labels (rest ++ text)) :=
  leads_chars (fun _ _ _ => rfl) rest

theorem finish?_of_words {rest : List Char} {value : Float}
    (single : words rest = [(Decimal.exposed.render value).toList]) :
    (Place.inTail name labels rest).finish? = some ⟨String.ofList name, labels, value, none⟩ := by
  rw [Place.finish?, single]
  dsimp only
  rw [String.ofList_toList, Decimal.parse?_render, Option.map_some]

/-- A value is written without blanks and begins with no brace. -/
theorem render_unblank (value : Float) :
    ∀ c ∈ (Decimal.exposed.render value).toList, isBlank c = false ∧ c ≠ '{' := by
  intro c member
  rcases Decimal.valueChar_of_mem_render member with digit | sign
  · constructor
    · rw [Bool.eq_false_iff, ne_eq, isBlank_iff]
      rintro (rfl | rfl)
      · exact absurd digit (by decide)
      · exact absurd digit (by decide)
    · rintro rfl
      exact absurd digit (by decide)
  · have signs : valueSigns.all (fun c => !isBlank c && c != '{') = true := by decide
    simpa using List.all_eq_true.mp signs c sign

theorem render_ne_nil (value : Float) : (Decimal.exposed.render value).toList ≠ [] := by
  have unread : Decimal.parse? "" = none := by decide +kernel
  intro empty
  have read := Decimal.parse?_render value
  rw [String.toList_eq_nil_iff.mp empty, unread] at read
  cases read

/-! ### Lines -/

/-- What stands between the name and the blank before the value. -/
def labelsText (labels : Labels) : List Char :=
  if labels.isEmpty then [] else '{' :: ([','].intercalate (labels.map pairText) ++ ['}'])

theorem toList_pair (pair : String × String) :
    (pair.1 ++ "=\"" ++ escapeLabel pair.2 ++ "\"").toList = pairText pair := by
  simp [pairText, escapeLabel]

theorem toList_braces (labels : Labels) {write : String × String → String}
    (written : ∀ pair, (write pair).toList = pairText pair) :
    (if labels.isEmpty then "" else
      "\x7b" ++ ",".intercalate (labels.map write) ++ "\x7d").toList = labelsText labels := by
  have pairs : (labels.map write).map String.toList = labels.map pairText := by
    rw [List.map_map]
    exact List.map_congr_left fun pair _ => written pair
  unfold labelsText
  split
  · rfl
  · simp only [String.toList_append, String.toList_intercalate, pairs]
    rfl

theorem bareLine_eq (name : String) (labels : Labels) (value : Float) :
    bareLine name labels value =
      name.toList ++ (labelsText labels ++ ' ' :: (Decimal.exposed.render value).toList) := by
  rw [bareLine, seriesLine, String.toList_append]
  apply List.dropLast_concat.trans
  simp only [String.toList_append, List.append_assoc]
  rw [toList_braces labels fun pair => ?_]
  · rfl
  · exact toList_pair pair

/-- From a name the labels lead to the rest of the line, if there are any. -/
theorem leads_labelsText {name : List Char} {labels : Labels} (nonempty : labels ≠ [])
    (areLabels : ∀ pair ∈ labels, IsLabel pair.1.toList) :
    Leads (.inName name) (labelsText labels) (.inTail name labels []) := by
  have opens : (Place.inName name).step '{' = some (.beforeLabel name []) := rfl
  rw [labelsText, if_neg (by simpa using nonempty)]
  exact Leads.cons opens (leads_pairs nonempty areLabels [])

/-- The line of a series is read as its name, its labels and its value. -/
theorem readLine_bareLine {name : String} {labels : Labels} (value : Float)
    (isName : IsName name.toList) (areLabels : ∀ pair ∈ labels, IsLabel pair.1.toList) :
    readLine (String.ofList (bareLine name labels value)) = some ⟨name, labels, value, none⟩ := by
  have unblank := fun c member => (render_unblank value c member).1
  obtain ⟨bare, spaced⟩ := words_of_unblank (render_ne_nil value) unblank
  obtain ⟨rest, single, leads⟩ : ∃ rest, words rest = [(Decimal.exposed.render value).toList] ∧
      Leads (.inName name.toList)
        (labelsText labels ++ ' ' :: (Decimal.exposed.render value).toList)
        (.inTail name.toList labels rest) := by
    by_cases empty : labels = []
    · -- Without labels the blank ends the name, and the value begins the rest.
      obtain ⟨first, later, text⟩ := List.exists_cons_of_ne_nil (render_ne_nil value)
      obtain ⟨noBlank, noBrace⟩ := render_unblank value first (text ▸ List.mem_cons_self)
      have ends : (Place.inName name.toList).step ' ' = some (.afterName name.toList) := rfl
      have begins : (Place.afterName name.toList).step first =
          some (.inTail name.toList [] [first]) := by
        rw [Place.step, if_neg (by simp [noBlank]), if_neg noBrace]
      refine ⟨_, bare, ?_⟩
      rw [empty, text]
      exact Leads.cons ends (Leads.cons begins (leads_inTail later [first]))
    · refine ⟨_, spaced, ?_⟩
      exact (leads_labelsText empty areLabels).append (leads_inTail _ [])
  have whole : Leads .start (bareLine name labels value) (.inTail name.toList labels rest) := by
    rw [bareLine_eq]
    exact (leads_name isName).append leads
  rw [readLine, String.toList_ofList, whole, Option.bind_some, finish?_of_words single,
    String.ofList_toList]

end

end Reading

end RouterTelemetry
