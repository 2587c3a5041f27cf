import Mathlib.Data.List.Sort
import Mathlib.Tactic.Ring
import RouterTelemetry.Proofs.SeparatedText
import RouterTelemetry.Url.Punycode

/-!
# Encoded labels are read back

The writer scans a label once for each code point beyond ASCII, in increasing order.  The reader
builds the label from its ASCII characters and inserts one character for each number.  Between two
numbers both walk through the same places; `Abreast` says where they are.
-/

namespace RouterTelemetry.Url.Punycode

/-! ## Numbers -/

theorem digitValue?_digitChar {value : Nat} (digit : value < 36) :
    digitValue? (digitChar value) = some value := by
  have all : ∀ value < 36, digitValue? (digitChar value) = some value := by decide
  exact all value digit

/-- A number is read back wherever the reader stands. -/
theorem decodeNumber_encodeNumber (bias number k weight i : Nat) (rest : List Char)
    (small : i + number * weight ≤ numberLimit) :
    decodeNumber bias k weight i (encodeNumber number k bias ++ rest) =
      some (i + number * weight, rest) := by
  induction number using Nat.strongRecOn generalizing k weight i with
  | _ number ih =>
    have low := threshold_pos k bias
    have high := threshold_le k bias
    rw [encodeNumber]
    split_ifs with last
    · rw [List.singleton_append, decodeNumber, digitValue?_digitChar (by omega)]
      simp [last]
    · -- The last digit is below its threshold, any other is not.
      have digit :
          threshold k bias + (number - threshold k bias) % (36 - threshold k bias) < 36 := by
        have := Nat.mod_lt (number - threshold k bias) (by omega : 0 < 36 - threshold k bias)
        omega
      rw [List.cons_append, decodeNumber, digitValue?_digitChar digit]
      generalize threshold k bias = t at *
      have parts := Nat.mod_add_div (number - t) (36 - t)
      have whole : (t + (number - t) % (36 - t)) * weight +
          (number - t) / (36 - t) * (weight * (36 - t)) = number * weight := by
        calc _
          _ = (t + ((number - t) % (36 - t) + (36 - t) * ((number - t) / (36 - t)))) * weight := by
            ring
          _ = number * weight := by
            rw [parts, Nat.add_sub_cancel' (by omega)]
      have before : (number - t) / (36 - t) < number :=
        Nat.lt_of_le_of_lt (Nat.div_le_self _ _) (by omega)
      simp only [Option.bind_eq_bind, Option.bind_some]
      rw [if_neg (by omega), if_neg (by omega), ih _ before _ _ _ (by omega)]
      congr 2
      omega

theorem encodeNumber_ne_nil (number k bias : Nat) : encodeNumber number k bias ≠ [] := by
  rw [encodeNumber]
  split_ifs <;> exact List.cons_ne_nil _ _

/-! ## The reader -/

/-- The reader makes this label of the numbers in a text. -/
def Decodes (text : List Char) (point i bias : Nat) (output label : List Nat) : Prop :=
  ∀ fuel, text.length ≤ fuel → decodePoints fuel text point i bias output = some label

theorem Decodes.nil (point i bias : Nat) (label : List Nat) :
    Decodes [] point i bias label label := by
  intro fuel _
  cases fuel <;> rw [decodePoints]

/-- A code point is inserted at its place in the output. -/
theorem Decodes.insert {before after label : List Nat} {rest : List Char}
    {delta point point' i bias : Nat} (scalar : point'.isValidChar) (le : point ≤ point')
    (place : i + delta = (point' - point) * ((before ++ after).length + 1) + before.length)
    (small : i + delta ≤ numberLimit)
    (later : Decodes rest point' (before.length + 1)
      (adapt delta ((before ++ after).length + 1) (i == 0)) (before ++ point' :: after) label) :
    Decodes (encodeNumber delta 36 bias ++ rest) point i bias (before ++ after) label := by
  intro fuel enough
  have read := decodeNumber_encodeNumber bias delta 36 1 i rest (by omega)
  have inside : before.length < (before ++ after).length + 1 := by
    rw [List.length_append]
    omega
  obtain ⟨c, digits, written⟩ := List.exists_cons_of_ne_nil (encodeNumber_ne_nil delta 36 bias)
  rw [written] at read enough ⊢
  obtain _ | fuel := fuel
  · cases enough
  have shorter : rest.length ≤ fuel := by
    simp only [List.cons_append, List.length_cons, List.length_append] at enough
    omega
  rw [List.cons_append] at read ⊢
  rw [decodePoints, read]
  simp only [Option.bind_eq_bind, Option.bind_some, Nat.mul_one, Nat.add_sub_cancel_left]
  rw [place, Nat.mul_comm, Nat.mul_add_div (by omega), Nat.div_eq_of_lt inside,
    Nat.mul_add_mod_self_left, Nat.mod_eq_of_lt inside, Nat.add_zero, Nat.add_sub_cancel' le,
    List.take_left, List.drop_left]
  rw [if_neg ?_]
  · exact later fuel shorter
  · simp only [Nat.isValidChar] at scalar
    omega
  · exact List.cons_ne_nil _ _

/-! ## Both side by side -/

/-- The part of a label that has been written when it is scanned for a code point up to here. -/
def output (point : Nat) (seen unseen : List Nat) : List Nat :=
  seen.filter (· ≤ point) ++ unseen.filter (· < point)

theorem length_output_le (point : Nat) (seen unseen : List Nat) :
    (output point seen unseen).length ≤ (seen ++ unseen).length := by
  rw [output, List.length_append, List.length_append]
  exact Nat.add_le_add (List.length_filter_le _ _) (List.length_filter_le _ _)

section

variable {basic point c : Nat} {seen unseen : List Nat}

theorem output_of_lt (below : c < point) :
    output point (seen ++ [c]) unseen = output point seen (c :: unseen) := by
  simp [output, List.filter_append, below, Nat.le_of_lt below]

theorem output_of_gt (above : point < c) :
    output point (seen ++ [c]) unseen = output point seen (c :: unseen) := by
  simp [output, List.filter_append, Nat.not_le_of_lt above, Nat.le_of_lt above]

theorem output_self :
    output point seen (point :: unseen) =
      seen.filter (· ≤ point) ++ unseen.filter (· < point) := by
  simp [output]

theorem output_insert :
    output point (seen ++ [point]) unseen =
      seen.filter (· ≤ point) ++ point :: unseen.filter (· < point) := by
  simp [output, List.filter_append]

/-- Where the writer and the reader are while a label is scanned for one code point: the reader
has inserted the last character before place `i` for the code point `from'`. -/
structure Abreast (basic point : Nat) (seen unseen : List Nat) (state : State) (from' i : Nat) :
    Prop where
  le : from' ≤ point
  place : i + state.delta =
    (point - from') * (state.handled + 1) + (seen.filter (· ≤ point)).length
  handled : state.handled = (output point seen unseen).length
  basic_le : basic ≤ state.handled
  first : i = 0 ↔ state.handled = basic

theorem encodePoint_append (basic point : Nat) (input : List Nat) (state : State)
    (written : List Char) :
    encodePoint basic point input state written =
      ((encodePoint basic point input state []).1,
        written ++ (encodePoint basic point input state []).2) := by
  induction input generalizing state written with
  | nil => simp [encodePoint]
  | cons c rest ih =>
      rw [encodePoint, encodePoint]
      split_ifs
      · exact ih _ _
      · rw [ih, ih _ ([] ++ _)]
        simp
      · exact ih _ _

variable {state : State} {from' i : Nat} {label : List Nat} {more : List Char}

namespace Abreast

/-- A character before the code point moves the place on. -/
theorem pass_lt (below : c < point)
    (abreast : Abreast basic point seen (c :: unseen) state from' i) :
    Abreast basic point (seen ++ [c]) unseen { state with delta := state.delta + 1 } from' i := by
  refine ⟨abreast.le, ?_, ?_, abreast.basic_le, abreast.first⟩
  · have place := abreast.place
    simp only [List.filter_append, List.length_append, List.filter_cons, Nat.le_of_lt below,
      decide_true, if_true, List.filter_nil, List.length_singleton]
    omega
  · rw [output_of_lt below]
    exact abreast.handled

/-- A character after the code point has not been written yet. -/
theorem pass_gt (above : point < c)
    (abreast : Abreast basic point seen (c :: unseen) state from' i) :
    Abreast basic point (seen ++ [c]) unseen state from' i := by
  refine ⟨abreast.le, ?_, ?_, abreast.basic_le, abreast.first⟩
  · have place := abreast.place
    simp only [List.filter_append, List.length_append, List.filter_cons, Nat.not_le_of_lt above,
      decide_false, List.filter_nil]
    simpa using place
  · rw [output_of_gt above]
    exact abreast.handled

/-- The code point itself is inserted: the next place is the one behind it. -/
theorem insert (abreast : Abreast basic point seen (point :: unseen) state from' i) (bias : Nat) :
    Abreast basic point (seen ++ [point]) unseen ⟨0, bias, state.handled + 1⟩ point
      ((seen.filter (· ≤ point)).length + 1) := by
  have basic_le := abreast.basic_le
  refine ⟨Nat.le_refl point, ?_, ?_, Nat.le_succ_of_le basic_le, ?_⟩
  · simp [List.filter_append]
  · dsimp only
    rw [output_insert, abreast.handled, output_self]
    simp
    omega
  · dsimp only
    omega

/-- The numbers of a short label stay below the limit. -/
theorem delta_le (abreast : Abreast basic point seen (point :: unseen) state from' i)
    (scalar : point.isValidChar)
    (small : ((seen ++ point :: unseen).length + 1) * 0x110000 ≤ numberLimit) :
    i + state.delta ≤ numberLimit := by
  have short := length_output_le point seen (point :: unseen)
  have handled := abreast.handled
  have inside : (seen.filter (· ≤ point)).length ≤ state.handled := by
    rw [handled, output_self, List.length_append]
    exact Nat.le_add_right _ _
  have larger : point < 0x110000 := by
    simp only [Nat.isValidChar] at scalar
    omega
  calc i + state.delta
    _ = (point - from') * (state.handled + 1) + (seen.filter (· ≤ point)).length := abreast.place
    _ ≤ point * (state.handled + 1) + (state.handled + 1) :=
      Nat.add_le_add (Nat.mul_le_mul_right _ (Nat.sub_le _ _)) (by omega)
    _ = (state.handled + 1) * (point + 1) := by ring
    _ ≤ ((seen ++ point :: unseen).length + 1) * 0x110000 := Nat.mul_le_mul (by omega) larger
    _ ≤ numberLimit := small

end Abreast

/-- The numbers of one code point are read back. -/
theorem decodes_encodePoint (scalar : point.isValidChar)
    (small : ((seen ++ unseen).length + 1) * 0x110000 ≤ numberLimit)
    (abreast : Abreast basic point seen unseen state from' i)
    (later : ∀ from'' i',
      Abreast basic point (seen ++ unseen) [] (encodePoint basic point unseen state []).1
        from'' i' →
      Decodes more from'' i' (encodePoint basic point unseen state []).1.bias
        (output point (seen ++ unseen) []) label) :
    Decodes ((encodePoint basic point unseen state []).2 ++ more) from' i state.bias
      (output point seen unseen) label := by
  induction unseen generalizing seen state from' i with
  | nil =>
      rw [List.append_nil] at later
      exact later from' i abreast
  | cons c unseen ih =>
      have whole : seen ++ c :: unseen = (seen ++ [c]) ++ unseen := by simp
      rcases Nat.lt_trichotomy c point with below | rfl | above
      · rw [whole] at small later
        rw [encodePoint, if_pos below] at later ⊢
        rw [← output_of_lt below]
        exact ih small (abreast.pass_lt below) later
      · have limit := abreast.delta_le scalar small
        have handled := abreast.handled
        have place := abreast.place
        have isFirst : (i == 0) = (state.handled == basic) := by
          rw [Bool.eq_iff_iff, beq_iff_eq, beq_iff_eq]
          exact abreast.first
        rw [whole] at small later
        rw [encodePoint, if_neg (Nat.lt_irrefl c), if_pos rfl, List.nil_append,
          encodePoint_append] at later ⊢
        dsimp only at later ⊢
        rw [output_self] at handled ⊢
        rw [List.append_assoc]
        refine .insert scalar abreast.le (handled ▸ place) limit ?_
        rw [← handled, isFirst, ← output_insert]
        exact ih small (abreast.insert _) later
      · rw [whole] at small later
        rw [encodePoint, if_neg (Nat.lt_asymm above), if_neg (Nat.ne_of_gt above)] at later ⊢
        rw [← output_of_gt above]
        exact ih small (abreast.pass_gt above) later

/-! ### All code points -/

/-- These are the code points of the input from here on, in increasing order. -/
structure Remaining (input points : List Nat) (from' : Nat) : Prop where
  increasing : points.Pairwise (· < ·)
  mem_iff : ∀ c, c ∈ points ↔ c ∈ input ∧ from' ≤ c

namespace Remaining

variable {input points : List Nat}

theorem filter_eq_of_nil (remaining : Remaining input [] from') :
    input.filter (· < from') = input := by
  refine List.filter_eq_self.mpr fun c member => decide_eq_true ?_
  by_contra above
  exact List.not_mem_nil ((remaining.mem_iff c).mpr ⟨member, Nat.le_of_not_lt above⟩)

theorem le_of_mem (remaining : Remaining input (point :: points) from') (member : c ∈ input)
    (above : from' ≤ c) : point ≤ c := by
  rcases List.mem_cons.mp ((remaining.mem_iff c).mpr ⟨member, above⟩) with rfl | later
  · exact Nat.le_refl c
  · exact Nat.le_of_lt ((List.pairwise_cons.mp remaining.increasing).1 c later)

/-- No code point lies before the first one that is left. -/
theorem filter_eq (remaining : Remaining input (point :: points) from') :
    input.filter (· < from') = input.filter (· < point) := by
  have le := ((remaining.mem_iff point).mp List.mem_cons_self).2
  refine List.filter_congr fun c member => decide_eq_decide.mpr ⟨fun below => by omega, ?_⟩
  intro below
  by_contra above
  exact absurd below (Nat.not_lt.mpr (remaining.le_of_mem member (Nat.le_of_not_lt above)))

theorem tail (remaining : Remaining input (point :: points) from') :
    Remaining input points (point + 1) := by
  obtain ⟨least, increasing⟩ := List.pairwise_cons.mp remaining.increasing
  have le := ((remaining.mem_iff point).mp List.mem_cons_self).2
  refine ⟨increasing, fun c => ⟨fun later => ?_, ?_⟩⟩
  · exact ⟨((remaining.mem_iff c).mp (List.mem_cons_of_mem _ later)).1, least c later⟩
  · rintro ⟨member, above⟩
    rcases List.mem_cons.mp ((remaining.mem_iff c).mpr ⟨member, by omega⟩) with rfl | later
    · exact absurd above (Nat.not_succ_le_self c)
    · exact later

end Remaining

/-- The numbers of all code points that are left are read back. -/
theorem decodes_encodePoints {input points : List Nat} {reached : Nat}
    (scalars : ∀ c ∈ input, c.isValidChar) (small : (input.length + 1) * 0x110000 ≤ numberLimit)
    (remaining : Remaining input points from') (le : reached ≤ from')
    (place : i + state.delta = (from' - reached) * (state.handled + 1))
    (handled : state.handled = (input.filter (· < from')).length)
    (basic_le : basic ≤ state.handled) (first : i = 0 ↔ state.handled = basic) :
    Decodes (encodePoints basic input points from' state) reached i state.bias
      (input.filter (· < from')) input := by
  induction points generalizing from' reached i state with
  | nil =>
      rw [encodePoints, remaining.filter_eq_of_nil]
      exact .nil _ _ _ _
  | cons point points ih =>
      obtain ⟨member, from_le⟩ := (remaining.mem_iff point).mp List.mem_cons_self
      have unchanged : input.filter (· < from') = output point [] input := remaining.filter_eq
      rw [encodePoints]
      dsimp only
      rw [unchanged] at handled ⊢
      refine decodes_encodePoint (scalars point member) small
        ⟨by omega, ?_, handled, basic_le, first⟩ ?_
      · have apart : from' - reached + (point - from') = point - reached := by omega
        rw [← apart, Nat.add_mul, List.filter_nil, List.length_nil]
        dsimp only
        omega
      · intro from'' i' abreast
        have both : output point ([] ++ input) [] = input.filter (· < point + 1) := by
          simp only [output, List.nil_append, List.filter_nil, List.append_nil, Nat.lt_add_one_iff]
        have reachedPlace := abreast.place
        have soFar := abreast.handled
        rw [both] at soFar ⊢
        refine ih remaining.tail (Nat.le_succ_of_le abreast.le) ?_ soFar abreast.basic_le
          abreast.first
        have next : point + 1 - from'' = point - from'' + 1 := by
          have := abreast.le
          omega
        simp only [List.nil_append, ← Nat.lt_add_one_iff] at reachedPlace
        rw [next, Nat.add_mul, Nat.one_mul]
        dsimp only
        omega

end

/-! ## The whole label -/

theorem mem_extendedPoints {input : List Nat} (c : Nat) :
    c ∈ extendedPoints input ↔ c ∈ input ∧ 128 ≤ c := by
  rw [extendedPoints, List.mem_eraseDups, List.mem_mergeSort, List.mem_filter, decide_eq_true_iff]

theorem pairwise_lt_eraseDups {points : List Nat} (sorted : points.Pairwise (· ≤ ·)) :
    points.eraseDups.Pairwise (· < ·) := by
  -- What is left after a point has been erased may be much shorter.
  induction count : points.length using Nat.strongRecOn generalizing points with
  | _ count' ih =>
    cases points with
    | nil => simp
    | cons point points =>
        obtain ⟨least, sorted⟩ := List.pairwise_cons.mp sorted
        rw [List.eraseDups_cons, List.pairwise_cons]
        constructor
        · intro other member
          obtain ⟨listed, different⟩ := List.mem_filter.mp (List.mem_eraseDups.mp member)
          have le := least other listed
          have : other ≠ point := by simpa using different
          omega
        · refine ih _ ?_ (sorted.filter _) rfl
          rw [← count, List.length_cons]
          exact Nat.lt_succ_of_le (List.length_filter_le _ _)

theorem extendedPoints_increasing (input : List Nat) :
    (extendedPoints input).Pairwise (· < ·) :=
  pairwise_lt_eraseDups ((List.pairwise_mergeSort
    (fun _ _ _ first second => by simp at *; omega) (fun _ _ => by simp; omega) _).imp
      of_decide_eq_true)

theorem splitLastHyphen_append (front : List Char) {tail : List Char} (plain : '-' ∉ tail) :
    splitLastHyphen (front ++ '-' :: tail) = (front, tail) := by
  rw [splitLastHyphen, afterLast_append front plain,
    if_neg (length_ne_append_separator front tail '-'), take_beforeLast]

theorem splitLastHyphen_of_notMem {text : List Char} (plain : '-' ∉ text) :
    splitLastHyphen text = ([], text) := by
  rw [splitLastHyphen, afterLast_of_notMem plain, if_pos rfl]

/-! ### Characters of numbers -/

/-- The character is a lower-case letter or a digit. -/
def IsDigit (c : Char) : Prop :=
  ∃ value < 36, c = digitChar value

theorem isDigit_of_mem_encodeNumber {number k bias : Nat} {c : Char}
    (member : c ∈ encodeNumber number k bias) : IsDigit c := by
  induction number using Nat.strongRecOn generalizing k with
  | _ number ih =>
    have low := threshold_pos k bias
    have high := threshold_le k bias
    rw [encodeNumber] at member
    split_ifs at member with last
    · rw [List.mem_singleton] at member
      exact ⟨number, by omega, member⟩
    · have digit := Nat.mod_lt (number - threshold k bias) (by omega : 0 < 36 - threshold k bias)
      rcases List.mem_cons.mp member with same | later
      · exact ⟨_, by omega, same⟩
      · exact ih _ (Nat.lt_of_le_of_lt (Nat.div_le_self _ _) (by omega)) later

theorem isDigit_of_mem_encodePoint {basic point : Nat} {input : List Nat} {state : State}
    {written : List Char} (before : ∀ c ∈ written, IsDigit c) :
    ∀ c ∈ (encodePoint basic point input state written).2, IsDigit c := by
  induction input generalizing state written with
  | nil => exact before
  | cons c input ih =>
      rw [encodePoint]
      split_ifs
      · exact ih before
      · refine ih fun digit member => ?_
        rcases List.mem_append.mp member with early | late
        · exact before digit early
        · exact isDigit_of_mem_encodeNumber late
      · exact ih before

theorem isDigit_of_mem_encodePoints {basic from' : Nat} {input points : List Nat} {state : State} :
    ∀ c ∈ encodePoints basic input points from' state, IsDigit c := by
  induction points generalizing from' state with
  | nil => simp [encodePoints]
  | cons point points ih =>
      intro c member
      rw [encodePoints] at member
      rcases List.mem_append.mp member with early | late
      · exact isDigit_of_mem_encodePoint (by simp) c early
      · exact ih c late

theorem IsDigit.ne_hyphen {c : Char} (digit : IsDigit c) : c ≠ '-' := by
  obtain ⟨value, small, rfl⟩ := digit
  have all : ∀ value < 36, digitChar value ≠ '-' := by decide
  exact all value small

theorem hyphen_notMem_insertions (label : List Char) : '-' ∉ insertions label :=
  fun member => (isDigit_of_mem_encodePoints _ member).ne_hyphen rfl

/-- The characters of an encoded form. -/
theorem mem_of_encode? {label text : List Char} (encoded : encode? label = some text) {c : Char}
    (member : c ∈ text) : (c ∈ label ∧ c.toNat < 128) ∨ c = '-' ∨ IsDigit c := by
  rw [encode?] at encoded
  split_ifs at encoded with long empty
  · rw [← Option.some.inj encoded, List.nil_append] at member
    exact .inr (.inr (isDigit_of_mem_encodePoints c member))
  · rw [← Option.some.inj encoded, List.append_assoc, List.mem_append, List.mem_append,
      List.mem_singleton] at member
    rcases member with basic | hyphen | digit
    · obtain ⟨inLabel, ascii⟩ := List.mem_filter.mp basic
      exact .inl ⟨inLabel, of_decide_eq_true ascii⟩
    · exact .inr (.inl hyphen)
    · exact .inr (.inr (isDigit_of_mem_encodePoints c digit))

theorem decodes_insertions {label : List Char}
    (short : (label.length + 1) * 0x110000 ≤ numberLimit) :
    Decodes (insertions label) 128 0 72 ((basicPart label).map Char.toNat)
      (label.map Char.toNat) := by
  have basic : (basicPart label).map Char.toNat = (label.map Char.toNat).filter (· < 128) := by
    rw [List.filter_map]
    rfl
  have count : (basicPart label).length = ((label.map Char.toNat).filter (· < 128)).length := by
    rw [← basic, List.length_map]
  rw [basic, insertions]
  refine decodes_encodePoints (fun c member => ?_) ?_
    ⟨extendedPoints_increasing _, mem_extendedPoints⟩ (Nat.le_refl 128) ?_ count (Nat.le_refl _) ?_
  · obtain ⟨letter, _, rfl⟩ := List.mem_map.mp member
    exact letter.valid
  · rwa [List.length_map]
  · simp
  · simp

/-- What was encoded is decoded. -/
theorem decode?_of_encode? {label text : List Char} (encoded : encode? label = some text) :
    decode? text = some label := by
  have ascii : (basicPart label).any (128 ≤ ·.toNat) = false := by
    simp [basicPart]
  have plain := hyphen_notMem_insertions label
  have split : splitLastHyphen text = (basicPart label, insertions label) := by
    rw [encode?] at encoded
    split_ifs at encoded with long empty
    · rw [List.isEmpty_iff] at empty
      rw [← Option.some.inj encoded, empty]
      exact splitLastHyphen_of_notMem plain
    · rw [← Option.some.inj encoded, List.append_assoc]
      exact splitLastHyphen_append _ plain
  have short : (label.length + 1) * 0x110000 ≤ numberLimit := by
    rw [encode?] at encoded
    by_contra long
    rw [if_pos (Nat.lt_of_not_le long)] at encoded
    cases encoded
  have letters : (label.map Char.toNat).map Char.ofNat = label := by
    rw [List.map_map]
    exact (List.map_congr_left fun c _ => Char.ofNat_toNat c).trans (List.map_id' label)
  rw [decode?, split]
  dsimp only
  rw [ascii, if_neg Bool.false_ne_true, decodes_insertions short _ (Nat.le_refl _),
    Option.map_some, letters]

end RouterTelemetry.Url.Punycode
