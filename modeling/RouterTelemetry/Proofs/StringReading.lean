import RouterTelemetry.Proofs.JsonTree

/-!
# Reading strings

What is read of a string depends on its glyphs alone: the characters they stand for, or the
first half of a pair that is not one.
-/

namespace RouterTelemetry.Json

/-! ## Outcomes -/

/-- What has been read and what is left of the input, without its bound. -/
def outcome {α : Type} {bound : Nat} (result : Except Fault (Reading α bound)) :
    Except Fault (α × Input) :=
  result.map fun reading => (reading.value, reading.rest)

section

variable {α β : Type} {bound large : Nat} {result : Except Fault (Reading α bound)}

@[simp]
theorem outcome_error (fault : Fault) :
    outcome (.error fault : Except Fault (Reading α bound)) = .error fault :=
  rfl

@[simp]
theorem outcome_ok (reading : Reading α bound) :
    outcome (.ok reading) = .ok (reading.value, reading.rest) :=
  rfl

theorem eq_ok_of_outcome {value : α} {rest : Input} (given : outcome result = .ok (value, rest)) :
    ∃ shorter, result = .ok ⟨value, rest, shorter⟩ := by
  cases result with
  | error fault => cases given
  | ok reading =>
      cases given
      exact ⟨reading.shorter, rfl⟩

theorem eq_error_of_outcome {fault : Fault} (given : outcome result = .error fault) :
    result = .error fault := by
  cases result with
  | error other =>
      cases given
      rfl
  | ok reading => cases given

@[simp]
theorem outcome_map_widen (result : Except Fault (Reading α bound)) (le : bound ≤ large) :
    outcome (result.map fun reading => reading.widen le) = outcome result := by
  cases result <;> rfl

@[simp]
theorem outcome_map_map (result : Except Fault (Reading α bound)) (f : α → β) :
    outcome (result.map fun reading => reading.map f) =
      (outcome result).map fun read => (f read.1, read.2) := by
  cases result <;> rfl

@[simp]
theorem outcome_map_map_widen (result : Except Fault (Reading α bound)) (f : α → β)
    (le : bound ≤ large) :
    outcome (result.map fun reading => (reading.map f).widen le) =
      (outcome result).map fun read => (f read.1, read.2) := by
  cases result <;> rfl

end

/-! ## Bytes of characters -/

/-- Bytes that stand for themselves in a string. -/
def IsVerbatim (b : UInt8) : Prop :=
  b ≠ byte '"' ∧ b ≠ byte '\\' ∧ ¬b < 32

theorem isVerbatim_of_le {b : UInt8} (high : 128 ≤ b.toNat) : IsVerbatim b := by
  refine ⟨?_, ?_, ?_⟩
  · rintro rfl
    exact absurd high (by decide)
  · rintro rfl
    exact absurd high (by decide)
  · rw [UInt8.lt_iff_toNat_lt]
    have bound : (32 : UInt8).toNat = 32 := rfl
    omega

/-- A character that needs no escape is written in bytes that stand for themselves. -/
theorem isVerbatim_of_mem_utf8EncodeChar {c : Char} (printed : 32 ≤ c.toNat) (noQuote : c ≠ '"')
    (noSlash : c ≠ '\\') : ∀ b ∈ String.utf8EncodeChar c, IsVerbatim b := by
  intro b member
  have high {n : Nat} (low : 128 ≤ n) (small : n < 256) : IsVerbatim (UInt8.ofNat n) := by
    apply isVerbatim_of_le
    rw [UInt8.toNat_ofNat', Nat.mod_eq_of_lt small]
    exact low
  unfold String.utf8EncodeChar at member
  dsimp only at member
  split_ifs at member with ascii
  · rw [List.mem_singleton.mp member]
    have code : (UInt8.ofNat c.val.toNat).toNat = c.toNat := by
      rw [UInt8.toNat_ofNat', Nat.mod_eq_of_lt (by omega)]
      rfl
    refine ⟨fun same => noQuote ?_, fun same => noSlash ?_, ?_⟩
    · rw [same] at code
      exact Char.toNat_inj.mp code.symm
    · rw [same] at code
      exact Char.toNat_inj.mp code.symm
    · rw [UInt8.lt_iff_toNat_lt, code]
      exact Nat.not_lt.mpr printed
  all_goals
    simp only [List.mem_cons, List.not_mem_nil, or_false] at member
    rcases member with rfl | rfl | rfl | rfl
    all_goals
      apply high
      all_goals omega

/-- Characters are read back from their bytes. -/
theorem utf8Text?_flatMap (cs : List Char) :
    utf8Text? (cs.flatMap String.utf8EncodeChar) = some (String.ofList cs) := by
  have encoded : cs.utf8Encode = ⟨(cs.flatMap String.utf8EncodeChar).toArray⟩ := by
    apply ByteArray.ext
    rw [List.utf8Encode, List.data_toByteArray]
  have valid : ByteArray.IsValidUTF8 ⟨(cs.flatMap String.utf8EncodeChar).toArray⟩ :=
    .intro _ encoded.symm
  rw [utf8Text?, String.fromUTF8?, dif_pos valid]
  congr 1
  exact String.toByteArray_inj.mp (by rw [String.toByteArray_ofList, encoded]; rfl)

/-! ## Code units and escapes -/

theorem outcome_readCodeUnit (unit : CodeUnit) (rest : Input) :
    outcome (readCodeUnit (unit.text ++ rest)) = .ok (unit.value, rest) := by
  obtain ⟨⟨a, va, ka⟩, ⟨b, vb, kb⟩, ⟨c, vc, kc⟩, ⟨d, vd, kd⟩⟩ := unit
  simp [CodeUnit.text, CodeUnit.value, readCodeUnit, ka, kb, kc, kd]

theorem outcome_readEscape_short {letter meaning : UInt8}
    (known : shortEscape? letter = some meaning) (rest : Input) :
    outcome (readEscape (letter :: rest)) = .ok ([meaning], rest) := by
  simp [readEscape, known]

theorem outcome_readEscape_coded (rest : Input) :
    outcome (readEscape (byte 'u' :: rest)) =
      (outcome (readCodePoint rest)).map fun read =>
        (String.utf8EncodeChar (Char.ofNat read.1), read.2) := by
  have unknown : shortEscape? (byte 'u') = none := by decide
  rw [readEscape, unknown]
  dsimp only
  rw [if_pos rfl]
  cases readCodePoint rest <;> rfl

section

variable {unit : CodeUnit}

theorem outcome_readCodePoint_of_trails (trails : unit.Trails) (rest : Input) :
    outcome (readCodePoint (unit.text ++ rest)) = .error (.malformed .loneSurrogate) := by
  obtain ⟨shorter, read⟩ := eq_ok_of_outcome (outcome_readCodeUnit unit rest)
  rw [CodeUnit.Trails] at trails
  rw [readCodePoint, read]
  dsimp only
  rw [if_pos trails]
  rfl

theorem outcome_readCodePoint_of_single (noTrail : ¬unit.Trails) (noLead : ¬unit.Leads)
    (rest : Input) : outcome (readCodePoint (unit.text ++ rest)) = .ok (unit.value, rest) := by
  obtain ⟨shorter, read⟩ := eq_ok_of_outcome (outcome_readCodeUnit unit rest)
  have outside : unit.value < 0xD800 ∨ 0xDBFF < unit.value := by
    rw [CodeUnit.Leads] at noLead
    omega
  rw [CodeUnit.Trails] at noTrail
  rw [readCodePoint, read]
  dsimp only
  rw [if_neg noTrail, if_pos outside]
  rfl

/-- The first half of a pair has to be followed by an escape with the second half. -/
theorem outcome_readCodePoint_of_leads (leads : unit.Leads) (rest : Input) :
    outcome (readCodePoint (unit.text ++ rest)) = do
      let slash ← outcome (readTextByte (byte '\\') .unfinishedSurrogatePair rest)
      let letter ← outcome (readTextByte (byte 'u') .unfinishedSurrogatePair slash.2)
      let trail ← outcome (readCodeUnit letter.2)
      if trail.1 < 0xDC00 ∨ 0xDFFF < trail.1 then
        Except.error (.malformed .loneSurrogate)
      else
        return (joinSurrogates unit.value trail.1, trail.2) := by
  obtain ⟨shorter, read⟩ := eq_ok_of_outcome (outcome_readCodeUnit unit rest)
  have noTrail : ¬(0xDC00 ≤ unit.value ∧ unit.value ≤ 0xDFFF) := by
    rw [CodeUnit.Leads] at leads
    omega
  have within : ¬(unit.value < 0xD800 ∨ 0xDBFF < unit.value) := by
    rw [CodeUnit.Leads] at leads
    omega
  rw [readCodePoint, read]
  dsimp only
  rw [if_neg noTrail, if_neg within]
  cases readTextByte (byte '\\') .unfinishedSurrogatePair rest with
  | error fault => rfl
  | ok slash =>
      dsimp only
      cases second : readTextByte (byte 'u') .unfinishedSurrogatePair slash.rest with
      | error fault => simp [bind, Except.bind, second]
      | ok letter =>
          dsimp only
          cases third : readCodeUnit letter.rest with
          | error fault => simp [bind, Except.bind, second, third]
          | ok trail =>
              simp only [outcome_ok, bind, Except.bind, second, third]
              split_ifs <;> rfl

end

@[simp]
theorem outcome_readTextByte (expected : UInt8) (flaw : Flaw) (rest : Input) :
    outcome (readTextByte expected flaw (expected :: rest)) = .ok ((), rest) := by
  rw [readTextByte, if_pos rfl]
  rfl

theorem outcome_readTextByte_of_ne {expected b : UInt8} (apart : b ≠ expected) (flaw : Flaw)
    (rest : Input) :
    outcome (readTextByte expected flaw (b :: rest)) = .error (.malformed flaw) := by
  rw [readTextByte, if_neg apart]
  rfl

/-! ## Bytes of a string -/

theorem outcome_readTextBytes_end (rest : Input) :
    outcome (readTextBytes (byte '"' :: rest)) = .ok ([], rest) := by
  rw [readTextBytes, if_pos rfl]
  rfl

theorem outcome_readTextBytes_cons {b : UInt8} (verbatim : IsVerbatim b) (rest : Input) :
    outcome (readTextBytes (b :: rest)) =
      (outcome (readTextBytes rest)).map fun read => (b :: read.1, read.2) := by
  obtain ⟨noQuote, noSlash, printed⟩ := verbatim
  rw [readTextBytes, if_neg noQuote, if_neg noSlash, if_neg printed]
  cases readTextBytes rest <;> rfl

theorem outcome_readTextBytes_append {bytes : List UInt8}
    (verbatim : ∀ b ∈ bytes, IsVerbatim b) (rest : Input) :
    outcome (readTextBytes (bytes ++ rest)) =
      (outcome (readTextBytes rest)).map fun read => (bytes ++ read.1, read.2) := by
  induction bytes with
  | nil =>
      rw [List.nil_append]
      cases readTextBytes rest <;> rfl
  | cons b bytes ih =>
      rw [List.forall_mem_cons] at verbatim
      rw [List.cons_append, outcome_readTextBytes_cons verbatim.1, ih verbatim.2]
      cases readTextBytes rest <;> rfl

theorem outcome_readTextBytes_escape (rest : Input) :
    outcome (readTextBytes (byte '\\' :: rest)) = do
      let escape ← outcome (readEscape rest)
      let tail ← outcome (readTextBytes escape.2)
      return (escape.1 ++ tail.1, tail.2) := by
  have noQuote : byte '\\' ≠ byte '"' := by decide
  rw [readTextBytes, if_neg noQuote, if_pos rfl]
  cases readEscape rest with
  | error fault => rfl
  | ok escape =>
      dsimp only
      cases second : readTextBytes escape.rest with
      | error fault => simp [bind, Except.bind, second]
      | ok tail => simp [bind, Except.bind, pure, Except.pure, second]

/-- A string that begins with a code unit. -/
theorem outcome_readTextBytes_coded (unit : CodeUnit) (rest : Input) :
    outcome (readTextBytes ((Glyph.coded unit).text ++ rest)) = do
      let point ← outcome (readCodePoint (unit.text ++ rest))
      let tail ← outcome (readTextBytes point.2)
      return (String.utf8EncodeChar (Char.ofNat point.1) ++ tail.1, tail.2) := by
  rw [Glyph.text, List.cons_append, List.cons_append, outcome_readTextBytes_escape,
    outcome_readEscape_coded]
  cases outcome (readCodePoint (unit.text ++ rest)) <;> rfl

theorem lt_of_shortEscape? {letter meaning : UInt8} (known : shortEscape? letter = some meaning) :
    meaning < 128 := by
  unfold shortEscape? at known
  split_ifs at known with itself
  · cases known
    rcases itself with rfl | rfl | rfl <;> decide
  all_goals
    cases known
    decide

/-- Glyphs behind the first half of a pair that do not begin with a code unit. -/
theorem outcome_readCodePoint_of_no_unit {unit : CodeUnit} (leads : unit.Leads)
    {glyphs : List Glyph} (noUnit : ∀ other more, glyphs ≠ .coded other :: more) (rest : Input) :
    outcome (readCodePoint (unit.text ++ (glyphs.flatMap Glyph.text ++ byte '"' :: rest))) =
      .error (.malformed .unfinishedSurrogatePair) := by
  rw [outcome_readCodePoint_of_leads leads]
  match glyphs with
  | [] =>
      have apart : byte '"' ≠ byte '\\' := by decide
      rw [List.flatMap_nil, List.nil_append, outcome_readTextByte_of_ne apart]
      rfl
  | .plain c printed noQuote noSlash :: glyphs =>
      obtain ⟨b, bytes, encoded⟩ := List.exists_cons_of_ne_nil (@String.utf8EncodeChar_ne_nil c)
      have verbatim := isVerbatim_of_mem_utf8EncodeChar printed noQuote noSlash b
        (by simp [encoded])
      rw [List.flatMap_cons, Glyph.text, encoded, List.cons_append, List.cons_append,
        outcome_readTextByte_of_ne verbatim.2.1]
      rfl
  | .short letter meaning known :: glyphs =>
      have apart : letter ≠ byte 'u' := by
        rintro rfl
        cases known
      rw [List.flatMap_cons, Glyph.text, List.append_assoc, List.cons_append, List.cons_append,
        outcome_readTextByte]
      simp only [bind, Except.bind]
      rw [outcome_readTextByte_of_ne apart]
  | .coded other :: glyphs => exact absurd rfl (noUnit other glyphs)

/-- A code unit behind the first half of a pair. -/
theorem outcome_readCodePoint_of_unit {unit : CodeUnit} (leads : unit.Leads) (other : CodeUnit)
    (rest : Input) :
    outcome (readCodePoint (unit.text ++ ((Glyph.coded other).text ++ rest))) =
      if other.Trails then .ok (joinSurrogates unit.value other.value, rest)
      else .error (.malformed .loneSurrogate) := by
  rw [outcome_readCodePoint_of_leads leads, Glyph.text, List.cons_append, List.cons_append,
    outcome_readTextByte]
  simp only [bind, Except.bind]
  rw [outcome_readTextByte]
  dsimp only
  rw [outcome_readCodeUnit]
  dsimp only
  by_cases trails : other.Trails
  · have within : ¬(other.value < 0xDC00 ∨ 0xDFFF < other.value) := by
      rw [CodeUnit.Trails] at trails
      omega
    rw [if_pos trails, if_neg within]
    rfl
  · have outside : other.value < 0xDC00 ∨ 0xDFFF < other.value := by
      rw [CodeUnit.Trails] at trails
      omega
    rw [if_neg trails, if_pos outside]

/-- The bytes of a string are those of the characters that its glyphs stand for. -/
theorem outcome_readTextBytes (glyphs : List Glyph) (rest : Input) :
    outcome (readTextBytes (glyphs.flatMap Glyph.text ++ byte '"' :: rest)) =
      (Glyph.decode glyphs).map fun cs => (cs.flatMap String.utf8EncodeChar, rest) := by
  fun_induction Glyph.decode glyphs with
  | case1 => exact outcome_readTextBytes_end rest
  | case2 c printed noQuote noSlash glyphs ih =>
      rw [List.flatMap_cons, List.append_assoc, Glyph.text,
        outcome_readTextBytes_append (isVerbatim_of_mem_utf8EncodeChar printed noQuote noSlash), ih]
      cases Glyph.decode glyphs <;> rfl
  | case3 letter meaning known glyphs ih =>
      rw [List.flatMap_cons, List.append_assoc, Glyph.text, List.cons_append, List.cons_append,
        List.nil_append, outcome_readTextBytes_escape, outcome_readEscape_short known]
      have tail := ih
      simp only [bind, Except.bind, tail]
      cases Glyph.decode glyphs with
      | error fault => rfl
      | ok cs =>
          have ascii := utf8EncodeChar_ofUInt8 (lt_of_shortEscape? known)
          simp [Except.map, pure, Except.pure, ascii]
  | case4 unit glyphs trails =>
      rw [List.flatMap_cons, List.append_assoc, outcome_readTextBytes_coded,
        outcome_readCodePoint_of_trails trails]
      rfl
  | case5 unit noTrail leads trail glyphs trails ih =>
      rw [List.flatMap_cons, List.append_assoc, outcome_readTextBytes_coded, List.flatMap_cons,
        List.append_assoc, outcome_readCodePoint_of_unit leads, if_pos trails]
      have tail := ih
      simp only [bind, Except.bind, tail]
      cases Glyph.decode glyphs <;> rfl
  | case6 unit noTrail leads other glyphs noPair =>
      rw [List.flatMap_cons, List.append_assoc, outcome_readTextBytes_coded, List.flatMap_cons,
        List.append_assoc, outcome_readCodePoint_of_unit leads, if_neg noPair]
      rfl
  | case7 unit glyphs noTrail leads noUnit =>
      rw [List.flatMap_cons, List.append_assoc, outcome_readTextBytes_coded,
        outcome_readCodePoint_of_no_unit leads fun other more same => noUnit other more same]
      rfl
  | case8 unit glyphs noTrail noLead ih =>
      rw [List.flatMap_cons, List.append_assoc, outcome_readTextBytes_coded,
        outcome_readCodePoint_of_single noTrail noLead]
      have tail := ih
      simp only [bind, Except.bind, tail]
      cases Glyph.decode glyphs <;> rfl

/-- A string is read as the text that its glyphs stand for. -/
theorem outcome_readQuotation (glyphs : List Glyph) (rest : Input) :
    outcome (readQuotation (glyphs.flatMap Glyph.text ++ byte '"' :: rest)) =
      (Glyph.string glyphs).map fun text => (text, rest) := by
  have gathered := outcome_readTextBytes glyphs rest
  rw [Glyph.string, readQuotation]
  cases decoded : Glyph.decode glyphs with
  | error fault =>
      rw [decoded] at gathered
      rw [eq_error_of_outcome gathered]
      rfl
  | ok cs =>
      rw [decoded] at gathered
      obtain ⟨shorter, read⟩ := eq_ok_of_outcome gathered
      rw [read]
      dsimp only
      rw [utf8Text?_flatMap]
      rfl

/-! ## Passing over a string -/

theorem outcome_skimQuotation_end (rest : Input) :
    outcome (skimQuotation (byte '"' :: rest)) = .ok ((), rest) := by
  rw [skimQuotation, if_pos rfl]
  rfl

theorem outcome_skimQuotation_append {bytes : List UInt8} (verbatim : ∀ b ∈ bytes, IsVerbatim b)
    (rest : Input) : outcome (skimQuotation (bytes ++ rest)) = outcome (skimQuotation rest) := by
  induction bytes with
  | nil => rw [List.nil_append]
  | cons b bytes ih =>
      obtain ⟨⟨noQuote, noSlash, printed⟩, later⟩ := List.forall_mem_cons.mp verbatim
      rw [List.cons_append, skimQuotation, if_neg noQuote, if_neg noSlash, if_neg printed,
        ← ih later]
      cases skimQuotation (bytes ++ rest) <;> rfl

theorem outcome_skimQuotation_escape (rest : Input) :
    outcome (skimQuotation (byte '\\' :: rest)) =
      (outcome (skimEscape rest)).bind fun escape => outcome (skimQuotation escape.2) := by
  have noQuote : byte '\\' ≠ byte '"' := by decide
  rw [skimQuotation, if_neg noQuote, if_pos rfl]
  cases skimEscape rest with
  | error fault => rfl
  | ok escape =>
      dsimp only
      cases second : skimQuotation escape.rest with
      | error fault => simp [Except.bind, second]
      | ok tail => simp [Except.bind, second]

/-- The glyphs of a string do not matter to one who passes over it. -/
theorem outcome_skimQuotation (glyphs : List Glyph) (rest : Input) :
    outcome (skimQuotation (glyphs.flatMap Glyph.text ++ byte '"' :: rest)) = .ok ((), rest) := by
  induction glyphs with
  | nil => exact outcome_skimQuotation_end rest
  | cons glyph glyphs ih =>
      rw [List.flatMap_cons, List.append_assoc]
      cases glyph with
      | plain c printed noQuote noSlash =>
          rw [Glyph.text, outcome_skimQuotation_append
            (isVerbatim_of_mem_utf8EncodeChar printed noQuote noSlash), ih]
      | short letter meaning known =>
          have passed (rest : Input) : outcome (skimEscape (letter :: rest)) = .ok ((), rest) := by
            simp [skimEscape, known]
          rw [Glyph.text, List.cons_append, List.cons_append, List.nil_append,
            outcome_skimQuotation_escape, passed]
          exact ih
      | coded unit =>
          have passed (rest : Input) :
              outcome (skimEscape (byte 'u' :: (unit.text ++ rest))) = .ok ((), rest) := by
            have unknown : ¬(shortEscape? (byte 'u')).isSome = true := by decide
            obtain ⟨shorter, read⟩ := eq_ok_of_outcome (outcome_readCodeUnit unit rest)
            rw [skimEscape, if_neg unknown, if_pos rfl, read]
            rfl
          rw [Glyph.text, List.cons_append, List.cons_append, outcome_skimQuotation_escape, passed]
          exact ih

end RouterTelemetry.Json
