import Mathlib.Data.List.DropRight
import RouterTelemetry.Proofs.InputEnds

/-!
# Passing over what can be read

Whatever is read as a value of some format can also be passed over, and both end at the same
byte.  Where the values of a document stand does therefore not depend on who reads it.
-/

namespace RouterTelemetry.Json

/-! ## Strings -/

section

variable {input rest : Input}

theorem outcome_skimQuotation_coded {unit : Nat}
    (read : outcome (readCodeUnit input) = .ok (unit, rest)) :
    outcome (skimQuotation (byte '\\' :: byte 'u' :: input)) = outcome (skimQuotation rest) := by
  have unknown : ¬(shortEscape? (byte 'u')).isSome = true := by decide
  obtain ⟨shorter, found⟩ := eq_ok_of_outcome read
  rw [outcome_skimQuotation_escape, skimEscape, if_neg unknown, if_pos rfl, found]
  rfl

theorem eq_cons_of_readTextByte {expected : UInt8} {otherwise : Flaw}
    {reading : Reading Unit input.length}
    (read : readTextByte expected otherwise input = .ok reading) :
    input = expected :: reading.rest := by
  cases input with
  | nil => cases read
  | cons b after =>
      rw [readTextByte] at read
      split_ifs at read with same
      cases read
      rw [same]

/-- The escape of a character outside of the basic plane is passed over as two. -/
theorem outcome_skimQuotation_codePoint {point : Nat}
    (read : outcome (readCodePoint input) = .ok (point, rest)) :
    outcome (skimQuotation (byte '\\' :: byte 'u' :: input)) = outcome (skimQuotation rest) := by
  obtain ⟨shorter, read⟩ := eq_ok_of_outcome read
  rw [readCodePoint] at read
  split at read
  · cases read
  next lead leadRead =>
    have first := outcome_skimQuotation_coded (by rw [leadRead]; rfl)
    split_ifs at read
    · cases read
      exact first
    split at read
    · cases read
    next slash slashRead =>
      split at read
      · cases read
      next letter letterRead =>
        split at read
        · cases read
        next trail trailRead =>
          split_ifs at read
          obtain ⟨_, rfl⟩ := (Reading.mk.injEq ..).mp (Except.ok.inj read)
          have second : lead.rest = byte '\\' :: byte 'u' :: letter.rest :=
            (eq_cons_of_readTextByte slashRead).trans
              (congrArg (byte '\\' :: ·) (eq_cons_of_readTextByte letterRead))
          exact (first.trans (congrArg (fun left => outcome (skimQuotation left)) second)).trans
            (outcome_skimQuotation_coded (by rw [trailRead]; rfl))

theorem outcome_skimQuotation_of_readEscape {bytes : List UInt8}
    (read : outcome (readEscape input) = .ok (bytes, rest)) :
    outcome (skimQuotation (byte '\\' :: input)) = outcome (skimQuotation rest) := by
  obtain ⟨shorter, read⟩ := eq_ok_of_outcome read
  cases input with
  | nil => cases read
  | cons b after =>
      rw [readEscape] at read
      split at read
      next meaning known =>
        cases read
        rw [outcome_skimQuotation_escape, skimEscape, if_pos (by rw [known]; rfl)]
        rfl
      · split_ifs at read with coded
        subst coded
        split at read
        · cases read
        next point pointRead =>
          cases read
          exact outcome_skimQuotation_codePoint (by rw [pointRead]; rfl)

theorem outcome_skimQuotation_of_readTextBytes {bytes : Reading (List UInt8) input.length}
    (read : readTextBytes input = .ok bytes) :
    outcome (skimQuotation input) = .ok ((), bytes.rest) := by
  fun_induction readTextBytes input with
  | case1 | case3 | case4 | case6 | case7 => cases read
  | case2 rest =>
      cases read
      exact outcome_skimQuotation_end rest
  | case5 rest escape escaped _ tail tailRead _ ih =>
      cases read
      rw [outcome_skimQuotation_of_readEscape (by rw [escaped]; rfl)]
      exact ih tailRead
  | case8 b rest noQuote noSlash printed tail tailRead ih =>
      cases read
      have verbatim : ∀ other ∈ [b], IsVerbatim other := by
        rw [List.forall_mem_singleton]
        exact ⟨noQuote, noSlash, printed⟩
      exact (outcome_skimQuotation_append verbatim rest).trans (ih tailRead)

/-- A string that is read is passed over. -/
theorem outcome_skimQuotation_of_readQuotation {text : String}
    (read : outcome (readQuotation input) = .ok (text, rest)) :
    outcome (skimQuotation input) = .ok ((), rest) := by
  obtain ⟨shorter, read⟩ := eq_ok_of_outcome read
  rw [readQuotation] at read
  split at read
  · cases read
  next bytes gathered =>
    split at read <;> cases read
    exact outcome_skimQuotation_of_readTextBytes gathered

end

/-! ## Numbers -/

section

variable {atEnd other : Fault} {input : Input}

theorem readDigits_of_ok {digits : Reading (List UInt8) input.length}
    (read : readDigits atEnd input = .ok digits) : readDigits other input = .ok digits := by
  cases input with
  | nil => cases read
  | cons b rest => exact read

theorem readWhole_of_ok {whole : Reading (List UInt8) input.length}
    (read : readWhole atEnd input = .ok whole) : readWhole other input = .ok whole := by
  cases input with
  | nil => cases read
  | cons b rest => exact read

theorem readFraction_of_ok {fraction : Option (List UInt8) × Rest input.length}
    (read : readFraction atEnd input = .ok fraction) :
    readFraction other input = .ok fraction := by
  cases input with
  | nil => exact read
  | cons b rest =>
      rw [readFraction] at read ⊢
      split_ifs at read ⊢
      · split at read
        · cases read
        next digits found => rwa [readDigits_of_ok found]
      · exact read

theorem readExponent_of_ok {exponent : Option (Bool × List UInt8) × Rest input.length}
    (read : readExponent atEnd input = .ok exponent) :
    readExponent other input = .ok exponent := by
  cases input with
  | nil => exact read
  | cons b rest =>
      rw [readExponent] at read ⊢
      split_ifs at read ⊢
      · dsimp only at read ⊢
        split at read
        · cases read
        next digits found => rwa [readDigits_of_ok found]
      · exact read

/-- A literal that ends is the same whatever is said of one that does not. -/
theorem readLiteral_of_ok {literal : Reading Literal input.length}
    (read : Literal.read atEnd input = .ok literal) : Literal.read other input = .ok literal := by
  rw [Literal.read] at read ⊢
  dsimp only at read ⊢
  split at read
  · cases read
  next whole wholeRead =>
    rw [readWhole_of_ok wholeRead]
    dsimp only
    split at read
    · cases read
    next fraction afterFraction le fractionRead =>
      rw [readFraction_of_ok fractionRead]
      dsimp only
      split at read
      · cases read
      next exponent rest le' exponentRead =>
        rw [readExponent_of_ok exponentRead]
        exact read

end

/-! ## Values -/

section

variable {input : Input}

/-- Blanks before a value make no difference. -/
theorem outcome_skimValue_skipBlank (input : Input) :
    outcome (skimValue (skipBlank input).val) = outcome (skimValue input) := by
  have twice : (skipBlank (skipBlank input).val).val = (skipBlank input).val :=
    List.dropWhile_idempotent isBlank input
  cases start : (skipBlank input).val with
  | nil =>
      obtain ⟨le, skipped⟩ := exists_skipBlank start
      rw [skimValue, skimValue, skipped]
      rfl
  | cons b rest =>
      rw [start] at twice
      rw [outcome_skimValue twice, outcome_skimValue start]

theorem outcome_map {α β : Type} {bound : Nat} (result : Except Fault α)
    (f : α → Reading β bound) :
    outcome (result.map f) = result.map fun value => ((f value).value, (f value).rest) := by
  cases result <;> rfl

/-- A value is passed over behind its head: nothing is left of a scalar. -/
def skimBehind (rest : Input) : Head → Except Fault (Unit × Input)
  | .list => outcome (skimItems true rest)
  | .object => outcome (skimMembers true rest)
  | .null | .boolean _ | .number _ | .text _ => .ok ((), rest)

theorem outcome_skimValue_of_readHead {head : Head} {rest : Input}
    (read : outcome (readHead input) = .ok (head, rest)) :
    outcome (skimValue input) = skimBehind rest head := by
  have read : outcome (readHeadHere (skipBlank input).val) = .ok (head, rest) :=
    (outcome_map_widen _ (skipBlank input).property).symm.trans read
  cases start : (skipBlank input).val with
  | nil =>
      rw [start] at read
      cases read
  | cons b after =>
      rw [start, readHeadHere_cons] at read
      rw [outcome_skimValue start]
      split_ifs at read ⊢
      · cases read
        rfl
      · cases read
        rfl
      · obtain ⟨text, found, same⟩ := map_eq_ok_iff.mp ((outcome_map ..).symm.trans read)
        cases same
        exact outcome_skimQuotation_of_readQuotation (by rw [found]; rfl)
      · obtain ⟨after, found, same⟩ := map_eq_ok_iff.mp ((outcome_map ..).symm.trans read)
        cases same
        rw [found]
        rfl
      · obtain ⟨after, found, same⟩ := map_eq_ok_iff.mp ((outcome_map ..).symm.trans read)
        cases same
        rw [found]
        rfl
      · obtain ⟨after, found, same⟩ := map_eq_ok_iff.mp ((outcome_map ..).symm.trans read)
        cases same
        rw [found]
        rfl
      · obtain ⟨number, found, same⟩ := map_eq_ok_iff.mp ((outcome_map ..).symm.trans read)
        cases same
        rw [readNumber] at found
        split at found
        · cases found
        next literal literalRead =>
          obtain ⟨value, _, rfl⟩ := map_eq_ok_iff.mp found
          rw [readLiteral_of_ok literalRead]
          rfl
      · cases read

end

/-! ## Items and members -/

section

variable {input here rest : Input} {first : Bool}

theorem outcome_skimItems_closed (decided : decision (nextItem first input) = .ok (none, rest)) :
    outcome (skimItems first input) = .ok ((), rest) := by
  obtain ⟨turn, found, same⟩ := map_eq_ok_iff.mp decided
  rw [nextItem] at found
  split at found
  · cases found
  next b after le skipped =>
    dsimp only at found
    rw [outcome_skimItems first (by rw [skipped])]
    split_ifs at found ⊢
    · cases found
      cases same
      rfl
    · cases found
      cases same
    · split at found
      · cases found
      · split_ifs at found
        cases found
        cases same

theorem outcome_skimItems_next (decided : decision (nextItem first input) = .ok (some (), here)) :
    outcome (skimItems first input) = (do
      let item ← outcome (skimValue here)
      outcome (skimItems false item.2)) := by
  obtain ⟨turn, found, same⟩ := map_eq_ok_iff.mp decided
  rw [nextItem] at found
  split at found
  · cases found
  next b after le skipped =>
    dsimp only at found
    rw [outcome_skimItems first (by rw [skipped])]
    split_ifs at found ⊢
    · cases found
      cases same
    · cases found
      cases same
      rfl
    · split at found
      · cases found
      next c later le' skipped' =>
        split_ifs at found
        cases found
        cases same
        have start : (skipBlank after).val = c :: later := by rw [skipped']
        rw [← outcome_skimValue_skipBlank after, start]

theorem outcome_skimMembers_closed
    (decided : decision (nextMember first input) = .ok (none, rest)) :
    outcome (skimMembers first input) = .ok ((), rest) := by
  obtain ⟨turn, found, same⟩ := map_eq_ok_iff.mp decided
  rw [nextMember] at found
  split at found
  · cases found
  next b after le skipped =>
    dsimp only at found
    rw [outcome_skimMembers first (by rw [skipped])]
    split_ifs at found ⊢
    · cases found
      cases same
      rfl
    · obtain ⟨key, _, same'⟩ := map_eq_ok_iff.mp found
      cases same'
      cases same
    · split at found
      · cases found
      · split_ifs at found
        obtain ⟨key, _, same'⟩ := map_eq_ok_iff.mp found
        cases same'
        cases same

/-- A key that is read is passed over, so its value is next. -/
theorem outcome_skimMember_of_readQuotation {key : String} {afterKey : Input}
    (start : (skipBlank input).val = byte '"' :: rest)
    (quoted : outcome (readQuotation rest) = .ok (key, afterKey)) :
    outcome (skimMember input) = (do
      let colon ← outcome (readColon afterKey)
      outcome (skimValue colon.2)) := by
  rw [outcome_skimMember start, outcome_skimQuotation_of_readQuotation quoted]
  rfl

theorem outcome_skimMembers_next {key : String} {afterKey : Input}
    (decided : decision (nextMember first input) = .ok (some key, afterKey)) :
    outcome (skimMembers first input) = (do
      let colon ← outcome (readColon afterKey)
      let value ← outcome (skimValue colon.2)
      outcome (skimMembers false value.2)) := by
  obtain ⟨turn, found, same⟩ := map_eq_ok_iff.mp decided
  rw [nextMember] at found
  split at found
  · cases found
  next b after le skipped =>
    dsimp only at found
    rw [outcome_skimMembers first (by rw [skipped])]
    split_ifs at found ⊢
    · cases found
      cases same
    · obtain ⟨quotation, quoted, same'⟩ := map_eq_ok_iff.mp found
      cases same'
      cases same
      have quoted : outcome (readQuotation after) = .ok (quotation.value, quotation.rest) := by
        rw [quoted]
        rfl
      rw [outcome_skimMember_of_readQuotation (by subst_vars; rfl) quoted, bind_assoc]
    · split at found
      · cases found
      next c later le' skipped' =>
        split_ifs at found with quote
        obtain ⟨quotation, quoted, same'⟩ := map_eq_ok_iff.mp found
        cases same'
        cases same
        have quoted : outcome (readQuotation later) = .ok (quotation.value, quotation.rest) := by
          rw [quoted]
          rfl
        have start : (skipBlank after).val = byte '"' :: later := by rw [skipped', quote]
        rw [outcome_skimMember_of_readQuotation start quoted, bind_assoc]

end

/-! ## Formats -/

/-- Whatever the reader reads can be passed over, to the same end. -/
def Skims {α : Type} (reader : Reader α) : Prop :=
  ∀ ⦃input rest : Input⦄ ⦃value : α⦄, outcome (reader input) = .ok (value, rest) →
    outcome (skimValue input) = .ok ((), rest)

theorem Skims.items {α : Type} {item : Reader α} (skims : Skims item) {first : Bool}
    {input : Input} {items : Reading (List α) input.length}
    (found : readItems item first input = .ok items) :
    outcome (skimItems first input) = .ok ((), items.rest) := by
  fun_induction readItems item first input with
  | case1 | case3 | case4 => cases found
  | case2 first input rest shorter decided =>
      cases found
      exact outcome_skimItems_closed (by rw [decided]; rfl)
  | case5 first input _ here le decided head headRead _ tail tailRead ih =>
      cases found
      rw [outcome_skimItems_next (by rw [decided]; rfl), skims (by rw [headRead]; rfl)]
      exact ih tailRead

theorem Skims.members {σ : Type} {entry : String → σ → Except Fault (Reader σ)}
    (skims : ∀ {key state reader}, entry key state = .ok reader → Skims reader) {first : Bool}
    {state : σ} {input : Input} {members : Reading σ input.length}
    (found : readMembers entry first state input = .ok members) :
    outcome (skimMembers first input) = .ok ((), members.rest) := by
  fun_induction readMembers entry first state input with
  | case1 | case3 | case4 | case5 | case6 => cases found
  | case2 first state input rest shorter decided =>
      cases found
      exact outcome_skimMembers_closed (by rw [decided]; rfl)
  | case7 first state input key afterKey le decided reader entered colon colonRead value valueRead
      _ tail tailRead ih =>
      cases found
      have passed := skims entered (by rw [valueRead]; rfl)
      rw [outcome_skimMembers_next (by rw [decided]; rfl), colonRead]
      simp only [outcome_ok, bind, Except.bind, passed]
      exact ih tailRead

theorem skims_readValue (depth : Nat) : Skims (readValue depth) := by
  induction depth with
  | zero =>
      intro input rest value read
      rw [outcome_readValue] at read
      obtain ⟨⟨head, after⟩, headRead, read⟩ := bind_eq_ok_iff.mp read
      rw [outcome_skimValue_of_readHead headRead]
      cases head <;> cases read <;> rfl
  | succ depth ih =>
      intro input rest value read
      rw [outcome_readValue] at read
      obtain ⟨⟨head, after⟩, headRead, read⟩ := bind_eq_ok_iff.mp read
      rw [outcome_skimValue_of_readHead headRead]
      cases head with
      | list =>
          obtain ⟨⟨items, left⟩, found, same⟩ := map_eq_ok_iff.mp read
          cases same
          obtain ⟨shorter, found⟩ := eq_ok_of_outcome found
          exact ih.items found
      | object =>
          obtain ⟨⟨members, left⟩, found, same⟩ := map_eq_ok_iff.mp read
          cases same
          obtain ⟨shorter, found⟩ := eq_ok_of_outcome found
          refine Skims.members ?_ found
          intro key state reader entered input rest value read
          cases entered
          rw [outcome_map_map] at read
          obtain ⟨⟨value, left⟩, valueRead, same⟩ := map_eq_ok_iff.mp read
          cases same
          exact ih valueRead
      | _ =>
          cases read
          rfl

theorem decision_nextItem_of_readListEnd {input rest : Input} (first : Bool)
    (read : outcome (readListEnd input) = .ok ((), rest)) :
    decision (nextItem first input) = .ok (none, rest) := by
  obtain ⟨shorter, read⟩ := eq_ok_of_outcome read
  rw [readListEnd] at read
  split at read
  · cases read
  next b after le skipped =>
    split_ifs at read with close
    · cases read
      exact decision_nextItem_of_close first (by rw [skipped, close])
    · split at read
      · cases read
      · split_ifs at read

mutual

/-- What a format reads can be passed over. -/
theorem Format.skims {α : Type} (format : Format α) (depth : Nat) : Skims (format.read depth) := by
  match format with
  | .measure =>
      intro input rest value read
      have read : outcome (readMeasure depth input) = .ok (value, rest) := read
      rw [readMeasure, outcome_map_map] at read
      obtain ⟨⟨whole, left⟩, found, same⟩ := map_eq_ok_iff.mp read
      cases same
      exact skims_readValue depth found
  | .any => exact skims_readValue depth
  | .text =>
      intro input rest value read
      rw [outcome_read_text] at read
      obtain ⟨⟨head, after⟩, headRead, read⟩ := bind_eq_ok_iff.mp read
      rw [outcome_skimValue_of_readHead headRead]
      cases head <;> cases read
      rfl
  | .list item =>
      intro input rest value read
      rw [outcome_read_list] at read
      obtain ⟨⟨head, after⟩, headRead, read⟩ := bind_eq_ok_iff.mp read
      rw [outcome_skimValue_of_readHead headRead]
      cases head with
      | list =>
          cases depth with
          | zero => cases read
          | succ depth =>
              obtain ⟨shorter, found⟩ := eq_ok_of_outcome read
              exact (item.skims depth).items found
      | _ => cases read
  | .record name blank members =>
      intro input rest value read
      rw [outcome_read_record] at read
      obtain ⟨⟨head, after⟩, headRead, read⟩ := bind_eq_ok_iff.mp read
      rw [outcome_skimValue_of_readHead headRead]
      cases head with
      | list =>
          cases depth with
          | zero => cases read
          | succ depth => exact members.skimmed_of_readPlaces read
      | object =>
          cases depth with
          | zero => cases read
          | succ depth =>
              obtain ⟨⟨filling, left⟩, found, complete⟩ := bind_eq_ok_iff.mp read
              dsimp only at complete
              split at complete <;> cases complete
              obtain ⟨shorter, found⟩ := eq_ok_of_outcome found
              exact Skims.members (members.skims_entry) found
      | _ => cases read

theorem Members.skims_entry {α : Type} (members : Members α) {depth : Nat} {key : String}
    {filling : Filling α} {reader : Reader (Filling α)}
    (entered : members.entry depth key filling = .ok reader) : Skims reader := by
  match members with
  | .nil =>
      cases entered
      intro input rest value read
      rw [outcome_map_map] at read
      obtain ⟨⟨_, left⟩, found, same⟩ := map_eq_ok_iff.mp read
      cases same
      exact found
  | .cons _ name aliases _ format get set members =>
      rw [Members.entry] at entered
      split_ifs at entered with named repeated
      · cases entered
        intro input rest value read
        rw [outcome_map_map] at read
        obtain ⟨⟨value, left⟩, found, same⟩ := map_eq_ok_iff.mp read
        cases same
        exact format.skims depth found
      · exact members.skims_entry entered

theorem Members.skimmed_of_readPlaces {α : Type} (members : Members α) {depth : Nat}
    {name : String} {size position : Nat} {record after : α} {input rest : Input}
    (read : outcome (members.readPlaces depth name size position record input) =
      .ok (after, rest)) :
    outcome (skimItems (position == 0) input) = .ok ((), rest) := by
  match members with
  | .nil =>
      rw [Members.readPlaces, outcome_map_map] at read
      obtain ⟨⟨_, left⟩, found, same⟩ := map_eq_ok_iff.mp read
      cases same
      exact outcome_skimItems_closed (decision_nextItem_of_readListEnd _ found)
  | .cons _ _ _ _ format get set members =>
      rw [outcome_readPlaces] at read
      obtain ⟨⟨turn, here⟩, decided, read⟩ := bind_eq_ok_iff.mp read
      cases turn with
      | none =>
          obtain ⟨left, stopped, same⟩ := map_eq_ok_iff.mp read
          cases same
          exact outcome_skimItems_closed decided
      | some =>
          obtain ⟨⟨value, left⟩, found, read⟩ := bind_eq_ok_iff.mp read
          rw [outcome_skimItems_next decided, format.skims depth found]
          exact members.skimmed_of_readPlaces read

end

end RouterTelemetry.Json
