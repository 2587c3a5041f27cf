import RouterTelemetry.Proofs.FiniteNumbers
import RouterTelemetry.Proofs.InputEnds
import RouterTelemetry.Proofs.LawfulPages

/-!
# Where measures come from

A measure of a document has a quantity that is finite, or that a string in the document spells.
-/

namespace RouterTelemetry

/-- The quantity of the measure, if there is one, is allowed. -/
def Measure.All (allowed : Float → Prop) (measure : Measure) : Prop :=
  ∀ quantity, measure = .value quantity → allowed quantity

@[simp]
theorem Measure.all_missing (allowed : Float → Prop) : Measure.missing.All allowed := by
  intro quantity isValue
  cases isValue

namespace Json

/-! ## Strings in a text -/

/-- A string of this text stands in the input. -/
def Quotes (input : Input) (text : String) : Prop :=
  ∃ rest after, byte '"' :: rest <:+ input ∧ outcome (readQuotation rest) = .ok (text, after)

theorem Quotes.mono {shorter input : Input} {text : String} (quotes : Quotes shorter text)
    (suffix : shorter <:+ input) : Quotes input text := by
  obtain ⟨rest, after, here, read⟩ := quotes
  exact ⟨rest, after, here.trans suffix, read⟩

/-- The quantity is finite, or a string in the input spells it. -/
def Sourced (input : Input) (quantity : Float) : Prop :=
  quantity.isFinite = true ∨ ∃ text, Quotes input text ∧ Decimal.parse? text = some quantity

theorem Sourced.mono {shorter input : Input} {quantity : Float} (sourced : Sourced shorter quantity)
    (suffix : shorter <:+ input) : Sourced input quantity := by
  rcases sourced with finite | ⟨text, quotes, spelled⟩
  · exact .inl finite
  · exact .inr ⟨text, quotes.mono suffix, spelled⟩

theorem parse?_of_quantityOfText {text : String} {quantity : Float}
    (spelled : quantityOfText text = .ok quantity) : Decimal.parse? text = some quantity := by
  rw [quantityOfText] at spelled
  split at spelled
  next found =>
    cases spelled
    exact found
  · cases spelled

/-- A number is finite, and a string is in the input. -/
theorem sourced_of_readHeadHere {input : Input} {head : Reading Head input.length}
    {quantity : Float} (read : readHeadHere input = .ok head)
    (isQuantity : quantityOfHead head.value = .ok quantity) : Sourced input quantity := by
  cases input with
  | nil => cases read
  | cons b after =>
      rw [readHeadHere_cons] at read
      split_ifs at read with list object quote null yes no number
      · cases read
        cases isQuantity
      · cases read
        cases isQuantity
      · obtain ⟨text, found, rfl⟩ := map_eq_ok_iff.mp read
        refine .inr ⟨text.value, ⟨after, text.rest, ?_, ?_⟩, parse?_of_quantityOfText isQuantity⟩
        · rw [quote]
        · rw [found]
          rfl
      · obtain ⟨_, _, rfl⟩ := map_eq_ok_iff.mp read
        cases isQuantity
      · obtain ⟨_, _, rfl⟩ := map_eq_ok_iff.mp read
        cases isQuantity
      · obtain ⟨_, _, rfl⟩ := map_eq_ok_iff.mp read
        cases isQuantity
      · obtain ⟨reading, found, rfl⟩ := map_eq_ok_iff.mp read
        rw [readNumber] at found
        split at found
        · cases found
        · obtain ⟨number, accepted, rfl⟩ := map_eq_ok_iff.mp found
          cases isQuantity
          exact .inl (Literal.isFinite_number accepted)

theorem sourced_of_readHead {input rest : Input} {head : Head} {quantity : Float}
    (read : outcome (readHead input) = .ok (head, rest))
    (isQuantity : quantityOfHead head = .ok quantity) : Sourced input quantity := by
  obtain ⟨shorter, read⟩ := eq_ok_of_outcome read
  obtain ⟨here, found, same⟩ := map_eq_ok_iff.mp read
  cases same
  exact (sourced_of_readHeadHere found isQuantity).mono (skipBlank_suffix input)

/-! ## Readers of values -/

theorem decision_nextItem_suffix {first : Bool} {input rest : Input} {turn : Option Unit}
    (decided : decision (nextItem first input) = .ok (turn, rest)) : rest <:+ input := by
  obtain ⟨whole, found, same⟩ := map_eq_ok_iff.mp decided
  have suffix := nextItem_suffix found
  cases whole <;> cases same <;> exact suffix

section

variable {α : Type} {item : Reader α} {P : Input → α → Prop}

/-- The items of a list are fewer than the bytes that they are read from. -/
theorem drawn_readItems
    (mono : ∀ {shorter input value}, P shorter value → shorter <:+ input → P input value)
    (read : ∀ {input value rest},
      outcome (item input) = .ok (value, rest) → rest <:+ input ∧ P input value)
    {first : Bool} {input : Input} {items : Reading (List α) input.length}
    (found : readItems item first input = .ok items) :
    items.rest <:+ input ∧ items.value.length + items.rest.length < input.length ∧
      ∀ value ∈ items.value, P input value := by
  fun_induction readItems item first input with
  | case1 | case3 | case4 => cases found
  | case2 first input rest shorter decided =>
      cases found
      exact ⟨nextItem_suffix decided, by simpa using shorter, by simp⟩
  | case5 first input _ here le decided head headRead _ tail tailRead ih =>
      cases found
      obtain ⟨suffix, longer, all⟩ := ih tailRead
      obtain ⟨headSuffix, holds⟩ := read (by rw [headRead]; rfl)
      have start := nextItem_suffix decided
      have shorter := head.shorter
      refine ⟨suffix.trans (headSuffix.trans start), by simp only [List.length_cons]; omega, ?_⟩
      rintro value (_ | ⟨_, member⟩)
      · exact mono holds start
      · exact mono (all value member) (headSuffix.trans start)

end

section

variable {σ : Type} {entry : String → σ → Except Fault (Reader σ)}
  {R : Input → σ → Input → σ → Prop}

/-- What every member does to a state is done by all of them, if steps may follow each other. -/
theorem relates_readMembers
    (skip : ∀ {input rest : Input} {state : σ}, rest <:+ input → R input state rest state)
    (trans : ∀ {input middle rest : Input} {state between after : σ},
      R input state middle between → R middle between rest after → R input state rest after)
    (read : ∀ {key state reader input after rest}, entry key state = .ok reader →
      outcome (reader input) = .ok (after, rest) → R input state rest after)
    {first : Bool} {state : σ} {input : Input} {members : Reading σ input.length}
    (found : readMembers entry first state input = .ok members) :
    R input state members.rest members.value := by
  fun_induction readMembers entry first state input with
  | case1 | case3 | case4 | case5 | case6 => cases found
  | case2 first state input rest shorter decided =>
      cases found
      exact skip (nextMember_suffix decided)
  | case7 first state input key afterKey le decided reader entered colon colonRead value valueRead
      _ tail tailRead ih =>
      cases found
      have start := (ends_readColon afterKey colon colonRead).trans (nextMember_suffix decided)
      have one := read entered (by rw [valueRead]; rfl)
      exact trans (trans (skip start) one) (ih tailRead)

end

/-- A value leaves an end of its input. -/
theorem readValue_suffix (depth : Nat) {input rest : Input} {value : Value}
    (read : outcome (readValue depth input) = .ok (value, rest)) : rest <:+ input := by
  induction depth generalizing input rest value with
  | zero =>
      rw [outcome_readValue] at read
      obtain ⟨⟨head, after⟩, headRead, read⟩ := bind_eq_ok_iff.mp read
      have suffix := ends_outcome_iff.mp (ends_readHead input) _ _ headRead
      cases head <;> cases read <;> exact suffix
  | succ depth ih =>
      rw [outcome_readValue] at read
      obtain ⟨⟨head, after⟩, headRead, read⟩ := bind_eq_ok_iff.mp read
      have suffix := ends_outcome_iff.mp (ends_readHead input) _ _ headRead
      cases head with
      | list =>
          obtain ⟨⟨items, left⟩, found, same⟩ := map_eq_ok_iff.mp read
          cases same
          obtain ⟨shorter, found⟩ := eq_ok_of_outcome found
          have inner := drawn_readItems (P := fun _ _ => True) (fun _ _ => trivial)
            (fun read => ⟨ih read, trivial⟩) found
          exact inner.1.trans suffix
      | object =>
          obtain ⟨⟨members, left⟩, found, same⟩ := map_eq_ok_iff.mp read
          cases same
          obtain ⟨shorter, found⟩ := eq_ok_of_outcome found
          refine (relates_readMembers (R := fun input _ rest _ => rest <:+ input) id
            (fun first second => second.trans first) ?_ found).trans suffix
          intro key state reader input after rest entered read
          cases entered
          rw [outcome_map_map] at read
          obtain ⟨⟨value, left⟩, valueRead, same⟩ := map_eq_ok_iff.mp read
          cases same
          exact ih valueRead
      | _ =>
          cases read
          exact suffix

/-- The quantity of a value comes from the input. -/
theorem sourced_of_readValue {depth : Nat} {input rest : Input} {value : Value} {quantity : Float}
    (read : outcome (readValue depth input) = .ok (value, rest))
    (isQuantity : quantityOfValue value = .ok quantity) : Sourced input quantity := by
  rw [outcome_readValue] at read
  obtain ⟨⟨head, after⟩, headRead, read⟩ := bind_eq_ok_iff.mp read
  cases head with
  | null | boolean =>
      cases read
      cases isQuantity
  | number | text =>
      cases read
      exact sourced_of_readHead headRead isQuantity
  | list =>
      cases depth with
      | zero => cases read
      | succ depth =>
          obtain ⟨_, _, same⟩ := map_eq_ok_iff.mp read
          cases same
          cases isQuantity
  | object =>
      cases depth with
      | zero => cases read
      | succ depth =>
          obtain ⟨_, _, same⟩ := map_eq_ok_iff.mp read
          cases same
          cases isQuantity

/-! ## Values of a format -/

mutual

/-- Every quantity in the value is allowed, and no list in it is longer than the bound. -/
def Format.Every {α : Type} (allowed : Float → Prop) (bound : Nat) : Format α → α → Prop
  | .measure, measure => measure.All allowed
  | .text, _ | .any, _ => True
  | .list item, items => items.length ≤ bound ∧ ∀ value ∈ items, item.Every allowed bound value
  | .record _ _ members, record => members.Every allowed bound record

/-- Every member of the record is so. -/
def Members.Every {α : Type} (allowed : Float → Prop) (bound : Nat) : Members α → α → Prop
  | .nil, _ => True
  | .cons _ _ _ _ format get _ rest, record =>
      format.Every allowed bound (get record) ∧ rest.Every allowed bound record

end

section

variable {allowed wider : Float → Prop} {bound larger : Nat}

mutual

theorem Format.every_mono {α : Type} (format : Format α)
    (implies : ∀ quantity, allowed quantity → wider quantity) (le : bound ≤ larger) :
    ∀ {value : α}, format.Every allowed bound value → format.Every wider larger value := by
  match format with
  | .measure =>
      intro measure every quantity isValue
      exact implies quantity (every quantity isValue)
  | .text | .any =>
      intro value _
      trivial
  | .list item =>
      rintro items ⟨short, all⟩
      exact ⟨short.trans le, fun value member => item.every_mono implies le (all value member)⟩
  | .record _ _ members =>
      intro record every
      exact members.every_mono implies le every

theorem Members.every_mono {α : Type} (members : Members α)
    (implies : ∀ quantity, allowed quantity → wider quantity) (le : bound ≤ larger) :
    ∀ {record : α}, members.Every allowed bound record → members.Every wider larger record := by
  match members with
  | .nil =>
      intro record _
      trivial
  | .cons _ _ _ _ format _ _ rest =>
      rintro record ⟨first, others⟩
      exact ⟨format.every_mono implies le first, rest.every_mono implies le others⟩

end

end

/-- Every quantity in the value comes from the input, and no list in it is longer. -/
abbrev Format.Drawn {α : Type} (input : Input) (format : Format α) (value : α) : Prop :=
  format.Every (Sourced input) input.length value

/-- Every member of the record is drawn from the input. -/
abbrev Members.Drawn {α : Type} (input : Input) (members : Members α) (record : α) : Prop :=
  members.Every (Sourced input) input.length record

section

variable {α : Type} {shorter input : Input} (suffix : shorter <:+ input)

include suffix

theorem Format.drawn_mono (format : Format α) {value : α} (drawn : format.Drawn shorter value) :
    format.Drawn input value :=
  format.every_mono (fun _ sourced => sourced.mono suffix) suffix.length_le drawn

theorem Members.drawn_mono (members : Members α) {record : α}
    (drawn : members.Drawn shorter record) : members.Drawn input record :=
  members.every_mono (fun _ sourced => sourced.mono suffix) suffix.length_le drawn

end

mutual

/-- Records start without quantities and without items. -/
def Format.FromNothing {α : Type} : Format α → Prop
  | .measure | .text | .any => True
  | .list item => item.FromNothing
  | .record _ blank members =>
      members.Every (fun _ => False) 0 blank ∧ members.AllFromNothing

/-- The records of all members do. -/
def Members.AllFromNothing {α : Type} : Members α → Prop
  | .nil => True
  | .cons _ _ _ _ format _ _ rest => format.FromNothing ∧ rest.AllFromNothing

end

/-! ## Filling a record -/

section

variable {α β : Type}

/-- From the input to the rest, a record has got members that come from the input. -/
structure Members.Filled (members : Members α) (input : Input) (record : α) (rest : Input)
    (record' : α) : Prop where
  suffix : rest <:+ input
  others : ∀ {γ : Type} (get : α → γ) (set : γ → α → α), members.AllApart get set →
    get record' = get record
  drawn : ∀ whole, input <:+ whole → members.Drawn whole record → members.Drawn whole record'

theorem Members.Filled.skip {members : Members α} {input rest : Input} {record : α}
    (suffix : rest <:+ input) : members.Filled input record rest record :=
  ⟨suffix, fun _ _ _ => rfl, fun _ _ drawn => drawn⟩

theorem Members.Filled.trans {members : Members α} {input middle rest : Input}
    {record between after : α} (first : members.Filled input record middle between)
    (second : members.Filled middle between rest after) :
    members.Filled input record rest after where
  suffix := second.suffix.trans first.suffix
  others get set apart := (second.others get set apart).trans (first.others get set apart)
  drawn whole suffix drawn :=
    second.drawn whole (first.suffix.trans suffix) (first.drawn whole suffix drawn)

/-- Setting a member leaves those apart from it as they are. -/
theorem Members.every_set {allowed : Float → Prop} {bound : Nat} {members : Members α}
    {get : α → β} {set : β → α → α} {record : α} (every : members.Every allowed bound record)
    (apart : members.AllApart get set) (value : β) :
    members.Every allowed bound (set value record) := by
  match members with
  | .nil => trivial
  | .cons _ _ _ _ format get' set' rest =>
      refine ⟨?_, every_set every.2 apart.2 value⟩
      rw [apart.1.keeps]
      exact every.1

variable {label key : String} {aliases : List String} {required : Bool} {format : Format β}
  {get : α → β} {set : β → α → α} {members : Members α} {input rest : Input} {record : α}

theorem Members.Filled.here (accessors : Accessors get set) (apart : members.AllApart get set)
    {value : β} (suffix : rest <:+ input) (drawn : format.Drawn input value) :
    (Members.cons label key aliases required format get set members).Filled input record rest
      (set value record) where
  suffix := suffix
  others _ _ allApart := allApart.1.kept value record
  drawn whole inWhole before := by
    refine ⟨?_, Members.every_set before.2 apart value⟩
    rw [accessors.get_set]
    exact format.drawn_mono inWhole drawn

theorem Members.Filled.later (apart : members.AllApart get set) {record' : α}
    (filled : members.Filled input record rest record') :
    (Members.cons label key aliases required format get set members).Filled input record rest
      record' where
  suffix := filled.suffix
  others get set allApart := filled.others get set allApart.2
  drawn whole inWhole before := by
    refine ⟨?_, filled.drawn whole inWhole before.2⟩
    rw [filled.others get set apart]
    exact before.1

end

/-! ## The reader of a format -/

mutual

/-- What a format reads comes from the input. -/
theorem Format.drawn_of_read {α : Type} (format : Format α) {depth : Nat} {input rest : Input} :
    ∀ {value : α}, format.Lawful → format.FromNothing →
      outcome (format.read depth input) = .ok (value, rest) →
      rest <:+ input ∧ format.Drawn input value := by
  match format with
  | .measure =>
      intro value lawful fromNothing read
      have read : outcome (readMeasure depth input) = .ok (value, rest) := read
      rw [readMeasure, outcome_map_map] at read
      obtain ⟨⟨whole, left⟩, found, same⟩ := map_eq_ok_iff.mp read
      cases same
      refine ⟨readValue_suffix depth found, fun quantity isValue => ?_⟩
      simp only [Measure.ofValue] at isValue
      split at isValue
      next spelled =>
        cases isValue
        exact sourced_of_readValue found spelled
      · cases isValue
  | .any =>
      intro value lawful fromNothing read
      exact ⟨readValue_suffix depth read, trivial⟩
  | .text =>
      intro value lawful fromNothing read
      rw [outcome_read_text] at read
      obtain ⟨⟨head, after⟩, headRead, read⟩ := bind_eq_ok_iff.mp read
      have suffix := ends_outcome_iff.mp (ends_readHead input) _ _ headRead
      cases head <;> cases read
      exact ⟨suffix, trivial⟩
  | .list item =>
      intro value lawful fromNothing read
      rw [outcome_read_list] at read
      obtain ⟨⟨head, after⟩, headRead, read⟩ := bind_eq_ok_iff.mp read
      have suffix := ends_outcome_iff.mp (ends_readHead input) _ _ headRead
      cases head with
      | list =>
          cases depth with
          | zero => cases read
          | succ depth =>
              obtain ⟨shorter, found⟩ := eq_ok_of_outcome read
              obtain ⟨inner, count, all⟩ := drawn_readItems (P := fun input => item.Drawn input)
                (fun drawn suffix => item.drawn_mono suffix drawn)
                (item.drawn_of_read lawful fromNothing) found
              refine ⟨inner.trans suffix, ?_, fun value member =>
                item.drawn_mono suffix (all value member)⟩
              have := suffix.length_le
              dsimp only at count
              omega
      | _ => cases read
  | .record name blank members =>
      intro value lawful fromNothing read
      rw [outcome_read_record] at read
      obtain ⟨⟨head, after⟩, headRead, read⟩ := bind_eq_ok_iff.mp read
      have suffix := ends_outcome_iff.mp (ends_readHead input) _ _ headRead
      have blankDrawn : members.Drawn after blank := 
        members.every_mono (fun _ => False.elim) after.length.zero_le fromNothing.1
      cases head with
      | list =>
          cases depth with
          | zero => cases read
          | succ depth =>
              have filled := members.filled_of_readPlaces lawful.1 lawful.2 fromNothing.2 read
              exact ⟨filled.suffix.trans suffix,
                members.drawn_mono suffix (filled.drawn after List.suffix_rfl blankDrawn)⟩
      | object =>
          cases depth with
          | zero => cases read
          | succ depth =>
              obtain ⟨⟨filling, left⟩, found, complete⟩ := bind_eq_ok_iff.mp read
              dsimp only at complete
              split at complete
              · cases complete
              · cases complete
                obtain ⟨shorter, found⟩ := eq_ok_of_outcome found
                have filled := relates_readMembers
                  (R := fun input filling rest filling' =>
                    members.Filled input filling.record rest filling'.record)
                  Members.Filled.skip Members.Filled.trans
                  (fun entered read => members.filled_of_entry lawful.1 lawful.2 fromNothing.2
                    entered read) found
                exact ⟨filled.suffix.trans suffix,
                  members.drawn_mono suffix (filled.drawn after List.suffix_rfl blankDrawn)⟩
      | _ => cases read

theorem Members.filled_of_entry {α : Type} (members : Members α) (lawful : members.Lawful)
    (allLawful : members.AllLawful) (fromNothing : members.AllFromNothing) {depth : Nat}
    {key : String} {filling after : Filling α} {reader : Reader (Filling α)} {input rest : Input}
    (entered : members.entry depth key filling = .ok reader)
    (read : outcome (reader input) = .ok (after, rest)) :
    members.Filled input filling.record rest after.record := by
  match members with
  | .nil =>
      cases entered
      rw [outcome_map_map] at read
      obtain ⟨⟨_, left⟩, found, same⟩ := map_eq_ok_iff.mp read
      cases same
      exact .skip (ends_outcome_iff.mp (ends_skimValue input) _ _ found)
  | .cons _ name aliases _ format get set members =>
      rw [Members.entry] at entered
      split_ifs at entered with named repeated
      · cases entered
        rw [outcome_map_map] at read
        obtain ⟨⟨value, left⟩, found, same⟩ := map_eq_ok_iff.mp read
        cases same
        obtain ⟨suffix, drawn⟩ := format.drawn_of_read allLawful.1 fromNothing.1 found
        exact .here lawful.1 lawful.2.2.1 suffix drawn
      · exact .later lawful.2.2.1
          (members.filled_of_entry lawful.2.2.2 allLawful.2 fromNothing.2 entered read)

theorem Members.filled_of_readPlaces {α : Type} (members : Members α) (lawful : members.Lawful)
    (allLawful : members.AllLawful) (fromNothing : members.AllFromNothing) {depth : Nat}
    {name : String} {size position : Nat} {record after : α} {input rest : Input}
    (read : outcome (members.readPlaces depth name size position record input) =
      .ok (after, rest)) :
    members.Filled input record rest after := by
  match members with
  | .nil =>
      rw [Members.readPlaces, outcome_map_map] at read
      obtain ⟨⟨_, left⟩, found, same⟩ := map_eq_ok_iff.mp read
      cases same
      exact .skip (ends_outcome_iff.mp (ends_readListEnd input) _ _ found)
  | .cons _ _ _ _ format get set members =>
      rw [outcome_readPlaces] at read
      obtain ⟨⟨turn, here⟩, decided, read⟩ := bind_eq_ok_iff.mp read
      have start := decision_nextItem_suffix decided
      cases turn with
      | none =>
          obtain ⟨left, stopped, same⟩ := map_eq_ok_iff.mp read
          cases same
          rw [Members.leave] at stopped
          split at stopped <;> cases stopped
          exact .skip start
      | some =>
          obtain ⟨⟨value, left⟩, found, read⟩ := bind_eq_ok_iff.mp read
          obtain ⟨suffix, drawn⟩ := format.drawn_of_read allLawful.1 fromNothing.1 found
          have later := members.filled_of_readPlaces lawful.2.2.2 allLawful.2 fromNothing.2 read
          exact ((Members.Filled.skip start).trans
            (.here lawful.1 lawful.2.2.1 suffix drawn)).trans (.later lawful.2.2.1 later)

end

/-- What a format makes of a document comes from the document. -/
theorem Format.drawn_of_decode {α : Type} (format : Format α) (lawful : format.Lawful)
    (fromNothing : format.FromNothing) {document : Input} {value : α}
    (decoded : format.decode document = .ok value) : format.Drawn document value := by
  obtain ⟨reading, read, rest⟩ := bind_eq_ok_iff.mp decoded
  obtain ⟨_, _, same⟩ := bind_eq_ok_iff.mp rest
  cases same
  exact (format.drawn_of_read lawful fromNothing (by rw [read]; rfl)).2

end Json

namespace Resource

open Json Payload

/-- The records in the pages of all resources start without quantities. -/
theorem pages_fromNothing :
    device.page.FromNothing ∧ processor.page.FromNothing ∧ memory.page.FromNothing ∧
      services.page.FromNothing ∧ wan.page.FromNothing ∧ wanTraffic.page.FromNothing ∧
      fibre.page.FromNothing ∧ diagnostics.page.FromNothing ∧ lan.page.FromNothing ∧
      lanTraffic.page.FromNothing ∧ hosts.page.FromNothing ∧
      (∀ band, (radio band).page.FromNothing) ∧ resolver.page.FromNothing ∧
      television.page.FromNothing := by
  refine ⟨?_, ?_, ?_, ?_, ?_, ?_, ?_, ?_, ?_, ?_, ?_, fun band => ?_, ?_, ?_⟩
  all_goals simp [device, Device.page, Device.format, Temperature.format, Access.format,
    processor, Processor.page, Processor.format, ProcessorTime.format, Processes.format, memory,
    Memory.page, Memory.format, services, Services.page, Services.format, Usb.format, Remote.format,
    Upnp.format, wan, Wan.page, Wan.format, Internet.format, Interface.format, WanAddress.format,
    WanLink.format, wanTraffic, wanTrafficPage, Traffic.format, fibre, Fibre.page, Fibre.format,
    diagnostics, Diagnostics.page, Diagnostics.format, Probe.format, lan, Lan.page, Lan.format,
    LanAddress.format, Port.format, lanTraffic, lanTrafficPage, hosts, hostsPage, Host.format,
    radio, Radio.page, Radio.format, resolver, Resolver.page, Resolver.format, television,
    Television.format, Channel.format, Format.wrapped, Members.field, Counters.format,
    ServiceState.format, Format.FromNothing, Members.AllFromNothing, Members.Every, Format.Every]

end Resource

end RouterTelemetry
