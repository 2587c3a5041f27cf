import RouterTelemetry.Json.Head

/-!
# Passing over a value

The value of a key that is not wanted is passed over without being kept.  Only
its grammar is checked: brackets may nest without limit, the characters of its
strings and the size of its numbers do not matter.
-/

namespace RouterTelemetry.Json

mutual

/-- Passes over one value. -/
def skimValue (input : Input) : Except Fault (Reading Unit input.length) :=
  match skipBlank input with
  | ⟨[], _⟩ => .error (.ended .value)
  | ⟨b :: rest, le⟩ =>
      have shorter : rest.length < input.length := shorter_of_le le
      let word (letters : List Char) : Except Fault (Reading Unit input.length) :=
        match readWord letters rest with
        | .error fault => .error fault
        | .ok after => .ok ⟨(), after, Nat.lt_of_le_of_lt after.property shorter⟩
      if b = byte '[' then
        (skimItems true rest).map fun items => items.widen (Nat.le_of_lt shorter)
      else if b = byte '{' then
        (skimMembers true rest).map fun members => members.widen (Nat.le_of_lt shorter)
      else if b = byte '"' then
        (skimQuotation rest).map fun text => text.widen (Nat.le_of_lt shorter)
      else if b = byte 'n' then word ['u', 'l', 'l']
      else if b = byte 't' then word ['r', 'u', 'e']
      else if b = byte 'f' then word ['a', 'l', 's', 'e']
      else if b = byte '-' ∨ isDigit b then
        (Literal.read (.malformed .invalidNumber) (b :: rest)).map fun literal =>
          (literal.map fun _ => ()).widen le
      else
        .error (.malformed .expectedValue)
termination_by (input.length, 0)

/-- Passes over the items of a list and its closing bracket. -/
def skimItems (first : Bool) (input : Input) : Except Fault (Reading Unit input.length) :=
  match skipBlank input with
  | ⟨[], _⟩ => .error (.ended .list)
  | ⟨b :: rest, le⟩ =>
      have shorter : rest.length < input.length := shorter_of_le le
      if b = byte ']' then
        .ok ⟨(), rest, shorter⟩
      else if first then
        match skimValue (b :: rest) with
        | .error fault => .error fault
        | .ok item =>
            have : item.rest.length < input.length := Nat.lt_of_lt_of_le item.shorter le
            (skimItems false item.rest).map fun tail => tail.widen (Nat.le_of_lt this)
      else if b = byte ',' then
        match skimValue rest with
        | .error fault => .error fault
        | .ok item =>
            have : item.rest.length < input.length := Nat.lt_trans item.shorter shorter
            (skimItems false item.rest).map fun tail => tail.widen (Nat.le_of_lt this)
      else
        .error (.malformed .expectedCommaOrBracket)
termination_by (input.length, 2)
decreasing_by all_goals (simp only [List.length_cons] at *; simp only [Prod.lex_def]; omega)

/-- Passes over the members of an object and its closing brace. -/
def skimMembers (first : Bool) (input : Input) : Except Fault (Reading Unit input.length) :=
  match skipBlank input with
  | ⟨[], _⟩ => .error (.ended .object)
  | ⟨b :: rest, le⟩ =>
      have shorter : rest.length < input.length := shorter_of_le le
      if b = byte '}' then
        .ok ⟨(), rest, shorter⟩
      else if first then
        match skimMember (b :: rest) with
        | .error fault => .error fault
        | .ok member =>
            have : member.rest.length < input.length := Nat.lt_of_lt_of_le member.shorter le
            (skimMembers false member.rest).map fun tail => tail.widen (Nat.le_of_lt this)
      else if b = byte ',' then
        match skimMember rest with
        | .error fault => .error fault
        | .ok member =>
            have : member.rest.length < input.length := Nat.lt_trans member.shorter shorter
            (skimMembers false member.rest).map fun tail => tail.widen (Nat.le_of_lt this)
      else
        .error (.malformed .expectedCommaOrBrace)
termination_by (input.length, 2)
decreasing_by all_goals (simp only [List.length_cons] at *; simp only [Prod.lex_def]; omega)

/-- Passes over a key, its colon and its value. -/
def skimMember (input : Input) : Except Fault (Reading Unit input.length) :=
  match skipBlank input with
  | ⟨[], _⟩ => .error (.ended .object)
  | ⟨b :: rest, le⟩ =>
      if b = byte '"' then
        match skimQuotation rest with
        | .error fault => .error fault
        | .ok key =>
            match readColon key.rest with
            | .error fault => .error fault
            | .ok colon =>
                have : colon.rest.length < input.length :=
                  Nat.lt_trans colon.shorter (Nat.lt_trans key.shorter (shorter_of_le le))
                (skimValue colon.rest).map fun value => value.widen (Nat.le_of_lt this)
      else
        .error (.malformed .keyNotText)
termination_by (input.length, 1)

end

end RouterTelemetry.Json
