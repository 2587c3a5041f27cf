import RouterTelemetry.Json.Cursor

/-!
# Quoted strings

A string is gathered as bytes up to its closing quote, escapes standing for the
UTF-8 bytes of their character.  Only then is the whole checked to be UTF-8.
`skimQuotation` passes over a string that is not wanted: it looks for control
characters and the form of escapes, and at nothing else.
-/

namespace RouterTelemetry.Json

/-- The value of a hexadecimal digit in either case. -/
def hexValue? (b : UInt8) : Option Nat :=
  let n := b.toNat
  if 48 ≤ n ∧ n ≤ 57 then some (n - 48)
  else if 65 ≤ n ∧ n ≤ 70 then some (n - 55)
  else if 97 ≤ n ∧ n ≤ 102 then some (n - 87)
  else none

/-- Four hexadecimal digits. -/
def readCodeUnit : (input : Input) → Except Fault (Reading Nat input.length)
  | a :: b :: c :: d :: rest =>
      match hexValue? a, hexValue? b, hexValue? c, hexValue? d with
      | some a, some b, some c, some d =>
          .ok ⟨((a * 16 + b) * 16 + c) * 16 + d, rest, by simp only [List.length_cons]; omega⟩
      | _, _, _, _ => .error (.malformed .invalidEscape)
  | _ => .error (.ended .text)

/-- One given byte of a string, with the cause if another one stands there. -/
def readTextByte (expected : UInt8) (otherwise : Flaw) :
    (input : Input) → Except Fault (Reading Unit input.length)
  | [] => .error (.ended .text)
  | b :: rest =>
      if b = expected then .ok ⟨(), rest, rest_shorter b rest⟩ else .error (.malformed otherwise)

/-- The code point of a pair of surrogates. -/
def joinSurrogates (lead trail : Nat) : Nat :=
  0x10000 + (lead - 0xD800) * 0x400 + (trail - 0xDC00)

/-- The code point of an escape, after its `\u`. -/
def readCodePoint (input : Input) : Except Fault (Reading Nat input.length) :=
  match readCodeUnit input with
  | .error fault => .error fault
  | .ok lead =>
      if 0xDC00 ≤ lead.value ∧ lead.value ≤ 0xDFFF then
        .error (.malformed .loneSurrogate)
      else if lead.value < 0xD800 ∨ 0xDBFF < lead.value then
        .ok lead
      else
        match readTextByte (byte '\\') .unfinishedSurrogatePair lead.rest with
        | .error fault => .error fault
        | .ok slash =>
            match readTextByte (byte 'u') .unfinishedSurrogatePair slash.rest with
            | .error fault => .error fault
            | .ok letter =>
                match readCodeUnit letter.rest with
                | .error fault => .error fault
                | .ok trail =>
                    if trail.value < 0xDC00 ∨ 0xDFFF < trail.value then
                      .error (.malformed .loneSurrogate)
                    else
                      .ok ⟨joinSurrogates lead.value trail.value, trail.rest,
                        Nat.lt_trans trail.shorter (Nat.lt_trans letter.shorter
                          (Nat.lt_trans slash.shorter lead.shorter))⟩

/-- The byte that a one-letter escape stands for. -/
def shortEscape? (b : UInt8) : Option UInt8 :=
  if b = byte '"' ∨ b = byte '\\' ∨ b = byte '/' then some b
  else if b = byte 'b' then some 8
  else if b = byte 'f' then some 12
  else if b = byte 'n' then some 10
  else if b = byte 'r' then some 13
  else if b = byte 't' then some 9
  else none

/-- The bytes of an escape, after its backslash. -/
def readEscape (input : Input) : Except Fault (Reading (List UInt8) input.length) :=
  match input with
  | [] => .error (.ended .text)
  | b :: rest =>
      match shortEscape? b with
      | some meaning => .ok ⟨[meaning], rest, rest_shorter b rest⟩
      | none =>
          if b = byte 'u' then
            match readCodePoint rest with
            | .error fault => .error fault
            | .ok point =>
                .ok ⟨String.utf8EncodeChar (Char.ofNat point.value), point.rest,
                  Nat.lt_succ_of_lt point.shorter⟩
          else
            .error (.malformed .invalidEscape)

/-- The bytes of a string, after its opening quote and up to its closing one. -/
def readTextBytes (input : Input) : Except Fault (Reading (List UInt8) input.length) :=
  match input with
  | [] => .error (.ended .text)
  | b :: rest =>
      if b = byte '"' then
        .ok ⟨[], rest, rest_shorter b rest⟩
      else if b = byte '\\' then
        match readEscape rest with
        | .error fault => .error fault
        | .ok escape =>
            have : escape.rest.length < rest.length := escape.shorter
            match readTextBytes escape.rest with
            | .error fault => .error fault
            | .ok tail =>
                .ok ⟨escape.value ++ tail.value, tail.rest,
                  Nat.lt_succ_of_lt (Nat.lt_trans tail.shorter escape.shorter)⟩
      else if b < 32 then
        .error (.malformed .controlCharacter)
      else
        match readTextBytes rest with
        | .error fault => .error fault
        | .ok tail => .ok ⟨b :: tail.value, tail.rest, Nat.lt_succ_of_lt tail.shorter⟩
termination_by input.length

/-- The text of some bytes, if they are UTF-8. -/
def utf8Text? (bytes : List UInt8) : Option String :=
  String.fromUTF8? ⟨bytes.toArray⟩

/-- Reads a string, after its opening quote. -/
def readQuotation (input : Input) : Except Fault (Reading String input.length) :=
  match readTextBytes input with
  | .error fault => .error fault
  | .ok bytes =>
      match utf8Text? bytes.value with
      | some text => .ok ⟨text, bytes.rest, bytes.shorter⟩
      | none => .error (.malformed .notUnicode)

/-- Passes over an escape, after its backslash. -/
def skimEscape (input : Input) : Except Fault (Reading Unit input.length) :=
  match input with
  | [] => .error (.ended .text)
  | b :: rest =>
      if (shortEscape? b).isSome then
        .ok ⟨(), rest, rest_shorter b rest⟩
      else if b = byte 'u' then
        match readCodeUnit rest with
        | .error fault => .error fault
        | .ok unit => .ok ⟨(), unit.rest, Nat.lt_succ_of_lt unit.shorter⟩
      else
        .error (.malformed .invalidEscape)

/-- Passes over a string, after its opening quote. -/
def skimQuotation (input : Input) : Except Fault (Reading Unit input.length) :=
  match input with
  | [] => .error (.ended .text)
  | b :: rest =>
      if b = byte '"' then
        .ok ⟨(), rest, rest_shorter b rest⟩
      else if b = byte '\\' then
        match skimEscape rest with
        | .error fault => .error fault
        | .ok escape =>
            have : escape.rest.length < rest.length := escape.shorter
            match skimQuotation escape.rest with
            | .error fault => .error fault
            | .ok tail =>
                .ok ⟨(), tail.rest, Nat.lt_succ_of_lt (Nat.lt_trans tail.shorter escape.shorter)⟩
      else if b < 32 then
        .error (.malformed .controlCharacter)
      else
        match skimQuotation rest with
        | .error fault => .error fault
        | .ok tail => .ok ⟨(), tail.rest, Nat.lt_succ_of_lt tail.shorter⟩
termination_by input.length

end RouterTelemetry.Json
