import RouterTelemetry.Json.Head

/-!
# Radio bands

A band is written by its code, in resource paths and in documents alike.
-/

namespace RouterTelemetry

open Json

/-- A radio band. -/
inductive Band where
  | ghz24
  | ghz5
deriving Repr, DecidableEq

/-- Every band. -/
def Band.all : List Band :=
  [.ghz24, .ghz5]

/-- The code of a band. -/
def Band.code : Band → String
  | .ghz24 => "24"
  | .ghz5 => "5"

/-- The name of a band in labels and messages. -/
def Band.label : Band → String
  | .ghz24 => "24ghz"
  | .ghz5 => "5ghz"

/-- The name of a band among its kind, as a log shows it. -/
def Band.shown : Band → String
  | .ghz24 => "Ghz24"
  | .ghz5 => "Ghz5"

/-- The path of a band's statistics. -/
def Band.statsPath : Band → String
  | .ghz24 => "/wireless/24/stats"
  | .ghz5 => "/wireless/5/stats"

/-- The band of a code. -/
def Band.ofCode? (code : String) : Option Band :=
  Band.all.find? (·.code == code)

theorem Band.ofCode?_code (band : Band) : Band.ofCode? band.code = some band := by
  cases band <;> decide

theorem Band.statsPath_eq (band : Band) :
    band.statsPath = "/wireless/" ++ band.code ++ "/stats" := by
  cases band <;> decide

/-! ## Bands in documents -/

/-- The band of a code, or why there is none. -/
def Band.ofCode (code : String) : Except Fault Band :=
  match Band.ofCode? code with
  | some band => .ok band
  | none => .error (.misshapen (.unknownVariant code (Band.all.map Band.code)))

/-- Reads the code of a band as the key of an object. -/
def Band.readKey : Reader Band := fun input =>
  match readHead input with
  | .error fault => .error fault
  | .ok head =>
      match head.value with
      | .text code => (Band.ofCode code).map fun band => head.map fun _ => band
      | other => other.refused "variant identifier"

/-- Reads the value of a band that is written as a key, which is always null. -/
def readUnit : Reader Unit := fun input =>
  match readHead input with
  | .error fault => .error fault
  | .ok head =>
      match head.value with
      | .null => .ok (head.map fun _ => ())
      | other => other.refused "unit"

/-- Reads the brace after the only member of an object. -/
def readOnlyMemberEnd (input : Input) : Except Fault (Reading Unit input.length) :=
  match skipBlank input with
  | ⟨[], _⟩ => .error (.ended .object)
  | ⟨b :: rest, le⟩ =>
      if b = byte '}' then .ok ⟨(), rest, shorter_of_le le⟩
      else .error (.malformed .expectedValue)

/-- Reads a band: its code as a string, or as the only key of an object whose value
is null. -/
def Band.read : Reader Band := fun input =>
  match skipBlank input with
  | ⟨[], _⟩ => .error (.ended .value)
  | ⟨b :: rest, le⟩ =>
      if b = byte '"' then
        (Band.readKey (b :: rest)).map fun band => band.widen le
      else if b = byte '{' then
        match Band.readKey rest with
        | .error fault => .error fault
        | .ok band =>
            match readColon band.rest with
            | .error fault => .error fault
            | .ok colon =>
                match readUnit colon.rest with
                | .error fault => .error fault
                | .ok unit =>
                    (readOnlyMemberEnd unit.rest).map fun ending =>
                      ⟨band.value, ending.rest, Nat.lt_trans ending.shorter
                        (Nat.lt_trans unit.shorter (Nat.lt_trans colon.shorter
                          (Nat.lt_trans band.shorter (shorter_of_le le))))⟩
      else
        .error (.malformed .expectedValue)

end RouterTelemetry
