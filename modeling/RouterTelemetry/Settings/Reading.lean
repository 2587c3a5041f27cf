import RouterTelemetry.Decimal.Layout
import RouterTelemetry.Settings.Basic
import RouterTelemetry.Settings.Tree

/-!
# Reading settings from a tree

Each setting has a default, and each place is read by what is wanted there: a
number does for a text, a word for a truth value, a text for a port.  A section
is read from a table by key, or from a list by position.
-/

namespace RouterTelemetry

namespace Setting

/-! ## Single settings -/

/-- A text, or the text of a number or a truth value. -/
def text? : Setting → Option String
  | .text value => some value
  | .boolean value => some (if value then "true" else "false")
  | .integer value => some (toString value)
  | .real value => some (Decimal.exposed.render value)
  | _ => none

/-- The words for true, in lower case. -/
def trueWords : List String :=
  ["true", "on", "yes"]

/-- The words for false, in lower case. -/
def falseWords : List String :=
  ["false", "off", "no"]

/-- A truth value, a number other than zero, or a word. -/
def truth? : Setting → Option Bool
  | .boolean value => some value
  | .integer value => some (value ≠ 0)
  | .real value => some (value != 0.0)
  | .text value =>
      let word := value.toLower
      if ("1" :: trueWords).contains word then some true
      else if ("0" :: falseWords).contains word then some false
      else none
  | _ => none

/-- The number that a text of digits is, perhaps after a plus sign. -/
def countOfText? (text : String) : Option Nat :=
  let digits := match text.toList with
    | '+' :: cs => cs
    | cs => cs
  if digits.isEmpty || !digits.all Char.isDigit then
    none
  else
    some (digits.foldl (fun total digit => 10 * total + (digit.toNat - '0'.toNat)) 0)

/-- A natural number: fractions are rounded, halves away from zero, and negative ones
count as zero; a truth value counts as one or zero. -/
def count? : Setting → Option Nat
  | .integer value => if 0 ≤ value then some value.toNat else none
  | .boolean value => some value.toNat
  | .real value => some value.round.toUInt64.toNat
  | .text value =>
      let word := value.toLower
      if trueWords.contains word then some 1
      else if falseWords.contains word then some 0
      else countOfText? value
  | _ => none

/-- A number of 16 bits. -/
def port? (setting : Setting) : Option UInt16 := do
  let count ← setting.count?
  if count < 0x10000 then some count.toUInt16 else none

/-- A band by its code, or by a table with its code as the only key. -/
def band? : Setting → Option Band
  | .text code => Band.ofCode? code
  | .table [(code, _)] => Band.ofCode? code
  | _ => none

/-- A list of bands. -/
def bands? : Setting → Option (List Band)
  | .list items => items.mapM band?
  | _ => none

/-! ## Sections -/

/-- The setting may be read as a section. -/
def isSection : Setting → Bool
  | .table _ => true
  | .list _ => true
  | _ => false

/-- The part of a section with a key, or at a position. -/
def part? (key : String) (position : Nat) : Setting → Option Setting
  | .table entries => entries.lookup key
  | .list items => items[position]?
  | _ => none

/-- Reads a part of a section; if it is not there the default counts. -/
def readPart {α : Type} (key : String) (position : Nat) (read : Setting → Option α) (default : α)
    (setting : Setting) : Option α :=
  match setting.part? key position with
  | some part => read part
  | none => some default

end Setting

/-- Reads the section about the router. -/
def RouterSettings.ofSetting? (setting : Setting) : Option RouterSettings := do
  let default : RouterSettings := {}
  if !setting.isSection then
    none
  return {
    endpoint := ← setting.readPart "endpoint" 0 Setting.text? default.endpoint
    password := ← setting.readPart "password" 1 Setting.text? default.password
    verifyCertificate := ← setting.readPart "verify_ssl" 2 Setting.truth? default.verifyCertificate
    bands := ← setting.readPart "wireless_bands" 3 Setting.bands? default.bands }

/-- Reads the section about the site. -/
def SiteSettings.ofSetting? (setting : Setting) : Option SiteSettings := do
  let default : SiteSettings := {}
  if !setting.isSection then
    none
  return {
    address := ← setting.readPart "addr" 0 Setting.text? default.address
    port := ← setting.readPart "port" 1 Setting.port? default.port
    metricsPath := ← setting.readPart "metrics_path" 2 Setting.text? default.metricsPath }

/-- Reads all settings. -/
def Settings.ofSetting? (setting : Setting) : Option Settings := do
  let default : Settings := {}
  return {
    router := ← setting.readPart "bbox" 0 RouterSettings.ofSetting? default.router
    site := ← setting.readPart "server" 1 SiteSettings.ofSetting? default.site }

end RouterTelemetry
