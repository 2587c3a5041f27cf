import RouterTelemetry.Json.Format

/-!
# Values in a log

A log shows a value as a whole: every record with its name and its members under
their labels, every measure with its quantity or with why it has none, and values
that are kept as they come with their kinds.
-/

namespace RouterTelemetry

open Json

/-- The measure as a log shows it. -/
def Measure.shown : Measure → String
  | .value quantity => "Value(" ++ Decimal.logged.render quantity ++ ")"
  | .invalid reason => "Invalid(" ++ Text.quoted reason.message ++ ")"
  | .missing => "Missing"

namespace Json

/-- The number as a log shows it: as it would be written in a document. -/
def Number.shown : Number → String
  | .integer value => "Number(" ++ toString value ++ ")"
  | .float value => "Number(" ++ Decimal.quoted.render value ++ ")"

mutual

/-- The value as a log shows it. -/
def Value.shown : Value → String
  | .null => "Null"
  | .boolean value => "Bool(" ++ toString value ++ ")"
  | .number value => value.shown
  | .text value => "String(" ++ Text.quoted value ++ ")"
  | .list items => "Array " ++ Text.bracketed (shownItems items)
  | .object members => "Object \x7b" ++ Text.listed (shownMembers members) ++ "\x7d"

/-- Items of a list, each as a log shows it. -/
def shownItems : List Value → List String
  | [] => []
  | item :: items => item.shown :: shownItems items

/-- Members of an object, each under its quoted key. -/
def shownMembers : List (String × Value) → List (String × String)
  | [] => []
  | (key, value) :: members => (Text.quoted key, value.shown) :: shownMembers members

end

mutual

/-- The labelled value as a log shows it. -/
def Labelled.shown : Labelled → String
  | .measure measure => measure.shown
  | .text text => Text.quoted text
  | .any value => value.shown
  | .list items => Text.bracketed (shownAll items)
  | .record name members => Text.structured name (shownUnder members)

/-- Labelled values, each as a log shows it. -/
def shownAll : List Labelled → List String
  | [] => []
  | item :: items => item.shown :: shownAll items

/-- Labelled values, each under its label. -/
def shownUnder : List (String × Labelled) → List (String × String)
  | [] => []
  | (label, value) :: members => (label, value.shown) :: shownUnder members

end

end Json

end RouterTelemetry
