import RouterTelemetry.Decimal.Layout
import RouterTelemetry.Registry

/-!
# The text exposition

Families that have a series are written in the order of their full names, each
with its help, its type and one line for each series.  Labels are in the order
of their names, and series in the order of their label values.
-/

namespace RouterTelemetry

/-- How one character of a label value is written. -/
def escapeLabelChar (c : Char) : List Char :=
  if c = '\\' then ['\\', '\\']
  else if c = '\n' then ['\\', 'n']
  else if c = '"' then ['\\', '"']
  else [c]

/-- A label value as it is written between quotes. -/
def escapeLabel (value : String) : String :=
  String.ofList (value.toList.flatMap escapeLabelChar)

/-- The labels of a series in the order of their names. -/
def Series.labels (series : Series) : Labels :=
  (series.family.labels.zip series.labelValues).mergeSort fun one other => one.1 ≤ other.1

/-- One line of the exposition. -/
def seriesLine (name : String) (labels : Labels) (value : Float) : String :=
  let pairs := labels.map fun (label, text) => label ++ "=\"" ++ escapeLabel text ++ "\""
  let braces := if labels.isEmpty then "" else "\x7b" ++ ",".intercalate pairs ++ "\x7d"
  name ++ braces ++ " " ++ Decimal.exposed.render value ++ "\n"

/-- Lists of texts compared from the first one on. -/
def textsLe : List String → List String → Bool
  | [], _ => true
  | _ :: _, [] => false
  | text :: texts, text' :: texts' =>
      match compare text text' with
      | .lt => true
      | .gt => false
      | .eq => textsLe texts texts'

/-- The order of the series of one family. -/
def Series.le (series other : Series) : Bool :=
  textsLe (series.labels.map Prod.snd) (other.labels.map Prod.snd)

/-- A family with its series, or nothing if there is none. -/
def familyText (family : Family) (series : List Series) : String :=
  if series.isEmpty then
    ""
  else
    "# HELP " ++ family.fullName ++ " " ++ family.help ++ "\n" ++
    "# TYPE " ++ family.fullName ++ " gauge\n" ++
    String.join ((series.mergeSort Series.le).map fun series =>
      seriesLine family.fullName series.labels series.value)

/-- Every family, the availability among them, in the order of names. -/
def exposedFamilies : List Family :=
  (Family.up :: families).mergeSort fun family other => family.fullName ≤ other.fullName

/-- The series of a family; the availability always has one. -/
def Registry.seriesOf (registry : Registry) (family : Family) : List Series :=
  if family = .up then
    [⟨.up, [], registry.up⟩]
  else
    registry.series.filter (·.family.name == family.name)

/-- The whole exposition. -/
def Registry.render (registry : Registry) : String :=
  String.join (exposedFamilies.map fun family => familyText family (registry.seriesOf family))

end RouterTelemetry
