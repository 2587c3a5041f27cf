import RouterTelemetry.Environment.File
import RouterTelemetry.Settings.Place
import RouterTelemetry.Settings.Reading
import RouterTelemetry.Toml.Document

/-!
# Loading settings

Settings come from a document and from the environment, of which the environment
is the stronger; what neither sets keeps its default.
-/

namespace RouterTelemetry.Settings

/-- Why settings could not be loaded. -/
inductive LoadFault where
  /-- The document is none. -/
  | unreadable
  /-- A setting has a value that it cannot have. -/
  | misfit
deriving Repr, DecidableEq

/-- The wording of a fault. -/
def LoadFault.message : LoadFault → String
  | .unreadable => "Failed to build configuration"
  | .misfit => "Failed to deserialize configuration"

/-! ## Layers -/

/-- A layer writes each of its settings to the place of its name. -/
def written (layer : List (String × Setting)) (tree : Setting) : Setting :=
  layer.foldl (fun tree (name, setting) =>
    Setting.writtenAt setting (Setting.placeOf name) (some tree)) tree

/-- Names of variables start with this, in any case. -/
def variableStart : List Char :=
  "bbox_exporter__".toList

/-- Two underscores in a name stand for a dot. -/
def dotted : List Char → List Char
  | '_' :: '_' :: cs => '.' :: dotted cs
  | c :: cs => c :: dotted cs
  | [] => []

/-- The name of the setting that a variable sets, if it sets one. -/
def settingName? (name : String) : Option String :=
  let cs := name.toLower.toList
  if variableStart.isPrefixOf cs then
    some (String.ofList (dotted (cs.drop variableStart.length)))
  else
    none

/-- The layer of the environment. -/
def environmentLayer (environment : Environment) : List (String × Setting) :=
  environment.filterMap fun (name, value) =>
    (settingName? name).map fun setting => (setting, .text value)

/-- The layer of a document; without one it is empty. -/
def documentLayer : Option String → Except LoadFault (List (String × Setting))
  | none => .ok []
  | some text =>
      match Toml.parse? text with
      | some entries => .ok (Setting.ofEntries entries)
      | none => .error .unreadable

/-- Loads settings from a document, if there is one, and the environment. -/
def load (environment : Environment) (document : Option String) : Except LoadFault Settings := do
  let layer ← documentLayer document
  let tree := written (environmentLayer environment) (written layer (.table []))
  match Settings.ofSetting? tree with
  | some settings => return settings
  | none => throw .misfit

end RouterTelemetry.Settings
