import RouterTelemetry.Environment.Basic
import RouterTelemetry.Toml.Value

/-!
# Setting trees

Settings come in layers, each of which writes into one tree.  A table is written
into a table key by key; anything else replaces what it is written over.
-/

namespace RouterTelemetry

/-- What the layers have set. -/
inductive Setting where
  /-- A place that is there because a later one was set. -/
  | unset
  | boolean (value : Bool)
  | integer (value : Int)
  | real (value : Float)
  | text (value : String)
  | list (items : List Setting)
  | table (entries : List (String × Setting))

namespace Setting

/-- The entries of a table; anything else has none. -/
def entries : Setting → List (String × Setting)
  | .table entries => entries
  | _ => []

/-- The items of a list; anything else has none. -/
def items : Setting → List Setting
  | .list items => items
  | _ => []

/-- Changes the entry of a key, or makes one. -/
def changeEntry (key : String) (change : Option Setting → Setting) :
    List (String × Setting) → List (String × Setting)
  | [] => [(key, change none)]
  | (other, setting) :: entries =>
      if other = key then (other, change (some setting)) :: entries
      else (other, setting) :: changeEntry key change entries

@[simp]
theorem lookup_changeEntry_self (key : String) (change : Option Setting → Setting)
    (entries : List (String × Setting)) :
    (changeEntry key change entries).lookup key = some (change (entries.lookup key)) := by
  induction entries with
  | nil => simp [changeEntry]
  | cons entry entries ih =>
      obtain ⟨other, setting⟩ := entry
      by_cases same : other = key
      · simp [changeEntry, same]
      · have differs : (key == other) = false := by simpa using Ne.symm same
        simp [changeEntry, same, List.lookup_cons, differs, ih]

theorem lookup_changeEntry_of_ne {key other : String} (ne : other ≠ key)
    (change : Option Setting → Setting) (entries : List (String × Setting)) :
    (changeEntry key change entries).lookup other = entries.lookup other := by
  have differs : (other == key) = false := by simpa using ne
  induction entries with
  | nil => simp [changeEntry, List.lookup_cons, differs]
  | cons entry entries ih =>
      obtain ⟨first, setting⟩ := entry
      by_cases same : first = key
      · simp [changeEntry, same, List.lookup_cons, differs]
      · simp only [changeEntry, same, if_false, List.lookup_cons]
        split <;> simp [ih]

mutual

/-- Writes a setting over what is there. -/
def writtenOver (present : Option Setting) : Setting → Setting
  | .table entries => .table (entriesOver ((present.map Setting.entries).getD []) entries)
  | other => other

/-- Writes entries over those that are there. -/
def entriesOver (present : List (String × Setting)) :
    List (String × Setting) → List (String × Setting)
  | [] => present
  | (key, setting) :: entries =>
      entriesOver (changeEntry key (fun old => writtenOver old setting) present) entries

end

/-! ## Documents -/

mutual

/-- The setting that a value of a document makes. -/
def ofValue : Toml.Value → Setting
  | .text value => .text value
  | .integer value => .integer value
  | .real value => .real value
  | .boolean value => .boolean value
  | .moment written => .text written
  | .list items => .list (ofItems items)
  | .table entries => .table (ofEntries entries)

/-- The settings that the items of a list make. -/
def ofItems : List Toml.Value → List Setting
  | [] => []
  | item :: items => ofValue item :: ofItems items

/-- The settings that the entries of a table make. -/
def ofEntries : List (String × Toml.Value) → List (String × Setting)
  | [] => []
  | (key, value) :: entries => (key, ofValue value) :: ofEntries entries

end

end Setting

end RouterTelemetry
