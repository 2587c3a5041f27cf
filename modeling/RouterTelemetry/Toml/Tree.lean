import RouterTelemetry.Toml.Value

/-!
# Trees

A document grows a tree of tables, statement by statement.  How a table came
about decides what may still be done to it: a table that is only implied by a
longer header may be opened by a header of its own, one made by dotted keys may
get more dotted keys, and a declared one neither.  A key is assigned once.
-/

namespace RouterTelemetry.Toml

/-- How a table came about. -/
inductive Origin where
  /-- On the way to a table with a header of its own. -/
  | implied
  /-- On the way of a dotted key. -/
  | dotted
  /-- By a header of its own, or by braces. -/
  | declared
deriving Repr, DecidableEq

/-- A node of the tree. -/
inductive Node where
  | leaf (value : Value)
  | table (origin : Origin) (entries : List (String × Node))
  /-- Tables with one and the same header, oldest first. -/
  | tables (elements : List (List (String × Node)))

/-- The nodes of a table by their keys. -/
abbrev Entries := List (String × Node)

/-- Keys from a table downwards. -/
abbrev Path := List String

/-! ## Growing -/

/-- Changes the node of a key, or gives the key a node. -/
def Entries.change? (key : String) (change : Option Node → Option Node) :
    Entries → Option Entries
  | [] => (change none).map fun node => [(key, node)]
  | (other, node) :: entries =>
      if other = key then
        (change (some node)).map fun node => (other, node) :: entries
      else
        (change? key change entries).map fun entries => (other, node) :: entries

/-- Changes the table at the end of a path; tables that are missing on the way are
made, by a dotted key or by a header.  Of tables with one header the last counts. -/
def Entries.changeAt? (made : Origin) (change : Origin → Entries → Option Entries) :
    Path → Origin → Entries → Option Entries
  | [], origin, entries => change origin entries
  | key :: path, _, entries =>
      entries.change? key fun
        | none => (changeAt? made change path made []).map (.table made)
        | some (.leaf _) => none
        | some (.table origin inner) =>
            if made = .dotted ∧ origin = .declared then
              none
            else
              (changeAt? made change path origin inner).map (.table origin)
        | some (.tables elements) =>
            (changeAt? made change path .declared (elements.getLast?.getD [])).map fun inner =>
              .tables (elements.dropLast ++ [inner])

/-- Gives a key that is not there yet a node. -/
def Entries.insertNew? (key : String) (node : Node) (entries : Entries) : Option Entries :=
  entries.change? key fun
    | none => some node
    | some _ => none

/-- Assigns a value to a dotted key: the table that gets it is the one at hand if the
key has no dots, and one made by dotted keys otherwise. -/
def Entries.assign? (path : Path) (key : String) (value : Value) (entries : Entries) :
    Option Entries :=
  entries.changeAt? .dotted
    (fun origin inner =>
      if path.isEmpty ∨ origin = .dotted then inner.insertNew? key (.leaf value) else none)
    path .declared

/-- Assigns below the table of the last header. -/
def Entries.assignUnder? (header path : Path) (key : String) (value : Value)
    (entries : Entries) : Option Entries :=
  entries.changeAt? .implied (fun _ inner => inner.assign? path key value) header .declared

/-- Opens a table by its header. -/
def Entries.openTable? (path : Path) (key : String) (entries : Entries) : Option Entries :=
  entries.changeAt? .implied
    (fun _ inner => inner.change? key fun
      | none => some (.table .declared [])
      | some (.table .implied nested) => some (.table .declared nested)
      | some _ => none)
    path .declared

/-- Opens one more of the tables with one header. -/
def Entries.openElement? (path : Path) (key : String) (entries : Entries) : Option Entries :=
  entries.changeAt? .implied
    (fun _ inner => inner.change? key fun
      | none => some (.tables [[]])
      | some (.tables elements) => some (.tables (elements ++ [[]]))
      | some _ => none)
    path .declared

/-! ## The grown tree -/

mutual

/-- The value of a node. -/
def Node.value : Node → Value
  | .leaf value => value
  | .table _ entries => .table (valuesOf entries)
  | .tables elements => .list (tablesOf elements)

/-- The values of nodes by their keys. -/
def valuesOf : List (String × Node) → List (String × Value)
  | [] => []
  | (key, node) :: entries => (key, node.value) :: valuesOf entries

/-- The tables of a list. -/
def tablesOf : List (List (String × Node)) → List Value
  | [] => []
  | entries :: elements => .table (valuesOf entries) :: tablesOf elements

end

end RouterTelemetry.Toml
