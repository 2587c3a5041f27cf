import Mathlib.Data.List.Nodup
import RouterTelemetry.Toml.Document

/-!
# Keys of a TOML document

In every table of a document that is read, at any depth, each key is there once.
-/

namespace RouterTelemetry.Toml

/-! ## Distinct keys -/

/-- In every table of the value each key is there once. -/
inductive Value.Distinct : Value → Prop where
  | text (value : String) : Distinct (.text value)
  | integer (value : Int) : Distinct (.integer value)
  | real (value : Float) : Distinct (.real value)
  | boolean (value : Bool) : Distinct (.boolean value)
  | moment (text : String) : Distinct (.moment text)
  | list {items : List Value} (each : ∀ item ∈ items, Distinct item) : Distinct (.list items)
  | table {entries : List (String × Value)} (keys : (entries.map Prod.fst).Nodup)
      (each : ∀ entry ∈ entries, Distinct entry.2) : Distinct (.table entries)

/-- In every table below the node each key is there once. -/
inductive Node.Distinct : Node → Prop where
  | leaf {value : Value} (distinct : value.Distinct) : Distinct (.leaf value)
  | table {origin : Origin} {entries : List (String × Node)} (keys : (entries.map Prod.fst).Nodup)
      (each : ∀ entry ∈ entries, Distinct entry.2) : Distinct (.table origin entries)
  | tables {elements : List (List (String × Node))}
      (keys : ∀ entries ∈ elements, (entries.map Prod.fst).Nodup)
      (each : ∀ entries ∈ elements, ∀ entry ∈ entries, Distinct entry.2) :
      Distinct (.tables elements)

/-- Each key of the table is there once, and so in every table below it. -/
structure Entries.Distinct (entries : Entries) : Prop where
  keys : (entries.map Prod.fst).Nodup
  each : ∀ entry ∈ entries, entry.2.Distinct

theorem Entries.distinct_nil : Entries.Distinct [] where
  keys := List.nodup_nil
  each _ member := absurd member List.not_mem_nil

theorem keys_valuesOf (entries : Entries) :
    (valuesOf entries).map Prod.fst = entries.map Prod.fst := by
  induction entries with
  | nil => rfl
  | cons entry entries ih =>
      obtain ⟨key, node⟩ := entry
      rw [valuesOf, List.map_cons, List.map_cons, ih]

mutual

/-- The value of a node has distinct keys as the node has. -/
theorem Node.Distinct.value {node : Node} (distinct : node.Distinct) : node.value.Distinct := by
  match node, distinct with
  | .leaf value, .leaf distinct => exact distinct
  | .table origin entries, .table keys each =>
      rw [Node.value]
      exact .table (by rwa [keys_valuesOf]) (distinct_valuesOf entries each)
  | .tables elements, .tables keys each =>
      rw [Node.value]
      exact .list (distinct_tablesOf elements keys each)

theorem distinct_valuesOf (entries : List (String × Node))
    (each : ∀ entry ∈ entries, entry.2.Distinct) :
    ∀ entry ∈ valuesOf entries, entry.2.Distinct := by
  match entries with
  | [] =>
      rw [valuesOf]
      exact fun _ member => absurd member List.not_mem_nil
  | (key, node) :: entries =>
      rw [List.forall_mem_cons] at each
      rw [valuesOf, List.forall_mem_cons]
      exact ⟨each.1.value, distinct_valuesOf entries each.2⟩

theorem distinct_tablesOf (elements : List (List (String × Node)))
    (keys : ∀ entries ∈ elements, (entries.map Prod.fst).Nodup)
    (each : ∀ entries ∈ elements, ∀ entry ∈ entries, entry.2.Distinct) :
    ∀ value ∈ tablesOf elements, value.Distinct := by
  match elements with
  | [] =>
      rw [tablesOf]
      exact fun _ member => absurd member List.not_mem_nil
  | entries :: elements =>
      rw [List.forall_mem_cons] at keys each
      rw [tablesOf, List.forall_mem_cons]
      exact ⟨.table (by rw [keys_valuesOf]; exact keys.1) (distinct_valuesOf entries each.1),
        distinct_tablesOf elements keys.2 each.2⟩

end

/-! ## Growing -/

section

variable {entries grown : Entries}

theorem Entries.Distinct.change? {key : String} {change : Option Node → Option Node}
    (distinct : entries.Distinct)
    (kept : ∀ old new, (∀ node ∈ old, node.Distinct) → change old = some new → new.Distinct)
    (changed : entries.change? key change = some grown) :
    grown.Distinct ∧ ∀ other ∈ grown.map Prod.fst, other = key ∨ other ∈ entries.map Prod.fst := by
  induction entries generalizing grown with
  | nil =>
      obtain ⟨node, made, rfl⟩ := Option.map_eq_some_iff.mp changed
      have distinct := kept none node (by simp) made
      exact ⟨⟨by simp, by simpa using distinct⟩, by simp⟩
  | cons entry entries ih =>
      obtain ⟨first, node⟩ := entry
      obtain ⟨keys, each⟩ := distinct
      rw [List.map_cons, List.nodup_cons] at keys
      rw [List.forall_mem_cons] at each
      rw [Entries.change?] at changed
      split_ifs at changed with here
      · obtain ⟨new, made, rfl⟩ := Option.map_eq_some_iff.mp changed
        have distinct := kept (some node) new (by simpa using each.1) made
        refine ⟨⟨?_, ?_⟩, ?_⟩
        · exact List.nodup_cons.mpr keys
        · exact List.forall_mem_cons.mpr ⟨distinct, each.2⟩
        · exact fun other member => .inr member
      · obtain ⟨rest, made, rfl⟩ := Option.map_eq_some_iff.mp changed
        obtain ⟨distinct, among⟩ := ih ⟨keys.2, each.2⟩ made
        refine ⟨⟨?_, ?_⟩, ?_⟩
        · refine List.nodup_cons.mpr ⟨fun member => ?_, distinct.keys⟩
          rcases among first member with same | member
          · exact here same
          · exact keys.1 member
        · exact List.forall_mem_cons.mpr ⟨each.1, distinct.each⟩
        · rintro other (_ | ⟨_, member⟩)
          · exact .inr List.mem_cons_self
          · exact (among other member).imp_right (List.mem_cons_of_mem _)

theorem Entries.Distinct.changeAt? {made origin : Origin} {path : Path}
    {change : Origin → Entries → Option Entries} (distinct : entries.Distinct)
    (kept : ∀ origin old new, Entries.Distinct old → change origin old = some new →
      Entries.Distinct new)
    (changed : entries.changeAt? made change path origin = some grown) : grown.Distinct := by
  induction path generalizing entries grown origin with
  | nil => exact kept origin entries grown distinct changed
  | cons key path ih =>
      refine (distinct.change? ?_ changed).1
      intro old new oldDistinct step
      split at step
      · obtain ⟨inner, grew, rfl⟩ := Option.map_eq_some_iff.mp step
        obtain ⟨keys, each⟩ := ih Entries.distinct_nil grew
        exact .table keys each
      · cases step
      · split_ifs at step
        obtain ⟨inner, grew, rfl⟩ := Option.map_eq_some_iff.mp step
        cases oldDistinct _ rfl with
        | table innerKeys innerEach =>
            obtain ⟨keys, each⟩ := ih ⟨innerKeys, innerEach⟩ grew
            exact .table keys each
      next elements =>
        obtain ⟨inner, grew, rfl⟩ := Option.map_eq_some_iff.mp step
        cases oldDistinct _ rfl with
        | tables allKeys all =>
            have last : Entries.Distinct (elements.getLast?.getD []) := by
              cases found : elements.getLast? with
              | none => exact Entries.distinct_nil
              | some entries =>
                  have member := List.mem_of_getLast? found
                  exact ⟨allKeys entries member, all entries member⟩
            have grown := ih last grew
            refine .tables ?_ ?_
            · rw [List.forall_mem_append, List.forall_mem_singleton]
              exact ⟨fun entries member => allKeys entries (List.dropLast_subset elements member),
                grown.keys⟩
            · rw [List.forall_mem_append, List.forall_mem_singleton]
              exact ⟨fun entries member => all entries (List.dropLast_subset elements member),
                grown.each⟩

theorem Entries.Distinct.assign? {path : Path} {key : String} {value : Value}
    (distinct : entries.Distinct) (valued : value.Distinct)
    (assigned : entries.assign? path key value = some grown) : grown.Distinct := by
  refine distinct.changeAt? ?_ assigned
  intro origin old new oldDistinct step
  split_ifs at step
  refine (oldDistinct.change? ?_ step).1
  intro old new _ made
  split at made <;> cases made
  exact .leaf valued

theorem Entries.Distinct.assignUnder? {header path : Path} {key : String} {value : Value}
    (distinct : entries.Distinct) (valued : value.Distinct)
    (assigned : entries.assignUnder? header path key value = some grown) : grown.Distinct :=
  distinct.changeAt? (fun _ _ _ oldDistinct step => oldDistinct.assign? valued step) assigned

theorem Entries.Distinct.openTable? {path : Path} {key : String} (distinct : entries.Distinct)
    (opened : entries.openTable? path key = some grown) : grown.Distinct := by
  refine distinct.changeAt? ?_ opened
  intro origin old new oldDistinct step
  refine (oldDistinct.change? ?_ step).1
  intro old new nodeDistinct made
  split at made
  · cases made
    exact .table List.nodup_nil Entries.distinct_nil.each
  · cases made
    cases nodeDistinct _ rfl with
    | table keys each => exact .table keys each
  · cases made

theorem Entries.Distinct.openElement? {path : Path} {key : String} (distinct : entries.Distinct)
    (opened : entries.openElement? path key = some grown) : grown.Distinct := by
  refine distinct.changeAt? ?_ opened
  intro origin old new oldDistinct step
  refine (oldDistinct.change? ?_ step).1
  intro old new nodeDistinct made
  split at made
  · cases made
    refine .tables ?_ ?_
    · exact List.forall_mem_singleton.mpr List.nodup_nil
    · exact List.forall_mem_singleton.mpr Entries.distinct_nil.each
  · cases made
    cases nodeDistinct _ rfl with
    | tables keys each =>
        refine .tables ?_ ?_
        · rw [List.forall_mem_append, List.forall_mem_singleton]
          exact ⟨keys, List.nodup_nil⟩
        · rw [List.forall_mem_append, List.forall_mem_singleton]
          exact ⟨each, Entries.distinct_nil.each⟩
  · cases made

end

/-! ## Reading -/

/-- What every step keeps true holds at the end. -/
theorem of_foldlM {σ α : Type} {P : σ → Prop} {Q : α → Prop} {f : σ → α → Option σ}
    (step : ∀ {state a next}, P state → Q a → f state a = some next → P next) {steps : List α}
    (all : ∀ a ∈ steps, Q a) {state final : σ} (holds : P state)
    (folded : steps.foldlM f state = some final) : P final := by
  induction steps generalizing state with
  | nil =>
      cases folded
      exact holds
  | cons a steps ih =>
      rw [List.forall_mem_cons] at all
      rw [List.foldlM_cons] at folded
      obtain ⟨next, first, folded⟩ := Option.bind_eq_some_iff.mp folded
      exact ih all.2 (step holds all.1 first) folded

/-- What holds of every part holds of all of them. -/
theorem forall_of_readParts {α : Type} {P : α → Prop} {part : Reader α} {closing : Char}
    (each : ∀ input value rest, part input = some (value, rest) → P value)
    {input rest : List Char} {values : List α}
    (read : readParts part closing input = some (values, rest)) : ∀ value ∈ values, P value := by
  rw [readParts] at read
  obtain ⟨start, _, read⟩ := Option.bind_eq_some_iff.mp read
  split at read
  · cases read
  split_ifs at read
  · cases read
    exact fun _ member => absurd member List.not_mem_nil
  obtain ⟨⟨value, afterValue⟩, partRead, read⟩ := Option.bind_eq_some_iff.mp read
  have first := each _ _ _ partRead
  obtain ⟨next, _, read⟩ := Option.bind_eq_some_iff.mp read
  split at read
  · cases read
  split_ifs at read with closed more
  · cases read
    exact List.forall_mem_singleton.mpr first
  · obtain ⟨⟨others, _⟩, othersRead, same⟩ := Option.bind_eq_some_iff.mp read
    have := more.2
    cases same
    exact List.forall_mem_cons.mpr ⟨first, forall_of_readParts each othersRead⟩
termination_by input.length

theorem distinct_of_atom? {cs : List Char} {value : Value} (made : atom? cs = some value) :
    value.Distinct := by
  rw [atom?] at made
  split_ifs at made
  · cases made
    exact .boolean true
  · cases made
    exact .boolean false
  · split at made
    next moment _ =>
      cases made
      exact .moment moment.text
    · split at made
      next value _ =>
        cases made
        exact .integer value
      · obtain ⟨value, _, rfl⟩ := Option.map_eq_some_iff.mp made
        exact .real value

theorem distinct_of_readAtom {input rest : List Char} {value : Value}
    (read : readAtom input = some (value, rest)) : value.Distinct := by
  obtain ⟨made, known, same⟩ := Option.bind_eq_some_iff.mp read
  cases same
  exact distinct_of_atom? known

theorem distinct_of_readAssignment {value : Reader Value}
    (each : ∀ input made rest, value input = some (made, rest) → made.Distinct)
    {input rest : List Char} {assignment : (Path × String) × Value}
    (read : readAssignment value input = some (assignment, rest)) : assignment.2.Distinct := by
  obtain ⟨⟨key, afterKey⟩, _, read⟩ := Option.bind_eq_some_iff.mp read
  dsimp only at read
  split at read
  · obtain ⟨⟨made, _⟩, valueRead, same⟩ := Option.bind_eq_some_iff.mp read
    cases same
    exact each _ _ _ valueRead
  · cases read

theorem distinct_of_tableOf? {assignments : List ((Path × String) × Value)} {value : Value}
    (each : ∀ assignment ∈ assignments, assignment.2.Distinct)
    (made : tableOf? assignments = some value) : value.Distinct := by
  obtain ⟨entries, gathered, same⟩ := Option.bind_eq_some_iff.mp made
  cases same
  have distinct : Entries.Distinct entries :=
    of_foldlM (fun distinct valued assigned => Entries.Distinct.assign? distinct valued assigned)
      each Entries.distinct_nil gathered
  exact .table (by rw [keys_valuesOf]; exact distinct.keys)
    (distinct_valuesOf entries distinct.each)

/-- A value that is read has distinct keys. -/
theorem distinct_of_readValue {depth : Nat} {input rest : List Char} {value : Value}
    (read : readValue depth input = some (value, rest)) : value.Distinct := by
  induction depth generalizing input rest value with
  | zero =>
      rw [readValue.eq_def] at read
      dsimp only at read
      split at read
      next quotation _ =>
        obtain ⟨⟨text, _⟩, _, same⟩ := Option.map_eq_some_iff.mp read
        cases same
        exact .text _
      · exact distinct_of_readAtom read
  | succ depth ih =>
      rw [readValue.eq_def] at read
      dsimp only at read
      split at read
      next quotation _ =>
        obtain ⟨⟨text, _⟩, _, same⟩ := Option.map_eq_some_iff.mp read
        cases same
        exact .text _
      · split at read
        next _ _ same _ =>
          cases same
          obtain ⟨⟨items, _⟩, itemsRead, same⟩ := Option.bind_eq_some_iff.mp read
          cases same
          exact .list (forall_of_readParts (fun _ _ _ => ih) itemsRead)
        next _ _ same _ =>
          cases same
          obtain ⟨⟨assignments, _⟩, partsRead, read⟩ := Option.bind_eq_some_iff.mp read
          obtain ⟨table, made, same⟩ := Option.bind_eq_some_iff.mp read
          cases same
          have each := forall_of_readParts
            (fun _ _ _ => distinct_of_readAssignment fun _ _ _ => ih) partsRead
          exact distinct_of_tableOf? each made
        · exact distinct_of_readAtom read

/-- Every assignment of a document assigns a value with distinct keys. -/
def Statement.Distinct : Statement → Prop
  | .assignment _ _ value => value.Distinct
  | .header _ _ | .elementHeader _ _ => True

theorem distinct_of_readStatement {input rest : List Char} {statement : Statement}
    (read : readStatement input = some (statement, rest)) : statement.Distinct := by
  rw [readStatement.eq_def] at read
  dsimp only at read
  split at read
  · obtain ⟨_, _, same⟩ := Option.bind_eq_some_iff.mp read
    cases same
    trivial
  · obtain ⟨_, _, same⟩ := Option.bind_eq_some_iff.mp read
    cases same
    trivial
  · obtain ⟨⟨⟨⟨path, key⟩, value⟩, _⟩, assigned, same⟩ := Option.bind_eq_some_iff.mp read
    cases same
    exact distinct_of_readAssignment (fun _ _ _ => distinct_of_readValue) assigned

theorem distinct_of_readStatements {input : List Char} {statements : List Statement}
    (read : readStatements input = some statements) :
    ∀ statement ∈ statements, statement.Distinct := by
  rw [readStatements] at read
  obtain ⟨start, _, read⟩ := Option.bind_eq_some_iff.mp read
  split at read
  · cases read
    exact fun _ member => absurd member List.not_mem_nil
  · obtain ⟨⟨statement, afterStatement⟩, statementRead, read⟩ := Option.bind_eq_some_iff.mp read
    obtain ⟨next, _, read⟩ := Option.bind_eq_some_iff.mp read
    split_ifs at read with shorter
    obtain ⟨others, othersRead, same⟩ := Option.bind_eq_some_iff.mp read
    cases same
    exact List.forall_mem_cons.mpr
      ⟨distinct_of_readStatement statementRead, distinct_of_readStatements othersRead⟩
termination_by input.length

/-- A statement keeps the keys distinct. -/
theorem Growth.distinct_step? {growth grown : Growth} {statement : Statement}
    (distinct : growth.entries.Distinct) (valued : statement.Distinct)
    (step : growth.step? statement = some grown) : grown.entries.Distinct := by
  cases statement with
  | header path key =>
      obtain ⟨entries, opened, same⟩ := Option.bind_eq_some_iff.mp step
      cases same
      exact distinct.openTable? opened
  | elementHeader path key =>
      obtain ⟨entries, opened, same⟩ := Option.bind_eq_some_iff.mp step
      cases same
      exact distinct.openElement? opened
  | assignment path key value =>
      obtain ⟨entries, assigned, same⟩ := Option.bind_eq_some_iff.mp step
      cases same
      exact distinct.assignUnder? valued assigned

/-- The tables of a document have distinct keys. -/
theorem distinct_of_parse? {text : String} {entries : List (String × Value)}
    (parsed : parse? text = some entries) : (Value.table entries).Distinct := by
  obtain ⟨statements, read, made⟩ := Option.bind_eq_some_iff.mp parsed
  obtain ⟨growth, grown, same⟩ := Option.bind_eq_some_iff.mp made
  cases same
  have distinct : growth.entries.Distinct :=
    of_foldlM (P := fun growth => growth.entries.Distinct) (Q := Statement.Distinct)
      Growth.distinct_step? (distinct_of_readStatements read) Entries.distinct_nil grown
  exact .table (by rw [keys_valuesOf]; exact distinct.keys)
    (distinct_valuesOf growth.entries distinct.each)

end RouterTelemetry.Toml
