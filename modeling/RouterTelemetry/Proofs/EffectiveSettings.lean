import Mathlib.Tactic.SplitIfs
import RouterTelemetry.Startup.Run

/-!
# Effective settings

A start comes to its settings before it checks them, or it ends earlier.  What it comes to depends
on the environment through the variables that stand in for options and through those that set
settings.
-/

namespace RouterTelemetry

namespace Startup

/-- The settings that a start checks, if it comes that far. -/
def effective? (surroundings : Surroundings) (arguments : List String) : Option Settings :=
  match Command.parse arguments surroundings.environment with
  | .run options => (loadSettings surroundings options.document).toOption.map options.override
  | _ => none

/-- Once there are settings, the start goes on with them. -/
theorem start_of_effective {surroundings : Surroundings} {arguments : List String}
    {settings : Settings} (found : effective? surroundings arguments = some settings) :
    start surroundings arguments =
      Start.after startingEvent (withSettings surroundings settings) := by
  rw [effective?] at found
  split at found
  next options parsed =>
    rw [start, parsed]
    dsimp only
    rw [withOptions]
    cases loaded : loadSettings surroundings options.document with
    | error fault =>
        rw [loaded] at found
        cases found
    | ok loadedSettings =>
        rw [loaded] at found
        cases found
        rfl
  · cases found

/-- The variables that stand in for options. -/
def standIns : List String :=
  Override.all.filterMap Override.standIn?

theorem mem_standIns {override : Override} {name : String}
    (standIn : override.standIn? = some name) : name ∈ standIns :=
  List.mem_filterMap.mpr ⟨override, by cases override <;> decide, standIn⟩

section

variable {environment environment' : Environment}

/-- A command line is read alike where the variables that stand in for options are alike. -/
theorem parse_congr (alike : ∀ name ∈ standIns, environment.value? name = environment'.value? name)
    (arguments : List String) :
    Command.parse arguments environment = Command.parse arguments environment' := by
  have fill : Given.fill? environment = Given.fill? environment' := by
    funext given override
    have same : override.standIn?.bind environment.value? =
        override.standIn?.bind environment'.value? := by
      cases standIn : override.standIn? with
      | none => rfl
      | some name => exact alike name (mem_standIns standIn)
    rw [Given.fill?, Given.fill?, same]
  rw [Command.parse, Command.parse, fill]

end

/-! ## What is given -/

/-- Every value is one that its option accepts. -/
def Given.Accepted (given : Given) : Prop :=
  ∀ override value, given.value? override = some value → override.accepts value = true

/-- An option that is given has its value, and the others have theirs. -/
theorem Given.value?_set? {given set : Given} {override : Override} {value : String}
    (sets : given.set? override value = some set) (other : Override) :
    set.value? other = (given.value? other).or (if other = override then some value else none) := by
  rw [Given.set?] at sets
  split at sets
  · cases sets
  · split_ifs at sets
    cases sets
    rw [Given.value?, List.lookup_append]
    congr 1
    by_cases same : other = override
    · subst same
      simp
    · have differs : (other == override) = false := by simpa using same
      simp [List.lookup_cons, differs, same]

theorem Given.Accepted.set? {given set : Given} (accepted : given.Accepted) {override : Override}
    {value : String} (sets : given.set? override value = some set) : set.Accepted := by
  intro other found isFound
  rw [Given.value?_set? sets] at isFound
  rw [Given.set?] at sets
  split at sets
  · cases sets
  · split_ifs at sets with accepts
    rcases Option.or_eq_some_iff.mp isFound with before | ⟨_, now⟩
    · exact accepted other found before
    · split_ifs at now with same
      cases now
      rwa [same]

theorem Given.Accepted.setDebug? {given set : Given} (accepted : given.Accepted)
    (sets : given.setDebug? = some set) : set.Accepted := by
  rw [Given.setDebug?] at sets
  split_ifs at sets
  cases sets
  exact accepted

/-- What has been given so far is accepted. -/
def Progress.Accepted : Progress → Prop
  | .next given | .wanting _ given => given.Accepted
  | .about => True

theorem Given.Accepted.takeLong? {given : Given} (accepted : given.Accepted) {name : String}
    {value? : Option String} {progress : Progress}
    (takes : Startup.takeLong? name value? given = some progress) : progress.Accepted := by
  rw [Startup.takeLong?.eq_def] at takes
  split at takes
  · obtain ⟨set, sets, rfl⟩ := Option.map_eq_some_iff.mp takes
    exact accepted.setDebug? sets
  · cases takes
    trivial
  · cases takes
    trivial
  · split at takes
    · cases takes
    · cases takes
      exact accepted
    · obtain ⟨set, sets, rfl⟩ := Option.map_eq_some_iff.mp takes
      exact accepted.set? sets

theorem Given.Accepted.takeShort? {letters : List Char} {given : Given}
    (accepted : given.Accepted) {progress : Progress}
    (takes : Startup.takeShort? letters given = some progress) : progress.Accepted := by
  induction letters generalizing given with
  | nil =>
      cases takes
      exact accepted
  | cons c letters ih =>
      rw [Startup.takeShort?.eq_def] at takes
      dsimp only at takes
      split_ifs at takes
      · split at takes
        next set sets => exact ih (accepted.setDebug? sets) takes
        · cases takes
      · cases takes
        trivial
      · split at takes
        · cases takes
        · cases takes
          exact accepted
        · obtain ⟨set, sets, rfl⟩ := Option.map_eq_some_iff.mp takes
          exact accepted.set? sets

theorem Given.Accepted.takeOne? {argument : String} {last : Bool} {given : Given}
    (accepted : given.Accepted) {progress : Progress}
    (takes : Startup.takeOne? argument last given = some progress) : progress.Accepted := by
  rw [Startup.takeOne?] at takes
  split at takes
  · exact accepted.takeLong? takes
  · exact accepted.takeShort? takes
  · split_ifs at takes
    cases takes
    exact accepted
  · cases takes

/-- All values on a command line are accepted. -/
theorem Given.Accepted.takeAll? {arguments : List String} {given taken : Given}
    (accepted : given.Accepted) (takes : Startup.takeAll? given arguments = some (some taken)) :
    taken.Accepted := by
  fun_induction Startup.takeAll? given arguments with
  | case1 =>
      cases takes
      exact accepted
  | case4 _ _ _ _ one ih => exact ih (accepted.takeOne? one) takes
  | case7 _ _ _ _ _ _ _ _ sets one ih =>
      have wanted : Given.Accepted _ := accepted.takeOne? one
      exact ih (wanted.set? sets) takes
  | case2 | case3 | case5 | case6 | case8 => cases takes

/-- A variable gives its option a value if the option has none. -/
theorem Given.value?_fill? {environment : Environment} {given filled : Given}
    {override : Override} (fills : given.fill? environment override = some filled)
    (other : Override) :
    filled.value? other = (given.value? other).or
      (if other = override then other.standIn?.bind environment.value? else none) := by
  rw [Given.fill?] at fills
  split at fills
  next value unsaid stands =>
    rw [Given.value?_set? fills, ← stands]
    split_ifs with same
    · rw [same]
    · rfl
  next said =>
    cases fills
    split_ifs with same
    · subst same
      cases stands : other.standIn?.bind environment.value? with
      | none => rw [Option.or_none]
      | some value =>
          cases before : given.value? other with
          | none => exact (said value before stands).elim
          | some known => rfl
    · rw [Option.or_none]

theorem Given.Accepted.fill? {environment : Environment} {given filled : Given}
    (accepted : given.Accepted) {override : Override}
    (fills : given.fill? environment override = some filled) : filled.Accepted := by
  rw [Given.fill?] at fills
  split at fills
  · exact accepted.set? fills
  · cases fills
    exact accepted

theorem Given.value?_foldlM_fill? {environment : Environment} {overrides : List Override}
    {given filled : Given} (accepted : given.Accepted)
    (fills : overrides.foldlM (Given.fill? environment) given = some filled) :
    filled.Accepted ∧ ∀ override, filled.value? override = (given.value? override).or
      (if override ∈ overrides then override.standIn?.bind environment.value? else none) := by
  induction overrides generalizing given with
  | nil =>
      cases fills
      exact ⟨accepted, fun override => by simp⟩
  | cons first overrides ih =>
      rw [List.foldlM_cons] at fills
      obtain ⟨next, step, fills⟩ := Option.bind_eq_some_iff.mp fills
      obtain ⟨allAccepted, each⟩ := ih (accepted.fill? step) fills
      refine ⟨allAccepted, fun override => ?_⟩
      rw [each, Given.value?_fill? step, Option.or_assoc]
      by_cases here : override = first
      · subst here
        by_cases later : override ∈ overrides <;> simp [later]
      · simp [here]

/-- The value that an option is given on the command line. -/
def argument? (arguments : List String) (override : Override) : Option String :=
  match takeAll? {} arguments with
  | some (some given) => given.value? override
  | _ => none

/-- The values that options have: on the command line, or else by their variables. -/
theorem exists_given_of_parse {arguments : List String} {environment : Environment}
    {options : Options} (parsed : Command.parse arguments environment = .run options) :
    ∃ given : Given, options = given.options ∧ given.Accepted ∧ ∀ override,
      given.value? override =
        (argument? arguments override).or (override.standIn?.bind environment.value?) := by
  rw [Command.parse] at parsed
  split at parsed
  · cases parsed
  · cases parsed
  next taken takes =>
    split at parsed
    · cases parsed
    next filled fills =>
      cases parsed
      have accepted : Given.Accepted {} := by
        intro override value said
        cases said
      obtain ⟨allAccepted, each⟩ := Given.value?_foldlM_fill? (accepted.takeAll? takes) fills
      refine ⟨filled, rfl, allAccepted, fun override => ?_⟩
      have listed : override ∈ Override.all := by cases override <;> decide
      rw [each, if_pos listed, argument?, takes]

end Startup

namespace Settings

variable {environment environment' : Environment}

/-- Settings are loaded alike where the layers of the environments are alike. -/
theorem load_congr (alike : environmentLayer environment = environmentLayer environment')
    (document : Option String) : load environment document = load environment' document := by
  rw [load, load, alike]

theorem environmentLayer_append (environment rest : Environment) :
    environmentLayer (environment ++ rest) =
      environmentLayer environment ++ environmentLayer rest :=
  List.filterMap_append

end Settings

end RouterTelemetry
