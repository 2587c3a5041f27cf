import RouterTelemetry.Proofs.EffectiveSettings
import RouterTelemetry.Proofs.WrittenVariables

/-!
# Variables in the environment file

A variable that sets a setting counts alike in the environment and in the environment file.  A
variable that stands in for an option does not: it is read before the file is, and the file sets
it in vain.
-/

namespace RouterTelemetry

namespace Startup

open Environment Settings

/-- The surroundings with the variable in the environment. -/
def Surroundings.withVariable (surroundings : Surroundings) (name value : String) : Surroundings :=
  { surroundings with environment := surroundings.environment ++ [(name, value)] }

/-- The surroundings with this environment file. -/
def Surroundings.withText (surroundings : Surroundings) (text : Option String) : Surroundings :=
  { surroundings with environmentFile := text }

/-- Two surroundings in which the program starts alike: it comes to the same settings, ends the
same way, and logs the same. -/
structure StartsAlike (one other : Surroundings) (arguments : List String) : Prop where
  effective : effective? one arguments = effective? other arguments
  start : start one arguments = start other arguments
  logged : logged one arguments = logged other arguments

/-- What of the surroundings counts for a start. -/
theorem StartsAlike.of_layers {one other : Surroundings} {arguments : List String}
    (parsed : Command.parse arguments one.environment = Command.parse arguments other.environment)
    (filter : one.environment.value? filterVariable = other.environment.value? filterVariable)
    (layer : environmentLayer one.fullEnvironment = environmentLayer other.fullEnvironment)
    (files : one.file? = other.file?) (ports : one.mayListen = other.mayListen) :
    StartsAlike one other arguments := by
  have loaded : loadSettings one = loadSettings other := by
    funext document
    rw [loadSettings, loadSettings, load_congr layer, document?, document?, files]
  have opened : withSettings one = withSettings other := by
    funext settings
    rw [withSettings, withSettings]
    cases settings.check with
    | error failure => rfl
    | ok endpoint => simp only [openSite, ports]
  have effective : effective? one arguments = effective? other arguments := by
    rw [effective?, effective?, parsed, loaded]
  have start : Startup.start one arguments = Startup.start other arguments := by
    rw [Startup.start, Startup.start, parsed]
    cases Command.parse arguments other.environment with
    | about | misuse => rfl
    | run options => simp only [withOptions, loaded, opened]
  refine ⟨effective, start, ?_⟩
  have admitted : filterFor one arguments = filterFor other arguments := by
    rw [filterFor, filterFor, parsed]
    cases Command.parse arguments other.environment <;> simp only [filterOf, filter]
  simp only [Startup.logged, admitted, start]

/-- Variables that stand in for options set no setting. -/
theorem settingName?_of_standIn : ∀ name ∈ standIns, settingName? name = none := by
  decide +kernel

theorem ne_of_setting {name other : String} (setting : settingName? name ≠ none)
    (none : settingName? other = none) : other ≠ name := by
  rintro rfl
  exact setting none

/-! ## Options that are given -/

/-- A variable stands in for one option. -/
theorem standIn?_injective {one other : Override} {name : String}
    (first : one.standIn? = some name) (second : other.standIn? = some name) : one = other := by
  rw [← second] at first
  cases one <;> cases other <;> first | rfl | exact absurd first (by decide) | cases second

/-- What has been said of an option is not said again. -/
theorem Given.value?_of_fill? {environment : Environment} {given filled : Given}
    {override other : Override} (fills : given.fill? environment other = some filled)
    (said : given.value? override ≠ none) : filled.value? override ≠ none := by
  obtain ⟨value, present⟩ := Option.ne_none_iff_exists'.mp said
  rw [Given.value?_fill? fills, present, Option.some_or]
  exact Option.some_ne_none value

/-- A variable that stands in for a given option is not asked for. -/
theorem foldlM_fill?_of_given {override : Override} {name : String}
    (standIn : override.standIn? = some name) (environment : Environment) (value : String)
    (overrides : List Override) {given : Given} (said : given.value? override ≠ none) :
    overrides.foldlM (Given.fill? (environment ++ [(name, value)])) given =
      overrides.foldlM (Given.fill? environment) given := by
  induction overrides generalizing given with
  | nil => rfl
  | cons other overrides ih =>
      have same : given.fill? (environment ++ [(name, value)]) other =
          given.fill? environment other := by
        by_cases here : other = override
        · subst here
          obtain ⟨text, present⟩ := Option.ne_none_iff_exists'.mp said
          simp [Given.fill?, present]
        · have asked : other.standIn?.bind (Environment.value? (environment ++ [(name, value)])) =
              other.standIn?.bind environment.value? := by
            cases found : other.standIn? with
            | none => rfl
            | some asked =>
                refine value?_append_of_ne ?_ value environment
                rintro rfl
                exact here (standIn?_injective found standIn)
          rw [Given.fill?, Given.fill?, asked]
      rw [List.foldlM_cons, List.foldlM_cons, same]
      cases fills : given.fill? environment other with
      | none => rfl
      | some filled => exact ih (Given.value?_of_fill? fills said)

theorem layer_of_sets {text name value : String} (sets : Sets text name value)
    {environment : Environment} (unset : environment.value? name = none) :
    environment.withFile text = environment ++ [(name, value)] := by
  have alone := sets environment "" rfl
  rw [String.append_empty, withDefault_of_unset unset] at alone
  exact alone

/-- A variable that sets a setting counts alike in the file and in the environment.  One that
stands in for an option counts in the environment only: in a file of its own it changes nothing,
which is as it should be where the option is given. -/
theorem file_variable_starts_alike {text name value : String} (sets : Sets text name value)
    {surroundings : Surroundings} (unset : surroundings.environment.value? name = none)
    (arguments : List String) :
    (settingName? name ≠ none → ∀ rest : String, withoutMark rest.toList = rest.toList →
      StartsAlike (surroundings.withText (some (text ++ rest)))
        ((surroundings.withVariable name value).withText (some rest)) arguments) ∧
    (name ∈ standIns →
      StartsAlike (surroundings.withText (some text)) (surroundings.withText none) arguments) ∧
    (∀ override given, override.standIn? = some name →
      takeAll? {} arguments = some (some given) → given.value? override ≠ none →
        StartsAlike (surroundings.withText (some text))
          ((surroundings.withVariable name value).withText none) arguments) := by
  have alone : environmentLayer (surroundings.environment.withFile text) =
      environmentLayer surroundings.environment ++ environmentLayer [(name, value)] := by
    rw [layer_of_sets sets unset, environmentLayer_append]
  have silent (none : settingName? name = none) : environmentLayer [(name, value)] = [] := by
    simp [environmentLayer, none]
  refine ⟨?_, ?_, ?_⟩
  · intro setting rest unmarked
    refine .of_layers ?_ ?_ ?_ rfl rfl
    · refine parse_congr (fun other member => ?_) arguments
      exact (value?_append_of_ne (ne_of_setting setting (settingName?_of_standIn other member))
        value surroundings.environment).symm
    · have none : settingName? filterVariable = none := by decide +kernel
      exact (value?_append_of_ne (ne_of_setting setting none) value surroundings.environment).symm
    · exact congrArg environmentLayer
        ((sets surroundings.environment rest unmarked).trans
          (by rw [withDefault_of_unset unset]; rfl))
  · intro member
    refine .of_layers rfl rfl ?_ rfl rfl
    exact alone.trans (by rw [silent (settingName?_of_standIn name member), List.append_nil]; rfl)
  · intro override given standIn taken said
    have none := settingName?_of_standIn name (mem_standIns standIn)
    refine .of_layers ?_ ?_ ?_ rfl rfl
    · simp only [Command.parse, taken, Surroundings.withText, Surroundings.withVariable,
        foldlM_fill?_of_given standIn _ _ _ said]
    · refine (value?_append_of_ne ?_ value surroundings.environment).symm
      rintro rfl
      exact absurd (mem_standIns standIn) (by decide)
    · exact alone.trans (environmentLayer_append _ _).symm

/-- The port of the site may be set in a file, between other settings. -/
theorem port_in_file_starts_alike :
    let line := assignmentLine "BBOX_EXPORTER__SERVER__PORT" "8080"
    let rest := "BBOX_EXPORTER__BBOX__PASSWORD=$BBOX_EXPORTER__SERVER__PORT\n"
    let surroundings : Surroundings := { environment := [("EXPORTER_ADDR", "::1")] }
    settingName? "BBOX_EXPORTER__SERVER__PORT" ≠ none ∧
      StartsAlike (surroundings.withText (some (line ++ rest)))
        ((surroundings.withVariable "BBOX_EXPORTER__SERVER__PORT" "8080").withText (some rest))
        [] := by
  intro line rest surroundings
  have setting : settingName? "BBOX_EXPORTER__SERVER__PORT" ≠ none := by decide +kernel
  have sets : Sets line "BBOX_EXPORTER__SERVER__PORT" "8080" :=
    sets_assignmentLine ⟨'B', _, rfl, by decide, List.all_eq_true.mp (by decide)⟩ "8080"
  have unset : surroundings.environment.value? "BBOX_EXPORTER__SERVER__PORT" = none := by decide
  exact ⟨setting, (file_variable_starts_alike sets unset []).1 setting rest (by decide)⟩

/-- A password in the file is not the one that the program starts with, and so it does not. -/
theorem password_in_file_ignored :
    let line := assignmentLine "BBOX_PASSWORD" "fromdotenv"
    let arguments := ["--addr", "192.0.2.1"]
    let inFile : Surroundings := { environmentFile := some line }
    let inEnvironment : Surroundings := { environment := [("BBOX_PASSWORD", "fromdotenv")] }
    Sets line "BBOX_PASSWORD" "fromdotenv" ∧
    (effective? inFile arguments).map (·.router.password) = some "" ∧
    (effective? inEnvironment arguments).map (·.router.password) = some "fromdotenv" ∧
    (start inFile arguments).ending.exitCode? = some 1 ∧
    (start inEnvironment arguments).ending.exitCode? = none := by
  have named : IsVariableName "BBOX_PASSWORD".toList :=
    ⟨'B', _, rfl, by decide, List.all_eq_true.mp (by decide)⟩
  refine ⟨sets_assignmentLine named "fromdotenv", ?_, ?_, ?_, ?_⟩
  all_goals decide +kernel

end Startup

end RouterTelemetry
