import RouterTelemetry.Proofs.EffectiveSettings
import RouterTelemetry.Proofs.SettingKeys

/-!
# The strongest source of a setting

A setting may be said on the command line, by the variable that stands in for its option, by a
variable of its own and by the document.  The first of these that says something counts, and what
is said of one setting leaves all others.
-/

namespace RouterTelemetry

namespace Startup

open Settings

/-! ## Sources -/

/-- The option that overrides a setting. -/
def override? : Key → Option Override
  | .endpoint => some .endpoint
  | .password => some .password
  | .address => some .address
  | .port => some .port
  | .metricsPath => some .metricsPath
  | .verifyCertificate | .bands => none

/-- How a setting is read where it is the value of an option. -/
def ofArgument? : (key : Key) → String → Option key.Value
  | .endpoint, text | .password, text | .address, text | .metricsPath, text => some text
  | .port, text => portOfText? text
  | .verifyCertificate, _ | .bands, _ => none

/-- What is said of a setting, from the strongest source to the weakest. -/
structure Said where
  /-- On the command line. -/
  argument : Option String
  /-- By the variable that stands in for the option. -/
  standIn : Option String
  /-- By the variable of the setting. -/
  own : Option String
  /-- In the document. -/
  entry : Option Toml.Value

/-- The value that is loaded; if neither variable nor document says something, the default. -/
def Said.loaded? (key : Key) (said : Said) : Option key.Value :=
  match said.own, said.entry with
  | some text, _ => key.ofSetting (.text text)
  | none, some value => key.ofSetting (.ofValue value)
  | none, none => some key.default

/-- The value of the strongest source that says something. -/
def Said.value? (key : Key) (said : Said) : Option key.Value :=
  match said.argument, said.standIn with
  | some text, _ => ofArgument? key text
  | none, some text => ofArgument? key text
  | none, none => said.loaded? key

/-- The document that a command line asks for. -/
def documentOf? (surroundings : Surroundings) (arguments : List String) : Option String :=
  document? surroundings (Command.parse arguments surroundings.environment).documentName

/-- What a start is told about a setting. -/
def said (surroundings : Surroundings) (arguments : List String) (key : Key) : Said :=
  { argument := (override? key).bind (argument? arguments)
    standIn := ((override? key).bind Override.standIn?).bind surroundings.environment.value?
    own := surroundings.environment.value? key.variableName
    entry := documentValue? (documentOf? surroundings arguments) key }

/-- An option that is given counts, and what is not overridden is left. -/
theorem get_override {given : Given} (accepted : given.Accepted) (settings : Settings) (key : Key) :
    some (key.get (given.options.override settings)) =
      match (override? key).bind given.value? with
      | some text => ofArgument? key text
      | none => some (key.get settings) := by
  cases key with
  | verifyCertificate | bands => rfl
  | endpoint | password | address | metricsPath =>
      rw [override?, Option.bind_some]
      simp only [Key.get, Options.override, Given.options]
      cases given.value? _ <;> rfl
  | port =>
      rw [override?, Option.bind_some]
      simp only [Key.get, Options.override, Given.options]
      cases value : given.value? .port with
      | none => rfl
      | some text =>
          have number : (portOfText? text).isSome = true := by
            simpa [Override.accepts] using accepted .port text value
          obtain ⟨port, isPort⟩ := Option.isSome_iff_exists.mp number
          simp only [ofArgument?, Option.bind_some, isPort, Option.getD_some]
          rfl

/-- Variables and the document name settings. -/
structure Documented (surroundings : Surroundings) (arguments : List String) : Prop where
  noFile : surroundings.environmentFile = none
  distinct : (surroundings.environment.map Prod.fst).Nodup
  named : NamesKeys surroundings.environment
  document : ∀ text entries, documentOf? surroundings arguments = some text →
    Toml.parse? text = some entries → NamesTables entries

/-- What is loaded before any option counts. -/
theorem Documented.loaded? {surroundings : Surroundings} {arguments : List String}
    (documented : Documented surroundings arguments) {settings : Settings}
    (loads : load surroundings.environment (documentOf? surroundings arguments) = .ok settings)
    (key : Key) : (said surroundings arguments key).loaded? key = some (key.get settings) := by
  have read := Key.read_of_load documented.distinct documented.named documented.document loads key
  rw [Said.loaded?, said]
  cases own : surroundings.environment.value? key.variableName with
  | some text =>
      rw [own] at read
      exact read
  | none =>
      rw [own] at read
      cases entry : documentValue? (documentOf? surroundings arguments) key with
      | some value =>
          rw [entry] at read
          exact (key.read_written (.ofValue value)).symm.trans read
      | none =>
          rw [entry] at read
          exact read

/-- What a start comes to is loaded, and then overridden by the options. -/
theorem Documented.exists_loaded {surroundings : Surroundings} {arguments : List String}
    (documented : Documented surroundings arguments) {settings : Settings}
    (reached : effective? surroundings arguments = some settings) :
    ∃ options loaded, Command.parse arguments surroundings.environment = .run options ∧
      load surroundings.environment (documentOf? surroundings arguments) = .ok loaded ∧
      settings = options.override loaded := by
  rw [effective?] at reached
  split at reached
  next options parsed =>
    obtain ⟨loaded, loads, rfl⟩ := Option.map_eq_some_iff.mp reached
    refine ⟨options, loaded, parsed, ?_, rfl⟩
    rw [documentOf?, parsed]
    rw [loadSettings, Surroundings.fullEnvironment, documented.noFile] at loads
    cases result : load surroundings.environment (document? surroundings options.document) with
    | error fault =>
        rw [result] at loads
        cases loads
    | ok found =>
        rw [result] at loads
        cases loads
        exact result
  · cases reached

theorem Documented.value? {surroundings : Surroundings} {arguments : List String}
    (documented : Documented surroundings arguments) {settings : Settings}
    (reached : effective? surroundings arguments = some settings) (key : Key) :
    (said surroundings arguments key).value? key = some (key.get settings) := by
  obtain ⟨options, loaded, parsed, loads, rfl⟩ := documented.exists_loaded reached
  obtain ⟨given, rfl, accepted, each⟩ := exists_given_of_parse parsed
  have below := documented.loaded? loads key
  have options := get_override accepted loaded key
  rw [Said.value?, options, ← below]
  cases option : override? key with
  | none =>
      have unsaid : (said surroundings arguments key).argument = none ∧
          (said surroundings arguments key).standIn = none := by simp [said, option]
      rw [unsaid.1, unsaid.2]
      rfl
  | some override =>
      have argument : (said surroundings arguments key).argument =
          argument? arguments override := by simp [said, option]
      have standIn : (said surroundings arguments key).standIn =
          override.standIn?.bind surroundings.environment.value? := by simp [said, option]
      rw [Option.bind_some, each override, argument, standIn]
      cases argument? arguments override with
      | some text => rfl
      | none => cases override.standIn?.bind surroundings.environment.value? <;> rfl

/-- No text is a list of bands. -/
theorem Documented.own_bands {surroundings : Surroundings} {arguments : List String}
    (documented : Documented surroundings arguments) {settings : Settings}
    (reached : effective? surroundings arguments = some settings) :
    (said surroundings arguments .bands).own = none := by
  obtain ⟨options, loaded, parsed, loads, rfl⟩ := documented.exists_loaded reached
  have below := documented.loaded? loads .bands
  cases own : (said surroundings arguments .bands).own with
  | none => rfl
  | some text =>
      rw [Said.loaded?, own] at below
      cases below

/-- The settings that a start checks have the value of the strongest source that says something of
each, so what is said of one setting leaves all others. -/
theorem strongest_source_counts {surroundings : Surroundings} {arguments : List String}
    (documented : Documented surroundings arguments) {settings : Settings}
    (reached : effective? surroundings arguments = some settings) :
    start surroundings arguments = Start.after startingEvent (withSettings surroundings settings) ∧
    (∀ key : Key, (said surroundings arguments key).value? key = some (key.get settings)) ∧
    (said surroundings arguments .bands).own = none ∧
    (∀ surroundings' arguments' settings', Documented surroundings' arguments' →
      effective? surroundings' arguments' = some settings' → ∀ key : Key,
        said surroundings' arguments' key = said surroundings arguments key →
          key.get settings' = key.get settings) := by
  refine ⟨start_of_effective reached, documented.value? reached, documented.own_bands reached, ?_⟩
  intro surroundings' arguments' settings' documented' reached' key same
  refine Option.some.inj ?_
  rw [← documented.value? reached, ← documented'.value? reached', same]

/-- A start that is told something of most settings, and of some of them more than once. -/
theorem told_start_settings :
    let text := "[bbox]\nendpoint = \"http://192.0.2.1\"\nwireless_bands = [\"5\"]\n" ++
      "[server]\nport = 80\naddr = \"192.0.2.2\"\n"
    let surroundings : Surroundings := {
      environment := [("PATH", "/bin"), ("BBOX_PASSWORD", "first"), ("EXPORTER_PORT", "9001"),
        ("BBOX_EXPORTER__BBOX__PASSWORD", "second"), ("BBOX_EXPORTER__BBOX__VERIFY_SSL", "off"),
        ("BBOX_EXPORTER__SERVER__PORT", "9002"), ("BBOX_EXPORTER__SERVER__ADDR", "192.0.2.3")]
      file? := fun name => if name = "config/Default.toml" then some text else none }
    let arguments := ["--port", "9000"]
    let settings : Settings := ⟨⟨"http://192.0.2.1", "first", false, [.ghz5]⟩,
      ⟨"192.0.2.3", 9000, "/metrics"⟩⟩
    Documented surroundings arguments ∧ effective? surroundings arguments = some settings ∧
      ∀ key : Key, (said surroundings arguments key).value? key = some (key.get settings) := by
  intro text surroundings arguments settings
  have documented : Documented surroundings arguments := by
    refine ⟨rfl, by decide, ?_, ?_⟩
    · intro entry member named
      simp only [surroundings, List.mem_cons, List.not_mem_nil, or_false] at member
      rcases member with rfl | rfl | rfl | rfl | rfl | rfl | rfl
      iterate 3 exact absurd (by decide +kernel) named
      · exact ⟨.password, rfl⟩
      · exact ⟨.verifyCertificate, rfl⟩
      · exact ⟨.port, rfl⟩
      · exact ⟨.address, rfl⟩
    · intro found entries isText parsed
      have stands : documentOf? surroundings arguments = some text := by decide +kernel
      have tables : (Toml.parse? text).all (·.all isKeyTable) = true := by decide +kernel
      cases stands.symm.trans isText
      rw [parsed] at tables
      exact List.all_eq_true.mp tables
  have reached : effective? surroundings arguments = some settings := by decide +kernel
  exact ⟨documented, reached, (strongest_source_counts documented reached).2.1⟩

end Startup

end RouterTelemetry
