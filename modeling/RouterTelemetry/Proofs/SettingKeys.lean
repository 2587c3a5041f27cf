import RouterTelemetry.Proofs.DistinctKeys
import RouterTelemetry.Proofs.SettingPlaces

/-!
# Keys of settings

Each setting has a key in a table of the document, and a variable.  Where documents and variables
are those of keys, the settings are loaded key by key: the variable counts before the document.
-/

namespace RouterTelemetry

namespace Environment

variable {environment : Environment} {name other : String}

theorem value?_cons_self (value : String) :
    value? ((name, value) :: environment) name = some value := by
  simp [value?]

theorem value?_cons_of_ne (ne : other ≠ name) (value : String) :
    value? ((name, value) :: environment) other = environment.value? other := by
  have differs : (other == name) = false := by simpa using ne
  simp [value?, List.lookup_cons, differs]

end Environment

/-! ## Keys -/

namespace Settings

/-- The single settings. -/
inductive Key where
  | endpoint
  | password
  | verifyCertificate
  | bands
  | address
  | port
  | metricsPath
deriving Repr, DecidableEq

namespace Key

/-- The table of a document that a setting is in. -/
def table : Key → String
  | .endpoint | .password | .verifyCertificate | .bands => "bbox"
  | .address | .port | .metricsPath => "server"

/-- The key of a setting in its table. -/
def name : Key → String
  | .endpoint => "endpoint"
  | .password => "password"
  | .verifyCertificate => "verify_ssl"
  | .bands => "wireless_bands"
  | .address => "addr"
  | .port => "port"
  | .metricsPath => "metrics_path"

/-- The variable of a setting. -/
def variableName : Key → String
  | .endpoint => "BBOX_EXPORTER__BBOX__ENDPOINT"
  | .password => "BBOX_EXPORTER__BBOX__PASSWORD"
  | .verifyCertificate => "BBOX_EXPORTER__BBOX__VERIFY_SSL"
  | .bands => "BBOX_EXPORTER__BBOX__WIRELESS_BANDS"
  | .address => "BBOX_EXPORTER__SERVER__ADDR"
  | .port => "BBOX_EXPORTER__SERVER__PORT"
  | .metricsPath => "BBOX_EXPORTER__SERVER__METRICS_PATH"

/-- The place of a setting. -/
def place (key : Key) : Setting.Place :=
  [.key key.table, .key key.name]

/-- What values a setting has. -/
def Value : Key → Type
  | .endpoint | .password | .address | .metricsPath => String
  | .verifyCertificate => Bool
  | .bands => List Band
  | .port => UInt16

/-- The value among all settings. -/
def get : (key : Key) → Settings → key.Value
  | .endpoint, settings => settings.router.endpoint
  | .password, settings => settings.router.password
  | .verifyCertificate, settings => settings.router.verifyCertificate
  | .bands, settings => settings.router.bands
  | .address, settings => settings.site.address
  | .port, settings => settings.site.port
  | .metricsPath, settings => settings.site.metricsPath

/-- How a setting is read where it is written. -/
def ofSetting : (key : Key) → Setting → Option key.Value
  | .endpoint | .password | .address | .metricsPath => Setting.text?
  | .verifyCertificate => Setting.truth?
  | .bands => Setting.bands?
  | .port => Setting.port?

/-- The value that a setting has of its own. -/
def default (key : Key) : key.Value :=
  key.get {}

/-- The value of what may be there. -/
def read (key : Key) : Option Setting → Option key.Value
  | some setting => key.ofSetting setting
  | none => some key.default

theorem settingName?_variableName (key : Key) :
    (settingName? key.variableName).map Setting.placeOf = some key.place := by
  cases key <;> decide +kernel

theorem variableName_injective {one other : Key} (same : one.variableName = other.variableName) :
    one = other := by
  cases one <;> cases other <;> first | rfl | exact absurd same (by decide)

theorem place_ne {one other : Key} (ne : one ≠ other) :
    one.table ≠ other.table ∨ one.name ≠ other.name := by
  cases one <;> cases other <;>
    first | exact absurd rfl ne | exact .inl (by decide) | exact .inr (by decide)

end Key

/-! ## The tree -/

/-- The setting at the place of a key. -/
def Key.at? (key : Key) (tree : Setting) : Option Setting :=
  (tree.entries.lookup key.table).bind (·.entries.lookup key.name)

/-- The tables of a tree that hold settings are tables, if they are there. -/
def Tabled (tree : Setting) : Prop :=
  ∀ key : Key, ∀ part, tree.entries.lookup key.table = some part → ∃ entries, part = .table entries

theorem entries_writtenAt (key : Key) (setting tree : Setting) :
    (Setting.writtenAt setting key.place (some tree)).entries =
      Setting.changeEntry key.table (Setting.writtenAt setting [.key key.name]) tree.entries :=
  rfl

theorem Key.at?_writtenAt_self (key : Key) (text : String) (tree : Setting) :
    key.at? (Setting.writtenAt (.text text) key.place (some tree)) = some (.text text) := by
  rw [Key.at?, entries_writtenAt, Setting.lookup_changeEntry_self]
  exact Setting.lookup_changeEntry_self key.name _ _

/-- What is written for one key leaves the others. -/
theorem Key.at?_writtenAt_of_ne {key other : Key} (ne : other ≠ key) (setting tree : Setting) :
    other.at? (Setting.writtenAt setting key.place (some tree)) = other.at? tree := by
  rw [Key.at?, Key.at?, entries_writtenAt]
  by_cases table : other.table = key.table
  · have name : other.name ≠ key.name := (Key.place_ne ne).resolve_left (· table)
    rw [table, Setting.lookup_changeEntry_self]
    cases tree.entries.lookup key.table with
    | none => exact Setting.lookup_changeEntry_of_ne name _ _
    | some part => exact Setting.lookup_changeEntry_of_ne name _ _
  · rw [Setting.lookup_changeEntry_of_ne table]

theorem tabled_writtenAt {tree : Setting} (tabled : Tabled tree) (key : Key) (setting : Setting) :
    Tabled (Setting.writtenAt setting key.place (some tree)) := by
  intro other part found
  rw [entries_writtenAt] at found
  by_cases table : other.table = key.table
  · rw [table, Setting.lookup_changeEntry_self] at found
    cases found
    exact ⟨_, rfl⟩
  · rw [Setting.lookup_changeEntry_of_ne table] at found
    exact tabled other part found

/-! ## The layers -/

/-- Of the variables of an environment only those of keys set settings. -/
def NamesKeys (environment : Environment) : Prop :=
  ∀ entry ∈ environment, settingName? entry.1 ≠ none → ∃ key : Key, entry.1 = key.variableName

theorem exists_settingName (key : Key) :
    ∃ name, settingName? key.variableName = some name ∧ Setting.placeOf name = key.place :=
  Option.map_eq_some_iff.mp (Key.settingName?_variableName key)

/-- The environment is written over what is there, key by key. -/
theorem at?_written_environmentLayer {environment : Environment}
    (distinct : (environment.map Prod.fst).Nodup) (named : NamesKeys environment)
    {tree : Setting} (tabled : Tabled tree) :
    Tabled (written (environmentLayer environment) tree) ∧
      ∀ key : Key, key.at? (written (environmentLayer environment) tree) =
        ((environment.value? key.variableName).map .text).or (key.at? tree) := by
  induction environment generalizing tree with
  | nil => exact ⟨tabled, fun key => rfl⟩
  | cons entry environment ih =>
      obtain ⟨variableName, text⟩ := entry
      rw [List.map_cons, List.nodup_cons] at distinct
      rw [NamesKeys, List.forall_mem_cons] at named
      cases setting : settingName? variableName with
      | none =>
          rw [environmentLayer_cons_of_none setting]
          obtain ⟨kept, each⟩ := ih distinct.2 named.2 tabled
          refine ⟨kept, fun key => ?_⟩
          have other : key.variableName ≠ variableName := by
            rintro rfl
            obtain ⟨name, isName, _⟩ := exists_settingName key
            rw [isName] at setting
            cases setting
          rw [each, Environment.value?_cons_of_ne other]
      | some name =>
          obtain ⟨key, rfl⟩ := named.1 (by simp [setting])
          obtain ⟨_, isName, place⟩ := exists_settingName key
          cases setting.symm.trans isName
          rw [environmentLayer_cons_of_some setting, Setting.written_cons, place]
          obtain ⟨kept, each⟩ := ih distinct.2 named.2 (tabled_writtenAt tabled key (.text text))
          refine ⟨kept, fun other => ?_⟩
          rw [each]
          by_cases same : other = key
          · subst same
            have absent : Environment.value? environment other.variableName = none :=
              Setting.lookup_eq_none_of_notMem distinct.1
            rw [absent, Key.at?_writtenAt_self, Environment.value?_cons_self]
            rfl
          · have differs : other.variableName ≠ key.variableName :=
              fun alike => same (Key.variableName_injective alike)
            rw [Key.at?_writtenAt_of_ne same, Environment.value?_cons_of_ne differs]

/-- One of the tables that settings are in. -/
def isKeyTable : String × Toml.Value → Bool
  | (name, .table _) => name = "bbox" || name = "server"
  | _ => false

theorem exists_of_isKeyTable {name : String} {value : Toml.Value}
    (isTable : isKeyTable (name, value) = true) :
    (∃ key : Key, name = key.table) ∧ ∃ inner, value = .table inner := by
  cases value with
  | table inner =>
      refine ⟨?_, inner, rfl⟩
      rcases Bool.or_eq_true_iff.mp isTable with bbox | server
      · exact ⟨.endpoint, of_decide_eq_true bbox⟩
      · exact ⟨.address, of_decide_eq_true server⟩
  | _ => cases isTable

/-- A document holds tables that settings are in. -/
def NamesTables (entries : List (String × Toml.Value)) : Prop :=
  ∀ entry ∈ entries, isKeyTable entry = true

/-- What a document says of a key. -/
def documented? (entries : List (String × Toml.Value)) (key : Key) : Option Toml.Value :=
  match entries.lookup key.table with
  | some (.table inner) => inner.lookup key.name
  | _ => none

theorem lookup_ofEntries (entries : List (String × Toml.Value)) (key : String) :
    (Setting.ofEntries entries).lookup key = (entries.lookup key).map .ofValue := by
  induction entries with
  | nil => rfl
  | cons entry entries ih =>
      obtain ⟨first, value⟩ := entry
      rw [Setting.ofEntries, List.lookup_cons, List.lookup_cons]
      cases key == first with
      | true => rfl
      | false => exact ih

theorem keys_ofEntries (entries : List (String × Toml.Value)) :
    (Setting.ofEntries entries).map Prod.fst = entries.map Prod.fst := by
  induction entries with
  | nil => rfl
  | cons entry entries ih =>
      obtain ⟨key, value⟩ := entry
      rw [Setting.ofEntries, List.map_cons, List.map_cons, ih]

/-- Every entry of a table is written as it stands. -/
theorem lookup_entriesOver_ofEntries {entries : List (String × Toml.Value)}
    (distinct : (entries.map Prod.fst).Nodup) (key : String) :
    (Setting.entriesOver [] (Setting.ofEntries entries)).lookup key =
      (entries.lookup key).map fun value => Setting.writtenOver none (.ofValue value) := by
  rw [Setting.lookup_entriesOver (by rwa [keys_ofEntries]), lookup_ofEntries]
  cases entries.lookup key <;> rfl

/-- A document is written as it stands. -/
theorem at?_written_document {entries : List (String × Toml.Value)}
    (distinct : (Toml.Value.table entries).Distinct) (named : NamesTables entries) :
    Tabled (written (Setting.ofEntries entries) (.table [])) ∧
      ∀ key : Key, key.at? (written (Setting.ofEntries entries) (.table [])) =
        (documented? entries key).map fun value => Setting.writtenOver none (.ofValue value) := by
  cases distinct with
  | table keys each =>
      have plain : ∀ entry ∈ Setting.ofEntries entries,
          Setting.placeOf entry.1 = [.key entry.1] := by
        intro entry member
        have listed : entry.1 ∈ entries.map Prod.fst := by
          rw [← keys_ofEntries]
          exact List.mem_map_of_mem member
        obtain ⟨original, member, same⟩ := List.mem_map.mp listed
        obtain ⟨⟨key, isTable⟩, _⟩ := exists_of_isKeyTable (named original member)
        rw [← same, isTable]
        cases key <;> decide +kernel
      have table (key : Key) (value : Toml.Value) (found : entries.lookup key.table = some value) :
          ∃ inner, value = .table inner ∧ (inner.map Prod.fst).Nodup := by
        have member := Setting.mem_of_lookup_eq_some found
        obtain ⟨_, inner, rfl⟩ := exists_of_isKeyTable (named _ member)
        cases each _ member with
        | table innerKeys _ => exact ⟨inner, rfl, innerKeys⟩
      rw [Setting.written_table plain]
      refine ⟨?_, ?_⟩
      · intro key part found
        have found : (Setting.entriesOver [] (Setting.ofEntries entries)).lookup key.table =
            some part := found
        rw [lookup_entriesOver_ofEntries keys] at found
        obtain ⟨value, isValue, rfl⟩ := Option.map_eq_some_iff.mp found
        obtain ⟨inner, rfl, _⟩ := table key value isValue
        exact ⟨_, rfl⟩
      · intro key
        rw [Key.at?, Setting.entries, lookup_entriesOver_ofEntries keys, documented?]
        cases found : entries.lookup key.table with
        | none => rfl
        | some value =>
            obtain ⟨inner, rfl, innerKeys⟩ := table key value found
            exact lookup_entriesOver_ofEntries innerKeys key.name

/-! ## Reading the tree -/

/-- What is read of a tree is read key by key. -/
theorem Key.read_at? {entries : List (String × Setting)} (tabled : Tabled (.table entries))
    {settings : Settings} (read : ofSetting? (.table entries) = some settings) (key : Key) :
    key.read (key.at? (.table entries)) = some (key.get settings) := by
  obtain ⟨router, site⟩ := settings
  obtain ⟨routerRead, siteRead⟩ := Settings.ofSetting?_eq_some_iff.mp read
  rw [Setting.readPart, Setting.part?] at routerRead siteRead
  rw [Key.at?, Setting.entries]
  cases key with
  | endpoint | password | verifyCertificate | bands =>
      rw [Key.table]
      cases found : entries.lookup "bbox" with
      | none =>
          rw [found] at routerRead
          cases Option.some.inj routerRead
          rfl
      | some part =>
          obtain ⟨inner, rfl⟩ := tabled .endpoint part found
          rw [found] at routerRead
          obtain ⟨_, endpoint, password, verifyCertificate, bands⟩ :=
            RouterSettings.ofSetting?_eq_some_iff.mp routerRead
          first | exact endpoint | exact password | exact verifyCertificate | exact bands
  | address | port | metricsPath =>
      rw [Key.table]
      cases found : entries.lookup "server" with
      | none =>
          rw [found] at siteRead
          cases Option.some.inj siteRead
          rfl
      | some part =>
          obtain ⟨inner, rfl⟩ := tabled .address part found
          rw [found] at siteRead
          obtain ⟨_, address, port, metricsPath⟩ := SiteSettings.ofSetting?_eq_some_iff.mp siteRead
          first | exact address | exact port | exact metricsPath

/-- A setting is read alike before and after it is written to an empty place. -/
theorem Key.read_written (key : Key) (setting : Setting) :
    key.ofSetting (Setting.writtenOver none setting) = key.ofSetting setting := by
  cases key <;> cases setting <;> rfl

theorem tabled_empty : Tabled (.table []) := by
  intro key part found
  cases found

/-- What a document says of a key, if there is one. -/
def documentValue? (document : Option String) (key : Key) : Option Toml.Value :=
  (document.bind Toml.parse?).bind (documented? · key)

/-- The layer of a document is written as the document stands. -/
theorem at?_written_documentLayer {document : Option String} {layer : List (String × Setting)}
    (tables : ∀ text entries, document = some text → Toml.parse? text = some entries →
      NamesTables entries)
    (layered : documentLayer document = .ok layer) :
    Tabled (written layer (.table [])) ∧ ∀ key : Key, key.at? (written layer (.table [])) =
      (documentValue? document key).map fun value => Setting.writtenOver none (.ofValue value) := by
  cases document with
  | none =>
      cases layered
      exact ⟨tabled_empty, fun key => rfl⟩
  | some text =>
      rw [documentLayer] at layered
      cases parsed : Toml.parse? text with
      | none =>
          rw [parsed] at layered
          cases layered
      | some entries =>
          rw [parsed] at layered
          cases layered
          have same : documentValue? (some text) = documented? entries := by
            funext key
            rw [documentValue?, Option.bind_some, parsed, Option.bind_some]
          rw [same]
          exact at?_written_document (Toml.distinct_of_parse? parsed)
            (tables text entries rfl parsed)

/-- Settings are loaded key by key: from the environment, or else from the document. -/
theorem Key.read_of_load {environment : Environment} {document : Option String}
    {settings : Settings} (distinct : (environment.map Prod.fst).Nodup)
    (named : NamesKeys environment)
    (tables : ∀ text entries, document = some text → Toml.parse? text = some entries →
      NamesTables entries)
    (loads : load environment document = .ok settings) (key : Key) :
    key.read (((environment.value? key.variableName).map .text).or
      ((documentValue? document key).map fun value =>
        Setting.writtenOver none (.ofValue value))) = some (key.get settings) := by
  obtain ⟨layer, layered, reads⟩ := load_eq_ok_iff.mp loads
  obtain ⟨documentTabled, documentEach⟩ := at?_written_documentLayer tables layered
  obtain ⟨tabled, each⟩ := at?_written_environmentLayer distinct named documentTabled
  have whole : ∃ entries, written (environmentLayer environment) (written layer (.table [])) =
      .table entries := by
    obtain ⟨entries, isTable⟩ := Setting.exists_written_eq_table layer []
    rw [isTable]
    exact Setting.exists_written_eq_table _ entries
  obtain ⟨entries, isTable⟩ := whole
  rw [← documentEach key, ← each key, isTable]
  rw [isTable] at tabled reads
  exact Key.read_at? tabled reads key

end Settings

end RouterTelemetry
