import RouterTelemetry.Proofs.NumberedVariables
import RouterTelemetry.Proofs.SettingKeys

/-!
# Forms of settings

A table of settings is written by keys, or as a list by positions.  Texts that are written to
places apart from each other stand there afterwards, whatever their order, and settings are read
of them in either form.
-/

namespace RouterTelemetry

namespace Setting

/-! ## Many texts -/

/-- Writes texts to places, one after the other. -/
def writtenTexts (writes : List (Place × String)) (tree : Setting) : Setting :=
  writes.foldl (fun tree write => writtenAt (.text write.2) write.1 (some tree)) tree

theorem writtenTexts_cons (write : Place × String) (writes : List (Place × String))
    (tree : Setting) :
    writtenTexts (write :: writes) tree =
      writtenTexts writes (writtenAt (.text write.2) write.1 (some tree)) :=
  rfl

theorem Apart.ne {place other : Place} (apart : Apart place other) : place ≠ other := by
  induction apart with
  | keys ne => exact fun same => ne (Step.key.inj (List.cons.inj same).1)
  | positions ne =>
      exact fun same => ne (Int.ofNat.inj (Step.position.inj (List.cons.inj same).1))
  | key key _ ih => exact fun same => ih (List.cons.inj same).2
  | position index _ ih => exact fun same => ih (List.cons.inj same).2

section

variable {writes : List (Place × String)} {place : Place}

/-- What stands apart from all places is left. -/
theorem inside_writtenTexts_of_apart (apart : ∀ write ∈ writes, Apart write.1 place)
    (tree : Setting) : inside place (writtenTexts writes tree) = inside place tree := by
  induction writes generalizing tree with
  | nil => rfl
  | cons write writes ih =>
      rw [List.forall_mem_cons] at apart
      rw [writtenTexts_cons, ih apart.2, inside_writtenAt_of_apart apart.1]

/-- Texts that are written apart from each other stand where they are written. -/
theorem inside_writtenTexts_of_mem
    (apart : writes.Pairwise fun write other => Apart write.1 other.1) {text : String}
    (member : (place, text) ∈ writes) (forward : Forward place) (tree : Setting) :
    inside place (writtenTexts writes tree) = .text text := by
  induction writes generalizing tree with
  | nil => cases member
  | cons write writes ih =>
      rw [List.pairwise_cons] at apart
      rw [writtenTexts_cons]
      rcases List.mem_cons.mp member with rfl | later
      · have others : ∀ other ∈ writes, Apart other.1 place :=
          fun other member => (apart.1 other member).symm
        rw [inside_writtenTexts_of_apart others, inside_writtenAt_self forward]
      · exact ih apart.2 later _

/-- A list grows as far as items are written to it. -/
theorem length_items_writtenTexts {size : Nat} (forward : Forward place)
    (each : ∀ write ∈ writes, Apart write.1 place ∨
      ∃ index < size, write.1 = place ++ [.position (index : Nat)])
    {tree : Setting} (bounded : (inside place tree).items.length ≤ size) :
    (inside place (writtenTexts writes tree)).items.length ≤ size := by
  induction writes generalizing tree with
  | nil => exact bounded
  | cons write writes ih =>
      rw [List.forall_mem_cons] at each
      rw [writtenTexts_cons]
      refine ih each.2 ?_
      rcases each.1 with apart | ⟨index, small, isItem⟩
      · rw [inside_writtenAt_of_apart apart]
        exact bounded
      · rw [isItem, inside_writtenAt_append forward, writtenAt, items, length_changeItem]
        exact max_le bounded small

end

/-- A list whose items are all texts. -/
theorem eq_list_of_items {setting : Setting} {texts : List String} (nonempty : texts ≠ [])
    (size : setting.items.length ≤ texts.length)
    (each : ∀ index text, texts[index]? = some text →
      inside [.position (index : Nat)] setting = .text text) :
    setting = .list (texts.map .text) := by
  have found (index : Nat) (text : String) (isText : texts[index]? = some text) :
      setting.items[index]? = some (.text text) := by
    have stands := each index text isText
    rw [inside_position, inside] at stands
    cases item : setting.items[index]? with
    | none =>
        rw [item] at stands
        cases stands
    | some other =>
        rw [item] at stands
        exact congrArg some stands
  have whole : setting.items = texts.map .text := by
    refine List.ext_getElem? fun index => ?_
    rw [List.getElem?_map]
    cases text : texts[index]? with
    | none =>
        have past := List.getElem?_eq_none_iff.mp text
        rw [List.getElem?_eq_none (by omega)]
        rfl
    | some text => exact found index _ text
  cases setting with
  | list items => exact congrArg Setting.list whole
  | _ => exact absurd (List.map_eq_nil_iff.mp whole.symm) nonempty

end Setting

namespace Settings

open Setting

/-! ## Two forms of a table -/

section

variable {α : Type} {name : String} {position : Nat} {setting found : Setting}

theorem readPart_of_key (stands : inside [.key name] setting = found) (isSet : found ≠ .unset)
    (read : Setting → Option α) (default : α) :
    setting.isSection = true ∧ setting.readPart name position read default = read found := by
  rw [inside_key, inside] at stands
  cases setting with
  | table entries =>
      rw [readPart, part?]
      rw [Setting.entries] at stands
      cases entry : List.lookup name entries with
      | none =>
          rw [entry] at stands
          exact absurd stands.symm isSet
      | some part =>
          rw [entry] at stands
          cases stands
          exact ⟨rfl, rfl⟩
  | _ => exact absurd stands.symm isSet

theorem readPart_of_position (stands : inside [.position position] setting = found)
    (isSet : found ≠ .unset) (read : Setting → Option α) (default : α) :
    setting.isSection = true ∧ setting.readPart name position read default = read found := by
  rw [inside_position, inside] at stands
  cases setting with
  | list items =>
      rw [readPart, part?]
      rw [Setting.items] at stands
      cases item : items[position]? with
      | none =>
          rw [item] at stands
          exact absurd stands.symm isSet
      | some part =>
          rw [item] at stands
          cases stands
          exact ⟨rfl, rfl⟩
  | _ => exact absurd stands.symm isSet

variable {read : Setting → Option α} {default value : α}

/-- Of a table a part is read by its key, or the default counts. -/
theorem unset_or_read_of_table {entries : List (String × Setting)}
    (reads : (Setting.table entries).readPart name position read default = some value) :
    (inside [.key name] (.table entries) = .unset ∧ value = default) ∨
      read (inside [.key name] (.table entries)) = some value := by
  rw [readPart, part?] at reads
  rw [inside_key, inside, Setting.entries]
  cases entry : List.lookup name entries with
  | none =>
      rw [entry] at reads
      exact .inl ⟨rfl, (Option.some.inj reads).symm⟩
  | some part =>
      rw [entry] at reads
      exact .inr reads

/-- Of a list a part is read at its position, or the default counts. -/
theorem unset_or_read_of_list {items : List Setting}
    (reads : (Setting.list items).readPart name position read default = some value) :
    (inside [.position position] (.list items) = .unset ∧ value = default) ∨
      read (inside [.position position] (.list items)) = some value := by
  rw [readPart, part?] at reads
  rw [inside_position, inside, Setting.items]
  cases item : items[position]? with
  | none =>
      rw [item] at reads
      exact .inl ⟨rfl, (Option.some.inj reads).symm⟩
  | some part =>
      rw [item] at reads
      exact .inr reads

end

/-- The position of a setting where its table is written as a list. -/
def Key.position : Key → Nat
  | .endpoint | .address => 0
  | .password | .port => 1
  | .verifyCertificate | .metricsPath => 2
  | .bands => 3

/-- How a table of settings is written: by keys, or as a list by positions. -/
inductive Form where
  | keys
  | positions
deriving Repr, DecidableEq

namespace Form

/-- The step from a table to a setting. -/
def step : Form → Key → Step
  | .keys, key => .key key.name
  | .positions, key => .position key.position

/-- The place of a setting. -/
def place (form : Form) (key : Key) : Place :=
  [.key key.table, form.step key]

/-- The variable of a setting. -/
def variableName : Form → Key → String
  | .keys, key => key.variableName
  | .positions, key => "BBOX_EXPORTER__" ++ key.table.toUpper ++ bracketed key.position

theorem settingName?_variableName (form : Form) (key : Key) :
    (settingName? (form.variableName key)).map placeOf = some (form.place key) := by
  cases form <;> cases key <;> decide +kernel

theorem apart_place (form : Form) {key other : Key} (ne : key ≠ other) (rest rest' : Place) :
    Apart (form.place key ++ rest) (form.place other ++ rest') := by
  by_cases table : key.table = other.table
  · rw [place, place, table]
    cases form with
    | keys => exact .key _ (.keys ((Key.place_ne ne).resolve_left (· table)) _ _)
    | positions =>
        refine .key _ (.positions ?_ _ _)
        revert table
        cases key <;> cases other <;> first | exact absurd rfl ne | decide
  · exact .keys table _ _

/-- The items of a list are apart. -/
theorem apart_items (form : Form) {key : Key} {index other : Nat} (ne : index ≠ other) :
    Apart (form.place key ++ [.position index]) (form.place key ++ [.position other]) := by
  cases form with
  | keys => exact .key _ (.key _ (.positions ne [] []))
  | positions => exact .key _ (.position _ (.positions ne [] []))

theorem forward_place (form : Form) (key : Key) : Forward (form.place key) := by
  intro index member
  cases form with
  | keys => simp [place, step] at member
  | positions =>
      have isPosition : index = (key.position : Nat) := by simpa [place, step] using member
      omega

theorem forward_item (form : Form) (key : Key) (item : Nat) :
    Forward (form.place key ++ [.position item]) := by
  intro index member
  rcases List.mem_append.mp member with before | last
  · exact form.forward_place key index before
  · have isItem : index = (item : Int) := by simpa using last
    omega

/-- A table is read in the form in which it is written. -/
theorem readPart_eq {α : Type} (form : Form) (key : Key) {part found : Setting}
    (stands : inside [form.step key] part = found) (isSet : found ≠ .unset)
    (read : Setting → Option α) (default : α) :
    part.isSection = true ∧ part.readPart key.name key.position read default = read found := by
  cases form with
  | keys => exact readPart_of_key stands isSet read default
  | positions => exact readPart_of_position stands isSet read default

end Form

/-! ## Settings as texts -/

/-- The settings that are a text each. -/
def textKeys : List Key :=
  [.endpoint, .password, .verifyCertificate, .address, .port, .metricsPath]

/-- The text of a setting; a list of bands has none. -/
def textOf (settings : Settings) : Key → String
  | .endpoint => settings.router.endpoint
  | .password => settings.router.password
  | .verifyCertificate => if settings.router.verifyCertificate then "true" else "false"
  | .bands => ""
  | .address => settings.site.address
  | .port => toString settings.site.port.toNat
  | .metricsPath => settings.site.metricsPath

theorem ne_bands_of_mem : ∀ key ∈ textKeys, key ≠ .bands := by
  decide

theorem truth?_text :
    ∀ value : Bool, truth? (.text (if value then "true" else "false")) = some value := by
  decide +kernel

theorem ofSetting_textOf (settings : Settings) :
    ∀ key ∈ textKeys, key.ofSetting (.text (textOf settings key)) = some (key.get settings) := by
  intro key member
  cases key with
  | endpoint | password | address | metricsPath => rfl
  | verifyCertificate => exact truth?_text settings.router.verifyCertificate
  | port => exact port?_toString settings.site.port
  | bands => exact absurd member (by decide)

/-- What has to stand in a table of settings for them to be read. -/
structure StandsIn (form : Form) (settings : Settings) (tree : Setting) : Prop where
  texts : ∀ key ∈ textKeys, inside (form.place key) tree = .text (textOf settings key)
  bands : bands? (inside (form.place .bands) tree) = some settings.router.bands

theorem StandsIn.ofSetting?_eq {form : Form} {settings : Settings} {tree : Setting}
    (stands : StandsIn form settings tree) : Settings.ofSetting? tree = some settings := by
  have bandsSet : inside (form.place .bands) tree ≠ .unset := by
    intro isUnset
    have read := stands.bands
    rw [isUnset] at read
    cases read
  have field (key : Key) (member : key ∈ textKeys) :
      (inside [.key key.table] tree).isSection = true ∧
        (inside [.key key.table] tree).readPart key.name key.position key.ofSetting key.default =
          some (key.get settings) := by
    have read := form.readPart_eq key (stands.texts key member) Setting.noConfusion
      key.ofSetting key.default
    rwa [ofSetting_textOf settings key member] at read
  have bandsRead := (form.readPart_eq .bands rfl bandsSet bands? (Key.default .bands)).2
  have tableSet (key : Key) (member : key ∈ textKeys) : inside [.key key.table] tree ≠ .unset := by
    intro isUnset
    have isSection := (field key member).1
    rw [isUnset] at isSection
    cases isSection
  have router : RouterSettings.ofSetting? (inside [.key "bbox"] tree) = some settings.router :=
    RouterSettings.ofSetting?_eq_some_iff.mpr ⟨(field .endpoint (by decide)).1,
      (field .endpoint (by decide)).2, (field .password (by decide)).2,
      (field .verifyCertificate (by decide)).2, bandsRead.trans stands.bands⟩
  have site : SiteSettings.ofSetting? (inside [.key "server"] tree) = some settings.site :=
    SiteSettings.ofSetting?_eq_some_iff.mpr ⟨(field .address (by decide)).1,
      (field .address (by decide)).2, (field .port (by decide)).2,
      (field .metricsPath (by decide)).2⟩
  exact Settings.ofSetting?_eq_some_iff.mpr
    ⟨(readPart_of_key rfl (tableSet .endpoint (by decide)) _ _).2.trans router,
      (readPart_of_key rfl (tableSet .address (by decide)) _ _).2.trans site⟩

end Settings

end RouterTelemetry
