import RouterTelemetry.Proofs.SettingForms

/-!
# Settings that the environment overrides

Whatever a document says, variables give all settings, in any order of the variables, with one
exception: a list of bands is never made empty.
-/

namespace RouterTelemetry

namespace Settings

open Setting

/-! ## Variables -/

/-- The texts that an environment writes, with their places. -/
def writesOf (environment : Environment) : List (Place × String) :=
  environment.filterMap fun entry =>
    (settingName? entry.1).map fun name => (placeOf name, entry.2)

theorem written_environmentLayer (environment : Environment) (tree : Setting) :
    written (environmentLayer environment) tree = writtenTexts (writesOf environment) tree := by
  induction environment generalizing tree with
  | nil => rfl
  | cons entry environment ih =>
      obtain ⟨name, text⟩ := entry
      cases setting : settingName? name with
      | none =>
          rw [environmentLayer_cons_of_none setting, ih]
          simp [writesOf, setting]
      | some key =>
          rw [environmentLayer_cons_of_some setting, written_cons, ih]
          simp [writesOf, setting, writtenTexts_cons]

/-- The variables that give all settings. -/
def variablesOf (form : Form) (settings : Settings) : Environment :=
  textKeys.map (fun key => (form.variableName key, textOf settings key)) ++
    settings.router.bands.mapIdx fun index band =>
      (form.variableName .bands ++ bracketed index, band.code)

/-- What these variables write. -/
def writes (form : Form) (settings : Settings) : List (Place × String) :=
  textKeys.map (fun key => (form.place key, textOf settings key)) ++
    settings.router.bands.mapIdx fun index band =>
      (form.place .bands ++ [.position (index : Nat)], band.code)

/-- The variable of a band sets an item of the list. -/
theorem place_item (form : Form) {index : Nat} (inRange : index < 0x8000000000000000) :
    (settingName? (form.variableName .bands ++ bracketed index)).map placeOf =
      some (form.place .bands ++ [.position (index : Nat)]) := by
  cases form with
  | keys =>
      have list : settingName? (Form.keys.variableName .bands) = some "bbox.wireless_bands" := by
        decide +kernel
      rw [settingName?_append list (map_toLower_bracketed index)
        (notMem_bracketed (by decide) index)]
      exact congrArg some (placeOf_item inRange).1
  | positions =>
      have list : settingName? (Form.positions.variableName .bands) = some "bbox[3]" := by
        decide +kernel
      rw [settingName?_append list (map_toLower_bracketed index)
        (notMem_bracketed (by decide) index)]
      exact congrArg some (placeOf_item inRange).2

theorem filterMap_mapIdx {α β γ : Type} {f : Nat → α → β} {g : Nat → α → γ} {decode : β → Option γ}
    {items : List α} (each : ∀ index < items.length, ∀ item,
      decode (f index item) = some (g index item)) :
    (items.mapIdx f).filterMap decode = items.mapIdx g := by
  induction items generalizing f g with
  | nil => rfl
  | cons item items ih =>
      rw [List.mapIdx_cons, List.mapIdx_cons, List.filterMap_cons, each 0 (by simp) item]
      exact congrArg (_ :: ·) (ih fun index small => each (index + 1) (by simpa using small))

theorem writesOf_variablesOf (form : Form) {settings : Settings}
    (size : settings.router.bands.length ≤ 0x8000000000000000) :
    writesOf (variablesOf form settings) = writes form settings := by
  rw [writesOf, variablesOf, writes, List.filterMap_append]
  congr 1
  · rw [List.filterMap_map, List.filterMap_eq_map_iff_forall_eq_some]
    intro key _
    obtain ⟨name, isName, isPlace⟩ :=
      Option.map_eq_some_iff.mp (form.settingName?_variableName key)
    simp [isName, isPlace]
  · refine filterMap_mapIdx fun index small band => ?_
    obtain ⟨name, isName, isPlace⟩ :=
      Option.map_eq_some_iff.mp (place_item form (by omega : index < 0x8000000000000000))
    simp [isName, isPlace]

/-- All that is written is written apart. -/
theorem pairwise_writes (form : Form) (settings : Settings) :
    (writes form settings).Pairwise fun write other => Apart write.1 other.1 := by
  have distinct : textKeys.Nodup := by decide
  refine List.pairwise_append.mpr ⟨?_, ?_, ?_⟩
  · refine List.pairwise_map.mpr (distinct.imp fun ne => ?_)
    simpa using form.apart_place ne [] []
  · refine List.pairwise_iff_getElem.mpr fun index other _ _ less => ?_
    rw [List.getElem_mapIdx, List.getElem_mapIdx]
    exact form.apart_items (Nat.ne_of_lt less)
  · intro write member other later
    obtain ⟨key, isKey, rfl⟩ := List.mem_map.mp member
    obtain ⟨index, _, rfl⟩ := List.mem_mapIdx.mp later
    simpa using form.apart_place (ne_bands_of_mem key isKey) [] [.position (index : Nat)]

/-- What is written stands apart from the list of bands, or is one of its items. -/
theorem apart_or_item {form : Form} {settings : Settings} {write : Place × String}
    (member : write ∈ writes form settings) :
    Apart write.1 (form.place .bands) ∨ ∃ index < settings.router.bands.length,
      write.1 = form.place .bands ++ [.position (index : Nat)] := by
  rcases List.mem_append.mp member with plain | item
  · obtain ⟨key, isKey, rfl⟩ := List.mem_map.mp plain
    exact .inl (by simpa using form.apart_place (ne_bands_of_mem key isKey) [] [])
  · obtain ⟨index, small, rfl⟩ := List.mem_mapIdx.mp item
    exact .inr ⟨index, small, rfl⟩

/-! ## Giving all settings -/

theorem bands?_codes (bands : List Band) :
    bands? (.list ((bands.map Band.code).map .text)) = some bands := by
  rw [bands?]
  induction bands with
  | nil => rfl
  | cons band bands ih =>
      have first : band? (.text band.code) = some band := Band.ofCode?_code band
      rw [List.map_cons, List.map_cons, List.mapM_cons, first, ih]
      rfl

/-- A tree is ready for a form if no item is where the list of bands comes to stand. -/
structure Ready (form : Form) (settings : Settings) (tree : Setting) : Prop where
  noItems : (inside (form.place .bands) tree).items = []
  emptied : settings.router.bands = [] → inside (form.place .bands) tree = .list []

section

variable {form : Form} {settings : Settings} {given : List (Place × String)}
  (same : given.Perm (writes form settings)) {tree : Setting}

include same

theorem pairwise_of_perm : given.Pairwise fun write other => Apart write.1 other.1 :=
  (same.pairwise_iff fun apart => apart.symm).mpr (pairwise_writes form settings)

theorem text_stands {key : Key} (member : key ∈ textKeys) :
    inside (form.place key) (writtenTexts given tree) = .text (textOf settings key) := by
  have listed : (form.place key, textOf settings key) ∈ writes form settings :=
    List.mem_append_left _ (List.mem_map_of_mem member)
  exact inside_writtenTexts_of_mem (pairwise_of_perm same) (same.mem_iff.mpr listed)
    (form.forward_place key) tree

theorem item_stands {index : Nat} (small : index < settings.router.bands.length) :
    inside [.position (index : Nat)] (inside (form.place .bands) (writtenTexts given tree)) =
      .text settings.router.bands[index].code := by
  have listed : (form.place .bands ++ [.position (index : Nat)],
      settings.router.bands[index].code) ∈ writes form settings :=
    List.mem_append_right _ (List.mem_mapIdx.mpr ⟨index, small, rfl⟩)
  rw [← inside_append]
  exact inside_writtenTexts_of_mem (pairwise_of_perm same) (same.mem_iff.mpr listed)
    (form.forward_item .bands index) tree

/-- An empty list of bands is left. -/
theorem bands_kept (empty : settings.router.bands = []) :
    inside (form.place .bands) (writtenTexts given tree) = inside (form.place .bands) tree := by
  refine inside_writtenTexts_of_apart (fun write member => ?_) tree
  refine (apart_or_item (same.mem_iff.mp member)).resolve_right ?_
  rintro ⟨index, small, _⟩
  rw [empty] at small
  cases small

/-- The codes of the bands are the whole list. -/
theorem bands_listed (nonempty : settings.router.bands ≠ [])
    (noItems : (inside (form.place .bands) tree).items = []) :
    inside (form.place .bands) (writtenTexts given tree) =
      .list ((settings.router.bands.map Band.code).map .text) := by
  refine eq_list_of_items (by simpa using nonempty) ?_ fun index text isText => ?_
  · rw [List.length_map]
    refine length_items_writtenTexts (form.forward_place .bands)
      (fun write member => apart_or_item (same.mem_iff.mp member)) ?_
    rw [noItems]
    exact Nat.zero_le _
  · rw [List.getElem?_map] at isText
    obtain ⟨band, isBand, rfl⟩ := Option.map_eq_some_iff.mp isText
    obtain ⟨small, rfl⟩ := List.getElem?_eq_some_iff.mp isBand
    exact item_stands same small

end

/-- The variables give the settings, in any order. -/
theorem standsIn_of_perm {form : Form} {settings : Settings}
    (size : settings.router.bands.length ≤ 0x8000000000000000) {tree : Setting}
    (ready : Ready form settings tree) {environment : Environment}
    (perm : environment.Perm (variablesOf form settings)) :
    StandsIn form settings (written (environmentLayer environment) tree) := by
  have same : (writesOf environment).Perm (writes form settings) := by
    rw [← writesOf_variablesOf form size]
    exact perm.filterMap _
  rw [written_environmentLayer]
  refine ⟨fun key member => text_stands same member, ?_⟩
  by_cases empty : settings.router.bands = []
  · rw [bands_kept same empty, ready.emptied empty, empty]
    rfl
  · rw [bands_listed same empty ready.noItems, bands?_codes]

/-! ## The form to choose -/

theorem eq_of_bands?_eq_nil {setting : Setting} (read : bands? setting = some []) :
    setting = .list [] := by
  cases setting with
  | list items =>
      cases items with
      | nil => rfl
      | cons item items =>
          rw [bands?, List.mapM_cons] at read
          obtain ⟨band, _, read⟩ := Option.bind_eq_some_iff.mp read
          obtain ⟨bands, _, read⟩ := Option.bind_eq_some_iff.mp read
          cases read
  | _ => cases read

/-- What is read of the table of the router, in the form that it has. -/
structure BandsRead (form : Form) (settings : Settings) (router : Setting) : Prop where
  other : ∀ other, other ≠ form → inside [other.step .bands] router = .unset
  bands : (inside [form.step .bands] router = .unset ∧
      settings.router.bands = ({} : RouterSettings).bands) ∨
    bands? (inside [form.step .bands] router) = some settings.router.bands
  texts : ∀ position < 3, inside [.position (position : Nat)] router ≠ .list []

/-- What is read of an item is no empty list, if an empty list is not read. -/
theorem inside_ne_of_readPart {α : Type} {name : String} {position : Nat}
    {read : Setting → Option α} {default value : α} {items : List Setting}
    (reads : (Setting.list items).readPart name position read default = some value)
    (refused : read (.list []) = none) : inside [.position position] (.list items) ≠ .list [] := by
  intro empty
  rcases unset_or_read_of_list reads with ⟨unset, _⟩ | found
  · cases unset.symm.trans empty
  · rw [empty, refused] at found
    cases found

theorem exists_bandsRead {entries : List (String × Setting)} {settings : Settings}
    (reads : Settings.ofSetting? (.table entries) = some settings) :
    ∃ form, BandsRead form settings (inside [.key "bbox"] (.table entries)) := by
  rcases unset_or_read_of_table (Settings.ofSetting?_eq_some_iff.mp reads).1 with
    ⟨unset, isDefault⟩ | routerRead
  · rw [unset]
    refine ⟨.keys, fun other _ => inside_unset _, .inl ⟨inside_unset _, by rw [isDefault]⟩,
      fun position _ => ?_⟩
    rw [inside_unset]
    exact Setting.noConfusion
  · obtain ⟨isSection, endpoint, password, verifyCertificate, bands⟩ :=
      RouterSettings.ofSetting?_eq_some_iff.mp routerRead
    generalize inside [.key "bbox"] (.table entries) = router at *
    cases router with
    | table inner =>
        refine ⟨.keys, fun other ne => ?_, unset_or_read_of_table bands,
          fun position _ => Setting.noConfusion⟩
        cases other with
        | keys => exact absurd rfl ne
        | positions => rfl
    | list items =>
        refine ⟨.positions, fun other ne => ?_, unset_or_read_of_list bands,
          fun position near => ?_⟩
        · cases other with
          | keys => rfl
          | positions => exact absurd rfl ne
        · obtain rfl | rfl | rfl : position = 0 ∨ position = 1 ∨ position = 2 := by omega
          · exact inside_ne_of_readPart endpoint rfl
          · exact inside_ne_of_readPart password rfl
          · exact inside_ne_of_readPart verifyCertificate rfl
    | _ => cases isSection

/-- Settings that are read without bands have an empty list there. -/
theorem BandsRead.inside_eq_nil {form : Form} {settings : Settings} {router : Setting}
    (read : BandsRead form settings router) (noBand : settings.router.bands = []) :
    inside [form.step .bands] router = .list [] := by
  rcases read.bands with ⟨_, isDefault⟩ | bands
  · rw [noBand] at isDefault
    cases isDefault
  · rw [noBand] at bands
    exact eq_of_bands?_eq_nil bands

/-- Some form is ready, unless the list of bands would have to be emptied. -/
theorem exists_ready {entries : List (String × Setting)} {initial settings : Settings}
    (reads : Settings.ofSetting? (.table entries) = some initial)
    (notEmptied : settings.router.bands ≠ [] ∨ initial.router.bands = []) :
    ∃ form, Ready form settings (.table entries) := by
  obtain ⟨form, read⟩ := exists_bandsRead reads
  by_cases noBand : settings.router.bands = []
  · have empty := read.inside_eq_nil (notEmptied.resolve_left (· noBand))
    exact ⟨form, congrArg items empty, fun _ => empty⟩
  · obtain ⟨other, ne⟩ : ∃ other : Form, other ≠ form := by
      cases form with
      | keys => exact ⟨.positions, by decide⟩
      | positions => exact ⟨.keys, by decide⟩
    exact ⟨other, congrArg items (read.other other ne), fun none => absurd none noBand⟩

/-! ## What is never emptied -/

/-- No list of bands is empty, in either form, and no list before it that it may come from. -/
structure KeepsBands (router : Setting) : Prop where
  byKey : inside [.key "wireless_bands"] router ≠ .list []
  byPosition : ∀ position ≤ 3, inside [.position (position : Nat)] router ≠ .list []

/-- An item is changed at a position from the front, or made before all others. -/
theorem changeItem_eq (index : Int) (change : Option Setting → Setting) (items : List Setting) :
    (∃ position : Nat, changeItem index change items = changeItem position change items) ∨
      ∃ count, changeItem index change items =
        change (some .unset) :: (List.replicate count .unset ++ items) := by
  by_cases backward : index < 0
  · by_cases before : (items.length : Int) + index < 0
    · refine .inr ⟨((items.length : Int) + index).natAbs - 1, ?_⟩
      rw [changeItem, if_pos backward]
      exact if_pos before
    · obtain ⟨position, isPosition⟩ := Int.eq_ofNat_of_zero_le (Int.not_lt.mp before)
      have forward : ¬(position : Int) < 0 := by omega
      refine .inl ⟨position, ?_⟩
      rw [changeItem, changeItem, if_pos backward, if_neg forward, isPosition]
  · obtain ⟨position, rfl⟩ := Int.eq_ofNat_of_zero_le (Int.not_lt.mp backward)
    exact .inl ⟨position, rfl⟩

theorem changeItem_ne_nil (index : Int) (change : Option Setting → Setting)
    (items : List Setting) : changeItem index change items ≠ [] := by
  rcases changeItem_eq index change items with ⟨position, same⟩ | ⟨count, same⟩
  · rw [same, changeItem_natCast]
    simp
  · rw [same]
    simp

/-- No empty list is written. -/
theorem writtenAt_text_ne (text : String) (place : Place) (present : Option Setting) :
    writtenAt (.text text) place present ≠ .list [] := by
  cases place with
  | nil => exact Setting.noConfusion
  | cons step place =>
      cases step with
      | key key => exact Setting.noConfusion
      | position index => exact fun same => changeItem_ne_nil _ _ _ (Setting.list.inj same)

theorem KeepsBands.writtenAt {router : Setting} (kept : KeepsBands router) (text : String)
    (place : Place) : KeepsBands (writtenAt (.text text) place (some router)) := by
  cases place with
  | nil => exact ⟨Setting.noConfusion, fun position _ => Setting.noConfusion⟩
  | cons step place =>
      cases step with
      | key key =>
          refine ⟨?_, fun position _ => Setting.noConfusion⟩
          by_cases same : key = "wireless_bands"
          · subst same
            rw [Setting.writtenAt, inside_key, entries, lookup_changeEntry_self]
            exact writtenAt_text_ne text place _
          · rw [inside_writtenAt_of_apart (.keys same place [])]
            exact kept.byKey
      | position index =>
          refine ⟨Setting.noConfusion, fun position near => ?_⟩
          rw [Setting.writtenAt, inside_position, inside, items, Option.map_some, Option.getD_some]
          rcases changeItem_eq index (Setting.writtenAt (.text text) place) router.items with
            ⟨other, same⟩ | ⟨count, same⟩
          · rw [same]
            by_cases here : position = other
            · subst here
              rw [getElem?_changeItem_self]
              exact writtenAt_text_ne text place _
            · rw [getElem?_changeItem_of_ne here]
              exact kept.byPosition position near
          · rw [same]
            -- What stood before has moved back, so it stood nearer to the front.
            cases position with
            | zero => exact writtenAt_text_ne text place _
            | succ position =>
                rw [List.getElem?_cons_succ]
                by_cases filled : position < count
                · rw [List.getElem?_append_left (by simpa using filled)]
                  simp [filled]
                · rw [List.getElem?_append_right (by simpa using filled), List.length_replicate]
                  exact kept.byPosition (position - count) (by omega)

theorem keepsBands_writtenTexts {writes : List (Place × String)} (tree : Setting)
    (starts : ∀ write ∈ writes, ∃ key place, write.1 = .key key :: place)
    (kept : KeepsBands (inside [.key "bbox"] tree)) :
    KeepsBands (inside [.key "bbox"] (writtenTexts writes tree)) := by
  induction writes generalizing tree with
  | nil => exact kept
  | cons write writes ih =>
      rw [List.forall_mem_cons] at starts
      obtain ⟨key, place, start⟩ := starts.1
      rw [writtenTexts_cons]
      refine ih _ starts.2 ?_
      rw [start]
      by_cases same : key = "bbox"
      · subst same
        have forward : Forward [.key "bbox"] := by
          intro index member
          simp at member
        have goesOn := inside_writtenAt_append forward (.text write.2) place tree
        rw [List.singleton_append] at goesOn
        rw [goesOn]
        exact kept.writtenAt write.2 place
      · rw [inside_writtenAt_of_apart (.keys same place [])]
        exact kept

/-- Settings that are read with bands have no empty list where bands may come from. -/
theorem BandsRead.keepsBands {form : Form} {settings : Settings} {router : Setting}
    (read : BandsRead form settings router) (someBand : settings.router.bands ≠ []) :
    KeepsBands router := by
  have none (any : Form) : inside [any.step .bands] router ≠ .list [] := by
    intro empty
    by_cases here : any = form
    · subst here
      rcases read.bands with ⟨unset, _⟩ | bands
      · rw [unset] at empty
        cases empty
      · rw [empty] at bands
        exact someBand (Option.some.inj bands).symm
    · rw [read.other any here] at empty
      cases empty
  refine ⟨none .keys, fun position near => ?_⟩
  by_cases last : position = 3
  · subst last
    exact none .positions
  · exact read.texts position (by omega)

theorem BandsRead.not_keepsBands {form : Form} {settings : Settings} {router : Setting}
    (read : BandsRead form settings router) (noBand : settings.router.bands = []) :
    ¬KeepsBands router := by
  intro kept
  have empty := read.inside_eq_nil noBand
  cases form with
  | keys => exact kept.byKey empty
  | positions => exact kept.byPosition 3 le_rfl empty

/-- What the environment writes keeps a list of bands from being empty. -/
theorem bands_ne_nil_of_load {environment : Environment} {document : Option String}
    {initial settings : Settings} (loads : load [] document = .ok initial)
    (someBand : initial.router.bands ≠ []) (overridden : load environment document = .ok settings) :
    settings.router.bands ≠ [] := by
  obtain ⟨layer, layered, reads⟩ := load_eq_ok_iff.mp loads
  obtain ⟨layer', layered', reads'⟩ := load_eq_ok_iff.mp overridden
  cases layered.symm.trans layered'
  obtain ⟨entries, isTable⟩ := exists_written_eq_table layer []
  have base : written (environmentLayer []) (.table entries) = .table entries := rfl
  rw [isTable, base] at reads
  rw [isTable] at reads'
  obtain ⟨entries', isTable'⟩ := exists_written_eq_table (environmentLayer environment) entries
  obtain ⟨_, read⟩ := exists_bandsRead reads
  have kept : KeepsBands (inside [.key "bbox"] (.table entries')) := by
    rw [← isTable', written_environmentLayer]
    refine keepsBands_writtenTexts _ ?_ (read.keepsBands someBand)
    intro write member
    obtain ⟨entry, _, isWrite⟩ := List.mem_filterMap.mp member
    obtain ⟨name, _, rfl⟩ := Option.map_eq_some_iff.mp isWrite
    exact exists_placeOf_eq_key name
  rw [isTable'] at reads'
  obtain ⟨_, read'⟩ := exists_bandsRead reads'
  exact fun noBand => read'.not_keepsBands noBand kept

/-! ## Environments that there may be -/

/-- A text without the character that ends one in an environment. -/
def Unbroken (text : String) : Prop :=
  Char.ofNat 0 ∉ text.toList

instance (text : String) : Decidable (Unbroken text) :=
  inferInstanceAs (Decidable (_ ∉ _))

/-- An environment that a program may be started in: every name is a text without an equals sign,
and no two are the same. -/
structure Possible (environment : Environment) : Prop where
  names : ∀ entry ∈ environment, entry.1 ≠ "" ∧ '=' ∉ entry.1.toList ∧ Unbroken entry.1
  values : ∀ entry ∈ environment, Unbroken entry.2
  distinct : (environment.map Prod.fst).Nodup

theorem unbroken_code (band : Band) : Unbroken band.code := by
  cases band <;> decide

theorem unbroken_textOf {settings : Settings}
    (unbroken : ∀ text ∈ [settings.router.endpoint, settings.router.password,
      settings.site.address, settings.site.metricsPath], Unbroken text) :
    ∀ key ∈ textKeys, Unbroken (textOf settings key) := by
  intro key member
  cases key with
  | endpoint | password | address | metricsPath => exact unbroken _ (by simp [textOf])
  | verifyCertificate =>
      rw [textOf]
      split <;> decide
  | port =>
      intro broken
      have digits : (textOf settings .port).toList = Nat.toDigits 10 settings.site.port.toNat := by
        simp [textOf]
      rw [digits] at broken
      exact absurd (isDigit_of_mem _ _ broken) (by decide)
  | bands => exact absurd member (by decide)

theorem forall_variablesOf {P : String × String → Prop} {form : Form} {settings : Settings}
    (texts : ∀ key ∈ textKeys, P (form.variableName key, textOf settings key))
    (items : ∀ index < settings.router.bands.length, ∀ band : Band,
      P (form.variableName .bands ++ bracketed index, band.code)) :
    ∀ entry ∈ variablesOf form settings, P entry := by
  intro entry member
  rcases List.mem_append.mp member with plain | item
  · obtain ⟨key, isKey, rfl⟩ := List.mem_map.mp plain
    exact texts key isKey
  · obtain ⟨index, small, rfl⟩ := List.mem_mapIdx.mp item
    exact items index small _

/-- All variables set settings. -/
theorem settingName?_variablesOf (form : Form) {settings : Settings}
    (size : settings.router.bands.length ≤ 0x8000000000000000) :
    ∀ entry ∈ variablesOf form settings, settingName? entry.1 ≠ none := by
  refine forall_variablesOf (fun key _ => ?_) fun index small _ => ?_
  · obtain ⟨name, isName, _⟩ := Option.map_eq_some_iff.mp (form.settingName?_variableName key)
    exact Option.ne_none_iff_exists'.mpr ⟨name, isName⟩
  · obtain ⟨name, isName, _⟩ :=
      Option.map_eq_some_iff.mp (place_item form (by omega : index < 0x8000000000000000))
    exact Option.ne_none_iff_exists'.mpr ⟨name, isName⟩

theorem named_variableName (form : Form) (key : Key) :
    form.variableName key ≠ "" ∧ '=' ∉ (form.variableName key).toList ∧
      Unbroken (form.variableName key) := by
  cases form <;> cases key <;> decide +kernel

theorem named_item (form : Form) (key : Key) (index : Nat) :
    form.variableName key ++ bracketed index ≠ "" ∧
      '=' ∉ (form.variableName key ++ bracketed index).toList ∧
        Unbroken (form.variableName key ++ bracketed index) := by
  obtain ⟨_, noEquals, unbroken⟩ := named_variableName form key
  rw [Unbroken, String.toList_append, List.mem_append, List.mem_append, not_or, not_or]
  refine ⟨?_, ⟨noEquals, notMem_bracketed (by decide) index⟩,
    ⟨unbroken, notMem_bracketed (by decide) index⟩⟩
  intro isEmpty
  have letters := congrArg String.toList isEmpty
  rw [String.toList_append, toList_bracketed] at letters
  simp at letters

/-- Names whose places are apart are not the same. -/
theorem distinct_variablesOf (form : Form) {settings : Settings}
    (size : settings.router.bands.length ≤ 0x8000000000000000) :
    ((variablesOf form settings).map Prod.fst).Nodup := by
  have apart := pairwise_writes form settings
  rw [← writesOf_variablesOf form size, writesOf, List.pairwise_filterMap] at apart
  refine List.pairwise_map.mpr (apart.imp_of_mem ?_)
  intro entry other member _ places same
  obtain ⟨name, isName⟩ :=
    Option.ne_none_iff_exists'.mp (settingName?_variablesOf form size entry member)
  have alike := places (placeOf name, entry.2) (by rw [isName]; rfl) (placeOf name, other.2)
    (by rw [← same, isName]; rfl)
  exact alike.ne rfl

theorem possible_variablesOf (form : Form) {settings : Settings}
    (size : settings.router.bands.length ≤ 0x8000000000000000)
    (unbroken : ∀ key ∈ textKeys, Unbroken (textOf settings key)) :
    Possible (variablesOf form settings) := by
  refine ⟨?_, ?_, distinct_variablesOf form size⟩
  · exact forall_variablesOf (fun key _ => named_variableName form key)
      fun index _ _ => named_item form .bands index
  · exact forall_variablesOf unbroken fun index _ band => unbroken_code band

/-! ## Overriding -/

/-- The variables give the settings, whatever the document says and in any order. -/
theorem exists_environment {document : Option String} {initial settings : Settings}
    (loads : load [] document = .ok initial)
    (size : settings.router.bands.length ≤ 0x8000000000000000)
    (notEmptied : settings.router.bands ≠ [] ∨ initial.router.bands = []) :
    ∃ form, ∀ environment : Environment, environment.Perm (variablesOf form settings) →
      load environment document = .ok settings := by
  obtain ⟨layer, layered, reads⟩ := load_eq_ok_iff.mp loads
  obtain ⟨entries, isTable⟩ := exists_written_eq_table layer []
  have base : written (environmentLayer []) (.table entries) = .table entries := rfl
  rw [isTable, base] at reads
  obtain ⟨form, ready⟩ := exists_ready reads notEmptied
  refine ⟨form, fun environment perm => load_eq_ok_iff.mpr ⟨layer, layered, ?_⟩⟩
  rw [isTable]
  exact (standsIn_of_perm size ready perm).ofSetting?_eq

/-- A text for the list of bands is refused. -/
theorem load_bands_text {document : Option String} {initial : Settings}
    (loads : load [] document = .ok initial) (text : String) :
    load [(Key.bands.variableName, text)] document = .error .misfit := by
  obtain ⟨layer, layered, _⟩ := load_eq_ok_iff.mp loads
  refine load_eq_misfit layered ?_
  obtain ⟨entries, isTable⟩ := exists_written_eq_table layer []
  obtain ⟨name, isName, isPlace⟩ := exists_settingName .bands
  rw [isTable, environmentLayer_cons_of_some isName, written_cons, isPlace]
  refine Option.eq_none_iff_forall_ne_some.mpr fun settings reads => ?_
  obtain ⟨form, read⟩ := exists_bandsRead reads
  have stands : inside [Form.keys.step .bands] (inside [.key "bbox"]
      (writtenAt (.text text) (Form.keys.place .bands) (some (.table entries)))) = .text text :=
    inside_writtenAt_self (Form.keys.forward_place .bands) text (.table entries)
  cases form with
  | keys =>
      rcases read.bands with ⟨unset, _⟩ | bands
      · cases unset.symm.trans stands
      · cases bands.symm.trans (congrArg bands? stands)
  | positions => cases (read.other .keys (by decide)).symm.trans stands

/-- Variables give all settings, in any order, whatever the document says, except that they leave
no list of bands empty that was not.  The variable of the list itself is always refused.  As a
position in a name is a number of 64 bits, a list is given as far as such numbers reach. -/
theorem overridable_unless_emptied {document : Option String} {initial : Settings}
    (loads : load [] document = .ok initial) (settings : Settings)
    (unbroken : ∀ text ∈ [settings.router.endpoint, settings.router.password,
      settings.site.address, settings.site.metricsPath], Unbroken text)
    (size : settings.router.bands.length ≤ 0x8000000000000000) :
    ((∃ environment, Possible environment ∧ (∀ entry ∈ environment, settingName? entry.1 ≠ none) ∧
        ∀ order : Environment, order.Perm environment → load order document = .ok settings) ↔
      settings.router.bands ≠ [] ∨ initial.router.bands = []) ∧
    (settings.router.bands = [] → initial.router.bands ≠ [] →
      ∀ environment, load environment document ≠ .ok settings) ∧
    ∀ text, load [(Key.bands.variableName, text)] document = .error .misfit := by
  have never : settings.router.bands = [] → initial.router.bands ≠ [] →
      ∀ environment, load environment document ≠ .ok settings :=
    fun noBand someBand _ overridden => bands_ne_nil_of_load loads someBand overridden noBand
  refine ⟨⟨?_, fun notEmptied => ?_⟩, never, load_bands_text loads⟩
  · rintro ⟨environment, _, _, overridden⟩
    by_contra emptied
    rw [not_or, not_ne_iff] at emptied
    exact never emptied.1 emptied.2 environment (overridden environment (.refl _))
  · obtain ⟨form, given⟩ := exists_environment loads size notEmptied
    exact ⟨variablesOf form settings,
      possible_variablesOf form size (unbroken_textOf unbroken),
      settingName?_variablesOf form size, given⟩

/-- A document without bands, and settings with two. -/
theorem bandless_document_overridden :
    let document := some "[bbox]\nwireless_bands = []\n"
    let settings : Settings := ⟨⟨"http://192.0.2.1", "secret", false, [.ghz5, .ghz24]⟩,
      ⟨"::", 0, "/m"⟩⟩
    load [] document = .ok { router := { bands := [] } } ∧
      ∃ environment, Possible environment ∧ (∀ entry ∈ environment, settingName? entry.1 ≠ none) ∧
        ∀ order : Environment, order.Perm environment → load order document = .ok settings := by
  intro document settings
  have loads : load [] document = .ok { router := { bands := [] } } := by decide +kernel
  exact ⟨loads, (overridable_unless_emptied loads settings (by decide) (by decide)).1.mpr
    (.inl (by decide))⟩

/-- Without a document, no environment leaves the list of bands empty. -/
theorem bands_never_emptied :
    ¬∃ environment, load environment none = .ok { router := { bands := [] } } := by
  rintro ⟨environment, loads⟩
  have initial : load [] none = .ok {} := rfl
  exact bands_ne_nil_of_load initial (by decide) loads rfl

end Settings

end RouterTelemetry
