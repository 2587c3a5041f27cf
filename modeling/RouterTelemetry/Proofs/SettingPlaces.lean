import Mathlib.Data.List.Nodup
import RouterTelemetry.Proofs.Results
import RouterTelemetry.Settings.Load

/-!
# Places in a tree of settings

What is written to a place stands there afterwards, and writing leaves the places apart from it as
they are.  A layer of plain keys is written as a table is, entry by entry.
-/

namespace RouterTelemetry.Setting

/-! ## Finding -/

/-- The setting at a place, which is unset if nothing is there; positions count from the front. -/
def inside : Place → Setting → Setting
  | [], setting => setting
  | .key key :: place, setting => inside place ((setting.entries.lookup key).getD .unset)
  | .position index :: place, setting =>
      if 0 ≤ index then inside place ((setting.items[index.toNat]?).getD .unset) else .unset

theorem inside_key (key : String) (place : Place) (setting : Setting) :
    inside (.key key :: place) setting =
      inside place ((setting.entries.lookup key).getD .unset) :=
  rfl

theorem inside_position (index : Nat) (place : Place) (setting : Setting) :
    inside (.position index :: place) setting =
      inside place ((setting.items[index]?).getD .unset) :=
  rfl

theorem inside_unset (place : Place) : inside place .unset = .unset := by
  induction place with
  | nil => rfl
  | cons step place ih =>
      cases step with
      | key key => exact ih
      | position index =>
          rw [inside]
          split
          · exact ih
          · rfl

theorem inside_append (place rest : Place) (setting : Setting) :
    inside (place ++ rest) setting = inside rest (inside place setting) := by
  induction place generalizing setting with
  | nil => rfl
  | cons step place ih =>
      cases step with
      | key key => exact ih _
      | position index =>
          rw [List.cons_append, inside, inside]
          split
          · exact ih _
          · rw [inside_unset]

/-- All positions on the way count from the front. -/
def Forward (place : Place) : Prop :=
  ∀ index, Step.position index ∈ place → 0 ≤ index

theorem Forward.tail {step : Step} {place : Place} (forward : Forward (step :: place)) :
    Forward place :=
  fun index member => forward index (List.mem_cons_of_mem _ member)

/-- Two places part on the way, at two keys or at two positions of one list. -/
inductive Apart : Place → Place → Prop where
  | keys {key other : String} (ne : key ≠ other) (place place' : Place) :
      Apart (.key key :: place) (.key other :: place')
  | positions {index other : Nat} (ne : index ≠ other) (place place' : Place) :
      Apart (.position index :: place) (.position other :: place')
  | key {place place' : Place} (key : String) (apart : Apart place place') :
      Apart (.key key :: place) (.key key :: place')
  | position {place place' : Place} (index : Nat) (apart : Apart place place') :
      Apart (.position index :: place) (.position index :: place')

theorem Apart.symm {place other : Place} (apart : Apart place other) : Apart other place := by
  induction apart with
  | keys ne place place' => exact .keys (Ne.symm ne) place' place
  | positions ne place place' => exact .positions (Ne.symm ne) place' place
  | key key _ ih => exact .key key ih
  | position index _ ih => exact .position index ih

/-! ## Changing an item -/

section

variable {index other : Nat} {change : Option Setting → Setting} {items : List Setting}

/-- What stands before an item that is changed, filled up to its position. -/
def itemsBefore (index : Nat) (items : List Setting) : List Setting :=
  items.take index ++ List.replicate (index - items.length) .unset

@[simp]
theorem length_itemsBefore (index : Nat) (items : List Setting) :
    (itemsBefore index items).length = index := by
  simp only [itemsBefore, List.length_append, List.length_take, List.length_replicate]
  omega

theorem changeItem_natCast (index : Nat) (change : Option Setting → Setting)
    (items : List Setting) :
    changeItem index change items =
      itemsBefore index items ++ change items[index]? :: items.drop (index + 1) := by
  have forward : ¬(index : Int) < 0 := by omega
  simp [changeItem, itemsBefore, forward]

@[simp]
theorem length_changeItem :
    (changeItem index change items).length = max items.length (index + 1) := by
  simp only [changeItem_natCast, List.length_append, List.length_cons, length_itemsBefore,
    List.length_drop]
  omega

@[simp]
theorem getElem?_changeItem_self :
    (changeItem index change items)[index]? = some (change items[index]?) := by
  have front := length_itemsBefore index items
  rw [changeItem_natCast, List.getElem?_append_right (by omega), front, Nat.sub_self]
  rfl

/-- The other items are left as they are, and new places before the item are unset. -/
theorem getElem?_changeItem_of_ne (ne : other ≠ index) :
    ((changeItem index change items)[other]?).getD .unset = (items[other]?).getD .unset := by
  have front := length_itemsBefore index items
  rw [changeItem_natCast]
  rcases Nat.lt_or_gt_of_ne ne with before | behind
  · rw [List.getElem?_append_left (by omega), itemsBefore]
    by_cases inside : other < items.length
    · rw [List.getElem?_append_left (by rw [List.length_take]; omega),
        List.getElem?_take_of_lt before]
    · have past : items.length ≤ other := by omega
      have whole : (items.take index).length = items.length := by rw [List.length_take]; omega
      rw [List.getElem?_append_right (by omega), List.getElem?_replicate,
        if_pos (by omega), List.getElem?_eq_none past]
      rfl
  · obtain ⟨distance, rfl⟩ := Nat.exists_eq_add_of_lt behind
    rw [List.getElem?_append_right (by omega), front]
    have shift : index + distance + 1 - index = distance + 1 := by omega
    rw [shift, List.getElem?_cons_succ, List.getElem?_drop]
    have same : index + 1 + distance = index + distance + 1 := by omega
    rw [same]

end

/-! ## Writing -/

/-- Writing where nothing is makes what it makes of what is unset. -/
theorem writtenAt_none (setting : Setting) (place : Place) :
    writtenAt setting place none = writtenAt setting place (some .unset) := by
  cases place with
  | nil => cases setting <;> rfl
  | cons step place => cases step <;> rfl

theorem writtenAt_eq_getD (setting : Setting) (place : Place) (present : Option Setting) :
    writtenAt setting place present = writtenAt setting place (some (present.getD .unset)) := by
  cases present with
  | none => exact writtenAt_none setting place
  | some present => rfl

/-- Further inside a place, writing goes on from what is there. -/
theorem inside_writtenAt_append {place : Place} (forward : Forward place) (setting : Setting)
    (rest : Place) (tree : Setting) :
    inside place (writtenAt setting (place ++ rest) (some tree)) =
      writtenAt setting rest (some (inside place tree)) := by
  induction place generalizing tree with
  | nil => rfl
  | cons step place ih =>
      cases step with
      | key key =>
          rw [List.cons_append, writtenAt, inside_key, inside_key, entries, lookup_changeEntry_self,
            Option.map_some, Option.getD_some, Option.getD_some, writtenAt_eq_getD, ih forward.tail]
      | position index =>
          obtain ⟨index, rfl⟩ := Int.eq_ofNat_of_zero_le (forward index List.mem_cons_self)
          rw [List.cons_append, writtenAt, inside_position, inside_position, items,
            getElem?_changeItem_self, Option.map_some, Option.getD_some, Option.getD_some,
            writtenAt_eq_getD, ih forward.tail]

/-- A text stands where it is written. -/
theorem inside_writtenAt_self {place : Place} (forward : Forward place) (text : String)
    (tree : Setting) :
    inside place (writtenAt (.text text) place (some tree)) = .text text := by
  have written := inside_writtenAt_append forward (.text text) [] tree
  rwa [List.append_nil] at written

/-- What stands apart from a place is left by writing to it. -/
theorem inside_writtenAt_of_apart {place other : Place} (apart : Apart place other)
    (setting tree : Setting) :
    inside other (writtenAt setting place (some tree)) = inside other tree := by
  induction apart generalizing tree with
  | keys ne place place' =>
      rw [writtenAt, inside_key, inside_key, entries, lookup_changeEntry_of_ne (Ne.symm ne)]
      rfl
  | positions ne place place' =>
      rw [writtenAt, inside_position, inside_position, items,
        getElem?_changeItem_of_ne (Ne.symm ne)]
      rfl
  | key key _ ih =>
      rw [writtenAt, inside_key, inside_key, entries, lookup_changeEntry_self, Option.map_some,
        Option.getD_some, Option.getD_some, writtenAt_eq_getD, ih]
  | position index _ ih =>
      rw [writtenAt, inside_position, inside_position, items, getElem?_changeItem_self,
        Option.map_some, Option.getD_some, Option.getD_some, writtenAt_eq_getD, ih]

/-! ## Layers of plain keys -/

theorem lookup_eq_none_of_notMem {α : Type} {key : String} {entries : List (String × α)}
    (absent : key ∉ entries.map Prod.fst) : entries.lookup key = none := by
  rw [List.lookup_eq_none_iff]
  intro entry member
  have other : key ≠ entry.1 := by
    rintro rfl
    exact absent (List.mem_map_of_mem member)
  simpa using other

theorem mem_of_lookup_eq_some {α : Type} {key : String} {value : α} {entries : List (String × α)}
    (found : entries.lookup key = some value) : (key, value) ∈ entries := by
  obtain ⟨front, back, rfl, _⟩ := List.lookup_eq_some_iff.mp found
  simp

/-- A table is written entry by entry. -/
theorem lookup_entriesOver {written : List (String × Setting)}
    (distinct : (written.map Prod.fst).Nodup) (present : List (String × Setting)) (key : String) :
    (entriesOver present written).lookup key =
      match written.lookup key with
      | some setting => some (writtenOver (present.lookup key) setting)
      | none => present.lookup key := by
  induction written generalizing present with
  | nil => rfl
  | cons entry written ih =>
      obtain ⟨first, setting⟩ := entry
      rw [List.map_cons, List.nodup_cons] at distinct
      rw [entriesOver, ih distinct.2]
      by_cases here : key = first
      · subst here
        simp [lookup_eq_none_of_notMem distinct.1]
      · have differs : (key == first) = false := by simpa using here
        rw [lookup_changeEntry_of_ne here, List.lookup_cons, differs]

theorem written_cons (name : String) (setting : Setting) (layer : List (String × Setting))
    (tree : Setting) :
    Settings.written ((name, setting) :: layer) tree =
      Settings.written layer (writtenAt setting (placeOf name) (some tree)) :=
  rfl

/-- A place starts with a key. -/
theorem exists_placeOf_eq_key (name : String) : ∃ key place, placeOf name = .key key :: place := by
  rw [placeOf]
  cases read : readPlace? name.toList with
  | none => exact ⟨name, [], rfl⟩
  | some place =>
      obtain ⟨⟨key, rest⟩, _, steps⟩ := Option.bind_eq_some_iff.mp read
      obtain ⟨place, _, same⟩ := Option.bind_eq_some_iff.mp steps
      cases same
      exact ⟨key, place, rfl⟩

/-- What is written over a table is one. -/
theorem exists_written_eq_table (layer : List (String × Setting))
    (present : List (String × Setting)) :
    ∃ entries, Settings.written layer (.table present) = .table entries := by
  induction layer generalizing present with
  | nil => exact ⟨present, rfl⟩
  | cons entry layer ih =>
      obtain ⟨key, place, start⟩ := exists_placeOf_eq_key entry.1
      rw [written_cons, start]
      exact ih _

/-- Plain keys are written as the entries of a table are. -/
theorem written_table {layer : List (String × Setting)}
    (plain : ∀ entry ∈ layer, placeOf entry.1 = [.key entry.1])
    (present : List (String × Setting)) :
    Settings.written layer (.table present) = .table (entriesOver present layer) := by
  induction layer generalizing present with
  | nil => rfl
  | cons entry layer ih =>
      obtain ⟨key, setting⟩ := entry
      rw [List.forall_mem_cons] at plain
      have first : writtenAt setting (placeOf key) (some (.table present)) =
          .table (changeEntry key (fun old => writtenOver old setting) present) := by
        rw [plain.1]
        rfl
      rw [entriesOver, ← ih plain.2, written_cons, first]

end RouterTelemetry.Setting

namespace RouterTelemetry

open Setting

/-! ## Reading -/

theorem RouterSettings.ofSetting?_eq_some_iff {setting : Setting} {router : RouterSettings} :
    RouterSettings.ofSetting? setting = some router ↔ setting.isSection = true ∧
      setting.readPart "endpoint" 0 text? ({} : RouterSettings).endpoint = some router.endpoint ∧
      setting.readPart "password" 1 text? ({} : RouterSettings).password = some router.password ∧
      setting.readPart "verify_ssl" 2 truth? ({} : RouterSettings).verifyCertificate =
        some router.verifyCertificate ∧
      setting.readPart "wireless_bands" 3 bands? ({} : RouterSettings).bands =
        some router.bands := by
  obtain ⟨endpoint, password, verifyCertificate, bands⟩ := router
  rw [RouterSettings.ofSetting?]
  cases setting.isSection with
  | false => simp
  | true =>
      simp [Option.bind_eq_some_iff, -Bool.exists_bool]

theorem SiteSettings.ofSetting?_eq_some_iff {setting : Setting} {site : SiteSettings} :
    SiteSettings.ofSetting? setting = some site ↔ setting.isSection = true ∧
      setting.readPart "addr" 0 text? ({} : SiteSettings).address = some site.address ∧
      setting.readPart "port" 1 port? ({} : SiteSettings).port = some site.port ∧
      setting.readPart "metrics_path" 2 text? ({} : SiteSettings).metricsPath =
        some site.metricsPath := by
  obtain ⟨address, port, metricsPath⟩ := site
  rw [SiteSettings.ofSetting?]
  cases setting.isSection with
  | false => simp
  | true => simp [Option.bind_eq_some_iff]

theorem Settings.ofSetting?_eq_some_iff {setting : Setting} {settings : Settings} :
    Settings.ofSetting? setting = some settings ↔
      setting.readPart "bbox" 0 RouterSettings.ofSetting? {} = some settings.router ∧
      setting.readPart "server" 1 SiteSettings.ofSetting? {} = some settings.site := by
  obtain ⟨router, site⟩ := settings
  simp [Settings.ofSetting?, Option.bind_eq_some_iff]

section

variable {name setting : String} {environment : Environment}

theorem Settings.environmentLayer_cons_of_none (none : settingName? name = none) (value : String) :
    environmentLayer ((name, value) :: environment) = environmentLayer environment := by
  simp [environmentLayer, none]

theorem Settings.environmentLayer_cons_of_some (sets : settingName? name = some setting)
    (value : String) :
    environmentLayer ((name, value) :: environment) =
      (setting, .text value) :: environmentLayer environment := by
  simp [environmentLayer, sets]

end

/-- Settings are read of the table that the layers make. -/
theorem Settings.load_eq_ok_iff {environment : Environment} {document : Option String}
    {settings : Settings} :
    load environment document = .ok settings ↔ ∃ layer, documentLayer document = .ok layer ∧
      Settings.ofSetting? (written (environmentLayer environment) (written layer (.table []))) =
        some settings := by
  rw [load, bind_eq_ok_iff]
  refine exists_congr fun layer => and_congr_right fun _ => ?_
  dsimp only
  split <;> simp_all [pure, Except.pure, throw, throwThe, MonadExceptOf.throw]

theorem Settings.load_eq_misfit {environment : Environment} {document : Option String}
    {layer : List (String × Setting)} (layered : documentLayer document = .ok layer)
    (misfit : Settings.ofSetting?
      (written (environmentLayer environment) (written layer (.table []))) = none) :
    load environment document = .error .misfit := by
  rw [load, layered]
  simp only [bind, Except.bind, misfit]
  rfl

end RouterTelemetry
