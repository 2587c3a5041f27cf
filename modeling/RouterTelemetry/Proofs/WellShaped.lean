import RouterTelemetry.Proofs.TreeVariants

/-!
# Documents of the right shape

A document has the shape of a format if there is an object for every record, a list for every
list and a string for every text, and no object has a key twice.  What stands for a measure, and
under keys that a record does not know, may be anything.  Such a document is decoded, unless two
keys of an object name one member of its record, as a key and its alias do.
-/

namespace RouterTelemetry.Json

/-! ## Shapes -/

section

variable {α : Type}

/-- The key of the first member that goes by the name `written`, as its key or as an alias. -/
def Members.named? : Members α → (written : String) → Option String
  | .nil, _ => none
  | .cons _ key aliases _ _ _ _ rest, written =>
      if key = written ∨ written ∈ aliases then some key else rest.named? written

/-- The members that the keys of an object name, in the order of the object. -/
def Entries.named (members : Members α) (entries : Entries) : List String :=
  entries.pairs.filterMap fun pair => (Glyph.string pair.1).toOption.bind members.named?

mutual

/-- The tree has the shape of the format, and each of its objects is as the condition demands
with the members of its record. -/
def Format.Fits (condition : ∀ {α : Type}, Members α → Entries → Prop) {α : Type} :
    Format α → Tree → Prop
  | .measure, _ | .any, _ => True
  | .text, tree =>
      match tree with
      | .string _ => True
      | _ => False
  | .list item, tree =>
      match tree with
      | .list items _ => ∀ tree ∈ items.trees, item.Fits condition tree
      | _ => False
  | .record _ _ members, tree =>
      match tree with
      | .object entries _ => condition members entries ∧
          ∀ pair ∈ entries.pairs, ∀ written, Glyph.string pair.1 = .ok written →
            members.FitsAt condition written pair.2
      | _ => False

/-- The tree has the shape of the member that goes by the name `written`, if there is one. -/
def Members.FitsAt (condition : ∀ {α : Type}, Members α → Entries → Prop) {α : Type} :
    Members α → (written : String) → Tree → Prop
  | .nil, _, _ => True
  | .cons _ key aliases _ format _ _ rest, written, tree =>
      if key = written ∨ written ∈ aliases then format.Fits condition tree
      else rest.FitsAt condition written tree

end

/-- The tree has the shape of the format, and no object has a key twice. -/
def Format.Suits (format : Format α) (tree : Tree) : Prop :=
  format.Fits (fun _ entries => entries.Distinct) tree

/-- The tree has the shape of the format, and no two keys of an object name one member. -/
def Format.Unambiguous (format : Format α) (tree : Tree) : Prop :=
  format.Fits (fun members entries => (entries.named members).Nodup) tree

mutual

/-- No member of a record is required. -/
def Format.optional {α : Type} : Format α → Bool
  | .measure | .text | .any => true
  | .list item => item.optional
  | .record _ _ members => members.optional

/-- None of the members is required, nor are those inside of them. -/
def Members.optional {α : Type} : Members α → Bool
  | .nil => true
  | .cons _ _ _ required format _ _ rest => !required && format.optional && rest.optional

end

mutual

/-- Every member of a record goes by its key only. -/
def Format.unaliased {α : Type} : Format α → Bool
  | .measure | .text | .any => true
  | .list item => item.unaliased
  | .record _ _ members => members.unaliased

/-- All members go by their keys only, and so do those inside of them. -/
def Members.unaliased {α : Type} : Members α → Bool
  | .nil => true
  | .cons _ _ aliases _ format _ _ rest => aliases.isEmpty && format.unaliased && rest.unaliased

end

end

/-! ## Results decided by a condition -/

/-- There is a result where the condition holds, and a member met twice where not. -/
def Decides {α : Type} (condition : Prop) (result : Except Fault α) : Prop :=
  (condition ∧ ∃ value, result = .ok value) ∨
    (¬condition ∧ ∃ name, result = .error (.misshapen (.duplicateField name)))

section

variable {α β : Type} {condition other : Prop} {result : Except Fault α}

theorem Decides.ok (value : α) (holds : condition) :
    Decides condition (.ok value : Except Fault α) :=
  .inl ⟨holds, value, rfl⟩

theorem Decides.duplicate (name : String) (fails : ¬condition) :
    Decides condition (.error (.misshapen (.duplicateField name)) : Except Fault α) :=
  .inr ⟨fails, name, rfl⟩

theorem Decides.congr (decides : Decides condition result) (same : condition ↔ other) :
    Decides other result := by
  rw [Decides, ← same]
  exact decides

theorem Decides.map (decides : Decides condition result) (f : α → β) :
    Decides condition (result.map f) := by
  rcases decides with ⟨holds, value, rfl⟩ | ⟨fails, name, rfl⟩
  · exact .ok (f value) holds
  · exact .duplicate name fails

theorem Decides.bind {next : α → Except Fault β} (decides : Decides condition result)
    (each : ∀ value, result = .ok value → Decides other (next value)) :
    Decides (condition ∧ other) (result >>= next) := by
  rcases decides with ⟨holds, value, rfl⟩ | ⟨fails, name, rfl⟩
  · exact (each value rfl).congr (by simp [holds])
  · exact .duplicate name fun both => fails both.1

end

/-! ## Parts of sound trees -/

theorem Items.sound_of_mem {items : Items} (sound : items.Sound) :
    ∀ tree ∈ items.trees, tree.Sound := by
  match items with
  | .nil => simp [Items.trees]
  | .cons _ _ item more =>
      rw [Items.trees, List.forall_mem_cons]
      exact ⟨sound.1, sound_of_mem sound.2⟩

theorem Items.depth_le_of_mem {items : Items} {depth : Nat} (shallow : items.depth ≤ depth) :
    ∀ tree ∈ items.trees, tree.depth ≤ depth := by
  cases items with
  | nil => simp [Items.trees]
  | cons _ _ item more =>
      rw [Items.depth, Nat.max_le] at shallow
      rw [Items.trees, List.forall_mem_cons]
      exact ⟨shallow.1, depth_le_of_mem shallow.2⟩

theorem Entries.sound_of_mem {entries : Entries} (sound : entries.Sound) :
    ∀ pair ∈ entries.pairs, Glyph.Paired pair.1 ∧ pair.2.Sound := by
  match entries with
  | .nil => simp [Entries.pairs]
  | .cons _ _ key _ _ value more =>
      rw [Entries.pairs, List.forall_mem_cons]
      exact ⟨⟨sound.1, sound.2.1⟩, sound_of_mem sound.2.2⟩

theorem Entries.depth_le_of_mem {entries : Entries} {depth : Nat}
    (shallow : entries.depth ≤ depth) : ∀ pair ∈ entries.pairs, pair.2.depth ≤ depth := by
  cases entries with
  | nil => simp [Entries.pairs]
  | cons _ _ key _ _ value more =>
      rw [Entries.depth, Nat.max_le] at shallow
      rw [Entries.pairs, List.forall_mem_cons]
      exact ⟨shallow.1, depth_le_of_mem shallow.2⟩

/-- Glyphs with all halves in pairs are a text. -/
theorem Glyph.exists_string {glyphs : List Glyph} (paired : Paired glyphs) :
    ∃ text, string glyphs = .ok text := by
  rcases settled_string glyphs with ⟨_, spelled⟩ | ⟨unpaired, _⟩
  · exact spelled
  · exact absurd paired unpaired

/-! ## One member after another -/

section

variable {α : Type} {members : Members α} {depth : Nat} {tree : Tree} {written : String}
  {filling filled : Filling α}

theorem Members.seen_eq_of_ofMember {members : Members α}
    (made : members.ofMember depth written tree filling = .ok filled) :
    filled.seen = (members.named? written).toList ++ filling.seen := by
  match members with
  | .nil =>
      cases made
      rfl
  | .cons _ name aliases _ format _ set rest =>
      rw [named?]
      split_ifs with named
      · rw [ofMember_of_named named, Filling.take] at made
        split_ifs at made
        obtain ⟨value, _, rfl⟩ := map_eq_ok_iff.mp made
        rfl
      · rw [ofMember_of_unnamed named] at made
        exact seen_eq_of_ofMember made

/-- No member that the key names has been met. -/
def Members.FreshAt (members : Members α) (written : String) (seen : List String) : Prop :=
  ∀ name, members.named? written = some name → name ∉ seen

theorem Entries.named_cons {pad blank : Blank} {glyphs : List Glyph} {afterKey beforeValue : Blank}
    {more : Entries} (spelled : Glyph.string glyphs = .ok written) :
    (Entries.cons pad blank glyphs afterKey beforeValue tree more).named members =
      (members.named? written).toList ++ more.named members := by
  rw [named, pairs, List.filterMap_cons, spelled]
  cases found : members.named? written <;> simp [Except.toOption, found, named]

/-- A member and then others are met once each. -/
theorem nodup_fresh_iff {first : Option String} {rest seen : List String} :
    ((first.toList ++ rest).Nodup ∧ ∀ name ∈ first.toList ++ rest, name ∉ seen) ↔
      (∀ name, first = some name → name ∉ seen) ∧ rest.Nodup ∧
        ∀ name ∈ rest, name ∉ first.toList ++ seen := by
  cases first with
  | none => simp
  | some name =>
      simp only [Option.toList_some, List.singleton_append, List.nodup_cons, List.mem_cons, not_or,
        or_imp, forall_and, forall_eq, Option.some.injEq, forall_eq']
      constructor
      · rintro ⟨⟨apart, nodup⟩, fresh, others⟩
        exact ⟨fresh, nodup, fun other listed same => apart (same ▸ listed), others⟩
      · rintro ⟨fresh, nodup, apart, others⟩
        exact ⟨⟨fun listed => apart name listed rfl, nodup⟩, fresh, others⟩

/-- An object fills its record if no member is met twice, before the object or in it, and every
value fits its member. -/
theorem Entries.decides_fold {fits : String → Tree → Prop} {entries : Entries}
    (spelled : ∀ pair ∈ entries.pairs, ∃ written, Glyph.string pair.1 = .ok written)
    (each : ∀ pair ∈ entries.pairs, ∀ written, Glyph.string pair.1 = .ok written → ∀ filling,
      Decides (members.FreshAt written filling.seen ∧ fits written pair.2)
        (members.ofMember depth written pair.2 filling))
    (filling : Filling α) :
    Decides (((entries.named members).Nodup ∧ ∀ name ∈ entries.named members, name ∉ filling.seen) ∧
        ∀ pair ∈ entries.pairs, ∀ written, Glyph.string pair.1 = .ok written →
          fits written pair.2)
      (entries.fold (members.ofMember depth) filling) := by
  match entries with
  | .nil => exact .ok filling (by simp [Entries.named, Entries.pairs])
  | .cons _ _ glyphs _ _ tree more =>
      rw [Entries.pairs, List.forall_mem_cons] at spelled each
      obtain ⟨⟨written, here⟩, later⟩ := spelled
      change Glyph.string glyphs = .ok written at here
      have rest : ∀ next, members.ofMember depth written tree filling = .ok next →
          Decides (((more.named members).Nodup ∧ ∀ name ∈ more.named members,
              name ∉ (members.named? written).toList ++ filling.seen) ∧
            ∀ pair ∈ more.pairs, ∀ written, Glyph.string pair.1 = .ok written →
              fits written pair.2) (more.fold (members.ofMember depth) next) := by
        intro next made
        rw [← Members.seen_eq_of_ofMember made]
        exact decides_fold later each.2 next
      rw [Entries.fold, here, Entries.named_cons here, nodup_fresh_iff, Entries.pairs]
      refine ((each.1 written here filling).bind rest).congr ?_
      simp only [List.forall_mem_cons, here, Except.ok.injEq, forall_eq', Members.FreshAt]
      tauto

/-- Items are collected if each of them fits. -/
theorem Items.decides_collect {fits : Tree → Prop} {result : Tree → Except Fault α} {items : Items}
    (each : ∀ tree ∈ items.trees, Decides (fits tree) (result tree)) :
    Decides (∀ tree ∈ items.trees, fits tree) (items.collect result) := by
  match items with
  | .nil => exact .ok [] (by simp [Items.trees])
  | .cons _ _ item more =>
      rw [Items.trees, List.forall_mem_cons] at each
      rw [Items.trees, List.forall_mem_cons, Items.collect]
      exact each.1.bind fun value _ => (decides_collect each.2).map (value :: ·)

end

theorem Members.absent?_of_optional {α : Type} {members : Members α} (seen : List String)
    (optional : members.optional = true) : members.absent? seen = none := by
  match members with
  | .nil => rfl
  | .cons _ key _ required format _ _ rest =>
      simp only [Members.optional, Bool.and_eq_true, Bool.not_eq_true'] at optional
      rw [absent?, optional.1.1, Bool.false_and]
      exact absent?_of_optional seen optional.2

/-! ## Decoding what has the right shape -/

mutual

/-- A sound tree of the shape of a format, within the limit of brackets, is decoded if and only if
no two keys of an object name one member; otherwise a member has been met twice. -/
theorem Format.decides {α : Type} (format : Format α) (optional : format.optional = true)
    {depth : Nat} {tree : Tree} (sound : tree.Sound) (shallow : tree.depth ≤ depth)
    (suits : format.Suits tree) : Decides (format.Unambiguous tree) (format.ofTree depth tree) := by
  match format with
  | .measure =>
      obtain ⟨value, read⟩ := tree.exists_measure sound shallow
      rw [Format.ofTree, read]
      exact .ok (Measure.ofValue value) trivial
  | .any =>
      obtain ⟨value, read⟩ := tree.exists_measure sound shallow
      rw [Format.ofTree, read]
      exact .ok value trivial
  | .text =>
      cases tree with
      | string glyphs =>
          obtain ⟨text, spelled⟩ := Glyph.exists_string sound
          rw [Format.ofTree, Tree.head, spelled]
          exact .ok text trivial
      | _ => exact suits.elim
  | .list item =>
      cases tree with
      | list items last =>
          cases depth with
          | zero => exact absurd shallow (Nat.not_succ_le_zero _)
          | succ depth =>
              have within := Items.depth_le_of_mem (Nat.le_of_succ_le_succ shallow)
              exact Items.decides_collect fun tree listed =>
                item.decides optional (Items.sound_of_mem sound tree listed) (within tree listed)
                  (suits tree listed)
      | _ => exact suits.elim
  | .record name blank members =>
      cases tree with
      | object entries last =>
          cases depth with
          | zero => exact absurd shallow (Nat.not_succ_le_zero _)
          | succ depth =>
              have within := Entries.depth_le_of_mem (Nat.le_of_succ_le_succ shallow)
              have filled := Entries.decides_fold
                (fun pair listed => Glyph.exists_string (Entries.sound_of_mem sound pair listed).1)
                (fun pair listed written spelled filling => members.decides optional
                  (Entries.sound_of_mem sound pair listed).2 (within pair listed)
                  (suits.2 pair listed written spelled) filling) ⟨blank, []⟩
              have fresh : ∀ name ∈ entries.named members, name ∉ ([] : List String) := by simp
              refine ((filled.congr (and_congr_left' (and_iff_left fresh))).bind
                fun filling _ => ?_).congr (and_iff_left trivial)
              rw [Members.absent?_of_optional filling.seen optional]
              exact .ok filling.record trivial
      | _ => exact suits.elim

theorem Members.decides {α : Type} (members : Members α) (optional : members.optional = true)
    {depth : Nat} {tree : Tree} (sound : tree.Sound) (shallow : tree.depth ≤ depth)
    {written : String} (suits : members.FitsAt (fun _ entries => entries.Distinct) written tree)
    (filling : Filling α) :
    Decides (members.FreshAt written filling.seen ∧
        members.FitsAt (fun members entries => (entries.named members).Nodup) written tree)
      (members.ofMember depth written tree filling) := by
  match members with
  | .nil => exact .ok filling ⟨nofun, trivial⟩
  | .cons _ name aliases _ format _ set rest =>
      simp only [Members.optional, Bool.and_eq_true] at optional
      rw [Members.FitsAt] at suits ⊢
      rw [Members.FreshAt, Members.named?]
      by_cases named : name = written ∨ written ∈ aliases
      · rw [if_pos named] at suits ⊢
        rw [Members.ofMember_of_named named, Filling.take, if_pos named]
        split_ifs with met
        · refine .duplicate name fun both => ?_
          exact both.1 name rfl (List.contains_iff_mem.mp met)
        · have fresh : ∀ other, some name = some other → other ∉ filling.seen := by
            rintro _ ⟨⟩ listed
            exact met (List.contains_iff_mem.mpr listed)
          exact ((format.decides optional.1.2 sound shallow suits).map _).congr
            (and_iff_right fresh).symm
      · rw [if_neg named] at suits ⊢
        rw [Members.ofMember_of_unnamed named, if_neg named]
        exact rest.decides optional.2 sound shallow suits filling

end

/-! ## Records without aliases -/

section

variable {α : Type}

theorem Members.named?_of_unaliased {members : Members α} (unaliased : members.unaliased = true)
    {written name : String} (named : members.named? written = some name) : name = written := by
  match members with
  | .nil => cases named
  | .cons _ key aliases _ _ _ _ rest =>
      simp only [Members.unaliased, Bool.and_eq_true, List.isEmpty_iff] at unaliased
      obtain ⟨⟨rfl, _⟩, unaliased⟩ := unaliased
      rw [named?] at named
      split_ifs at named with same
      · cases named
        exact same.resolve_right List.not_mem_nil
      · exact named?_of_unaliased unaliased named

/-- Different keys name different members if there are no aliases. -/
theorem Entries.named_nodup {members : Members α} {entries : Entries}
    (unaliased : members.unaliased = true) (distinct : entries.Distinct) :
    (entries.named members).Nodup := by
  have name_of : ∀ {written : Except Fault String} {name : String},
      written.toOption.bind members.named? = some name → written = .ok name := by
    intro written name found
    cases written with
    | error fault => cases found
    | ok written => rw [Members.named?_of_unaliased unaliased found]
  refine List.pairwise_filterMap.mpr (distinct.imp fun {first second} apart => ?_)
  rintro name found _ found' rfl
  exact apart name (name_of found) (name_of found')

mutual

theorem Format.unambiguous_of_unaliased {α : Type} (format : Format α)
    (unaliased : format.unaliased = true) {tree : Tree} (suits : format.Suits tree) :
    format.Unambiguous tree := by
  match format with
  | .measure | .any => trivial
  | .text =>
      cases tree with
      | string glyphs => trivial
      | _ => exact suits.elim
  | .list item =>
      cases tree with
      | list items last =>
          exact fun tree listed => item.unambiguous_of_unaliased unaliased (suits tree listed)
      | _ => exact suits.elim
  | .record _ _ members =>
      cases tree with
      | object entries last =>
          exact ⟨Entries.named_nodup unaliased suits.1, fun pair listed written spelled =>
            members.unambiguous_of_unaliased unaliased (suits.2 pair listed written spelled)⟩
      | _ => exact suits.elim

theorem Members.unambiguous_of_unaliased {α : Type} (members : Members α)
    (unaliased : members.unaliased = true) {tree : Tree} {written : String}
    (suits : members.FitsAt (fun _ entries => entries.Distinct) written tree) :
    members.FitsAt (fun members entries => (entries.named members).Nodup) written tree := by
  match members with
  | .nil => trivial
  | .cons _ name aliases _ format _ _ rest =>
      simp only [Members.unaliased, Bool.and_eq_true] at unaliased
      rw [Members.FitsAt] at suits ⊢
      split_ifs at suits ⊢
      · exact format.unambiguous_of_unaliased unaliased.1.2 suits
      · exact rest.unambiguous_of_unaliased unaliased.2 suits

end

end

end RouterTelemetry.Json

namespace RouterTelemetry.Resource

open Json Payload

/-- The answer is a tree between blanks that the resource's pages have the shape of: sound, and
with less than a hundred brackets open. -/
structure WellShaped {α : Type} (resource : Resource α) (tree : Tree) : Prop where
  sound : tree.Sound
  shallow : tree.depth < 100
  suits : (Format.list resource.page).Suits tree

section

variable {α : Type}

variable {resource : Resource α}

/-- An answer of the right shape is decoded if no two keys of an object name one member, and is
refused for a member met twice otherwise. -/
theorem decodes_unambiguous (optional : resource.page.optional = true) (before after : Blank)
    {tree : Tree} (shaped : resource.WellShaped tree) :
    ((Format.list resource.page).Unambiguous tree →
      ∃ pages, resource.decode (before.bytes ++ (tree.text ++ after.bytes)) = .ok pages) ∧
    (¬(Format.list resource.page).Unambiguous tree →
      ∃ name, resource.decode (before.bytes ++ (tree.text ++ after.bytes)) =
        .error (.decode resource.path (.misshapen (.duplicateField name)))) := by
  have within : tree.depth ≤ depthLimit := Nat.le_trans (Nat.le_of_lt shaped.shallow) (by decide)
  have decides := (Format.list resource.page).decides optional shaped.sound within shaped.suits
  rw [decode, Format.decode_text]
  rcases decides with ⟨unambiguous, pages, made⟩ | ⟨ambiguous, name, refused⟩
  · rw [made]
    exact ⟨fun _ => ⟨pages, rfl⟩, absurd unambiguous⟩
  · rw [refused]
    exact ⟨(absurd · ambiguous), fun _ => ⟨name, rfl⟩⟩

end

/-- The resource is one of those that a snapshot is made of. -/
inductive Fetched : {α : Type} → Resource α → Prop where
  | device : Fetched device
  | processor : Fetched processor
  | memory : Fetched memory
  | services : Fetched services
  | wan : Fetched wan
  | wanTraffic : Fetched wanTraffic
  | fibre : Fetched fibre
  | diagnostics : Fetched diagnostics
  | lan : Fetched lan
  | lanTraffic : Fetched lanTraffic
  | hosts : Fetched hosts
  | radio (band : Band) : Fetched (radio band)
  | resolver : Fetched resolver
  | television : Fetched television

namespace Fetched

variable {α : Type} {resource : Resource α} (fetched : resource.Fetched)

include fetched

/-- No member of a page has to be there. -/
theorem optional : resource.page.optional = true := by
  cases fetched <;> rfl

/-- Two pages have members with an alias. -/
theorem unaliased (others : resource.path ∉ ["/device", "/services"]) :
    resource.page.unaliased = true := by
  cases fetched with
  | device | services => exact absurd (by decide) others
  | _ => rfl

end Fetched

/-- Every answer of the right shape is decoded unless two keys of an object name one member, which
is a member met twice.  Outside of the device and the services no keys of an object do. -/
theorem well_shaped_pages_decode {α : Type} {resource : Resource α} (fetched : resource.Fetched)
    (before after : Blank) {tree : Tree} (shaped : resource.WellShaped tree) :
    ((Format.list resource.page).Unambiguous tree →
      ∃ pages, resource.decode (before.bytes ++ (tree.text ++ after.bytes)) = .ok pages) ∧
    (¬(Format.list resource.page).Unambiguous tree →
      ∃ name, resource.decode (before.bytes ++ (tree.text ++ after.bytes)) =
        .error (.decode resource.path (.misshapen (.duplicateField name)))) ∧
    (resource.path ∉ ["/device", "/services"] → (Format.list resource.page).Unambiguous tree) := by
  obtain ⟨decoded, refused⟩ := decodes_unambiguous fetched.optional before after shaped
  exact ⟨decoded, refused, fun others =>
    (Format.list resource.page).unambiguous_of_unaliased (fetched.unaliased others) shaped.suits⟩

/-! ## A status by two names -/

/-- Glyphs of which none is half of a pair are a text. -/
theorem paired_of_whole {glyphs : List Glyph} (whole : ∀ glyph ∈ glyphs, ¬glyph.IsHalf) :
    Glyph.Paired glyphs := by
  induction glyphs with
  | nil => exact .nil
  | cons glyph glyphs ih =>
      rw [List.forall_mem_cons] at whole
      exact .single whole.1 (ih whole.2)

theorem paired_ofLetters (letters : List Char) (lower : letters.all Char.isLower = true) :
    Glyph.Paired (Glyph.ofLetters letters lower) := by
  refine paired_of_whole fun glyph listed => ?_
  obtain ⟨_, _, rfl⟩ := List.mem_map.mp listed
  exact id

section

variable {condition : ∀ {α : Type}, Members α → Entries → Prop}

/-- An object with one member fits its record if the value fits the member. -/
theorem fits_single {α : Type} {members : Members α} {name : String} {blank : α} {last : Blank}
    {letters : List Char} {lower : letters.all Char.isLower = true} {tree : Tree} {written : String}
    (holds : condition members (.lettered letters lower tree .nil))
    (spelled : Glyph.string (Glyph.ofLetters letters lower) = .ok written)
    (fits : members.FitsAt condition written tree) :
    (Format.record name blank members).Fits condition
      (.object (.lettered letters lower tree .nil) last) := by
  refine ⟨holds, ?_⟩
  rw [Entries.lettered, Entries.pairs, Entries.pairs, List.forall_mem_singleton]
  intro other same
  cases spelled.symm.trans same
  exact fits

/-- The services of a router of which one has this state. -/
def servicesWith (state : Entries) : Tree :=
  .singleton <| .object (.lettered ['s', 'e', 'r', 'v', 'i', 'c', 'e', 's'] rfl
    (.object (.lettered ['d', 'y', 'n', 'd', 'n', 's'] rfl (.object state .none) .nil) .none) .nil)
    .none

/-- A status under its alias. -/
def statusByAlias : Entries :=
  .lettered ['s', 't', 'a', 't', 'e'] rfl (.number seven) .nil

/-- A status under its key and under its alias. -/
def statusTwice : Entries :=
  .lettered ['s', 't', 'a', 't', 'u', 's'] rfl (.number seven) statusByAlias

/-- Whatever a state holds, its object fits. -/
theorem fits_servicesWith {state : Entries}
    (single : ∀ {α : Type} (members : Members α) (letters : List Char)
      (lower : letters.all Char.isLower = true) (tree : Tree),
      condition members (.lettered letters lower tree .nil))
    (holds : ∀ members : Members ServiceState, condition members state) :
    (Format.list services.page).Fits condition (servicesWith state) := by
  have fits : ServiceState.format.Fits condition (.object state .none) := by
    refine ⟨holds _, fun pair _ written _ => ?_⟩
    simp only [Members.field, Members.FitsAt, Format.Fits, ite_self]
  have spelled : Glyph.string (Glyph.ofLetters ['d', 'y', 'n', 'd', 'n', 's'] rfl) =
      .ok "dyndns" := rfl
  exact List.forall_mem_singleton.mpr
    (fits_single (single _ _ _ _) rfl (fits_single (single _ _ _ _) spelled fits))

end

theorem suits_servicesWith {state : Entries} (distinct : state.Distinct) :
    (Format.list services.page).Suits (servicesWith state) :=
  fits_servicesWith (fun _ _ _ _ => List.pairwise_singleton _ _) fun _ => distinct

theorem named_lettered_nodup {α : Type} (members : Members α) (letters : List Char)
    (lower : letters.all Char.isLower = true) (tree : Tree) :
    ((Entries.lettered letters lower tree .nil).named members).Nodup := by
  obtain ⟨written, spelled⟩ := Glyph.exists_string (paired_ofLetters letters lower)
  rw [Entries.lettered, Entries.named_cons spelled]
  cases members.named? written with
  | none => exact List.nodup_nil
  | some name => exact List.nodup_singleton name

/-- A state with both names of the status has the right shape and is refused. -/
theorem services_refuse_both_names :
    services.WellShaped (servicesWith statusTwice) ∧
    (servicesWith statusTwice).text = ("[\x7b\"services\":\x7b\"dyndns\":" ++
      "\x7b\"status\":7,\"state\":7\x7d\x7d\x7d]").toList.map byte ∧
    services.decode (servicesWith statusTwice).text =
      .error (.decode "/services" (.misshapen (.duplicateField "status"))) := by
  have inRange : seven.InRange := Spelling.inRange_of_integer (by decide) rfl rfl
  have distinct : statusTwice.Distinct := by
    refine List.pairwise_pair.mpr fun key first second => ?_
    have status : "status" = key := Except.ok.inj first
    have state : "state" = key := Except.ok.inj second
    exact absurd (status.trans state.symm) (by decide)
  refine ⟨⟨?_, by decide, suits_servicesWith distinct⟩, rfl, ?_⟩
  · exact ⟨⟨paired_ofLetters _ _, ⟨paired_ofLetters _ _, ⟨paired_ofLetters _ _, inRange,
      paired_ofLetters _ _, inRange, trivial⟩, trivial⟩, trivial⟩, trivial⟩
  · rw [decode, Format.decode_tree]
    rfl

/-- A state with the alias of the status alone is decoded. -/
theorem services_decode_alias :
    (servicesWith statusByAlias).text = ("[\x7b\"services\":\x7b\"dyndns\":" ++
      "\x7b\"state\":7\x7d\x7d\x7d]").toList.map byte ∧
    services.WellShaped (servicesWith statusByAlias) ∧
    (Format.list services.page).Unambiguous (servicesWith statusByAlias) ∧
    ∃ pages, services.decode
      (Blank.none.bytes ++ ((servicesWith statusByAlias).text ++ Blank.none.bytes)) =
        .ok pages := by
  have inRange : seven.InRange := Spelling.inRange_of_integer (by decide) rfl rfl
  have shaped : services.WellShaped (servicesWith statusByAlias) :=
    ⟨⟨⟨paired_ofLetters _ _, ⟨paired_ofLetters _ _, ⟨paired_ofLetters _ _, inRange, trivial⟩,
      trivial⟩, trivial⟩, trivial⟩, by decide, suits_servicesWith (List.pairwise_singleton _ _)⟩
  have unambiguous : (Format.list services.page).Unambiguous (servicesWith statusByAlias) :=
    fits_servicesWith named_lettered_nodup fun members => named_lettered_nodup members _ _ _
  exact ⟨rfl, shaped, unambiguous,
    (well_shaped_pages_decode .services .none .none shaped).1 unambiguous⟩

end RouterTelemetry.Resource
