import Mathlib.Logic.Relation
import RouterTelemetry.Proofs.MeasureTolerance
import RouterTelemetry.Proofs.MemberOrder

/-!
# Variants of a document

A document varies when members of an object come in another order, and when members that a record
does not know are put into it or taken out.  Neither makes a difference to what a lawful format
makes of the document, except for the reason if it makes nothing.
-/

namespace RouterTelemetry.Json

/-! ## Places in a tree -/

/-- All items of one row and then those of another. -/
def Items.append : Items → Items → Items
  | .nil, others => others
  | .cons pad blank item more, others => .cons pad blank item (more.append others)

/-- A list that lacks an item. -/
structure Slot where
  front : Items
  pad : Blank
  blank : Blank
  more : Items
  last : Blank

/-- The list with this item in its slot. -/
def Slot.fill (slot : Slot) (tree : Tree) : Tree :=
  .list (slot.front.append (.cons slot.pad slot.blank tree slot.more)) slot.last

/-- How many items are before the slot. -/
def Slot.position (slot : Slot) : Nat :=
  slot.front.trees.length

/-- The object without the gap. -/
def Gap.closed (gap : Gap) : Tree :=
  .object (gap.front.append gap.more) gap.last

/-- Somewhere in the tree the members of an object with different keys come in another order. -/
inductive Tree.Reordered : Tree → Tree → Prop where
  | members {entries entries' : Entries} (last last' : Blank) (distinct : entries.Distinct)
      (shuffled : entries.pairs.Perm entries'.pairs) :
      Reordered (.object entries last) (.object entries' last')
  | item (slot : Slot) {tree tree' : Tree} (inner : Reordered tree tree') :
      Reordered (slot.fill tree) (slot.fill tree')
  | value (gap : Gap) {tree tree' : Tree} (inner : Reordered tree tree') :
      Reordered (gap.fill tree) (gap.fill tree')

/-- A member goes by the name `written`, as its key or as an alias. -/
def Members.Declares {α : Type} (written : String) : Members α → Prop
  | .nil => False
  | .cons _ key aliases _ _ _ _ rest => (key = written ∨ written ∈ aliases) ∨ rest.Declares written

instance Members.decidableDeclares {α : Type} (written : String) :
    (members : Members α) → Decidable (members.Declares written)
  | .nil => inferInstanceAs (Decidable False)
  | .cons _ _ _ _ _ _ _ rest =>
      have := rest.decidableDeclares written
      inferInstanceAs (Decidable ((_ ∨ _) ∨ rest.Declares written))

/-- The first member that goes by the name `written` has this format. -/
inductive Members.Gives (written : String) : {α β : Type} → Members α → Format β → Prop where
  | here {α β : Type} {label key : String} {aliases : List String} {required : Bool}
      {format : Format β} {get : α → β} {set : β → α → α} {rest : Members α}
      (named : key = written ∨ written ∈ aliases) :
      Gives written (.cons label key aliases required format get set rest) format
  | later {α β γ : Type} {label key : String} {aliases : List String} {required : Bool}
      {format : Format β} {get : α → β} {set : β → α → α} {rest : Members α} {given : Format γ}
      (unnamed : ¬(key = written ∨ written ∈ aliases)) (gives : rest.Gives written given) :
      Gives written (.cons label key aliases required format get set rest) given

/-- The member at this position has this format. -/
inductive Members.Places : {α β : Type} → Members α → Nat → Format β → Prop where
  | here {α β : Type} {label key : String} {aliases : List String} {required : Bool}
      {format : Format β} {get : α → β} {set : β → α → α} {rest : Members α} :
      Places (.cons label key aliases required format get set rest) 0 format
  | later {α β γ : Type} {label key : String} {aliases : List String} {required : Bool}
      {format : Format β} {get : α → β} {set : β → α → α} {rest : Members α} {given : Format γ}
      {position : Nat} (places : rest.Places position given) :
      Places (.cons label key aliases required format get set rest) (position + 1) given

/-- Somewhere in the tree an object that is read as a record gets a member that the record does
not know. -/
inductive Format.Extends : {α : Type} → Format α → Tree → Tree → Prop where
  | unknown {α : Type} {name : String} {blank : α} {members : Members α} (gap : Gap) (tree : Tree)
      {written : String} (spelled : Glyph.string gap.key = .ok written)
      (undeclared : ¬members.Declares written) :
      Extends (.record name blank members) gap.closed (gap.fill tree)
  | item {α : Type} {item : Format α} (slot : Slot) {tree tree' : Tree}
      (inner : item.Extends tree tree') : Extends (.list item) (slot.fill tree) (slot.fill tree')
  | value {α β : Type} {name : String} {blank : α} {members : Members α} {format : Format β}
      (gap : Gap) {written : String} (spelled : Glyph.string gap.key = .ok written)
      (gives : members.Gives written format) {tree tree' : Tree}
      (inner : format.Extends tree tree') :
      Extends (.record name blank members) (gap.fill tree) (gap.fill tree')
  | place {α β : Type} {name : String} {blank : α} {members : Members α} {format : Format β}
      (slot : Slot) (places : members.Places slot.position format) {tree tree' : Tree}
      (inner : format.Extends tree tree') :
      Extends (.record name blank members) (slot.fill tree) (slot.fill tree')

/-- One document is got from the other by another order of members or by an unknown member; the
blanks around the documents may be any. -/
inductive Format.Step {α : Type} (format : Format α) : Input → Input → Prop where
  | reordered {tree tree' : Tree} (before after before' after' : Blank)
      (reordered : tree.Reordered tree') :
      Step format (before.bytes ++ (tree.text ++ after.bytes))
        (before'.bytes ++ (tree'.text ++ after'.bytes))
  | extended {tree tree' : Tree} (before after before' after' : Blank)
      (extended : format.Extends tree tree') :
      Step format (before.bytes ++ (tree.text ++ after.bytes))
        (before'.bytes ++ (tree'.text ++ after'.bytes))

/-- One document is got from the other by any number of such steps, in either direction. -/
def Format.Variants {α : Type} (format : Format α) : Input → Input → Prop :=
  Relation.EqvGen format.Step

/-! ## What a format makes of variants -/

/-- With any bound on open brackets the format makes the same of both trees, or nothing. -/
def Format.Agrees {α : Type} (format : Format α) (tree tree' : Tree) : Prop :=
  ∀ depth, Concur Eq (format.ofTree depth tree) (format.ofTree depth tree')

section

variable {α β : Type} {depth : Nat} {tree tree' : Tree} {members : Members α} {format : Format β}

/-- A value in the gap of a member agrees with another one. -/
def Members.AgreesAt (members : Members α) (written : String) (tree tree' : Tree) : Prop :=
  ∀ depth filling, Concur Eq (members.ofMember depth written tree filling)
    (members.ofMember depth written tree' filling)

/-- A value in the place of a member agrees with another one. -/
def Members.AgreesInPlace : Members α → (position : Nat) → Tree → Tree → Prop
  | .nil, _, _, _ => True
  | .cons _ _ _ _ format _ _ _, 0, tree, tree' => format.Agrees tree tree'
  | .cons _ _ _ _ _ _ _ rest, position + 1, tree, tree' =>
      rest.AgreesInPlace position tree tree'

theorem Items.collect_concur {result : Tree → Except Fault α} (front : Items) (pad blank : Blank)
    (more : Items) (concur : Concur Eq (result tree) (result tree')) :
    Concur Eq ((front.append (.cons pad blank tree more)).collect result)
      ((front.append (.cons pad blank tree' more)).collect result) := by
  cases front with
  | nil =>
      refine concur.bind fun value _ same => ?_
      exact same ▸ .of_eq rfl
  | cons _ _ item front =>
      refine (Concur.of_eq rfl).bind fun value _ same => ?_
      refine (front.collect_concur pad blank more concur).bind fun values _ same' => ?_
      exact same ▸ same' ▸ .of_eq rfl

theorem Entries.fold_concur {σ : Type} {result : String → Tree → σ → Except Fault σ}
    (front : Entries) (pad blank : Blank) (key : List Glyph) (afterKey beforeValue : Blank)
    (more : Entries) (state : σ)
    (concur : ∀ written state, Glyph.string key = .ok written →
      Concur Eq (result written tree state) (result written tree' state)) :
    Concur Eq
      ((front.append (.cons pad blank key afterKey beforeValue tree more)).fold result state)
      ((front.append (.cons pad blank key afterKey beforeValue tree' more)).fold result state) := by
  rw [Entries.fold_append, Entries.fold_append]
  refine (Concur.of_eq rfl).bind fun state' _ same => ?_
  subst same
  rw [Entries.fold, Entries.fold]
  cases spelled : Glyph.string key with
  | error fault => exact .error fault fault
  | ok written =>
      refine (concur written state' spelled).bind fun next _ same => ?_
      exact same ▸ .of_eq rfl

theorem Members.ofItems_concur (members : Members α) {name : String} {size position : Nat}
    {record : α} (front : Items) (pad blank : Blank) (more : Items)
    (agrees : members.AgreesInPlace front.trees.length tree tree') :
    Concur Eq
      (members.ofItems depth name size position record (front.append (.cons pad blank tree more)))
      (members.ofItems depth name size position record
        (front.append (.cons pad blank tree' more))) := by
  match members, front with
  | .nil, .nil => exact .error _ _
  | .nil, .cons _ _ _ _ => exact .error _ _
  | .cons _ _ _ _ format _ set rest, .nil =>
      refine (agrees depth).bind fun value _ same => ?_
      exact same ▸ .of_eq rfl
  | .cons _ _ _ _ format _ set rest, .cons _ _ item front =>
      refine (Concur.of_eq rfl).bind fun value _ same => ?_
      exact same ▸ rest.ofItems_concur front pad blank more agrees

/-! ### Values in places -/

theorem Format.agrees_item (slot : Slot) (agrees : format.Agrees tree tree') :
    (Format.list format).Agrees (slot.fill tree) (slot.fill tree') := by
  intro depth
  match depth with
  | 0 => exact .error _ _
  | depth + 1 => exact Items.collect_concur slot.front slot.pad slot.blank slot.more (agrees depth)

theorem Format.agrees_value (name : String) (blank : α) (gap : Gap)
    (agrees : ∀ written, Glyph.string gap.key = .ok written →
      members.AgreesAt written tree tree') :
    (Format.record name blank members).Agrees (gap.fill tree) (gap.fill tree') := by
  intro depth
  match depth with
  | 0 => exact .error _ _
  | depth + 1 =>
      refine Concur.bind (R := Eq) ?_ ?_
      · exact Entries.fold_concur _ _ _ _ _ _ _ _ fun written state spelled =>
          agrees written spelled depth state
      · exact fun _ _ same => same ▸ .of_eq rfl

theorem Format.agrees_place (name : String) (blank : α) (slot : Slot)
    (agrees : members.AgreesInPlace slot.position tree tree') :
    (Format.record name blank members).Agrees (slot.fill tree) (slot.fill tree') := by
  intro depth
  match depth with
  | 0 => exact .error _ _
  | depth + 1 => exact members.ofItems_concur slot.front slot.pad slot.blank slot.more agrees

/-! ### Another order -/

theorem Entries.members_concur {entries entries' : Entries} (distinct : entries.Distinct)
    (shuffled : entries.pairs.Perm entries'.pairs) :
    Concur Eq (entries.members depth []) (entries'.members depth []) := by
  rw [entries.members_eq, entries'.members_eq]
  exact (addMember_commuting depth).fold_shuffled distinct shuffled

theorem Format.agrees_shuffled (format : Format α) (lawful : format.Lawful)
    {entries entries' : Entries} (distinct : entries.Distinct)
    (shuffled : entries.pairs.Perm entries'.pairs) (last last' : Blank) :
    format.Agrees (.object entries last) (.object entries' last') := by
  intro depth
  match format, depth with
  | .measure, 0 | .any, 0 | .record .., 0 => exact .error _ _
  | .text, _ | .list _, _ => exact .error _ _
  | .measure, depth + 1 => exact (entries.members_concur distinct shuffled).map.map
  | .any, depth + 1 => exact (entries.members_concur distinct shuffled).map
  | .record name blank members, depth + 1 =>
      refine (Members.commuting lawful.1 depth).fold_shuffled distinct shuffled |>.bind ?_
      intro filling filling' same
      rw [same.absent?_eq, same.record_eq]
      exact .of_eq rfl

/-- A value in a list or an object agrees with another one as a whole. -/
theorem Items.values_concur (front : Items) (pad blank : Blank) (more : Items)
    (agrees : Format.any.Agrees tree tree') :
    Concur Eq ((front.append (.cons pad blank tree more)).values depth)
      ((front.append (.cons pad blank tree' more)).values depth) := by
  rw [Items.values_eq, Items.values_eq]
  exact front.collect_concur pad blank more (agrees depth)

theorem Format.any_agrees_item (slot : Slot) (agrees : Format.any.Agrees tree tree') :
    Format.any.Agrees (slot.fill tree) (slot.fill tree') := by
  intro depth
  match depth with
  | 0 => exact .error _ _
  | depth + 1 => exact (slot.front.values_concur slot.pad slot.blank slot.more agrees).map

theorem Format.any_agrees_value (gap : Gap) (agrees : Format.any.Agrees tree tree') :
    Format.any.Agrees (gap.fill tree) (gap.fill tree') := by
  intro depth
  match depth with
  | 0 => exact .error _ _
  | depth + 1 =>
      refine Concur.map ?_
      rw [Entries.members_eq, Entries.members_eq]
      refine Entries.fold_concur _ _ _ _ _ _ _ _ fun written state _ => ?_
      exact (agrees depth).map

theorem Format.measure_agrees (agrees : Format.any.Agrees tree tree') :
    Format.measure.Agrees tree tree' :=
  fun depth => (agrees depth).map

theorem Members.agreesAt_of_all {members : Members α} (lawful : members.AllLawful)
    (agrees : ∀ {β : Type} (format : Format β), format.Lawful → format.Agrees tree tree')
    (written : String) : members.AgreesAt written tree tree' := by
  intro depth filling
  match members with
  | .nil => exact .of_eq rfl
  | .cons _ name aliases _ format _ set rest =>
      by_cases named : name = written ∨ written ∈ aliases
      · rw [ofMember_of_named named, ofMember_of_named named, Filling.take, Filling.take]
        split_ifs
        · exact .error _ _
        · exact (agrees format lawful.1 depth).map
      · rw [ofMember_of_unnamed named, ofMember_of_unnamed named]
        exact agreesAt_of_all lawful.2 agrees written depth filling

theorem Members.agreesInPlace_of_all {members : Members α} (lawful : members.AllLawful)
    (agrees : ∀ {β : Type} (format : Format β), format.Lawful → format.Agrees tree tree')
    (position : Nat) : members.AgreesInPlace position tree tree' := by
  match members, position with
  | .nil, _ => trivial
  | .cons _ _ _ _ format _ _ _, 0 => exact agrees format lawful.1
  | .cons _ _ _ _ _ _ _ rest, position + 1 =>
      exact agreesInPlace_of_all lawful.2 agrees position

/-- Lawful formats do not depend on the order of members. -/
theorem Tree.Reordered.agrees (reordered : tree.Reordered tree') :
    ∀ {α : Type} (format : Format α), format.Lawful → format.Agrees tree tree' := by
  induction reordered with
  | members last last' distinct shuffled =>
      intro α format lawful
      exact format.agrees_shuffled lawful distinct shuffled last last'
  | item slot inner ih =>
      intro α format lawful
      match format with
      | .any => exact Format.any_agrees_item slot (ih .any trivial)
      | .measure => exact Format.measure_agrees (Format.any_agrees_item slot (ih .any trivial))
      | .text => exact fun _ => .error _ _
      | .list element => exact Format.agrees_item slot (ih element lawful)
      | .record name blank _ =>
          exact Format.agrees_place name blank slot (Members.agreesInPlace_of_all lawful.2 ih _)
  | value gap inner ih =>
      intro α format lawful
      match format with
      | .any => exact Format.any_agrees_value gap (ih .any trivial)
      | .measure => exact Format.measure_agrees (Format.any_agrees_value gap (ih .any trivial))
      | .text | .list _ => exact fun _ => .error _ _
      | .record name blank _ =>
          exact Format.agrees_value name blank gap fun written _ =>
            Members.agreesAt_of_all lawful.2 ih written

/-! ### Unknown members -/

theorem Members.ofMember_of_not_declares {members : Members α} {written : String}
    (undeclared : ¬members.Declares written) (filling : Filling α) :
    members.ofMember depth written tree filling = .ok filling := by
  match members with
  | .nil => rfl
  | .cons _ _ _ _ _ _ _ rest =>
      obtain ⟨unnamed, undeclared⟩ := not_or.mp undeclared
      rw [ofMember_of_unnamed unnamed]
      exact ofMember_of_not_declares undeclared filling

/-- An unknown member is passed over. -/
theorem Format.ofTree_fill_unknown {name : String} {blank : α} {gap : Gap} {written : String}
    (spelled : Glyph.string gap.key = .ok written) (undeclared : ¬members.Declares written)
    (depth : Nat) :
    (Format.record name blank members).ofTree depth (gap.fill tree) =
      (Format.record name blank members).ofTree depth gap.closed := by
  match depth with
  | 0 => rfl
  | depth + 1 =>
      rw [ofTree_fill spelled, Gap.closed, Format.ofTree, Entries.fold_append]
      cases gap.front.fold (members.ofMember depth) ⟨blank, []⟩ with
      | error fault => rfl
      | ok before =>
          simp only [bind, Except.bind, Members.ofMember_of_not_declares undeclared]
          rfl

theorem Members.Gives.agreesAt {written : String} (gives : members.Gives written format)
    (agrees : format.Agrees tree tree') : members.AgreesAt written tree tree' := by
  induction gives with
  | here named =>
      intro depth filling
      rw [ofMember_of_named named, ofMember_of_named named, Filling.take, Filling.take]
      split_ifs
      · exact .error _ _
      · exact (agrees depth).map
  | later unnamed _ ih =>
      intro depth filling
      rw [ofMember_of_unnamed unnamed, ofMember_of_unnamed unnamed]
      exact ih agrees depth filling

theorem Members.Places.agreesInPlace {position : Nat} (places : members.Places position format)
    (agrees : format.Agrees tree tree') : members.AgreesInPlace position tree tree' := by
  induction places with
  | here => exact agrees
  | later _ ih => exact ih agrees

/-- A format does not depend on members that its records do not know. -/
theorem Format.Extends.agrees (extended : format.Extends tree tree') :
    format.Agrees tree tree' := by
  induction extended with
  | unknown gap tree spelled undeclared =>
      exact fun depth => .of_eq (Format.ofTree_fill_unknown spelled undeclared depth).symm
  | item slot _ ih => exact Format.agrees_item slot ih
  | value gap spelled gives _ ih =>
      refine Format.agrees_value _ _ gap fun written spelled' => ?_
      cases spelled.symm.trans spelled'
      exact gives.agreesAt ih
  | place slot places _ ih => exact Format.agrees_place _ _ slot (places.agreesInPlace ih)

/-! ### Documents -/

/-- What a lawful format makes of a document does not change with a variant of it. -/
theorem Format.Variants.decode_eq (lawful : format.Lawful) {document document' : Input}
    (variants : format.Variants document document') :
    (format.decode document).toOption = (format.decode document').toOption := by
  induction variants with
  | rel _ _ step =>
      cases step with
      | reordered before after before' after' reordered =>
          rw [Format.decode_text, Format.decode_text]
          exact (reordered.agrees format lawful depthLimit).toOption_eq
      | extended before after before' after' extended =>
          rw [Format.decode_text, Format.decode_text]
          exact (extended.agrees depthLimit).toOption_eq
  | refl _ => rfl
  | symm _ _ _ ih => exact ih.symm
  | trans _ _ _ _ _ ih ih' => exact ih.trans ih'

end

/-! ## Small trees -/

/-- A list of one item. -/
def Tree.singleton (tree : Tree) : Tree :=
  .list (.cons .none .none tree .nil) .none

/-- A member whose key is of lower case letters, before others. -/
def Entries.lettered (letters : List Char) (lower : letters.all Char.isLower = true) (tree : Tree)
    (more : Entries) : Entries :=
  .cons .none .none (Glyph.ofLetters letters lower) .none .none tree more

end RouterTelemetry.Json

namespace RouterTelemetry.Resource

open Json Payload

/-! ## Pages of the router -/

/-- What an answer is decoded to, if anything, does not change with a variant of the answer. -/
def IgnoresVariants {α : Type} (resource : Resource α) : Prop :=
  ∀ body body', (Format.list resource.page).Variants body body' →
    (resource.decode body).toOption = (resource.decode body').toOption

theorem toOption_decode {α : Type} (resource : Resource α) (body : Input) :
    (resource.decode body).toOption = ((Format.list resource.page).decode body).toOption := by
  rw [Resource.decode]
  cases (Format.list resource.page).decode body <;> rfl

theorem ignoresVariants_of_lawful {α : Type} {resource : Resource α}
    (lawful : resource.page.Lawful) : resource.IgnoresVariants := by
  intro body body' variants
  have lawfulList : (Format.list resource.page).Lawful := lawful
  rw [toOption_decode, toOption_decode]
  exact variants.decode_eq lawfulList

/-- The answers of all resources may vary: with the members of objects in another order, and with
members that their records do not know. -/
theorem all_ignore_variants :
    device.IgnoresVariants ∧ processor.IgnoresVariants ∧ memory.IgnoresVariants ∧
      services.IgnoresVariants ∧ wan.IgnoresVariants ∧ wanTraffic.IgnoresVariants ∧
      fibre.IgnoresVariants ∧ diagnostics.IgnoresVariants ∧ lan.IgnoresVariants ∧
      lanTraffic.IgnoresVariants ∧ hosts.IgnoresVariants ∧
      (∀ band, (radio band).IgnoresVariants) ∧ resolver.IgnoresVariants ∧
      television.IgnoresVariants := by
  obtain ⟨device, processor, memory, services, wan, wanTraffic, fibre, diagnostics, lan,
    lanTraffic, hosts, radio, resolver, television⟩ := lawful_pages
  exact ⟨ignoresVariants_of_lawful device, ignoresVariants_of_lawful processor,
    ignoresVariants_of_lawful memory, ignoresVariants_of_lawful services,
    ignoresVariants_of_lawful wan, ignoresVariants_of_lawful wanTraffic,
    ignoresVariants_of_lawful fibre, ignoresVariants_of_lawful diagnostics,
    ignoresVariants_of_lawful lan, ignoresVariants_of_lawful lanTraffic,
    ignoresVariants_of_lawful hosts, fun band => ignoresVariants_of_lawful (radio band),
    ignoresVariants_of_lawful resolver, ignoresVariants_of_lawful television⟩

/-- Two times of the resolver in the other order, beside a member that its page does not know. -/
theorem resolver_ignores_variant :
    let body := "[\x7b\"dns\":\x7b\"min\":7,\"max\":[7]\x7d\x7d]".toList.map byte
    let body' :=
      "[\x7b\"now\":null,\"dns\":\x7b\"max\":[7],\"min\":7\x7d\x7d]".toList.map byte
    (Format.list resolver.page).Variants body body' ∧
      (resolver.decode body).toOption = (resolver.decode body').toOption := by
  intro body body'
  have variants : (Format.list resolver.page).Variants body body' := by
    let times := Entries.lettered ['m', 'i', 'n'] rfl (.number seven)
      (Entries.lettered ['m', 'a', 'x'] rfl listOfSeven .nil)
    let shuffled := Entries.lettered ['m', 'a', 'x'] rfl listOfSeven
      (Entries.lettered ['m', 'i', 'n'] rfl (.number seven) .nil)
    let page : Gap := ⟨.nil, .none, .none, Glyph.ofLetters ['d', 'n', 's'] rfl, .none, .none, .nil,
      .none⟩
    let slot : Slot := ⟨.nil, .none, .none, .nil, .none⟩
    let unknown : Gap := ⟨.nil, .none, .none, Glyph.ofLetters ['n', 'o', 'w'] rfl, .none, .none,
      Entries.lettered ['d', 'n', 's'] rfl (.object shuffled .none) .nil, .none⟩
    have distinct : times.Distinct := by
      refine List.pairwise_pair.mpr fun key first second => ?_
      have min : "min" = key := Except.ok.inj first
      have max : "max" = key := Except.ok.inj second
      exact absurd (min.trans max.symm) (by decide)
    have reordered : (slot.fill (page.fill (.object times .none))).Reordered
        (slot.fill (page.fill (.object shuffled .none))) :=
      .item slot (.value page (.members .none .none distinct (.swap _ _ _)))
    have extended : (Format.list resolver.page).Extends
        (slot.fill (page.fill (.object shuffled .none))) (slot.fill (unknown.fill .null)) :=
      .item slot (.unknown unknown .null rfl (by decide))
    exact .trans _ _ _ (.rel _ _ (.reordered .none .none .none .none reordered))
      (.rel _ _ (.extended .none .none .none .none extended))
  exact ⟨variants, all_ignore_variants.2.2.2.2.2.2.2.2.2.2.2.2.1 body body' variants⟩

/-- An object that lacks its only member, with half a pair of surrogates for a key. -/
def halfKeyed : Gap :=
  ⟨.nil, .none, .none, [.coded half], .none, .none, .nil, .none⟩

/-- A key that is no text is of no member, and yet its object is refused. -/
theorem resolver_refuses_half_key :
    (∀ written, Glyph.string halfKeyed.key ≠ .ok written) ∧
    (Tree.singleton halfKeyed.closed).text = "[\x7b\x7d]".toList.map byte ∧
    (Tree.singleton (halfKeyed.fill .null)).text =
      "[\x7b\"\\ud800\":null\x7d]".toList.map byte ∧
    (resolver.decode (Tree.singleton halfKeyed.closed).text).toOption = some [{}] ∧
    (resolver.decode (Tree.singleton (halfKeyed.fill .null)).text).toOption = none := by
  refine ⟨nofun, rfl, rfl, ?_, ?_⟩
  · rw [toOption_decode, Format.decode_tree]
    rfl
  · rw [toOption_decode, Format.decode_tree]
    rfl

end RouterTelemetry.Resource
