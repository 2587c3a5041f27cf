import Mathlib.Data.List.Pairwise
import Mathlib.Data.String.Basic
import RouterTelemetry.Proofs.RecordMembers

/-!
# The order of members

The members of an object with different keys may come in any order: a format makes the same of
the object, or nothing.  Only the reason why it makes nothing depends on the order, as the first
problem met is the reason.
-/

namespace RouterTelemetry.Json

/-! ## Results up to the reason of a failure -/

/-- Both fail, or both have results that are related. -/
inductive Concur {ε α : Type} (R : α → α → Prop) : Except ε α → Except ε α → Prop where
  | ok {value other : α} (related : R value other) : Concur R (.ok value) (.ok other)
  | error (fault fault' : ε) : Concur R (.error fault) (.error fault')

namespace Concur

variable {ε α β : Type} {R : α → α → Prop} {S : β → β → Prop} {first second third : Except ε α}

theorem refl (reflexive : ∀ value, R value value) (result : Except ε α) :
    Concur R result result := by
  cases result with
  | error fault => exact .error fault fault
  | ok value => exact .ok (reflexive value)

theorem of_eq (same : first = second) : Concur Eq first second :=
  same ▸ refl (fun _ => rfl) first

theorem symm (symmetric : ∀ {value other}, R value other → R other value)
    (concur : Concur R first second) : Concur R second first := by
  cases concur with
  | ok related => exact .ok (symmetric related)
  | error fault fault' => exact .error fault' fault

theorem trans (transitive : ∀ {value other last}, R value other → R other last → R value last)
    (concur : Concur R first second) (next : Concur R second third) : Concur R first third := by
  cases concur with
  | ok related =>
      cases next with
      | ok related' => exact .ok (transitive related related')
  | error fault _ =>
      cases next with
      | error _ fault' => exact .error fault fault'

theorem bind {next next' : α → Except ε β} (concur : Concur R first second)
    (rest : ∀ value other, R value other → Concur S (next value) (next' other)) :
    Concur S (first >>= next) (second >>= next') := by
  cases concur with
  | ok related => exact rest _ _ related
  | error fault fault' => exact .error fault fault'

/-- What fails after everything fails as a whole. -/
theorem bind_error {next : α → Except ε β} (fails : ∀ value, ∃ fault, next value = .error fault)
    (fault : ε) : Concur S (first >>= next) (.error fault) := by
  cases first with
  | error fault' => exact .error fault' fault
  | ok value =>
      obtain ⟨fault', failed⟩ := fails value
      change Concur S (next value) _
      rw [failed]
      exact .error fault' fault

theorem map {f : α → β} (concur : Concur Eq first second) :
    Concur Eq (first.map f) (second.map f) := by
  cases concur with
  | ok related => exact .ok (congrArg f related)
  | error fault fault' => exact .error fault fault'

theorem toOption_eq (concur : Concur Eq first second) : first.toOption = second.toOption := by
  cases concur with
  | ok related => exact congrArg some related
  | error _ _ => rfl

end Concur

/-! ## Steps in any order -/

section

variable {ε σ ι : Type} {R : σ → σ → Prop} {step : ι → σ → Except ε σ}

/-- Two steps in either order concur. -/
def Commute (R : σ → σ → Prop) (step : ι → σ → Except ε σ) (first second : ι) : Prop :=
  ∀ state, Concur R (step first state >>= step second) (step second state >>= step first)

/-- Steps that commute with one another may be taken in any order. -/
theorem concur_foldlM_of_perm (equivalence : Equivalence R)
    (respects : ∀ item state state', R state state' →
      Concur R (step item state) (step item state'))
    {items items' : List ι} (perm : items.Perm items') (commute : items.Pairwise (Commute R step))
    {state state' : σ} (related : R state state') :
    Concur R (items.foldlM (fun state item => step item state) state)
      (items'.foldlM (fun state item => step item state) state') := by
  induction perm generalizing state state' with
  | nil => exact .ok related
  | cons item perm ih =>
      rw [List.foldlM_cons, List.foldlM_cons]
      exact (respects item _ _ related).bind fun _ _ related =>
        ih (List.pairwise_cons.mp commute).2 related
  | swap item item' items =>
      have swapped : Commute R step item' item :=
        (List.pairwise_cons.mp commute).1 item List.mem_cons_self
      have both : Concur R (step item' state >>= step item) (step item state' >>= step item') := by
        refine (swapped state).trans equivalence.trans ?_
        exact (respects item _ _ related).bind fun _ _ related => respects item' _ _ related
      simp only [List.foldlM_cons, ← bind_assoc]
      -- What is left of the list is the same on both sides.
      have rest : ∀ state state', R state state' →
          Concur R (items.foldlM (fun state item => step item state) state)
            (items.foldlM (fun state item => step item state) state') := by
        induction items with
        | nil => exact fun _ _ related => .ok related
        | cons next items ih =>
            intro state state' related
            rw [List.foldlM_cons, List.foldlM_cons]
            refine (respects next _ _ related).bind (ih ?_)
            simp only [List.pairwise_cons, List.forall_mem_cons] at commute ⊢
            exact ⟨⟨commute.1.1, commute.1.2.2⟩, commute.2.1.2, commute.2.2.2⟩
      exact both.bind rest
  | trans perm _ ih ih' =>
      have symmetric : ∀ {first second},
          Commute R step first second → Commute R step second first :=
        fun swapped state => (swapped state).symm equivalence.symm
      have first := ih commute (equivalence.refl state)
      exact first.trans equivalence.trans
        (ih' ((perm.pairwise_iff symmetric).mp commute) related)

end

/-! ## Members of an object -/

/-- The members without their blanks. -/
def Entries.pairs : Entries → List (List Glyph × Tree)
  | .nil => []
  | .cons _ _ key _ _ value more => (key, value) :: more.pairs

/-- No two keys are the same text. -/
def Entries.Distinct (entries : Entries) : Prop :=
  entries.pairs.Pairwise fun first second =>
    ∀ key, Glyph.string first.1 = .ok key → Glyph.string second.1 ≠ .ok key

section

variable {σ : Type} {R : σ → σ → Prop} {result : String → Tree → σ → Except Fault σ}

/-- What a member makes of a state. -/
def pairStep (result : String → Tree → σ → Except Fault σ) (pair : List Glyph × Tree) (state : σ) :
    Except Fault σ := do
  let key ← Glyph.string pair.1
  result key pair.2 state

theorem Entries.fold_eq_foldlM (entries : Entries) (state : σ) :
    entries.fold result state =
      entries.pairs.foldlM (fun state pair => pairStep result pair state) state := by
  cases entries with
  | nil => rfl
  | cons _ _ key _ _ tree more =>
      rw [Entries.fold, Entries.pairs, List.foldlM_cons, pairStep, bind_assoc]
      refine congrArg (Glyph.string key >>= ·) (funext fun key => ?_)
      exact congrArg (result key tree state >>= ·) (funext fun next => more.fold_eq_foldlM next)

/-- Members of different keys have results that do not depend on their order. -/
structure Commuting (R : σ → σ → Prop) (result : String → Tree → σ → Except Fault σ) : Prop where
  equivalence : Equivalence R
  respects : ∀ (key : String) (tree : Tree) (state state' : σ), R state state' →
    Concur R (result key tree state) (result key tree state')
  commute : ∀ {key key' : String} (tree tree' : Tree) (state : σ), key ≠ key' →
    Concur R (result key tree state >>= result key' tree')
      (result key' tree' state >>= result key tree)

theorem pairStep_of_ok {written : List Glyph} {key : String}
    (spelled : Glyph.string written = .ok key)
    (tree : Tree) : pairStep result (written, tree) = result key tree := by
  funext state
  rw [pairStep, spelled]
  rfl

theorem pairStep_of_error {written : List Glyph} {fault : Fault}
    (spelled : Glyph.string written = .error fault) (tree : Tree) :
    pairStep result (written, tree) = fun _ => .error fault := by
  funext state
  rw [pairStep, spelled]
  rfl

theorem Commuting.pairStep (commuting : Commuting R result) {first second : List Glyph × Tree}
    (distinct : ∀ key, Glyph.string first.1 = .ok key → Glyph.string second.1 ≠ .ok key) :
    Commute R (pairStep result) first second := by
  intro state
  obtain ⟨written, tree⟩ := first
  obtain ⟨written', tree'⟩ := second
  cases spelled : Glyph.string written with
  | error fault =>
      rw [pairStep_of_error spelled]
      exact Concur.symm commuting.equivalence.symm (.bind_error (fun _ => ⟨fault, rfl⟩) fault)
  | ok key =>
      cases spelled' : Glyph.string written' with
      | error fault =>
          rw [pairStep_of_error spelled']
          exact .bind_error (fun _ => ⟨fault, rfl⟩) fault
      | ok key' =>
          rw [pairStep_of_ok spelled, pairStep_of_ok spelled']
          refine commuting.commute tree tree' state fun same => ?_
          exact distinct key spelled (same ▸ spelled')

/-- Shuffled members concur. -/
theorem Commuting.fold_shuffled (commuting : Commuting R result) {entries entries' : Entries}
    (distinct : entries.Distinct) (shuffled : entries.pairs.Perm entries'.pairs) {state : σ} :
    Concur R (entries.fold result state) (entries'.fold result state) := by
  rw [entries.fold_eq_foldlM, entries'.fold_eq_foldlM]
  refine concur_foldlM_of_perm commuting.equivalence ?_ shuffled
    (distinct.imp fun apart => commuting.pairStep apart) (commuting.equivalence.refl state)
  intro pair state state' related
  exact (Concur.of_eq rfl).bind fun key _ same => same ▸ commuting.respects key pair.2 _ _ related

end

/-! ## Members of any object -/

section

variable {key key' other : String} {value value' old : Value} {members : List (String × Value)}

theorem putMember_of_lt (before : key < other) :
    putMember key value ((other, old) :: members) = (key, value) :: (other, old) :: members := by
  rw [putMember, if_pos before]

theorem putMember_self :
    putMember key value ((key, old) :: members) = (key, value) :: members := by
  rw [putMember, if_neg (lt_irrefl key), if_pos rfl]

theorem putMember_of_gt (behind : other < key) :
    putMember key value ((other, old) :: members) =
      (other, old) :: putMember key value members := by
  rw [putMember, if_neg behind.not_gt, if_neg behind.ne']

/-- Two members are put before a third one in the order of their keys. -/
theorem putMember_comm_of_lt (less : key < key') :
    putMember key value (putMember key' value' members) =
      putMember key' value' (putMember key value members) := by
  induction members with
  | nil =>
      rw [putMember, putMember_of_lt less, putMember, putMember_of_gt less, putMember]
  | cons member members ih =>
      obtain ⟨other, old⟩ := member
      rcases lt_trichotomy key other with before | rfl | behind
      · rw [putMember_of_lt before, putMember_of_gt less]
        rcases lt_trichotomy key' other with before' | rfl | behind'
        · rw [putMember_of_lt before', putMember_of_lt less]
        · rw [putMember_self, putMember_of_lt less]
        · rw [putMember_of_gt behind', putMember_of_lt before]
      · rw [putMember_of_gt less, putMember_self, putMember_self, putMember_of_gt less]
      · have behind' := behind.trans less
        rw [putMember_of_gt behind', putMember_of_gt behind, putMember_of_gt behind,
          putMember_of_gt behind', ih]

/-- Members of different keys are kept in the order of their keys, however they came. -/
theorem putMember_comm (apart : key ≠ key') :
    putMember key value (putMember key' value' members) =
      putMember key' value' (putMember key value members) := by
  rcases lt_or_gt_of_ne apart with less | less
  · exact putMember_comm_of_lt less
  · exact (putMember_comm_of_lt less).symm

end

theorem addMember_commuting (depth : Nat) : Commuting Eq (addMember depth) where
  equivalence := eq_equivalence
  respects key tree _ _ same := .of_eq (same ▸ rfl)
  commute tree tree' state apart := by
    unfold addMember
    cases tree.value depth with
    | error fault =>
        exact Concur.symm Eq.symm (.bind_error (fun _ => ⟨fault, rfl⟩) fault)
    | ok value =>
        cases tree'.value depth with
        | error fault => exact .error fault fault
        | ok value' => exact .ok (putMember_comm apart.symm)

/-! ## Members of a record -/

/-- The same record, and the same keys met. -/
structure Filling.Same {α : Type} (filling other : Filling α) : Prop where
  record_eq : filling.record = other.record
  seen : filling.seen.Perm other.seen

theorem Filling.same_equivalence {α : Type} : Equivalence (Filling.Same (α := α)) where
  refl _ := ⟨rfl, .refl _⟩
  symm same := ⟨same.record_eq.symm, same.seen.symm⟩
  trans same next := ⟨same.record_eq.trans next.record_eq, same.seen.trans next.seen⟩

section

variable {α β : Type} {depth : Nat} {key key' name : String} {tree tree' : Tree}
  {filling filling' filled : Filling α}

/-- Sets a member and notes its key. -/
def Filling.fill (set : β → α → α) (name : String) (filling : Filling α) (value : β) : Filling α :=
  ⟨set value filling.record, name :: filling.seen⟩

theorem Filling.Same.fill (same : filling.Same filling') (set : β → α → α) (name : String)
    (value : β) : (filling.fill set name value).Same (filling'.fill set name value) :=
  ⟨congrArg (set value) same.record_eq, same.seen.cons name⟩

theorem Filling.Same.contains_eq (same : filling.Same filling') (name : String) :
    filling.seen.contains name = filling'.seen.contains name := by
  rw [Bool.eq_iff_iff, List.contains_iff_mem, List.contains_iff_mem]
  exact same.seen.mem_iff

/-- Fills a member with what was read, unless its key has been met. -/
def Filling.take (set : β → α → α) (name : String) (read : Except Fault β) (filling : Filling α) :
    Except Fault (Filling α) :=
  if filling.seen.contains name then .error (.misshapen (.duplicateField name))
  else read.map (filling.fill set name)

theorem Members.ofMember_of_named {label : String} {aliases : List String} {required : Bool}
    {format : Format β} {get : α → β} {set : β → α → α} {rest : Members α}
    (named : name = key ∨ key ∈ aliases) :
    (Members.cons label name aliases required format get set rest).ofMember depth key tree =
      Filling.take set name (format.ofTree depth tree) := by
  funext filling
  rw [Members.ofMember, if_pos named]
  rfl

theorem Members.ofMember_of_unnamed {label : String} {aliases : List String} {required : Bool}
    {format : Format β} {get : α → β} {set : β → α → α} {rest : Members α}
    (unnamed : ¬(name = key ∨ key ∈ aliases)) :
    (Members.cons label name aliases required format get set rest).ofMember depth key tree =
      rest.ofMember depth key tree := by
  funext filling
  rw [Members.ofMember, if_neg unnamed]

/-- No member is filled twice. -/
theorem Filling.take_twice (set : β → α → α) (name : String) (read read' : Except Fault β)
    (filling : Filling α) :
    ∃ fault, filling.take set name read >>= Filling.take set name read' = .error fault := by
  rw [Filling.take]
  split_ifs
  · exact ⟨_, rfl⟩
  · cases read with
    | error fault => exact ⟨fault, rfl⟩
    | ok value =>
        refine ⟨.misshapen (.duplicateField name), ?_⟩
        change Filling.take set name read' (filling.fill set name value) = _
        rw [Filling.take, if_pos (by simp [Filling.fill])]

theorem Filling.Same.take (same : filling.Same filling') (set : β → α → α) (name : String)
    (read : Except Fault β) :
    Concur Filling.Same (filling.take set name read) (filling'.take set name read) := by
  rw [Filling.take, Filling.take, same.contains_eq]
  split_ifs
  · exact .error _ _
  · cases read with
    | error fault => exact .error fault fault
    | ok value => exact .ok (same.fill set name value)

theorem Members.ofMember_respects (members : Members α) (same : filling.Same filling') :
    Concur Filling.Same (members.ofMember depth key tree filling)
      (members.ofMember depth key tree filling') := by
  cases members with
  | nil => exact .ok same
  | cons _ name aliases _ format _ set rest =>
      by_cases named : name = key ∨ key ∈ aliases
      · rw [ofMember_of_named named]
        exact same.take set name _
      · rw [ofMember_of_unnamed named]
        exact rest.ofMember_respects same

/-- Members do not note other keys than their own. -/
theorem Members.contains_eq_of_ofMember {members : Members α} (fresh : name ∉ members.keys)
    (made : members.ofMember depth key tree filling = .ok filled) :
    filled.seen.contains name = filling.seen.contains name := by
  match members with
  | .nil =>
      cases made
      rfl
  | .cons _ other aliases _ format _ set rest =>
      obtain ⟨apart, fresh⟩ := not_or.mp (mt List.mem_cons.mpr fresh)
      by_cases named : other = key ∨ key ∈ aliases
      · rw [ofMember_of_named named, Filling.take] at made
        split_ifs at made
        obtain ⟨value, _, rfl⟩ := map_eq_ok_iff.mp made
        simp [Filling.fill, apart]
      · rw [ofMember_of_unnamed named] at made
        exact contains_eq_of_ofMember fresh made

/-- Members apart from another one are filled before or after it. -/
theorem Members.ofMember_fill {get : α → β} {set : β → α → α} {members : Members α}
    (apart : members.AllApart get set) (fresh : name ∉ members.keys) (value : β) :
    Concur Filling.Same (members.ofMember depth key tree (filling.fill set name value))
      ((members.ofMember depth key tree filling).map fun filled => filled.fill set name value) := by
  match members with
  | .nil => exact .ok (Filling.same_equivalence.refl _)
  | .cons _ other aliases _ format _ set' rest =>
      obtain ⟨different, fresh⟩ := not_or.mp (mt List.mem_cons.mpr fresh)
      by_cases named : other = key ∨ key ∈ aliases
      · have met : (filling.fill set name value).seen.contains other =
            filling.seen.contains other := by
          simp [Filling.fill, Ne.symm different]
        rw [ofMember_of_named named, Filling.take, Filling.take, met]
        split_ifs
        · exact .error _ _
        · cases format.ofTree depth tree with
          | error fault => exact .error fault fault
          | ok value' =>
              exact .ok ⟨(apart.1.commute value value' filling.record).symm, .swap _ _ _⟩
      · rw [ofMember_of_unnamed named]
        exact ofMember_fill apart.2 fresh value

/-- A member is filled before or after those apart from it. -/
theorem Members.take_commute {get : α → β} {set : β → α → α} {members : Members α}
    (apart : members.AllApart get set) (fresh : name ∉ members.keys) (read : Except Fault β) :
    Concur Filling.Same (filling.take set name read >>= members.ofMember depth key tree)
      (members.ofMember depth key tree filling >>= fun filled => filled.take set name read) := by
  have later : ∀ filled, members.ofMember depth key tree filling = .ok filled →
      filled.take set name read = if filling.seen.contains name then
        .error (.misshapen (.duplicateField name)) else read.map (filled.fill set name) := by
    intro filled made
    rw [Filling.take, contains_eq_of_ofMember fresh made]
  have filled := fun value => @ofMember_fill _ _ depth key name tree filling get set members apart
    fresh value
  rw [Filling.take]
  cases made : members.ofMember depth key tree filling with
  | error fault =>
      split_ifs
      · exact .error _ _
      · cases read with
        | error fault' => exact .error _ _
        | ok value =>
            have failed := filled value
            rw [made] at failed
            exact failed
  | ok next =>
      change Concur _ _ (next.take set name read)
      rw [later next made]
      split_ifs
      · exact .error _ _
      · cases read with
        | error fault' => exact .error _ _
        | ok value =>
            have read := filled value
            rw [made] at read
            exact read

/-- Values under different keys are filled in any order. -/
theorem Members.ofMember_commute {members : Members α} (lawful : members.Lawful) :
    Concur Filling.Same
      (members.ofMember depth key tree filling >>= members.ofMember depth key' tree')
      (members.ofMember depth key' tree' filling >>= members.ofMember depth key tree) := by
  match members with
  | .nil => exact .ok (Filling.same_equivalence.refl _)
  | .cons _ name aliases _ format get set rest =>
      obtain ⟨_, fresh, apart, lawful⟩ := lawful
      -- The member is asked for with both keys, with one of them, or with none.
      by_cases named : name = key ∨ key ∈ aliases
      · by_cases named' : name = key' ∨ key' ∈ aliases
        · rw [ofMember_of_named named, ofMember_of_named named']
          obtain ⟨fault, twice⟩ := Filling.take_twice set name (format.ofTree depth tree)
            (format.ofTree depth tree') filling
          obtain ⟨fault', twice'⟩ := Filling.take_twice set name (format.ofTree depth tree')
            (format.ofTree depth tree) filling
          rw [twice, twice']
          exact .error fault fault'
        · rw [ofMember_of_named named, ofMember_of_unnamed named']
          exact take_commute apart fresh _
      · by_cases named' : name = key' ∨ key' ∈ aliases
        · rw [ofMember_of_unnamed named, ofMember_of_named named']
          exact (take_commute apart fresh _).symm Filling.same_equivalence.symm
        · rw [ofMember_of_unnamed named, ofMember_of_unnamed named']
          exact ofMember_commute lawful

theorem Members.commuting {members : Members α} (lawful : members.Lawful) (depth : Nat) :
    Commuting Filling.Same (members.ofMember depth) where
  equivalence := Filling.same_equivalence
  respects _ _ _ _ same := members.ofMember_respects same
  commute _ _ _ _ := ofMember_commute lawful

/-- What is missing of a record does not depend on the order of what is there. -/
theorem Filling.Same.absent?_eq (same : filling.Same filling') (members : Members α) :
    members.absent? filling.seen = members.absent? filling'.seen := by
  cases members with
  | nil => rfl
  | cons _ name _ _ _ _ _ rest =>
      rw [Members.absent?, Members.absent?, same.contains_eq, same.absent?_eq rest]

end

end RouterTelemetry.Json
