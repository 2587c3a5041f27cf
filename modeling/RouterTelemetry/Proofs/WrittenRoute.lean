import Mathlib.Data.List.TakeWhile
import Mathlib.Tactic.Tauto
import RouterTelemetry.Proofs.Results
import RouterTelemetry.Site.Route

/-!
# Written routes

A written route is read part by part: characters, of which braces are written twice, and
captures with their names.  What the parts say decides whether the route leads to the very
path that it is written as.
-/

namespace RouterTelemetry.Site

/-! ## Signs -/

/-- A brace. -/
def IsBrace (c : Char) : Prop :=
  c = '{' ∨ c = '}'

instance (c : Char) : Decidable (IsBrace c) :=
  inferInstanceAs (Decidable (c = '{' ∨ c = '}'))

/-- How a sign is written. -/
def Sign.text : Sign → List Char
  | .char c => if IsBrace c then [c, c] else [c]
  | .opening => ['{']
  | .closing => ['}']

/-- What is read as signs is written that way. -/
theorem flatMap_text_signs (cs : List Char) : (signs cs).flatMap Sign.text = cs := by
  fun_induction signs cs with
  | case1 cs ih => simp [Sign.text, IsBrace, ih]
  | case2 cs ih => simp [Sign.text, IsBrace, ih]
  | case3 cs apart ih => simp [Sign.text, ih]
  | case4 cs apart ih => simp [Sign.text, ih]
  | case5 c cs _ _ notOpening notClosing ih =>
      have plain : ¬IsBrace c := by
        rintro (rfl | rfl)
        · exact notOpening rfl
        · exact notClosing rfl
      simp [Sign.text, plain, ih]
  | case6 => rfl

/-! ## Parts -/

/-- A part of a written route. -/
inductive Part where
  | char (c : Char)
  /-- A capture of a segment. -/
  | segment (name : List Sign)
  /-- A capture of the rest of the path. -/
  | rest (name : List Sign)
deriving Repr, DecidableEq

namespace Part

/-- The signs of a part. -/
def signs : Part → List Sign
  | .char c => [.char c]
  | .segment name => .opening :: name ++ [.closing]
  | .rest name => .opening :: .char '*' :: name ++ [.closing]

/-- How a part is written. -/
def text (part : Part) : List Char :=
  part.signs.flatMap Sign.text

/-- What a part stands for. -/
def piece : Part → Piece
  | .char c => .char c
  | .segment _ => .segment
  | .rest _ => .rest

end Part

/-- A sign that can stand in a name after its first one. -/
def Sign.Inside (sign : Sign) : Prop :=
  sign ≠ .closing ∧ sign ≠ .char '*' ∧ sign ≠ .char '/'

/-- The name of a capture of a segment; its first sign may be a slash. -/
structure SegmentName (name : List Sign) : Prop where
  first : ∃ sign, name.head? = some sign ∧
    sign ≠ .closing ∧ sign ≠ .char '*' ∧ sign ≠ .char '}'
  inside : ∀ sign ∈ name.tail, sign.Inside

/-- The name of a capture of the rest. -/
structure RestName (name : List Sign) : Prop where
  ne_nil : name ≠ []
  inside : ∀ sign ∈ name, sign.Inside

/-- The parts make a route: a slash or nothing follows a capture of a segment, and nothing
follows one of the rest. -/
inductive Written : List Part → Prop where
  | nil : Written []
  | char (c : Char) {parts : List Part} (written : Written parts) : Written (.char c :: parts)
  | lastSegment {name : List Sign} (named : SegmentName name) : Written [.segment name]
  | segment {name : List Sign} {parts : List Part} (named : SegmentName name)
      (written : Written parts) : Written (.segment name :: .char '/' :: parts)
  | rest {name : List Sign} (named : RestName name) : Written [.rest name]

/-! ## Reading parts -/

/-- A name goes up to its closing brace. -/
theorem piecesFrom_name_iff {piece : Piece} {isEmpty : Bool} {signs : List Sign}
    {pieces : List Piece} :
    piecesFrom (.name piece isEmpty) signs = .ok pieces ↔
      ∃ name after, signs = name ++ .closing :: after ∧ (∀ sign ∈ name, sign.Inside) ∧
        (isEmpty = true → name ≠ []) ∧ piecesFrom (.closed piece) after = .ok pieces := by
  induction signs generalizing isEmpty with
  | nil => simp [piecesFrom]
  | cons sign signs ih =>
      rw [piecesFrom, bind_eq_ok_iff]
      constructor
      · rintro ⟨position, named, read⟩
        cases sign with
        | closing =>
            simp only [namedBy] at named
            split_ifs at named with empty
            cases named
            exact ⟨[], signs, rfl, by simp, by simp [empty], read⟩
        | opening =>
            cases named
            obtain ⟨name, after, rfl, inside, _, read⟩ := ih.mp read
            exact ⟨.opening :: name, after, rfl, by simpa [Sign.Inside] using inside, by simp, read⟩
        | char c =>
            simp only [namedBy] at named
            split_ifs at named with marker
            cases named
            obtain ⟨name, after, rfl, inside, _, read⟩ := ih.mp read
            exact ⟨.char c :: name, after, rfl,
              by simpa [Sign.Inside, not_or.mp marker] using inside, by simp, read⟩
      · rintro ⟨name, after, split, inside, nonempty, read⟩
        cases name with
        | nil =>
            cases split
            refine ⟨.closed piece, ?_, read⟩
            simpa [namedBy] using nonempty
        | cons first name =>
            cases split
            rw [List.forall_mem_cons] at inside
            refine ⟨.name piece false, ?_, ih.mpr ⟨name, after, rfl, inside.2, by simp, read⟩⟩
            obtain ⟨⟨open_, star, slash⟩, _⟩ := inside
            cases sign with
            | closing => exact absurd rfl open_
            | opening => rfl
            | char c =>
                rw [namedBy, if_neg]
                rintro (rfl | rfl)
                · exact star rfl
                · exact slash rfl

theorem piecesFrom_opened_iff {signs : List Sign} {pieces : List Piece} :
    piecesFrom .opened signs = .ok pieces ↔
      (∃ name after, SegmentName name ∧ signs = name ++ .closing :: after ∧
          piecesFrom (.closed .segment) after = .ok pieces) ∨
        ∃ name after, RestName name ∧ signs = .char '*' :: name ++ .closing :: after ∧
          piecesFrom (.closed .rest) after = .ok pieces := by
  cases signs with
  | nil => simp [piecesFrom]
  | cons sign signs =>
      rw [piecesFrom, bind_eq_ok_iff]
      constructor
      · rintro ⟨position, opened, read⟩
        cases sign with
        | closing => cases opened
        | opening =>
            cases opened
            obtain ⟨name, after, rfl, inside, _, read⟩ := piecesFrom_name_iff.mp read
            exact .inl ⟨.opening :: name, after, ⟨⟨_, rfl, by simp⟩, inside⟩, rfl, read⟩
        | char c =>
            simp only [openedBy] at opened
            split_ifs at opened with star brace
            · cases opened
              obtain ⟨name, after, rfl, inside, nonempty, read⟩ := piecesFrom_name_iff.mp read
              exact .inr ⟨name, after, ⟨nonempty rfl, inside⟩, by rw [star]; rfl, read⟩
            · cases opened
              obtain ⟨name, after, rfl, inside, _, read⟩ := piecesFrom_name_iff.mp read
              exact .inl ⟨.char c :: name, after,
                ⟨⟨_, rfl, by simpa using ⟨star, brace⟩⟩, inside⟩, rfl, read⟩
      · rintro (⟨name, after, named, split, read⟩ | ⟨name, after, named, split, read⟩)
        · obtain ⟨⟨first, begins, notClosing, notStar, notBrace⟩, inside⟩ := named
          obtain ⟨name, rfl⟩ := List.head?_eq_some_iff.mp begins
          cases split
          refine ⟨.name .segment false, ?_,
            piecesFrom_name_iff.mpr ⟨name, after, rfl, inside, by simp, read⟩⟩
          cases sign with
          | closing => exact absurd rfl notClosing
          | opening => rfl
          | char c =>
              rw [openedBy, if_neg, if_neg]
              · rintro rfl
                exact notBrace rfl
              · rintro rfl
                exact notStar rfl
        · cases split
          exact ⟨.name .rest true, rfl, piecesFrom_name_iff.mpr
            ⟨name, after, rfl, named.inside, fun _ => named.ne_nil, read⟩⟩

theorem piecesFrom_closed_iff {piece : Piece} {signs : List Sign} {pieces : List Piece} :
    piecesFrom (.closed piece) signs = .ok pieces ↔
      (signs = [] ∧ pieces = [piece]) ∨
        ∃ after more, signs = .char '/' :: after ∧ piece ≠ .rest ∧
          piecesFrom .text after = .ok more ∧ pieces = piece :: .char '/' :: more := by
  cases signs with
  | nil =>
      simp only [piecesFrom, Except.ok.injEq]
      simpa using eq_comm
  | cons sign signs =>
      rw [piecesFrom, bind_eq_ok_iff]
      constructor
      · rintro ⟨_, follows, ended⟩
        obtain ⟨more, read, same⟩ := bind_eq_ok_iff.mp ended
        unfold mayFollow at follows
        split_ifs at follows with slash last
        cases same
        exact .inr ⟨signs, more, by rw [not_not.mp slash], last, read, rfl⟩
      · rintro (⟨impossible, _⟩ | ⟨after, more, split, last, read, rfl⟩)
        · cases impossible
        · cases split
          exact ⟨(), by simp [mayFollow, last], bind_eq_ok_iff.mpr ⟨more, read, rfl⟩⟩

/-- Exactly the written routes are read. -/
theorem piecesFrom_text_iff {signs : List Sign} {pieces : List Piece} :
    piecesFrom .text signs = .ok pieces ↔
      ∃ parts, Written parts ∧ parts.flatMap Part.signs = signs ∧
        parts.map Part.piece = pieces := by
  constructor
  · intro read
    induction count : signs.length using Nat.strong_induction_on generalizing signs pieces with
    | _ count ih =>
        subst count
        match signs with
        | [] =>
            cases read
            exact ⟨[], .nil, rfl, rfl⟩
        | .char c :: signs =>
            rw [piecesFrom, bind_eq_ok_iff] at read
            obtain ⟨more, read, same⟩ := read
            cases same
            obtain ⟨parts, written, rfl, rfl⟩ := ih signs.length (by simp) read rfl
            exact ⟨.char c :: parts, .char c written, rfl, rfl⟩
        | .closing :: signs => cases read
        | .opening :: signs =>
            rw [piecesFrom, piecesFrom_opened_iff] at read
            rcases read with ⟨name, after, named, rfl, read⟩ | ⟨name, after, named, rfl, read⟩
            · rcases piecesFrom_closed_iff.mp read with
                ⟨rfl, rfl⟩ | ⟨after, more, rfl, _, further, rfl⟩
              · exact ⟨[.segment name], .lastSegment named, by simp [Part.signs], rfl⟩
              · obtain ⟨parts, written, rfl, rfl⟩ := ih after.length (by simp; omega) further rfl
                exact ⟨.segment name :: .char '/' :: parts, .segment named written,
                  by simp [Part.signs], rfl⟩
            · rcases piecesFrom_closed_iff.mp read with ⟨rfl, rfl⟩ | ⟨_, _, _, impossible, _⟩
              · exact ⟨[.rest name], .rest named, by simp [Part.signs], rfl⟩
              · exact absurd rfl impossible
  · rintro ⟨parts, written, rfl, rfl⟩
    induction written with
    | nil => rfl
    | char c written ih =>
        rw [List.flatMap_cons, Part.signs, List.singleton_append, piecesFrom, ih]
        rfl
    | lastSegment named =>
        refine piecesFrom_opened_iff.mpr (.inl ⟨_, [], named, by simp, ?_⟩)
        exact piecesFrom_closed_iff.mpr (.inl ⟨rfl, rfl⟩)
    | @segment name parts named written ih =>
        refine piecesFrom_opened_iff.mpr
          (.inl ⟨name, .char '/' :: parts.flatMap Part.signs, named,
            by simp [Part.signs, List.flatMap], ?_⟩)
        exact piecesFrom_closed_iff.mpr (.inr ⟨_, _, rfl, by simp, ih, rfl⟩)
    | rest named =>
        refine piecesFrom_opened_iff.mpr (.inr ⟨_, [], named, by simp, ?_⟩)
        exact piecesFrom_closed_iff.mpr (.inl ⟨rfl, rfl⟩)

/-! ## The own path -/

/-- The query of a target begins here, or what follows it. -/
def IsMark (c : Char) : Prop :=
  c = '?' ∨ c = '#'

instance (c : Char) : Decidable (IsMark c) :=
  inferInstanceAs (Decidable (c = '?' ∨ c = '#'))

/-- What stands before the first mark. -/
def unmarked (cs : List Char) : List Char :=
  cs.takeWhile fun c => !decide (IsMark c)

/-- Up to a capture there are only braces like this one. -/
def UpToCapture (brace : Char) : List Part → Prop
  | [] => False
  | .char c :: parts => c = brace ∧ UpToCapture brace parts
  | .segment _ :: _ => True
  | .rest _ :: _ => True

/-- From each brace outside of names on there are only braces like it up to a capture. -/
def BracesCaught : List Part → Prop
  | [] => True
  | .char c :: parts => (IsBrace c → UpToCapture c parts) ∧ BracesCaught parts
  | .segment _ :: parts => BracesCaught parts
  | .rest _ :: parts => BracesCaught parts

/-- Marks stand only in the name of a capture that ends the route. -/
def MarksLast : List Part → Prop
  | [] => True
  | .char c :: parts => ¬IsMark c ∧ MarksLast parts
  | .segment name :: parts =>
      (parts = [] ∨ ∀ c ∈ name.flatMap Sign.text, ¬IsMark c) ∧ MarksLast parts
  | .rest _ :: parts => MarksLast parts

/-- No name of a segment has a slash. -/
def Unslashed (parts : List Part) : Prop :=
  ∀ name, .segment name ∈ parts → .char '/' ∉ name

theorem unmarked_append {front : List Char} (clear : ∀ c ∈ front, ¬IsMark c)
    (after : List Char) : unmarked (front ++ after) = front ++ unmarked after := by
  apply List.takeWhile_append_of_pos
  simpa using clear

/-- What follows a mark does not count. -/
theorem unmarked_append_of_mark {front : List Char} (marked : ∃ c ∈ front, IsMark c)
    (after : List Char) : unmarked (front ++ after) = unmarked front := by
  induction front with
  | nil => simp at marked
  | cons c front ih =>
      by_cases mark : IsMark c
      · simp [unmarked, mark]
      · obtain ⟨d, member, isMark⟩ := marked
        rcases List.mem_cons.mp member with rfl | later
        · exact absurd isMark mark
        · simpa [unmarked, mark] using ih ⟨d, later, isMark⟩

theorem unmarked_subset (cs : List Char) : unmarked cs ⊆ cs :=
  (List.takeWhile_prefix _).subset

/-- A segment takes all up to a slash. -/
theorem covers_segment {front after : List Char} (pieces : List Piece) (free : '/' ∉ front)
    (ne_nil : front ≠ []) (stops : after.dropWhile (· ≠ '/') = after) :
    covers (.segment :: pieces) (front ++ after) = covers pieces after := by
  have passed : ∀ c ∈ front, decide (c ≠ '/') = true := by
    intro c member
    exact decide_eq_true (ne_of_mem_of_not_mem member free)
  rw [covers, List.takeWhile_append_of_pos passed, List.dropWhile_append_of_pos passed, stops]
  simp [ne_nil]

/-- One of two braces is left over, with those that were left over before. -/
theorem covers_doubled (count : Nat) (brace : Char) (pieces : List Piece) (after : List Char) :
    covers (.char brace :: pieces) (List.replicate (count + 1) brace ++ ([brace, brace] ++ after)) =
      covers pieces (List.replicate (count + 2) brace ++ after) := by
  rw [List.replicate_succ, List.cons_append, covers, List.replicate_succ', List.replicate_succ']
  simp

theorem slash_notMem_text {name : List Sign} (unslashed : .char '/' ∉ name) :
    '/' ∉ (Part.segment name).text := by
  simp only [Part.text, Part.signs, List.cons_append, List.flatMap_cons, List.flatMap_append,
    List.mem_append, List.mem_flatMap, not_or, not_exists, not_and]
  refine ⟨by simp [Sign.text], ⟨?_, by simp [Sign.text]⟩⟩
  intro sign member within
  cases sign with
  | char c =>
      have same : c = '/' := by
        simp only [Sign.text] at within
        split_ifs at within <;> simpa [eq_comm] using within
      exact unslashed (same ▸ member)
  | opening => simp [Sign.text] at within
  | closing => simp [Sign.text] at within

theorem text_segment (name : List Sign) :
    (Part.segment name).text = '{' :: name.flatMap Sign.text ++ ['}'] := by
  simp [Part.text, Part.signs, Sign.text]

theorem text_rest (name : List Sign) :
    (Part.rest name).text = '{' :: '*' :: name.flatMap Sign.text ++ ['}'] := by
  simp [Part.text, Part.signs, Sign.text, IsBrace]

theorem text_char (c : Char) : (Part.char c).text = if IsBrace c then [c, c] else [c] := by
  simp [Part.text, Part.signs, Sign.text]

theorem slash_notMem_replicate {brace : Char} (isBrace : IsBrace brace) (count : Nat) :
    '/' ∉ List.replicate count brace := by
  rcases isBrace with rfl | rfl <;> simp

/-- Up to the first mark the parts cover how they are written, also with braces before it that
are left over. -/
def CoversOwn (parts : List Part) : Prop :=
  ∀ (count : Nat) (brace : Char), IsBrace brace →
    (covers (parts.map Part.piece)
        (List.replicate count brace ++ unmarked (parts.flatMap Part.text)) = true ↔
      BracesCaught parts ∧ MarksLast parts ∧ (0 < count → UpToCapture brace parts))

theorem coversOwn_nil : CoversOwn [] := by
  intro count brace _
  simp [covers, unmarked, BracesCaught, MarksLast, UpToCapture, Nat.pos_iff_ne_zero]

theorem CoversOwn.brace {parts : List Part} (own : CoversOwn parts) {c : Char}
    (double : IsBrace c) : CoversOwn (.char c :: parts) := by
  intro count brace isBrace
  have clear : ∀ d ∈ [c, c], ¬IsMark d := by
    rcases double with rfl | rfl <;> simp [IsMark]
  have notMark : ¬IsMark c := clear c (by simp)
  rw [List.map_cons, List.flatMap_cons, text_char, if_pos double, unmarked_append clear,
    Part.piece, MarksLast, BracesCaught, UpToCapture]
  cases count with
  | zero =>
      have shifted := own 1 c double
      simp only [List.replicate_one, List.singleton_append] at shifted
      simp only [List.replicate_zero, List.nil_append, List.cons_append, covers, decide_true,
        Bool.true_and, shifted]
      simp [double, notMark]
      tauto
  | succ count =>
      by_cases same : c = brace
      · subst same
        rw [covers_doubled]
        refine (own (count + 2) c double).trans ?_
        simp [double, notMark]
        tauto
      · simp [List.replicate_succ, covers, same]

theorem CoversOwn.plain {parts : List Part} (own : CoversOwn parts) {c : Char}
    (single : ¬IsBrace c) : CoversOwn (.char c :: parts) := by
  intro count brace isBrace
  have apart : c ≠ brace := by
    rintro rfl
    exact single isBrace
  rw [List.map_cons, List.flatMap_cons, text_char, if_neg single, Part.piece, MarksLast,
    BracesCaught, UpToCapture]
  by_cases mark : IsMark c
  · have cut : unmarked ([c] ++ parts.flatMap Part.text) = [] := by
      simp [unmarked, mark]
    rw [cut]
    cases count with
    | zero => simp [covers, mark]
    | succ count => simp [List.replicate_succ, covers, apart]
  · rw [unmarked_append (by simpa using mark)]
    cases count with
    | zero =>
        have follows := own 0 brace isBrace
        simp only [List.replicate_zero, List.nil_append] at follows
        simp [covers, follows, single, mark]
    | succ count => simp [List.replicate_succ, covers, apart]

/-- A capture takes braces that are left over and all that its own text comes to. -/
theorem covers_segment_unmarked {name : List Sign} (unslashed : .char '/' ∉ name) {brace : Char}
    (isBrace : IsBrace brace) (count : Nat) (pieces : List Piece) :
    covers (.segment :: pieces)
      (List.replicate count brace ++ unmarked (Part.segment name).text) = covers pieces [] := by
  have free : '/' ∉ List.replicate count brace ++ unmarked (Part.segment name).text := by
    rw [List.mem_append, not_or]
    constructor
    · exact slash_notMem_replicate isBrace count
    · intro member
      exact slash_notMem_text unslashed (unmarked_subset _ member)
  have covered := covers_segment pieces free (by simp [text_segment, unmarked, IsMark])
    List.dropWhile_nil
  rwa [List.append_nil] at covered

theorem coversOwn_lastSegment {name : List Sign} (unslashed : .char '/' ∉ name) :
    CoversOwn [.segment name] := by
  intro count brace isBrace
  have covered := covers_segment_unmarked unslashed isBrace count []
  simp [Part.piece, covered, covers, BracesCaught, MarksLast, UpToCapture]

theorem CoversOwn.segment {parts : List Part} (own : CoversOwn parts) {name : List Sign}
    (unslashed : .char '/' ∉ name) : CoversOwn (.segment name :: .char '/' :: parts) := by
  intro count brace isBrace
  have slash : ¬IsBrace '/' ∧ ¬IsMark '/' := by decide
  rw [List.map_cons, List.map_cons, List.flatMap_cons, List.flatMap_cons, MarksLast, MarksLast,
    BracesCaught, BracesCaught, UpToCapture]
  simp only [Part.piece]
  by_cases clear : ∀ c ∈ (Part.segment name).text, ¬IsMark c
  · have clearName : ∀ c ∈ name.flatMap Sign.text, ¬IsMark c := by
      intro c member
      apply clear
      rw [text_segment, List.cons_append]
      exact List.mem_cons_of_mem _ (List.mem_append_left _ member)
    have free : '/' ∉ List.replicate count brace ++ (Part.segment name).text := by
      rw [List.mem_append, not_or]
      exact ⟨slash_notMem_replicate isBrace count, slash_notMem_text unslashed⟩
    rw [unmarked_append clear, text_char, if_neg slash.1, unmarked_append (by simpa using slash.2),
      ← List.append_assoc, covers_segment _ free (by simp [text_segment]) (by simp)]
    simp only [List.singleton_append, covers, decide_true, Bool.true_and]
    constructor
    · intro covered
      obtain ⟨braces, marks, _⟩ := (own 0 brace isBrace).mp covered
      exact ⟨⟨fun double => absurd double slash.1, braces⟩, ⟨.inr clearName, slash.2, marks⟩,
        fun _ => trivial⟩
    · rintro ⟨⟨_, braces⟩, ⟨_, _, marks⟩, _⟩
      exact (own 0 brace isBrace).mpr ⟨braces, marks, nofun⟩
  · simp only [not_forall, not_not] at clear
    obtain ⟨c, member, mark⟩ := clear
    rw [unmarked_append_of_mark ⟨c, member, mark⟩, covers_segment_unmarked unslashed isBrace]
    constructor
    · nofun
    · rintro ⟨_, ⟨impossible | clearName, _⟩, _⟩
      · cases impossible
      · rw [text_segment, List.cons_append, List.mem_cons, List.mem_append] at member
        rcases member with rfl | within | last
        · exact absurd mark (by decide)
        · exact absurd mark (clearName c within)
        · rw [List.mem_singleton.mp last] at mark
          exact absurd mark (by decide)

theorem coversOwn_rest (name : List Sign) : CoversOwn [.rest name] := by
  intro count brace _
  simp [Part.piece, covers, text_rest, unmarked, IsMark, BracesCaught, MarksLast, UpToCapture]

theorem Written.coversOwn {parts : List Part} (written : Written parts)
    (unslashed : Unslashed parts) : CoversOwn parts := by
  induction written with
  | nil => exact coversOwn_nil
  | char c written ih =>
      have own := ih fun name member => unslashed name (List.mem_cons_of_mem _ member)
      by_cases double : IsBrace c
      · exact own.brace double
      · exact own.plain double
  | lastSegment named => exact coversOwn_lastSegment (unslashed _ (by simp))
  | segment named written ih =>
      have own := ih fun name member =>
        unslashed name (List.mem_cons_of_mem _ (List.mem_cons_of_mem _ member))
      exact own.segment (unslashed _ (by simp))
  | rest named => exact coversOwn_rest _

/-- A route leads to the path that it is written as, up to the first mark, exactly when braces
are caught and marks come last. -/
theorem Written.covers_own_iff {parts : List Part} (written : Written parts)
    (unslashed : Unslashed parts) :
    covers (parts.map Part.piece) (unmarked (parts.flatMap Part.text)) = true ↔
      BracesCaught parts ∧ MarksLast parts := by
  simpa using written.coversOwn unslashed 0 '{' (.inl rfl)

/-- Where marks come last, a path without its query is whole or has a brace. -/
theorem Written.unmarked_text {parts : List Part} (written : Written parts)
    (marks : MarksLast parts) :
    unmarked (parts.flatMap Part.text) = parts.flatMap Part.text ∨
      '{' ∈ unmarked (parts.flatMap Part.text) := by
  induction written with
  | nil => exact .inl rfl
  | @char c parts written ih =>
      have clear : ∀ d ∈ (Part.char c).text, ¬IsMark d := by
        rw [text_char]
        split_ifs <;> simpa using marks.1
      rw [List.flatMap_cons, unmarked_append clear]
      rcases ih marks.2 with whole | brace
      · exact .inl (by rw [whole])
      · exact .inr (List.mem_append_right _ brace)
  | lastSegment named => exact .inr (by simp [text_segment, unmarked, IsMark])
  | segment named written ih => exact .inr (by simp [text_segment, unmarked, IsMark])
  | rest named => exact .inr (by simp [text_rest, unmarked, IsMark])

end RouterTelemetry.Site
