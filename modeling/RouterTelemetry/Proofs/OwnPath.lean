import RouterTelemetry.Proofs.WrittenRoute
import RouterTelemetry.Settings.Basic

/-!
# The path of the metrics

Settings that pass the check name a path for the metrics.  There is a site at that path
exactly when it reads as a route, and the site gives the metrics to one who asks for the very
path exactly when the route leads to it.
-/

namespace RouterTelemetry

open Http

namespace Site

/-! ## Sites and routes -/

/-- The path reads as a route of these parts. -/
structure ReadsAs (path : String) (parts : List Part) : Prop where
  begins : path.toList.head? = some '/'
  startsPlainly : startsPlainly true path.toList = true
  written : Written parts
  signs_eq : parts.flatMap Part.signs = signs path.toList
  few : (parts.map Part.piece).count .segment ≤ maxSegmentCaptures

variable {path : String} {parts : List Part} {site : Site}

theorem ReadsAs.text_eq (reads : ReadsAs path parts) : parts.flatMap Part.text = path.toList := by
  have texts := congrArg (List.flatMap Sign.text) reads.signs_eq
  rwa [flatMap_text_signs, List.flatMap_assoc] at texts

/-- Exactly the paths that read as routes are routes. -/
theorem parse_eq_ok_iff {route : Route} :
    Route.parse path = .ok route ↔
      ∃ parts, ReadsAs path parts ∧ route = ⟨parts.map Part.piece⟩ := by
  constructor
  · intro parsed
    unfold Route.parse at parsed
    dsimp only at parsed
    split_ifs at parsed with relative marker marker
    · cases parsed
    · cases parsed
    · cases parsed
    · obtain ⟨pieces, read, kept⟩ := bind_eq_ok_iff.mp parsed
      obtain ⟨parts, written, signs_eq, rfl⟩ := piecesFrom_text_iff.mp read
      split_ifs at kept with many
      · cases kept
      · cases kept
        exact ⟨parts, ⟨not_not.mp relative, by simpa using marker, written, signs_eq,
          Nat.le_of_not_lt many⟩, rfl⟩
  · rintro ⟨parts, reads, rfl⟩
    have read := piecesFrom_text_iff.mpr ⟨parts, reads.written, reads.signs_eq, rfl⟩
    unfold Route.parse
    simp [reads.begins, reads.startsPlainly, read, Nat.not_lt.mpr reads.few, bind, Except.bind,
      pure, Except.pure]

theorem atPath_eq_ok_iff (free : path ∉ fixedPaths) :
    atPath path = .ok site ↔
      ∃ parts, ReadsAs path parts ∧ site = ⟨path, ⟨parts.map Part.piece⟩⟩ := by
  rw [atPath, if_neg free]
  cases parsed : Route.parse path with
  | error fault =>
      constructor
      · nofun
      · rintro ⟨parts, reads, _⟩
        rw [parse_eq_ok_iff.mpr ⟨parts, reads, rfl⟩] at parsed
        cases parsed
  | ok route =>
      constructor
      · intro made
        obtain ⟨parts, reads, rfl⟩ := parse_eq_ok_iff.mp parsed
        cases made
        exact ⟨parts, reads, rfl⟩
      · rintro ⟨parts, reads, rfl⟩
        rw [parse_eq_ok_iff.mpr ⟨parts, reads, rfl⟩] at parsed
        cases parsed
        rfl

/-! ## Asking for the path -/

theorem toList_pathOf (target : String) : (pathOf target).toList = unmarked target.toList := by
  rw [pathOf, String.toList_ofList, unmarked]
  congr 1
  funext c
  rw [Bool.eq_iff_iff, Bool.not_eq_true', decide_eq_false_iff_not]
  simp [IsMark]

/-- The fixed pages are found first. -/
theorem content?_of_fixed {path : String} (site : Site) (fixed : path ∈ fixedPaths) :
    site.content? path = some .landing ∨ site.content? path = some .probe := by
  have keys : fixedPaths = ["/", "/health", "/ready"] := rfl
  rw [keys] at fixed
  simp only [List.mem_cons, List.not_mem_nil, or_false] at fixed
  rcases fixed with rfl | rfl | rfl <;> simp [content?, fixedPages, List.lookup_cons]

theorem content?_of_free {path : String} (site : Site) (free : path ∉ fixedPaths) :
    site.content? path = if site.route.leadsTo path then some .metrics else none := by
  have missing : fixedPages.lookup path = none := by
    rw [List.lookup_eq_none_iff]
    intro page member
    rw [bne_iff_ne]
    rintro rfl
    exact free (List.mem_map_of_mem member)
  rw [content?, missing]

theorem content?_eq_metrics_iff (site : Site) (path : String) :
    site.content? path = some .metrics ↔ path ∉ fixedPaths ∧ site.route.leadsTo path = true := by
  by_cases fixed : path ∈ fixedPaths
  · rcases content?_of_fixed site fixed with found | found <;> simp [found, fixed]
  · simp [content?_of_free site fixed, fixed]

/-- The site at a path has its metrics under that path exactly when braces are caught and marks
come last. -/
theorem content?_own_iff (free : path ∉ fixedPaths) (reads : ReadsAs path parts)
    (unslashed : Unslashed parts) :
    (Site.mk path ⟨parts.map Part.piece⟩).content? (pathOf path) = some .metrics ↔
      BracesCaught parts ∧ MarksLast parts := by
  rw [content?_eq_metrics_iff, Route.leadsTo, toList_pathOf, ← reads.text_eq,
    reads.written.covers_own_iff unslashed, and_iff_right_iff_imp]
  rintro ⟨_, marks⟩ fixed
  rcases reads.written.unmarked_text marks with whole | brace
  · rw [reads.text_eq, ← toList_pathOf] at whole
    exact free (String.toList_injective whole ▸ fixed)
  · rw [reads.text_eq, ← toList_pathOf] at brace
    have none : ∀ path ∈ fixedPaths, '{' ∉ path.toList := by decide
    exact none _ fixed brace

section

variable {σ : Type} (router : Router σ) (collector : Collector) (exporter : Exporter) (state : σ)

/-- The metrics are what one cycle leaves. -/
theorem answer_of_metrics {target : String}
    (metrics : site.content? (pathOf target) = some .metrics) :
    site.answer router collector ⟨"GET", target⟩ exporter state =
      let cycle := exporter.runCycle router collector state
      { cycle with value := plainPage cycle.exporter.render } := by
  simp only [answer, metrics, if_true, give, Exporter.scrape]

/-- Anything else takes no cycle. -/
theorem answer_of_not_metrics {visit : Visit}
    (other : site.content? (pathOf visit.target) ≠ some .metrics) :
    (site.answer router collector visit exporter state).exchanges = [] ∧
      (site.answer router collector visit exporter state).events = [] ∧
      (site.answer router collector visit exporter state).exporter = exporter ∧
      (site.answer router collector visit exporter state).router = state := by
  unfold answer
  cases found : site.content? (pathOf visit.target) with
  | none => simp
  | some content =>
      rw [found] at other
      cases content with
      | landing => dsimp only; split_ifs <;> simp [give]
      | probe => dsimp only; split_ifs <;> simp [give]
      | metrics => exact absurd rfl other

end

/-! ## Paths without braces -/

/-- A character is plain that is neither a brace nor a mark. -/
def IsPlain (c : Char) : Prop :=
  ¬IsBrace c ∧ ¬IsMark c

theorem written_chars (cs : List Char) : Written (cs.map .char) := by
  induction cs with
  | nil => exact .nil
  | cons c cs ih => exact .char c ih

theorem signs_of_plain {cs : List Char} (plain : ∀ c ∈ cs, IsPlain c) :
    signs cs = cs.map .char := by
  induction cs with
  | nil => rfl
  | cons c cs ih =>
      obtain ⟨⟨notBrace, _⟩, later⟩ := List.forall_mem_cons.mp plain
      rw [IsBrace, not_or] at notBrace
      obtain ⟨notOpening, notClosing⟩ := notBrace
      rw [signs, ih later]
      · rfl
      all_goals
        intros
        first
          | exact notOpening ‹_›
          | exact notClosing ‹_›

theorem bracesCaught_of_plain {cs : List Char} (plain : ∀ c ∈ cs, IsPlain c) :
    BracesCaught (cs.map .char) := by
  induction cs with
  | nil => exact trivial
  | cons c cs ih =>
      obtain ⟨first, later⟩ := List.forall_mem_cons.mp plain
      exact ⟨fun double => absurd double first.1, ih later⟩

theorem marksLast_of_plain {cs : List Char} (plain : ∀ c ∈ cs, IsPlain c) :
    MarksLast (cs.map .char) := by
  induction cs with
  | nil => exact trivial
  | cons c cs ih =>
      obtain ⟨first, later⟩ := List.forall_mem_cons.mp plain
      exact ⟨first.2, ih later⟩

theorem readsAs_of_plain {path : String} (plain : ∀ c ∈ path.toList, IsPlain c)
    (begins : path.toList.head? = some '/') (plainly : startsPlainly true path.toList = true) :
    ReadsAs path (path.toList.map .char) where
  begins := begins
  startsPlainly := plainly
  written := written_chars _
  signs_eq := by
    rw [signs_of_plain plain, List.flatMap_map]
    exact List.map_eq_flatMap.symm
  few := by
    have none : (Piece.segment) ∉ (path.toList.map Part.char).map Part.piece := by
      simp [Part.piece]
    rw [List.count_eq_zero_of_not_mem none]
    exact Nat.zero_le _

end Site

/-! ## Accepted settings -/

namespace Settings

open Site

theorem path_of_check {settings : Settings} {endpoint : Endpoint}
    (accepted : settings.check = .ok endpoint) :
    settings.site.metricsPath.toList.head? = some '/' ∧
      settings.site.metricsPath ∉ fixedPaths := by
  obtain ⟨endpoint, _, checked⟩ := bind_eq_ok_iff.mp accepted
  cases objection : settings.objection? with
  | some objection =>
      rw [objection] at checked
      cases checked
  | none =>
      unfold objection? at objection
      dsimp only at objection
      split_ifs at objection with _ _ relative taken
      exact ⟨not_not.mp relative, taken⟩

/-- The site of accepted settings: there is one exactly when the path of the metrics reads as a
route.  Who asks it for that very path is given the metrics, by one cycle, exactly when braces
are caught and marks come last; otherwise there is no cycle. -/
theorem own_path_of_accepted {settings : Settings} {endpoint : Endpoint}
    (accepted : settings.check = .ok endpoint) :
    let path := settings.site.metricsPath
    (∀ site, atPath path = .ok site ↔
        ∃ parts, ReadsAs path parts ∧ site = ⟨path, ⟨parts.map Part.piece⟩⟩) ∧
      ∀ parts, ReadsAs path parts → Unslashed parts →
        ∀ (σ : Type) (router : Router σ) (exporter : Exporter) (state : σ),
          let cycle := exporter.runCycle router (settings.collector endpoint) state
          let turn := (Site.mk path ⟨parts.map Part.piece⟩).answer router
            (settings.collector endpoint) ⟨"GET", path⟩ exporter state
          (BracesCaught parts ∧ MarksLast parts →
            turn = { cycle with value := plainPage cycle.exporter.render }) ∧
          (¬(BracesCaught parts ∧ MarksLast parts) →
            turn.exchanges = [] ∧ turn.events = [] ∧ turn.exporter = exporter ∧
              turn.router = state) := by
  intro path
  obtain ⟨_, free⟩ := path_of_check accepted
  constructor
  · intro site
    exact atPath_eq_ok_iff free
  · intro parts reads unslashed σ router exporter state
    have own := content?_own_iff free reads unslashed
    constructor
    · intro caught
      exact answer_of_metrics router _ exporter state (own.mpr caught)
    · intro uncaught
      exact answer_of_not_metrics router _ exporter state (fun metrics => uncaught (own.mp metrics))

/-- The braces before the capture of `b` are caught by it, and the colon is not at the start of a
segment. -/
theorem own_path_of_braces_before_capture :
    let settings : Settings :=
      { router := { password := "admin" }, site := { metricsPath := "/a\x7b\x7b\x7bb\x7d/c:d" } }
    let parts : List Part :=
      [.char '/', .char 'a', .char '{', .segment [.char 'b'], .char '/', .char 'c', .char ':',
        .char 'd']
    ∃ endpoint, settings.check = .ok endpoint ∧
      ReadsAs settings.site.metricsPath parts ∧ Unslashed parts ∧ BracesCaught parts ∧
      MarksLast parts ∧
      ∀ (exporter : Exporter),
        (Site.mk settings.site.metricsPath ⟨parts.map Part.piece⟩).answer .unreachable
            (settings.collector endpoint) ⟨"GET", settings.site.metricsPath⟩ exporter () =
          let cycle := exporter.runCycle .unreachable (settings.collector endpoint) ()
          { cycle with value := plainPage cycle.exporter.render } := by
  intro settings parts
  have checked : settings.check.isOk = true := by decide +kernel
  obtain ⟨endpoint, accepted⟩ : ∃ endpoint, settings.check = .ok endpoint := by
    cases result : settings.check with
    | error failure =>
        rw [result] at checked
        cases checked
    | ok endpoint => exact ⟨endpoint, rfl⟩
  have named : SegmentName [.char 'b'] := ⟨⟨_, rfl, by decide⟩, by simp⟩
  have reads : ReadsAs settings.site.metricsPath parts :=
    ⟨by decide +kernel, by decide +kernel,
      .char _ (.char _ (.char _ (.segment named (.char _ (.char _ (.char _ .nil)))))),
      by decide +kernel, by decide⟩
  have unslashed : Unslashed parts := by simp [Unslashed, parts]
  have caught : BracesCaught parts := by simp [BracesCaught, UpToCapture, IsBrace, parts]
  have marks : MarksLast parts := by simp [MarksLast, IsMark, Sign.text, IsBrace, parts]
  obtain ⟨_, served⟩ := own_path_of_accepted accepted
  exact ⟨endpoint, accepted, reads, unslashed, caught, marks, fun exporter =>
    (served parts reads unslashed Unit .unreachable exporter ()).1 ⟨caught, marks⟩⟩

/-- There is no site at some accepted paths, and at others it does not have the metrics where
one asks for them. -/
theorem own_path_of_accepted_fails :
    let accepts (path : String) : Bool :=
      ({ router := { password := "admin" }, site := { metricsPath := path } } : Settings).check.isOk
    -- `\x7b` opens and `\x7d` closes a capture.
    (∀ path ∈ ["/:metrics", "/*metrics", "/\x7b", "/\x7d", "/\x7b\x7d", "/\x7ba\x7db",
          "/\x7b*a\x7d/b"],
        accepts path = true ∧ (atPath path).isOk = false) ∧
      ∀ row ∈ [("/\x7b\x7bmetrics\x7d\x7d", none), ("/metrics?a", none),
          ("/health?a", some Content.probe)],
        accepts row.1 = true ∧
          (atPath row.1).toOption.map (·.content? (pathOf row.1)) = some row.2 := by
  decide +kernel

/-- Without braces and marks, only a colon or a star at the start of a segment stands in the
way of the metrics. -/
theorem plain_path_of_accepted {settings : Settings} {endpoint : Endpoint}
    (accepted : settings.check = .ok endpoint)
    (plain : ∀ c ∈ settings.site.metricsPath.toList, IsPlain c)
    (plainly : startsPlainly true settings.site.metricsPath.toList = true) :
    ∃ site, atPath settings.site.metricsPath = .ok site ∧
      ∀ (σ : Type) (router : Router σ) (exporter : Exporter) (state : σ),
        site.answer router (settings.collector endpoint) ⟨"GET", settings.site.metricsPath⟩
            exporter state =
          let cycle := exporter.runCycle router (settings.collector endpoint) state
          { cycle with value := plainPage cycle.exporter.render } := by
  obtain ⟨begins, free⟩ := path_of_check accepted
  have reads := readsAs_of_plain plain begins plainly
  have unslashed : Unslashed (settings.site.metricsPath.toList.map Part.char) := by
    simp [Unslashed]
  refine ⟨_, (atPath_eq_ok_iff free).mpr ⟨_, reads, rfl⟩, fun σ router exporter state => ?_⟩
  apply answer_of_metrics
  apply (content?_own_iff free reads unslashed).mpr
  constructor
  · exact bracesCaught_of_plain plain
  · exact marksLast_of_plain plain

end Settings

end RouterTelemetry
