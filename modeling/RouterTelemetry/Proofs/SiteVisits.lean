import Mathlib.Data.List.DropRight
import RouterTelemetry.Proofs.ExporterHistory
import RouterTelemetry.Proofs.OwnPath

/-!
# Visits to a site

A site gives a fixed page, the metrics or nothing.  The fixed pages come first, whatever the
route of the metrics would lead to.  A visit to the metrics is one cycle, and no other visit says
a word to the router; so a row of visits leaves what so many cycles in a row leave.
-/

namespace RouterTelemetry

open Http

section

variable {σ α β : Type}

/-- The turn has said nothing to the router and has left everything as it was. -/
structure Turn.Silent (turn : Turn σ α) (exporter : Exporter) (state : σ) : Prop where
  exchanges_eq : turn.exchanges = []
  events_eq : turn.events = []
  exporter_eq : turn.exporter = exporter
  router_eq : turn.router = state

/-- Two turns in a row, of which the value of the second one is kept. -/
def Turn.followedBy (first : Turn σ α) (second : Turn σ β) : Turn σ β :=
  { second with
    exchanges := first.exchanges ++ second.exchanges
    events := first.events ++ second.events }

/-- The turn without its value. -/
def Turn.traces (turn : Turn σ α) : Turn σ Unit :=
  turn.map fun _ => ()

@[simp]
theorem Turn.traces_map (f : α → β) (turn : Turn σ α) : (turn.map f).traces = turn.traces :=
  rfl

@[simp]
theorem Turn.traces_followedBy (first : Turn σ α) (second : Turn σ β) :
    (first.followedBy second).traces = first.followedBy second.traces :=
  rfl

theorem Turn.Silent.followedBy_eq {turn : Turn σ α} {exporter : Exporter} {state : σ}
    (silent : turn.Silent exporter state) (next : Turn σ β) : turn.followedBy next = next := by
  rw [followedBy, silent.exchanges_eq, silent.events_eq, List.nil_append, List.nil_append]

theorem Turn.silent_of_traces_eq {turn : Turn σ α} {exporter : Exporter} {state : σ}
    (same : turn.traces = { value := (), exporter, router := state }) :
    turn.Silent exporter state :=
  ⟨congrArg exchanges same, congrArg events same, congrArg Turn.exporter same,
    congrArg router same⟩

/-- What comes after a turn goes on from its traces alone. -/
theorem Turn.followedBy_eq_of_traces_eq {turn : Turn σ α} {other : Turn σ β}
    (same : turn.traces = other.traces) {γ : Type} (next : Exporter → σ → Turn σ γ) :
    turn.followedBy (next turn.exporter turn.router) =
      other.followedBy (next other.exporter other.router) := by
  have exporter_eq : turn.exporter = other.exporter := congrArg Turn.exporter same
  have router_eq : turn.router = other.router := congrArg router same
  have exchanges_eq : turn.exchanges = other.exchanges := congrArg exchanges same
  have events_eq : turn.events = other.events := congrArg events same
  rw [followedBy, followedBy, exporter_eq, router_eq, exchanges_eq, events_eq]

/-- So many cycles in a row. -/
def Exporter.runCycles (router : Router σ) (collector : Collector) :
    (count : Nat) → Exporter → σ → Turn σ Unit
  | 0, exporter, state => { value := (), exporter, router := state }
  | count + 1, exporter, state =>
      let first := exporter.runCycle router collector state
      first.followedBy (runCycles router collector count first.exporter first.router)

end

namespace Site

/-! ## Where a route leads -/

/-- The texts that a part of a written route stands for. -/
def Part.Takes : Part → List Char → Prop
  | .char c, text => text = [c]
  | .segment _, text => text ≠ [] ∧ '/' ∉ text
  | .rest _, text => text ≠ []

/-- The text falls apart into one text for each of the parts. -/
def Splits (parts : List Part) (text : List Char) : Prop :=
  ∃ texts, List.Forall₂ Part.Takes parts texts ∧ texts.flatten = text

theorem splits_nil_iff {text : List Char} : Splits [] text ↔ text = [] := by
  constructor
  · rintro ⟨texts, taken, rfl⟩
    cases taken
    rfl
  · rintro rfl
    exact ⟨[], .nil, rfl⟩

theorem splits_cons_iff {part : Part} {parts : List Part} {text : List Char} :
    Splits (part :: parts) text ↔
      ∃ front after, part.Takes front ∧ Splits parts after ∧ text = front ++ after := by
  constructor
  · rintro ⟨texts, taken, rfl⟩
    cases taken with
    | @cons _ front _ texts takes rest =>
        exact ⟨front, texts.flatten, takes, ⟨texts, rest, rfl⟩, rfl⟩
  · rintro ⟨front, _, takes, ⟨texts, rest, rfl⟩, rfl⟩
    exact ⟨front :: texts, .cons takes rest, rfl⟩

theorem splits_char_iff {c : Char} {parts : List Part} {text : List Char} :
    Splits (.char c :: parts) text ↔ ∃ after, Splits parts after ∧ text = c :: after := by
  rw [splits_cons_iff]
  constructor
  · rintro ⟨_, after, rfl, rest, rfl⟩
    exact ⟨after, rest, rfl⟩
  · rintro ⟨after, rest, rfl⟩
    exact ⟨[c], after, rfl, rest, rfl⟩

/-- A capture that ends the route takes all that is left. -/
theorem splits_last_iff {part : Part} {text : List Char} :
    Splits [part] text ↔ part.Takes text := by
  rw [splits_cons_iff]
  constructor
  · rintro ⟨front, after, takes, rest, rfl⟩
    rwa [splits_nil_iff.mp rest, List.append_nil]
  · intro takes
    exact ⟨text, [], takes, splits_nil_iff.mpr rfl, (List.append_nil text).symm⟩

/-- What a segment takes ends at the first slash, or at the end. -/
theorem covers_segment_iff {pieces : List Piece} {text : List Char} :
    covers (.segment :: pieces) text = true ↔
      ∃ front after, (front ≠ [] ∧ '/' ∉ front) ∧ after.dropWhile (· ≠ '/') = after ∧
        covers pieces after = true ∧ text = front ++ after := by
  constructor
  · intro covered
    simp only [covers, Bool.and_eq_true, Bool.not_eq_true', List.isEmpty_eq_false_iff] at covered
    have free : '/' ∉ text.takeWhile (· ≠ '/') := by
      intro slash
      have passed := List.mem_takeWhile_imp slash
      simp at passed
    exact ⟨_, _, ⟨covered.1, free⟩, List.dropWhile_idempotent _ _, covered.2,
      List.takeWhile_append_dropWhile.symm⟩
  · rintro ⟨front, after, ⟨nonempty, free⟩, stops, covered, rfl⟩
    rw [covers_segment pieces free nonempty stops, covered]

theorem covers_char_iff {c : Char} {pieces : List Piece} {text : List Char} :
    covers (.char c :: pieces) text = true ↔
      ∃ after, covers pieces after = true ∧ text = c :: after := by
  cases text with
  | nil => simp [covers]
  | cons first rest =>
      simp only [covers, Bool.and_eq_true, decide_eq_true_eq, List.cons.injEq]
      constructor
      · rintro ⟨rfl, covered⟩
        exact ⟨rest, covered, rfl, rfl⟩
      · rintro ⟨_, covered, rfl, rfl⟩
        exact ⟨rfl, covered⟩

/-- A route covers exactly the texts that fall apart into its parts: a slash or nothing follows a
segment. -/
theorem Written.covers_iff {parts : List Part} (written : Written parts) {text : List Char} :
    covers (parts.map Part.piece) text = true ↔ Splits parts text := by
  induction written generalizing text with
  | nil => simp [covers, splits_nil_iff]
  | char c written ih =>
      rw [splits_char_iff, List.map_cons, Part.piece, covers_char_iff]
      simp only [ih]
  | lastSegment named =>
      rw [splits_last_iff, Part.Takes, List.map_singleton, Part.piece, covers_segment_iff]
      constructor
      · rintro ⟨front, after, takes, _, covered, rfl⟩
        rwa [List.isEmpty_iff.mp covered, List.append_nil]
      · intro takes
        exact ⟨text, [], takes, rfl, rfl, (List.append_nil text).symm⟩
  | @segment name parts named written ih =>
      rw [splits_cons_iff, List.map_cons, Part.piece, covers_segment_iff]
      constructor
      · rintro ⟨front, after, takes, _, covered, rfl⟩
        obtain ⟨more, covered, rfl⟩ := covers_char_iff.mp covered
        exact ⟨front, _, takes, splits_char_iff.mpr ⟨more, ih.mp covered, rfl⟩, rfl⟩
      · rintro ⟨front, _, takes, after, rfl⟩
        obtain ⟨more, splits, rfl⟩ := splits_char_iff.mp after
        exact ⟨front, _, takes, by simp, covers_char_iff.mpr ⟨more, ih.mpr splits, rfl⟩, rfl⟩
  | rest named =>
      rw [splits_last_iff, Part.Takes]
      simp [Part.piece, covers]

/-- The route leads to a path that falls apart into its parts. -/
def Leads (parts : List Part) (path : String) : Prop :=
  Splits parts path.toList

/-! ## Single visits -/

/-- The visit asks for a page by a method that a page allows. -/
def Visit.Reads (visit : Visit) : Prop :=
  visit.method = "GET" ∨ visit.method = "HEAD"

instance (visit : Visit) : Decidable visit.Reads :=
  inferInstanceAs (Decidable (_ ∨ _))

/-- The visit reads the metrics. -/
def scrapes (site : Site) (visit : Visit) : Bool :=
  decide visit.Reads && (site.content? (pathOf visit.target) == some .metrics)

theorem scrapes_iff {path : String} {parts : List Part} (written : Written parts)
    {visit : Visit} :
    (Site.mk path ⟨parts.map Part.piece⟩).scrapes visit = true ↔
      visit.Reads ∧ pathOf visit.target ∉ fixedPaths ∧ Leads parts (pathOf visit.target) := by
  rw [scrapes, Bool.and_eq_true, decide_eq_true_eq, beq_iff_eq, content?_eq_metrics_iff,
    Route.leadsTo, written.covers_iff, Leads]

/-- What becomes of a visit to a site whose metrics have a route of these parts. -/
structure Attends {σ : Type} (router : Router σ) (collector : Collector) (parts : List Part)
    (visit : Visit) (exporter : Exporter) (state : σ) (turn : Turn σ Page) : Prop where
  fixed : visit.Reads → pathOf visit.target ∈ fixedPaths →
    turn.value.status = 200 ∧ turn.Silent exporter state
  metrics : visit.Reads → pathOf visit.target ∉ fixedPaths → Leads parts (pathOf visit.target) →
    turn.value.status = 200 ∧ turn.traces = (exporter.runCycle router collector state).traces
  notAllowed : ¬visit.Reads →
    pathOf visit.target ∈ fixedPaths ∨ Leads parts (pathOf visit.target) →
      turn.value.status = 405 ∧ turn.Silent exporter state
  notFound : pathOf visit.target ∉ fixedPaths → ¬Leads parts (pathOf visit.target) →
    turn.value.status = 404 ∧ turn.Silent exporter state

section

variable {σ : Type} (router : Router σ) (collector : Collector) {site : Site} {visit : Visit}
  (exporter : Exporter) (state : σ)

theorem traces_give_metrics (site : Site) :
    (site.give router collector .metrics exporter state).traces =
      (exporter.runCycle router collector state).traces := by
  simp only [give, Exporter.scrape, Turn.traces, Turn.map]

/-- Reading a content gives its page, without its body if only the head is asked for. -/
theorem answer_of_reads (reads : visit.Reads) {content : Content}
    (found : site.content? (pathOf visit.target) = some content) :
    (site.answer router collector visit exporter state).value.status = 200 ∧
      (site.answer router collector visit exporter state).traces =
        (site.give router collector content exporter state).traces := by
  have given : (site.give router collector content exporter state).value.status = 200 := by
    cases content <;> rfl
  unfold answer
  rw [found]
  rcases reads with get | head
  · simp only [get, if_true, given, and_self]
  · have notGet : ¬"HEAD" = "GET" := by decide
    simp only [head, if_neg notGet, if_true]
    generalize site.give router collector content exporter state = turn at *
    exact ⟨given, rfl⟩

theorem answer_of_not_reads (other : ¬visit.Reads) {content : Content}
    (found : site.content? (pathOf visit.target) = some content) :
    site.answer router collector visit exporter state =
      { value := methodNotAllowed, exporter, router := state } := by
  rw [Visit.Reads, not_or] at other
  simp only [answer, found, if_neg other.1, if_neg other.2]

theorem answer_of_nothing (missing : site.content? (pathOf visit.target) = none) :
    site.answer router collector visit exporter state =
      { value := notFound, exporter, router := state } := by
  simp only [answer, missing]

/-- A visit to the metrics leaves what one cycle leaves. -/
theorem traces_answer_of_scrapes (scraped : site.scrapes visit = true) :
    (site.answer router collector visit exporter state).traces =
      (exporter.runCycle router collector state).traces := by
  rw [scrapes, Bool.and_eq_true, decide_eq_true_eq, beq_iff_eq] at scraped
  rw [(answer_of_reads router collector exporter state scraped.1 scraped.2).2,
    traces_give_metrics]

/-- Any other visit is silent. -/
theorem silent_answer_of_not_scrapes (other : site.scrapes visit = false) :
    (site.answer router collector visit exporter state).Silent exporter state := by
  cases found : site.content? (pathOf visit.target) with
  | none =>
      rw [answer_of_nothing router collector exporter state found]
      exact ⟨rfl, rfl, rfl, rfl⟩
  | some content =>
      by_cases reads : visit.Reads
      · have given := (answer_of_reads router collector exporter state reads found).2
        cases content with
        | landing => exact Turn.silent_of_traces_eq given
        | probe => exact Turn.silent_of_traces_eq given
        | metrics => simp [scrapes, reads, found] at other
      · rw [answer_of_not_reads router collector exporter state reads found]
        exact ⟨rfl, rfl, rfl, rfl⟩

theorem answer_attends {path : String} {parts : List Part} (written : Written parts)
    (visit : Visit) :
    Attends router collector parts visit exporter state
      ((Site.mk path ⟨parts.map Part.piece⟩).answer router collector visit exporter state) := by
  have scraped := @scrapes_iff path parts written visit
  have silent (astray : (Site.mk path ⟨parts.map Part.piece⟩).scrapes visit = false) :=
    silent_answer_of_not_scrapes router collector exporter state astray
  rw [← Bool.not_eq_true, scraped] at silent
  have leads : (Route.mk (parts.map Part.piece)).leadsTo (pathOf visit.target) = true ↔
      Leads parts (pathOf visit.target) := written.covers_iff
  constructor
  · intro reads fixed
    refine ⟨?_, silent fun asked => asked.2.1 fixed⟩
    rcases content?_of_fixed (Site.mk path ⟨parts.map Part.piece⟩) fixed with found | found
    · exact (answer_of_reads router collector exporter state reads found).1
    · exact (answer_of_reads router collector exporter state reads found).1
  · intro reads free route
    have found := (content?_eq_metrics_iff (Site.mk path ⟨parts.map Part.piece⟩) _).mpr
      ⟨free, leads.mpr route⟩
    have answered := answer_of_reads router collector exporter state reads found
    rwa [traces_give_metrics] at answered
  · intro other place
    refine ⟨?_, silent fun asked => other asked.1⟩
    have present : ∃ content,
        (Site.mk path ⟨parts.map Part.piece⟩).content? (pathOf visit.target) = some content := by
      by_cases fixed : pathOf visit.target ∈ fixedPaths
      · rcases content?_of_fixed (Site.mk path ⟨parts.map Part.piece⟩) fixed with found | found
        · exact ⟨_, found⟩
        · exact ⟨_, found⟩
      · exact ⟨_, (content?_eq_metrics_iff _ _).mpr
          ⟨fixed, leads.mpr (place.resolve_left fixed)⟩⟩
    obtain ⟨content, found⟩ := present
    rw [answer_of_not_reads router collector exporter state other found]
    rfl
  · intro free astray
    refine ⟨?_, silent fun asked => astray asked.2.2⟩
    have missing : (Site.mk path ⟨parts.map Part.piece⟩).content? (pathOf visit.target) = none := by
      rw [content?_of_free _ free, if_neg (mt leads.mp astray)]
    rw [answer_of_nothing router collector exporter state missing]
    rfl

end

/-! ## Visits in a row -/

section

variable {σ : Type} (router : Router σ) (collector : Collector) (site : Site)

/-- Answers visits one after the other. -/
def serve : List Visit → Exporter → σ → Turn σ (List Page)
  | [], exporter, state => { value := [], exporter, router := state }
  | visit :: visits, exporter, state =>
      let first := site.answer router collector visit exporter state
      (first.followedBy (serve visits first.exporter first.router)).map (first.value :: ·)

/-- Visits in two rows are answered as in one. -/
theorem serve_append (earlier later : List Visit) (exporter : Exporter) (state : σ) :
    site.serve router collector (earlier ++ later) exporter state =
      let first := site.serve router collector earlier exporter state
      (first.followedBy (site.serve router collector later first.exporter first.router)).map
        (first.value ++ ·) := by
  induction earlier generalizing exporter state with
  | nil => simp [serve, Turn.followedBy, Turn.map]
  | cons visit earlier ih =>
      rw [List.cons_append, serve, ih]
      simp [serve, Turn.followedBy, Turn.map]

/-- A row of visits leaves what a cycle for each visit to the metrics leaves. -/
theorem traces_serve (visits : List Visit) (exporter : Exporter) (state : σ) :
    (site.serve router collector visits exporter state).traces =
      exporter.runCycles router collector (visits.countP site.scrapes) state := by
  induction visits generalizing exporter state with
  | nil => rfl
  | cons visit visits ih =>
      rw [serve, Turn.traces_map, Turn.traces_followedBy, ih]
      cases scraped : site.scrapes visit with
      | true =>
          have cycle := traces_answer_of_scrapes router collector exporter state scraped
          rw [List.countP_cons_of_pos scraped, Exporter.runCycles]
          exact Turn.followedBy_eq_of_traces_eq cycle
            (Exporter.runCycles router collector (visits.countP site.scrapes))
      | false =>
          have silent := silent_answer_of_not_scrapes router collector exporter state scraped
          rw [List.countP_cons_of_neg (by simp [scraped]), silent.followedBy_eq, silent.exporter_eq,
            silent.router_eq]

end

/-- A site with its metrics at a path, and any row of visits.  Every single one is answered by the
rules of `Attends`, from what the visits before it have left; the metrics are under the paths that
fall apart into the parts of the written route.  As a whole the row leaves what one cycle for each
visit to the metrics leaves: requests, events, session and registry. -/
theorem visits_attended {path : String} {site : Site} (built : atPath path = .ok site) :
    ∃ parts, ReadsAs path parts ∧
      (∀ visit : Visit, site.scrapes visit = true ↔
        visit.Reads ∧ pathOf visit.target ∉ fixedPaths ∧ Leads parts (pathOf visit.target)) ∧
      ∀ (σ : Type) (router : Router σ) (collector : Collector) (exporter : Exporter) (state : σ),
        (∀ earlier visit later,
          let before := site.serve router collector earlier exporter state
          let turn := site.answer router collector visit before.exporter before.router
          Attends router collector parts visit before.exporter before.router turn ∧
            (site.serve router collector (earlier ++ visit :: later) exporter state).value =
              before.value ++ turn.value ::
                (site.serve router collector later turn.exporter turn.router).value) ∧
        ∀ visits, (site.serve router collector visits exporter state).traces =
          exporter.runCycles router collector (visits.countP site.scrapes) state := by
  have free : path ∉ fixedPaths := by
    intro fixed
    rw [atPath, if_pos fixed] at built
    cases built
  obtain ⟨parts, reads, rfl⟩ := (atPath_eq_ok_iff free).mp built
  refine ⟨parts, reads, fun visit => scrapes_iff reads.written, ?_⟩
  intro σ router collector exporter state
  constructor
  · intro earlier visit later before turn
    constructor
    · exact answer_attends router collector _ _ reads.written visit
    · rw [serve_append]
      rfl
  · intro visits
    exact traces_serve router collector _ visits exporter state

/-- Under the path of any segment the probes are still the probes. -/
theorem visits_attended_of_segment :
    let site : Site := ⟨"/\x7bpage\x7d", ⟨[.char '/', .segment]⟩⟩
    let visits : List Visit :=
      [⟨"GET", "/health"⟩, ⟨"GET", "/any?of=these"⟩, ⟨"POST", "/any"⟩, ⟨"GET", "/any/"⟩,
        ⟨"HEAD", "/healthy"⟩]
    atPath "/\x7bpage\x7d" = .ok site ∧
      ∀ collector : Collector,
        (site.serve .unreachable collector visits {} ()).traces =
          Exporter.runCycles .unreachable collector 2 {} () := by
  intro site visits
  have built : atPath "/\x7bpage\x7d" = .ok site := by decide +kernel
  obtain ⟨_, _, _, attended⟩ := visits_attended built
  have two : visits.countP site.scrapes = 2 := by decide +kernel
  refine ⟨built, fun collector => ?_⟩
  rw [← two]
  exact (attended Unit .unreachable collector {} ()).2 visits

end Site

end RouterTelemetry
