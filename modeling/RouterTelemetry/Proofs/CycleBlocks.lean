import Mathlib.Data.List.Induction
import Mathlib.Data.List.Nodup
import RouterTelemetry.Proofs.Interleaving
import RouterTelemetry.Proofs.Publication
import RouterTelemetry.Proofs.SessionHistory

/-!
# Cycles in blocks

Scrapes take their turns, so the exchanges of a cycle stand together, and they are those of
the cycle run alone from the session and the router that it has found.  `Orderly` says so
of a service by the cycles that are over and the one under way; every step keeps it, and so
it holds after every schedule.
-/

namespace RouterTelemetry

open Http

/-! ## A cycle alone -/

namespace Client

/-- Every run of the dialogue leaves the session as it is and sends fetches alone, which
carry its cookies. -/
def Browsing {α : Type} (dialogue : Dialogue α) : Prop :=
  ∀ (σ : Type) (router : Router σ) (session : Session) (state : σ),
    (dialogue.run router session state).session = session ∧
      ∀ exchange ∈ (dialogue.run router session state).exchanges,
        exchange.request.method = "GET" ∧
          exchange.request.cookieHeaders = session.header?.toList

theorem browsing_composable : Composable Browsing where
  done value σ router session state := by simp
  report _ next σ router session state := next σ router session state
  bind {α β dialogue f} first rest σ router session state := by
    obtain ⟨kept, early⟩ := first σ router session state
    obtain ⟨keptToo, late⟩ := rest (dialogue.run router session state).value σ router
      (dialogue.run router session state).session (dialogue.run router session state).router
    rw [Dialogue.run_bind]
    constructor
    · exact keptToo.trans kept
    · intro exchange member
      rcases List.mem_append.mp member with inFirst | inRest
      · exact early exchange inFirst
      · rw [← kept]
        exact late exchange inRest

theorem get_browsing (endpoint : Endpoint) {α : Type} (resource : Resource α) :
    Browsing (get endpoint resource).run := by
  intro σ router session state
  cases parsed : Url.parse (endpoint.addressOf resource.path) with
  | error fault =>
      rw [get_run_of_parse_error resource router session state parsed]
      simp
  | ok url =>
      rw [get_run_of_parse_ok resource router session state parsed]
      rcases fetchRequest_carries url session with ⟨post, _⟩ | fetch
      · exact absurd post (by simp [fetchRequest])
      · simpa using fetch

/-- The exchanges are none, or those of a login and of fetches that carry the cookies which
this login has brought. -/
inductive LedByLogin (endpoint : Endpoint) (password : String) : List Exchange → Prop where
  | none : LedByLogin endpoint password []
  | login {url : Url} {reply : Reply} {fetches : List Exchange}
      (isUrl : Url.parse (endpoint.addressOf loginPath) = .ok url)
      (carried : ∀ fetch ∈ fetches, ∃ answer, reply = .ok answer ∧ answer.status < 300 ∧
        cookiesOf answer ≠ [] ∧ fetch.request.method = "GET" ∧
        fetch.request.cookieHeaders = (Session.mk (cookiesOf answer)).header?.toList) :
      LedByLogin endpoint password (⟨loginRequest url password, reply⟩ :: fetches)

theorem LedByLogin.of_isPrefix {endpoint : Endpoint} {password : String}
    {some all : List Exchange} (led : LedByLogin endpoint password all) (start : some <+: all) :
    LedByLogin endpoint password some := by
  cases led with
  | none =>
      rw [List.prefix_nil.mp start]
      exact .none
  | login isUrl carried =>
      rcases List.prefix_cons_iff.mp start with rfl | ⟨fetches, rfl, within⟩
      · exact .none
      · exact .login isUrl fun fetch member => carried fetch (within.subset member)

theorem takeSnapshot_ledByLogin (endpoint : Endpoint) (password : String) (bands : List Band)
    {σ : Type} (router : Router σ) (session : Session) (state : σ) :
    LedByLogin endpoint password
      ((takeSnapshot endpoint password bands).run.run router session state).exchanges := by
  cases parsed : Url.parse (endpoint.addressOf loginPath) with
  | error fault =>
      have first := login_run_of_parse_error password router session state parsed
      rw [takeSnapshot_run_of_login_error bands (by rw [first]), first]
      exact .none
  | ok url =>
      have first := login_run_of_parse_ok password router session state parsed
      dsimp only at first
      cases granted : sessionFrom (router.reply (loginRequest url password) state).1 with
      | error failure =>
          rw [granted] at first
          have refused : ((login endpoint password).run.run router session state).value =
              .error failure := by rw [first]; rfl
          rw [takeSnapshot_run_of_login_error bands refused, first]
          exact .login parsed (by simp)
      | ok grant =>
          obtain ⟨answer, reply_eq, low, cookies, rfl⟩ := sessionFrom_eq_ok_iff.mp granted
          have fetching := browsing_composable.fetching (get_browsing endpoint)
            (fetchGroups_fetching endpoint bands)
          obtain ⟨_, carried⟩ := fetching σ router ⟨cookiesOf answer⟩
            (router.reply (loginRequest url password) state).2
          rw [granted] at first
          rw [takeSnapshot_run_of_login_ok bands (by rw [first]; rfl), first]
          apply LedByLogin.login parsed
          intro fetch member
          obtain ⟨get, cookie⟩ := carried fetch member
          exact ⟨answer, reply_eq, low, cookies, get, cookie⟩

end Client

/-- After its snapshot a cycle sends no more requests. -/
theorem Collector.exchanges_cycle_run {σ : Type} (collector : Collector) (router : Router σ)
    (session : Session) (state : σ) :
    (collector.cycle.run router session state).exchanges =
      ((Client.takeSnapshot collector.endpoint collector.password collector.bands).run.run router
        session state).exchanges := by
  rw [cycle, Dialogue.run_report, collect]
  cases taken : ((Client.takeSnapshot collector.endpoint collector.password
      collector.bands).run.run router session state).value with
  | error failure => rw [Attempt.run_bind_of_error _ taken]
  | ok snapshot =>
      rw [Attempt.run_bind_of_ok _ taken]
      dsimp only
      rw [Attempt.run_bind_of_ok _ (by rw [Attempt.run_reportAll_run]), Attempt.run_reportAll_run]
      simp

/-! ## Blocks -/

/-- A cycle as it went: what it has found, the exchanges it has had, and what it has
collected, unless it was dropped or is still under way. -/
structure Block (ι σ : Type) where
  scrape : ι
  session : Session
  router : σ
  exchanges : List Exchange := []
  result : Option (Except Failure SampleSet) := none

namespace Block

variable {ι σ : Type}

/-- The exchanges of a block by the scrape that had them. -/
def tagged (block : Block ι σ) : List (ι × Exchange) :=
  block.exchanges.map fun exchange => (block.scrape, exchange)

/-- The registry after some blocks: what the last of them that came to its end has left, or
that of a new exporter. -/
def outcome (blocks : List (Block ι σ)) : Registry :=
  blocks.foldl
    (fun registry block =>
      block.result.elim registry fun result => (Collector.conclude .down result).registry)
    .down

variable (router : Router σ) (collector : Collector)

/-- The cycle run alone from what it has found. -/
@[irreducible]
def alone (block : Block ι σ) : Dialogue.Run σ (Except Failure SampleSet) :=
  collector.cycle.run router block.session block.router

@[simp]
theorem alone_with_exchanges (block : Block ι σ) (exchanges : List Exchange) :
    alone router collector { block with exchanges } = block.alone router collector := by
  simp only [alone]

@[simp]
theorem alone_with_result (block : Block ι σ) (result : Option (Except Failure SampleSet)) :
    alone router collector { block with result } = block.alone router collector := by
  simp only [alone]

/-- The block is that of a cycle: as far as it went its exchanges are those of the cycle run
alone, and all of them if it came to its end. -/
structure Genuine (block : Block ι σ) : Prop where
  start : block.exchanges <+: (block.alone router collector).exchanges
  whole : ∀ result, block.result = some result →
    result = (block.alone router collector).value ∧
      block.exchanges = (block.alone router collector).exchanges

variable {router collector}

/-- The block of a cycle that nothing has disturbed. -/
def completed (scrape : ι) (session : Session) (state : σ)
    (run : Dialogue.Run σ (Except Failure SampleSet)) : Block ι σ :=
  { scrape, session, router := state, exchanges := run.exchanges, result := some run.value }

theorem genuine_completed (scrape : ι) {session : Session} {state : σ}
    {run : Dialogue.Run σ (Except Failure SampleSet)}
    (run_eq : collector.cycle.run router session state = run) :
    (completed scrape session state run).Genuine router collector := by
  have alone_eq : (completed scrape session state run).alone router collector = run := by
    rw [alone]
    exact run_eq
  constructor
  · rw [alone_eq]
    exact List.prefix_rfl
  · rintro result ⟨⟩
    rw [alone_eq]
    exact ⟨rfl, rfl⟩

theorem Genuine.ledByLogin {block : Block ι σ} (genuine : block.Genuine router collector) :
    Client.LedByLogin collector.endpoint collector.password block.exchanges := by
  apply Client.LedByLogin.of_isPrefix _ genuine.start
  rw [alone, Collector.exchanges_cycle_run]
  exact Client.takeSnapshot_ledByLogin _ _ _ router block.session block.router

@[simp]
theorem outcome_nil : outcome ([] : List (Block ι σ)) = .down :=
  rfl

theorem outcome_concat (blocks : List (Block ι σ)) (block : Block ι σ) :
    outcome (blocks ++ [block]) =
      block.result.elim (outcome blocks) fun result =>
        (Collector.conclude .down result).registry := by
  simp [outcome]

theorem known_outcome (blocks : List (Block ι σ)) : (outcome blocks).Known := by
  induction blocks using List.reverseRecOn with
  | nil => exact Registry.known_down
  | append_singleton blocks block ih =>
      rw [outcome_concat]
      cases block.result with
      | none => exact ih
      | some result => exact Collector.known_conclude Registry.known_down result

/-- Blocks without a result leave the registry as it is. -/
theorem outcome_append_of_unfinished {blocks later : List (Block ι σ)}
    (unfinished : ∀ block ∈ later, block.result = none) :
    outcome (blocks ++ later) = outcome blocks := by
  induction later using List.reverseRecOn with
  | nil => rw [List.append_nil]
  | append_singleton later block ih =>
      rw [← List.append_assoc, outcome_concat, unfinished block (by simp), Option.elim_none]
      exact ih fun other member => unfinished other (List.mem_append_left _ member)

/-- A block that came to its end makes those before it irrelevant. -/
theorem outcome_append_cons {block : Block ι σ} (ended : block.result.isSome)
    (before later : List (Block ι σ)) :
    outcome (before ++ block :: later) = outcome (block :: later) := by
  obtain ⟨result, ended⟩ := Option.isSome_iff_exists.mp ended
  simp [outcome, ended]

end Block

/-! ## Orderly services -/

namespace Service

variable {ι σ : Type} (router : Router σ) (collector : Collector)

/-- The rest of a cycle: what is done of its block and what the rest will do make the cycle run
alone. -/
structure Remains (block : Block ι σ) (session : Session) (state : σ)
    (rest : Dialogue (Except Failure SampleSet)) : Prop where
  value_eq : (block.alone router collector).value = (rest.run router session state).value
  exchanges_eq : (block.alone router collector).exchanges =
    block.exchanges ++ (rest.run router session state).exchanges

/-- The block is that of a cycle which stands at a phase. -/
inductive Going (block : Block ι σ) (session : Session) (state : σ) : Phase → Prop where
  | talking {rest : Dialogue (Except Failure SampleSet)}
      (remains : Remains router collector block session state rest) :
      Going block session state (.talking rest)
  | hearing {reply : Reply} {next : Reply → Dialogue (Except Failure SampleSet)}
      (remains : Remains router collector block session state (next reply)) :
      Going block session state (.hearing reply next)
  | failing {failure : Failure}
      (exchanges_eq : (block.alone router collector).exchanges = block.exchanges)
      (outcome_eq : (Collector.conclude .down (block.alone router collector).value).registry =
        .down) :
      Going block session state (.failing failure)

/-- The service has come to where it is by cycles one after the other: those that are over
and the one under way, if there is one. -/
structure Orderly (service : Service ι σ) (past : List (Block ι σ))
    (current : Option (Block ι σ)) : Prop where
  exchanges_eq : service.exchanges = (past ++ current.toList).flatMap Block.tagged
  distinct : ((past ++ current.toList).map Block.scrape).Nodup
  begun : ∀ block ∈ past ++ current.toList, service.phase block.scrape ≠ .waiting
  genuine : ∀ block ∈ past, block.Genuine router collector
  registry_eq : service.exporter.registry = Block.outcome past
  holder_eq : service.holder = current.map Block.scrape
  going : ∀ block ∈ current, Going router collector block service.exporter.session
    service.router (service.phase block.scrape)
  held : ∀ scrape, (service.phase scrape).inCycle = true → service.holder = some scrape
  concluded : ∀ scrape, service.phase scrape = .concluded →
    ∃ own ∈ past, own.scrape = scrape ∧ own.result.isSome

variable {router collector}

/-- At its start a cycle has all of it ahead. -/
theorem Remains.of_start (scrape : ι) (session : Session) (state : σ) :
    Remains router collector { scrape, session, router := state } session state
      collector.cycle where
  value_eq := by simp only [Block.alone]
  exchanges_eq := by simp only [Block.alone, List.nil_append]

/-- A cycle that has come to its end in full. -/
theorem genuine_of_exchanges_eq {block : Block ι σ}
    (exchanges_eq : (block.alone router collector).exchanges = block.exchanges) :
    Block.Genuine router collector
      { block with result := some (block.alone router collector).value } where
  start := by simp [exchanges_eq]
  whole result same := by
    cases same
    simp [exchanges_eq]

/-- A cycle that is dropped on the way. -/
theorem Going.genuine_of_dropped {block : Block ι σ} {session : Session} {state : σ}
    {phase : Phase} (going : Going router collector block session state phase) :
    Block.Genuine router collector { block with result := none } where
  start := by
    cases going with
    | talking remains => simp [remains.exchanges_eq]
    | hearing remains => simp [remains.exchanges_eq]
    | failing exchanges_eq _ => simp [exchanges_eq]
  whole _ impossible := by cases impossible

theorem Going.inCycle {block : Block ι σ} {session : Session} {state : σ} {phase : Phase}
    (going : Going router collector block session state phase) : phase.inCycle = true := by
  cases going <;> rfl

namespace Orderly

variable {service next : Service ι σ} {past : List (Block ι σ)} {current : Option (Block ι σ)}
  {block : Block ι σ} {scrape : ι} {phase : Phase}

theorem of_new (start : σ) :
    Orderly router collector ({ router := start } : Service ι σ) [] none where
  exchanges_eq := rfl
  distinct := List.nodup_nil
  begun := by simp
  genuine := by simp
  registry_eq := rfl
  holder_eq := rfl
  going := by simp
  held scrape inCycle := by cases inCycle
  concluded scrape at_phase := by cases at_phase

/-- A scrape in its cycle has the block under way. -/
theorem exists_current (orderly : Orderly router collector service past current)
    (inCycle : (service.phase scrape).inCycle = true) :
    ∃ block, current = some block ∧ block.scrape = scrape ∧
      Going router collector block service.exporter.session service.router
        (service.phase scrape) := by
  have holder := orderly.holder_eq
  rw [orderly.held scrape inCycle] at holder
  obtain ⟨block, rfl, rfl⟩ := Option.map_eq_some_iff.mp holder.symm
  exact ⟨block, rfl, rfl, orderly.going block rfl⟩

/-- A scrape outside of its cycle does not have the turn. -/
theorem holder_ne (orderly : Orderly router collector service past current)
    (outside : (service.phase scrape).inCycle = false) : service.holder ≠ some scrape := by
  intro holder
  rw [orderly.holder_eq] at holder
  obtain ⟨block, rfl, rfl⟩ := Option.map_eq_some_iff.mp holder
  rw [(orderly.going block rfl).inCycle] at outside
  cases outside

/-- What a publication or a failure makes of the registry is the outcome of the cycle. -/
theorem registry_publishTo (orderly : Orderly router collector service past current)
    (result : Except Failure SampleSet) :
    (∀ registry, Collector.publishTo service.exporter.registry result = (registry, none) →
        registry = (Collector.conclude .down result).registry) ∧
      ∀ registry failure,
        Collector.publishTo service.exporter.registry result = (registry, some failure) →
          registry = service.exporter.registry ∧
            (Collector.conclude .down result).registry = .down := by
  have known : service.exporter.registry.Known := by
    rw [orderly.registry_eq]
    exact Block.known_outcome past
  constructor
  · intro registry published
    rw [← Collector.conclude_eq_of_known known, Collector.conclude, published]
  · intro registry failure published
    have failed : (Collector.conclude service.exporter.registry result).failure =
        some failure := by
      rw [Collector.conclude, published]
    constructor
    · cases result with
      | error cause =>
          cases published
          rfl
      | ok samples =>
          cases checked : samples.series with
          | error rejection =>
              rw [Collector.publishTo_of_series_error checked] at published
              cases published
              rfl
          | ok series =>
              rw [Collector.publishTo_of_series_ok checked known] at published
              cases published
    · rw [← Collector.conclude_eq_of_known known]
      exact (Collector.conclude_of_failure known failed).1

variable [DecidableEq ι]

/-- A cycle goes on: its block grows by the exchanges of the step. -/
theorem advance (orderly : Orderly router collector service past (some block))
    (more : List Exchange) (phase : Phase)
    (going : Going router collector { block with exchanges := block.exchanges ++ more }
      next.exporter.session next.router phase)
    (phase_eq : next.phase = Function.update service.phase block.scrape phase)
    (exchanges_eq : next.exchanges =
      service.exchanges ++ more.map fun exchange => (block.scrape, exchange))
    (holder_eq : next.holder = service.holder)
    (registry_eq : next.exporter.registry = service.exporter.registry) :
    Orderly router collector next past
      (some { block with exchanges := block.exchanges ++ more }) where
  exchanges_eq := by
    rw [exchanges_eq, orderly.exchanges_eq]
    simp [Block.tagged]
  distinct := by simpa using orderly.distinct
  begun other member := by
    rw [phase_eq, Function.update_apply]
    split_ifs with same
    · rintro rfl
      cases going
    · apply orderly.begun other
      simp only [Option.toList_some, List.mem_append, List.mem_singleton] at member ⊢
      rcases member with old | rfl
      · exact .inl old
      · exact absurd rfl same
  genuine := orderly.genuine
  registry_eq := registry_eq.trans orderly.registry_eq
  holder_eq := holder_eq.trans orderly.holder_eq
  going other same := by
    cases same
    simpa [phase_eq] using going
  held other inCycle := by
    rw [phase_eq, Function.update_apply] at inCycle
    rw [holder_eq]
    split_ifs at inCycle with same
    · rw [orderly.holder_eq, same]
      rfl
    · exact orderly.held other inCycle
  concluded other at_phase := by
    rw [phase_eq, Function.update_apply] at at_phase
    split_ifs at at_phase
    · subst at_phase
      cases going
    · exact orderly.concluded other at_phase

/-- A cycle goes on without an exchange. -/
theorem advance_silent (orderly : Orderly router collector service past (some block))
    (phase : Phase)
    (going : Going router collector block next.exporter.session next.router phase)
    (phase_eq : next.phase = Function.update service.phase block.scrape phase)
    (exchanges_eq : next.exchanges = service.exchanges)
    (holder_eq : next.holder = service.holder)
    (registry_eq : next.exporter.registry = service.exporter.registry) :
    Orderly router collector next past (some block) := by
  have advanced := orderly.advance [] phase (by simpa using going) phase_eq
    (by simpa using exchanges_eq) holder_eq registry_eq
  simpa using advanced

/-- A cycle is over: it has concluded with a result, or its scrape was dropped. -/
theorem close (orderly : Orderly router collector service past (some block)) (phase : Phase)
    {result : Option (Except Failure SampleSet)}
    (genuine : Block.Genuine router collector { block with result })
    (ended : (phase = .concluded ∧ result.isSome) ∨ phase = .dropped)
    (phase_eq : next.phase = Function.update service.phase block.scrape phase)
    (exchanges_eq : next.exchanges = service.exchanges)
    (holder_eq : next.holder = none)
    (registry_eq : next.exporter.registry = Block.outcome (past ++ [{ block with result }])) :
    Orderly router collector next (past ++ [{ block with result }]) none where
  exchanges_eq := by
    rw [exchanges_eq, orderly.exchanges_eq]
    simp [Block.tagged]
  distinct := by simpa using orderly.distinct
  begun other member := by
    rw [phase_eq, Function.update_apply]
    split_ifs with same
    · rintro rfl
      simp at ended
    · apply orderly.begun other
      simp only [Option.toList_none, List.append_nil, Option.toList_some, List.mem_append,
        List.mem_singleton] at member ⊢
      rcases member with old | rfl
      · exact .inl old
      · exact absurd rfl same
  genuine other member := by
    rcases List.mem_append.mp member with old | new
    · exact orderly.genuine other old
    · rw [List.mem_singleton.mp new]
      exact genuine
  registry_eq := registry_eq
  holder_eq := holder_eq
  going := by simp
  held other inCycle := by
    rw [phase_eq, Function.update_apply] at inCycle
    split_ifs at inCycle with same
    · rcases ended with ⟨rfl, _⟩ | rfl <;> cases inCycle
    · have holder := orderly.held other inCycle
      rw [orderly.holder_eq] at holder
      exact absurd (Option.some.inj holder).symm same
  concluded other at_phase := by
    rw [phase_eq, Function.update_apply] at at_phase
    split_ifs at at_phase with same
    · subst at_phase
      refine ⟨{ block with result }, by simp, same.symm, ?_⟩
      simpa using ended
    · obtain ⟨own, member, mine, ended⟩ := orderly.concluded other at_phase
      exact ⟨own, List.mem_append_left _ member, mine, ended⟩

/-- A scrape outside of its cycle gets on, and the cycles stay as they are. -/
theorem aside (orderly : Orderly router collector service past current)
    (outside : (service.phase scrape).inCycle = false)
    (reached : phase = .dropped ∨ ∃ text, phase = .answered text) :
    Orderly router collector (service.enter scrape phase) past current where
  exchanges_eq := orderly.exchanges_eq
  distinct := orderly.distinct
  begun other member := by
    simp only [enter, Function.update_apply]
    split_ifs
    · rintro rfl
      simp at reached
    · exact orderly.begun other member
  genuine := orderly.genuine
  registry_eq := orderly.registry_eq
  holder_eq := orderly.holder_eq
  going other same := by
    have going := orderly.going other same
    simp only [enter, Function.update_apply]
    split_ifs with mine
    · rw [mine] at going
      exact absurd going.inCycle (by simp [outside])
    · exact going
  held other inCycle := by
    simp only [enter, Function.update_apply] at inCycle
    split_ifs at inCycle
    · rcases reached with rfl | ⟨text, rfl⟩ <;> cases inCycle
    · exact orderly.held other inCycle
  concluded other at_phase := by
    simp only [enter, Function.update_apply] at at_phase
    split_ifs at at_phase
    · subst at_phase
      simp at reached
    · exact orderly.concluded other at_phase

/-- A scrape whose turn it is begins a cycle. -/
theorem start (orderly : Orderly router collector service past none)
    (waiting : service.phase scrape = .waiting) :
    Orderly router collector
      { service.enter scrape (.talking collector.cycle) with holder := some scrape } past
      (some { scrape, session := service.exporter.session, router := service.router }) where
  exchanges_eq := by
    simpa [Block.tagged, enter] using orderly.exchanges_eq
  distinct := by
    have distinct := orderly.distinct
    simp only [Option.toList_none, List.append_nil] at distinct
    simp only [Option.toList_some, List.map_append, List.map_cons, List.map_nil]
    rw [← List.concat_eq_append]
    apply List.Nodup.concat _ distinct
    intro member
    obtain ⟨block, blockMember, same⟩ := List.mem_map.mp member
    exact orderly.begun block (by simpa using blockMember) (same ▸ waiting)
  begun other member := by
    simp only [enter, Function.update_apply]
    split_ifs with same
    · simp
    · apply orderly.begun other
      simp only [Option.toList_none, List.append_nil, Option.toList_some, List.mem_append,
        List.mem_singleton] at member ⊢
      rcases member with old | rfl
      · exact old
      · exact absurd rfl same
  genuine := orderly.genuine
  registry_eq := orderly.registry_eq
  holder_eq := rfl
  going other same := by
    cases same
    simp only [enter, Function.update_self]
    exact .talking (Remains.of_start scrape _ _)
  held other inCycle := by
    simp only [enter, Function.update_apply] at inCycle
    split_ifs at inCycle with same
    · rw [same]
    · have holder := orderly.held other inCycle
      rw [orderly.holder_eq] at holder
      cases holder
  concluded other at_phase := by
    simp only [enter, Function.update_apply] at at_phase
    split_ifs at at_phase
    exact orderly.concluded other at_phase

theorem talk (orderly : Orderly router collector service past (some block))
    {rest : Dialogue (Except Failure SampleSet)}
    (remains : Remains router collector block service.exporter.session service.router rest) :
    ∃ past' current',
      Orderly router collector (service.talk router block.scrape rest) past' current' := by
  cases rest with
  | done result =>
      have exchanges_eq : (block.alone router collector).exchanges = block.exchanges := by
        simpa using remains.exchanges_eq
      have value_eq : (block.alone router collector).value = result := remains.value_eq
      obtain ⟨success, failed⟩ := orderly.registry_publishTo result
      rcases published : Collector.publishTo service.exporter.registry result with
        ⟨registry, _ | failure⟩
      · refine ⟨_, _, orderly.close .concluded (genuine_of_exchanges_eq exchanges_eq)
          (.inl ⟨rfl, rfl⟩) ?_ ?_ ?_ ?_⟩
        all_goals simp only [Service.talk, published, leave, enter]
        rw [Block.outcome_concat, value_eq]
        exact success registry published
      · obtain ⟨registry_eq, outcome_eq⟩ := failed registry failure published
        rw [← value_eq] at outcome_eq
        refine ⟨_, _, orderly.advance_silent (.failing failure) (.failing exchanges_eq outcome_eq)
          ?_ ?_ ?_ ?_⟩
        all_goals simp only [Service.talk, published, enter, registry_eq]
  | report event rest =>
      exact ⟨_, _, orderly.advance_silent (.talking rest)
        (.talking ⟨remains.value_eq, remains.exchanges_eq⟩) rfl rfl rfl rfl⟩
  | ask request rest =>
      refine ⟨_, _, orderly.advance [⟨request, (router.reply request service.router).1⟩]
        (.hearing (router.reply request service.router).1 rest)
        (.hearing ⟨?_, ?_⟩) rfl rfl rfl rfl⟩
      · simpa [Service.talk, enter] using remains.value_eq
      · simpa [Service.talk, enter] using remains.exchanges_eq
  | look rest =>
      exact ⟨_, _, orderly.advance_silent (.talking (rest service.exporter.session))
        (.talking ⟨remains.value_eq, remains.exchanges_eq⟩) rfl rfl rfl rfl⟩
  | keep session rest =>
      exact ⟨_, _, orderly.advance_silent (.talking rest)
        (.talking ⟨remains.value_eq, remains.exchanges_eq⟩) rfl rfl rfl rfl⟩

theorem proceed (orderly : Orderly router collector service past current) (scrape : ι) :
    ∃ past' current',
      Orderly router collector (service.proceed router collector scrape) past' current' := by
  unfold Service.proceed
  cases at_phase : service.phase scrape with
  | waiting =>
      cases holder : service.holder with
      | some other => exact ⟨past, current, orderly⟩
      | none =>
          have idle : current = none := by simpa [holder] using orderly.holder_eq.symm
          subst idle
          exact ⟨_, _, orderly.start at_phase⟩
  | talking rest =>
      obtain ⟨block, rfl, rfl, going⟩ := orderly.exists_current (by rw [at_phase]; rfl)
      rw [at_phase] at going
      cases going with
      | talking remains => exact orderly.talk remains
  | hearing reply next =>
      obtain ⟨block, rfl, rfl, going⟩ := orderly.exists_current (by rw [at_phase]; rfl)
      rw [at_phase] at going
      cases going with
      | hearing remains =>
          exact ⟨_, _, orderly.advance_silent (.talking (next reply)) (.talking remains)
            rfl rfl rfl rfl⟩
  | failing failure =>
      obtain ⟨block, rfl, rfl, going⟩ := orderly.exists_current (by rw [at_phase]; rfl)
      rw [at_phase] at going
      cases going with
      | failing exchanges_eq outcome_eq =>
          have known : service.exporter.registry.Known := by
            rw [orderly.registry_eq]
            exact Block.known_outcome past
          refine ⟨_, _, orderly.close .concluded
            (genuine_of_exchanges_eq exchanges_eq) (.inl ⟨rfl, rfl⟩) ?_ ?_ ?_ ?_⟩
          · simp only [leave, enter]
          · simp only [leave, enter]
          · simp only [leave]
          · simp only [leave, Block.outcome_concat, Option.elim_some]
            rw [Registry.markDown_eq_of_known known, outcome_eq]
  | concluded => exact ⟨_, _, orderly.aside (by rw [at_phase]; rfl) (.inr ⟨_, rfl⟩)⟩
  | answered text => exact ⟨past, current, orderly⟩
  | dropped => exact ⟨past, current, orderly⟩

theorem drop (orderly : Orderly router collector service past current) (scrape : ι) :
    ∃ past' current', Orderly router collector (service.drop scrape) past' current' := by
  by_cases inCycle : (service.phase scrape).inCycle = true
  · obtain ⟨block, rfl, rfl, going⟩ := orderly.exists_current inCycle
    have holder_eq : service.holder = some block.scrape := orderly.holder_eq
    refine ⟨_, _, orderly.close .dropped going.genuine_of_dropped (.inr rfl) ?_ ?_ ?_ ?_⟩
    all_goals
      unfold Service.drop
      generalize service.phase block.scrape = phase at going
    · cases going <;> rfl
    · cases going <;> rfl
    · cases going <;> simp [holder_eq]
    · rw [Block.outcome_concat, Option.elim_none, ← orderly.registry_eq]
      cases going <;> rfl
  · have outside : (service.phase scrape).inCycle = false := by simpa using inCycle
    have dropped := orderly.aside outside (.inl rfl)
    have holder_eq : (if service.holder = some scrape then none else service.holder) =
        service.holder := if_neg (orderly.holder_ne outside)
    unfold Service.drop
    rw [holder_eq]
    cases at_phase : service.phase scrape with
    | waiting => exact ⟨_, _, dropped⟩
    | talking rest => exact ⟨_, _, dropped⟩
    | hearing reply next => exact ⟨_, _, dropped⟩
    | failing failure => exact ⟨_, _, dropped⟩
    | concluded => exact ⟨_, _, dropped⟩
    | answered text => exact ⟨_, _, orderly⟩
    | dropped => exact ⟨_, _, orderly⟩

end Orderly

/-- The block under way is that of a cycle, too, though it has no result yet. -/
theorem Orderly.exists_blocks {service : Service ι σ} {past : List (Block ι σ)}
    {current : Option (Block ι σ)} (orderly : Orderly router collector service past current) :
    ∃ under : List (Block ι σ), (∀ block ∈ under, block.result = none) ∧
      service.exchanges = (past ++ under).flatMap Block.tagged ∧
      ((past ++ under).map Block.scrape).Nodup ∧
      ∀ block ∈ past ++ under, block.Genuine router collector := by
  refine ⟨(current.map fun block => { block with result := none }).toList, ?_, ?_, ?_, ?_⟩
  · simp
  · rw [orderly.exchanges_eq]
    cases current <;> simp [Block.tagged]
  · have distinct := orderly.distinct
    cases current with
    | none => exact distinct
    | some block => simpa using distinct
  · intro block member
    rcases List.mem_append.mp member with old | new
    · exact orderly.genuine block old
    · obtain ⟨block, rfl, rfl⟩ := Option.map_eq_some_iff.mp (Option.mem_toList.mp new)
      exact (orderly.going block rfl).genuine_of_dropped

variable [DecidableEq ι] (router collector)

/-- Every schedule leaves an orderly service. -/
theorem exists_orderly_after (start : σ) (schedule : List (Action ι)) :
    ∃ past current,
      Orderly router collector (after router collector start schedule) past current := by
  induction schedule using List.reverseRecOn with
  | nil => exact ⟨[], none, .of_new start⟩
  | append_singleton schedule action ih =>
      obtain ⟨past, current, orderly⟩ := ih
      rw [after_concat, act]
      cases action.move with
      | proceed => exact orderly.proceed action.scrape
      | drop => exact orderly.drop action.scrape

/-- Whatever the schedule, the router has received its requests in blocks, one for each cycle
that has begun: those of a cycle run alone, led by its login, whose cookies all the other
requests of the block carry.  The registry is what the last cycle that came to its end has
left. -/
theorem exchanges_in_blocks (start : σ) (schedule : List (Action ι)) :
    ∃ blocks : List (Block ι σ),
      (after router collector start schedule).exchanges = blocks.flatMap Block.tagged ∧
      (blocks.map Block.scrape).Nodup ∧
      (∀ block ∈ blocks, block.Genuine router collector ∧
        Client.LedByLogin collector.endpoint collector.password block.exchanges) ∧
      (after router collector start schedule).exporter.registry = Block.outcome blocks := by
  obtain ⟨past, current, orderly⟩ := exists_orderly_after router collector start schedule
  obtain ⟨under, unfinished, exchanges_eq, distinct, genuine⟩ := orderly.exists_blocks
  refine ⟨past ++ under, exchanges_eq, distinct, ?_, ?_⟩
  · intro block member
    constructor
    · exact genuine block member
    · exact (genuine block member).ledByLogin
  · rw [Block.outcome_append_of_unfinished unfinished]
    exact orderly.registry_eq

end Service

end RouterTelemetry
