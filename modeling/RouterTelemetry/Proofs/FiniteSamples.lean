import RouterTelemetry.Cycle
import RouterTelemetry.Proofs.Exchange
import RouterTelemetry.Proofs.ProjectedValues

/-!
# Which samples are finite

The pages of a snapshot are what the answers hold, so a collection writes nothing but finite
values and those that a string in an answer spells.  The words for infinity and not-a-number are
such strings, and so are numerals that are too large for a double.
-/

namespace RouterTelemetry

open Json Http

/-- The body of the answer, if both have come. -/
def Http.Exchange.body? (exchange : Exchange) : Option Input :=
  exchange.reply.body.toOption

/-! ## Attempts -/

namespace Attempt

variable {α β : Type} {received : Input → Prop} {P : α → Prop} {Q : β → Prop}

/-- When all bodies that are received are of a kind, the attempt ends in such a value, if in
any. -/
def Yields (received : Input → Prop) (attempt : Attempt α) (P : α → Prop) : Prop :=
  ∀ (σ : Type) (router : Router σ) (session : Session) (state : σ),
    (∀ exchange ∈ (attempt.run.run router session state).exchanges,
      ∀ body ∈ exchange.body?, received body) →
    ∀ value, (attempt.run.run router session state).value = .ok value → P value

theorem Yields.pure {value : α} (holds : P value) :
    Yields received (pure value : Attempt α) P := by
  rintro σ router session state - _ ⟨⟩
  exact holds

theorem Yields.bind {attempt : Attempt α} {next : α → Attempt β}
    (first : Yields received attempt P) (rest : ∀ value, P value → Yields received (next value) Q) :
    Yields received (attempt >>= next) Q := by
  intro σ router session state all value ends
  cases made : (attempt.run.run router session state).value with
  | error failure =>
      rw [run_bind_of_error next made] at ends
      cases ends
  | ok middle =>
      rw [run_bind_of_ok next made] at all ends
      simp only [Dialogue.Run.exchanges_followedBy, List.forall_mem_append] at all
      exact rest middle (first σ router session state all.1 middle made) σ router _ _ all.2 value
        ends

theorem Yields.report {level : Level} (message : String) {next : Unit → Attempt β}
    (rest : Yields received (next ()) Q) :
    Yields received (Attempt.report level message >>= next) Q := by
  intro σ router session state all value ends
  rw [run_report_bind] at all ends
  exact rest σ router session state all value ends

theorem Yields.placing {attempt : Attempt α} (yields : Yields received attempt P)
    (place : Failure → Failure) : Yields received (attempt.placing place) P := by
  intro σ router session state all value ends
  rw [run_placing_run] at all ends
  dsimp only at all ends
  cases made : (attempt.run.run router session state).value with
  | error failure =>
      rw [made] at ends
      cases ends
  | ok found =>
      rw [made] at ends
      cases ends
      exact yields σ router session state all value made

theorem Yields.groupPages {fetching : Attempt α} {group : Group} {shown : α → String}
    (yields : Yields received fetching P) :
    Yields received (Client.groupPages group shown fetching) P :=
  (yields.placing _).bind fun _ holds => .report _ (.pure holds)

/-- Nothing is asked of the value of an attempt that has one of its own. -/
theorem Yields.any (attempt : Attempt α) : Yields received attempt fun _ => True :=
  fun _ _ _ _ _ _ _ => trivial

end Attempt

/-- Whatever comes from the body is allowed, and the body is not too long. -/
def Supplies (allowed : Float → Prop) (bound : Nat) (body : Input) : Prop :=
  (∀ quantity, Sourced body quantity → allowed quantity) ∧ body.length ≤ bound

namespace Client

open Attempt

variable {allowed : Float → Prop} {bound : Nat} (endpoint : Endpoint)

theorem fetch_yields {α : Type} {resource : Resource α} (lawful : resource.page.Lawful)
    (fromNothing : resource.page.FromNothing) :
    Yields (Supplies allowed bound) (fetch endpoint resource) (resource.All allowed bound) := by
  refine Yields.placing ?_ _
  intro σ router session state all pages ends
  cases parsed : Url.parse (endpoint.addressOf resource.path) with
  | error fault =>
      rw [get_run_of_parse_error resource router session state parsed] at ends
      cases ends
  | ok url =>
      rw [get_run_of_parse_ok resource router session state parsed] at all ends
      dsimp only at all ends
      rw [pagesFrom] at ends
      split at ends
      · cases ends
      next body found =>
        have came : body ∈ Exchange.body? ⟨fetchRequest url session, _⟩ :=
          congrArg Except.toOption found
        obtain ⟨implies, short⟩ := all _ (List.mem_singleton_self _) body came
        rw [Resource.decode] at ends
        split at ends
        next decoded =>
          cases ends
          exact Format.every_mono _ implies short
            (Format.drawn_of_decode (.list resource.page) lawful fromNothing decoded)
        · cases ends

theorem fetchDevice_yields : Yields (Supplies allowed bound) (fetchDevice endpoint) fun pages =>
    Resource.device.All allowed bound pages.device ∧
      Resource.processor.All allowed bound pages.processor ∧
        Resource.memory.All allowed bound pages.memory := by
  obtain ⟨device, processor, memory, _⟩ := Resource.lawful_pages
  obtain ⟨device', processor', memory', _⟩ := Resource.pages_fromNothing
  refine .report _ (.bind (fetch_yields endpoint device device') fun _ state => ?_)
  refine .bind (fetch_yields endpoint processor processor') fun _ time => ?_
  exact .bind (fetch_yields endpoint memory memory') fun _ room => .pure ⟨state, time, room⟩

theorem fetchWan_yields : Yields (Supplies allowed bound) (fetchWan endpoint) fun pages =>
    Resource.wan.All allowed bound pages.wan ∧ Resource.wanTraffic.All allowed bound pages.traffic ∧
      Resource.fibre.All allowed bound pages.fibre ∧
        Resource.diagnostics.All allowed bound pages.diagnostics := by
  obtain ⟨_, _, _, _, wan, traffic, fibre, diagnostics, _⟩ := Resource.lawful_pages
  obtain ⟨_, _, _, _, wan', traffic', fibre', diagnostics', _⟩ := Resource.pages_fromNothing
  refine .report _ (.bind (fetch_yields endpoint wan wan') fun _ state => ?_)
  refine .bind (fetch_yields endpoint traffic traffic') fun _ figures => ?_
  refine .bind (fetch_yields endpoint fibre fibre') fun _ port => ?_
  exact .bind (fetch_yields endpoint diagnostics diagnostics') fun _ probed =>
    .pure ⟨state, figures, port, probed⟩

theorem fetchLan_yields : Yields (Supplies allowed bound) (fetchLan endpoint) fun pages =>
    Resource.lan.All allowed bound pages.lan ∧ Resource.lanTraffic.All allowed bound pages.traffic ∧
      Resource.hosts.All allowed bound pages.hosts := by
  obtain ⟨_, _, _, _, _, _, _, _, lan, traffic, hosts, _⟩ := Resource.lawful_pages
  obtain ⟨_, _, _, _, _, _, _, _, lan', traffic', hosts', _⟩ := Resource.pages_fromNothing
  refine .report _ (.bind (fetch_yields endpoint lan lan') fun _ state => ?_)
  refine .bind (fetch_yields endpoint traffic traffic') fun _ figures => ?_
  exact .bind (fetch_yields endpoint hosts hosts') fun _ seen => .pure ⟨state, figures, seen⟩

theorem fetchWireless_yields (bands : List Band) :
    Yields (Supplies allowed bound) (fetchWireless endpoint bands) fun list =>
      ∀ pages ∈ list, (Resource.radio pages.band).All allowed bound pages.pages := by
  obtain ⟨_, _, _, _, _, _, _, _, _, _, _, radio, _⟩ := Resource.lawful_pages
  obtain ⟨_, _, _, _, _, _, _, _, _, _, _, radio', _⟩ := Resource.pages_fromNothing
  induction bands with
  | nil => exact .pure nofun
  | cons band bands ih =>
      have one : Yields (Supplies allowed bound) (fetchBand endpoint band) fun pages =>
          (Resource.radio pages.band).All allowed bound pages.pages :=
        .report _ (.bind (fetch_yields endpoint (radio band) (radio' band)) fun _ all => .pure all)
      refine .bind one fun pages first => .bind ih fun list others => .pure ?_
      exact List.forall_mem_cons.mpr ⟨first, others⟩

theorem fetchServices_yields : Yields (Supplies allowed bound) (fetchServices endpoint)
    (Resource.services.All allowed bound) := by
  obtain ⟨_, _, _, services, _⟩ := Resource.lawful_pages
  obtain ⟨_, _, _, services', _⟩ := Resource.pages_fromNothing
  exact .report _ (fetch_yields endpoint services services')

theorem fetchDns_yields : Yields (Supplies allowed bound) (fetchDns endpoint)
    (Resource.resolver.All allowed bound) := by
  obtain ⟨_, _, _, _, _, _, _, _, _, _, _, _, resolver, _⟩ := Resource.lawful_pages
  obtain ⟨_, _, _, _, _, _, _, _, _, _, _, _, resolver', _⟩ := Resource.pages_fromNothing
  exact .report _ (fetch_yields endpoint resolver resolver')

theorem fetchIptv_yields : Yields (Supplies allowed bound) (fetchIptv endpoint)
    (Resource.television.All allowed bound) := by
  obtain ⟨_, _, _, _, _, _, _, _, _, _, _, _, _, television⟩ := Resource.lawful_pages
  obtain ⟨_, _, _, _, _, _, _, _, _, _, _, _, _, television'⟩ := Resource.pages_fromNothing
  exact .report _ (fetch_yields endpoint television television')

theorem fetchGroups_yields (bands : List Band) :
    Yields (Supplies allowed bound) (fetchGroups endpoint bands) (Snapshot.All allowed bound) := by
  refine (fetchDevice_yields endpoint).groupPages.bind fun device deviceAll => ?_
  refine (fetchServices_yields endpoint).groupPages.bind fun services servicesAll => ?_
  refine (fetchWan_yields endpoint).groupPages.bind fun wan wanAll => ?_
  refine (fetchLan_yields endpoint).groupPages.bind fun lan lanAll => ?_
  refine (fetchWireless_yields endpoint bands).groupPages.bind fun wireless wirelessAll => ?_
  refine (fetchDns_yields endpoint).groupPages.bind fun dns dnsAll => ?_
  refine (fetchIptv_yields endpoint).groupPages.bind fun iptv iptvAll => .pure ?_
  exact
    { device := deviceAll.1, processor := deviceAll.2.1, memory := deviceAll.2.2
      services := servicesAll
      wan := wanAll.1, wanTraffic := wanAll.2.1, fibre := wanAll.2.2.1
      diagnostics := wanAll.2.2.2
      lan := lanAll.1, lanTraffic := lanAll.2.1, hosts := lanAll.2.2
      wireless := wirelessAll, dns := dnsAll, iptv := iptvAll }

theorem takeSnapshot_yields (password : String) (bands : List Band) :
    Yields (Supplies allowed bound) (takeSnapshot endpoint password bands)
      (Snapshot.All allowed bound) :=
  .report _ ((Yields.any _).bind fun _ _ => fetchGroups_yields endpoint bands)

end Client

/-- What is collected has allowed values if the answers supply nothing else. -/
theorem Collector.collect_yields {allowed : Float → Prop} {bound : Nat}
    (countable : Countable allowed bound) (collector : Collector) :
    Attempt.Yields (Supplies allowed bound) collector.collect (SampleSet.All allowed) := by
  refine .bind (Client.takeSnapshot_yields collector.endpoint collector.password collector.bands)
    fun snapshot all => ?_
  refine .bind (.any _) fun _ _ => ?_
  rintro σ router session state - samples projected
  exact Projection.project_all countable all projected

/-! ## Finite values -/

/-- A string in the body of one of the answers spells the value. -/
def Spelled (exchanges : List Exchange) (value : Float) : Prop :=
  ∃ exchange ∈ exchanges, ∃ body ∈ exchange.body?, ∃ text, Quotes body text ∧
    Decimal.parse? text = some value

theorem countable_finite_or_spelled (exchanges : List Exchange) :
    Countable (fun value => value.isFinite = true ∨ Spelled exchanges value) (2 ^ 64 - 1) where
  zero := .inl (by decide +kernel)
  one := .inl (by decide +kernel)
  one_more value finite_or := by
    by_cases finite : value.isFinite = true
    · exact .inl (Decimal.isFinite_add_one finite)
    · rw [Decimal.add_one_eq_self finite]
      exact finite_or
  ofNat number small := .inl (Decimal.isFinite_ofNat (by omega))

/-- Whatever a cycle collects is finite, unless a string in one of the answers spells it. -/
theorem Collector.collected_finite_or_spelled (collector : Collector) {σ : Type}
    (router : Router σ) (session : Session) (state : σ) {samples : SampleSet}
    (collected : (collector.collect.run.run router session state).value = .ok samples)
    (short : ∀ exchange ∈ (collector.collect.run.run router session state).exchanges,
      ∀ body ∈ exchange.body?, body.length < 2 ^ 64) :
    ∀ sample ∈ samples.samples, sample.2.isFinite = true ∨
      Spelled (collector.collect.run.run router session state).exchanges sample.2 := by
  refine collect_yields (countable_finite_or_spelled _) collector σ router session state ?_ samples
    collected
  intro exchange member body received
  refine ⟨fun quantity sourced => ?_, Nat.le_pred_of_lt (short exchange member body received)⟩
  rcases sourced with finite | ⟨text, quotes, spells⟩
  · exact .inl finite
  · exact .inr ⟨exchange, member, body, received, text, quotes, spells⟩

/-- A router that gives a text as its status, and nothing else. -/
def statusRouter (status : String) : Router Unit :=
  ⟨fun request state =>
    let device := "[\x7b\"device\":\x7b\"status\":\"" ++ status ++ "\"\x7d\x7d]"
    let page := if request.target = "/api/v1/device" then device else "[\x7b\x7d]"
    (.ok { status := 200, setCookies := ["BBOX_ID=abc"], body := .ok page.toUTF8.toList }, state)⟩

/-- One cycle, in which the status is a numeral that is too large. -/
theorem Collector.collected_finite_or_spelled_of_large_status :
    let collector : Collector :=
      ⟨⟨{ scheme := "https", host := some (.fourBytes 1), path := "/" }⟩, "admin", []⟩
    let run := collector.collect.run.run (statusRouter "1e999") {} ()
    (∀ exchange ∈ run.exchanges, ∀ body ∈ exchange.body?, body.length < 2 ^ 64) ∧
      ∃ samples, run.value = .ok samples ∧
        ∀ sample ∈ samples.samples, sample.2.isFinite = true ∨ Spelled run.exchanges sample.2 := by
  intro collector
  have finite_or_spelled := @collector.collected_finite_or_spelled Unit (statusRouter "1e999") {} ()
  have checked : ((collector.collect.run.run (statusRouter "1e999") {} ()).value.isOk &&
      (collector.collect.run.run (statusRouter "1e999") {} ()).exchanges.all fun exchange =>
        exchange.body?.all fun body => decide (body.length < 2 ^ 64)) = true := by
    decide +kernel
  generalize collector.collect.run.run (statusRouter "1e999") {} () = run at *
  obtain ⟨ends, short⟩ := Bool.and_eq_true_iff.mp checked
  have bounded : ∀ exchange ∈ run.exchanges, ∀ body ∈ exchange.body?, body.length < 2 ^ 64 := by
    intro exchange member body received
    have all := List.all_eq_true.mp short exchange member
    rw [Option.mem_def.mp received] at all
    exact of_decide_eq_true all
  cases collected : run.value with
  | error failure =>
      rw [collected] at ends
      cases ends
  | ok samples => exact ⟨bounded, samples, collected, finite_or_spelled collected bounded⟩

/-- A status that is the word `nan` becomes a sample that is no number. -/
theorem Collector.nan_status_collected :
    let collector : Collector :=
      ⟨⟨{ scheme := "https", host := some (.fourBytes 1), path := "/" }⟩, "admin", []⟩
    ∃ samples, (collector.collect.run.run (statusRouter "nan") {} ()).value = .ok samples ∧
      ∃ sample ∈ samples.samples, sample.2.isFinite = false := by
  intro collector
  have ends : (collector.collect.run.run (statusRouter "nan") {} ()).value.toOption.any
      (fun samples => samples.samples.any fun sample => !sample.2.isFinite) = true := by
    decide +kernel
  cases collected : (collector.collect.run.run (statusRouter "nan") {} ()).value with
  | error failure =>
      rw [collected] at ends
      cases ends
  | ok samples =>
      rw [collected] at ends
      obtain ⟨sample, member, infinite⟩ := List.any_eq_true.mp ends
      exact ⟨samples, rfl, sample, member, by simpa using infinite⟩

end RouterTelemetry
