import RouterTelemetry.Client
import RouterTelemetry.Proofs.Run

/-!
# The plan of a snapshot

A snapshot follows a fixed list of steps: the login, then one fetch for each
resource, the radio bands in the given order.  `Fetching` says of an attempt that
it is put together from fetches and reports alone and which steps it takes, in
which scope.  Whatever is kept by a single fetch is kept by such an attempt, by
induction on its making.
-/

namespace RouterTelemetry.Client

open Http

/-- A step of a snapshot. -/
inductive Step where
  | login
  | fetch (group : Group) (path : String)
deriving Repr, DecidableEq

/-- The method of the request of a step. -/
def Step.method : Step → String
  | .login => "POST"
  | .fetch _ _ => "GET"

/-- The path of a step below the root of the interface. -/
def Step.path : Step → String
  | .login => "/login"
  | .fetch _ path => path

/-- The fetch of one radio band. -/
def Step.ofBand (band : Band) : Step :=
  .fetch .wireless ("/wireless/" ++ band.code ++ "/stats")

/-- The fetches of a snapshot in order, each with the group that its path belongs to. -/
def fetchPlan (bands : List Band) : List Step :=
  [.fetch .device "/device", .fetch .device "/device/cpu", .fetch .device "/device/mem",
    .fetch .services "/services",
    .fetch .wan "/wan/ip", .fetch .wan "/wan/ip/stats", .fetch .wan "/wan/ftth/stats",
    .fetch .wan "/wan/diags",
    .fetch .lan "/lan/ip", .fetch .lan "/lan/stats", .fetch .lan "/hosts"] ++
  bands.map Step.ofBand ++
  [.fetch .dns "/dns/stats", .fetch .iptv "/iptv"]

/-- The steps of a snapshot in order. -/
def plan (bands : List Band) : List Step :=
  .login :: fetchPlan bands

/-- The format of the pages at a path of the plan.  A path that is none of the others is
that of a radio band. -/
def pageAt (path : String) : (α : Type) × Json.Format α :=
  match path with
  | "/device" => ⟨_, Resource.device.page⟩
  | "/device/cpu" => ⟨_, Resource.processor.page⟩
  | "/device/mem" => ⟨_, Resource.memory.page⟩
  | "/services" => ⟨_, Resource.services.page⟩
  | "/wan/ip" => ⟨_, Resource.wan.page⟩
  | "/wan/ip/stats" => ⟨_, Resource.wanTraffic.page⟩
  | "/wan/ftth/stats" => ⟨_, Resource.fibre.page⟩
  | "/wan/diags" => ⟨_, Resource.diagnostics.page⟩
  | "/lan/ip" => ⟨_, Resource.lan.page⟩
  | "/lan/stats" => ⟨_, Resource.lanTraffic.page⟩
  | "/hosts" => ⟨_, Resource.hosts.page⟩
  | "/dns/stats" => ⟨_, Resource.resolver.page⟩
  | "/iptv" => ⟨_, Resource.television.page⟩
  | _ => ⟨_, Payload.Radio.page⟩

theorem pageAt_statsPath (band : Band) :
    pageAt band.statsPath = ⟨_, (Resource.radio band).page⟩ := by
  cases band <;> rfl

/-- The resource at a path of the plan. -/
def resourceAt (path : String) : Resource (pageAt path).1 :=
  ⟨path, (pageAt path).2⟩

theorem login_notMem_fetchPlan (bands : List Band) : Step.login ∉ fetchPlan bands := by
  simp [fetchPlan, Step.ofBand]

/-! ## Attempts that only fetch -/

/-- The attempt takes the given fetches in order, with nothing but reports between
them.  Within the scope of a group failures do not name the group yet. -/
inductive Fetching (endpoint : Endpoint) :
    Option Group → List Step → {α : Type} → Attempt α → Prop where
  | pure {α : Type} {scope : Option Group} (value : α) :
      Fetching endpoint scope [] (pure value)
  | report {scope : Option Group} {level : Level} (message : String) (mild : level ≠ .error) :
      Fetching endpoint scope [] (Attempt.report level message)
  | fetch {α : Type} (group : Group) (resource : Resource α)
      (page_eq : pageAt resource.path = ⟨α, resource.page⟩) :
      Fetching endpoint (some group) [.fetch group resource.path] (fetch endpoint resource)
  | inGroup {α : Type} {group : Group} {steps : List Step} {attempt : Attempt α}
      (fetching : Fetching endpoint (some group) steps attempt) :
      Fetching endpoint none steps (attempt.placing (.inGroup group))
  | bind {α β : Type} {scope : Option Group} {before after : List Step} {attempt : Attempt α}
      {next : α → Attempt β} (first : Fetching endpoint scope before attempt)
      (rest : ∀ value, Fetching endpoint scope after (next value)) :
      Fetching endpoint scope (before ++ after) (attempt >>= next)

namespace Fetching

variable {endpoint : Endpoint} {α β : Type} {group : Group} {scope : Option Group}
  {steps : List Step}

/-- A report before an attempt adds no step. -/
theorem reporting {level : Level} {message : String} {next : Unit → Attempt β}
    (mild : level ≠ .error) (rest : Fetching endpoint scope steps (next ())) :
    Fetching endpoint scope steps (Attempt.report level message >>= next) :=
  bind (report message mild) fun _ => rest

/-- A fetch before an attempt adds its own step. -/
theorem fetchingThen {resource : Resource α} {path : String} {next : List α → Attempt β}
    (path_eq : resource.path = path) (page_eq : pageAt resource.path = ⟨α, resource.page⟩)
    (rest : ∀ pages, Fetching endpoint (some group) steps (next pages)) :
    Fetching endpoint (some group) (.fetch group path :: steps)
      (Client.fetch endpoint resource >>= next) :=
  path_eq ▸ bind (fetch group resource page_eq) rest

/-- A group takes the steps of its own fetches. -/
theorem groupPages {fetching : Attempt α} (shown : α → String)
    (inner : Fetching endpoint (some group) steps fetching) :
    Fetching endpoint none steps (Client.groupPages group shown fetching) := by
  rw [← List.append_nil steps]
  exact bind inner.inGroup fun pages => reporting nofun (pure pages)

end Fetching

/-! ## Groups -/

variable (endpoint : Endpoint)

theorem fetchDevice_fetching :
    Fetching endpoint (some .device)
      [.fetch .device "/device", .fetch .device "/device/cpu", .fetch .device "/device/mem"]
      (fetchDevice endpoint) :=
  .reporting (by decide) <| .fetchingThen rfl rfl fun _ => .fetchingThen rfl rfl fun _ =>
    .fetchingThen rfl rfl fun _ => .pure _

theorem fetchServices_fetching :
    Fetching endpoint (some .services) [.fetch .services "/services"] (fetchServices endpoint) :=
  .reporting (by decide) <| .fetch .services .services rfl

theorem fetchWan_fetching :
    Fetching endpoint (some .wan)
      [.fetch .wan "/wan/ip", .fetch .wan "/wan/ip/stats", .fetch .wan "/wan/ftth/stats",
        .fetch .wan "/wan/diags"]
      (fetchWan endpoint) :=
  .reporting (by decide) <| .fetchingThen rfl rfl fun _ => .fetchingThen rfl rfl fun _ =>
    .fetchingThen rfl rfl fun _ => .fetchingThen rfl rfl fun _ => .pure _

theorem fetchLan_fetching :
    Fetching endpoint (some .lan)
      [.fetch .lan "/lan/ip", .fetch .lan "/lan/stats", .fetch .lan "/hosts"]
      (fetchLan endpoint) :=
  .reporting (by decide) <| .fetchingThen rfl rfl fun _ => .fetchingThen rfl rfl fun _ =>
    .fetchingThen rfl rfl fun _ => .pure _

theorem fetchBand_fetching (band : Band) :
    Fetching endpoint (some .wireless) [.ofBand band] (fetchBand endpoint band) := by
  rw [Step.ofBand, ← Band.statsPath_eq]
  exact .reporting (by decide) <| .fetchingThen rfl (pageAt_statsPath band) fun _ => .pure _

theorem fetchWireless_fetching (bands : List Band) :
    Fetching endpoint (some .wireless) (bands.map .ofBand) (fetchWireless endpoint bands) := by
  induction bands with
  | nil => exact .pure []
  | cons band bands ih =>
      have later (pages : BandPages) :
          Fetching endpoint (some .wireless) (bands.map .ofBand)
            (do return pages :: (← fetchWireless endpoint bands)) := by
        rw [← List.append_nil (bands.map Step.ofBand)]
        exact .bind ih fun _ => .pure _
      exact .bind (fetchBand_fetching endpoint band) later

theorem fetchDns_fetching :
    Fetching endpoint (some .dns) [.fetch .dns "/dns/stats"] (fetchDns endpoint) :=
  .reporting (by decide) <| .fetch .dns .resolver rfl

theorem fetchIptv_fetching :
    Fetching endpoint (some .iptv) [.fetch .iptv "/iptv"] (fetchIptv endpoint) :=
  .reporting (by decide) <| .fetch .iptv .television rfl

/-- Fetching every group takes the steps of the plan. -/
theorem fetchGroups_fetching (bands : List Band) :
    Fetching endpoint none (fetchPlan bands) (fetchGroups endpoint bands) := by
  have whole :=
    Fetching.bind ((fetchDevice_fetching endpoint).groupPages DevicePages.shown) fun device =>
    .bind ((fetchServices_fetching endpoint).groupPages shownServices) fun services =>
    .bind ((fetchWan_fetching endpoint).groupPages WanPages.shown) fun wan =>
    .bind ((fetchLan_fetching endpoint).groupPages LanPages.shown) fun lan =>
    .bind ((fetchWireless_fetching endpoint bands).groupPages shownWireless) fun wireless =>
    .bind ((fetchDns_fetching endpoint).groupPages shownDns) fun dns =>
    .bind ((fetchIptv_fetching endpoint).groupPages shownIptv) fun iptv =>
      .pure (⟨device, services, wan, lan, wireless, dns, iptv⟩ : Snapshot)
  simpa [fetchPlan, fetchGroups] using whole

/-! ## Snapshots -/

variable {σ : Type} {endpoint} {password : String} {router : Router σ} {session : Session}
  {state : σ}

/-- The event that opens a snapshot. -/
def snapshotEvent : Event :=
  ⟨.info, "Get metrics from Bbox"⟩

/-- Nothing is fetched after a failed login. -/
theorem takeSnapshot_run_of_login_error (bands : List Band) {failure : Failure}
    (error : ((login endpoint password).run.run router session state).value = .error failure) :
    (takeSnapshot endpoint password bands).run.run router session state =
      { (login endpoint password).run.run router session state with
        value := .error failure
        events := snapshotEvent ::
          ((login endpoint password).run.run router session state).events } := by
  simp only [takeSnapshot, Attempt.run_report_bind, Attempt.run_bind_of_error _ error,
    snapshotEvent]

/-- After a login every group is fetched, in the session and with the router that the
login has left. -/
theorem takeSnapshot_run_of_login_ok (bands : List Band)
    (ok : ((login endpoint password).run.run router session state).value = .ok ()) :
    (takeSnapshot endpoint password bands).run.run router session state =
      let first := (login endpoint password).run.run router session state
      let rest := first.followedBy
        ((fetchGroups endpoint bands).run.run router first.session first.router)
      { rest with events := snapshotEvent :: rest.events } := by
  simp only [takeSnapshot, Attempt.run_report_bind, Attempt.run_bind_of_ok _ ok, snapshotEvent]

end RouterTelemetry.Client
