import RouterTelemetry.Projection.Whole

/-!
# Figures of a snapshot

A figure is a measure that a projection records, with the place where it stands: the whole
with any other measure there.  Every page lists the places of its measures in the order in
which they are recorded, and the figures of a group are those of the pages that it reads.
-/

namespace RouterTelemetry.Projection

open Payload

variable {σ τ : Type}

/-- A measure that is recorded under a key; `replaced` is the whole with another measure in its
place. -/
structure Figure (σ : Type) where
  key : SampleKey
  path : String
  measure : Measure
  replaced : Measure → σ

namespace Figure

/-- The step that records a measure in the place of the figure. -/
def step (figure : Figure σ) (measure : Measure) : Step :=
  .field figure.key measure figure.path

/-- The figure in a larger whole. -/
def within (whole : σ → τ) (figure : Figure σ) : Figure τ :=
  ⟨figure.key, figure.path, figure.measure, fun measure => whole (figure.replaced measure)⟩

/-- The figure is the number of tries of a probe. -/
def CountsTries (figure : Figure σ) : Prop :=
  figure.key.name = "bbox_wan_diagnostics_tries"

instance (figure : Figure σ) : Decidable figure.CountsTries :=
  inferInstanceAs (Decidable (figure.key.name = _))

@[simp]
theorem replaced_within (whole : σ → τ) (figure : Figure σ) (measure : Measure) :
    (figure.within whole).replaced measure = whole (figure.replaced measure) :=
  rfl

end Figure

/-- The step records a measure. -/
def Step.isField : Step → Bool
  | .field _ _ _ => true
  | .note _ | .set _ _ | .count _ | .stop _ => false

/-- What the step records. -/
def Step.recorded? : Step → Option (SampleKey × Measure × String)
  | .field key measure path => some (key, measure, path)
  | .note _ | .set _ _ | .count _ | .stop _ => none

/-- The recorded measures of a whole whose measures stand in these places, in order. -/
def figuresAt (steps : σ → Script) (places : σ → List (Measure → σ)) (whole : σ) :
    List (Figure σ) :=
  ((steps whole).filterMap Step.recorded?).zipWith
    (fun (key, measure, path) place => ⟨key, path, measure, place⟩) (places whole)

/-! ## Places in pages -/

/-- The places of the router's state. -/
def statePlaces (device : Device) : List (Measure → Device) :=
  [fun measure => { device with status := measure },
    fun measure => { device with boots := measure },
    fun measure => { device with temperature.current := measure },
    fun measure => { device with access.ipv4 := measure },
    fun measure => { device with access.ipv6 := measure },
    fun measure => { device with access.ftth := measure },
    fun measure => { device with access.adsl := measure },
    fun measure => { device with access.vdsl := measure }]

/-- The places of its memory. -/
def memoryPlaces (memory : Memory) : List (Measure → Memory) :=
  [fun measure => { memory with total := measure },
    fun measure => { memory with free := measure },
    fun measure => { memory with cached := measure }]

/-- The places of its processor. -/
def processorPlaces (processor : Processor) : List (Measure → Processor) :=
  [fun measure => { processor with time.total := measure },
    fun measure => { processor with time.user := measure },
    fun measure => { processor with time.nice := measure },
    fun measure => { processor with time.system := measure },
    fun measure => { processor with time.io := measure },
    fun measure => { processor with time.idle := measure },
    fun measure => { processor with time.irq := measure },
    fun measure => { processor with process.created := measure },
    fun measure => { processor with process.running := measure },
    fun measure => { processor with process.blocked := measure }]

/-- The places of the state of a feature. -/
def featurePlaces (state : ServiceState) : List (Measure → ServiceState) :=
  [fun measure => { state with enabled := measure },
    fun measure => { state with status := measure },
    fun measure => { state with rules := measure }]

/-- The places of the states of the features. -/
def featureStates (page : Services) : List (ServiceState → Services) :=
  [fun state => { page with firewall := state },
    fun state => { page with dynamicDns := state },
    fun state => { page with dhcp := state },
    fun state => { page with nat := state },
    fun state => { page with gamerMode := state },
    fun state => { page with upnp.gateway := state },
    fun state => { page with remote.wakeOnLan := state },
    fun state => { page with remote.admin := state },
    fun state => { page with parentalControl := state },
    fun state => { page with wifiScheduler := state },
    fun state => { page with voipScheduler := state },
    fun state => { page with notifications := state },
    fun state => { page with hotspot := state },
    fun state => { page with usb.samba := state },
    fun state => { page with usb.printer := state },
    fun state => { page with usb.dlna := state }]

/-- The places of the features, feature by feature. -/
def servicesPlaces (page : Services) : List (Measure → Services) :=
  ((features page).zip (featureStates page)).flatMap fun ((_, state), whole) =>
    (featurePlaces state).map fun place measure => whole (place measure)

/-- The places of the state of the outside line. -/
def linePlaces (wan : Wan) : List (Measure → Wan) :=
  [fun measure => { wan with internet.state := measure },
    fun measure => { wan with interface.state := measure }]

/-- The places of the counters of one direction, as far as they are recorded. -/
def countersPlaces (line : Bool) (counters : Counters) : List (Measure → Counters) :=
  [fun measure => { counters with bytes := measure },
    fun measure => { counters with packets := measure },
    fun measure => { counters with errors := measure },
    fun measure => { counters with discards := measure }] ++
  if line then
    [fun measure => { counters with occupation := measure },
      fun measure => { counters with bandwidth := measure },
      fun measure => { counters with maxBandwidth := measure }]
  else
    []

/-- The places of the counters of both directions. -/
def trafficPlaces (line : Bool) (traffic : Traffic) : List (Measure → Traffic) :=
  ((countersPlaces line traffic.transmitted).map fun place measure =>
    { traffic with transmitted := place measure }) ++
  (countersPlaces line traffic.received).map fun place measure =>
    { traffic with received := place measure }

/-- The places of a probe. -/
def probePlaces (probe : Probe) : List (Measure → Probe) :=
  [fun measure => { probe with min := measure },
    fun measure => { probe with max := measure },
    fun measure => { probe with average := measure },
    fun measure => { probe with success := measure },
    fun measure => { probe with error := measure },
    fun measure => { probe with tries := measure }]

/-- The places of the name resolver. -/
def resolverPlaces (resolver : Resolver) : List (Measure → Resolver) :=
  [fun measure => { resolver with queries := measure },
    fun measure => { resolver with min := measure },
    fun measure => { resolver with max := measure },
    fun measure => { resolver with average := measure }]

/-- The place of the reception of a channel. -/
def channelPlaces (channel : Channel) : List (Measure → Channel) :=
  [fun measure => { channel with receipt := measure }]

/-! ## Figures of the groups -/

/-- The steps for the page of services. -/
def servicesPage (page : Services) : Script :=
  (features page).flatMap fun (label, state) => feature label state

/-- The figures of the first page. -/
def firstFigures {α : Type} (figures : α → List (Figure α)) : List α → List (Figure (List α))
  | [] => []
  | page :: rest => (figures page).map (.within (· :: rest))

/-- The figures of every item. -/
def eachFigures {α : Type} (figures : α → List (Figure α)) : List α → List (Figure (List α))
  | [] => []
  | item :: rest =>
      (figures item).map (.within (· :: rest)) ++
        (eachFigures figures rest).map (.within (item :: ·))

/-- The figures of the device group. -/
def deviceFigures (pages : DevicePages) : List (Figure DevicePages) :=
  ((firstFigures (figuresAt deviceState statePlaces) pages.device).map
    (.within fun device => { pages with device })) ++
  ((firstFigures (figuresAt memory memoryPlaces) pages.memory).map
    (.within fun memory => { pages with memory })) ++
  (firstFigures (figuresAt processor processorPlaces) pages.processor).map
    (.within fun processor => { pages with processor })

/-- The steps for a probe that counts. -/
def probed (mode : String) (probe : Probe) : Script :=
  [("min", probe.min, "min"), ("max", probe.max, "max"), ("avg", probe.average, "average"),
    ("success", probe.success, "success"), ("error", probe.error, "error"),
    ("tries", probe.tries, "tries")].map fun (suffix, measure, key) =>
      .field ⟨"bbox_wan_diagnostics_" ++ suffix, [("mode", mode)]⟩ measure
        ("diags." ++ mode ++ "." ++ key)

/-- The figures of the first probe with positive tries. -/
def probesFigures (mode : String) : List Probe → List (Figure (List Probe))
  | [] => []
  | probe :: rest =>
      if probe.tries.isPositive then
        (figuresAt (probed mode) probePlaces probe).map (.within (· :: rest))
      else
        (probesFigures mode rest).map (.within (probe :: ·))

/-- The figures of the diagnostics. -/
def diagnosticsFigures (page : Diagnostics) : List (Figure Diagnostics) :=
  ((probesFigures "dns" page.dns).map (.within fun dns => { page with dns })) ++
  ((probesFigures "ping" page.ping).map (.within fun ping => { page with ping })) ++
  (probesFigures "http" page.http).map (.within fun http => { page with http })

/-- The figures of the group of the outside line. -/
def wanFigures (pages : WanPages) : List (Figure WanPages) :=
  ((firstFigures (figuresAt line linePlaces) pages.wan).map
    (.within fun wan => { pages with wan })) ++
  ((firstFigures (figuresAt (traffic "bbox_wan" [] "wan.ip.stats" true) (trafficPlaces true))
    pages.traffic).map (.within fun traffic => { pages with traffic })) ++
  (firstFigures diagnosticsFigures pages.diagnostics).map
    (.within fun diagnostics => { pages with diagnostics })

/-- The figures of the group of the local network; hosts and ports have none. -/
def lanFigures (pages : LanPages) : List (Figure LanPages) :=
  (firstFigures (figuresAt (traffic "bbox_lan" [] "lan.stats" false) (trafficPlaces false))
    pages.traffic).map (.within fun traffic => { pages with traffic })

/-- The figures of a radio band. -/
def bandFigures (pages : BandPages) : List (Figure BandPages) :=
  (firstFigures (fun radio =>
    (figuresAt (traffic "bbox_wireless" [("frequency", pages.band.label)]
      ("wireless." ++ pages.band.code ++ ".ssid.stats") false) (trafficPlaces false)
      radio.traffic).map (.within fun traffic => { radio with traffic }))
    pages.pages).map (.within fun list => { pages with pages := list })

/-- The figures of a page of television. -/
def televisionFigures (page : Television) : List (Figure Television) :=
  (eachFigures (figuresAt (fun shown => [channel shown]) channelPlaces) page.channels).map
    (.within fun channels => { page with channels })

/-- The figures of a group. -/
def groupFigures (snapshot : Snapshot) : Group → List (Figure Snapshot)
  | .device =>
      (deviceFigures snapshot.device).map (.within fun device => { snapshot with device })
  | .services =>
      (firstFigures (figuresAt servicesPage servicesPlaces) snapshot.services).map
        (.within fun services => { snapshot with services })
  | .wan => (wanFigures snapshot.wan).map (.within fun wan => { snapshot with wan })
  | .lan => (lanFigures snapshot.lan).map (.within fun lan => { snapshot with lan })
  | .wireless =>
      (eachFigures bandFigures snapshot.wireless).map
        (.within fun wireless => { snapshot with wireless })
  | .dns =>
      (firstFigures (figuresAt resolver resolverPlaces) snapshot.dns).map
        (.within fun dns => { snapshot with dns })
  | .iptv =>
      (eachFigures televisionFigures snapshot.iptv).map
        (.within fun iptv => { snapshot with iptv })

/-- Every measure that the projection of a snapshot records, in order. -/
def figures (snapshot : Snapshot) : List (Figure Snapshot) :=
  Group.all.flatMap (groupFigures snapshot)

end RouterTelemetry.Projection
