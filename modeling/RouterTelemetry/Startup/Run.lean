import RouterTelemetry.Settings.Load
import RouterTelemetry.Startup.CommandLine
import RouterTelemetry.Startup.Filter

/-!
# Starting

From a command line to a site that is being served, or to the reason why none
is.  The arguments and their variables count before the environment file is
read.
-/

namespace RouterTelemetry.Startup

/-- What the program finds around it. -/
structure Surroundings where
  environment : Environment := []
  /-- The text of the environment file. -/
  environmentFile : Option String := none
  /-- The text of a file. -/
  file? : String → Option String := fun _ => none
  /-- The program is allowed to listen on a port of an address. -/
  mayListen : String → UInt16 → Bool := fun _ _ => true

/-- How starting ends. -/
inductive Ending where
  /-- The program has told about itself. -/
  | told
  | misused
  | notLoaded (fault : Settings.LoadFault)
  | invalid (failure : Failure)
  | noRoute (fault : Site.RouteFault)
  | notListening
  | serving (site : Site) (collector : Collector)

/-- The exit code of an ending; a site is served until someone stops it. -/
def Ending.exitCode? : Ending → Option Nat
  | .told => some 0
  | .misused => some 2
  | .notLoaded _ => some 1
  | .invalid _ => some 1
  | .noRoute _ => some 101
  | .notListening => some 1
  | .serving _ _ => none

/-- A start: what was reported on the way, and how it ended. -/
structure Start where
  events : List Event := []
  ending : Ending

/-- The same start after one more event. -/
def Start.after (event : Event) (start : Start) : Start :=
  { start with events := event :: start.events }

/-! ## Events -/

/-- The address of the site. -/
def listenAddress (settings : SiteSettings) : String :=
  settings.address ++ ":" ++ toString settings.port.toNat

/-- The first event. -/
def startingEvent : Event :=
  ⟨.info, "Starting Bbox Prometheus Exporter v0.1.0"⟩

/-- What is reported of settings that were refused. -/
def invalidEvent (failure : Failure) : Event :=
  ⟨.error, "Invalid configuration: " ++ failure.message⟩

/-- What is reported of settings that are fine. -/
def settingsEvents (settings : Settings) : List Event :=
  [⟨.info, "Configuration loaded successfully"⟩,
    ⟨.info, "Bbox endpoint: " ++ settings.router.endpoint⟩,
    ⟨.info, "Metrics endpoint: http://" ++ listenAddress settings.site ++
      settings.site.metricsPath⟩]

/-- What is reported when the site is there. -/
def servingEvents (settings : SiteSettings) : List Event :=
  [⟨.info, "Metrics server listening on " ++ listenAddress settings⟩,
    ⟨.info, "Metrics available at http://" ++ listenAddress settings ++ settings.metricsPath⟩]

/-- What is reported when nobody may listen. -/
def notListeningEvent (settings : SiteSettings) : Event :=
  ⟨.error, "Server error: cannot listen on " ++ listenAddress settings⟩

/-! ## Stages -/

/-- Opens the site of checked settings. -/
def openSite (surroundings : Surroundings) (settings : Settings) (endpoint : Endpoint) : Start :=
  let site := settings.site
  match Site.atPath site.metricsPath with
  | .error fault => { ending := .noRoute fault }
  | .ok found =>
      if surroundings.mayListen site.address site.port then
        { events := servingEvents site, ending := .serving found (settings.collector endpoint) }
      else
        { events := [notListeningEvent site], ending := .notListening }

/-- Starts with settings. -/
def withSettings (surroundings : Surroundings) (settings : Settings) : Start :=
  match settings.check with
  | .error failure => { events := [invalidEvent failure], ending := .invalid failure }
  | .ok endpoint =>
      let start := openSite surroundings settings endpoint
      { start with
        events := settingsEvents settings ++ Settings.setUpEvent endpoint :: start.events }

/-- The end of the names of files that hold a document. -/
def documentExtension : String :=
  ".toml"

/-- The document of a name: the file of that name, or of the name with the extension. -/
def document? (surroundings : Surroundings) (name : String) : Option String :=
  match surroundings.file? name with
  | some text => if name.endsWith documentExtension then some text else none
  | none => surroundings.file? (name ++ documentExtension)

/-- The environment with the environment file. -/
def Surroundings.fullEnvironment (surroundings : Surroundings) : Environment :=
  match surroundings.environmentFile with
  | some text => surroundings.environment.withFile text
  | none => surroundings.environment

/-- The settings that the surroundings hold, before any option. -/
def loadSettings (surroundings : Surroundings) (document : String) :
    Except Settings.LoadFault Settings :=
  Settings.load surroundings.fullEnvironment (document? surroundings document)

/-- Starts with options. -/
def withOptions (surroundings : Surroundings) (options : Options) : Start :=
  Start.after startingEvent <|
    match loadSettings surroundings options.document with
    | .error fault => { ending := .notLoaded fault }
    | .ok settings => withSettings surroundings (options.override settings)

/-- Starts with a command line. -/
def start (surroundings : Surroundings) (arguments : List String) : Start :=
  match Command.parse arguments surroundings.environment with
  | .misuse => { ending := .misused }
  | .about => { ending := .told }
  | .run options => withOptions surroundings options

/-! ## The log -/

/-- The variable that holds a log filter. -/
def filterVariable : String :=
  "RUST_LOG"

/-- What is logged unless a filter says otherwise. -/
def defaultFilter (debug : Bool) : Filter :=
  [⟨"", .upTo (if debug then .debug else .info)⟩]

/-- The filter of a run. -/
def filterOf (environment : Environment) (debug : Bool) : Filter :=
  ((environment.value? filterVariable).bind Filter.parse?).getD (defaultFilter debug)

/-- The filter of a command line. -/
def filterFor (surroundings : Surroundings) (arguments : List String) : Filter :=
  match Command.parse arguments surroundings.environment with
  | .run options => filterOf surroundings.environment options.debug
  | _ => filterOf surroundings.environment false

/-- The events of a start that are logged. -/
def logged (surroundings : Surroundings) (arguments : List String) : List Event :=
  (filterFor surroundings arguments).admitted (start surroundings arguments).events

end RouterTelemetry.Startup
