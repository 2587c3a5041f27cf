import RouterTelemetry.Startup.Run

/-!
# The program

The command line around the library.  The site is served on the standard streams:
each line of input is a method and a target, and the page is written as its
status and its body.  No router is connected to these streams, so every cycle
ends with the router not available.
-/

namespace RouterTelemetry.Program

/-- The text of a file, if there is one. -/
def readIfPresent (name : String) : IO (Option String) := do
  try
    return some (← IO.FS.readFile name)
  catch _ =>
    return none

/-- The variables of this process. -/
def processEnvironment : IO Environment := do
  let text := (← readIfPresent "/proc/self/environ").getD ""
  return (text.splitOn "\x00").filterMap fun entry =>
    match entry.splitOn "=" with
    | name :: value :: values => some (name, "=".intercalate (value :: values))
    | _ => none

/-- Writes events to the log. -/
def writeLog (filter : Startup.Filter) (events : List Event) : IO Unit := do
  for event in filter.admitted events do
    IO.println event.line

/-- Answers requests until the input ends. -/
partial def serve (filter : Startup.Filter) (site : Site) (collector : Collector)
    (exporter : Exporter) : IO Unit := do
  let line ← (← IO.getStdin).getLine
  if line.isEmpty then
    return
  let words := (line.trimAscii.toString.splitOn " ").filter (!·.isEmpty)
  let visit : Site.Visit := ⟨words.headD "", words.tail.headD ""⟩
  let turn := site.answer Http.Router.unreachable collector visit exporter ()
  writeLog filter turn.events
  IO.println (toString turn.value.status)
  IO.println turn.value.body
  serve filter site collector turn.exporter

end RouterTelemetry.Program

open RouterTelemetry Program

/-- Starts with the arguments and serves the site if all is well. -/
def main (arguments : List String) : IO UInt32 := do
  let environment ← processEnvironment
  let environmentFile ← readIfPresent ".env"
  let document := (Startup.Command.parse arguments environment).documentName
  let files ← [document, document ++ Startup.documentExtension].mapM fun name => do
    return (name, ← readIfPresent name)
  let surroundings : Startup.Surroundings :=
    { environment, environmentFile, file? := fun name => (files.lookup name).join }
  let filter := Startup.filterFor surroundings arguments
  writeLog filter (Startup.start surroundings arguments).events
  match (Startup.start surroundings arguments).ending with
  | .serving site collector =>
      serve filter site collector {}
      return 0
  | ending => return (ending.exitCode?.getD 0).toUInt32
