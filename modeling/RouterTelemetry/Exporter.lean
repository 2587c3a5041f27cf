import RouterTelemetry.Cycle

/-!
# The exporter

An exporter keeps a session and a registry from one operation to the next.  Only
cycles touch the registry, and only logins touch the session.
-/

namespace RouterTelemetry

open Http

/-- What lasts from one operation to the next. -/
structure Exporter where
  session : Session := {}
  registry : Registry := .down

/-- What one operation leaves. -/
structure Turn (σ α : Type) where
  value : α
  exporter : Exporter
  router : σ
  /-- Requests with their replies, oldest first. -/
  exchanges : List Exchange := []
  events : List Event := []

/-- Requests sent, oldest first. -/
def Turn.requests {σ α : Type} (turn : Turn σ α) : List Request :=
  turn.exchanges.map (·.request)

namespace Exporter

variable {σ : Type} (router : Router σ) (collector : Collector)

/-- Collects samples; the registry stays as it is. -/
def collect (exporter : Exporter) (state : σ) : Turn σ (Except Failure SampleSet) :=
  let run := collector.collect.run.run router exporter.session state
  { value := run.value
    exporter := { exporter with session := run.session }
    router := run.router
    exchanges := run.exchanges
    events := run.events }

/-- Runs one cycle; the failure, if any, is the one that made the router unavailable. -/
def runCycle (exporter : Exporter) (state : σ) : Turn σ (Option Failure) :=
  let run := collector.cycle.run router exporter.session state
  let outcome := Collector.conclude exporter.registry run.value
  { value := outcome.failure
    exporter := { session := run.session, registry := outcome.registry }
    router := run.router
    exchanges := run.exchanges
    events := run.events ++ [outcome.event] }

/-- The text of the registry. -/
def render (exporter : Exporter) : String :=
  exporter.registry.render

/-- Runs one cycle and renders the registry, whatever the cycle ended in. -/
def scrape (exporter : Exporter) (state : σ) : Turn σ String :=
  let turn := exporter.runCycle router collector state
  { value := turn.exporter.render
    exporter := turn.exporter
    router := turn.router
    exchanges := turn.exchanges
    events := turn.events }

end Exporter

end RouterTelemetry
