import Mathlib.Logic.Function.Basic
import RouterTelemetry.Exporter

/-!
# Scrapes side by side

Any number of scrapes share one exporter and one router.  A scrape waits for its turn to
run a cycle, goes through the cycle step by step, gives the turn back and renders the
registry after that.  Between two steps of a scrape any other one may take steps of its
own, and each may be dropped wherever it stands.  A schedule is any list of such actions.
-/

namespace RouterTelemetry

open Http

/-- Where a scrape stands. -/
inductive Phase where
  | waiting
  /-- In its cycle, with the rest of it ahead. -/
  | talking (rest : Dialogue (Except Failure SampleSet))
  /-- In its cycle, with a reply on the way. -/
  | hearing (reply : Reply) (next : Reply → Dialogue (Except Failure SampleSet))
  /-- In its cycle, which has failed, with the registry not yet marked down. -/
  | failing (failure : Failure)
  /-- After its cycle, with the registry not yet rendered. -/
  | concluded
  | answered (text : String)
  | dropped

/-- The scrape is in its cycle. -/
def Phase.inCycle : Phase → Bool
  | .talking _ | .hearing _ _ | .failing _ => true
  | .waiting | .concluded | .answered _ | .dropped => false

/-- What scrapes share, and where each of them stands. -/
structure Service (ι σ : Type) where
  exporter : Exporter := {}
  router : σ
  /-- The scrape whose turn it is; no other one may begin a cycle. -/
  holder : Option ι := none
  phase : ι → Phase := fun _ => .waiting
  /-- Exchanges with the router by the scrapes that sent the requests, in the order in which
  the router received them. -/
  exchanges : List (ι × Exchange) := []

/-- What a scrape does next: a step of its own, or it is dropped. -/
inductive Move where
  | proceed
  | drop
deriving Repr, DecidableEq

/-- A move of one scrape. -/
structure Action (ι : Type) where
  scrape : ι
  move : Move
deriving Repr, DecidableEq

namespace Service

variable {ι σ : Type} [DecidableEq ι] (router : Router σ) (collector : Collector)

/-- A scrape gets somewhere. -/
def enter (service : Service ι σ) (scrape : ι) (phase : Phase) : Service ι σ :=
  { service with phase := Function.update service.phase scrape phase }

/-- A scrape leaves its cycle and gives the turn back. -/
def leave (service : Service ι σ) (scrape : ι) (registry : Registry) : Service ι σ :=
  { service.enter scrape .concluded with
    exporter := { service.exporter with registry }
    holder := none }

/-- One step of a cycle.  A failed publication is a step of its own: only the next one marks
the registry down. -/
def talk (service : Service ι σ) (scrape : ι) :
    Dialogue (Except Failure SampleSet) → Service ι σ
  | .done result =>
      match Collector.publishTo service.exporter.registry result with
      | (registry, none) => service.leave scrape registry
      | (registry, some failure) =>
          { service.enter scrape (.failing failure) with
            exporter := { service.exporter with registry } }
  | .report _ next => service.enter scrape (.talking next)
  | .ask request next =>
      let (reply, after) := router.reply request service.router
      { service.enter scrape (.hearing reply next) with
        router := after
        exchanges := service.exchanges ++ [(scrape, ⟨request, reply⟩)] }
  | .look next => service.enter scrape (.talking (next service.exporter.session))
  | .keep session next =>
      { service.enter scrape (.talking next) with
        exporter := { service.exporter with session } }

/-- The next step of a scrape, if it can take one: a cycle begins only when no other one is
under way. -/
def proceed (service : Service ι σ) (scrape : ι) : Service ι σ :=
  match service.phase scrape with
  | .waiting =>
      match service.holder with
      | none => { service.enter scrape (.talking collector.cycle) with holder := some scrape }
      | some _ => service
  | .talking rest => service.talk router scrape rest
  | .hearing reply next => service.enter scrape (.talking (next reply))
  | .failing _ => service.leave scrape service.exporter.registry.markDown
  | .concluded => service.enter scrape (.answered service.exporter.render)
  | .answered _ | .dropped => service

/-- The end of a scrape that is dropped before it has answered; the turn is given back. -/
def drop (service : Service ι σ) (scrape : ι) : Service ι σ :=
  match service.phase scrape with
  | .answered _ | .dropped => service
  | _ =>
      { service.enter scrape .dropped with
        holder := if service.holder = some scrape then none else service.holder }

/-- One action. -/
def act (service : Service ι σ) (action : Action ι) : Service ι σ :=
  match action.move with
  | .proceed => service.proceed router collector action.scrape
  | .drop => service.drop action.scrape

/-- A service after the actions of a schedule. -/
def perform (service : Service ι σ) (schedule : List (Action ι)) : Service ι σ :=
  schedule.foldl (act router collector) service

/-- A new service after a schedule: every scrape waits, and the router is in a given state. -/
def after (start : σ) (schedule : List (Action ι)) : Service ι σ :=
  perform router collector { router := start } schedule

@[simp]
theorem perform_nil (service : Service ι σ) : service.perform router collector [] = service :=
  rfl

@[simp]
theorem perform_append (service : Service ι σ) (first second : List (Action ι)) :
    service.perform router collector (first ++ second) =
      (service.perform router collector first).perform router collector second := by
  simp [perform]

@[simp]
theorem perform_singleton (service : Service ι σ) (action : Action ι) :
    service.perform router collector [action] = service.act router collector action :=
  rfl

@[simp]
theorem after_nil (start : σ) :
    after router collector start ([] : List (Action ι)) = { router := start } :=
  rfl

@[simp]
theorem after_concat (start : σ) (schedule : List (Action ι)) (action : Action ι) :
    after router collector start (schedule ++ [action]) =
      (after router collector start schedule).act router collector action := by
  simp [after]

end Service

end RouterTelemetry
