import PolicyOperator.Json.Codec

/-!
# Chaos engines

The objects that the chaos operator acts on. Only the fields that are rendered are kept.
-/

namespace PolicyOperator

/-- A text that is left out when empty. -/
def Json.textUnlessEmpty (s : String) : Option Json := if s = "" then none else some (.str s)

inductive EngineState where
  | active
  | stop
  deriving DecidableEq, Repr

namespace EngineState

def name : EngineState → String
  | .active => "active"
  | .stop => "stop"

def ofName? : String → Option EngineState
  | "active" => some .active
  | "stop" => some .stop
  | _ => none

end EngineState

/-- The application that an engine acts on. -/
structure EngineTarget where
  ns : String := ""
  label : String := ""
  kind : String := ""
  deriving DecidableEq, Repr

namespace EngineTarget

def toJson (t : EngineTarget) : Json := .record [
  ("appkind", Json.textUnlessEmpty t.kind),
  ("applabel", Json.textUnlessEmpty t.label),
  ("appns", Json.textUnlessEmpty t.ns)]

def ofJson? (j : Draft) : Option EngineTarget := do
  let row ← j.row? ["appns", "applabel", "appkind"]
  return {
    ns := ← row.defaulted "appns" "" Draft.text?
    label := ← row.defaulted "applabel" "" Draft.text?
    kind := ← row.defaulted "appkind" "" Draft.text? }

end EngineTarget

/-- A variable of the experiment's environment. -/
structure EnvEntry where
  name : String
  value : String
  deriving DecidableEq, Repr

namespace EnvEntry

def toJson (e : EnvEntry) : Json := .record [
  ("name", some (.str e.name)),
  ("value", some (.str e.value))]

def ofJson? (j : Draft) : Option EnvEntry := do
  let row ← j.row? ["name", "value"]
  return {
    name := ← row.required "name" Draft.text?
    value := ← row.required "value" Draft.text? }

end EnvEntry

/-- An experiment of an engine and its environment. -/
structure EngineExperiment where
  name : String
  env : List EnvEntry := []
  deriving DecidableEq, Repr

namespace EngineExperiment

/-- The wire form keeps the environment three objects deep. -/
def toJson (e : EngineExperiment) : Json :=
  let components := Json.record [
    ("env", if e.env.isEmpty then none else some (.arr (e.env.map EnvEntry.toJson)))]
  .record [
    ("name", some (.str e.name)),
    ("spec", some (.record [("components", some components)]))]

def envOfComponents? (j : Draft) : Option (List EnvEntry) := do
  let row ← j.row? ["env"]
  row.defaulted "env" [] (Draft.listOf? EnvEntry.ofJson?)

def envOfSpec? (j : Draft) : Option (List EnvEntry) := do
  let row ← j.row? ["components"]
  row.defaulted "components" [] envOfComponents?

def ofJson? (j : Draft) : Option EngineExperiment := do
  let row ← j.row? ["name", "spec"]
  return {
    name := ← row.required "name" Draft.text?
    env := ← row.defaulted "spec" [] envOfSpec? }

end EngineExperiment

structure ChaosEngineSpec where
  appinfo : EngineTarget := {}
  engineState : EngineState
  experiments : List EngineExperiment := []
  deriving DecidableEq, Repr

namespace ChaosEngineSpec

def toJson (s : ChaosEngineSpec) : Json := .record [
  ("appinfo", some s.appinfo.toJson),
  ("engineState", some (.str s.engineState.name)),
  ("experiments", some (.arr (s.experiments.map EngineExperiment.toJson)))]

def ofJson? (j : Draft) : Option ChaosEngineSpec := do
  let row ← j.row? ["appinfo", "engineState", "experiments"]
  return {
    appinfo := ← row.defaulted "appinfo" {} EngineTarget.ofJson?
    engineState := ← row.required "engineState" fun j => j.word?.bind EngineState.ofName?
    experiments := ← row.defaulted "experiments" [] (Draft.listOf? EngineExperiment.ofJson?) }

end ChaosEngineSpec

/-- The outcome of one experiment. -/
structure ExperimentOutcome where
  name : String
  status : String := ""
  verdict : String := ""
  deriving DecidableEq, Repr

namespace ExperimentOutcome

def toJson (o : ExperimentOutcome) : Json := .record [
  ("name", some (.str o.name)),
  ("status", some (.str o.status)),
  ("verdict", some (.str o.verdict))]

def ofJson? (j : Draft) : Option ExperimentOutcome := do
  let row ← j.row? ["name", "status", "verdict"]
  return {
    name := ← row.required "name" Draft.text?
    status := ← row.defaulted "status" "" Draft.text?
    verdict := ← row.defaulted "verdict" "" Draft.text? }

end ExperimentOutcome

structure ChaosEngineStatus where
  engineStatus : Option String := none
  experiments : List ExperimentOutcome := []
  deriving DecidableEq, Repr

namespace ChaosEngineStatus

def toJson (s : ChaosEngineStatus) : Json := .record [
  ("engineStatus", s.engineStatus.map .str),
  ("experiments", if s.experiments.isEmpty then none
    else some (.arr (s.experiments.map ExperimentOutcome.toJson)))]

def ofJson? (j : Draft) : Option ChaosEngineStatus := do
  let row ← j.row? ["engineStatus", "experiments"]
  return {
    engineStatus := ← row.optional "engineStatus" Draft.text?
    experiments := ← row.defaulted "experiments" [] (Draft.listOf? ExperimentOutcome.ofJson?) }

end ChaosEngineStatus

end PolicyOperator
