import PolicyOperator.Condition
import PolicyOperator.ToolKind

/-!
# Policies

A policy says how one tool behaves against a set of targets. Its spec declares a tool kind and
holds the section of that kind.
-/

namespace PolicyOperator

/-- A list of texts that is left out when empty. -/
def Json.textsUnlessEmpty (l : List String) : Option Json :=
  if l.isEmpty then none else some (Json.ofTexts l)

/-! ## Targets -/

/-- Namespaces and nodes that a policy is about; an empty list means all of them. -/
structure Target where
  namespaces : List String := []
  nodes : List String := []
  deriving DecidableEq, Repr, Inhabited

namespace Target

def toJson (t : Target) : Json := .record [
  ("namespaceSelector", Json.textsUnlessEmpty t.namespaces),
  ("nodeSelector", Json.textsUnlessEmpty t.nodes)]

def ofJson? (j : Draft) : Option Target := do
  let row ← j.row? ["namespaceSelector", "nodeSelector"]
  return {
    namespaces := ← row.defaulted "namespaceSelector" [] (Draft.listOf? Draft.text?)
    nodes := ← row.defaulted "nodeSelector" [] (Draft.listOf? Draft.text?) }

end Target

/-! ## Falco: runtime rules -/

/-- A rule that alerts on a condition. -/
structure Rule where
  name : String
  condition : String
  output : String
  priority : String
  tags : List String := []
  deriving DecidableEq, Repr

namespace Rule

def toJson (r : Rule) : Json := .record [
  ("condition", some (.str r.condition)),
  ("name", some (.str r.name)),
  ("output", some (.str r.output)),
  ("priority", some (.str r.priority)),
  ("tags", Json.textsUnlessEmpty r.tags)]

def ofJson? (j : Draft) : Option Rule := do
  let row ← j.row? ["name", "condition", "output", "priority", "tags"]
  return {
    name := ← row.required "name" Draft.text?
    condition := ← row.required "condition" Draft.text?
    output := ← row.required "output" Draft.text?
    priority := ← row.required "priority" Draft.text?
    tags := ← row.defaulted "tags" [] (Draft.listOf? Draft.text?) }

end Rule

/-- Picks rules by tag and priority. -/
structure RuleSelector where
  tags : List String := []
  priorities : List String := []
  deriving DecidableEq, Repr

namespace RuleSelector

def toJson (s : RuleSelector) : Json := .record [
  ("priorities", Json.textsUnlessEmpty s.priorities),
  ("tags", Json.textsUnlessEmpty s.tags)]

def ofJson? (j : Draft) : Option RuleSelector := do
  let row ← j.row? ["tags", "priorities"]
  return {
    tags := ← row.defaulted "tags" [] (Draft.listOf? Draft.text?)
    priorities := ← row.defaulted "priorities" [] (Draft.listOf? Draft.text?) }

end RuleSelector

/-- Names an existing rule. -/
structure RuleReference where
  name : String
  deriving DecidableEq, Repr

namespace RuleReference

def toJson (r : RuleReference) : Json := .record [("name", some (.str r.name))]

def ofJson? (j : Draft) : Option RuleReference := do
  let row ← j.row? ["name"]
  return { name := ← row.required "name" Draft.text? }

end RuleReference

/-- Which rules findings are attributed to. -/
structure Observation where
  rule : Option RuleReference := none
  selector : Option RuleSelector := none
  deriving DecidableEq, Repr

namespace Observation

def toJson (o : Observation) : Json := .record [
  ("ruleRef", o.rule.map RuleReference.toJson),
  ("ruleSelector", o.selector.map RuleSelector.toJson)]

def ofJson? (j : Draft) : Option Observation := do
  let row ← j.row? ["ruleRef", "ruleSelector"]
  return {
    rule := ← row.optional "ruleRef" RuleReference.ofJson?
    selector := ← row.optional "ruleSelector" RuleSelector.ofJson? }

end Observation

/-- How findings are reported. -/
structure Reporting where
  create : Bool := false
  severity : Option String := none
  aggregationWindow : Option String := none
  deriving DecidableEq, Repr

namespace Reporting

def toJson (r : Reporting) : Json := .record [
  ("aggregationWindow", r.aggregationWindow.map .str),
  ("create", some (.bool r.create)),
  ("severity", r.severity.map .str)]

def ofJson? (j : Draft) : Option Reporting := do
  let row ← j.row? ["create", "severity", "aggregationWindow"]
  return {
    create := ← row.defaulted "create" false Draft.bool?
    severity := ← row.optional "severity" Draft.text?
    aggregationWindow := ← row.optional "aggregationWindow" Draft.text? }

end Reporting

/-- The falco section: rules, and whose findings the report shows. -/
structure FalcoSpec where
  rules : List Rule := []
  observe : Option Observation := none
  report : Option Reporting := none
  deriving DecidableEq, Repr

namespace FalcoSpec

/-- The rule that findings are attributed to: the referenced one, else the first declared. -/
def observedRule? (s : FalcoSpec) : Option String :=
  match s.observe.bind Observation.rule with
  | some r => some r.name
  | none => s.rules.head?.map Rule.name

def toJson (s : FalcoSpec) : Json := .record [
  ("observe", s.observe.map Observation.toJson),
  ("report", s.report.map Reporting.toJson),
  ("rules", some (.arr (s.rules.map Rule.toJson)))]

def ofJson? (j : Draft) : Option FalcoSpec := do
  let row ← j.row? ["rules", "observe", "report"]
  return {
    rules := ← row.defaulted "rules" [] (Draft.listOf? Rule.ofJson?)
    observe := ← row.optional "observe" Observation.ofJson?
    report := ← row.optional "report" Reporting.ofJson? }

end FalcoSpec

/-! ## Trivy: image scans -/

/-- One image to scan. -/
structure Scan where
  name : String
  image : String
  severity : Option String := none
  ignoreUnfixed : Bool := false
  vulnerabilityTypes : List String := []
  exitCode : Option Int := none
  deriving DecidableEq, Repr

namespace Scan

def toJson (s : Scan) : Json := .record [
  ("exitCode", s.exitCode.map .int),
  ("ignoreUnfixed", some (.bool s.ignoreUnfixed)),
  ("image", some (.str s.image)),
  ("name", some (.str s.name)),
  ("severity", s.severity.map .str),
  ("vulnerabilityTypes", Json.textsUnlessEmpty s.vulnerabilityTypes)]

def ofJson? (j : Draft) : Option Scan := do
  let row ← j.row?
    ["name", "image", "severity", "ignoreUnfixed", "vulnerabilityTypes", "exitCode"]
  return {
    name := ← row.required "name" Draft.text?
    image := ← row.required "image" Draft.text?
    severity := ← row.optional "severity" Draft.text?
    ignoreUnfixed := ← row.defaulted "ignoreUnfixed" false Draft.bool?
    vulnerabilityTypes := ← row.defaulted "vulnerabilityTypes" [] (Draft.listOf? Draft.text?)
    exitCode := ← row.optional "exitCode" Draft.int32? }

end Scan

/-- The trivy section. -/
structure TrivySpec where
  scans : List Scan := []
  deriving DecidableEq, Repr

namespace TrivySpec

def toJson (s : TrivySpec) : Json := .record [("scans", some (.arr (s.scans.map Scan.toJson)))]

def ofJson? (j : Draft) : Option TrivySpec := do
  let row ← j.row? ["scans"]
  return { scans := ← row.defaulted "scans" [] (Draft.listOf? Scan.ofJson?) }

end TrivySpec

/-! ## Litmus: chaos experiments -/

/-- The application under experiment. -/
structure AppInfo where
  ns : String := ""
  label : String := ""
  kind : String := ""
  deriving DecidableEq, Repr

namespace AppInfo

def toJson (a : AppInfo) : Json := .record [
  ("appKind", some (.str a.kind)),
  ("appLabel", some (.str a.label)),
  ("appNamespace", some (.str a.ns))]

def ofJson? (j : Draft) : Option AppInfo := do
  let row ← j.row? ["appNamespace", "appLabel", "appKind"]
  return {
    ns := ← row.defaulted "appNamespace" "" Draft.text?
    label := ← row.defaulted "appLabel" "" Draft.text?
    kind := ← row.defaulted "appKind" "" Draft.text? }

end AppInfo

/-- What the user expects of an experiment. -/
structure ExpectedResult where
  verdict : Option String := none
  failOnChaosError : Option Bool := none
  deriving DecidableEq, Repr

namespace ExpectedResult

def toJson (e : ExpectedResult) : Json := .record [
  ("failOnChaosError", e.failOnChaosError.map .bool),
  ("verdict", e.verdict.map .str)]

def ofJson? (j : Draft) : Option ExpectedResult := do
  let row ← j.row? ["verdict", "failOnChaosError"]
  return {
    verdict := ← row.optional "verdict" Draft.text?
    failOnChaosError := ← row.optional "failOnChaosError" Draft.bool? }

end ExpectedResult

/-- One chaos experiment. -/
structure Experiment where
  name : String
  experimentRef : String
  engineRef : Option String := none
  /-- Where its engine lives; the policy's namespace when not given. -/
  targetNamespace : Option String := none
  appInfo : AppInfo
  mode : Option String := none
  duration : Option String := none
  parameters : SortedMap String String := ∅
  expectedResult : Option ExpectedResult := none
  deriving DecidableEq

namespace Experiment

/-- The namespace of the experiment's engine. An empty one counts as not given. -/
def engineNamespace (e : Experiment) (policyNamespace : String) : String :=
  (e.targetNamespace.filter (· ≠ "")).getD policyNamespace

def toJson (e : Experiment) : Json := .record [
  ("appInfo", some e.appInfo.toJson),
  ("duration", e.duration.map .str),
  ("engineRef", e.engineRef.map .str),
  ("expectedResult", e.expectedResult.map ExpectedResult.toJson),
  ("experimentRef", some (.str e.experimentRef)),
  ("mode", e.mode.map .str),
  ("name", some (.str e.name)),
  ("parameters", if e.parameters.isEmpty then none else some (Json.ofTextMap e.parameters)),
  ("targetNamespace", e.targetNamespace.map .str)]

def ofJson? (j : Draft) : Option Experiment := do
  let row ← j.row? ["name", "experimentRef", "engineRef", "targetNamespace", "appInfo", "mode",
    "duration", "parameters", "expectedResult"]
  return {
    name := ← row.required "name" Draft.text?
    experimentRef := ← row.required "experimentRef" Draft.text?
    engineRef := ← row.optional "engineRef" Draft.text?
    targetNamespace := ← row.optional "targetNamespace" Draft.text?
    appInfo := ← row.required "appInfo" AppInfo.ofJson?
    mode := ← row.optional "mode" Draft.text?
    duration := ← row.optional "duration" Draft.text?
    parameters := ← row.defaulted "parameters" ∅ Draft.textMap?
    expectedResult := ← row.optional "expectedResult" ExpectedResult.ofJson? }

end Experiment

/-- The litmus section. -/
structure LitmusSpec where
  experiments : List Experiment := []
  deriving DecidableEq

namespace LitmusSpec

def toJson (s : LitmusSpec) : Json :=
  .record [("experiments", some (.arr (s.experiments.map Experiment.toJson)))]

def ofJson? (j : Draft) : Option LitmusSpec := do
  let row ← j.row? ["experiments"]
  return { experiments := ← row.defaulted "experiments" [] (Draft.listOf? Experiment.ofJson?) }

end LitmusSpec

/-! ## Policies -/

/-- What the user asks of a policy. -/
structure PolicySpec where
  /-- The name of one of the tool kinds. -/
  type : String
  enabled : Bool := false
  target : Target := {}
  falco : Option FalcoSpec := none
  trivy : Option TrivySpec := none
  litmus : Option LitmusSpec := none
  deriving DecidableEq

/-- The one section that a well-formed spec holds. -/
inductive Section where
  | falco (spec : FalcoSpec)
  | trivy (spec : TrivySpec)
  | litmus (spec : LitmusSpec)
  deriving DecidableEq

namespace PolicySpec

/-- The declared kind. -/
def kind (s : PolicySpec) : Except Error ToolKind := ToolKind.ofName s.type

/-- How many sections are filled in. -/
def sectionCount (s : PolicySpec) : Nat :=
  s.falco.isSome.toNat + s.trivy.isSome.toNat + s.litmus.isSome.toNat

/-- The section of a kind. -/
def sectionOf (s : PolicySpec) : ToolKind → Option Section
  | .falco => s.falco.map .falco
  | .trivy => s.trivy.map .trivy
  | .litmus => s.litmus.map .litmus

/-- The section of the declared kind, which has to be the only one. -/
def typed (s : PolicySpec) : Except Error Section := do
  let kind ← s.kind
  if 1 < s.sectionCount then
    throw (.validation s!"exactly one type-specific spec may be set for type={kind.name}")
  match s.sectionOf kind with
  | some part => return part
  | none => throw (.validation s!"spec.{kind.name} is required for type={kind.name}")

def toJson (s : PolicySpec) : Json := .record [
  ("enabled", some (.bool s.enabled)),
  ("falco", s.falco.map FalcoSpec.toJson),
  ("litmus", s.litmus.map LitmusSpec.toJson),
  ("target", some s.target.toJson),
  ("trivy", s.trivy.map TrivySpec.toJson),
  ("type", some (.str s.type))]

def ofJson? (j : Draft) : Option PolicySpec := do
  let row ← j.row? ["type", "enabled", "target", "falco", "trivy", "litmus"]
  return {
    type := ← row.required "type" Draft.text?
    enabled := ← row.defaulted "enabled" false Draft.bool?
    target := ← row.defaulted "target" {} Target.ofJson?
    falco := ← row.optional "falco" FalcoSpec.ofJson?
    trivy := ← row.optional "trivy" TrivySpec.ofJson?
    litmus := ← row.optional "litmus" LitmusSpec.ofJson? }

end PolicySpec

/-- Where a policy is in its life. -/
inductive PolicyPhase where
  | active
  | disabled
  | invalid
  deriving DecidableEq, Repr

namespace PolicyPhase

def name : PolicyPhase → String
  | .active => "Active"
  | .disabled => "Disabled"
  | .invalid => "Invalid"

def ofName? : String → Option PolicyPhase
  | "Active" => some .active
  | "Disabled" => some .disabled
  | "Invalid" => some .invalid
  | _ => none

end PolicyPhase

/-- What the operator observed of a policy. -/
structure PolicyStatus where
  phase : Option PolicyPhase := none
  conditions : List Condition := []
  /-- The name of the report that was made last. -/
  lastReport : Option String := none
  /-- The generation that was in force when the policy was synced last. -/
  observedGeneration : Option Int := none
  deriving DecidableEq

namespace PolicyStatus

def toJson (s : PolicyStatus) : Json := .record [
  ("conditions", if s.conditions.isEmpty then none
    else some (.arr (s.conditions.map Condition.toJson))),
  ("lastReport", s.lastReport.map .str),
  ("observedGeneration", s.observedGeneration.map .int),
  ("phase", s.phase.map fun p => .str p.name)]

def ofJson? (j : Draft) : Option PolicyStatus := do
  let row ← j.row? ["phase", "conditions", "lastReport", "observedGeneration"]
  return {
    phase := ← row.optional "phase" fun j => j.word?.bind PolicyPhase.ofName?
    conditions := ← row.defaulted "conditions" [] (Draft.listOf? Condition.ofJson?)
    lastReport := ← row.optional "lastReport" Draft.text?
    observedGeneration := ← row.optional "observedGeneration" Draft.int64? }

def wholeSeconds (s : PolicyStatus) : PolicyStatus :=
  { s with conditions := s.conditions.map Condition.wholeSeconds }

@[simp] theorem wholeSeconds_wholeSeconds (s : PolicyStatus) :
    s.wholeSeconds.wholeSeconds = s.wholeSeconds := by
  simp [wholeSeconds, Function.comp_def]

end PolicyStatus

end PolicyOperator
