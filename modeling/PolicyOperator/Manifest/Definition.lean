import PolicyOperator.Manifest.Schema
import PolicyOperator.Resource.Kind

/-!
# Object definitions

The definitions by which the API server learns of the operator's own kinds of objects. They have to
be applied before the operator runs.
-/

namespace PolicyOperator

/-- A column that listings of objects show. -/
structure Column where
  name : String
  type : String
  /-- Where the value is found. -/
  path : String
  deriving DecidableEq, Repr

/-- What the API server has to know of a kind. -/
structure Definition where
  kind : ResourceKind
  shortName : String
  columns : List Column
  spec : Schema
  status : Schema

namespace Definition

def columnJson (c : Column) : Json := .object [
  ("jsonPath", .str c.path), ("name", .str c.name), ("type", .str c.type)]

/-- The schema of a whole object. -/
def schema (d : Definition) : Schema :=
  ((Schema.record [.required "spec" d.spec, .optional "status" d.status.nullable]).described
    ("Auto-generated derived type for " ++ d.kind.name ++ "Spec via `CustomResource`")).setField
    "title" (.str d.kind.name)

def names (d : Definition) : Json := .object [
  ("categories", .arr []),
  ("kind", .str d.kind.name),
  ("plural", .str d.kind.plural),
  ("shortNames", .arr [.str d.shortName]),
  ("singular", .str d.kind.name.toLower)]

def version (d : Definition) : Json := .object [
  ("additionalPrinterColumns", .arr (d.columns.map columnJson)),
  ("name", .str d.kind.version),
  ("schema", .object [("openAPIV3Schema", d.schema)]),
  ("served", .bool true),
  ("storage", .bool true),
  ("subresources", .object [("status", .obj [])])]

def toJson (d : Definition) : Json := .object [
  ("apiVersion", .str "apiextensions.k8s.io/v1"),
  ("kind", .str "CustomResourceDefinition"),
  ("metadata", .object [("name", .str (d.kind.plural ++ "." ++ d.kind.group))]),
  ("spec", .object [
    ("group", .str d.kind.group),
    ("names", d.names),
    ("scope", .str "Namespaced"),
    ("versions", .arr [d.version])])]

/-! ## Shared parts -/

def conditionSchema : Schema := (Schema.record [
  .required "lastTransitionTime" (Schema.time.described
    ("lastTransitionTime is the last time the condition transitioned from one status to another. " ++
      "This should be when the underlying condition changed.  If that is not known, then using " ++
      "the time when the API field changed is acceptable.")),
  .required "message" (Schema.text.described
    ("message is a human readable message indicating details about the transition. This may be " ++
      "an empty string.")),
  .optional "observedGeneration" (Schema.int64.described
    ("observedGeneration represents the .metadata.generation that the condition was set based " ++
      "upon. For instance, if .metadata.generation is currently 12, but the " ++
      ".status.conditions[x].observedGeneration is 9, the condition is out of date with respect " ++
      "to the current state of the instance.")),
  .required "reason" (Schema.text.described
    ("reason contains a programmatic identifier indicating the reason for the condition's last " ++
      "transition. Producers of specific condition types may define expected values and meanings " ++
      "for this field, and whether the values are considered a guaranteed API. The value should " ++
      "be a CamelCase string. This field may not be empty.")),
  .required "status" (Schema.text.described "status of the condition, one of True, False, Unknown."),
  .required "type" (Schema.text.described
    "type of condition in CamelCase or in foo.example.com/CamelCase.")]).described
  ("Condition contains details for one aspect of the current state of this API Resource.")

/-- A flag that is off unless it is set. -/
def flag : Schema := Schema.bool.withDefault (.bool false)

/-- A text that may be missing. -/
def maybeText : Schema := Schema.text.nullable

/-! ## Tool -/

def toolSpec : Schema := (Schema.record [
  .required "type" (Schema.text.described "One of `falco`, `trivy`, `litmus`."),
  .optional "enabled" flag,
  .optional "namespace" (maybeText.described
    "Install namespace; the tool's conventional namespace when unset."),
  .optional "values" (Schema.free.described
    "Chart values merged over the tool's baseline values.")]).described "Desired state of a Tool."

def toolStatus : Schema := (Schema.record [
  .optional "installed" flag,
  .optional "healthy" flag,
  .optional "version" maybeText,
  .optional "conditions" (.list conditionSchema)]).described "Observed state of a Tool."

def tool : Definition where
  kind := .tool
  shortName := "tool"
  columns := [
    ⟨"Type", "string", ".spec.type"⟩,
    ⟨"Enabled", "boolean", ".spec.enabled"⟩,
    ⟨"Healthy", "boolean", ".status.healthy"⟩]
  spec := toolSpec
  status := toolStatus

/-! ## Policy -/

def ruleSchema : Schema := .record [
  .required "name" .text,
  .required "condition" .text,
  .required "output" .text,
  .required "priority" .text,
  .optional "tags" (.list .text)]

def observeSchema : Schema := (Schema.record [
  .optional "ruleRef" (Schema.record [.required "name" .text]).nullable,
  .optional "ruleSelector" (Schema.record [
    .optional "tags" (.list .text),
    .optional "priorities" (.list .text)]).nullable]).described
  "Which existing Falco rules the report should attribute findings to."

def falcoSpec : Schema := (Schema.record [
  .optional "rules" ((Schema.list ruleSchema).withDefault (.arr [])),
  .optional "observe" observeSchema.nullable,
  .optional "report" (Schema.record [
    .optional "create" flag,
    .optional "severity" maybeText,
    .optional "aggregationWindow" maybeText]).nullable]).described
  "Falco rules rendered into the tool's rule document."

def scanSchema : Schema := .record [
  .required "name" .text,
  .required "image" .text,
  .optional "severity" (maybeText.described "Comma-separated severities, e.g. `CRITICAL,HIGH`."),
  .optional "ignoreUnfixed" flag,
  .optional "vulnerabilityTypes" (.list .text),
  .optional "exitCode" Schema.int32.nullable]

def trivySpec : Schema := (Schema.record [
  .optional "scans" ((Schema.list scanSchema).withDefault (.arr []))]).described
  "Image scans run as one-shot tasks."

/-- A text that is empty unless it is given. -/
def emptyText : Schema := Schema.text.withDefault (.str "")

def experimentSchema : Schema := .record [
  .required "name" .text,
  .required "experimentRef" .text,
  .optional "engineRef" maybeText,
  .optional "targetNamespace" (maybeText.described
    "Namespace the engine object is created in; the policy namespace when unset."),
  .required "appInfo" (.record [
    .optional "appNamespace" emptyText,
    .optional "appLabel" emptyText,
    .optional "appKind" emptyText]),
  .optional "mode" maybeText,
  .optional "duration" maybeText,
  .optional "parameters" .textMap,
  .optional "expectedResult" (Schema.record [
    .optional "verdict" maybeText,
    .optional "failOnChaosError" Schema.bool.nullable]).nullable]

def litmusSpec : Schema := (Schema.record [
  .optional "experiments" ((Schema.list experimentSchema).withDefault (.arr []))]).described
  "Chaos experiments run through the chaos engine."

def targetSchema : Schema := (Schema.record [
  .optional "namespaceSelector" (.list .text),
  .optional "nodeSelector" (.list .text)]).described
  "Namespaces and nodes a policy applies to. Empty lists mean \"everywhere\"."

def policySpec : Schema := (Schema.record [
  .required "type" .text,
  .optional "enabled" flag,
  .optional "target" (targetSchema.withDefault (.obj [])),
  .optional "falco" falcoSpec.nullable,
  .optional "trivy" trivySpec.nullable,
  .optional "litmus" litmusSpec.nullable]).described
  ("Desired state of a Policy.\n\n" ++
    "Exactly one of the type-specific sub-specs is populated, and it must match `type`.")

def policyStatus : Schema := (Schema.record [
  .optional "phase" ((Schema.choice ["Active", "Disabled", "Invalid"]).nullable.described
    "Lifecycle phase surfaced on `Policy.status.phase`."),
  .optional "conditions" (.list conditionSchema),
  .optional "lastReport" maybeText,
  .optional "observedGeneration" Schema.int64.nullable]).described "Observed state of a Policy."

def policy : Definition where
  kind := .policy
  shortName := "pol"
  columns := [
    ⟨"Type", "string", ".spec.type"⟩,
    ⟨"Phase", "string", ".status.phase"⟩,
    ⟨"Report", "string", ".status.lastReport"⟩]
  spec := policySpec
  status := policyStatus

/-! ## PolicyReport -/

def reportSpec : Schema := (Schema.record [
  .required "policyRef" (.record [
    .required "name" .text,
    .optional "generation" (Schema.int64.withDefault (.int 0))]),
  .required "type" .text]).described
  "Desired state of a report: which policy generation it describes."

/-- A count that is zero unless it is given. -/
def count : Schema := Schema.word32.withDefault (.int 0)

def summarySchema : Schema := .record [
  .optional "verdict" ((Schema.choice ["Pass", "Fail", "Unknown"]).withDefault (.str "Unknown")),
  .optional "totalChecks" count,
  .optional "passed" count,
  .optional "failed" count]

/-- The summary before anything was checked. -/
def emptySummary : Json := .object [
  ("failed", .int 0), ("passed", .int 0), ("totalChecks", .int 0), ("verdict", .str "Unknown")]

def reportStatus : Schema := (Schema.record [
  .optional "phase"
    ((Schema.choice ["Pending", "Running", "Completed", "Failed"]).withDefault (.str "Pending")),
  .optional "summary" (summarySchema.withDefault emptySummary),
  .optional "details" (Schema.free.described "Tool-specific findings."),
  .optional "observedGeneration" (Schema.int64.nullable.described
    "Report generation the status was computed for."),
  .optional "refreshedAt" (Schema.time.nullable.described
    "When sampled evidence was last drawn.")]).described "Observed outcome of a policy run."

def policyReport : Definition where
  kind := .policyReport
  shortName := "polr"
  columns := [
    ⟨"Policy", "string", ".spec.policyRef.name"⟩,
    ⟨"Phase", "string", ".status.phase"⟩,
    ⟨"Verdict", "string", ".status.summary.verdict"⟩]
  spec := reportSpec
  status := reportStatus

/-! ## All -/

def all : List Definition := [tool, policy, policyReport]

/-- The definition of a kind; nothing for kinds that are not the operator's own. -/
def ofKind? (k : ResourceKind) : Option Definition := all.find? fun d => d.kind == k

end Definition

end PolicyOperator
