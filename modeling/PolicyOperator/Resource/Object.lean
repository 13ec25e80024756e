import PolicyOperator.Resource.Kind

/-!
# Objects and their wire form

An object is its metadata, its spec and perhaps a status. `toJson` writes it as the API server
stores it, `ofJson?` reads it. The wire form keeps everything but fractions of a second
(`wholeSeconds`).
-/

namespace PolicyOperator

/-- An object of a kind. -/
structure Object (k : ResourceKind) where
  metadata : Metadata
  spec : k.Spec
  status : Option k.Status := none
  deriving DecidableEq

abbrev Tool := Object .tool
abbrev Policy := Object .policy
abbrev PolicyReport := Object .policyReport
abbrev ConfigMap := Object .configMap
abbrev Job := Object .job
abbrev ChaosEngine := Object .chaosEngine
abbrev VulnerabilityReport := Object .vulnerabilityReport
abbrev Pod := Object .pod
abbrev DaemonSet := Object .daemonSet
abbrev Deployment := Object .deployment

namespace ResourceKind

/-- The member that holds the spec. -/
def specKey : ResourceKind → String
  | .configMap => "data"
  | .vulnerabilityReport => "report"
  | _ => "spec"

/-- The spec on the wire; nothing when it is left out. -/
def specToJson? : (k : ResourceKind) → k.Spec → Option Json
  | .tool, s => some s.toJson
  | .policy, s => some s.toJson
  | .policyReport, s => some s.toJson
  | .configMap, s => s.map Json.ofTextMap
  | .job, s => s.map JobSpec.toJson
  | .chaosEngine, s => some s.toJson
  | .vulnerabilityReport, s => some s.toJson
  | .pod, s => s.map PodSpec.toJson
  | .daemonSet, s => s.map WorkloadSpec.toJson
  | .deployment, s => s.map WorkloadSpec.toJson

def statusToJson : (k : ResourceKind) → k.Status → Json
  | .tool, s => s.toJson
  | .policy, s => s.toJson
  | .policyReport, s => s.toJson
  | .configMap, s => s.elim
  | .job, s => s.toJson
  | .chaosEngine, s => s.toJson
  | .vulnerabilityReport, s => s.elim
  | .pod, s => s.toJson
  | .daemonSet, s => s.toJson
  | .deployment, s => s.toJson

/-- Reads the spec out of an object's row. -/
def specOfRow? : (k : ResourceKind) → Draft.Row → Option k.Spec
  | .tool, row => row.required "spec" ToolSpec.ofJson?
  | .policy, row => row.required "spec" PolicySpec.ofJson?
  | .policyReport, row => row.required "spec" ReportSpec.ofJson?
  | .configMap, row => row.optional "data" Draft.textMap?
  | .job, row => row.optional "spec" JobSpec.ofJson?
  | .chaosEngine, row => row.required "spec" ChaosEngineSpec.ofJson?
  | .vulnerabilityReport, row => row.defaulted "report" {} ScanResult.ofJson?
  | .pod, row => row.optional "spec" PodSpec.ofJson?
  | .daemonSet, row => row.optional "spec" WorkloadSpec.ofDaemonJson?
  | .deployment, row => row.optional "spec" WorkloadSpec.ofJson?

/-- Reads the status out of an object's row. -/
def statusOfRow? : (k : ResourceKind) → Draft.Row → Option (Option k.Status)
  | .tool, row => row.optional "status" ToolStatus.ofJson?
  | .policy, row => row.optional "status" PolicyStatus.ofJson?
  | .policyReport, row => row.optional "status" ReportStatus.ofJson?
  | .configMap, _ => some none
  | .job, row => row.optional "status" JobStatus.ofJson?
  | .chaosEngine, row => row.optional "status" ChaosEngineStatus.ofJson?
  | .vulnerabilityReport, _ => some none
  | .pod, row => row.optional "status" PodStatus.ofJson?
  | .daemonSet, row => row.optional "status" DaemonSetStatus.ofJson?
  | .deployment, row => row.optional "status" DeploymentStatus.ofJson?

/-- A spec without fractions of a second. -/
def specWholeSeconds : (k : ResourceKind) → k.Spec → k.Spec
  | .tool, s => s
  | .policy, s => s
  | .policyReport, s => s
  | .configMap, s => s
  | .job, s => s.map JobSpec.wholeSeconds
  | .chaosEngine, s => s
  | .vulnerabilityReport, s => s
  | .pod, s => s
  | .daemonSet, s => s.map WorkloadSpec.wholeSeconds
  | .deployment, s => s.map WorkloadSpec.wholeSeconds

/-- Fractions of a second are dropped once. -/
@[simp] theorem specWholeSeconds_specWholeSeconds (k : ResourceKind) (s : k.Spec) :
    k.specWholeSeconds (k.specWholeSeconds s) = k.specWholeSeconds s := by
  cases k <;> simp [specWholeSeconds, Function.comp_def]

/-- A spec without the signs of zeros in its free-form values. -/
def specUnsignedZeros : (k : ResourceKind) → k.Spec → k.Spec
  | .tool, s => s.unsignedZeros
  | .policy, s => s
  | .policyReport, s => s
  | .configMap, s => s
  | .job, s => s
  | .chaosEngine, s => s
  | .vulnerabilityReport, s => s
  | .pod, s => s
  | .daemonSet, s => s
  | .deployment, s => s

/-- Two specs ask for the same. Fractions of a second and signs of zeros do not tell them apart. -/
def sameSpec (k : ResourceKind) (a b : k.Spec) : Bool :=
  k.specUnsignedZeros (k.specWholeSeconds a) = k.specUnsignedZeros (k.specWholeSeconds b)

@[simp] theorem sameSpec_specWholeSeconds (k : ResourceKind) (a b : k.Spec) :
    k.sameSpec a (k.specWholeSeconds b) = k.sameSpec a b := by
  simp [sameSpec]

/-- A status without fractions of a second. -/
def statusWholeSeconds : (k : ResourceKind) → k.Status → k.Status
  | .tool, s => s.wholeSeconds
  | .policy, s => s.wholeSeconds
  | .policyReport, s => s.wholeSeconds
  | .configMap, s => s
  | .job, s => s
  | .chaosEngine, s => s
  | .vulnerabilityReport, s => s
  | .pod, s => s
  | .daemonSet, s => s
  | .deployment, s => s.wholeSeconds

@[simp] theorem statusWholeSeconds_statusWholeSeconds (k : ResourceKind) (s : k.Status) :
    k.statusWholeSeconds (k.statusWholeSeconds s) = k.statusWholeSeconds s := by
  cases k <;> simp [statusWholeSeconds]

/-- Objects of the kind say which kind they are. -/
def isTagged : ResourceKind → Bool
  | .vulnerabilityReport => false
  | _ => true

end ResourceKind

namespace Object

variable {k : ResourceKind}

/-- The name that the object is spoken of by, empty when it has none. -/
def displayName (o : Object k) : String := o.metadata.displayName

def toJson (o : Object k) : Json := .record [
  ("apiVersion", if k.isTagged then some (.str k.apiVersion) else none),
  ("kind", if k.isTagged then some (.str k.name) else none),
  ("metadata", some o.metadata.toJson),
  (k.specKey, k.specToJson? o.spec),
  ("status", o.status.map k.statusToJson)]

/-- A reference by which another object names this one as its owner; nothing before the object has
a name and an identity. -/
def ownerReference? (o : Object k) : Option OwnerReference := do
  return {
    apiVersion := k.apiVersion
    kind := k.name
    name := ← o.metadata.name
    uid := ← o.metadata.uid }

/-- The report shows a finished run. -/
def isCompleted (r : PolicyReport) : Bool := r.status.any fun s => s.phase == .completed

/-- A tag of a built-in object may be missing but not wrong. -/
def tagFits (row : Draft.Row) (key tag : String) : Bool :=
  (row.given key).all fun d => d.text? == some tag

/-- Reads an object. The operator's own kinds need metadata and spec, and may be given as the list
of metadata, spec and status; built-in kinds need nothing, but their tags have to be right. -/
def ofJson? (k : ResourceKind) (j : Draft) : Option (Object k) :=
  if k.isBuiltIn then do
    let row ← j.members?
    guard (tagFits row "apiVersion" k.apiVersion && tagFits row "kind" k.name)
    return {
      metadata := ← row.lenient "metadata" {} Metadata.ofJson?
      spec := ← k.specOfRow? row
      status := ← k.statusOfRow? row }
  else do
    let row ← j.row? (["metadata", k.specKey] ++ if k = .vulnerabilityReport then [] else ["status"])
    let complete : Bool := match j with
      | .arr items => k == .vulnerabilityReport || items.length == 3
      | _ => true
    guard complete
    return {
      metadata := ← row.required "metadata" Metadata.ofJson?
      spec := ← k.specOfRow? row
      status := ← k.statusOfRow? row }

/-- The object as its wire form keeps it. -/
def wholeSeconds (o : Object k) : Object k where
  metadata := o.metadata.wholeSeconds
  spec := k.specWholeSeconds o.spec
  status := o.status.map k.statusWholeSeconds

/-- Fractions of a second are dropped once. -/
@[simp] theorem wholeSeconds_wholeSeconds (o : Object k) :
    o.wholeSeconds.wholeSeconds = o.wholeSeconds := by
  simp [wholeSeconds, Function.comp_def]

end Object

end PolicyOperator
