import PolicyOperator.Metadata

/-!
# Workloads

The parts of built-in objects that the operator writes or reads: jobs, pods, daemon sets and
deployments. A field that is missing or null takes its plain value (zero, empty).
-/

namespace PolicyOperator

/-! ## Pods -/

structure Container where
  name : String
  image : Option String := none
  command : Option (List String) := none
  args : Option (List String) := none
  deriving DecidableEq, Repr

namespace Container

def toJson (c : Container) : Json := .record [
  ("args", c.args.map Json.ofTexts),
  ("command", c.command.map Json.ofTexts),
  ("image", c.image.map .str),
  ("name", some (.str c.name))]

def ofJson? (j : Draft) : Option Container := do
  let row ← j.members?
  return {
    name := ← row.lenient "name" "" Draft.text?
    image := ← row.optional "image" Draft.text?
    command := ← row.optional "command" (Draft.listOf? Draft.text?)
    args := ← row.optional "args" (Draft.listOf? Draft.text?) }

end Container

structure PodSpec where
  containers : List Container := []
  restartPolicy : Option String := none
  nodeName : Option String := none
  deriving DecidableEq, Repr

namespace PodSpec

def toJson (s : PodSpec) : Json := .record [
  ("containers", some (.arr (s.containers.map Container.toJson))),
  ("nodeName", s.nodeName.map .str),
  ("restartPolicy", s.restartPolicy.map .str)]

def ofJson? (j : Draft) : Option PodSpec := do
  let row ← j.members?
  return {
    containers := ← row.lenient "containers" [] (Draft.listOf? Container.ofJson?)
    restartPolicy := ← row.optional "restartPolicy" Draft.text?
    nodeName := ← row.optional "nodeName" Draft.text? }

end PodSpec

structure PodStatus where
  phase : Option String := none
  deriving DecidableEq, Repr

namespace PodStatus

def toJson (s : PodStatus) : Json := .record [("phase", s.phase.map .str)]

def ofJson? (j : Draft) : Option PodStatus := do
  let row ← j.members?
  return { phase := ← row.optional "phase" Draft.text? }

end PodStatus

/-- What the pods of a workload look like. -/
structure PodTemplate where
  metadata : Option Metadata := none
  spec : Option PodSpec := none
  deriving DecidableEq

namespace PodTemplate

def toJson (t : PodTemplate) : Json := .record [
  ("metadata", t.metadata.map Metadata.toJson),
  ("spec", t.spec.map PodSpec.toJson)]

def ofJson? (j : Draft) : Option PodTemplate := do
  let row ← j.members?
  return {
    metadata := ← row.optional "metadata" Metadata.ofJson?
    spec := ← row.optional "spec" PodSpec.ofJson? }

def wholeSeconds (t : PodTemplate) : PodTemplate :=
  { t with metadata := t.metadata.map Metadata.wholeSeconds }

@[simp] theorem wholeSeconds_wholeSeconds (t : PodTemplate) :
    t.wholeSeconds.wholeSeconds = t.wholeSeconds := by
  simp [wholeSeconds, Function.comp_def]

end PodTemplate

/-! ## Jobs -/

structure JobSpec where
  backoffLimit : Option Int := none
  ttlSecondsAfterFinished : Option Int := none
  template : PodTemplate := {}
  deriving DecidableEq

namespace JobSpec

def toJson (s : JobSpec) : Json := .record [
  ("backoffLimit", s.backoffLimit.map .int),
  ("template", some s.template.toJson),
  ("ttlSecondsAfterFinished", s.ttlSecondsAfterFinished.map .int)]

def ofJson? (j : Draft) : Option JobSpec := do
  let row ← j.members?
  return {
    backoffLimit := ← row.optional "backoffLimit" Draft.int32?
    ttlSecondsAfterFinished := ← row.optional "ttlSecondsAfterFinished" Draft.int32?
    template := ← row.lenient "template" {} PodTemplate.ofJson? }

def wholeSeconds (s : JobSpec) : JobSpec := { s with template := s.template.wholeSeconds }

@[simp] theorem wholeSeconds_wholeSeconds (s : JobSpec) :
    s.wholeSeconds.wholeSeconds = s.wholeSeconds := by
  simp [wholeSeconds]

end JobSpec

structure JobStatus where
  active : Option Int := none
  failed : Option Int := none
  succeeded : Option Int := none
  deriving DecidableEq, Repr

namespace JobStatus

def toJson (s : JobStatus) : Json := .record [
  ("active", s.active.map .int),
  ("failed", s.failed.map .int),
  ("succeeded", s.succeeded.map .int)]

def ofJson? (j : Draft) : Option JobStatus := do
  let row ← j.members?
  return {
    active := ← row.optional "active" Draft.int32?
    failed := ← row.optional "failed" Draft.int32?
    succeeded := ← row.optional "succeeded" Draft.int32? }

end JobStatus

/-! ## Daemon sets and deployments -/

/-- What a workload runs, and which pods it counts as its own. -/
structure WorkloadSpec where
  replicas : Option Int := none
  matchLabels : Option TextMap := none
  template : PodTemplate := {}
  deriving DecidableEq

namespace WorkloadSpec

def toJson (s : WorkloadSpec) : Json := .record [
  ("replicas", s.replicas.map .int),
  ("selector", some (.record [("matchLabels", s.matchLabels.map Json.ofTextMap)])),
  ("template", some s.template.toJson)]

def matchLabelsOf? (j : Draft) : Option (Option TextMap) := do
  (← j.members?).optional "matchLabels" Draft.textMap?

/-- A workload with one pod per node has no count of replicas. -/
def ofDaemonJson? (j : Draft) : Option WorkloadSpec := do
  let row ← j.members?
  return {
    matchLabels := ← row.lenient "selector" none matchLabelsOf?
    template := ← row.lenient "template" {} PodTemplate.ofJson? }

def ofJson? (j : Draft) : Option WorkloadSpec := do
  let row ← j.members?
  return { (← ofDaemonJson? j) with replicas := ← row.optional "replicas" Draft.int32? }

def wholeSeconds (s : WorkloadSpec) : WorkloadSpec :=
  { s with template := s.template.wholeSeconds }

@[simp] theorem wholeSeconds_wholeSeconds (s : WorkloadSpec) :
    s.wholeSeconds.wholeSeconds = s.wholeSeconds := by
  simp [wholeSeconds]

end WorkloadSpec

structure DaemonSetStatus where
  currentNumberScheduled : Int := 0
  desiredNumberScheduled : Int := 0
  numberMisscheduled : Int := 0
  numberReady : Int := 0
  numberAvailable : Option Int := none
  numberUnavailable : Option Int := none
  updatedNumberScheduled : Option Int := none
  observedGeneration : Option Int := none
  deriving DecidableEq, Repr

namespace DaemonSetStatus

def toJson (s : DaemonSetStatus) : Json := .record [
  ("currentNumberScheduled", some (.int s.currentNumberScheduled)),
  ("desiredNumberScheduled", some (.int s.desiredNumberScheduled)),
  ("numberAvailable", s.numberAvailable.map .int),
  ("numberMisscheduled", some (.int s.numberMisscheduled)),
  ("numberReady", some (.int s.numberReady)),
  ("numberUnavailable", s.numberUnavailable.map .int),
  ("observedGeneration", s.observedGeneration.map .int),
  ("updatedNumberScheduled", s.updatedNumberScheduled.map .int)]

def ofJson? (j : Draft) : Option DaemonSetStatus := do
  let row ← j.members?
  return {
    currentNumberScheduled := ← row.lenient "currentNumberScheduled" 0 Draft.int32?
    desiredNumberScheduled := ← row.lenient "desiredNumberScheduled" 0 Draft.int32?
    numberMisscheduled := ← row.lenient "numberMisscheduled" 0 Draft.int32?
    numberReady := ← row.lenient "numberReady" 0 Draft.int32?
    numberAvailable := ← row.optional "numberAvailable" Draft.int32?
    numberUnavailable := ← row.optional "numberUnavailable" Draft.int32?
    updatedNumberScheduled := ← row.optional "updatedNumberScheduled" Draft.int32?
    observedGeneration := ← row.optional "observedGeneration" Draft.int64? }

/-- Every pod that should run is ready, and there is one. -/
def isReady (s : DaemonSetStatus) : Bool :=
  0 < s.numberReady && s.desiredNumberScheduled ≤ s.numberReady

end DaemonSetStatus

structure DeploymentCondition where
  type : String
  status : String
  reason : Option String := none
  message : Option String := none
  lastTransitionTime : Option Instant := none
  lastUpdateTime : Option Instant := none
  deriving DecidableEq, Repr

namespace DeploymentCondition

def toJson (c : DeploymentCondition) : Json := .record [
  ("lastTransitionTime", c.lastTransitionTime.map Json.ofInstant),
  ("lastUpdateTime", c.lastUpdateTime.map Json.ofInstant),
  ("message", c.message.map .str),
  ("reason", c.reason.map .str),
  ("status", some (.str c.status)),
  ("type", some (.str c.type))]

def ofJson? (j : Draft) : Option DeploymentCondition := do
  let row ← j.members?
  return {
    type := ← row.lenient "type" "" Draft.text?
    status := ← row.lenient "status" "" Draft.text?
    reason := ← row.optional "reason" Draft.text?
    message := ← row.optional "message" Draft.text?
    lastTransitionTime := ← row.optional "lastTransitionTime" Draft.instant?
    lastUpdateTime := ← row.optional "lastUpdateTime" Draft.instant? }

def wholeSeconds (c : DeploymentCondition) : DeploymentCondition :=
  { c with
    lastTransitionTime := c.lastTransitionTime.map Instant.wholeSeconds
    lastUpdateTime := c.lastUpdateTime.map Instant.wholeSeconds }

@[simp] theorem wholeSeconds_wholeSeconds (c : DeploymentCondition) :
    c.wholeSeconds.wholeSeconds = c.wholeSeconds := by
  simp [wholeSeconds, Function.comp_def]

end DeploymentCondition

structure DeploymentStatus where
  observedGeneration : Option Int := none
  conditions : Option (List DeploymentCondition) := none
  replicas : Option Int := none
  readyReplicas : Option Int := none
  availableReplicas : Option Int := none
  unavailableReplicas : Option Int := none
  updatedReplicas : Option Int := none
  deriving DecidableEq, Repr

namespace DeploymentStatus

def toJson (s : DeploymentStatus) : Json := .record [
  ("availableReplicas", s.availableReplicas.map .int),
  ("conditions", s.conditions.map fun l => .arr (l.map DeploymentCondition.toJson)),
  ("observedGeneration", s.observedGeneration.map .int),
  ("readyReplicas", s.readyReplicas.map .int),
  ("replicas", s.replicas.map .int),
  ("unavailableReplicas", s.unavailableReplicas.map .int),
  ("updatedReplicas", s.updatedReplicas.map .int)]

def ofJson? (j : Draft) : Option DeploymentStatus := do
  let row ← j.members?
  return {
    observedGeneration := ← row.optional "observedGeneration" Draft.int64?
    conditions := ← row.optional "conditions" (Draft.listOf? DeploymentCondition.ofJson?)
    replicas := ← row.optional "replicas" Draft.int32?
    readyReplicas := ← row.optional "readyReplicas" Draft.int32?
    availableReplicas := ← row.optional "availableReplicas" Draft.int32?
    unavailableReplicas := ← row.optional "unavailableReplicas" Draft.int32?
    updatedReplicas := ← row.optional "updatedReplicas" Draft.int32? }

def wholeSeconds (s : DeploymentStatus) : DeploymentStatus :=
  { s with conditions := s.conditions.map (List.map DeploymentCondition.wholeSeconds) }

@[simp] theorem wholeSeconds_wholeSeconds (s : DeploymentStatus) :
    s.wholeSeconds.wholeSeconds = s.wholeSeconds := by
  simp [wholeSeconds, Function.comp_def]

/-- The deployment is available, and the status is not older than its spec. -/
def isReady (s : DeploymentStatus) (generation : Int) : Bool :=
  generation ≤ s.observedGeneration.getD 0 &&
    (s.conditions.getD []).any fun c => c.type == "Available" && c.status == "True"

end DeploymentStatus

end PolicyOperator
