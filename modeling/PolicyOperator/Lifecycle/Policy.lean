import PolicyOperator.Engine
import PolicyOperator.Lifecycle.Drive

/-!
# The lifecycle of policies

A policy belongs to the tool that is named after its type. In sync, its artifacts are as its spec
says, its report names the current generation, and its status says so.
-/

namespace PolicyOperator.PolicyLifecycle

def finalizer : String := "eirenyx.policy/finalizer"

/-- An owner is the tool that the policy's type names. -/
def isLink (p : Policy) (owner : OwnerReference) : Bool :=
  owner.kind == ResourceKind.tool.name && owner.name == p.spec.type

def linked (p : Policy) : Option Bool := some (p.metadata.owners.any (isLink p))

def synced (p : Policy) : Bool :=
  p.status.any fun s =>
    s.phase == some .active && s.observedGeneration == some (Artifact.generation p)

/-- The policy with one more owner. -/
def withOwner (p : Policy) (owner : OwnerReference) : Policy :=
  { p with metadata := { p.metadata with
    ownerReferences := some (p.metadata.owners ++ [owner]) } }

/-- The policy with the tool of its kind, in its own namespace, as an owner. -/
def link (p : Policy) : ClusterM Policy := do
  let kind ← p.spec.kind
  let ns := p.metadata.nsOrEmpty
  match ← ClusterM.get? .tool ns kind.name with
  | none => throw (.notFound "Tool" s!"{ns}/{kind.name}")
  | some tool =>
    match tool.ownerReference? with
    | none => throw (.notReady s!"tool {kind.name} has no uid yet")
    | some owner => return withOwner p owner

/-- Writes a status unless it is there already. -/
def publish (p : Policy) (status : PolicyStatus) : ClusterM Unit := do
  if p.status = some status then
    return
  else
    discard (ClusterM.replaceStatus { p with status := some status })

/-- A finding on the policy as a whole. -/
def finding (p : Policy) (healthy : Bool) (reason message : String) : Finding where
  type := Condition.ready
  healthy := healthy
  reason := reason
  message := message
  observedGeneration := some (Artifact.generation p)

/-- The status after a failure. It keeps its phase unless there is another. -/
def failedStatus (p : Policy) (phase : Option PolicyPhase) (reason : String) (e : Error)
    (now : Instant) : PolicyStatus :=
  let status := p.status.getD {}
  { status with
    phase := phase.or status.phase
    conditions := Condition.record (finding p false reason e.message) now status.conditions }

/-- Notes a failure on the status, as well as that can be done. -/
def recordFailure (p : Policy) (phase : Option PolicyPhase) (reason : String) (e : Error) :
    PlatformM Unit := do
  let now := (← get).cluster.clock
  discard (PlatformM.attempt (PlatformM.onCluster
    (publish p (failedStatus p phase reason e now))))

/-- Removes the artifacts of the declared type. An unknown type has none. -/
def cleanup (p : Policy) : ClusterM Unit :=
  match Engine.ofPolicy p with
  | .ok kind => Engine.cleanup kind p
  | .error e => if e.isTerminal then pure () else throw e

/-- The status of a disabled policy. -/
def disabledStatus (p : Policy) (now : Instant) : PolicyStatus :=
  let status := p.status.getD {}
  { status with
    phase := some .disabled
    conditions :=
      Condition.record (finding p false "Disabled" "policy is disabled") now status.conditions }

def disable (p : Policy) : ClusterM Unit := do
  cleanup p
  publish p (disabledStatus p (← ClusterM.now))

/-- Creates the report, or points the one that is there at what it should be about. The answer is
its name. -/
def ensureReport (desired : PolicyReport) : ClusterM String := do
  match ← ClusterM.get? .policyReport desired.metadata.nsOrEmpty desired.displayName with
  | none => discard (ClusterM.create desired)
  | some existing =>
    if existing.spec ≠ desired.spec then
      discard (ClusterM.replace { existing with spec := desired.spec })
  return desired.displayName

/-- The engine of a policy that it accepts. -/
def engineFor (p : Policy) : Except Error ToolKind := do
  let kind ← Engine.ofPolicy p
  Engine.validate kind p
  return kind

/-- The status after a sync. Without a report the generation does not count as observed. -/
def syncedStatus (p : Policy) (report : Option String) (now : Instant) : PolicyStatus :=
  let status := p.status.getD {}
  { status with
    phase := some .active
    conditions :=
      Condition.record (finding p true "Synced" "artifacts are in sync") now status.conditions
    lastReport := report.or status.lastReport
    observedGeneration :=
      if report.isSome then some (Artifact.generation p) else status.observedGeneration }

/-- Validates the policy, brings its artifacts and its report in line with it, and says so. -/
def sync (p : Policy) : PlatformM (Option Duration) := do
  match engineFor p with
  | .error e => do
    recordFailure p (some .invalid) "ValidationFailed" e
    throw e
  | .ok kind =>
    match ← PlatformM.attempt (PlatformM.onCluster (Engine.reconcile kind p)) with
    | .error e => do
      recordFailure p none "ReconcileFailed" e
      throw e
    | .ok () => do
      let report ← PlatformM.attempt (PlatformM.onCluster (ensureReport (Artifact.report p kind)))
      let now := (← get).cluster.clock
      PlatformM.onCluster (publish p (syncedStatus p report.toOption now))
      return none

end PolicyLifecycle

/-- The lifecycle of policies. -/
def Lifecycle.policy : Lifecycle .policy where
  finalizer := PolicyLifecycle.finalizer
  enabled p := p.spec.enabled
  linked := PolicyLifecycle.linked
  synced := PolicyLifecycle.synced
  link p := PlatformM.onCluster (PolicyLifecycle.link p)
  cleanup p := PlatformM.onCluster (PolicyLifecycle.cleanup p)
  disable p := PlatformM.onCluster (PolicyLifecycle.disable p)
  sync := PolicyLifecycle.sync

end PolicyOperator
