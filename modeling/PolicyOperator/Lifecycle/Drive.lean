import PolicyOperator.Lifecycle.Observed
import PolicyOperator.Platform

/-!
# Driving an object

Tools and policies share one lifecycle, in which a finalizer guards the cleanup. `drive` takes one
step: it adds the finalizer before anything is made, and removes it only after everything that was
made has been removed.
-/

namespace PolicyOperator

/-- What the lifecycle has to know of a kind of object. -/
structure Lifecycle (k : ResourceKind) where
  /-- The finalizer that guards the cleanup. -/
  finalizer : String
  enabled : Object k → Bool
  /-- Whether the owner link is there; nothing for kinds without one. -/
  linked : Object k → Option Bool
  /-- The status reflects the spec. -/
  synced : Object k → Bool
  /-- The object with its owner link. -/
  link : Object k → PlatformM (Object k)
  /-- Removes everything that the object gave rise to. -/
  cleanup : Object k → PlatformM Unit
  /-- Cleans up after a disabled object and says so on its status. -/
  disable : Object k → PlatformM Unit
  /-- Brings things in line with the spec and says so on the status; the answer is when to look
  again. -/
  sync : Object k → PlatformM (Option Duration)

namespace Lifecycle

variable {k : ResourceKind}

def observe (l : Lifecycle k) (o : Object k) : Observed where
  deleting := o.metadata.isDeleting
  guarded := o.metadata.guards.contains l.finalizer
  linked := l.linked o
  enabled := l.enabled o
  synced := l.synced o

/-- The object without the lifecycle's finalizer. -/
def unguarded (l : Lifecycle k) (o : Object k) : Object k :=
  { o with metadata := { o.metadata with
    finalizers := some (o.metadata.guards.filter (· ≠ l.finalizer)) } }

/-- The object with the lifecycle's finalizer behind the others. -/
def guarded (l : Lifecycle k) (o : Object k) : Object k :=
  { o with metadata := { o.metadata with
    finalizers := some (o.metadata.guards ++ [l.finalizer]) } }

/-- Takes the next step of an object. -/
def drive (l : Lifecycle k) (o : Object k) : PlatformM Transition := do
  match (l.observe o).step with
  | .finalize => do
    l.cleanup o
    discard (PlatformM.onCluster (ClusterM.replace (l.unguarded o)))
    return .finalized
  | .release => return .released
  | .guard => do
    discard (PlatformM.onCluster (ClusterM.replace (l.guarded o)))
    return .finalizerAdded
  | .link => do
    let linked ← l.link o
    discard (PlatformM.onCluster (ClusterM.replace linked))
    return .ownerLinked
  | .disable => do
    l.disable o
    return .disabled
  | .sync => return .synced (← l.sync o)

end Lifecycle

end PolicyOperator
