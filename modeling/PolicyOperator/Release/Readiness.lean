import PolicyOperator.Duration
import PolicyOperator.Resource.Object

/-!
# Readiness

When a workload counts as ready, and polling for it: a probe, then pauses and further probes until
one succeeds or the ceiling is reached.
-/

namespace PolicyOperator

namespace Object

def isReadyDaemonSet (o : DaemonSet) : Bool := o.status.any DaemonSetStatus.isReady

def isReadyDeployment (o : Deployment) : Bool :=
  o.status.any fun s => s.isReady (o.metadata.generation.getD 0)

end Object

namespace Poll

/-- How often is probed at most: at once, after each whole interval, and at the ceiling. Without an
interval no time passes between probes; then `patience` bounds them. -/
def maxProbes (interval ceiling : Duration) (patience : Nat) : Nat :=
  if interval.nanoseconds = 0 then patience
  else (ceiling.nanoseconds + (interval.nanoseconds - 1)) / interval.nanoseconds + 1

/-- Probes, and after each pause again, until a probe succeeds or no time remains. A pause takes the
interval, or what remains if that is less. -/
@[specialize] def untilReady {m : Type → Type} [Monad m] (probe : m Bool)
    (pause : Duration → m Unit) (interval : Duration) : Nat → Duration → m Bool
  | 0, _ => return false
  | probes + 1, remaining => do
    if ← probe then
      return true
    else if remaining.nanoseconds = 0 then
      return false
    else do
      let d := min interval.nanoseconds remaining.nanoseconds
      pause ⟨d⟩
      untilReady probe pause interval probes ⟨remaining.nanoseconds - d⟩

end Poll

end PolicyOperator
