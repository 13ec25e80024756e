import PolicyOperator.Lifecycle.Policy
import PolicyOperator.Lifecycle.Tool
import PolicyOperator.Report.Handler

/-!
# Controllers

What a controller does when it is handed an object, and when it wants to see it again.
-/

namespace PolicyOperator.Controller

/-- When to look at an object again: after a while, or only when it has changed. -/
abbrev Requeue := Option Duration

def reconcileTool (settings : Settings) (t : Tool) : PlatformM Requeue := do
  return (← (Lifecycle.tool settings.tools).drive t).requeueAfter

def reconcilePolicy (p : Policy) : PlatformM Requeue := do
  return (← Lifecycle.policy.drive p).requeueAfter

/-- Deletes a report whose policy is gone. -/
def collectOrphan (r : PolicyReport) : ClusterM Requeue := fun c =>
  match ClusterM.delete .policyReport r.metadata.nsOrEmpty r.displayName c with
  | (.ok _, c) => (.ok none, c)
  | (.error _, c) => (.ok (some orphanRetryDelay), c)

/-- Brings a report up to date, or deletes it when its policy is gone. -/
def reconcileReport (settings : Settings) (r : PolicyReport) :
    ExceptT Failure (StateM Platform) Requeue := do
  match ← PlatformM.onCluster
      (ClusterM.get? .policy r.metadata.nsOrEmpty r.spec.policyRef.name) with
  | none => PlatformM.onCluster (collectOrphan r)
  | some p => do
    ReportHandler.handle settings.reports.refresh r p
    return some settings.reports.refresh

end PolicyOperator.Controller
