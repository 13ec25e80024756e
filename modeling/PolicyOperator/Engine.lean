import PolicyOperator.Engine.Experiments
import PolicyOperator.Engine.Rules
import PolicyOperator.Engine.Scans

/-!
# Policy engines

One engine per tool kind turns a policy into artifacts. Each can check a policy without touching
the cluster, bring the artifacts in line with it, and remove them.
-/

namespace PolicyOperator

namespace Engine

/-- The engine that a policy declares. -/
def ofPolicy (p : Policy) : Except Error ToolKind := p.spec.kind

/-- Checks the policy. -/
def validate : ToolKind → Policy → Except Error Unit
  | .falco => Rules.validate
  | .trivy => Scans.validate
  | .litmus => Experiments.validate

end Engine

/-- Brings the artifacts in line with the policy. -/
def Access.reconcile [Monad m] [MonadLiftT (Except Error) m] (a : Access m) :
    ToolKind → Policy → m Unit
  | .falco => a.reconcileRules
  | .trivy => a.reconcileScans
  | .litmus => a.reconcileExperiments

namespace Engine

/-- See `Access.reconcile`. -/
def reconcile (kind : ToolKind) (p : Policy) : ClusterM Unit := Access.direct.reconcile kind p

/-- Removes the artifacts. There need not be any. -/
def cleanup : ToolKind → Policy → ClusterM Unit
  | .falco => Rules.cleanup
  | .trivy => Scans.cleanup
  | .litmus => Experiments.cleanup

end Engine

end PolicyOperator
