import PolicyOperator.Cluster
import PolicyOperator.Naming

/-!
# Artifacts of a policy

What the artifacts of all tools have in common: their labels and owner, the report object, and
writing one only when it differs from what is stored (`upsert`).
-/

namespace PolicyOperator

namespace Artifact

/-- The labels of an artifact: those of its policy, overlaid with its own. -/
def labels (p : Policy) (extra : List (String × String)) : TextMap :=
  (Labels.ofPolicy p).insertAll extra

/-- The policy as the controlling owner, once it has an identity. -/
def owner? (p : Policy) : Option OwnerReference :=
  p.ownerReference?.map fun o => { o with controller := some true }

/-- The metadata of an artifact in the policy's namespace. -/
def ownedMetadata (p : Policy) (name : String) (extra : List (String × String)) : Metadata where
  name := some name
  ns := p.metadata.ns
  labels := some (labels p extra)
  ownerReferences := (owner? p).map fun o => [o]

/-- The generation of a policy; zero before the store has set one. -/
def generation (p : Policy) : Int := p.metadata.generation.getD 0

/-- The report on the current generation of a policy. -/
def report (p : Policy) (kind : ToolKind) : PolicyReport where
  metadata := {
    name := some (Naming.report kind p.displayName)
    ns := p.metadata.ns
    labels := some (Labels.ofPolicyName p.displayName) }
  spec := {
    policyRef := { name := p.displayName, generation := generation p }
    type := kind.name }

/-! ## Writing -/

/-- What an upsert did. -/
inductive Change where
  | created
  | updated
  | unchanged
  deriving DecidableEq, Repr

variable {k : ResourceKind}

/-- The stored object brought up to date: labels are added, owners replaced when there are any, and
`apply` sets the rest. -/
def merged (existing desired : Object k) (apply : Object k → Object k) : Object k :=
  let m := existing.metadata
  apply { existing with metadata := { m with
    labels := some ((m.labels.getD ∅).overlay (desired.metadata.labels.getD ∅))
    ownerReferences :=
      if desired.metadata.owners.isEmpty then m.ownerReferences
      else some desired.metadata.owners } }

end Artifact

/-- Creates the desired object, or brings the stored one up to date; nothing is written when it is
so already. -/
def Access.upsert [Monad m] (a : Access m) (desired : Object k) (apply : Object k → Object k) :
    m Artifact.Change := do
  match ← a.get? k desired.metadata.nsOrEmpty desired.displayName with
  | none => do
    discard (a.create desired)
    return .created
  | some existing => do
    let next := Artifact.merged existing desired apply
    if next = existing then
      return .unchanged
    else do
      discard (a.replace next)
      return .updated

namespace Artifact

/-- See `Access.upsert`. -/
def upsert (desired : Object k) (apply : Object k → Object k) : ClusterM Change :=
  Access.direct.upsert desired apply

/-- Deletes the reports in the policy's namespace that name the policy, and counts them. -/
def deleteReports (p : Policy) : ClusterM Nat := do
  let reports ← ClusterM.list .policyReport (some p.metadata.nsOrEmpty) ∅
  let ours := reports.filter fun r => r.spec.policyRef.name == p.displayName
  ours.foldlM (fun n r => do
    let deleted ← ClusterM.delete .policyReport p.metadata.nsOrEmpty r.displayName
    return if deleted then n + 1 else n) 0

end Artifact

end PolicyOperator
