import PolicyOperator.Proofs.Artifact
import PolicyOperator.Proofs.Cluster.Reached
import PolicyOperator.Proofs.Lifecycle.Frames

/-!
# Driving a policy writes through the stores

Whatever a policy's engine and its lifecycle do, and however it ends, they do by operations of the
stores (`Engine.later_reconcile`, `Engine.later_cleanup`, `PolicyLifecycle.later_drive`). So a reached
cluster stays reached.
-/

namespace PolicyOperator

/-! ## Writing artifacts -/

namespace Artifact

open Cluster ClusterM

variable {k : ResourceKind}

theorem later_upsert (desired : Object k) (apply : Object k → Object k) :
    Keeps Later (upsert desired apply) :=
  keeps_upsert (later_create desired) later_replace

theorem later_deleteReports (p : Policy) : Keeps Later (deleteReports p) :=
  (keeps_list _ _ _).bind fun _ => .foldlM fun _ _ _ => (later_delete _ _ _).bind fun _ => .pure _

end Artifact

/-! ## Engines -/

namespace Engine

open Cluster ClusterM

variable (p : Policy)

theorem Scans.later_ensureJob (scan : Scan) : Keeps Later (Scans.ensureJob p scan) := by
  refine (keeps_get? _ _ _).bind fun found => ?_
  cases found with
  | none => exact (later_create _).discard
  | some _ => exact .pure _

theorem Scans.later_deleteJobs (jobs : List Job) : Keeps Later (jobs.forM (Scans.deleteJob p)) :=
  .forM fun _ _ => (later_delete _ _ _).discard

theorem later_reconcile (kind : ToolKind) : Keeps Later (reconcile kind p) := by
  cases kind with
  | falco => exact (Keeps.liftM _).bind fun _ => (Artifact.later_upsert _ _).discard
  | trivy =>
    refine (Keeps.liftM _).bind fun spec => ?_
    refine (Keeps.forM fun scan _ => Scans.later_ensureJob p scan).bind fun _ => ?_
    exact (keeps_list _ _ _).bind fun _ => Scans.later_deleteJobs p _
  | litmus =>
    exact (Keeps.liftM _).bind fun _ => .forM fun _ _ => (Artifact.later_upsert _ _).discard

theorem later_cleanup (kind : ToolKind) : Keeps Later (cleanup kind p) := by
  cases kind with
  | falco =>
    exact (later_delete _ _ _).discard.bind fun _ => (Artifact.later_deleteReports p).discard
  | trivy => exact (keeps_list _ _ _).bind fun _ => Scans.later_deleteJobs p _
  | litmus =>
    refine (keeps_list _ _ _).bind fun engines => ?_
    exact (Keeps.forM fun _ _ => (later_delete _ _ _).discard).bind fun _ =>
      (Artifact.later_deleteReports p).discard

end Engine

/-! ## Driving a policy -/

/-- Operations of the stores lead from one cluster to the other. -/
def Platform.Later (pl pl' : Platform) : Prop := Cluster.Later pl.cluster pl'.cluster

instance : IsPreorder Platform Platform.Later where
  refl pl := Std.Refl.refl (r := Cluster.Later) pl.cluster
  trans _ _ _ h h' := IsTrans.trans (r := Cluster.Later) _ _ _ h h'

theorem PlatformM.later_onCluster {x : ClusterM α} (hx : Keeps Cluster.Later x) :
    Keeps Platform.Later (onCluster x) :=
  keeps_onCluster hx fun _ _ h => h

namespace PolicyLifecycle

open Cluster ClusterM PlatformM

variable (p : Policy)

theorem later_publish (status : PolicyStatus) : Keeps Cluster.Later (publish p status) :=
  keeps_publish (later_replaceStatus _)

theorem later_cleanup : Keeps Cluster.Later (cleanup p) := by
  unfold cleanup
  split
  · exact Engine.later_cleanup p _
  · split
    · exact .pure _
    · exact .throw _

theorem later_sync : Keeps Platform.Later (sync p) :=
  keeps_sync (fun kind => later_onCluster (Engine.later_reconcile p kind))
    (fun _ => later_onCluster (keeps_ensureReport later_create later_replace))
    fun status => later_onCluster (later_publish p status)

/-- Whatever comes of it, driving a policy writes through the stores. -/
theorem later_drive : Keeps Platform.Later (Lifecycle.policy.drive p) :=
  Lifecycle.keeps_drive (later_onCluster (later_cleanup p)) (later_onCluster (later_replace _))
    (later_onCluster (later_replace _))
    ((later_onCluster keeps_link).bind fun _ => (later_onCluster (later_replace _)).discard)
    (later_onCluster (keeps_disable (later_cleanup p) (later_publish p))) (later_sync p)

end PolicyLifecycle

end PolicyOperator
