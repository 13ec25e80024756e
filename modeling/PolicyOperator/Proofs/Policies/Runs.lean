import PolicyOperator.Proofs.Lifecycle.Policy

/-!
# Runs of a cluster with policies

An `Event` is something that happens to the policies of a cluster: a user writes one through the
store, the operator drives one as it is stored, or somebody writes elsewhere. `Happens c e c'` says
what an event makes of a cluster, whether the write is accepted or not.

A `Run` is a sequence of events, each allowed where it happens. What users and others are allowed is
a parameter: each theorem about runs says it in its own terms. The history of a run is the list of
its events, the latest first.
-/

namespace PolicyOperator

/-- Something that happens to the policies of a cluster. -/
inductive Event where
  /-- A user creates a policy. -/
  | create (p : Policy)
  /-- A user replaces a policy. -/
  | replace (p : Policy)
  /-- A user deletes a policy. -/
  | delete (key : Key)
  /-- The operator drives the policy that is stored under a key and gets an answer. -/
  | drive (key : Key) (p : Policy) (answer : Except Error Transition)
  /-- Others write, writes are made to fail or to succeed again, or time passes. -/
  | outside

/-- What an event makes of a cluster. -/
inductive Happens : Cluster → Event → Cluster → Prop
  | create (c : Cluster) (p : Policy) : Happens c (.create p) (ClusterM.create p c).2
  | replace (c : Cluster) (p : Policy) : Happens c (.replace p) (ClusterM.replace p c).2
  | delete (c : Cluster) (key : Key) :
      Happens c (.delete key) (ClusterM.delete .policy key.ns key.name c).2
  | drive (pl : Platform) (key : Key) (p : Policy) :
      (pl.cluster.store .policy).objects.get? key = some p →
      Happens pl.cluster (.drive key p (Lifecycle.policy.drive p pl).1)
        (Lifecycle.policy.drive p pl).2.cluster
  | outside (c c' : Cluster) : Happens c .outside c'

/-- A sequence of allowed events, the latest first. -/
inductive Run (allowed : Cluster → Event → Cluster → Prop) (c₀ : Cluster) :
    List Event → Cluster → Prop
  | start : Run allowed c₀ [] c₀
  | step {history : List Event} {c c' : Cluster} {e : Event} : Run allowed c₀ history c →
      Happens c e c' → allowed c e c' → Run allowed c₀ (e :: history) c'

variable {allowed : Cluster → Event → Cluster → Prop} {c₀ c : Cluster} {history : List Event}

/-- What holds at the start and is kept by every event holds all along. -/
theorem Run.invariant {I : List Event → Cluster → Prop} (h : Run allowed c₀ history c)
    (hstart : I [] c₀) (hstep : ∀ history c e c', I history c → Happens c e c' → allowed c e c' →
      I (e :: history) c') : I history c := by
  induction h with
  | start => exact hstart
  | step _ he ha ih => exact hstep _ _ _ _ ih he ha

/-- Driving a policy that is filed under its own key. -/
theorem Happens.driven {key : Key} {p : Policy} {answer : Except Error Transition} {c' : Cluster}
    (h : Happens c (.drive key p answer) c')
    (hfiled : (c.store .policy).objects.get? key = some p → p.key = .ok key) :
    (c.store .policy).objects.get? key = some p ∧
      PolicyLifecycle.Driven key p c answer c' := by
  cases h with
  | drive pl _ _ hget =>
    have hend := PolicyLifecycle.ends_drive hget (hfiled hget)
    refine ⟨hget, ?_⟩
    rcases hd : Lifecycle.policy.drive p pl with ⟨e | t, pl'⟩
    · exact hend.error hd
    · exact hend.ok hd

/-! ## A small cluster

A namespace with one tool and one policy of its kind, to try runs on.
-/

namespace Sample

def tool : Tool where
  metadata := { name := some "falco", ns := some "shop" }
  spec := { type := "falco", enabled := true }

def policy : Policy where
  metadata := { name := some "shells", ns := some "shop" }
  spec := {
    type := "falco"
    enabled := true
    falco := some { rules := [{
      name := "shell"
      condition := "spawned_process"
      output := "shell in %container.name"
      priority := "WARNING" }] } }

def key : Key := ⟨"shop", "shells"⟩

/-- The cluster before there is a policy. -/
def start : Cluster := (ClusterM.create tool {}).2

/-- The policy as it is stored. -/
def stored (c : Cluster) : Policy := (c.policies.objects.get? key).getD policy

/-- The cluster after the stored policy was driven once. -/
def driven (c : Cluster) : Cluster := (Lifecycle.policy.drive (stored c) { cluster := c }).2.cluster

def created : Cluster := (ClusterM.create policy start).2

/-- With finalizer. -/
def guarded : Cluster := driven created

/-- With owner link. -/
def linked : Cluster := driven guarded

def synced : Cluster := driven linked

/-- The policy with a type that no engine has. -/
def unknown : Policy := { stored synced with spec := { policy.spec with type := "kyverno" } }

/-- The cluster after the policy was given that type. -/
def retyped : Cluster := (ClusterM.replace unknown synced).2

/-- The cluster after the policy was deleted. -/
def deleted (c : Cluster) : Cluster := (ClusterM.delete .policy key.ns key.name c).2

theorem happens_driven {c : Cluster} (h : c.policies.objects.get? key = some (stored c)) :
    Happens c (.drive key (stored c) (Lifecycle.policy.drive (stored c) { cluster := c }).1)
      (driven c) :=
  .drive { cluster := c } key (stored c) h

end Sample

end PolicyOperator
