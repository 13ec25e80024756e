import PolicyOperator.Store

/-!
# The cluster

One store for each kind of object, the namespaces, and the time. `ClusterM` is a computation that
reads and writes them and may fail; what it wrote before it failed stays written. `Access` is what a
computation needs of the stores, whatever runs it.
-/

namespace PolicyOperator

structure Cluster where
  tools : Store .tool := {}
  policies : Store .policy := {}
  reports : Store .policyReport := {}
  configMaps : Store .configMap := {}
  jobs : Store .job := {}
  chaosEngines : Store .chaosEngine := {}
  vulnerabilityReports : Store .vulnerabilityReport := {}
  pods : Store .pod := {}
  daemonSets : Store .daemonSet := {}
  deployments : Store .deployment := {}
  namespaces : List String := []
  /-- The time of day, from which time stamps are taken. -/
  clock : Instant := ⟨0, 0⟩
  deriving Inhabited

namespace Cluster

def store (c : Cluster) : (k : ResourceKind) → Store k
  | .tool => c.tools
  | .policy => c.policies
  | .policyReport => c.reports
  | .configMap => c.configMaps
  | .job => c.jobs
  | .chaosEngine => c.chaosEngines
  | .vulnerabilityReport => c.vulnerabilityReports
  | .pod => c.pods
  | .daemonSet => c.daemonSets
  | .deployment => c.deployments

def setStore (c : Cluster) : (k : ResourceKind) → Store k → Cluster
  | .tool, s => { c with tools := s }
  | .policy, s => { c with policies := s }
  | .policyReport, s => { c with reports := s }
  | .configMap, s => { c with configMaps := s }
  | .job, s => { c with jobs := s }
  | .chaosEngine, s => { c with chaosEngines := s }
  | .vulnerabilityReport, s => { c with vulnerabilityReports := s }
  | .pod, s => { c with pods := s }
  | .daemonSet, s => { c with daemonSets := s }
  | .deployment, s => { c with deployments := s }

@[simp] theorem store_setStore (c : Cluster) (k : ResourceKind) (s : Store k) :
    (c.setStore k s).store k = s := by
  cases k <;> rfl

theorem store_setStore_of_ne (c : Cluster) {k k' : ResourceKind} (s : Store k) (h : k' ≠ k) :
    (c.setStore k s).store k' = c.store k' := by
  cases k <;> cases k' <;> first | rfl | exact absurd rfl h

@[simp] theorem clock_setStore (c : Cluster) (k : ResourceKind) (s : Store k) :
    (c.setStore k s).clock = c.clock := by
  cases k <;> rfl

@[simp] theorem namespaces_setStore (c : Cluster) (k : ResourceKind) (s : Store k) :
    (c.setStore k s).namespaces = c.namespaces := by
  cases k <;> rfl

/-- Makes the writes of a kind fail from now on, or succeed again. -/
def setFailing (c : Cluster) (k : ResourceKind) (failing : Bool) : Cluster :=
  c.setStore k { c.store k with failing := failing }

/-- Writes to the stores that hold artifacts. -/
def artifactWrites (c : Cluster) : Nat :=
  c.configMaps.writes + c.jobs.writes + c.chaosEngines.writes

end Cluster

/-- A computation over a cluster. -/
abbrev ClusterM := ExceptT Error (StateM Cluster)

namespace ClusterM

variable {k : ResourceKind}

/-- Lets a store answer; an error leaves the cluster as it is. -/
def ofStore (k : ResourceKind) (f : Cluster → Except Error (α × Store k)) : ClusterM α := do
  let c ← get
  match f c with
  | .ok (answer, store) => do
    set (c.setStore k store)
    return answer
  | .error e => throw e

/-- The time of day. -/
def now : ClusterM Instant := return (← get).clock

def get? (k : ResourceKind) (ns name : String) : ClusterM (Option (Object k)) :=
  return ((← get).store k).get? ns name

def list (k : ResourceKind) (ns : Option String) (selector : Selector) :
    ClusterM (List (Object k)) :=
  return ((← get).store k).list ns selector

def create (o : Object k) : ClusterM (Object k) := ofStore k fun c => (c.store k).create c.clock o

def replace (o : Object k) : ClusterM (Object k) := ofStore k fun c => (c.store k).replace o

def replaceStatus (o : Object k) : ClusterM (Object k) :=
  ofStore k fun c => (c.store k).replaceStatus o

def delete (k : ResourceKind) (ns name : String) : ClusterM Bool :=
  ofStore k fun c => (c.store k).delete c.clock ns name

/-- Makes a namespace unless it is there. -/
def ensureNamespace (name : String) : ClusterM Unit :=
  modify fun c =>
    if c.namespaces.contains name then c else { c with namespaces := name :: c.namespaces }

end ClusterM

/-- The operations by which objects are read and written. -/
structure Access (m : Type → Type) where
  get? (k : ResourceKind) (ns name : String) : m (Option (Object k))
  list (k : ResourceKind) (ns : Option String) (selector : Selector) : m (List (Object k))
  create {k : ResourceKind} (o : Object k) : m (Object k)
  replace {k : ResourceKind} (o : Object k) : m (Object k)
  delete (k : ResourceKind) (ns name : String) : m Bool

/-- The operations of a cluster. -/
@[reducible] def Access.direct : Access ClusterM where
  get? := ClusterM.get?
  list := ClusterM.list
  create := ClusterM.create
  replace := ClusterM.replace
  delete := ClusterM.delete

end PolicyOperator
