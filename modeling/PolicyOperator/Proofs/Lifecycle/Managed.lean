import PolicyOperator.Lifecycle.Policy
import PolicyOperator.Lifecycle.Tool
import PolicyOperator.Proofs.Cluster.Writes
import PolicyOperator.Proofs.Store.Versions
import Mathlib.Logic.Relation

/-!
# What happens to managed objects

Tools and policies are managed: each kind has a lifecycle and a finalizer of its own. Between two
states of a cluster

* nothing happened to managed objects (`Cluster.Unmoved`),
* those that carry their finalizer were kept and go on carrying it (`Cluster.Spares`),
* or all of them but one were (`Cluster.SparesBut`).

`Act` lists what others than the operator do to a cluster: they write managed objects through the
stores, without taking the finalizer from any, and do elsewhere what they like (`Act.spares`). They
also act while the operator waits (`Platform.Tended`).
-/

namespace PolicyOperator

/-- The kinds of objects that have a lifecycle. -/
inductive Managed where
  | tool
  | policy
  deriving DecidableEq, Repr

namespace Managed

def kind : Managed → ResourceKind
  | .tool => .tool
  | .policy => .policy

def lifecycle (settings : ToolSettings) : (m : Managed) → Lifecycle m.kind
  | .tool => Lifecycle.tool settings
  | .policy => Lifecycle.policy

def finalizer : Managed → String
  | .tool => ToolLifecycle.finalizer
  | .policy => PolicyLifecycle.finalizer

theorem kind_injective {a b : Managed} (h : a.kind = b.kind) : a = b := by
  cases a <;> cases b <;> first | rfl | exact absurd h (by decide)

/-- The specs of managed objects hold no times. -/
theorem specWholeSeconds (m : Managed) (spec : m.kind.Spec) :
    m.kind.specWholeSeconds spec = spec := by
  cases m <;> rfl

end Managed

/-- A managed object as a store answered it. -/
structure Snapshot where
  of : Managed
  object : Object of.kind

namespace Cluster

variable {c c' c'' : Cluster} {ks : List ResourceKind}

/-- Managed objects are stored as they were. -/
def Unmoved (c c' : Cluster) : Prop :=
  ∀ m : Managed, (c'.store m.kind).objects = (c.store m.kind).objects ∧
    (c'.store m.kind).lastVersion = (c.store m.kind).lastVersion

instance : IsPreorder Cluster Unmoved where
  refl _ _ := ⟨rfl, rfl⟩
  trans _ _ _ h h' m := ⟨(h' m).1.trans (h m).1, (h' m).2.trans (h m).2⟩

theorem Confined.unmoved (h : Confined ks c c') (hks : ∀ m : Managed, m.kind ∉ ks) :
    Unmoved c c' := fun m => by
  rw [h.store _ (hks m)]
  exact ⟨Eq.refl _, Eq.refl _⟩

/-- The stores of managed objects advanced. -/
def Advances (c c' : Cluster) : Prop :=
  ∀ m : Managed, Store.Advanced (c.store m.kind) (c'.store m.kind)

/-- A managed object is kept and goes on carrying its finalizer. -/
def Kept (m : Managed) (key : Key) (o : Object m.kind) (c : Cluster) : Prop :=
  ∃ o', (c.store m.kind).objects.get? key = some o' ∧ m.finalizer ∈ o'.metadata.guards ∧
    o'.metadata.uid = o.metadata.uid

/-- Every managed object that carries its finalizer is kept. -/
def Spares (c c' : Cluster) : Prop :=
  ∀ m : Managed, Store.Spares m.finalizer (c.store m.kind) (c'.store m.kind)

instance : IsPreorder Cluster Spares where
  refl c m := Std.Refl.refl (c.store m.kind)
  trans _ _ _ h h' m := (h m).trans (h' m)

theorem Spares.advances (h : Spares c c') : Advances c c' := fun m => (h m).toAdvanced

theorem Unmoved.spares (h : Unmoved c c') : Spares c c' := fun m => by
  obtain ⟨hobjects, hversion⟩ := h m
  refine ⟨⟨Nat.le_of_eq hversion.symm, fun key o ho => .inl (by rwa [← hobjects]),
    fun hs key o ho => hs key o (by rwa [← hobjects])⟩, fun key o ho hf => ⟨o, ?_, hf, rfl⟩⟩
  rwa [hobjects]

/-- Every managed object that carries its finalizer is kept, but for one. -/
structure SparesBut (s : Snapshot) (c c' : Cluster) : Prop where
  advances : Advances c c'
  kept : ∀ (m : Managed) key o, (c.store m.kind).objects.get? key = some o →
    m.finalizer ∈ o.metadata.guards → Kept m key o c' ∨ s = ⟨m, o⟩

theorem Unmoved.sparesBut {s : Snapshot} (h : Unmoved c c') (h' : SparesBut s c' c'') :
    SparesBut s c c'' where
  advances m := (h.spares.advances m).trans (h'.advances m)
  kept m key o ho := h'.kept m key o (by rwa [(h m).1])

theorem spares_setStore {k : ResourceKind} {s : Store k}
    (h : ∀ m : Managed, m.kind = k → Store.Spares m.finalizer (c.store k) s) :
    Spares c (c.setStore k s) := fun m => by
  by_cases hk : m.kind = k
  · subst hk
    rw [store_setStore]
    exact h m rfl
  · rw [store_setStore_of_ne c s hk]
    exact Std.Refl.refl (c.store m.kind)

theorem advances_setStore {k : ResourceKind} {s : Store k} (h : Store.Advanced (c.store k) s) :
    Advances c (c.setStore k s) := fun m => by
  by_cases hk : m.kind = k
  · subst hk
    rwa [store_setStore]
  · rw [store_setStore_of_ne c s hk]
    exact Std.Refl.refl (c.store m.kind)

end Cluster

namespace ClusterM

open Cluster

variable {k : ResourceKind}

theorem spares_ofStore {f : Cluster → Except Error (α × Store k)}
    (hf : ∀ (m : Managed), m.kind = k → ∀ c a s, f c = .ok (a, s) →
      Store.Spares m.finalizer (c.store k) s) : Keeps Spares (ofStore k f) := fun c =>
  ends_ofStore.2 ⟨fun a s h => spares_setStore fun m hm => hf m hm c a s h,
    fun _ _ => Std.Refl.refl (r := Spares) c⟩

theorem spares_create (o : Object k) : Keeps Spares (create o) :=
  spares_ofStore fun _ _ _ _ _ h => Store.spares_create h

theorem spares_replaceStatus (o : Object k) : Keeps Spares (replaceStatus o) :=
  spares_ofStore fun _ _ _ _ _ h => Store.spares_replaceStatus h

theorem spares_delete (ns name : String) : Keeps Spares (delete k ns name) :=
  spares_ofStore fun _ _ c _ _ h => by
    obtain ⟨-, -, rfl⟩ := Store.delete_eq_ok_iff.1 h
    exact Store.spares_deletion _ c.clock _

/-- A replacement that does not take the finalizer away. -/
theorem ends_spares_replace {m : Managed} {o : Object m.kind} {c : Cluster}
    (ho : ∀ key current, o.key = .ok key → (c.store m.kind).objects.get? key = some current →
      m.finalizer ∈ current.metadata.guards → m.finalizer ∈ o.metadata.guards) :
    Ends (replace o) c (fun _ => Spares c) fun _ => Spares c := by
  refine ends_ofStore.2 ⟨fun o' s h => spares_setStore fun m' hm => ?_,
    fun _ _ => Std.Refl.refl (r := Spares) c⟩
  obtain rfl := Managed.kind_injective hm
  exact Store.spares_replace h fun key current hkey hcurrent _ => ho key current hkey hcurrent

/-- A replacement by an object with the finalizer. -/
theorem spares_replace {m : Managed} {o : Object m.kind} (ho : m.finalizer ∈ o.metadata.guards) :
    Keeps Spares (replace o) := fun _ => ends_spares_replace fun _ _ _ _ _ => ho

end ClusterM

/-! ## What others do -/

/-- The object that a write answered. -/
def Snapshot.answered {m : Managed} (r : Except Error (Object m.kind)) : Option Snapshot :=
  r.toOption.map fun o => ⟨m, o⟩

/-- Something that others do, and the object that they are answered. A replacement never takes the
finalizer from an object that carries it. -/
inductive Act : Cluster → Option Snapshot → Cluster → Prop
  | read (c : Cluster) (m : Managed) (key : Key) (o : Object m.kind) :
      (c.store m.kind).objects.get? key = some o → Act c (some ⟨m, o⟩) c
  | create (c : Cluster) (m : Managed) (o : Object m.kind) :
      Act c (Snapshot.answered (ClusterM.create o c).1) (ClusterM.create o c).2
  | replace (c : Cluster) (m : Managed) (o : Object m.kind) :
      (∀ key current, o.key = .ok key → (c.store m.kind).objects.get? key = some current →
        m.finalizer ∈ current.metadata.guards → m.finalizer ∈ o.metadata.guards) →
      Act c (Snapshot.answered (ClusterM.replace o c).1) (ClusterM.replace o c).2
  | replaceStatus (c : Cluster) (m : Managed) (o : Object m.kind) :
      Act c (Snapshot.answered (ClusterM.replaceStatus o c).1) (ClusterM.replaceStatus o c).2
  | delete (c : Cluster) (m : Managed) (key : Key) :
      Act c none (ClusterM.delete m.kind key.ns key.name c).2
  /-- They write other objects, or make writes fail. -/
  | elsewhere (c c' : Cluster) : Cluster.Unmoved c c' → Act c none c'

variable {c c' : Cluster} {answer : Option Snapshot}

theorem Act.spares (h : Act c answer c') : Cluster.Spares c c' := by
  cases h with
  | read => exact Std.Refl.refl (r := Cluster.Spares) c
  | create m o => exact (ClusterM.spares_create o).state c
  | replace m o ho => exact (ClusterM.ends_spares_replace ho).state
  | replaceStatus m o => exact (ClusterM.spares_replaceStatus o).state c
  | delete m key => exact (ClusterM.spares_delete key.ns key.name).state c
  | elsewhere _ hc => exact hc.spares

/-- The stores of managed objects keep to their keys and versions. -/
def Cluster.Numbered (c : Cluster) : Prop :=
  ∀ m : Managed, Store.Numbered (c.store m.kind)

theorem Cluster.Numbered.advances (h : c.Numbered) (ha : Cluster.Advances c c') : c'.Numbered :=
  fun m => (h m).advanced (ha m)

/-- Its store answered the snapshot at some time. -/
def Snapshot.Known (s : Snapshot) (c : Cluster) : Prop := Store.Known (c.store s.of.kind) s.object

theorem Snapshot.Known.advances {s : Snapshot} (h : s.Known c) (ha : Cluster.Advances c c') :
    s.Known c' :=
  Store.Known.advanced h (ha s.of)

theorem ClusterM.known_ofStore {m : Managed}
    {f : Cluster → Except Error (Object m.kind × Store m.kind)}
    (hf : ∀ o s, f c = .ok (o, s) → Store.Known s o) {s : Snapshot}
    (hs : s ∈ Snapshot.answered (ofStore m.kind f c).1) : s.Known (ofStore m.kind f c).2 := by
  have hends : Ends (ofStore m.kind f) c (fun o c' => Snapshot.Known ⟨m, o⟩ c') fun _ _ => True :=
    ends_ofStore.2 ⟨fun o s h => by
      simp only [Snapshot.Known, Cluster.store_setStore]
      exact hf o s h, fun _ _ => trivial⟩
  rcases hx : ofStore m.kind f c with ⟨e | o, c'⟩
  · simp [hx, Snapshot.answered, Except.toOption] at hs
  · obtain rfl : ⟨m, o⟩ = s := by simpa [hx, Snapshot.answered, Except.toOption] using hs
    exact hends.ok hx

/-- What others are answered is known. -/
theorem Act.known (h : Act c answer c') (hc : c.Numbered) {s : Snapshot} (hs : s ∈ answer) :
    s.Known c' := by
  cases h with
  | read m key o ho =>
    cases hs
    exact (hc m).known ho
  | create m o => exact ClusterM.known_ofStore (fun _ _ h => Store.known_create (hc m) h) hs
  | replace m o => exact ClusterM.known_ofStore (fun _ _ h => Store.known_replace h) hs
  | replaceStatus m o =>
    exact ClusterM.known_ofStore (fun _ _ h => Store.known_replaceStatus (hc m) h) hs
  | delete | elsewhere => cases hs

/-- What others are going to do while the operator waits consists of acts. -/
def Platform.Tended (pl : Platform) : Prop :=
  ∀ due f, (due, .change f) ∈ pl.agenda →
    ∀ c, Relation.ReflTransGen (fun c c' => ∃ answer, Act c answer c') c (f c)

theorem spares_of_acts
    (h : Relation.ReflTransGen (fun c c' => ∃ answer, Act c answer c') c c') :
    Cluster.Spares c c' := by
  induction h with
  | refl => exact Std.Refl.refl (r := Cluster.Spares) c
  | tail _ hact ih =>
    obtain ⟨answer, hact⟩ := hact
    exact IsTrans.trans _ _ _ ih hact.spares

end PolicyOperator
