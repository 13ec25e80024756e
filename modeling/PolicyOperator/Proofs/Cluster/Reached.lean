import PolicyOperator.Proofs.Cluster.Writes
import PolicyOperator.Proofs.Store.Reached

/-!
# Clusters that operations lead to

`Cluster.Later c c'`: operations of the stores lead from `c` to `c'`. The writes of a computation keep
it, so the states of a cluster that come up are `Cluster.Reached`, and all that is stored in them is
registered.
-/

namespace PolicyOperator

namespace Cluster

variable {c c' : Cluster} {k : ResourceKind}

/-- Operations of the stores lead from one cluster to another. -/
def Later (c c' : Cluster) : Prop := ∀ k, (c.store k).Later (c'.store k)

instance : IsPreorder Cluster Later where
  refl c k := .refl (c.store k)
  trans _ _ _ h h' k := (h k).trans (h' k)

/-- Every store was reached by operations. -/
def Reached (c : Cluster) : Prop := ∀ k, (c.store k).Reached

theorem reached_empty : ({} : Cluster).Reached := fun k => by
  cases k <;> exact .refl _

theorem Reached.later (hc : c.Reached) (h : c.Later c') : c'.Reached := fun k => (hc k).later (h k)

theorem Reached.registered (hc : c.Reached) (k : ResourceKind) :
    (c.store k).All Object.Registered := (hc k).registered

theorem Reached.filed (hc : c.Reached) (k : ResourceKind) : (c.store k).Filed :=
  (hc k).numbered.filed

theorem later_setStore {s : Store k} (h : (c.store k).Later s) : Later c (c.setStore k s) := by
  intro k'
  by_cases he : k' = k
  · subst he
    rwa [store_setStore]
  · rw [store_setStore_of_ne c s he]
    exact .refl _

end Cluster

namespace ClusterM

open Cluster

variable {k : ResourceKind}

theorem later_ofStore {f : Cluster → Except Error (α × Store k)}
    (hf : ∀ c a s, f c = .ok (a, s) → (c.store k).Later s) : Keeps Later (ofStore k f) := fun c =>
  ends_ofStore.2 ⟨fun a s h => later_setStore (hf c a s h),
    fun _ _ => Std.Refl.refl (r := Later) c⟩

theorem later_create (o : Object k) : Keeps Later (create o) :=
  later_ofStore fun _ _ _ h => .create (.refl _) h

theorem later_replace (o : Object k) : Keeps Later (replace o) :=
  later_ofStore fun _ _ _ h => .replace (.refl _) h

theorem later_replaceStatus (o : Object k) : Keeps Later (replaceStatus o) :=
  later_ofStore fun _ _ _ h => .replaceStatus (.refl _) h

theorem later_delete (k : ResourceKind) (ns name : String) : Keeps Later (delete k ns name) :=
  later_ofStore fun _ _ _ h => .delete (.refl _) h

end ClusterM

end PolicyOperator
