import PolicyOperator.Proofs.Artifact
import PolicyOperator.Proofs.Cluster.Reached

/-!
# Artifacts that are up to date

A stored object is `Current` for a desired one when an upsert finds nothing to change about it. What
an upsert leaves is current, whether it created the object, replaced it or left it alone
(`ends_upsert_current`): labels and owners that were laid over once stay as they are when they are
laid over again (`overlay_overlay`), and `Brings` asks the same of the spec, also after the store
has dropped fractions of a second from it. An upsert of a current object writes nothing
(`upsert_of_placed`), so neither does a second upsert (`upsert_again`), and one that changed nothing
found a current object (`Upserted.current_of_same`).

`Cluster.Still c c'`: nothing that is stored differs, versions included.
-/

namespace PolicyOperator

/-! ## Maps laid over -/

namespace SortedMap

variable {κ α : Type} [Ord κ] [Std.TransOrd κ] [Std.LawfulEqOrd κ] [DecidableEq κ]

@[simp] theorem overlay_overlay (m other : SortedMap κ α) :
    (m.overlay other).overlay other = m.overlay other := by
  apply ext_get?
  intro key
  rw [get?_overlay, get?_overlay]
  cases other.get? key <;> rfl

@[simp] theorem overlay_self (m : SortedMap κ α) : m.overlay m = m := by
  apply ext_get?
  intro key
  rw [get?_overlay]
  cases m.get? key <;> rfl

end SortedMap

/-! ## Clusters in which nothing moved -/

namespace Cluster

variable {c c' c'' : Cluster} {k : ResourceKind}

/-- Everything is stored as it was, and writes succeed as they did. -/
structure Still (c c' : Cluster) : Prop where
  objects : ∀ k, (c'.store k).objects = (c.store k).objects
  failing : ∀ k, (c'.store k).failing = (c.store k).failing

theorem Still.rfl : Still c c := ⟨fun _ => Eq.refl _, fun _ => Eq.refl _⟩

theorem Still.trans (h : Still c c') (h' : Still c' c'') : Still c c'' :=
  ⟨fun k => (h'.objects k).trans (h.objects k), fun k => (h'.failing k).trans (h.failing k)⟩

/-- A computation that only touches one store leaves things still when its objects stay. -/
theorem Confined.still (h : Confined [k] c c')
    (hk : ∀ key, (c'.store k).objects.get? key = (c.store k).objects.get? key) : Still c c' := by
  refine ⟨fun k' => ?_, h.failing⟩
  by_cases he : k' = k
  · subst he
    exact SortedMap.ext_get? hk
  · rw [h.store k' (by simpa using he)]

end Cluster

/-! ## Current objects -/

namespace Artifact

open Cluster

variable {k : ResourceKind} {c c' : Cluster} {key : Key} {desired o : Object k}
  {apply : Object k → Object k} {f : k.Spec → k.Spec}

/-- An upsert has nothing to change about the object. -/
def Current (desired : Object k) (apply : Object k → Object k) (o : Object k) : Prop :=
  merged o desired apply = o

/-- The desired object has labels, and `apply` brings up to date the spec alone, by `f`; a spec that
was brought up to date stays so, and the desired one is. -/
structure Brings (desired : Object k) (apply : Object k → Object k) (f : k.Spec → k.Spec) :
    Prop where
  labels : ∃ labels, desired.metadata.labels = some labels
  apply_eq : ∀ o, apply o = { o with spec := f o.spec }
  desired : f desired.spec = desired.spec
  again : ∀ s, f (k.specWholeSeconds (f s)) = k.specWholeSeconds (f s)

theorem Brings.metadata (h : Brings desired apply f) (o : Object k) :
    (apply o).metadata = o.metadata := by
  rw [h.apply_eq]

theorem Brings.spec_merged (h : Brings desired apply f) (o : Object k) :
    (merged o desired apply).spec = f o.spec := by
  rw [merged, h.apply_eq]

theorem Brings.metadata_merged (h : Brings desired apply f) (o : Object k) :
    (merged o desired apply).metadata =
      { o.metadata with
        labels := some ((o.metadata.labels.getD ∅).overlay (desired.metadata.labels.getD ∅))
        ownerReferences :=
          if desired.metadata.owners.isEmpty then o.metadata.ownerReferences
          else some desired.metadata.owners } :=
  h.metadata _

theorem Brings.current (h : Brings desired apply f)
    (hlabels : some ((o.metadata.labels.getD ∅).overlay (desired.metadata.labels.getD ∅)) =
      o.metadata.labels)
    (howners : desired.metadata.owners.isEmpty = false →
      o.metadata.ownerReferences = some desired.metadata.owners)
    (hspec : f o.spec = o.spec) : Current desired apply o := by
  have howners' : (if desired.metadata.owners.isEmpty then o.metadata.ownerReferences
      else some desired.metadata.owners) = o.metadata.ownerReferences := by
    cases he : desired.metadata.owners.isEmpty with
    | true => rfl
    | false => exact (howners he).symm
  rw [Current, merged, h.apply_eq]
  simp only [hlabels, howners', hspec]

theorem Brings.current_created (h : Brings desired apply f) (now : Instant) (v : Nat) :
    Current desired apply (Store.created desired now v) := by
  obtain ⟨labels, hlabels⟩ := h.labels
  refine h.current ?_ ?_ h.desired
  · show some ((desired.metadata.labels.getD ∅).overlay _) = desired.metadata.labels
    rw [hlabels, Option.getD_some, SortedMap.overlay_self]
  · intro hsome
    show desired.metadata.ownerReferences = some desired.metadata.owners
    unfold Metadata.owners at hsome ⊢
    cases ho : desired.metadata.ownerReferences with
    | none => simp [ho] at hsome
    | some owners => rfl

theorem Brings.current_replacement (h : Brings desired apply f) (o : Object k) (v : Nat) :
    Current desired apply (Store.replacement o (merged o desired apply) v) := by
  have hm := h.metadata_merged o
  refine h.current ?_ ?_ ?_
  · rw [Store.labels_replacement, hm]
    simp
  · intro hsome
    show (merged o desired apply).metadata.ownerReferences = some desired.metadata.owners
    rw [hm]
    simp [hsome]
  · rw [Store.spec_replacement, h.spec_merged]
    exact h.again o.spec

/-- A registered object stays when it is brought up to date. -/
theorem Brings.remaining (h : Brings desired apply f) (ho : o.Registered key) (v : Nat) :
    Store.remaining (Store.replacement o (merged o desired apply) v) =
      some (Store.replacement o (merged o desired apply) v) := by
  cases hd : o.metadata.isDeleting with
  | false => exact Store.remaining_of_staying (by simpa using hd)
  | true =>
    have hguards : (merged o desired apply).metadata.guards = o.metadata.guards := by
      rw [h.metadata_merged]
      rfl
    have hguarded := ho.leaving hd
    refine Store.remaining_of_guarded ?_
    rw [Metadata.isGuarded, Store.guards_replacement, hguards]
    exact hguarded

/-- After an upsert among registered objects a current one is stored. -/
theorem Upserted.current {change : Change} (h : Upserted desired apply key c change c')
    (hb : Brings desired apply f) (hc : (c.store k).All Object.Registered) :
    ∃ o, Filed key (some o) c c' ∧ Current desired apply o := by
  cases h with
  | created v _ hfiled => exact ⟨_, hfiled, hb.current_created c.clock v⟩
  | updated o v ho hfiled =>
    rw [hb.remaining (hc key o ho) v] at hfiled
    exact ⟨_, hfiled, hb.current_replacement o v⟩
  | unchanged o ho hsame => exact ⟨o, Filed.rfl ho, hsame⟩

/-- Where an upsert changed nothing, a current object was stored. -/
theorem Upserted.current_of_same {change : Change} (h : Upserted desired apply key c change c')
    (hb : Brings desired apply f) (hc : (c.store k).All Object.Registered)
    (hsame : (c'.store k).objects.get? key = (c.store k).objects.get? key) :
    ∃ o, (c.store k).objects.get? key = some o ∧ Current desired apply o := by
  obtain ⟨o, hfiled, hcurrent⟩ := h.current hb hc
  exact ⟨o, by rw [← hsame, hfiled.self], hcurrent⟩

theorem ends_upsert_current (hb : Brings desired apply f) (hkey : desired.key = .ok key)
    (hc : (c.store k).All Object.Registered) :
    Ends (upsert desired apply) c
      (fun _ c' => ∃ o, Filed key (some o) c c' ∧ Current desired apply o)
      fun _ c' => (c.store k).failing = true ∧ c' = c :=
  (ends_upsert hkey hb.metadata fun o ho => (hc key o ho).filed).mono
    (fun _ _ h => h.current hb hc) fun _ _ h => h

/-- An upsert of a current object writes nothing. -/
theorem upsert_of_placed
    (hget : (c.store k).objects.get? ⟨desired.metadata.nsOrEmpty, desired.displayName⟩ = some o)
    (hcurrent : Current desired apply o) : upsert desired apply c = (.ok .unchanged, c) := by
  have hread : ClusterM.get? k desired.metadata.nsOrEmpty desired.displayName c =
      (.ok (some o), c) := by
    rw [← hget]
    rfl
  unfold upsert Access.upsert
  rw [run_bind_of_ok hread]
  dsimp only
  rw [if_pos (show merged o desired apply = o from hcurrent)]
  rfl

theorem upsert_of_current (hkey : desired.key = .ok key)
    (hget : (c.store k).objects.get? key = some o) (hcurrent : Current desired apply o) :
    upsert desired apply c = (.ok .unchanged, c) := by
  refine upsert_of_placed ?_ hcurrent
  rw [Object.nsOrEmpty_of_key hkey, Object.displayName_of_key hkey]
  exact hget

theorem ends_upsert_of_current (hkey : desired.key = .ok key)
    (hget : (c.store k).objects.get? key = some o) (hcurrent : Current desired apply o) :
    Ends (upsert desired apply) c (fun _ c' => c' = c) fun _ _ => False := by
  rw [Ends, upsert_of_current hkey hget hcurrent]

end Artifact

end PolicyOperator
