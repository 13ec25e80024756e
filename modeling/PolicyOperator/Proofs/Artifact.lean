import PolicyOperator.Proofs.Cluster.Writes
import PolicyOperator.Proofs.Labels

/-!
# Writing artifacts

An object that only the operator writes is `Plain`: it is filed under its own key, no finalizer
holds it and nobody is deleting it. So a deletion of a plain object takes it away
(`Cleared.get?_iff_of_plain`), and a replacement leaves it in place.

`upsert` creates, updates or leaves alone (`ends_upsert`), and in each case the stored object is the
desired one laid over what was there (`ends_upsert_plain`).
-/

namespace PolicyOperator

variable {k : ResourceKind}

/-! ## Plain objects -/

/-- Filed under its own key, held by no finalizer, and not being deleted. -/
structure Object.Plain (key : Key) (o : Object k) : Prop where
  filed : o.key = .ok key
  unguarded : o.metadata.isGuarded = false
  staying : o.metadata.isDeleting = false

theorem Metadata.isGuarded_of_mem {m : Metadata} {finalizer : String} (h : finalizer ∈ m.guards) :
    m.isGuarded = true := by
  cases hg : m.guards with
  | nil => rw [hg] at h; cases h
  | cons _ _ => rw [Metadata.isGuarded, hg]; rfl

namespace Store

variable {keys : Key → Prop} {s s' : Store k} {key : Key} {o : Object k}

theorem remaining_of_staying (h : o.metadata.isDeleting = false) : remaining o = some o := by
  simp [remaining, h]

theorem remaining_of_guarded (h : o.metadata.isGuarded = true) : remaining o = some o := by
  simp [remaining, h]

/-- Of plain objects a deletion leaves nothing. -/
theorem Cleared.get?_iff_of_plain (h : Cleared keys s s') (hs : s.All Object.Plain) :
    s'.objects.get? key = some o ↔ s.objects.get? key = some o ∧ ¬ keys key := by
  by_cases hk : keys key
  · have hw := h.swept key hk
    have hnone : s'.objects.get? key = none := by
      cases hcur : s.objects.get? key with
      | none =>
        rw [hcur] at hw
        exact hw.of_none
      | some current =>
        rw [hcur] at hw
        exact hw.eq_none (hs key current hcur).unguarded
    simp [hnone, hk]
  · simp [h.others key hk, hk]

theorem Cleared.plain (h : Cleared keys s s') (hs : s.All Object.Plain) : s'.All Object.Plain :=
  fun _ _ ho => hs _ _ ((h.get?_iff_of_plain hs).1 ho).1

end Store

/-! ## Upserts -/

namespace Artifact

open Cluster

variable {c c' : Cluster} {key : Key} {desired : Object k} {apply : Object k → Object k}

/-- What an upsert did to the key of the desired object. -/
inductive Upserted (desired : Object k) (apply : Object k → Object k) (key : Key) (c : Cluster) :
    Change → Cluster → Prop
  | created {c' : Cluster} (v : Nat) : (c.store k).objects.get? key = none →
      Filed key (some (Store.created desired c.clock v)) c c' →
      Upserted desired apply key c .created c'
  | updated {c' : Cluster} (o : Object k) (v : Nat) : (c.store k).objects.get? key = some o →
      Filed key (Store.remaining (Store.replacement o (merged o desired apply) v)) c c' →
      Upserted desired apply key c .updated c'
  | unchanged (o : Object k) : (c.store k).objects.get? key = some o →
      merged o desired apply = o → Upserted desired apply key c .unchanged c

/-- An upsert only fails when writes are made to fail. Unless the object is there already, it takes
one that can be created. -/
theorem ends_upsert_at (hplace : ⟨desired.metadata.nsOrEmpty, desired.displayName⟩ = key)
    (hkey : (c.store k).objects.get? key = none → desired.key = .ok key)
    (happly : ∀ o : Object k, (apply o).metadata = o.metadata)
    (hfiled : ∀ o, (c.store k).objects.get? key = some o → o.key = .ok key) :
    Ends (upsert desired apply) c (Upserted desired apply key c)
      fun _ c' => (c.store k).failing = true ∧ c' = c := by
  unfold upsert Access.upsert
  rw [ends_bind, ClusterM.ends_get?, hplace]
  split
  · next hnone =>
    rw [ends_bind, ends_discard]
    exact (ClusterM.ends_create (hkey hnone) hnone).mono
      (fun o' c' ⟨⟨v, ho'⟩, h⟩ => .created v hnone (ho' ▸ h)) fun _ _ h => h
  · next o ho =>
    dsimp only
    split
    · next hsame => exact Upserted.unchanged o ho hsame
    · have hmerged : (merged o desired apply).key = .ok key := by
        have hm := Object.key_eq_ok_iff.1 (hfiled o ho)
        exact Object.key_eq_ok_iff.2 (by simpa [merged, happly] using hm)
      rw [ends_bind, ends_discard]
      refine (ClusterM.ends_replace hmerged ho fun v hv => ?_).mono
        (fun _ c' ⟨v, h⟩ => Upserted.updated o v ho h) fun _ _ h => h
      simpa [merged, happly] using hv

theorem ends_upsert (hkey : desired.key = .ok key)
    (happly : ∀ o : Object k, (apply o).metadata = o.metadata)
    (hfiled : ∀ o, (c.store k).objects.get? key = some o → o.key = .ok key) :
    Ends (upsert desired apply) c (Upserted desired apply key c)
      fun _ c' => (c.store k).failing = true ∧ c' = c :=
  ends_upsert_at (by rw [Object.nsOrEmpty_of_key hkey, Object.displayName_of_key hkey])
    (fun _ => hkey) happly hfiled

theorem keeps_upsert {R : Cluster → Cluster → Prop} [IsPreorder Cluster R] {desired : Object k}
    {apply : Object k → Object k} (hcreate : Keeps R (ClusterM.create desired))
    (hreplace : ∀ o : Object k, Keeps R (ClusterM.replace o)) : Keeps R (upsert desired apply) := by
  refine (ClusterM.keeps_get? _ _ _).bind fun found => ?_
  cases found with
  | none => exact hcreate.discard.bind fun _ => .pure _
  | some o =>
    dsimp only
    split
    · exact .pure _
    · exact (hreplace _).discard.bind fun _ => .pure _

theorem confined_upsert (desired : Object k) (apply : Object k → Object k) :
    Keeps (Confined [k]) (upsert desired apply) :=
  keeps_upsert (ClusterM.confined_create (by simp) desired)
    fun o => ClusterM.confined_replace (by simp) o

/-- The desired object laid over what was there: a plain object with the desired labels among its
labels, and the spec that is desired or that `apply` makes. -/
structure Brought (desired : Object k) (apply : Object k → Object k) (key : Key) (o : Object k) :
    Prop where
  plain : o.Plain key
  labels : o.metadata.labels = desired.metadata.labels ∨
    ∃ old : TextMap, o.metadata.labels = some (old.overlay (desired.metadata.labels.getD ∅))
  spec : o.spec = desired.spec ∨
    ∃ x, o.spec = (apply x).spec ∨ o.spec = k.specWholeSeconds (apply x).spec

/-- After an upsert among plain objects the desired object is there. -/
theorem Upserted.brought {change : Change} (h : Upserted desired apply key c change c')
    (hkey : desired.key = .ok key) (happly : ∀ o : Object k, (apply o).metadata = o.metadata)
    (hguards : desired.metadata.isGuarded = false) (hplain : (c.store k).All Object.Plain) :
    ∃ o, Filed key (some o) c c' ∧ Brought desired apply key o := by
  have hmerged : ∀ o : Object k, (merged o desired apply).metadata =
      { o.metadata with
        labels := some ((o.metadata.labels.getD ∅).overlay (desired.metadata.labels.getD ∅))
        ownerReferences :=
          if desired.metadata.owners.isEmpty then o.metadata.ownerReferences
          else some desired.metadata.owners } := fun o => happly _
  cases h with
  | created v hnone h =>
    refine ⟨_, h, ⟨(Object.key_congr rfl rfl).trans hkey, hguards, rfl⟩,
      .inl rfl, .inl rfl⟩
  | updated o v ho h =>
    have hp := hplain key o ho
    have hkey' := Object.key_eq_ok_iff.1 hp.filed
    rw [Store.remaining_of_staying (by simpa using hp.staying)] at h
    refine ⟨_, h, ⟨Object.key_eq_ok_iff.2 (by simpa [hmerged] using hkey'), ?_,
      by simpa using hp.staying⟩, .inr ⟨o.metadata.labels.getD ∅, by simp [hmerged]⟩,
      .inr ⟨_, .inr (Store.spec_replacement ..)⟩⟩
    have hguards' : (merged o desired apply).metadata.guards = o.metadata.guards := by
      simp [Metadata.guards, hmerged]
    have hp' := hp.unguarded
    rwa [Metadata.isGuarded, Store.guards_replacement, hguards', ← Metadata.isGuarded]
  | unchanged o ho hsame =>
    have hlabels := congrArg (fun x => x.metadata.labels) hsame
    have hspec := congrArg Object.spec hsame
    refine ⟨o, Filed.rfl ho, hplain key o ho, .inr ⟨o.metadata.labels.getD ∅, ?_⟩,
      .inr ⟨_, .inl hspec.symm⟩⟩
    exact hlabels.symm.trans (congrArg Metadata.labels (hmerged o))

/-- The desired labels win, so an artifact that was brought up to date is tagged as desired. -/
theorem Brought.tagged {o : Object k} {pk : Key} (h : Brought desired apply key o)
    (hd : Labels.Tagged desired.metadata.labels pk) : Labels.Tagged o.metadata.labels pk := by
  rcases h.labels with he | ⟨old, he⟩
  · rwa [he]
  · rw [he]
    exact hd.laid_over old

theorem ends_upsert_plain (hkey : desired.key = .ok key)
    (happly : ∀ o : Object k, (apply o).metadata = o.metadata)
    (hguards : desired.metadata.isGuarded = false) (hplain : (c.store k).All Object.Plain) :
    Ends (upsert desired apply) c
      (fun _ c' => ∃ o, Filed key (some o) c c' ∧ Brought desired apply key o)
      fun _ c' => (c.store k).failing = true ∧ c' = c :=
  (ends_upsert hkey happly fun o ho => (hplain key o ho).filed).mono
    (fun _ _ h => h.brought hkey happly hguards hplain) fun _ _ h => h

/-! ## Reports of a policy -/

/-- Where the reports are that `deleteReports` finds. -/
def ownReports (p : Policy) (c : Cluster) (key : Key) : Prop :=
  ∃ r ∈ (c.reports.list (some p.metadata.nsOrEmpty) ∅).filter fun r =>
    r.spec.policyRef.name == p.displayName, key = ⟨p.metadata.nsOrEmpty, r.displayName⟩

theorem clears_deleteReports (p : Policy) (c : Cluster) :
    ClusterM.Clears .policyReport (ownReports p c) c (deleteReports p) :=
  ClusterM.Clears.foldlM fun _ _ c =>
    ((ClusterM.Clears.delete c ..).bind fun _ _ => .pure _).congr fun _ => by simp

end Artifact

end PolicyOperator
