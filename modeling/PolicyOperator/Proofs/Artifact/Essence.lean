import PolicyOperator.Proofs.Artifact.Current

/-!
# What artifacts say

`Object.essence` is an object without the marks that a store sets on it. Two deletions of one object
leave the same essence (`Withdrawn.essence_eq`), and what an upsert leaves is a function of the
essence that it found (`brought`, `ends_upsert_essence`).

An upsert reads where the desired object would be (`Object.site`), also when the object lacks a part
of its key and could not be created there. So it fails when writes are made to fail or when the
object is not `Object.Placeable`.
-/

namespace PolicyOperator

variable {k : ResourceKind}

namespace Object

/-- What an object says, without the marks that a store sets. Of the deletion only whether is
kept. -/
def essence (o : Object k) : Object k :=
  { o with metadata := { o.metadata with
    uid := none
    resourceVersion := none
    generation := none
    creationTimestamp := none
    deletionTimestamp := o.metadata.deletionTimestamp.map fun _ => ⟨0, 0⟩ } }

@[simp] theorem isDeleting_essence (o : Object k) :
    o.essence.metadata.isDeleting = o.metadata.isDeleting := by
  simp [essence, Metadata.isDeleting]

@[simp] theorem isGuarded_essence (o : Object k) :
    o.essence.metadata.isGuarded = o.metadata.isGuarded := rfl

theorem essence_created {o : Object k} (h : o.metadata.deletionTimestamp = none) (now : Instant)
    (version : Nat) : (Store.created o now version).essence = o.essence := by
  simp [Store.created, essence, h]

/-- Where an object is looked for. -/
def site (o : Object k) : Key := ⟨o.metadata.nsOrEmpty, o.displayName⟩

theorem site_of_key {o : Object k} {key : Key} (h : o.key = .ok key) : o.site = key := by
  rw [site, nsOrEmpty_of_key h, displayName_of_key h]

/-- What a deletion leaves of an object. -/
def withdrawn? (o : Object k) : Option (Object k) :=
  if o.metadata.isGuarded then
    some { o with metadata := { o.metadata with deletionTimestamp := some ⟨0, 0⟩ } }
  else none

/-- The object has a key of its own, or something is stored where it is looked for. -/
def Placeable (o : Object k) (c : Cluster) : Prop :=
  (∃ key, o.key = .ok key) ∨ ((c.store k).objects.get? o.site).isSome

end Object

namespace Store.Withdrawn

/-- Deletions of one object leave the same. -/
theorem essence_eq {o? a b : Option (Object k)} (ha : Withdrawn o? a)
    (hb : Withdrawn o? b) : a.map Object.essence = b.map Object.essence := by
  cases ha with
  | absent => cases hb; rfl
  | gone hg => rw [hb.eq_none hg]
  | kept hg hd => rw [hb.eq_of_leaving hg hd]
  | marked now version hg hd =>
    cases hb with
    | gone h => simp [hg] at h
    | kept _ h => simp [hd] at h
    | marked => rfl

theorem essence {o? o?' : Option (Object k)} (h : Withdrawn o? o?') :
    o?'.map Object.essence = (o?.map Object.essence).bind Object.withdrawn? := by
  cases h with
  | absent => rfl
  | gone hg => simp [Object.withdrawn?, hg]
  | marked now version hg hd => exact (if_pos hg).symm
  | kept hg hd =>
    obtain ⟨t, ht⟩ := Option.isSome_iff_exists.1 hd
    rw [Option.map_some, Option.bind_some, Object.withdrawn?, Object.isGuarded_essence, if_pos hg]
    simp [Object.essence, ht]

/-- A deletion leaves the labels. -/
theorem labels {o? : Option (Object k)} {o' : Object k}
    (h : Withdrawn o? (some o')) : ∃ o, o? = some o ∧ o'.metadata.labels = o.metadata.labels := by
  obtain ⟨o, rfl, ⟨rfl, -⟩ | ⟨now, version, rfl⟩⟩ := h.of_some
  · exact ⟨_, rfl, rfl⟩
  · exact ⟨o, rfl, rfl⟩

end Store.Withdrawn

namespace Cluster

/-- What the objects of a kind say. -/
def essence? (c : Cluster) (k : ResourceKind) (key : Key) : Option (Object k) :=
  ((c.store k).objects.get? key).map Object.essence

theorem Filed.essence? {key key' : Key} {o? : Option (Object k)} {c c' : Cluster}
    (h : Filed key o? c c') :
    c'.essence? k key' = if key' = key then o?.map Object.essence else c.essence? k key' := by
  unfold Cluster.essence?
  rw [h.get?]
  split <;> rfl

end Cluster

/-! ## Upserts -/

namespace Artifact

open Cluster

variable {c : Cluster} {key : Key} {desired o : Object k} {apply : Object k → Object k}
  {f : k.Spec → k.Spec}

/-- What an object has to satisfy to be current. -/
theorem Brings.current_iff (h : Brings desired apply f) :
    Current desired apply o ↔
      some ((o.metadata.labels.getD ∅).overlay (desired.metadata.labels.getD ∅)) =
        o.metadata.labels ∧
      (desired.metadata.owners.isEmpty = false →
        o.metadata.ownerReferences = some desired.metadata.owners) ∧
      f o.spec = o.spec := by
  refine ⟨fun hcurrent => ⟨?_, fun howners => ?_, ?_⟩, fun ⟨hl, ho, hs⟩ => h.current hl ho hs⟩
  · have hlabels := congrArg (fun x => x.metadata.labels) hcurrent
    rwa [h.metadata_merged] at hlabels
  · have hrefs := congrArg (fun x => x.metadata.ownerReferences) hcurrent
    rw [h.metadata_merged] at hrefs
    simpa [howners] using hrefs.symm
  · have hspec := congrArg Object.spec hcurrent
    rwa [h.spec_merged] at hspec

/-- The marks of the store do not tell whether an object is current. -/
theorem Brings.current_essence_iff (h : Brings desired apply f) :
    Current desired apply o.essence ↔ Current desired apply o := by
  rw [h.current_iff, h.current_iff]
  rfl

theorem Brings.essence_replacement (h : Brings desired apply f) (o : Object k) (v : Nat) :
    (Store.replacement o (merged o desired apply) v).essence =
      (merged o.essence desired apply).wholeSeconds := by
  rw [merged, merged, h.apply_eq, h.apply_eq]
  have hzero : (⟨0, 0⟩ : Instant).wholeSeconds = ⟨0, 0⟩ := by decide
  have hdeletion : (o.metadata.deletionTimestamp.map fun _ => (⟨0, 0⟩ : Instant)) =
      (o.metadata.deletionTimestamp.map fun _ => (⟨0, 0⟩ : Instant)).map Instant.wholeSeconds := by
    simp only [Option.map_map, Function.comp_def, hzero]
  simp only [Store.replacement, Object.essence, Object.wholeSeconds, Metadata.wholeSeconds,
    Option.map_none, ← hdeletion]

/-- What an upsert makes of the essence that is stored. -/
def brought (desired : Object k) (apply : Object k → Object k) : Option (Object k) → Object k
  | none => desired.essence
  | some o => if merged o desired apply = o then o else (merged o desired apply).wholeSeconds

/-- An upsert only fails when writes are made to fail, or when there is no place for the object. -/
theorem ends_upsert_essence (hb : Brings desired apply f)
    (hnew : desired.metadata.deletionTimestamp = none) (hc : (c.store k).All Object.Registered) :
    Ends (upsert desired apply) c
      (fun _ c' => desired.Placeable c ∧ ∃ o, Filed desired.site (some o) c c' ∧
        o.essence = brought desired apply (c.essence? k desired.site))
      fun _ c' => ((c.store k).failing = true ∨ ¬ desired.Placeable c) ∧ c' = c := by
  unfold upsert Access.upsert essence?
  rw [ends_bind, ClusterM.ends_get?]
  change Ends (match (c.store k).objects.get? desired.site with | none => _ | some _ => _) _ _ _
  cases hget : (c.store k).objects.get? desired.site with
  | none =>
    rw [ends_bind, ends_discard]
    cases hkey : desired.key with
    | ok key =>
      obtain rfl := Object.site_of_key hkey
      refine (ClusterM.ends_create hkey hget).mono (fun o c' h => ?_)
        fun _ _ h => ⟨.inl h.1, h.2⟩
      obtain ⟨⟨v, rfl⟩, hfiled⟩ := h
      exact ⟨.inl ⟨_, hkey⟩, _, hfiled, Object.essence_created hnew ..⟩
    | error e =>
      refine ClusterM.ends_ofStore.2 ⟨fun o s h => ?_, fun _ _ => ⟨.inr ?_, rfl⟩⟩
      · obtain ⟨-, key, hkey', -⟩ := Store.create_eq_ok_iff.1 h
        rw [hkey] at hkey'
        cases hkey'
      · rintro (⟨key, hkey'⟩ | hsome)
        · rw [hkey] at hkey'
          cases hkey'
        · rw [hget] at hsome
          cases hsome
  | some o =>
    have hplaceable : desired.Placeable c := .inr (by rw [hget]; rfl)
    dsimp only
    split
    · next hsame =>
      have hsame' : merged o.essence desired apply = o.essence := hb.current_essence_iff.2 hsame
      refine ⟨hplaceable, o, Filed.rfl hget, ?_⟩
      rw [Option.map_some, brought, if_pos hsame']
    · next hstale =>
      have hstale' : merged o.essence desired apply ≠ o.essence :=
        fun h => hstale (hb.current_essence_iff.1 h)
      have ho := hc _ o hget
      have hmerged : (merged o desired apply).key = .ok desired.site := by
        rw [← ho.filed]
        exact Object.key_congr (by rw [hb.metadata_merged]) (by rw [hb.metadata_merged])
      rw [ends_bind, ends_discard]
      refine (ClusterM.ends_replace hmerged hget fun v hv => ?_).mono (fun _ c' h => ?_)
        fun _ _ h => ⟨.inl h.1, h.2⟩
      · rwa [hb.metadata_merged] at hv
      · obtain ⟨v, hfiled⟩ := h
        rw [hb.remaining ho v] at hfiled
        refine ⟨hplaceable, _, hfiled, ?_⟩
        rw [hb.essence_replacement, Option.map_some, brought, if_neg hstale']

end Artifact

end PolicyOperator
