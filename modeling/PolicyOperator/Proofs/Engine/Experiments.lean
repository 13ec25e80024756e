import PolicyOperator.Proofs.Engine.Rendered

/-!
# The experiment engine

A reconciliation leaves a chaos engine for every experiment (`ends_reconcile`) and takes none away.
A cleanup deletes what the labels find in all namespaces (`ends_cleanup`), which is everything that
is tagged with the policy's key (`swept_of_rendered`).
-/

namespace PolicyOperator.Engine.Experiments

open Cluster

variable {p p' : Policy} {pk key : Key} {spec : LitmusSpec} {c c' : Cluster}

/-- Where the chaos engine of an experiment is. -/
def place (p : Policy) (e : Experiment) : Key :=
  ⟨e.engineNamespace p.metadata.nsOrEmpty, Naming.chaosEngine p.displayName e.name⟩

/-- There is a chaos engine for every experiment of the current spec. -/
def InLine (p : Policy) (c : Cluster) : Prop :=
  ∃ spec, specOf p = .ok spec ∧ ∀ e ∈ spec.experiments,
    ((c.store .chaosEngine).objects.get? (place p e)).isSome

theorem InLine.congr (h : InLine p c) (hspec : p'.spec = p.spec) (hkey : p.key = .ok pk)
    (hkey' : p'.key = .ok pk) : InLine p' c := by
  have hsection : specOf p' = specOf p := by unfold specOf; rw [hspec]
  have hplace : place p' = place p := by
    funext e
    rw [place, place, Object.displayName_of_key hkey', Object.nsOrEmpty_of_key hkey',
      ← Object.displayName_of_key hkey, ← Object.nsOrEmpty_of_key hkey]
  unfold InLine at *
  rwa [hsection, hplace]

theorem InLine.grown (h : InLine p c) (hg : Grown .chaosEngine c c') : InLine p c' := by
  obtain ⟨spec, hspec, hengines⟩ := h
  exact ⟨spec, hspec, fun e he => hg _ (hengines e he)⟩

theorem key_chaosEngine (p : Policy) (e : Experiment) :
    (chaosEngine p e).key = .ok (place p e) :=
  Object.key_eq_ok_iff.2 ⟨rfl, rfl⟩

theorem tagged_chaosEngine (hkey : p.key = .ok pk) (e : Experiment) :
    Labels.Tagged (chaosEngine p e).metadata.labels pk :=
  Labels.tagged_labels hkey (by simp only [List.mem_singleton, forall_eq]; decide)

/-- Bringing an engine up to date touches nothing but its spec. -/
theorem metadata_update (p : Policy) (e : Experiment) (o : ChaosEngine) :
    ({ o with spec := (chaosEngine p e).spec } : ChaosEngine).metadata = o.metadata := rfl

theorem keeps_reworked_ensureEngine (hkey : p.key = .ok pk) (e : Experiment) :
    Keeps (Reworked .litmus pk) (ensureEngine p e) :=
  (keeps_reworked_upsert .litmus (key_chaosEngine p e) (metadata_update p e) rfl
    (tagged_chaosEngine hkey e) trivial).discard

theorem keeps_reworked_reconcile (hkey : p.key = .ok pk) :
    Keeps (Reworked .litmus pk) (reconcile p) :=
  (Keeps.liftM _).bind fun _ => Keeps.forM fun e _ => keeps_reworked_ensureEngine hkey e

theorem ends_ensureEngine (hkey : p.key = .ok pk) (e : Experiment)
    (hplain : (c.store .chaosEngine).All Object.Plain) :
    Ends (ensureEngine p e) c
      (fun _ c' => Reworked .litmus pk c c' ∧
        ∃ o, Filed (k := .chaosEngine) (place p e) (some o) c c')
      fun _ c' => (c.store .chaosEngine).failing = true ∧ c' = c := by
  refine ends_discard.2 ((Artifact.ends_upsert_plain (key_chaosEngine p e) (metadata_update p e) rfl
    hplain).mono (fun _ c' ⟨o, hfiled, ho⟩ => ?_) fun _ _ h => h)
  have hr : Rendered .litmus pk (place p e) o :=
    ⟨ho.plain, ho.tagged (tagged_chaosEngine hkey e), trivial⟩
  exact ⟨.filed hfiled hr, o, hfiled⟩

/-- A reconciliation of a policy with experiments only fails when writes are made to fail, and never
takes an engine away. -/
theorem ends_reconcile (hkey : p.key = .ok pk) (hspec : specOf p = .ok spec)
    (hplain : (c.store .chaosEngine).All Object.Plain) :
    Ends (reconcile p) c (fun _ => InLine p)
      fun _ c' => (c.store .chaosEngine).failing = true ∧ (InLine p c → InLine p c') := by
  unfold reconcile Access.reconcileExperiments
  simp only [ends_bind, ends_liftM, hspec]
  refine (ends_forM
    (I := fun s => Reworked .litmus pk c s ∧ Grown .chaosEngine c s)
    (Q := fun e s => ((s.store .chaosEngine).objects.get? (place p e)).isSome)
    (F := fun _ s => (c.store .chaosEngine).failing = true ∧ Grown .chaosEngine c s)
    (fun e _ s hs => ?_) ⟨Std.Refl.refl _, Std.Refl.refl (r := Grown .chaosEngine) c⟩).mono
    (fun _ _ h => ⟨spec, hspec, h.2⟩) fun _ _ h => ⟨h.1, fun hin => hin.grown h.2⟩
  refine (ends_ensureEngine hkey e (hs.1.plain hplain)).mono (fun _ s' h => ?_) fun _ s' h => ?_
  · obtain ⟨hr, o, hfiled⟩ := h
    refine ⟨⟨hs.1.trans hr, IsTrans.trans _ _ _ hs.2 hfiled.grown⟩, ?_, fun b _ hb =>
      hfiled.grown _ hb⟩
    rw [hfiled.self]
    rfl
  · obtain ⟨hfail, rfl⟩ := h
    exact ⟨by rwa [hs.1.confined.failing] at hfail, hs.2⟩

/-- Where a cleanup deletes. -/
def swept (p : Policy) (c : Cluster) (key : Key) : Prop :=
  ∃ e ∈ (c.store .chaosEngine).list none (selector p),
    key = ⟨e.metadata.nsOrEmpty, e.displayName⟩

theorem ends_cleanup (p : Policy) (c : Cluster) :
    Ends (cleanup p) c (fun _ => Cleaned .litmus (swept p c) c)
      fun _ => CleanupStopped .litmus (swept p c) c := by
  unfold cleanup
  rw [ends_bind, ClusterM.ends_list]
  exact ends_cleanup_reports (.forM fun e c => (ClusterM.Clears.delete c _ _).discard)

theorem swept_of_rendered {o : ChaosEngine} (hkey : p.key = .ok pk)
    (hget : (c.store .chaosEngine).objects.get? key = some o) (h : Rendered .litmus pk key o) :
    swept p c key := by
  have hfiled : Object.key o = .ok key := h.plain.filed
  refine ⟨o, Store.mem_list_iff.2 ⟨key, hget, nofun, ?_⟩, ?_⟩
  · rw [selector, Labels.accepts_inNamespace_iff, Object.displayName_of_key hkey,
      Object.nsOrEmpty_of_key hkey]
    exact h.tagged
  · rw [Object.displayName_of_key hfiled, Object.nsOrEmpty_of_key hfiled]

end PolicyOperator.Engine.Experiments
