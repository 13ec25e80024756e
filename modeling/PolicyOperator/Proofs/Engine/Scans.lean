import PolicyOperator.Proofs.Engine.Rendered

/-!
# The scan engine

A reconciliation leaves a job for every scan (`ends_reconcile`): jobs that are missing are created,
and only jobs of other names are deleted. A cleanup deletes the jobs in the policy's namespace that
name the policy (`ends_cleanup`), and those are all that are tagged with its key
(`swept_of_rendered`).
-/

namespace PolicyOperator.Engine.Scans

open Cluster

variable {p p' : Policy} {pk key : Key} {spec : TrivySpec} {scan : Scan} {c c' : Cluster}

/-- There is a job for every scan of the current spec, in the current generation. -/
def InLine (p : Policy) (c : Cluster) : Prop :=
  ∃ spec, specOf p = .ok spec ∧ ∀ name ∈ spec.expectedJobs p,
    ((c.store .job).objects.get? ⟨p.metadata.nsOrEmpty, name⟩).isSome

theorem section_of_specOf (h : specOf p = .ok spec) : p.spec.trivy = some spec := by
  obtain ⟨part, hpart, h⟩ := bind_eq_ok_iff.1 h
  cases part with
  | trivy part => cases h; exact PolicySpec.trivy_of_typed hpart
  | falco part | litmus part => exact absurd h throw_ne_ok

theorem InLine.congr (h : InLine p c) (hspec : p'.spec = p.spec) (hkey : p.key = .ok pk)
    (hkey' : p'.key = .ok pk) (hgen : p'.metadata.generation = p.metadata.generation) :
    InLine p' c := by
  have hsection : specOf p' = specOf p := by unfold specOf; rw [hspec]
  have hnames : TrivySpec.jobName p' = TrivySpec.jobName p := by
    funext scan
    rw [TrivySpec.jobName, TrivySpec.jobName, Artifact.generation, Artifact.generation, hgen,
      Object.displayName_of_key hkey', ← Object.displayName_of_key hkey]
  unfold InLine TrivySpec.expectedJobs at *
  rwa [hsection, hnames, Object.nsOrEmpty_of_key hkey', ← Object.nsOrEmpty_of_key hkey]

theorem InLine.grown (h : InLine p c) (hg : Grown .job c c') : InLine p c' := by
  obtain ⟨spec, hspec, hjobs⟩ := h
  exact ⟨spec, hspec, fun name hname => hg _ (hjobs name hname)⟩

/-! ## Jobs -/

theorem key_job (hkey : p.key = .ok pk) :
    (job p scan).key = .ok ⟨pk.ns, TrivySpec.jobName p scan⟩ := by
  rw [Object.key_eq_ok_iff]
  exact ⟨rfl, (Object.key_eq_ok_iff.1 hkey).2⟩

theorem rendered_job (hkey : p.key = .ok pk) (v : Nat) (now : Instant) :
    Rendered .trivy pk ⟨pk.ns, TrivySpec.jobName p scan⟩ (Store.created (job p scan) now v) where
  plain := ⟨(Object.key_congr rfl rfl).trans (key_job hkey), rfl, rfl⟩
  tagged := Labels.tagged_labels hkey (by simp only [List.mem_singleton, forall_eq]; decide)
  placed := rfl

theorem ends_ensureJob (hkey : p.key = .ok pk) (scan : Scan) (c : Cluster) :
    Ends (ensureJob p scan) c
      (fun _ c' => (c' = c ∨ ∃ o, Filed ⟨pk.ns, TrivySpec.jobName p scan⟩ (some o) c c' ∧
          Rendered .trivy pk ⟨pk.ns, TrivySpec.jobName p scan⟩ o) ∧
        ((c'.store .job).objects.get? ⟨pk.ns, TrivySpec.jobName p scan⟩).isSome)
      fun _ c' => (c.store .job).failing = true ∧ c' = c := by
  unfold ensureJob Access.ensureJob
  rw [ends_bind, ClusterM.ends_get?, Object.nsOrEmpty_of_key hkey]
  split
  · next o ho => exact ⟨.inl rfl, by rw [ho]; rfl⟩
  · next hnone =>
    refine ends_discard.2 ((ClusterM.ends_create (key_job hkey) hnone).mono
      (fun o c' ⟨⟨v, ho⟩, hfiled⟩ => ?_) fun _ _ h => h)
    exact ⟨.inr ⟨o, hfiled, ho ▸ rendered_job hkey v c.clock⟩, by rw [hfiled.self]; rfl⟩

theorem keeps_reworked_ensureJob (hkey : p.key = .ok pk) (scan : Scan) :
    Keeps (Reworked .trivy pk) (ensureJob p scan) := fun c => by
  refine (ends_ensureJob hkey scan c).mono (fun _ c' h => ?_) fun _ c' h => ?_
  · obtain rfl | ⟨o, hfiled, ho⟩ := h.1
    · exact Std.Refl.refl _
    · exact .filed hfiled ho
  · rw [h.2]
    exact Std.Refl.refl _

theorem keeps_reworked_deleteJob (p : Policy) (j : Job) :
    Keeps (Reworked .trivy pk) (deleteJob p j) :=
  (keeps_reworked_delete .trivy _ _).discard

theorem keeps_reworked_reconcile (hkey : p.key = .ok pk) :
    Keeps (Reworked .trivy pk) (reconcile p) := by
  refine (Keeps.liftM _).bind fun spec => ?_
  refine (Keeps.forM fun scan _ => keeps_reworked_ensureJob hkey scan).bind fun _ => ?_
  exact Keeps.bind (fun c => Std.Refl.refl (r := Reworked .trivy pk) c) fun jobs =>
    Keeps.forM fun j _ => keeps_reworked_deleteJob p j

/-! ## Reconciliation -/

/-- Deletes jobs of a policy one after the other. -/
theorem clears_deleteJobs (p : Policy) (l : List Job) (c : Cluster) :
    ClusterM.Clears .job (fun key => ∃ j ∈ l, key = ⟨p.metadata.nsOrEmpty, j.displayName⟩) c
      (l.forM (deleteJob p)) :=
  .forM fun _ c => (ClusterM.Clears.delete c _ _).discard

/-- After the loop all jobs are there; none went on the way, even when it stopped. -/
theorem ends_ensureJobs (hkey : p.key = .ok pk) (scans : List Scan) (c : Cluster) :
    Ends (scans.forM (ensureJob p)) c
      (fun _ c' => (c'.store .job).failing = (c.store .job).failing ∧
        ∀ scan ∈ scans, ((c'.store .job).objects.get? ⟨pk.ns, TrivySpec.jobName p scan⟩).isSome)
      fun _ c' => (c.store .job).failing = true ∧ Grown .job c c' := by
  refine (ends_forM
    (I := fun s => (s.store .job).failing = (c.store .job).failing ∧ Grown .job c s)
    (Q := fun scan s => ((s.store .job).objects.get? ⟨pk.ns, TrivySpec.jobName p scan⟩).isSome)
    (fun scan _ s hs => ?_) ⟨rfl, Std.Refl.refl (r := Grown .job) c⟩).mono
    (fun _ _ h => ⟨h.1.1, h.2⟩) fun _ _ h => h
  refine (ends_ensureJob hkey scan s).mono (fun _ s' h => ?_) fun _ s' h => ?_
  · have hg : Grown .job s s' ∧ (s'.store .job).failing = (s.store .job).failing := by
      obtain rfl | ⟨o, hfiled, -⟩ := h.1
      · exact ⟨Std.Refl.refl (r := Grown .job) _, rfl⟩
      · exact ⟨hfiled.grown, hfiled.confined.failing _⟩
    exact ⟨⟨hg.2.trans hs.1, IsTrans.trans _ _ _ hs.2 hg.1⟩, h.2, fun b _ hb => hg.1 _ hb⟩
  · rw [h.2]
    exact ⟨hs.1 ▸ h.1, hs.2⟩

/-- A reconciliation of a policy with scans only fails when writes are made to fail, and then no job
of the current generation goes. -/
theorem ends_reconcile (hkey : p.key = .ok pk) (hspec : specOf p = .ok spec) (c : Cluster) :
    Ends (reconcile p) c (fun _ => InLine p)
      fun _ c' => (c.store .job).failing = true ∧ (InLine p c → InLine p c') := by
  unfold reconcile Access.reconcileScans
  simp only [ends_bind, ends_liftM, hspec, Access.ownJobs, ClusterM.ends_list]
  refine (ends_ensureJobs hkey spec.scans c).mono (fun _ c1 h1 => ?_)
    fun _ _ h => ⟨h.1, fun hin => hin.grown h.2⟩
  have hin : InLine p c1 := by
    refine ⟨spec, hspec, fun name hname => ?_⟩
    obtain ⟨scan, hscan, rfl⟩ := List.mem_map.1 hname
    rw [Object.nsOrEmpty_of_key hkey]
    exact h1.2 scan hscan
  refine Ends.mono (clears_deleteJobs p _ c1) (fun _ c2 h2 => ?_) fun _ c2 h2 => ?_
  · obtain ⟨spec', hspec', hjobs⟩ := hin
    obtain rfl : spec' = spec := by simpa [hspec'] using hspec
    refine ⟨spec', hspec', fun name hname => ?_⟩
    rw [h2.1.others]
    · exact hjobs name hname
    · rintro ⟨j, hj, he⟩
      have hname' : name = j.displayName := congrArg Key.name he
      simp [← hname', hname] at hj
  · exact ⟨h1.1 ▸ h2.1, fun _ => h2.2 ▸ hin⟩

/-! ## Cleanup -/

/-- Where a cleanup deletes. -/
def swept (p : Policy) (c : Cluster) (key : Key) : Prop :=
  ∃ j ∈ (c.store .job).list (some p.metadata.nsOrEmpty) (Labels.ofPolicyName p.displayName),
    key = ⟨p.metadata.nsOrEmpty, j.displayName⟩

theorem ends_cleanup (p : Policy) (c : Cluster) :
    Ends (cleanup p) c (fun _ => Cleaned .trivy (swept p c) c)
      fun _ => CleanupStopped .trivy (swept p c) c := by
  unfold cleanup ownJobs Access.ownJobs
  rw [ends_bind, ClusterM.ends_list]
  exact Ends.mono (clears_deleteJobs p _ c) (fun _ _ h => .ofArtifacts h.1 h.2.1)
    fun _ _ h => ⟨.inl h.1, .inl h.2⟩

theorem swept_of_rendered {o : Job} (hkey : p.key = .ok pk)
    (hget : (c.store .job).objects.get? key = some o) (h : Rendered .trivy pk key o) :
    swept p c key := by
  have hfiled : Object.key o = .ok key := h.plain.filed
  have hns : key.ns = p.metadata.nsOrEmpty := by rw [Object.nsOrEmpty_of_key hkey]; exact h.placed
  refine ⟨o, Store.mem_list_iff.2 ⟨key, hget, fun n hn => ?_, ?_⟩, ?_⟩
  · cases hn; exact hns.symm
  · rw [Labels.accepts_ofPolicyName_iff, Object.displayName_of_key hkey]
    exact ⟨h.tagged.manager, h.tagged.name⟩
  · rw [Object.displayName_of_key hfiled, ← hns]

end PolicyOperator.Engine.Scans
