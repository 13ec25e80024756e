import PolicyOperator.Proofs.Engine.Interrupted
import PolicyOperator.Proofs.Engine.Outcome
import PolicyOperator.Proofs.Policies.Interference

/-!
# Reconciling again after a failure

A write of a reconciliation fails, and what was written before stays. Reconciling once more leaves the
artifacts that the reconciliation would have left (`replayed`), wherever it stopped and whatever it
found.

Where a reconciliation stops is `Stopped`, and from there it has the same outcome as from the start
(`Stopped.resumable`): going through the first entries of a list and then through all of them comes to
going through all of them. As the outcome tells what is there afterwards (`ends_reconcile_outcome`),
both runs leave the same.
-/

namespace PolicyOperator.Engine

open Cluster Artifact

variable {kind : ToolKind} {p : Policy} {c c₀ c₁ c' : Cluster}

/-! ## Where it stopped -/

/-- Reconciling has the same outcome in the second cluster, which operations made of the first. -/
structure Resumable (kind : ToolKind) (p : Policy) (c c₁ : Cluster) : Prop where
  later : Later c c₁
  confined : Confined [kind.artifact] c c₁
  writable : (c₁.store kind.artifact).failing = false
  placeable : Placeable kind p c → Placeable kind p c₁
  outcome : ∀ key, outcome kind p key (c₁.essence? kind.artifact key) =
    outcome kind p key (c.essence? kind.artifact key)

theorem later_of_run {x : ClusterM α} (hx : Keeps Later x) {r : Except Error α}
    (h : x c = (r, c₁)) : Later c c₁ := by
  have hlater := hx.state c
  rwa [h] at hlater

namespace Scans

variable {spec : TrivySpec}

/-- A job has its place as long as the jobs of scans do not go away. -/
theorem placeable_mono (hspec : specOf p = .ok spec)
    (hkept : ∀ scan ∈ spec.scans, (c.essence? .job (job p scan).site).isSome →
      (c₁.essence? .job (job p scan).site).isSome)
    (h : Placeable .trivy p c) : Placeable .trivy p c₁ := by
  unfold Placeable at h ⊢
  rw [entries_of_specOf hspec] at h ⊢
  exact fun scan hscan =>
    placeable_job_iff.2 ((placeable_job_iff.1 (h scan hscan)).imp id (hkept scan hscan))

/-- Some scans got their jobs. -/
theorem resumable_filled {done : List Scan} (hspec : specOf p = .ok spec)
    (hdone : done <+: spec.scans) (hrun : done.forM (ensureJob p) c = (.ok ⟨⟩, c₁))
    (hwritable : (c₁.store .job).failing = false) : Resumable .trivy p c c₁ := by
  obtain ⟨-, hconfined, hfilled⟩ := (ends_ensureJobs_essence p done c).ok hrun
  constructor
  case later => exact later_of_run (.forM fun _ _ => later_ensureJob p _) hrun
  case confined => exact hconfined
  case writable => exact hwritable
  case placeable =>
    refine placeable_mono hspec fun scan _ hsome => ?_
    rw [hfilled]
    exact isSome_filled_iff.2 (.inl hsome)
  case outcome =>
    intro key
    show outcome p (entries .trivy p) key (c₁.essence? .job key) =
      outcome p (entries .trivy p) key (c.essence? .job key)
    rw [entries_of_specOf hspec, hfilled]
    exact outcome_filled hdone

/-- All scans got their jobs, and some of the outdated jobs were deleted. -/
theorem resumable_pruned {done : List Job} (hspec : specOf p = .ok spec)
    (hc : (c.store .job).All Object.Registered)
    (hjobs : spec.scans.forM (ensureJob p) c = (.ok ⟨⟩, c₀)) (hdone : done <+: stale p spec c₀)
    (hrun : done.forM (deleteJob p) c₀ = (.ok ⟨⟩, c₁))
    (hwritable : (c₁.store .job).failing = false) : Resumable .trivy p c c₁ := by
  obtain ⟨-, hconfined, hfilled⟩ := (ends_ensureJobs_essence p spec.scans c).ok hjobs
  obtain ⟨hcleared, hconfined', -⟩ := (clears_deleteJobs p done c₀).ok hrun
  have hlater : Later c c₀ := later_of_run (.forM fun _ _ => later_ensureJob p _) hjobs
  have hfiled : (c₀.store .job).Filed := ((hlater .job).registered hc).mono fun _ _ ho => ho.filed
  have hstale : ∀ key, (∃ j ∈ done, key = ⟨p.metadata.nsOrEmpty, j.displayName⟩) →
      Outdated p spec c₀ key := fun key ⟨j, hj, hkey⟩ =>
    (outdated_iff hfiled).1 ⟨j, hdone.subset hj, hkey⟩
  -- a key is as the scans left it, or as the whole reconciliation leaves it
  have hsome : ∀ key, c₁.essence? .job key = filled p spec.scans key (c.essence? .job key) ∨
      c₁.essence? .job key = outcome p spec.scans key (c.essence? .job key) := by
    intro key
    obtain ⟨hdeleted, hother⟩ := pruned_of_cleared hcleared hstale key
    rw [hfilled] at hdeleted hother
    by_cases hkey : ∃ j ∈ done, key = ⟨p.metadata.nsOrEmpty, j.displayName⟩
    · exact .inr (hdeleted hkey)
    · exact .inl (hother hkey)
  constructor
  case later =>
    exact IsTrans.trans _ _ _ hlater (later_of_run (later_deleteJobs p done) hrun)
  case confined => exact IsTrans.trans _ _ _ hconfined hconfined'
  case writable => exact hwritable
  case placeable =>
    refine placeable_mono hspec fun scan hscan hthere => ?_
    have hname : (job p scan).site.name ∈ spec.scans.map (TrivySpec.jobName p) :=
      List.mem_map_of_mem hscan
    have hkept : c₁.essence? .job (job p scan).site =
        filled p spec.scans (job p scan).site (c.essence? .job (job p scan).site) :=
      (hsome _).elim id fun h => h.trans (pruned_of_mem hname)
    rw [hkept]
    exact isSome_filled_iff.2 (.inl hthere)
  case outcome =>
    intro key
    show outcome p (entries .trivy p) key (c₁.essence? .job key) =
      outcome p (entries .trivy p) key (c.essence? .job key)
    rw [entries_of_specOf hspec]
    obtain h | h := hsome key
    · rw [h]
      exact outcome_filled List.prefix_rfl
    · rw [h]
      exact outcome_outcome

end Scans

/-- Some experiments got their engines. -/
theorem Experiments.resumable_upserted {spec : LitmusSpec} {done : List Experiment}
    (hspec : specOf p = .ok spec) (hc : (c.store .chaosEngine).All Object.Registered)
    (hdone : done <+: spec.experiments) (hrun : done.forM (ensureEngine p) c = (.ok ⟨⟩, c₁))
    (hwritable : (c₁.store .chaosEngine).failing = false) : Resumable .litmus p c c₁ := by
  obtain ⟨hconfined, hupserted⟩ := (ends_ensureEngines_essence p done hc).ok hrun
  constructor
  case later => exact later_of_run (.forM fun _ _ => (later_upsert _ _).discard) hrun
  case confined => exact hconfined
  case writable => exact hwritable
  case placeable => exact fun _ e _ => .inl ⟨_, key_chaosEngine p e⟩
  case outcome =>
    intro key
    show upserted p (entries .litmus p) key (c₁.essence? .chaosEngine key) =
      upserted p (entries .litmus p) key (c.essence? .chaosEngine key)
    rw [entries_of_specOf hspec, hupserted]
    exact upserted_of_prefix hdone

theorem Stopped.resumable (h : Stopped kind p c c₁)
    (hc : (c.store kind.artifact).All Object.Registered) : Resumable kind p c c₁ := by
  cases kind with
  | falco =>
    obtain ⟨rfl, hwritable⟩ := h
    exact ⟨Std.Refl.refl (r := Later) _, .rfl, hwritable, id, fun _ => rfl⟩
  | trivy =>
    obtain ⟨spec, hspec, ⟨done, hdone, hrun, hwritable⟩ | ⟨c₀, hjobs, done, hdone, hrun, hwritable⟩⟩ := h
    · exact Scans.resumable_filled hspec hdone hrun hwritable
    · exact Scans.resumable_pruned hspec hc hjobs hdone hrun hwritable
  | litmus =>
    obtain ⟨spec, hspec, done, hdone, hrun, hwritable⟩ := h
    exact Experiments.resumable_upserted hspec hc hdone hrun hwritable

/-! ## The theorem -/

/-- The stores do not depend on the time. -/
theorem store_at (c : Cluster) (now : Instant) (k : ResourceKind) :
    ({ c with clock := now } : Cluster).store k = c.store k := by
  cases k <;> rfl

/-- The artifacts of a kind are as the outcome tells, and nothing else changed. -/
structure Concluded (kind : ToolKind) (p : Policy) (c c' : Cluster) : Prop where
  outcome : ∀ key, c'.essence? kind.artifact key =
    outcome kind p key (c.essence? kind.artifact key)
  others : ∀ k, k ≠ kind.artifact → c'.store k = c.store k

theorem Concluded.alike {c'' : Cluster} (h : Concluded kind p c c') (h' : Concluded kind p c c'') :
    SameArtifacts c' c'' := by
  intro kind' key
  by_cases hkind : kind' = kind
  · subst hkind
    exact (h.outcome key).trans (h'.outcome key).symm
  · have hother : kind'.artifact ≠ kind.artifact := fun h => hkind (ToolKind.artifact_injective h)
    rw [h.others _ hother, h'.others _ hother]

/-- A second reconciliation, at any time, succeeds with the outcome of the first. -/
theorem Resumable.concluded (h : Resumable kind p c c₁)
    (hc : (c.store kind.artifact).All Object.Registered) (hplaceable : Placeable kind p c)
    (hwell : ¬ Malformed kind p) (now : Instant) :
    ∃ c'', reconcile kind p { c₁ with clock := now } = (.ok (), c'') ∧ Concluded kind p c c'' := by
  have hregistered : (({ c₁ with clock := now } : Cluster).store kind.artifact).All
      Object.Registered := by
    rw [store_at]
    exact (h.later _).registered hc
  have hessence : ∀ key, ({ c₁ with clock := now } : Cluster).essence? kind.artifact key =
      c₁.essence? kind.artifact key := fun key => by
    rw [essence?, store_at, essence?]
  have hplaceable' : Placeable kind p { c₁ with clock := now } := fun e he =>
    (h.placeable hplaceable e he).imp id fun hthere => by rwa [store_at]
  obtain ⟨⟨⟩, c'', hrun, -, hconfined, houtcome⟩ :=
    ((ends_reconcile_outcome (p := p) hregistered).mono (fun _ _ h => h) fun _ _ hfailed => by
      rw [store_at, h.writable] at hfailed
      obtain hmalformed | hfailing | hnot := hfailed
      · exact hwell hmalformed
      · cases hfailing
      · exact hnot hplaceable').exists_ok
  refine ⟨c'', hrun, fun key => ?_, fun k hk => ?_⟩
  · rw [houtcome, hessence, h.outcome]
  · have hother : k ∉ [kind.artifact] := fun hmem => hk (List.mem_singleton.1 hmem)
    rw [hconfined.store k hother, store_at, h.confined.store k hother]

/-- A reconciliation would succeed, but a write fails after some others (`n` of them). Reconciled
again at any later time, the policy gets the same artifacts. -/
theorem replayed {n : Nat} {e : Error} {s : Rationed} (hc : c.Reached)
    (hwhole : reconcile kind p c = (.ok (), c'))
    (hstop : Access.rationed.reconcile kind p ⟨c, n⟩ = (.error e, s)) (now : Instant) :
    ∃ c'', reconcile kind p { s.cluster with clock := now } = (.ok (), c'') ∧
      SameArtifacts c' c'' := by
  have hregistered := hc.registered kind.artifact
  have hstopped : Stopped kind p c s.cluster :=
    (follows_reconcile kind p ⟨c, n⟩ () c' hwhole).error hstop
  have hwell : ¬ Malformed kind p := fun ⟨e, he⟩ => by
    rw [he c] at hwhole
    cases hwhole
  obtain ⟨hplaceable, hconfined, houtcome⟩ := (ends_reconcile_outcome hregistered).ok hwhole
  have hconcluded : Concluded kind p c c' :=
    ⟨houtcome, fun k hk => hconfined.store k fun hmem => hk (List.mem_singleton.1 hmem)⟩
  obtain ⟨c'', hrun, hagain⟩ :=
    (hstopped.resumable hregistered).concluded hregistered hplaceable hwell now
  exact ⟨c'', hrun, hconcluded.alike hagain⟩

namespace Sample

/-- A policy that scans one image. -/
def scanning (name : String) : Policy where
  metadata := { name := some "images", ns := some "shop" }
  spec := {
    type := "trivy"
    enabled := true
    trivy := some { scans := [{ name := name, image := "shop:1" }] } }

/-- There is the job of a scan that the policy had before. -/
def scanned : Cluster := (reconcile .trivy (scanning "web") {}).2

def rescanned : Cluster := (reconcile .trivy (scanning "api") scanned).2

/-- The new job was created, and the old one could not be deleted. -/
def interrupted : Rationed := (Access.rationed.reconcile .trivy (scanning "api") ⟨scanned, 1⟩).2

end Sample

open Sample

theorem replayed_sample :
    interrupted.cluster.jobs.objects.entries.length = 2 ∧
      rescanned.jobs.objects.entries.length = 1 ∧
      ∃ c'', reconcile .trivy (scanning "api") { interrupted.cluster with clock := ⟨60, 0⟩ } =
        (.ok (), c'') ∧ SameArtifacts rescanned c'' := by
  have hreached : scanned.Reached := reached_empty.later ((later_reconcile _ .trivy).state {})
  have hstop : Access.rationed.reconcile .trivy (scanning "api") ⟨scanned, 1⟩ =
      (.error (.transient "write" "interrupted"), interrupted) := rfl
  exact ⟨by decide, by decide, replayed hreached rfl hstop ⟨60, 0⟩⟩

end PolicyOperator.Engine
