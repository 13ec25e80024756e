import PolicyOperator.Proofs.Condition
import PolicyOperator.Proofs.Engine.Settled
import PolicyOperator.Proofs.Lifecycle.Policy

/-!
# Settled policies

A policy is `Settled` when driving it finds nothing to do: its artifacts are settled, its report
stands, and its status is what a sync would write. Driving it syncs it and moves nothing
(`Settled.ends_drive`).

One sync of a valid policy with rules or scans is enough to settle it (`settles_drive`). The status
is the delicate part: the store drops fractions of a second from it, and a sync writes the time of
day into it. But a finding that is on record stays as it was recorded when it is recorded again
(`Condition.Recorded`), at whatever time.
-/

namespace PolicyOperator

namespace PolicyLifecycle

open Cluster Engine

variable {key : Key} {kind : ToolKind} {p p' : Policy} {c c' : Cluster} {pl : Platform}

/-! ## What a sync leaves of the policy -/

theorem step_eq_sync_iff : step p = .sync ↔ p.metadata.isDeleting = false ∧
    finalizer ∈ p.metadata.guards ∧ p.metadata.owners.any (isLink p) = true ∧
    p.spec.enabled = true := by
  rw [step, Observed.step_eq_sync_iff, Lifecycle.guarded_observe_iff]
  simp only [Lifecycle.observe, Lifecycle.policy, linked, ne_eq, Option.some.injEq,
    Bool.not_eq_false]

theorem Revised.alike (h : Revised p p') (hkey : p.key = .ok key) {g : Int}
    (hg : p.metadata.generation = some g) : Alike p p' where
  name := h.name
  ns := h.ns
  uid := h.uid
  spec := h.spec
  generation := (h.generation g hg).trans hg.symm
  displayName := by
    rw [Object.displayName_of_key hkey, Object.displayName_of_key (h.filed hkey)]

theorem Restated.step {status : PolicyStatus} (h : Restated status p p') (hstep : step p = .sync) :
    PolicyLifecycle.step p' = .sync := by
  obtain ⟨hdeleting, hguard, hlink, henabled⟩ := step_eq_sync_iff.1 hstep
  refine step_eq_sync_iff.2 ⟨h.deleting.trans hdeleting, by rwa [h.guards], ?_, by rwa [h.spec]⟩
  have hsame : isLink p' = isLink p := by
    funext owner
    rw [isLink, isLink, h.spec]
  rwa [h.owners, hsame]

/-- The status is what a sync with the report would write, at whatever time. -/
def Stated (p : Policy) (report : String) : Prop :=
  ∀ now, p.status = some (syncedStatus p (some report) now)

/-- The status says that the policy is in sync, in its current generation. -/
def InSync (p : Policy) : Prop :=
  ∃ status generation, p.status = some status ∧ status.phase = some .active ∧
    Condition.isTrue status.conditions Condition.ready = true ∧ status.lastReport.isSome ∧
    p.metadata.generation = some generation ∧ status.observedGeneration = some generation

theorem finding_congr (h : p'.metadata.generation = p.metadata.generation) (healthy : Bool)
    (reason message : String) : finding p' healthy reason message = finding p healthy reason message := by
  simp only [finding, Artifact.generation, h]

theorem Stated.inSync {report : String} (h : Stated p report) {g : Int}
    (hg : p.metadata.generation = some g) : InSync p := by
  have hstatus := h ⟨0, 0⟩
  have hrecorded : Condition.Recorded (finding p true "Synced" "artifacts are in sync")
      (syncedStatus p (some report) ⟨0, 0⟩).conditions := Condition.recorded_record _ _ _
  refine ⟨_, g, hstatus, rfl, hrecorded.isTrue rfl, rfl, hg, ?_⟩
  show some (Artifact.generation p) = some g
  rw [Artifact.generation, hg]
  rfl

/-- A status that a sync wrote is one that it would write again. -/
theorem Restated.stated {report : String} {now : Instant}
    (h : Restated (syncedStatus p (some report) now) p p')
    (hg : p'.metadata.generation = p.metadata.generation) : Stated p' report := by
  intro later
  have hfinding := finding_congr hg true "Synced" "artifacts are in sync"
  have hrecorded : Condition.Recorded (finding p' true "Synced" "artifacts are in sync")
      (syncedStatus p (some report) now).conditions := by
    rw [hfinding]
    exact Condition.recorded_record _ _ _
  have hgeneration : Artifact.generation p' = Artifact.generation p := by
    simp only [Artifact.generation, hg]
  obtain hs | hs := h.status
  · rw [hs]
    simp only [syncedStatus, hs, hgeneration, Option.getD_some]
    congr 2
    exact (hrecorded later).symm
  · rw [hs]
    simp only [syncedStatus, hs, hgeneration, Option.getD_some, PolicyStatus.wholeSeconds]
    congr 2
    exact (hrecorded.wholeSeconds later).symm

/-! ## Reports -/

theorem ends_ensureReport_of_stands {desired : PolicyReport} (h : Stands desired c) :
    Ends (ensureReport desired) c (fun name c' => name = desired.displayName ∧ c' = c)
      fun _ _ => False := by
  obtain ⟨r, hget, hspec⟩ := h
  unfold ensureReport
  rw [ends_bind, ClusterM.ends_get?, hget]
  simp only [hspec, ne_eq, not_true_eq_false, if_false]
  exact ⟨rfl, rfl⟩

/-- Among registered reports a report only fails to be written when writes are made to fail. -/
theorem stands_ensureReport {desired : PolicyReport} {rk : Key} (hrk : desired.key = .ok rk)
    (hc : (c.store .policyReport).All Object.Registered) :
    Ends (ensureReport desired) c (fun name c' => name = desired.displayName ∧ Stands desired c')
      fun _ _ => (c.store .policyReport).failing = true := by
  have hplace : (⟨desired.metadata.nsOrEmpty, desired.displayName⟩ : Key) = rk := by
    rw [Object.nsOrEmpty_of_key hrk, Object.displayName_of_key hrk]
  have stands : ∀ {c' : Cluster} {r : PolicyReport}, Filed rk (some r) c c' →
      r.spec = desired.spec → Stands desired c' := fun hfiled hspec =>
    ⟨_, hplace ▸ hfiled.self, hspec⟩
  unfold ensureReport
  rw [ends_bind, ClusterM.ends_get?, hplace]
  split
  · next hnone =>
    rw [ends_bind, ends_discard]
    refine (ClusterM.ends_create hrk hnone).mono (fun o c' h => ?_) fun _ _ h => h.1
    obtain ⟨⟨v, rfl⟩, hfiled⟩ := h
    exact ⟨rfl, stands hfiled rfl⟩
  · next existing hget =>
    have hregistered := hc rk existing hget
    split
    · rw [ends_bind, ends_discard]
      refine (ClusterM.ends_replace (o := { existing with spec := desired.spec })
        ((Object.key_congr rfl rfl).trans hregistered.filed) hget fun _ h => h).mono
        (fun _ c' h => ?_) fun _ _ h => h.1
      obtain ⟨v, hfiled⟩ := h
      refine ⟨rfl, ?_⟩
      cases hd : existing.metadata.isDeleting with
      | false =>
        rw [Store.remaining_of_staying (by simpa using hd)] at hfiled
        exact stands hfiled rfl
      | true =>
        have hguarded := hregistered.leaving hd
        rw [Store.remaining_of_guarded (by simpa [Metadata.isGuarded] using hguarded)] at hfiled
        exact stands hfiled rfl
    · next hsame => exact ⟨rfl, stands (Filed.rfl hget) (Decidable.not_not.1 hsame)⟩

theorem Stands.of_still {desired : PolicyReport} (h : Stands desired c) (hs : Still c c') :
    Stands desired c' := by
  unfold Stands
  rwa [hs.objects]

/-! ## Settled policies -/

/-- Driving the policy finds nothing to do, and artifacts can be deleted that are being deleted
already. -/
structure Settled (key : Key) (kind : ToolKind) (p : Policy) (c : Cluster) : Prop where
  get? : (c.store .policy).objects.get? key = some p
  filed : p.key = .ok key
  counted : ∃ generation, p.metadata.generation = some generation
  filed_artifacts : (c.store kind.artifact).Filed
  writable : (c.store kind.artifact).failing = false
  step : step p = .sync
  engine : engineFor p = .ok kind
  artifacts : Engine.Settled kind p c
  report : Stands (Artifact.report p kind) c
  status : Stated p (Artifact.report p kind).displayName

theorem Settled.of_still (h : Settled key kind p c) (hs : Still c c') : Settled key kind p c' where
  get? := by rw [hs.objects, h.get?]
  filed := h.filed
  counted := h.counted
  filed_artifacts := by
    unfold Store.Filed Store.All
    rw [hs.objects]
    exact h.filed_artifacts
  writable := by rw [hs.failing, h.writable]
  step := h.step
  engine := h.engine
  artifacts := h.artifacts.of_objects (hs.objects _)
  report := h.report.of_still hs
  status := h.status

theorem drive_of_sync (hstep : PolicyLifecycle.step p = .sync) :
    Lifecycle.policy.drive p = (do return .synced (← sync p)) := by
  unfold Lifecycle.drive
  rw [show (Lifecycle.policy.observe p).step = .sync from hstep]
  rfl

/-- Driving a settled policy moves nothing. -/
theorem Settled.ends_drive (h : Settled key kind p pl.cluster) :
    Ends (Lifecycle.policy.drive p) pl
      (fun t pl' => t = .synced none ∧ Still pl.cluster pl'.cluster) fun _ _ => False := by
  rw [drive_of_sync h.step]
  unfold sync
  simp only [h.engine, ends_bind, ends_pure, PlatformM.ends_attempt, PlatformM.ends_onCluster]
  refine (h.artifacts.still_reconcile h.filed h.filed_artifacts).mono (fun _ c₁ hstill => ?_)
    fun _ c₁ h' => absurd h'.1 (by simp [h.writable])
  simp only [ends_get]
  refine (ends_ensureReport_of_stands (h.report.of_still hstill)).mono (fun name c₂ hname => ?_)
    fun _ _ h' => h'.elim
  obtain ⟨rfl, rfl⟩ := hname
  have hstatus := h.status c₂.clock
  simp only [publish, Except.toOption, ← hstatus, if_true, ends_pure]
  exact ⟨trivial, hstill⟩

/-- Driving a valid policy that is up for a sync settles it. -/
theorem settles_drive (hget : (pl.cluster.store .policy).objects.get? key = some p)
    (hc : pl.cluster.Reached) (hwritable : ∀ k, (pl.cluster.store k).failing = false)
    (hstep : step p = .sync) (hengine : engineFor p = .ok kind) (hkind : kind ≠ .litmus) :
    Ends (Lifecycle.policy.drive p) pl
      (fun t pl' => t = .synced none ∧ ∃ p', Settled key kind p' pl'.cluster)
      fun _ _ => False := by
  have hregistered := hc.registered .policy key p hget
  have hkey := hregistered.filed
  obtain ⟨g, hg⟩ := hregistered.counted
  obtain ⟨-, hvalid⟩ := kind_of_engineFor hengine
  rw [drive_of_sync hstep]
  unfold sync
  simp only [hengine, ends_bind, ends_pure, PlatformM.ends_attempt, PlatformM.ends_onCluster]
  refine ((keeps_reworked_reconcile kind hkey).ends
    ((later_reconcile p kind).ends (settled_reconcile hkey hvalid hkind (hc.registered _)))).mono
    (fun _ c₁ h₁ => ?_) fun _ c₁ h₁ => absurd h₁.1.1 (by simp [hwritable])
  obtain ⟨⟨hsettled, hlater⟩, hreworked⟩ := h₁
  have hc₁ : c₁.Reached := hc.later hlater
  simp only [ends_get]
  refine ((confined_ensureReport _).ends (stands_ensureReport (key_report kind hkey)
    (hc₁.registered .policyReport))).mono (fun name c₂ h₂ => ?_)
    fun _ _ h₂ => absurd h₂.1 (by simp [hreworked.confined.failing, hwritable])
  obtain ⟨⟨rfl, hstands⟩, hconfined⟩ := h₂
  have hget₂ : (c₂.store .policy).objects.get? key = some p := by
    rw [hconfined.store _ (by simp),
      hreworked.confined.store _ (by simpa using artifact_ne_policy.symm), hget]
  have hfailing₂ : ∀ k, (c₂.store k).failing = false := fun k => by
    rw [hconfined.failing, hreworked.confined.failing, hwritable]
  refine (ends_publish hget₂ hkey).mono (fun _ c' h => ?_)
    fun _ _ h => absurd h.1 (by simp [hfailing₂])
  obtain ⟨p', hfiled, hrestated⟩ := h
  have halike := hrestated.toRevised.alike hkey hg
  have hreport := report_congr hrestated.toRevised hkey hg kind
  have hartifacts : c'.store kind.artifact = c₁.store kind.artifact := by
    rw [hfiled.store artifact_ne_policy,
      hconfined.store _ (by simpa using artifact_ne_policyReport)]
  refine ⟨trivial, p', ?_⟩
  constructor
  case get? => exact hfiled.self
  case filed => exact hrestated.filed hkey
  case counted => exact ⟨g, hrestated.generation g hg⟩
  case filed_artifacts =>
    rw [hartifacts]
    exact hc₁.filed _
  case writable => rw [hfiled.confined.failing, hfailing₂]
  case step => exact hrestated.step hstep
  case engine => exact (engineFor_congr hrestated.spec).trans hengine
  case artifacts => exact (hsettled.congr halike).of_objects (by rw [hartifacts])
  case report =>
    rw [hreport]
    unfold Stands
    rwa [hfiled.store (by decide)]
  case status =>
    rw [hreport]
    exact hrestated.stated halike.generation

end PolicyLifecycle

end PolicyOperator
