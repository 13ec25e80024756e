import PolicyOperator.Proofs.Engine.Settled
import PolicyOperator.Proofs.Lifecycle.Policy

/-!
# What driving a policy does about artifacts

`PolicyLifecycle.work p` is the part of a drive that writes artifacts: the cleanup of a policy that is
deleted or disabled, or the reconciliation of a valid one that is up for a sync. Everything else a
drive writes are policies and reports, so its artifacts are those that the work leaves, whatever the
drive returns (`sameStored_drive`). This holds of every policy object, also of one that is not stored
any more.

`Idle p c` says that the work has nothing to do in `c`. It is what makes it leave all artifacts as
they are (`Idle.sameStored_work`), and nothing else does as long as writes succeed (`idle_of_work`).
-/

namespace PolicyOperator

open Cluster

/-! ## Artifacts that stay -/

/-- The artifacts are stored as they were, versions included. -/
def Cluster.SameStored (c c' : Cluster) : Prop :=
  ∀ kind : ToolKind, (c'.store kind.artifact).objects = (c.store kind.artifact).objects

instance : IsPreorder Cluster SameStored where
  refl _ _ := rfl
  trans _ _ _ h h' kind := (h' kind).trans (h kind)

def Platform.SameStored (pl pl' : Platform) : Prop := Cluster.SameStored pl.cluster pl'.cluster

instance : IsPreorder Platform Platform.SameStored where
  refl _ _ := rfl
  trans _ _ _ h h' kind := (h' kind).trans (h kind)

variable {c c' : Cluster}

/-- Writing policies and reports leaves the artifacts. -/
theorem Cluster.Confined.sameStored (h : Confined [.policy, .policyReport] c c') :
    SameStored c c' := by
  intro kind
  rw [h.store _ (by cases kind <;> decide)]

theorem PlatformM.sameStored_onCluster {x : ClusterM α} (hx : Keeps SameStored x) :
    Keeps Platform.SameStored (onCluster x) :=
  keeps_onCluster hx fun _ _ h => h

namespace PolicyLifecycle

open Engine PlatformM

variable {p : Policy} {key : Key} {kind : ToolKind} {pl : Platform}

/-! ## The work -/

/-- What driving a policy does about its artifacts. -/
def work (p : Policy) : ClusterM Unit :=
  match step p with
  | .finalize | .disable => cleanup p
  | .sync =>
    match engineFor p with
    | .ok kind => reconcile kind p
    | .error _ => pure ()
  | .release | .guard | .link => pure ()

theorem sameStored_replace (q : Policy) : Keeps SameStored (ClusterM.replace q) :=
  (ClusterM.confined_replace (by simp) q).mono fun _ _ => Confined.sameStored

theorem sameStored_publish (status : PolicyStatus) : Keeps SameStored (publish p status) :=
  keeps_publish ((ClusterM.confined_replaceStatus (by simp) _).mono fun _ _ =>
    Confined.sameStored)

theorem sameStored_ensureReport (desired : PolicyReport) :
    Keeps SameStored (ensureReport desired) :=
  (confined_ensureReport desired).mono fun _ _ h => (h.mono (by simp)).sameStored

theorem sameStored_recordFailure (phase : Option PolicyPhase) (reason : String) (e : Error) :
    Keeps Platform.SameStored (recordFailure p phase reason e) :=
  keeps_recordFailure fun status => sameStored_onCluster (sameStored_publish status)

theorem sameStored_disable (c : Cluster) : SameStored (cleanup p c).2 (disable p c).2 :=
  (Keeps.after (fun _ => ClusterM.keeps_now.bind fun _ => sameStored_publish _) c).state

theorem sameStored_sync_of_error {e : Error} (hengine : engineFor p = .error e) (pl : Platform) :
    Platform.SameStored pl (sync p pl).2 := by
  unfold sync
  rw [hengine]
  exact ((sameStored_recordFailure _ _ e).bind fun _ => .throw _).state pl

theorem sameStored_sync_of_ok (hengine : engineFor p = .ok kind) (pl : Platform) :
    Platform.SameStored (onCluster (reconcile kind p) pl).2 (sync p pl).2 := by
  unfold sync
  rw [hengine]
  refine (Keeps.after (x := attempt (onCluster (reconcile kind p))) (fun r => ?_) pl).state
  cases r with
  | error e => exact (sameStored_recordFailure _ _ e).bind fun _ => .throw _
  | ok _ =>
    refine (keeps_attempt (sameStored_onCluster (sameStored_ensureReport _))).bind fun report =>
      Keeps.get.bind fun _ => ?_
    exact (sameStored_onCluster (sameStored_publish _)).bind fun _ => .pure _

/-- The artifacts after a drive are those that its work leaves. -/
theorem sameStored_drive (p : Policy) (pl : Platform) :
    SameStored (work p pl.cluster).2 (Lifecycle.policy.drive p pl).2.cluster := by
  have hreplace : ∀ q, Keeps Platform.SameStored (discard (onCluster (ClusterM.replace q))) :=
    fun q => (sameStored_onCluster (sameStored_replace q)).discard
  show Platform.SameStored (onCluster (work p) pl).2 (Lifecycle.policy.drive p pl).2
  unfold Lifecycle.drive work step
  cases hstep : (Lifecycle.policy.observe p).step with
  | finalize => exact (Keeps.after (fun _ => (hreplace _).bind fun _ => .pure _) pl).state
  | release => exact fun _ => rfl
  | guard => exact ((hreplace _).bind fun _ => .pure _).state pl
  | link =>
    refine ((sameStored_onCluster keeps_link).bind fun linked => ?_).state pl
    exact (hreplace linked).bind fun _ => .pure _
  | disable =>
    dsimp only
    rw [state_bind_pure]
    exact sameStored_disable pl.cluster
  | sync =>
    dsimp only
    rw [state_bind_pure, sync_policy]
    cases hengine : engineFor p with
    | error e => exact sameStored_sync_of_error hengine pl
    | ok kind => exact sameStored_sync_of_ok hengine pl

/-! ## Nothing to do -/

/-- Whatever a cleanup deletes is gone, or waits for a finalizer. -/
def CleanedUp (kind : ToolKind) (p : Policy) (c : Cluster) : Prop :=
  ∀ key o, swept kind p c key → (c.store kind.artifact).objects.get? key = some o →
    o.metadata.isGuarded = true ∧ o.metadata.isDeleting = true

/-- The work has nothing to do. -/
def Idle (p : Policy) (c : Cluster) : Prop :=
  match step p with
  | .finalize | .disable => ∀ kind, p.spec.kind = .ok kind → CleanedUp kind p c
  | .sync => ∀ kind, engineFor p = .ok kind → Engine.Settled kind p c
  | .release | .guard | .link => True

theorem cleanedUp_iff (h : Cleaned kind (swept kind p c) c c') :
    SameStored c c' ↔ CleanedUp kind p c := by
  refine Iff.trans ⟨fun hsame => hsame kind, fun hsame kind' => ?_⟩ h.artifacts.objects_eq_iff
  by_cases he : kind' = kind
  · exact he ▸ hsame
  · rw [h.store he]

theorem sameStored_cleanup (h : ∀ kind, p.spec.kind = .ok kind → CleanedUp kind p c) :
    SameStored c (cleanup p c).2 := by
  refine ((ends_cleanup p c).mono (fun _ c' hswept => ?_) fun _ c' hstopped => ?_).state
  · obtain ⟨kind, hkind, hcleaned⟩ | ⟨-, rfl⟩ := hswept
    · exact (cleanedUp_iff hcleaned).2 (h kind hkind)
    · exact fun _ => rfl
  · obtain ⟨kind, hkind, -, rfl | hcleaned⟩ := hstopped
    · exact fun _ => rfl
    · exact (cleanedUp_iff hcleaned).2 (h kind hkind)

theorem cleanedUp_of_cleanup (hwritable : ∀ k, (c.store k).failing = false)
    (hkind : p.spec.kind = .ok kind) (h : SameStored c (cleanup p c).2) : CleanedUp kind p c := by
  have hcleanup : Ends (cleanup p) c (fun _ c' => SameStored c c' → CleanedUp kind p c)
      fun _ c' => SameStored c c' → CleanedUp kind p c := by
    refine (ends_cleanup p c).mono (fun _ c' hswept => ?_) fun _ c' hstopped => ?_
    · obtain ⟨kind', hkind', hcleaned⟩ | ⟨⟨e, hnone⟩, -⟩ := hswept
      · obtain rfl : kind = kind' := by simpa [hkind] using hkind'
        exact (cleanedUp_iff hcleaned).1
      · simp [hkind] at hnone
    · obtain ⟨kind', -, hfailing, -⟩ := hstopped
      simp [hwritable] at hfailing
  exact hcleanup.state h

/-- Work that has nothing to do leaves the artifacts as they are, also when writes are made to
fail. -/
theorem Idle.sameStored_work (h : Idle p c) (hkey : p.key = .ok key) (hc : c.Reached) :
    SameStored c (work p c).2 := by
  unfold Idle at h
  unfold work
  cases hstep : step p with
  | finalize | disable =>
    rw [hstep] at h
    exact sameStored_cleanup h
  | release | guard | link => exact fun _ => rfl
  | sync =>
    rw [hstep] at h
    cases hengine : engineFor p with
    | error e => exact fun _ => rfl
    | ok kind =>
      have hstill := (h kind hengine).still_reconcile hkey (hc.filed kind.artifact)
      have hstate := (hstill.mono (fun _ _ h => h) fun _ _ h => h.2).state
      exact fun kind' => hstate.objects kind'.artifact

/-- Work that leaves the artifacts as they are has nothing to do, unless writes are made to fail. -/
theorem idle_of_work (h : SameStored c (work p c).2) (hkey : p.key = .ok key) (hc : c.Reached)
    (hwritable : ∀ k, (c.store k).failing = false) : Idle p c := by
  unfold work at h
  unfold Idle
  cases hstep : step p with
  | finalize | disable =>
    rw [hstep] at h
    exact fun kind hkind => cleanedUp_of_cleanup hwritable hkind h
  | release | guard | link => trivial
  | sync =>
    rw [hstep] at h
    intro kind hengine
    rw [hengine] at h
    have hsettled : Ends (reconcile kind p) c (fun _ c' => SameStored c c' → Engine.Settled kind p c)
        fun _ c' => SameStored c c' → Engine.Settled kind p c := by
      refine (settled_of_unmoved hkey (kind_of_engineFor hengine).2 (hc kind.artifact)).mono
        (fun _ _ hsettled hsame => hsettled (hsame kind)) fun _ _ hfailing => ?_
      simp [hwritable] at hfailing
    exact hsettled.state h

end PolicyLifecycle

end PolicyOperator
