import PolicyOperator.Proofs.Lifecycle.Settled
import PolicyOperator.Proofs.Policies.Runs

/-!
# Convergence and rest

A policy that is read and driven again and again, while nobody else writes, comes to rest.
`visits key times` reads and drives it once at each of the given times of day. The policy may start
with any finalizers, owners, status, report and artifacts; it has to be `Fit`: enabled, valid, not
being deleted, with its tool beside it, in a cluster that operations led to and whose writes succeed.

The theorem (`converges`): all visits succeed, with at most one `FinalizerAdded`, then at most one
`OwnerLinked`, then `Synced` only. After the first `Synced` the status says so (`InSync`), and no
later visit moves anything that is stored.

A fit policy stays fit until it is synced (`Fit.guard`, `Fit.link`), a sync settles it
(`settles_drive`), and a settled policy is at rest (`Settled.visits`).
-/

namespace PolicyOperator.PolicyLifecycle

open Cluster Engine

variable {key : Key} {kind : ToolKind} {p p' : Policy} {c c' : Cluster} {pl : Platform}

/-! ## Visits -/

/-- The platform at a time of day. -/
def atTime (now : Instant) (pl : Platform) : Platform :=
  { pl with cluster := { pl.cluster with clock := now } }

/-- At a time of day, reads the policy and drives it. -/
def visit (key : Key) (now : Instant) : PlatformM Transition := do
  modify (atTime now)
  match ← PlatformM.onCluster (ClusterM.get? .policy key.ns key.name) with
  | some p => Lifecycle.policy.drive p
  | none => throw (.notFound "Policy" key.name)

/-- Visits the policy at one time after the other. -/
def visits (key : Key) : List Instant → PlatformM (List Transition)
  | [] => return []
  | now :: later => do
    let t ← visit key now
    return t :: (← visits key later)

@[simp] theorem store_atTime (now : Instant) (pl : Platform) (k : ResourceKind) :
    (atTime now pl).cluster.store k = pl.cluster.store k := by
  cases k <;> rfl

theorem still_atTime (now : Instant) (pl : Platform) : Still pl.cluster (atTime now pl).cluster :=
  ⟨fun k => by rw [store_atTime], fun k => by rw [store_atTime]⟩

theorem visit_eq_drive {now : Instant} (hget : (pl.cluster.store .policy).objects.get? key = some p) :
    visit key now pl = Lifecycle.policy.drive p (atTime now pl) := by
  have hread : PlatformM.onCluster (ClusterM.get? .policy key.ns key.name) (atTime now pl) =
      (.ok (some p), atTime now pl) := by
    rw [← store_atTime now pl .policy] at hget
    exact PlatformM.run_onCluster (r := .ok (some p)) (c := (atTime now pl).cluster)
      (by rw [← hget]; rfl)
  have hset : (modify (atTime now) : PlatformM PUnit) pl = (.ok ⟨⟩, atTime now pl) := rfl
  exact (run_bind_of_ok hset _).trans (run_bind_of_ok hread _)

theorem visits_cons {now : Instant} {later : List Instant} {t : Transition} {l : List Transition}
    {pl₁ pl₂ : Platform} (h : visit key now pl = (.ok t, pl₁))
    (h' : visits key later pl₁ = (.ok l, pl₂)) :
    visits key (now :: later) pl = (.ok (t :: l), pl₂) := by
  rw [visits, run_bind_of_ok h, run_bind_of_ok h']
  rfl

/-! ## Rest -/

/-- A settled policy is at rest: it is synced by each visit, and nothing moves. -/
theorem Settled.visits (h : Settled key kind p pl.cluster) (times : List Instant) :
    ∃ pl', visits key times pl = (.ok (.replicate times.length (.synced none)), pl') ∧
      Still pl.cluster pl'.cluster := by
  induction times generalizing pl with
  | nil => exact ⟨pl, rfl, .rfl⟩
  | cons now later ih =>
    have hset := still_atTime now pl
    obtain ⟨t, pl₁, hvisit, rfl, hstill⟩ := (h.of_still hset).ends_drive.exists_ok
    rw [← visit_eq_drive h.get?] at hvisit
    have hstill := hset.trans hstill
    obtain ⟨pl', hvisits, hstill'⟩ := ih (h.of_still hstill)
    exact ⟨pl', visits_cons hvisit hvisits, hstill.trans hstill'⟩

/-! ## Fit policies -/

/-- An enabled, valid policy that is not being deleted, with its tool beside it, in a cluster that
operations led to and whose writes succeed. -/
structure Fit (key : Key) (kind : ToolKind) (p : Policy) (c : Cluster) : Prop where
  reached : c.Reached
  writable : ∀ k, (c.store k).failing = false
  get? : (c.store .policy).objects.get? key = some p
  staying : p.metadata.isDeleting = false
  enabled : p.spec.enabled = true
  engine : engineFor p = .ok kind
  tool : ∃ tool, (c.store .tool).objects.get? ⟨key.ns, p.spec.type⟩ = some tool

namespace Fit

theorem filed (h : Fit key kind p c) : p.key = .ok key := (h.reached.filed .policy) key p h.get?

theorem atTime (h : Fit key kind p pl.cluster) (now : Instant) :
    Fit key kind p (atTime now pl).cluster where
  reached k := by rw [store_atTime]; exact h.reached k
  writable k := by rw [store_atTime]; exact h.writable k
  get? := by rw [store_atTime]; exact h.get?
  staying := h.staying
  enabled := h.enabled
  engine := h.engine
  tool := by rw [store_atTime]; exact h.tool

/-- A rewrite of the policy's finalizers and owners leaves it fit. -/
theorem rewritten (h : Fit key kind p c) (hfiled : Cluster.Filed key (some p') c c')
    (hlater : Cluster.Later c c') (hr : Rewritten p p') : Fit key kind p' c' where
  reached := h.reached.later hlater
  writable k := by rw [hfiled.confined.failing]; exact h.writable k
  get? := hfiled.self
  staying := by rw [hr.deleting]; exact h.staying
  enabled := by rw [hr.spec]; exact h.enabled
  engine := (engineFor_congr hr.spec).trans h.engine
  tool := by rw [hr.spec, hfiled.store (by decide)]; exact h.tool

/-- The tool can be referred to, by a reference that is the owner link. -/
theorem linkable (h : Fit key kind p c) : ∃ owner, Linkable p c owner := by
  obtain ⟨tool, htool⟩ := h.tool
  obtain ⟨hkind, -⟩ := kind_of_engineFor h.engine
  have hregistered := h.reached.registered .tool _ tool htool
  obtain ⟨uid, huid⟩ := hregistered.identified
  have hname := (Object.key_eq_ok_iff.1 hregistered.filed).1
  refine ⟨_, kind, tool, hkind, ?_, Object.ownerReference?_eq_some_iff.2 ⟨_, uid, hname, huid, rfl⟩⟩
  rw [Object.nsOrEmpty_of_key h.filed, ToolKind.name_of_ofName hkind]
  exact htool

theorem isLink (h : Fit key kind p c) {owner : OwnerReference} (hlink : Linkable p c owner) :
    isLink p owner = true := by
  obtain ⟨kind', tool, hkind, htool, howner⟩ := hlink
  have hname := (Object.key_eq_ok_iff.1 (h.reached.filed .tool _ tool htool)).1
  obtain ⟨name, uid, hname', -, rfl⟩ := Object.ownerReference?_eq_some_iff.1 howner
  obtain rfl : kind'.name = name := by simpa [hname] using hname'
  simp [PolicyLifecycle.isLink, ToolKind.name_of_ofName hkind]

/-- The first step of a fit policy: to the finalizer, to the owner link, or to a sync. -/
theorem step_cases (h : Fit key kind p c) :
    step p = .guard ∨ step p = .link ∨ step p = .sync := by
  by_cases hguard : finalizer ∈ p.metadata.guards
  · by_cases hlink : p.metadata.owners.any (PolicyLifecycle.isLink p) = true
    · exact .inr (.inr (step_eq_sync_iff.2 ⟨h.staying, hguard, hlink, h.enabled⟩))
    · refine .inr (.inl (Observed.step_eq_link_iff.2 ⟨h.staying, ?_, ?_⟩))
      · exact (Lifecycle.guarded_observe_iff ..).2 hguard
      · simpa [Lifecycle.observe, Lifecycle.policy, linked] using hlink
  · refine .inl (Observed.step_eq_guard_iff.2 ⟨h.staying, ?_⟩)
    have hnot := mt (Lifecycle.guarded_observe_iff Lifecycle.policy p).1 hguard
    simpa using hnot

end Fit

/-! ## The steps of a fit policy -/

theorem Driven.of_guard {r : Except Error Transition} (hd : Driven key p c r c')
    (hstep : step p = .guard) (hwritable : (c.store .policy).failing = false) :
    r = .ok .finalizerAdded ∧ ∃ p', Filed key (some p') c c' ∧ Rewritten p p' ∧
      finalizer ∈ p'.metadata.guards := by
  cases hd with
  | guarded _ hfiled hr hguards _ =>
    exact ⟨rfl, _, hfiled, hr, by rw [hguards]; exact List.mem_append_right _ (by simp)⟩
  | refused _ _ hwhy => simp [hstep, hwritable] at hwhy
  | cleanupStopped _ hs | unwritten _ hs => simp [hstep] at hs
  | released hs | linked hs | finalized hs | disabled hs => simp [hstep] at hs
  | invalid _ hs | reconcileStopped _ hs | unpublished _ hs | synced hs => simp [hstep] at hs

theorem Driven.of_link {r : Except Error Transition} (hd : Driven key p c r c')
    (hstep : step p = .link) (hwritable : (c.store .policy).failing = false)
    (hlinkable : ∃ owner, Linkable p c owner) :
    r = .ok .ownerLinked ∧ ∃ p' owner, Filed key (some p') c c' ∧ Rewritten p p' ∧
      p'.metadata.guards = p.metadata.guards ∧ Linkable p c owner ∧
      p'.metadata.owners = p.metadata.owners ++ [owner] := by
  cases hd with
  | linked _ hfiled hr hguards howner howners =>
    exact ⟨rfl, _, _, hfiled, hr, hguards, howner, howners⟩
  | refused _ _ hwhy =>
    obtain hfailing | ⟨-, hnone⟩ := hwhy
    · simp [hwritable] at hfailing
    · exact (hlinkable.elim hnone).elim
  | cleanupStopped _ hs | unwritten _ hs => simp [hstep] at hs
  | released hs | guarded hs | finalized hs | disabled hs => simp [hstep] at hs
  | invalid _ hs | reconcileStopped _ hs | unpublished _ hs | synced hs => simp [hstep] at hs

namespace Fit

/-- What a drive of a fit policy does, and that it goes through the stores. -/
theorem drive (h : Fit key kind p pl.cluster) : ∃ r pl', Lifecycle.policy.drive p pl = (r, pl') ∧
    Driven key p pl.cluster r pl'.cluster ∧ Cluster.Later pl.cluster pl'.cluster := by
  have hends := (later_drive p).ends (ends_drive h.get? h.filed)
  rcases hd : Lifecycle.policy.drive p pl with ⟨e | t, pl'⟩
  · exact ⟨_, _, rfl, hends.error hd⟩
  · exact ⟨_, _, rfl, hends.ok hd⟩

theorem guard (h : Fit key kind p pl.cluster) (hstep : step p = .guard) :
    ∃ pl' p', Lifecycle.policy.drive p pl = (.ok .finalizerAdded, pl') ∧
      Fit key kind p' pl'.cluster ∧ finalizer ∈ p'.metadata.guards := by
  obtain ⟨r, pl', hrun, hdriven, hlater⟩ := h.drive
  obtain ⟨rfl, p', hfiled, hr, hguard⟩ := hdriven.of_guard hstep (h.writable _)
  exact ⟨pl', p', hrun, h.rewritten hfiled hlater hr, hguard⟩

theorem link (h : Fit key kind p pl.cluster) (hstep : step p = .link) :
    ∃ pl' p', Lifecycle.policy.drive p pl = (.ok .ownerLinked, pl') ∧
      Fit key kind p' pl'.cluster ∧ step p' = .sync := by
  obtain ⟨r, pl', hrun, hdriven, hlater⟩ := h.drive
  obtain ⟨rfl, p', owner, hfiled, hr, hguards, howner, howners⟩ :=
    hdriven.of_link hstep (h.writable _) h.linkable
  have hfit := h.rewritten hfiled hlater hr
  have hguarded := (Lifecycle.guarded_observe_iff ..).1 (Observed.step_of_link hstep).2
  have hlink : PolicyLifecycle.isLink p' owner = true := by
    rw [PolicyLifecycle.isLink, hr.spec]
    exact h.isLink howner
  refine ⟨pl', p', hrun, hfit, step_eq_sync_iff.2 ⟨hfit.staying, ?_, ?_, hfit.enabled⟩⟩
  · rw [hguards]
    exact hguarded
  · rw [howners, List.any_append, List.any_cons, hlink]
    simp

end Fit

/-! ## The theorem -/

/-- The policy is in sync, and no visit moves anything. -/
def AtRest (key : Key) (pl : Platform) : Prop :=
  (∃ p, (pl.cluster.store .policy).objects.get? key = some p ∧ InSync p) ∧
    ∀ times, ∃ pl', visits key times pl = (.ok (.replicate times.length (.synced none)), pl') ∧
      ∀ k, (pl'.cluster.store k).objects = (pl.cluster.store k).objects

theorem Settled.atRest (h : Settled key kind p pl.cluster) : AtRest key pl := by
  obtain ⟨g, hg⟩ := h.counted
  refine ⟨⟨p, h.get?, h.status.inSync hg⟩, fun times => ?_⟩
  obtain ⟨pl', hvisits, hstill⟩ := h.visits times
  exact ⟨pl', hvisits, hstill.objects⟩

namespace Fit

/-- A policy that is up for a sync is synced by every visit, and at rest after the first. -/
theorem visits_of_sync (h : Fit key kind p pl.cluster) (hkind : kind ≠ .litmus)
    (hstep : step p = .sync) (times : List Instant) :
    ∃ pl', visits key times pl = (.ok (.replicate times.length (.synced none)), pl') ∧
      (0 < times.length → AtRest key pl') := by
  cases times with
  | nil => exact ⟨pl, rfl, nofun⟩
  | cons now later =>
    have hfit := h.atTime now
    obtain ⟨t, pl₁, hvisit, rfl, p', hsettled⟩ := (settles_drive hfit.get? hfit.reached
      hfit.writable hstep hfit.engine hkind).exists_ok
    rw [← visit_eq_drive h.get?] at hvisit
    obtain ⟨pl', hvisits, hstill⟩ := hsettled.visits later
    exact ⟨pl', visits_cons hvisit hvisits, fun _ => (hsettled.of_still hstill).atRest⟩

/-- A policy with the finalizer is linked by one visit at most, and then synced. -/
theorem visits_of_guarded (h : Fit key kind p pl.cluster) (hkind : kind ≠ .litmus)
    (hguard : step p ≠ .guard) (times : List Instant) :
    ∃ links syncs pl', links ≤ 1 ∧ links + syncs = times.length ∧
      visits key times pl =
        (.ok (.replicate links .ownerLinked ++ .replicate syncs (.synced none)), pl') ∧
      (0 < syncs → AtRest key pl') := by
  obtain hstep | hstep | hstep := h.step_cases
  · exact absurd hstep hguard
  · cases times with
    | nil => exact ⟨0, 0, pl, by omega, rfl, rfl, nofun⟩
    | cons now later =>
      obtain ⟨pl₁, p', hvisit, hfit, hstep'⟩ := (h.atTime now).link hstep
      rw [← visit_eq_drive h.get?] at hvisit
      obtain ⟨pl', hvisits, hrest⟩ := hfit.visits_of_sync hkind hstep' later
      exact ⟨1, later.length, pl', by omega, Nat.add_comm .., visits_cons hvisit hvisits, hrest⟩
  · obtain ⟨pl', hvisits, hrest⟩ := h.visits_of_sync hkind hstep times
    exact ⟨0, times.length, pl', by omega, Nat.zero_add _, hvisits, hrest⟩

end Fit

/-- Visits of a fit policy with rules or scans all succeed. They add the finalizer at most once,
then link the owner at most once, and sync the policy ever after. With the first sync it is at
rest. -/
theorem converges (h : Fit key kind p pl.cluster) (hkind : kind ≠ .litmus) (times : List Instant) :
    ∃ guards links syncs pl', guards ≤ 1 ∧ links ≤ 1 ∧ guards + links + syncs = times.length ∧
      visits key times pl = (.ok (.replicate guards .finalizerAdded ++
        (.replicate links .ownerLinked ++ .replicate syncs (.synced none))), pl') ∧
      (0 < syncs → AtRest key pl') := by
  by_cases hstep : step p = .guard
  · cases times with
    | nil => exact ⟨0, 0, 0, pl, by omega, by omega, rfl, rfl, nofun⟩
    | cons now later =>
      obtain ⟨pl₁, p', hvisit, hfit, hguard⟩ := (h.atTime now).guard hstep
      rw [← visit_eq_drive h.get?] at hvisit
      have hguarded : step p' ≠ .guard := fun hstep' => by
        have hnot := (Observed.step_eq_guard_iff.1 hstep').2
        rw [(Lifecycle.guarded_observe_iff ..).2 hguard] at hnot
        cases hnot
      obtain ⟨links, syncs, pl', hlinks, hlength, hvisits, hrest⟩ :=
        hfit.visits_of_guarded hkind hguarded later
      refine ⟨1, links, syncs, pl', by omega, hlinks, ?_, visits_cons hvisit hvisits, hrest⟩
      rw [List.length_cons]
      omega
  · obtain ⟨links, syncs, pl', hlinks, hlength, hvisits, hrest⟩ :=
      h.visits_of_guarded hkind hstep times
    exact ⟨0, links, syncs, pl', by omega, hlinks, by omega, hvisits, hrest⟩

/-- A policy as its user created it comes to rest within four visits. -/
theorem converges_sample : ∃ answers pl',
    visits Sample.key (.replicate 4 ⟨0, 0⟩) { cluster := Sample.created } = (.ok answers, pl') ∧
      AtRest Sample.key pl' := by
  have hstart : Sample.start.Reached :=
    Cluster.reached_empty.later ((ClusterM.later_create Sample.tool).state {})
  have hfit : Fit Sample.key .falco (Sample.stored Sample.created)
      ({ cluster := Sample.created } : Platform).cluster := {
    reached := hstart.later ((ClusterM.later_create Sample.policy).state Sample.start)
    writable := fun k => by cases k <;> rfl
    get? := rfl
    staying := rfl
    enabled := rfl
    engine := rfl
    tool := ⟨_, rfl⟩ }
  obtain ⟨guards, links, syncs, pl', hguards, hlinks, hlength, hvisits, hrest⟩ :=
    converges hfit (by decide) (.replicate 4 ⟨0, 0⟩)
  rw [List.length_replicate] at hlength
  exact ⟨_, pl', hvisits, hrest (by omega)⟩

end PolicyOperator.PolicyLifecycle
