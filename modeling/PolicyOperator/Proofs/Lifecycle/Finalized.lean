import PolicyOperator.Proofs.Lifecycle.Hooks
import PolicyOperator.Proofs.Lifecycle.Tool

/-!
# Deletion does not get stuck

A managed object that is being deleted and carries its finalizer loses it in one drive
(`finalized_of_deleting`), whatever else the object says: its type may be unknown, its spec may be
rejected, it may be disabled or never have been linked. All that the drive needs is `Unhindered`:
that stores take writes and, for a tool, that charts can be asked to remove a release.

A cleanup takes away what it finds and does not insist on finding anything
(`Unhindered.ends_cleanup`). It leaves managed objects alone, so the write that follows meets the
version that was driven.
-/

namespace PolicyOperator

open Cluster Platform

/-- Stores take writes, and charts take removals if they are needed. -/
structure Unhindered (m : Managed) (pl : Platform) : Prop where
  writable : ∀ k, (pl.cluster.store k).failing = false
  removable : m = .tool → ¬ pl.Blocks .uninstall

/-- What is left of an object that gives up a finalizer when it is being deleted: nothing, or the
object with its other finalizers in their order. -/
inductive LetGo {k : ResourceKind} (finalizer : String) (o : Object k) : Option (Object k) → Prop
  | gone : o.metadata.guards.filter (· ≠ finalizer) = [] → LetGo finalizer o none
  | kept {o' : Object k} : o.metadata.guards.filter (· ≠ finalizer) ≠ [] →
      o'.metadata.guards = o.metadata.guards.filter (· ≠ finalizer) →
      o'.metadata.uid = o.metadata.uid → o'.spec = o.spec → LetGo finalizer o (some o')

section
variable {m : Managed} {o : Object m.kind} {key : Key} {pl : Platform}

/-- A cleanup that nothing hinders succeeds and leaves managed objects of its kind alone. -/
theorem Unhindered.ends_cleanup (settings : ToolSettings) (h : Unhindered m pl)
    (o : Object m.kind) :
    Ends ((m.lifecycle settings).cleanup o) pl
      (fun _ pl' => pl'.cluster.store m.kind = pl.cluster.store m.kind) fun _ _ => False := by
  cases m with
  | tool =>
    refine (ToolLifecycle.ends_cleanup_call o pl).mono (fun _ pl' hgone => ?_)
      fun _ _ ⟨_, _, hbarred⟩ => h.removable rfl hbarred.cause
    obtain ⟨place, -, -, rfl⟩ | ⟨-, rfl⟩ := hgone <;> rfl
  | policy =>
    refine PlatformM.ends_onCluster.2 ((PolicyLifecycle.ends_cleanup o pl.cluster).mono
      (fun _ _ hswept => hswept.policies) fun _ _ ⟨kind, _, hstopped⟩ => ?_)
    exact (hstopped.failing.elim (by simp [h.writable]) (by simp [h.writable]) : False)

/-- What a replacement without the finalizer leaves of an object that is being deleted. -/
theorem letGo_remaining {l : Lifecycle m.kind} (hl : l.finalizer = m.finalizer)
    (hdeleting : o.metadata.isDeleting = true) (version : Nat) :
    LetGo m.finalizer o (Store.remaining (Store.replacement o (l.unguarded o) version)) := by
  have hguards : (Store.replacement o (l.unguarded o) version).metadata.guards =
      o.metadata.guards.filter (· ≠ m.finalizer) := by simp [hl]
  unfold Store.remaining
  simp only [Store.isDeleting_replacement, hdeleting, Bool.true_and, Metadata.isGuarded, hguards,
    Bool.not_not]
  split
  · next hnone => exact .gone (by simpa using hnone)
  · next hothers =>
    refine .kept (by simpa using hothers) hguards rfl ?_
    rw [Store.spec_replacement, m.specWholeSeconds]
    rfl

/-- An object that is being deleted and carries its finalizer is finalized by one drive. It is gone
then, unless it has other finalizers; those it keeps. -/
theorem finalized_of_deleting (settings : ToolSettings) (hfree : Unhindered m pl)
    (hget : (pl.cluster.store m.kind).objects.get? key = some o) (hkey : o.key = .ok key)
    (hdeleting : o.metadata.isDeleting = true) (hguarded : m.finalizer ∈ o.metadata.guards) :
    ∃ pl', (m.lifecycle settings).drive o pl = (.ok .finalized, pl') ∧
      LetGo m.finalizer o ((pl'.cluster.store m.kind).objects.get? key) ∧
      ∀ key', key' ≠ key → (pl'.cluster.store m.kind).objects.get? key' =
        (pl.cluster.store m.kind).objects.get? key' := by
  have hfinalizer := (hooks settings m hkey).finalizer
  have hstep : ((m.lifecycle settings).observe o).step = .finalize :=
    Observed.step_eq_finalize_iff.2 ⟨hdeleting, (Lifecycle.guarded_observe_iff _ o).2 (by
      rwa [hfinalizer])⟩
  obtain ⟨_, pl₁, hcleanup, hsame⟩ := (hfree.ends_cleanup settings o).exists_ok
  have hget₁ : (pl₁.cluster.store m.kind).objects.get? key = some o := by rw [hsame, hget]
  have hwritable : (pl₁.cluster.store m.kind).failing = false := by
    rw [hsame, hfree.writable]
  obtain ⟨_, c, hrun, v, hfiled⟩ := Ends.exists_ok <|
    (ClusterM.ends_replace (Lifecycle.key_unguarded (m.lifecycle settings) o hkey) hget₁
      fun _ h => h).mono (fun _ _ h => h) fun _ _ h => by simp [hwritable] at h
  refine ⟨_, drive_of_cleanup_ok hstep hcleanup hrun, ?_, fun key' hne => ?_⟩
  · rw [hfiled.self]
    exact letGo_remaining hfinalizer hdeleting v
  · rw [hfiled.other hne, hsame]
end

/-! ## Two deletions -/

namespace Finalized.Sample

/-- A policy of an unknown type, with somebody else's finalizer beside its own. -/
def policy : Policy where
  metadata := {
    name := some "shells"
    ns := some "shop"
    finalizers := some ["audit/hold", PolicyLifecycle.finalizer] }
  spec := { type := "kyverno", enabled := false }

/-- A tool with values that are refused. -/
def tool : Tool where
  metadata := {
    name := some "falco"
    ns := some "shop"
    finalizers := some [ToolLifecycle.finalizer] }
  spec := { type := "falco", enabled := true, values := some (.str "fast") }

def created : Cluster := (ClusterM.create tool (ClusterM.create policy {}).2).2

def marked : Cluster :=
  (ClusterM.delete .tool "shop" "falco" (ClusterM.delete .policy "shop" "shells" created).2).2

/-- Installs fail, and the release of the tool is locked. -/
def platform : Platform where
  cluster := marked
  book := {
    releases := .ofList [(⟨"falco", "falco"⟩,
      ({ name := "falco", ns := "falco", status := "pending-install" }, .null))]
    failing := [.install] }

def storedPolicy : Policy := (marked.policies.objects.get? ⟨"shop", "shells"⟩).getD policy

def storedTool : Tool := (marked.tools.objects.get? ⟨"shop", "falco"⟩).getD tool

end Finalized.Sample

open Finalized.Sample in
/-- The policy waits for the other finalizer, the tool is gone. -/
theorem finalized_of_deleting_sample :
    (∃ pl', Lifecycle.policy.drive storedPolicy platform = (.ok .finalized, pl') ∧
        ∃ p, pl'.cluster.policies.objects.get? ⟨"shop", "shells"⟩ = some p ∧
          p.metadata.guards = ["audit/hold"]) ∧
      ∃ pl', (Lifecycle.tool {}).drive storedTool platform = (.ok .finalized, pl') ∧
        pl'.cluster.tools.objects.get? ⟨"shop", "falco"⟩ = none := by
  have hwritable : ∀ k, (platform.cluster.store k).failing = false := by
    intro k
    cases k <;> rfl
  constructor
  · obtain ⟨pl', hdrive, hleft, -⟩ := @finalized_of_deleting .policy storedPolicy
      ⟨"shop", "shells"⟩ platform {} ⟨hwritable, nofun⟩ rfl rfl rfl (by decide)
    refine ⟨pl', hdrive, ?_⟩
    generalize hend : (pl'.cluster.store Managed.policy.kind).objects.get? _ = o? at hleft
    cases hleft with
    | gone h => exact absurd h (by decide)
    | kept _ hguards => exact ⟨_, hend, hguards⟩
  · obtain ⟨pl', hdrive, hleft, -⟩ := @finalized_of_deleting .tool storedTool
      ⟨"shop", "falco"⟩ platform {} ⟨hwritable, fun _ => by simp [Blocks, platform]⟩ rfl rfl rfl
      (by decide)
    refine ⟨pl', hdrive, ?_⟩
    generalize hend : (pl'.cluster.store Managed.tool.kind).objects.get? _ = o? at hleft
    cases hleft with
    | gone _ => exact hend
    | kept h => exact absurd (by decide) h

end PolicyOperator
