import PolicyOperator.Proofs.Lifecycle.Settled
import PolicyOperator.Proofs.Lifecycle.Work
import PolicyOperator.Proofs.Policies.Runs

/-!
# Driving a snapshot

The operator may be handed a policy as it was some time ago. The versions of the store then protect
the policy itself, but not its artifacts, which are written before the policy is. So a drive leaves
the artifacts as they are, whatever it returns, exactly if its work has nothing to do with them
(`harmless_iff`).

This is so for snapshots of the generation that was synced last (`idle_of_alike`). An older generation
may name other artifacts: driven after its policy was edited and synced again, it brings back the jobs
of its own generation and deletes the current ones (`Staleness.jobs_undone_by_snapshot`).
-/

namespace PolicyOperator.PolicyLifecycle

open Cluster Engine

section

variable {key : Key} {p q : Policy} {c : Cluster} {pl : Platform}

/-- Of a policy that is up for a sync and whose artifacts are settled, the snapshots of the same
generation have nothing to do but those that are on their way out. -/
theorem idle_of_alike (hsync : step q = .sync)
    (hsettled : ∀ kind, engineFor q = .ok kind → Engine.Settled kind q c) (halike : Alike q p)
    (hstaying : p.metadata.isDeleting = false) : Idle p c := by
  obtain ⟨-, -, -, henabled⟩ := step_eq_sync_iff.1 hsync
  unfold Idle
  cases hstep : step p with
  | release | guard | link => trivial
  | finalize =>
    have hdeleting : p.metadata.isDeleting = true := (Observed.step_eq_finalize_iff.1 hstep).1
    simp [hdeleting] at hstaying
  | disable =>
    have hdisabled : p.spec.enabled = false := (Observed.step_of_disable hstep).2.2
    rw [halike.spec, henabled] at hdisabled
    cases hdisabled
  | sync =>
    intro kind hengine
    rw [engineFor_congr halike.spec] at hengine
    exact (hsettled kind hengine).congr halike

/-- A drive of any snapshot leaves the artifacts as they are if its work has nothing to do, and only
then unless writes are made to fail. -/
theorem harmless_iff (hc : pl.cluster.Reached) (hkey : p.key = .ok key) :
    (Idle p pl.cluster → SameStored pl.cluster (Lifecycle.policy.drive p pl).2.cluster) ∧
      ((∀ k, (pl.cluster.store k).failing = false) →
        SameStored pl.cluster (Lifecycle.policy.drive p pl).2.cluster → Idle p pl.cluster) := by
  have hdrive := sameStored_drive p pl
  refine ⟨fun hidle => ?_, fun hwritable hsame => ?_⟩
  · exact IsTrans.trans _ _ _ (hidle.sameStored_work hkey hc) hdrive
  · refine idle_of_work (fun kind => ?_) hkey hc hwritable
    rw [← hdrive kind, hsame kind]

end

/-- The policy as it was before it was synced for the first time is of the same generation. -/
theorem harmless_sample :
    SameStored Sample.synced
      (Lifecycle.policy.drive (Sample.stored Sample.linked) { cluster := Sample.synced }).2.cluster := by
  have hstart : Sample.start.Reached :=
    Cluster.reached_empty.later ((ClusterM.later_create Sample.tool).state {})
  have hcreated : Sample.created.Reached :=
    hstart.later ((ClusterM.later_create Sample.policy).state Sample.start)
  have hdriven : ∀ c : Cluster, c.Reached → (Sample.driven c).Reached := fun c hc =>
    hc.later ((later_drive (Sample.stored c)).state { cluster := c })
  have hsynced : ({ cluster := Sample.synced } : Platform).cluster.Reached :=
    hdriven _ (hdriven _ (hdriven _ hcreated))
  refine (harmless_iff hsynced rfl).1 ?_
  intro kind hengine
  cases hengine
  exact ⟨_, _, rfl, rfl, rfl⟩

namespace Staleness

/-! ## A policy with a scan -/

def tool : Tool where
  metadata := { name := some "trivy", ns := some "shop" }
  spec := { type := "trivy", enabled := true }

def policy (image : String) : Policy where
  metadata := { name := some "images", ns := some "shop" }
  spec := {
    type := "trivy"
    enabled := true
    trivy := some { scans := [{ name := "web", image := image }] } }

def key : Key := ⟨"shop", "images"⟩

def stored (c : Cluster) : Policy := (c.policies.objects.get? key).getD (policy "web:1")

/-- The cluster after a policy was driven. -/
def driven (p : Policy) (c : Cluster) : Cluster :=
  (Lifecycle.policy.drive p { cluster := c }).2.cluster

def created : Cluster := (ClusterM.create (policy "web:1") (ClusterM.create tool {}).2).2

def guarded : Cluster := driven (stored created) created

def linked : Cluster := driven (stored guarded) guarded

def scanned : Cluster := driven (stored linked) linked

/-- The policy with another image. -/
def edit : Policy := { stored scanned with spec := (policy "web:2").spec }

def edited : Cluster := (ClusterM.replace edit scanned).2

/-- The cluster after the edited policy was synced too. -/
def rescanned : Cluster := driven (stored edited) edited

/-- The cluster after the policy was driven once more as it was before the edit. -/
def undone : Cluster := driven (stored scanned) rescanned

/-- A policy is synced, edited and synced again. Driven as it was before the edit, it deletes the job
of the current generation and creates the one of the generation before. -/
theorem jobs_undone_by_snapshot :
    scanned.policies.objects.get? key = some (stored scanned) ∧
      Run (fun _ _ _ => True) scanned
        [.drive key (stored edited) (.ok (.synced none)), .replace edit] rescanned ∧
      (rescanned.policies.objects.get? key = some (stored rescanned) ∧ InSync (stored rescanned)) ∧
      rescanned.jobs.objects.get? ⟨"shop", "eirenyx-trivy-images-web-1"⟩ = none ∧
      (rescanned.jobs.objects.get? ⟨"shop", "eirenyx-trivy-images-web-2"⟩).isSome ∧
      (undone.jobs.objects.get? ⟨"shop", "eirenyx-trivy-images-web-1"⟩).isSome ∧
      undone.jobs.objects.get? ⟨"shop", "eirenyx-trivy-images-web-2"⟩ = none := by
  have hdrive : Happens edited (.drive key (stored edited) (.ok (.synced none))) rescanned :=
    .drive { cluster := edited } key (stored edited) rfl
  have hedit : Run (fun _ _ _ => True) scanned [.replace edit] edited :=
    .step .start (.replace scanned edit) trivial
  exact ⟨rfl, hedit.step hdrive trivial, ⟨rfl, _, _, rfl, rfl, rfl, rfl, rfl, rfl⟩, rfl, rfl, rfl, rfl⟩

end Staleness

end PolicyOperator.PolicyLifecycle
