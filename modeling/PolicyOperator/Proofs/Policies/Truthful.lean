import PolicyOperator.Proofs.Policies.Runs

/-!
# A policy that claims to be synced is

A policy is synced when its status is active and names the current generation. The theorem
(`inLine_of_synced`) is about every run in which users edit one policy as they like, the operator
drives it and writes fail now and then: whenever the policy claims to be synced, its artifacts are
those of its current spec, and the report that the status names is about this policy in this
generation.

The invariant (`Tended.Inv`) is that an observed generation which is the current one vouches for
the artifacts and the report (`Upheld`). An edit of the spec makes the generation a new one, and no
observed generation lies ahead of it; the status names a generation only after the artifacts and
the report of that generation were written.
-/

namespace PolicyOperator.PolicyLifecycle

open Cluster Engine

variable {key : Key} {p p' : Policy} {c c' : Cluster} {kind : ToolKind}

/-! ## What an observed generation vouches for -/

/-- The policy is enabled and valid, its rules or scans are in line with its spec, and its report is
the one that the status names. -/
def Upheld (p : Policy) (c : Cluster) : Prop :=
  p.spec.enabled = true ∧ ∃ kind, engineFor p = .ok kind ∧
    (kind ≠ .litmus → InLine kind p c) ∧
    lastReport p = some (Naming.report kind p.displayName) ∧ Stands (Artifact.report p kind) c

theorem Upheld.revised (h : Upheld p c) (hr : Revised p p') (hkey : p.key = .ok key) {g : Int}
    (hg : p.metadata.generation = some g) (hreport : lastReport p' = lastReport p) :
    Upheld p' c := by
  obtain ⟨henabled, kind, hengine, hin, hlast, hstands⟩ := h
  have hkey' := hr.filed hkey
  refine ⟨by rw [hr.spec, henabled], kind, (engineFor_congr hr.spec).trans hengine, fun hne => ?_,
    ?_, ?_⟩
  · exact (hin hne).congr hr.spec hkey hkey' (by rw [hr.generation g hg, hg])
  · rw [hreport, hlast, Object.displayName_of_key hkey, Object.displayName_of_key hkey']
  · rwa [report_congr hr hkey hg]

/-- Only the stored artifacts and reports matter. -/
theorem Upheld.of_objects (h : Upheld p c)
    (hs : ∀ k ∈ [ResourceKind.configMap, .job, .policyReport],
      (c'.store k).objects = (c.store k).objects) : Upheld p c' := by
  obtain ⟨henabled, kind, hengine, hin, hlast, r, hget, hspec⟩ := h
  refine ⟨henabled, kind, hengine, fun hne => ?_, hlast, r, ?_, hspec⟩
  · refine (hin hne).of_objects ?_
    cases kind with
    | falco => exact hs .configMap (by simp)
    | trivy => exact hs .job (by simp)
    | litmus => exact absurd rfl hne
  · rw [hs .policyReport (by simp), hget]

/-- The policy is filed under its key, no observed generation is ahead of it, and one that is the
current one vouches for the artifacts. -/
structure Reliable (key : Key) (p : Policy) (c : Cluster) : Prop where
  filed : p.key = .ok key
  generation : ∃ g, p.metadata.generation = some g ∧ ∀ o, observedGeneration p = some o → o ≤ g
  upheld : p.metadata.isDeleting = false → observedGeneration p = p.metadata.generation →
    Upheld p c

/-- A write that keeps the observed generation keeps the policy reliable if it keeps up what that
generation vouches for. -/
theorem Reliable.revised (h : Reliable key p c) (hr : Revised p p')
    (hobserved : observedGeneration p' = observedGeneration p)
    (hupheld : p.metadata.isDeleting = false → Upheld p c → Upheld p' c') :
    Reliable key p' c' := by
  obtain ⟨g, hg, hle⟩ := h.generation
  refine ⟨hr.filed h.filed, ⟨g, hr.generation g hg, by rwa [hobserved]⟩, fun hstaying hsame => ?_⟩
  rw [hr.deleting] at hstaying
  rw [hobserved, hr.generation g hg, ← hg] at hsame
  exact hupheld hstaying (h.upheld hstaying hsame)

/-- Without what it would have to vouch for, the observed generation is an old one, and stays so. -/
theorem Reliable.outdated (h : Reliable key p c) (hr : Revised p p')
    (hobserved : observedGeneration p' = observedGeneration p)
    (hnot : p.metadata.isDeleting = false → ¬ Upheld p c) : Reliable key p' c' :=
  h.revised hr hobserved fun hstaying hup => absurd hup (hnot hstaying)

theorem Reliable.of_objects (h : Reliable key p c)
    (hs : ∀ k ∈ [ResourceKind.configMap, .job, .policyReport],
      (c'.store k).objects = (c.store k).objects) : Reliable key p c' :=
  ⟨h.filed, h.generation, fun hstaying hsame => (h.upheld hstaying hsame).of_objects hs⟩

/-- A sync after which everything is in line may say so. -/
theorem Reliable.of_synced {name : String} {now : Instant} (h : Reliable key p c)
    (henabled : p.spec.enabled = true) (hengine : engineFor p = .ok kind)
    (hr : Restated (syncedStatus p (some name) now) p p')
    (hin : kind ≠ .litmus → InLine kind p c')
    (hname : name = (Artifact.report p kind).displayName)
    (hstands : Stands (Artifact.report p kind) c') : Reliable key p' c' := by
  obtain ⟨g, hg, -⟩ := h.generation
  have hkey' := hr.toRevised.filed h.filed
  have hg' := hr.toRevised.generation g hg
  have hobserved : observedGeneration p' = some g := by
    rw [hr.observedGeneration, observedGeneration_syncedStatus, Artifact.generation, hg]
    rfl
  refine ⟨hkey', ⟨g, hg', fun o ho => ?_⟩, fun _ _ => ?_⟩
  · rw [hobserved] at ho
    cases ho
    exact Int.le_refl _
  refine ⟨by rw [hr.toRevised.spec, henabled], kind,
    (engineFor_congr hr.toRevised.spec).trans hengine, fun hne => ?_, ?_, ?_⟩
  · exact (hin hne).congr hr.toRevised.spec h.filed hkey' (by rw [hg', hg])
  · rw [hr.lastReport, lastReport_syncedStatus, hname, Object.displayName_of_key hkey',
      ← Object.displayName_of_key h.filed]
    rfl
  · rwa [report_congr hr.toRevised h.filed hg]

/-- An edit of the spec makes the generation one that was not observed. -/
theorem Reliable.replaced (h : Reliable key p c) {q : Policy} (hkey : q.key = .ok key) (v : Nat)
    (hs : ∀ k ∈ [ResourceKind.configMap, .job, .policyReport],
      (c'.store k).objects = (c.store k).objects) :
    Reliable key (Store.replacement p q v) c' := by
  obtain ⟨hname, hns⟩ := Object.key_eq_ok_iff.1 h.filed
  obtain ⟨hname', hns'⟩ := Object.key_eq_ok_iff.1 hkey
  obtain ⟨g, hg, hle⟩ := h.generation
  have hobserved : observedGeneration (Store.replacement p q v) = observedGeneration p := by
    unfold observedGeneration
    rw [Store.status_replacement]
    cases p.status <;> rfl
  by_cases hspec : q.spec = p.spec
  · have hr := rewritten_replacement p q (hname'.trans hname.symm) (hns'.trans hns.symm) hspec v
    exact h.revised hr.toRevised hobserved fun _ hup =>
      (hup.revised hr.toRevised h.filed hg hr.lastReport).of_objects hs
  · have hnew : (Store.replacement p q v).metadata.generation = some (g + 1) := by
      have hdiffer : ResourceKind.policy.sameSpec p.spec
          (ResourceKind.policy.specWholeSeconds q.spec) = false :=
        decide_eq_false fun he : p.spec = q.spec => hspec he.symm
      rw [Store.generation_replacement, hdiffer, hg]
      rfl
    refine ⟨Object.key_eq_ok_iff.2 ⟨hname', hns'⟩, ⟨g + 1, hnew, fun o ho => ?_⟩,
      fun _ hsame => ?_⟩
    · rw [hobserved] at ho
      have := hle o ho
      omega
    · rw [hobserved, hnew] at hsame
      have := hle _ hsame
      omega

/-! ## What driving keeps up -/

theorem Upheld.of_reworked {kind₁ : ToolKind} (hup : Upheld p c) (hr : Reworked kind₁ key c c')
    (hengine : engineFor p = .ok kind₁)
    (hin : kind₁ ≠ .litmus → InLine kind₁ p c') : Upheld p c' := by
  obtain ⟨henabled, kind, hengine', -, hlast, r, hget, hspec⟩ := hup
  obtain rfl : kind₁ = kind := by simpa [hengine] using hengine'
  refine ⟨henabled, kind₁, hengine, hin, hlast, r, ?_, hspec⟩
  rwa [hr.confined.store _ (by simpa using artifact_ne_policyReport.symm)]

theorem Upheld.of_reported {report : Option String} (hup : Upheld p c)
    (hengine : engineFor p = .ok kind) (hr : Reported (Artifact.report p kind) report c c')
    (hreports : (c.store .policyReport).All Object.Plain) : Upheld p c' := by
  obtain ⟨henabled, kind', hengine', hin, hlast, hstands⟩ := hup
  obtain rfl : kind = kind' := by simpa [hengine] using hengine'
  exact ⟨henabled, kind, hengine, fun hne => (hin hne).of_objects (by rw [artifact_of_reported hr]),
    hlast, hr.stands hreports (.inr hstands)⟩

/-- A policy that is finalized or disabled has nothing to vouch for. -/
theorem not_upheld_of_step (hstep : step p = .finalize ∨ step p = .disable)
    (hstaying : p.metadata.isDeleting = false) : ¬ Upheld p c := by
  intro hup
  obtain hstep | hstep := hstep
  · exact absurd (Observed.step_eq_finalize_iff.1 hstep).1 (by simp [Lifecycle.observe, hstaying])
  · have hdisabled : p.spec.enabled = false := (Observed.step_of_disable hstep).2.2
    exact absurd hup.1 (by simp [hdisabled])

/-- Noting a failure keeps the policy reliable if nothing is lost. -/
theorem Reliable.failed {phase : Option PolicyPhase} {reason : String} {e : Error} {now : Instant}
    (h : Reliable key p c) (hr : p' = p ∨ Restated (failedStatus p phase reason e now) p p')
    (hup : Upheld p c → Upheld p c') : Reliable key p' c' := by
  obtain ⟨g, hg, -⟩ := h.generation
  obtain rfl | hr := hr
  · exact h.revised .rfl rfl fun _ => hup
  · have hobserved := hr.observedGeneration.trans (observedGeneration_failedStatus ..)
    have hlast := hr.lastReport.trans (lastReport_failedStatus ..)
    exact h.revised hr.toRevised hobserved fun _ h' =>
      (hup h').revised hr.toRevised h.filed hg hlast

section
variable {c₁ c₂ : Cluster} {report : Option String} (hengine : engineFor p = .ok kind)
  (hreworked : Reworked kind key c c₁) (hin : kind ≠ .litmus → InLine kind p c₁)
  (hreport : Reported (Artifact.report p kind) report c₁ c₂)
  (hreports : (c.store .policyReport).All Object.Plain)
include hengine hreworked hin hreport hreports

/-- A sync keeps up what was vouched for. -/
theorem Upheld.synced (hup : Upheld p c) : Upheld p c₂ :=
  (hup.of_reworked hreworked hengine hin).of_reported hengine hreport
    (hreworked.plain_reports hreports)

/-- With a report the status vouches for the current generation, without one for no other than
before. -/
theorem Reliable.synced {now : Instant} (h : Reliable key p c) (hstep : step p = .sync)
    (hr : Restated (syncedStatus p report now) p p') : Reliable key p' c₂ := by
  obtain ⟨g, hg, -⟩ := h.generation
  have hlast := hr.lastReport.trans (lastReport_syncedStatus ..)
  cases report with
  | none =>
    refine h.revised hr.toRevised
      (hr.observedGeneration.trans (observedGeneration_syncedStatus ..)) fun _ hup => ?_
    exact (hup.synced hengine hreworked hin hreport hreports).revised hr.toRevised h.filed hg hlast
  | some name =>
    refine h.of_synced (Observed.step_of_sync hstep).2.2 hengine hr (fun hne => ?_)
      (hreport.name name rfl) (hreport.stands (hreworked.plain_reports hreports) (.inl rfl))
    exact (hin hne).of_objects (by rw [artifact_of_reported hreport])

end

/-- Driving keeps the policy reliable. -/
theorem Driven.reliable {r : Except Error Transition} (hd : Driven key p c r c')
    (h : Reliable key p c) (hget : (c.store .policy).objects.get? key = some p)
    (hplain : ∀ kind : ToolKind, kind ≠ .litmus → (c.store kind.artifact).All Object.Plain)
    (hreports : (c.store .policyReport).All Object.Plain)
    (hget' : (c'.store .policy).objects.get? key = some p') : Reliable key p' c' := by
  obtain ⟨g, hg, -⟩ := h.generation
  have same : ∀ {q : Policy}, (c'.store .policy).objects.get? key = some q → q = p' := fun hq => by
    simpa [hq] using hget'
  -- A filed policy leaves artifacts and reports alone.
  have objects : ∀ {c₁ : Cluster} {o? : Option Policy}, Filed key o? c₁ c' →
      ∀ k ∈ [ResourceKind.configMap, .job, .policyReport],
        (c'.store k).objects = (c₁.store k).objects := fun {_ _} hfiled k hk => by
    rw [hfiled.store (by rintro rfl; simp at hk)]
  cases hd with
  | refused | released =>
    obtain rfl := same hget
    exact h
  | guarded _ hfiled hr | linked _ hfiled hr =>
    obtain rfl := same hfiled.self
    exact h.revised hr.toRevised hr.observedGeneration fun _ hup =>
      (hup.revised hr.toRevised h.filed hg hr.lastReport).of_objects (objects hfiled)
  | cleanupStopped _ hstep _ hstopped =>
    have hpolicies : c'.store .policy = c.store .policy := by
      obtain rfl | hcleaned := hstopped.done
      · rfl
      · exact hcleaned.confined.store _ (by simpa using artifact_ne_policy.symm)
    obtain rfl := same (by rw [hpolicies, hget])
    exact h.outdated .rfl rfl (not_upheld_of_step hstep)
  | unwritten _ hstep hswept =>
    obtain rfl := same (by rw [hswept.policies, hget])
    exact h.outdated .rfl rfl (not_upheld_of_step hstep)
  | finalized hstep _ hfiled hr =>
    obtain ⟨hr, -⟩ := hr p' (hfiled.self.symm.trans hget')
    exact h.outdated hr.toRevised hr.observedGeneration (not_upheld_of_step (.inl hstep))
  | disabled hstep _ hfiled hr =>
    obtain rfl := same hfiled.self
    exact h.outdated hr.toRevised
      (hr.observedGeneration.trans (observedGeneration_disabledStatus ..))
      (not_upheld_of_step (.inr hstep))
  | invalid e _ hengine hfiled hr =>
    obtain rfl := same hfiled.self
    refine h.failed hr fun hup => ?_
    obtain ⟨-, kind, hengine', -⟩ := hup
    rw [hengine] at hengine'
    cases hengine'
  | reconcileStopped _ _ hengine hreworked hstopped hfiled hr =>
    obtain rfl := same hfiled.self
    refine h.failed hr fun hup => ?_
    refine (hup.of_reworked hreworked hengine fun hne => ?_).of_objects (objects hfiled)
    obtain ⟨-, kind, hengine', hin, -⟩ := hup
    obtain rfl : _ = kind := by simpa [hengine] using hengine'
    exact (hstopped (hplain _ hne)).2 (hin hne)
  | unpublished _ _ hengine hreworked hin hreport =>
    have hpolicies : c'.store .policy = c.store .policy := by
      rw [hreport.confined.store _ (by simp),
        hreworked.confined.store _ (by simpa using artifact_ne_policy.symm)]
    obtain rfl := same (by rw [hpolicies, hget])
    exact h.revised .rfl rfl fun _ hup =>
      hup.synced hengine hreworked (fun hne => hin (hplain _ hne)) hreport hreports
  | synced hstep hengine hreworked hin hreport hfiled hr =>
    obtain rfl := same hfiled.self
    exact (h.synced hengine hreworked (fun hne => hin (hplain _ hne)) hreport hreports hstep
      hr).of_objects (objects hfiled)

/-! ## What is allowed -/

/-- A user creates the policy without a status, replaces it with whatever fits its key, and deletes
it; the operator drives it. Others leave it alone, and the stores of its artifacts. -/
def Tended (key : Key) (c : Cluster) (e : Event) (c' : Cluster) : Prop :=
  match e with
  | .create p => p.key = .ok key ∧ p.status = none
  | .replace p => p.key = .ok key
  | .delete key' => key' = key
  | .drive key' _ _ => key' = key
  | .outside =>
    (c'.store .policy).objects.get? key = (c.store .policy).objects.get? key ∧
      ∀ k ∈ [ResourceKind.configMap, .job, .policyReport],
        (c'.store k).objects = (c.store k).objects

namespace Tended

/-- Writes may be made to fail or to succeed again at any time. -/
theorem setFailing (key : Key) (c : Cluster) (k : ResourceKind) (failing : Bool) :
    Tended key c .outside (c.setFailing k failing) := by
  have hobjects : ∀ k', ((c.setFailing k failing).store k').objects = (c.store k').objects := by
    intro k'
    by_cases he : k' = k
    · subst he
      simp [Cluster.setFailing]
    · rw [Cluster.setFailing, store_setStore_of_ne _ _ he]
  exact ⟨by rw [hobjects], fun k' _ => hobjects k'⟩

/-- The policy is not stored yet, and neither are artifacts or reports. -/
structure Blank (key : Key) (c : Cluster) : Prop where
  policy : (c.store .policy).objects.get? key = none
  stores : ∀ k ∈ [ResourceKind.configMap, .job, .policyReport],
    ∀ key, (c.store k).objects.get? key = none

/-- The invariant of a run. -/
structure Inv (key : Key) (c : Cluster) : Prop where
  plain : ∀ k ∈ [ResourceKind.configMap, .job, .policyReport], (c.store k).All Object.Plain
  policy : ∀ p, (c.store .policy).objects.get? key = some p → Reliable key p c

theorem Blank.inv (h : Blank key c) : Inv key c where
  plain k hk key o ho := by rw [h.stores k hk] at ho; cases ho
  policy p hp := by rw [h.policy] at hp; cases hp

/-- A write of the policy alone. -/
theorem Inv.filed {o? : Option Policy} (h : Inv key c) (hfiled : Filed key o? c c')
    (ho : ∀ p, o? = some p → Reliable key p c') : Inv key c' where
  plain k hk := by
    rw [hfiled.store (by rintro rfl; simp at hk)]
    exact h.plain k hk
  policy p hp := ho p (hfiled.self.symm.trans hp)

theorem Inv.create (h : Inv key c) (hkey : p.key = .ok key) (hstatus : p.status = none) :
    Inv key (ClusterM.create p c).2 := by
  obtain he | ⟨key', v, hkey', -, hfiled⟩ := ClusterM.state_create p c
  · rwa [he]
  · obtain rfl : key' = key := by simpa [hkey'] using hkey
    refine h.filed hfiled fun p' hp' => ?_
    cases hp'
    have hunobserved : observedGeneration (Store.created p c.clock v) = none := by
      rw [observedGeneration, Store.status_created, hstatus]
      rfl
    exact ⟨(Object.key_congr rfl rfl).trans hkey,
      ⟨1, rfl, fun o ho => by rw [hunobserved] at ho; cases ho⟩,
      fun _ hsame => by rw [hunobserved] at hsame; cases hsame⟩

theorem Inv.replace (h : Inv key c) (hkey : p.key = .ok key) :
    Inv key (ClusterM.replace p c).2 := by
  obtain he | ⟨key', current, v, hkey', hcurrent, hfiled⟩ := ClusterM.state_replace p c
  · rwa [he]
  · obtain rfl : key' = key := by simpa [hkey'] using hkey
    refine h.filed hfiled fun p' hp' => ?_
    obtain rfl := Store.eq_of_remaining hp'
    refine (h.policy current hcurrent).replaced hkey v fun k hk => ?_
    rw [hfiled.store (by rintro rfl; simp at hk)]

theorem Inv.delete (h : Inv key c) : Inv key (ClusterM.delete .policy key.ns key.name c).2 := by
  obtain he | ⟨o?, hwithdrawn, hfiled⟩ := ClusterM.state_delete .policy key c
  · rwa [he]
  · refine h.filed hfiled fun p' hp' => ?_
    obtain ⟨current, hcurrent, hleft⟩ := (hp' ▸ hwithdrawn).of_some
    have hreliable := h.policy current hcurrent
    obtain ⟨rfl, -⟩ | ⟨now, v, rfl⟩ := hleft
    · exact hreliable.of_objects fun k hk => by rw [hfiled.store (by rintro rfl; simp at hk)]
    · exact ⟨(Object.key_congr rfl rfl).trans hreliable.filed,
        hreliable.generation, nofun⟩

theorem Inv.driven {r : Except Error Transition} (h : Inv key c)
    (hget : (c.store .policy).objects.get? key = some p) (hd : Driven key p c r c') :
    Inv key c' := by
  have hplain : ∀ kind : ToolKind, kind ≠ .litmus →
      (c.store kind.artifact).All Object.Plain := by
    intro kind hne
    cases kind with
    | falco => exact h.plain .configMap (by simp)
    | trivy => exact h.plain .job (by simp)
    | litmus => exact absurd rfl hne
  have hreports := h.plain .policyReport (by simp)
  refine ⟨fun k hk => ?_, fun p' hp' =>
    hd.reliable (h.policy p hget) hget hplain hreports hp'⟩
  have kept : ∀ kind : ToolKind, kind ≠ .litmus → (c'.store kind.artifact).All Object.Plain :=
    fun kind hne => hd.all_artifacts (hplain kind hne) (hplain kind hne) fun _ _ hr => hr.plain
  simp only [List.mem_cons, List.not_mem_nil, or_false] at hk
  obtain rfl | rfl | rfl := hk
  · exact kept .falco nofun
  · exact kept .trivy nofun
  · exact hd.plain_reports hreports

/-- Every allowed event keeps the invariant. -/
theorem Inv.step {e : Event} (h : Inv key c) (he : Happens c e c') (ha : Tended key c e c') :
    Inv key c' := by
  cases e with
  | create p =>
    cases he
    exact h.create ha.1 ha.2
  | replace p =>
    cases he
    exact h.replace ha
  | delete key' =>
    cases he
    obtain rfl : key' = key := ha
    exact h.delete
  | drive key' p answer =>
    obtain rfl : key' = key := ha
    obtain ⟨hget, hd⟩ := he.driven fun hget => (h.policy p hget).filed
    exact h.driven hget hd
  | outside =>
    obtain ⟨hpolicy, hstores⟩ := ha
    refine ⟨fun k hk key' o ho => ?_, fun p hp => ?_⟩
    · rw [hstores k hk] at ho
      exact h.plain k hk key' o ho
    · rw [hpolicy] at hp
      exact (h.policy p hp).of_objects hstores

theorem Inv.run {c₀ : Cluster} {history : List Event} (hrun : Run (Tended key) c₀ history c)
    (hstart : Blank key c₀) : Inv key c :=
  hrun.invariant (I := fun _ => Inv key) hstart.inv fun _ _ _ _ h he ha => h.step he ha

end Tended

/-! ## The theorem -/

theorem observedGeneration_of_synced (h : synced p = true) :
    observedGeneration p = some (Artifact.generation p) := by
  unfold synced at h
  cases hs : p.status with
  | none => rw [hs] at h; simp at h
  | some status =>
    rw [hs] at h
    simp only [Option.any_some, Bool.and_eq_true, beq_iff_eq] at h
    rw [observedGeneration, hs]
    exact h.2

/-- In every run, a policy that claims to be synced and is not being deleted is enabled, its rule
document or its scan jobs are those of its current spec, and the report that its status names is
about it, in this generation and of its type. -/
theorem inLine_of_synced {key : Key} {c₀ c : Cluster} {history : List Event} {p : Policy}
    (hstart : Tended.Blank key c₀) (hrun : Run (Tended key) c₀ history c)
    (hget : c.policies.objects.get? key = some p) (hstaying : p.metadata.isDeleting = false)
    (hsynced : synced p = true) :
    p.spec.enabled = true ∧
      (p.spec.kind = .ok .falco → ∃ spec configMap data, p.spec.falco = some spec ∧
        c.configMaps.objects.get? ⟨key.ns, Naming.ruleDocument key.name⟩ = some configMap ∧
        configMap.spec = some data ∧
        data.get? Naming.rulesKey = some (spec.document key.name p.spec.target)) ∧
      (p.spec.kind = .ok .trivy → ∃ spec, p.spec.trivy = some spec ∧
        ∀ name ∈ spec.expectedJobs p, (c.jobs.objects.get? ⟨key.ns, name⟩).isSome) ∧
      ∃ status name report, p.status = some status ∧ status.lastReport = some name ∧
        c.reports.objects.get? ⟨key.ns, name⟩ = some report ∧
        report.spec.policyRef.name = key.name ∧
        report.spec.policyRef.generation = Artifact.generation p ∧
        report.spec.type = p.spec.type := by
  have hreliable := (Tended.Inv.run hrun hstart).policy p hget
  obtain ⟨g, hg, -⟩ := hreliable.generation
  have hcurrent : observedGeneration p = p.metadata.generation := by
    rw [observedGeneration_of_synced hsynced, Artifact.generation, hg]
    rfl
  obtain ⟨henabled, kind, hengine, hin, hlast, report, hreport, hspec⟩ :=
    hreliable.upheld hstaying hcurrent
  have hname := Object.displayName_of_key hreliable.filed
  have hns := Object.nsOrEmpty_of_key hreliable.filed
  obtain ⟨hkind, -⟩ := kind_of_engineFor hengine
  refine ⟨henabled, fun hfalco => ?_, fun htrivy => ?_, ?_⟩
  · obtain rfl : kind = .falco := by simpa [hkind] using hfalco
    obtain ⟨spec, configMap, data, hsection, hcm, hdata, hdoc⟩ := hin (by simp)
    rw [hname, hns] at hcm
    exact ⟨spec, configMap, data, Rules.section_of_specOf hsection, hcm, hdata, hname ▸ hdoc⟩
  · obtain rfl : kind = .trivy := by simpa [hkind] using htrivy
    obtain ⟨spec, hsection, hjobs⟩ := hin (by simp)
    rw [hns] at hjobs
    exact ⟨spec, Scans.section_of_specOf hsection, hjobs⟩
  · obtain ⟨status, hstatus, hlast⟩ := Option.bind_eq_some_iff.1 hlast
    have hplace := key_report kind hreliable.filed
    rw [Object.nsOrEmpty_of_key hplace, Object.displayName_of_key hplace] at hreport
    refine ⟨status, _, report, hstatus, hlast, hreport, ?_, ?_, ?_⟩ <;> rw [hspec]
    · exact hname
    · rfl
    · exact ToolKind.name_of_ofName hkind

/-- A policy that is created, guarded, linked and synced. -/
theorem inLine_of_synced_sample : ∃ history,
    Run (Tended Sample.key) Sample.start history Sample.synced ∧
      ∃ configMap data,
        Sample.synced.configMaps.objects.get? ⟨"shop", "eirenyx-falco-policy-shells"⟩ =
          some configMap ∧
        configMap.spec = some data ∧ (data.get? "eirenyx_rules.yaml").isSome := by
  have hblank : Tended.Blank Sample.key Sample.start :=
    ⟨rfl, fun k hk _ => by
      simp only [List.mem_cons, List.not_mem_nil, or_false] at hk
      obtain rfl | rfl | rfl := hk <;> rfl⟩
  have hrun := (((Run.start.step (.create Sample.start Sample.policy)
    (show Tended Sample.key _ _ _ from ⟨rfl, rfl⟩)).step (Sample.happens_driven rfl)
    (show Tended Sample.key _ _ _ from rfl)).step (Sample.happens_driven rfl)
    (show Tended Sample.key _ _ _ from rfl)).step (Sample.happens_driven rfl)
    (show Tended Sample.key _ _ _ from rfl)
  obtain ⟨-, hfalco, -⟩ := inLine_of_synced (p := Sample.stored Sample.synced) hblank hrun rfl rfl
    rfl
  obtain ⟨_, configMap, data, -, hget, hdata, hdoc⟩ := hfalco rfl
  exact ⟨_, hrun, configMap, data, hget, hdata, by rw [Option.isSome_iff_exists]; exact ⟨_, hdoc⟩⟩

end PolicyOperator.PolicyLifecycle
