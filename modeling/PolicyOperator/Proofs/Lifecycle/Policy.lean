import PolicyOperator.Lifecycle.Policy
import PolicyOperator.Proofs.Engine
import PolicyOperator.Proofs.Lifecycle.Frames
import PolicyOperator.Proofs.Lifecycle.Steps

/-!
# Driving a policy

`Driven key p c answer c'` says what driving the stored policy `p` does to the cluster: one case for
each way in which a step can end, with the store that refused a write where one did. `ends_drive`
shows that nothing else can happen.

* `Revised p p'`: the policy as it is stored afterwards has the key, identity, spec, generation and
  deletion mark that it had. `Rewritten p p'` adds that it has its status, `Restated status p p'` that
  it has its finalizers and owners and another status.
* `Linkable p c owner`: the tool that a policy is linked to is there and can be referred to.
* `Swept p c c'`: the artifacts of the declared kind were cleaned up; an unknown kind has none.
* `Reported desired report c c'`: the report was made or brought up to date.
-/

namespace PolicyOperator.PolicyLifecycle

open Cluster Engine

variable {key : Key} {p p' : Policy} {c c' : Cluster} {status : PolicyStatus}

/-! ## The stored policy afterwards -/

/-- The same policy but for finalizers, owners, status and version. -/
structure Revised (p p' : Policy) : Prop where
  name : p'.metadata.name = p.metadata.name
  ns : p'.metadata.ns = p.metadata.ns
  uid : p'.metadata.uid = p.metadata.uid
  spec : p'.spec = p.spec
  deleting : p'.metadata.isDeleting = p.metadata.isDeleting
  generation : ∀ g, p.metadata.generation = some g → p'.metadata.generation = some g

theorem Revised.rfl : Revised p p :=
  ⟨Eq.refl _, Eq.refl _, Eq.refl _, Eq.refl _, Eq.refl _, fun _ h => h⟩

theorem Revised.trans {p'' : Policy} (h : Revised p p') (h' : Revised p' p'') : Revised p p'' where
  name := h'.name.trans h.name
  ns := h'.ns.trans h.ns
  uid := h'.uid.trans h.uid
  spec := h'.spec.trans h.spec
  deleting := h'.deleting.trans h.deleting
  generation g hg := h'.generation g (h.generation g hg)

theorem Revised.filed (h : Revised p p') (hkey : p.key = .ok key) : p'.key = .ok key := by
  rw [Object.key_eq_ok_iff, h.name, h.ns]
  exact Object.key_eq_ok_iff.1 hkey

theorem revised_replacement (p q : Policy) (hname : q.metadata.name = p.metadata.name)
    (hns : q.metadata.ns = p.metadata.ns) (hspec : q.spec = p.spec) (v : Nat) :
    Revised p (Store.replacement p q v) where
  name := hname
  ns := hns
  uid := rfl
  spec := hspec
  deleting := rfl
  generation g hg := by
    have hsame : ResourceKind.policy.sameSpec p.spec
        (ResourceKind.policy.specWholeSeconds q.spec) = true := by
      rw [hspec]
      simp [ResourceKind.sameSpec, ResourceKind.specWholeSeconds]
    rw [Store.generation_replacement, hsame, if_pos rfl, hg]
    rfl

/-- The same policy with other finalizers or owners. -/
structure Rewritten (p p' : Policy) : Prop extends Revised p p' where
  status : p'.status = p.status.map PolicyStatus.wholeSeconds

theorem rewritten_replacement (p q : Policy) (hname : q.metadata.name = p.metadata.name)
    (hns : q.metadata.ns = p.metadata.ns) (hspec : q.spec = p.spec) (v : Nat) :
    Rewritten p (Store.replacement p q v) :=
  ⟨revised_replacement p q hname hns hspec v, Store.status_replacement ..⟩

/-- The same policy with another status. -/
structure Restated (status : PolicyStatus) (p p' : Policy) : Prop extends Revised p p' where
  guards : p'.metadata.guards = p.metadata.guards
  owners : p'.metadata.owners = p.metadata.owners
  status : p'.status = some status ∨ p'.status = some status.wholeSeconds

theorem restated_withStatus (p : Policy) (status : PolicyStatus) (v : Nat) :
    Restated status p (Store.withStatus p { p with status := some status } v) where
  name := rfl
  ns := rfl
  uid := rfl
  spec := rfl
  deleting := Store.isDeleting_withStatus ..
  generation _ h := h
  guards := rfl
  owners := rfl
  status := .inr rfl

/-- The generation that the status says was observed. -/
def observedGeneration (p : Policy) : Option Int := p.status.bind PolicyStatus.observedGeneration

/-- The report that the status names. -/
def lastReport (p : Policy) : Option String := p.status.bind PolicyStatus.lastReport

theorem Rewritten.observedGeneration (h : Rewritten p p') :
    observedGeneration p' = observedGeneration p := by
  unfold PolicyLifecycle.observedGeneration
  rw [h.status]
  cases p.status <;> rfl

theorem Rewritten.lastReport (h : Rewritten p p') : lastReport p' = lastReport p := by
  unfold PolicyLifecycle.lastReport
  rw [h.status]
  cases p.status <;> rfl

theorem Restated.observedGeneration (h : Restated status p p') :
    observedGeneration p' = status.observedGeneration := by
  unfold PolicyLifecycle.observedGeneration
  rcases h.status with hs | hs <;> rw [hs] <;> rfl

theorem Restated.lastReport (h : Restated status p p') : lastReport p' = status.lastReport := by
  unfold PolicyLifecycle.lastReport
  rcases h.status with hs | hs <;> rw [hs] <;> rfl

section
variable (p : Policy) (phase : Option PolicyPhase) (reason : String) (e : Error) (now : Instant)

theorem observedGeneration_failedStatus :
    (failedStatus p phase reason e now).observedGeneration = observedGeneration p := by
  rw [failedStatus, observedGeneration]
  cases p.status <;> rfl

theorem lastReport_failedStatus :
    (failedStatus p phase reason e now).lastReport = lastReport p := by
  rw [failedStatus, lastReport]
  cases p.status <;> rfl

theorem observedGeneration_disabledStatus :
    (disabledStatus p now).observedGeneration = observedGeneration p := by
  rw [disabledStatus, observedGeneration]
  cases p.status <;> rfl

theorem observedGeneration_syncedStatus (report : Option String) :
    (syncedStatus p report now).observedGeneration =
      if report.isSome then some (Artifact.generation p) else observedGeneration p := by
  rw [syncedStatus, observedGeneration]
  cases p.status <;> rfl

theorem lastReport_syncedStatus (report : Option String) :
    (syncedStatus p report now).lastReport = report.or (lastReport p) := by
  rw [syncedStatus, lastReport]
  cases p.status <;> rfl

end

/-- Publishing only fails when writes are made to fail. -/
theorem ends_publish (hget : (c.store .policy).objects.get? key = some p) (hkey : p.key = .ok key) :
    Ends (publish p status) c
      (fun _ c' => ∃ p' : Policy, Filed key (some p') c c' ∧ Restated status p p')
      fun _ c' => (c.store .policy).failing = true ∧ c' = c := by
  unfold publish
  split
  · next hsame => exact ⟨p, Filed.rfl hget, .rfl, rfl, rfl, .inl hsame⟩
  · refine ends_discard.2 ((ClusterM.ends_replaceStatus (o := { p with status := some status })
      ((Object.key_congr rfl rfl).trans hkey) hget fun _ h => h).mono
      (fun _ c' ⟨v, h⟩ => ⟨_, h, restated_withStatus p status v⟩) fun _ _ h => h)

/-! ## Cleanups and reports -/

/-- The artifacts of the declared kind were cleaned up. -/
def Swept (p : Policy) (c c' : Cluster) : Prop :=
  (∃ kind, p.spec.kind = .ok kind ∧ Cleaned kind (swept kind p c) c c') ∨
    (∃ e, p.spec.kind = .error e) ∧ c' = c

theorem artifact_ne_policy {kind : ToolKind} : kind.artifact ≠ .policy := by
  cases kind <;> decide

theorem Swept.policies (h : Swept p c c') : c'.store .policy = c.store .policy := by
  obtain ⟨kind, -, h⟩ | ⟨-, rfl⟩ := h
  · exact h.confined.store _ (by simpa using artifact_ne_policy.symm)
  · rfl

theorem isTerminal_of_ofName {name : String} {e : Error} (h : ToolKind.ofName name = .error e) :
    e.isTerminal = true := by
  unfold ToolKind.ofName at h
  split at h <;> cases h
  rfl

theorem ends_cleanup (p : Policy) (c : Cluster) :
    Ends (cleanup p) c (fun _ => Swept p c) fun _ c' =>
      ∃ kind, p.spec.kind = .ok kind ∧ CleanupStopped kind (swept kind p c) c c' := by
  unfold cleanup Engine.ofPolicy
  cases hkind : p.spec.kind with
  | ok kind =>
    exact (Engine.ends_cleanup kind p c).mono (fun _ _ h => .inl ⟨kind, hkind, h⟩)
      fun _ _ h => ⟨kind, rfl, h⟩
  | error e =>
    simp only [isTerminal_of_ofName hkind, if_true]
    exact .inr ⟨⟨e, hkind⟩, rfl⟩

/-- A report with the desired spec is stored where it belongs. -/
def Stands (desired : PolicyReport) (c : Cluster) : Prop :=
  ∃ r, (c.store .policyReport).objects.get?
      ⟨desired.metadata.nsOrEmpty, desired.displayName⟩ = some r ∧ r.spec = desired.spec

/-- The report was written, under the name that is given, or could not be. -/
structure Reported (desired : PolicyReport) (report : Option String) (c c' : Cluster) : Prop where
  confined : Confined [.policyReport] c c'
  name : ∀ name, report = some name → name = desired.displayName
  plain : (c.store .policyReport).All Object.Plain → (c'.store .policyReport).All Object.Plain
  stands : (c.store .policyReport).All Object.Plain → report.isSome ∨ Stands desired c →
    Stands desired c'

theorem Reported.ofFiled {desired r : PolicyReport} {rk : Key} {name : String}
    (hrk : desired.key = .ok rk) (h : Filed rk (some r) c c') (hr : r.Plain rk)
    (hspec : r.spec = desired.spec) (hname : name = desired.displayName) :
    Reported desired (some name) c c' where
  confined := h.confined
  name n hn := by cases hn; exact hname
  plain hplain := h.all hplain fun o ho => by cases ho; exact hr
  stands _ _ := by
    refine ⟨r, ?_, hspec⟩
    rw [Object.nsOrEmpty_of_key hrk, Object.displayName_of_key hrk]
    exact h.self

theorem Reported.unwritten (desired : PolicyReport) : Reported desired none c c where
  confined := .rfl
  name _ h := nomatch h
  plain h := h
  stands _ h := h.elim (fun h => by simp at h) id

theorem confined_ensureReport (desired : PolicyReport) :
    Keeps (Confined [.policyReport]) (ensureReport desired) :=
  keeps_ensureReport (ClusterM.confined_create (by simp)) (ClusterM.confined_replace (by simp))

theorem name_ensureReport (desired : PolicyReport) (c : Cluster) :
    Ends (ensureReport desired) c (fun name _ => name = desired.displayName) fun _ _ => True := by
  unfold ensureReport
  rw [ends_bind, ClusterM.ends_get?]
  split
  · rw [ends_bind]
    exact ends_true.mono (fun _ _ _ => rfl) fun _ _ _ => trivial
  · split
    · rw [ends_bind]
      exact ends_true.mono (fun _ _ _ => rfl) fun _ _ _ => trivial
    · rfl

theorem ends_ensureReport {desired : PolicyReport} {rk : Key} (hrk : desired.key = .ok rk)
    (hguards : desired.metadata.isGuarded = false) (c : Cluster) :
    Ends (ensureReport desired) c (fun name => Reported desired (some name) c)
      fun _ => Reported desired none c := by
  have hplace : (⟨desired.metadata.nsOrEmpty, desired.displayName⟩ : Key) = rk := by
    rw [Object.nsOrEmpty_of_key hrk, Object.displayName_of_key hrk]
  by_cases hplain : (c.store .policyReport).All Object.Plain
  · unfold ensureReport
    rw [ends_bind, ClusterM.ends_get?, hplace]
    split
    · next hnone =>
      rw [ends_bind, ends_discard]
      refine (ClusterM.ends_create hrk hnone).mono (fun o c' h => ?_)
        fun _ c' h => h.2 ▸ Reported.unwritten desired
      obtain ⟨⟨v, rfl⟩, hfiled⟩ := h
      exact .ofFiled hrk hfiled
        ⟨(Object.key_congr rfl rfl).trans hrk, hguards, rfl⟩ rfl rfl
    · next existing hget =>
      have hp := hplain rk existing hget
      split
      · rw [ends_bind, ends_discard]
        refine (ClusterM.ends_replace (o := { existing with spec := desired.spec })
          ((Object.key_congr rfl rfl).trans hp.filed) hget fun _ h => h).mono
          (fun _ c' h => ?_) fun _ c' h => h.2 ▸ Reported.unwritten desired
        obtain ⟨v, hfiled⟩ := h
        rw [Store.remaining_of_staying (by simpa using hp.staying)] at hfiled
        exact .ofFiled hrk hfiled ⟨(Object.key_congr rfl rfl).trans hp.filed,
          hp.unguarded, hp.staying⟩ rfl rfl
      · next hsame =>
        exact .ofFiled hrk (Filed.rfl hget) hp (Decidable.not_not.1 hsame) rfl
  · refine ((confined_ensureReport desired).ends (name_ensureReport desired c)).mono
      (fun name c' h => ?_) fun _ c' h => ?_
    · exact ⟨h.2, fun n hn => by cases hn; exact h.1, fun hp => absurd hp hplain,
        fun hp => absurd hp hplain⟩
    · exact ⟨h.2, nofun, fun hp => absurd hp hplain, fun hp => absurd hp hplain⟩

theorem key_report (kind : ToolKind) (hkey : p.key = .ok key) :
    (Artifact.report p kind).key = .ok ⟨key.ns, Naming.report kind p.displayName⟩ :=
  Object.key_eq_ok_iff.2 ⟨rfl, (Object.key_eq_ok_iff.1 hkey).2⟩

/-! ## Policies with one spec -/

/-- Only the spec says which engine a policy has. -/
theorem engineFor_congr (h : p'.spec = p.spec) : engineFor p' = engineFor p := by
  have hvalid : ∀ kind, Engine.validate kind p' = Engine.validate kind p := fun kind => by
    cases kind <;>
      simp only [Engine.validate, Rules.validate, Scans.validate, Experiments.validate,
        Rules.specOf, Scans.specOf, Experiments.specOf, h]
  simp only [engineFor, Engine.ofPolicy, h, hvalid]

theorem report_congr (hr : Revised p p') (hkey : p.key = .ok key) {g : Int}
    (hg : p.metadata.generation = some g) (kind : ToolKind) :
    Artifact.report p' kind = Artifact.report p kind := by
  have hname : p'.displayName = p.displayName := by
    rw [Object.displayName_of_key (hr.filed hkey), Object.displayName_of_key hkey]
  simp only [Artifact.report, Artifact.generation, hr.generation g hg, hg, hr.ns, hname]

/-! ## What driving does -/

/-- The step that a policy is up for. -/
def step (p : Policy) : Step := (Lifecycle.policy.observe p).step

/-- The tool that the policy's type names is there, and can be referred to as an owner. -/
def Linkable (p : Policy) (c : Cluster) (owner : OwnerReference) : Prop :=
  ∃ kind tool, p.spec.kind = .ok kind ∧
    (c.store .tool).objects.get? ⟨p.metadata.nsOrEmpty, kind.name⟩ = some tool ∧
    tool.ownerReference? = some owner

/-- What driving the stored policy does to the cluster. -/
inductive Driven (key : Key) (p : Policy) (c : Cluster) : Except Error Transition → Cluster → Prop
  /-- Nothing could be written, or there is no tool to link to. -/
  | refused (e : Error) : step p = .guard ∨ step p = .link →
      (c.store .policy).failing = true ∨ step p = .link ∧ (∀ owner, ¬ Linkable p c owner) →
      Driven key p c (.error e) c
  | released : step p = .release → Driven key p c (.ok .released) c
  | guarded {c' : Cluster} {p' : Policy} : step p = .guard → Filed key (some p') c c' →
      Rewritten p p' → p'.metadata.guards = p.metadata.guards ++ [finalizer] →
      p'.metadata.owners = p.metadata.owners → Driven key p c (.ok .finalizerAdded) c'
  | linked {c' : Cluster} {p' : Policy} {owner : OwnerReference} : step p = .link →
      Filed key (some p') c c' → Rewritten p p' → p'.metadata.guards = p.metadata.guards →
      Linkable p c owner → p'.metadata.owners = p.metadata.owners ++ [owner] →
      Driven key p c (.ok .ownerLinked) c'
  /-- The cleanup failed, and with it the step. -/
  | cleanupStopped {c' : Cluster} (e : Error) {kind : ToolKind} :
      step p = .finalize ∨ step p = .disable → p.spec.kind = .ok kind →
      CleanupStopped kind (swept kind p c) c c' → Driven key p c (.error e) c'
  /-- The artifacts are gone, but the policy could not be written. -/
  | unwritten {c' : Cluster} (e : Error) : step p = .finalize ∨ step p = .disable → Swept p c c' →
      (c'.store .policy).failing = true → Driven key p c (.error e) c'
  | finalized {c₁ c' : Cluster} {o? : Option Policy} : step p = .finalize → Swept p c c₁ →
      Filed key o? c₁ c' → (∀ p', o? = some p' → Rewritten p p' ∧
        p'.metadata.guards = p.metadata.guards.filter (· ≠ finalizer)) →
      Driven key p c (.ok .finalized) c'
  | disabled {c₁ c' : Cluster} {p' : Policy} : step p = .disable → Swept p c c₁ →
      Filed key (some p') c₁ c' → Restated (disabledStatus p c₁.clock) p p' →
      Driven key p c (.ok .disabled) c'
  /-- The policy is not valid; its status says so unless it could not be written. -/
  | invalid {c' : Cluster} {p' : Policy} (e : Error) : step p = .sync →
      engineFor p = .error e → Filed key (some p') c c' →
      p' = p ∨ Restated (failedStatus p (some .invalid) "ValidationFailed" e c.clock) p p' →
      Driven key p c (.error e) c'
  /-- The reconciliation failed half way; the status says so unless it could not be written. -/
  | reconcileStopped {c₁ c' : Cluster} {p' : Policy} (e : Error) {kind : ToolKind} :
      step p = .sync → engineFor p = .ok kind → Reworked kind key c c₁ →
      ((c.store kind.artifact).All Object.Plain →
        (c.store kind.artifact).failing = true ∧ (InLine kind p c → InLine kind p c₁)) →
      Filed key (some p') c₁ c' →
      p' = p ∨ Restated (failedStatus p none "ReconcileFailed" e c₁.clock) p p' →
      Driven key p c (.error e) c'
  /-- Everything is in line, but the status could not be written. -/
  | unpublished {c₁ c' : Cluster} (e : Error) {kind : ToolKind} {report : Option String} :
      step p = .sync → engineFor p = .ok kind → Reworked kind key c c₁ →
      ((c.store kind.artifact).All Object.Plain → InLine kind p c₁) →
      Reported (Artifact.report p kind) report c₁ c' → (c'.store .policy).failing = true →
      Driven key p c (.error e) c'
  | synced {c₁ c₂ c' : Cluster} {p' : Policy} {kind : ToolKind} {report : Option String} :
      step p = .sync → engineFor p = .ok kind → Reworked kind key c c₁ →
      ((c.store kind.artifact).All Object.Plain → InLine kind p c₁) →
      Reported (Artifact.report p kind) report c₁ c₂ → Filed key (some p') c₂ c' →
      Restated (syncedStatus p report c₂.clock) p p' → Driven key p c (.ok (.synced none)) c'

theorem kind_of_engineFor {kind : ToolKind} (h : engineFor p = .ok kind) :
    p.spec.kind = .ok kind ∧ Engine.validate kind p = .ok () := by
  obtain ⟨kind', hkind, h⟩ := bind_eq_ok_iff.1 h
  obtain ⟨_, hvalid, h⟩ := bind_eq_ok_iff.1 h
  cases h
  exact ⟨hkind, hvalid⟩

section
variable {pl : Platform} (hget : (pl.cluster.store .policy).objects.get? key = some p)
  (hkey : p.key = .ok key)
include hget hkey

theorem ends_recordFailure (phase : Option PolicyPhase) (reason : String) (e : Error) :
    Ends (recordFailure p phase reason e) pl
      (fun _ pl' => ∃ p', Filed key (some p') pl.cluster pl'.cluster ∧
        (p' = p ∨ Restated (failedStatus p phase reason e pl.cluster.clock) p p'))
      fun _ _ => False := by
  unfold recordFailure
  simp only [ends_bind, ends_get, ends_discard, PlatformM.ends_attempt, PlatformM.ends_onCluster]
  refine (ends_publish hget hkey).mono (fun _ c' h => ?_) fun _ c' h => ?_
  · obtain ⟨p', hfiled, h⟩ := h
    exact ⟨p', hfiled, .inr h⟩
  · exact ⟨p, by rw [h.2]; exact Filed.rfl hget, .inl rfl⟩

theorem ends_guard (hstep : step p = .guard) :
    Ends (ClusterM.replace (Lifecycle.policy.guarded p)) pl.cluster
      (fun _ c' => Driven key p pl.cluster (.ok .finalizerAdded) c')
      fun e c' => Driven key p pl.cluster (.error e) c' := by
  have hstaying : p.metadata.isDeleting = false := (Observed.step_eq_guard_iff.1 hstep).1
  refine (ClusterM.ends_replace (Lifecycle.key_guarded _ p hkey) hget fun _ h => h).mono
    (fun _ c' h => ?_) fun e c' ⟨hfail, h⟩ => by rw [h]; exact .refused e (.inl hstep) (.inl hfail)
  obtain ⟨v, hfiled⟩ := h
  rw [Store.remaining_of_staying (by simpa using hstaying)] at hfiled
  have hr := rewritten_replacement p (Lifecycle.policy.guarded p) rfl rfl rfl v
  exact .guarded hstep hfiled hr (by simp; rfl) rfl

theorem ends_link (hstep : step p = .link) :
    Ends (link p >>= fun linked => discard (ClusterM.replace linked)) pl.cluster
      (fun _ c' => Driven key p pl.cluster (.ok .ownerLinked) c')
      fun e c' => Driven key p pl.cluster (.error e) c' := by
  have hstaying : p.metadata.isDeleting = false := (Observed.step_of_link hstep).1
  have unlinkable : ∀ e, (∀ owner, ¬ Linkable p pl.cluster owner) →
      Driven key p pl.cluster (.error e) pl.cluster :=
    fun e h => .refused e (.inr hstep) (.inr ⟨hstep, h⟩)
  unfold link
  simp only [ends_bind, ends_liftM, ClusterM.ends_get?]
  split
  · next kind hkind =>
    split
    · next hnone =>
      refine unlinkable _ ?_
      rintro owner ⟨kind', tool, hkind', htool, -⟩
      simp_all
    · next tool htool =>
      split
      · next hnone =>
        refine unlinkable _ ?_
        rintro owner ⟨kind', tool', hkind', htool', h⟩
        simp_all
      · next owner howner =>
        refine ends_discard.2 ((ClusterM.ends_replace (o := withOwner p owner)
          ((Object.key_congr rfl rfl).trans hkey) hget fun _ h => h).mono
          (fun _ c' h => ?_) fun e c' h => by
            rw [h.2]; exact .refused e (.inr hstep) (.inl h.1))
        obtain ⟨v, hfiled⟩ := h
        rw [Store.remaining_of_staying (by simpa using hstaying)] at hfiled
        have hr := rewritten_replacement p (withOwner p owner) rfl rfl rfl v
        exact .linked hstep hfiled hr (by simp; rfl) ⟨kind, tool, hkind, htool, howner⟩ rfl
  · refine unlinkable _ ?_
    rintro owner ⟨kind, tool, hkind, -⟩
    simp_all

theorem ends_finalize (hstep : step p = .finalize) :
    Ends (cleanup p >>= fun _ => discard (ClusterM.replace (Lifecycle.policy.unguarded p)))
      pl.cluster (fun _ c' => Driven key p pl.cluster (.ok .finalized) c')
      fun e c' => Driven key p pl.cluster (.error e) c' := by
  refine ends_bind.2 ((ends_cleanup p pl.cluster).mono (fun _ c₁ hswept => ?_)
    fun e c' h => h.elim fun _ h => .cleanupStopped e (.inl hstep) h.1 h.2)
  have hget₁ : (c₁.store .policy).objects.get? key = some p := by rw [hswept.policies, hget]
  refine ends_discard.2 ((ClusterM.ends_replace (Lifecycle.key_unguarded _ p hkey) hget₁
    fun _ h => h).mono (fun _ c' h => ?_) fun e c' h => ?_)
  · obtain ⟨v, hfiled⟩ := h
    refine .finalized hstep hswept hfiled fun p' hp' => ?_
    obtain rfl := Store.eq_of_remaining hp'
    exact ⟨rewritten_replacement p (Lifecycle.policy.unguarded p) rfl rfl rfl v, by simp; rfl⟩
  · rw [h.2]
    exact .unwritten e (.inl hstep) hswept h.1

theorem ends_disable (hstep : step p = .disable) :
    Ends (disable p) pl.cluster (fun _ c' => Driven key p pl.cluster (.ok .disabled) c')
      fun e c' => Driven key p pl.cluster (.error e) c' := by
  unfold disable
  refine ends_bind.2 ((ends_cleanup p pl.cluster).mono (fun _ c₁ hswept => ?_)
    fun e c' h => h.elim fun _ h => .cleanupStopped e (.inr hstep) h.1 h.2)
  have hget₁ : (c₁.store .policy).objects.get? key = some p := by rw [hswept.policies, hget]
  rw [ends_bind, ClusterM.ends_now]
  refine (ends_publish hget₁ hkey).mono (fun _ c' h => ?_) fun e c' h => ?_
  · obtain ⟨p', hfiled, h⟩ := h
    exact .disabled hstep hswept hfiled h
  · rw [h.2]
    exact .unwritten e (.inr hstep) hswept h.1

theorem ends_sync (hstep : step p = .sync) :
    Ends (sync p) pl
      (fun d pl' => Driven key p pl.cluster (.ok (.synced d)) pl'.cluster)
      fun e pl' => Driven key p pl.cluster (.error e) pl'.cluster := by
  unfold sync
  cases hengine : engineFor p with
  | error e =>
    simp only [ends_bind]
    refine (ends_recordFailure hget hkey _ _ e).mono (fun _ pl' h => ?_) fun _ _ h => h.elim
    obtain ⟨p', hfiled, h⟩ := h
    exact .invalid e hstep hengine hfiled h
  | ok kind =>
    obtain ⟨-, hvalid⟩ := kind_of_engineFor hengine
    simp only [ends_bind, PlatformM.ends_attempt, PlatformM.ends_onCluster]
    have hreconcile : Ends (reconcile kind p) pl.cluster
        (fun _ c₁ => (pl.cluster.store kind.artifact).All Object.Plain → InLine kind p c₁)
        fun _ c₁ => (pl.cluster.store kind.artifact).All Object.Plain →
          (pl.cluster.store kind.artifact).failing = true ∧
            (InLine kind p pl.cluster → InLine kind p c₁) := by
      by_cases hplain : (pl.cluster.store kind.artifact).All Object.Plain
      · exact (ends_reconcile hkey hvalid hplain).mono (fun _ _ h _ => h) fun _ _ h _ => h
      · exact ends_true.mono (fun _ _ _ h => absurd h hplain) fun _ _ _ h => absurd h hplain
    refine ((keeps_reworked_reconcile kind hkey).ends hreconcile).mono (fun _ c₁ h₁ => ?_)
      fun e c₁ h₁ => ?_
    all_goals
      have hpolicies : (c₁.store .policy).objects.get? key = some p := by
        rw [h₁.2.confined.store _ (by simpa using artifact_ne_policy.symm), hget]
    · obtain ⟨hin, hr⟩ := h₁
      have hpublish : ∀ report c₂, Reported (Artifact.report p kind) report c₁ c₂ →
          Ends (publish p (syncedStatus p report c₂.clock)) c₂
            (fun _ c' => Driven key p pl.cluster (.ok (.synced none)) c')
            fun e c' => Driven key p pl.cluster (.error e) c' := fun report c₂ hreport => by
        have hget₂ : (c₂.store .policy).objects.get? key = some p := by
          rw [hreport.confined.store _ (by simp), hpolicies]
        refine (ends_publish hget₂ hkey).mono (fun _ c' h => ?_) fun e c' h => ?_
        · obtain ⟨p', hfiled, h⟩ := h
          exact .synced hstep hengine hr hin hreport hfiled h
        · rw [h.2]
          exact .unpublished e hstep hengine hr hin hreport h.1
      exact (ends_ensureReport (key_report kind hkey) rfl c₁).mono
        (fun name c₂ h => hpublish (some name) c₂ h) fun _ c₂ h => hpublish none c₂ h
    · obtain ⟨hstopped, hr⟩ := h₁
      have hpolicies' : (({ pl with cluster := c₁ } : Platform).cluster.store .policy).objects.get?
          key = some p := hpolicies
      refine (ends_recordFailure hpolicies' hkey _ _ e).mono (fun _ pl' h => ?_)
        fun _ _ h => h.elim
      obtain ⟨p', hfiled, h⟩ := h
      exact .reconcileStopped e hstep hengine hr hstopped hfiled h

omit hget hkey in
theorem cleanup_policy : Lifecycle.policy.cleanup p = PlatformM.onCluster (cleanup p) := rfl

omit hget hkey in
theorem link_policy : Lifecycle.policy.link p = PlatformM.onCluster (link p) := rfl

omit hget hkey in
theorem disable_policy : Lifecycle.policy.disable p = PlatformM.onCluster (disable p) := rfl

omit hget hkey in
theorem sync_policy : Lifecycle.policy.sync p = sync p := rfl

/-- Driving the stored policy does one of the things that `Driven` lists. -/
theorem ends_drive :
    Ends (Lifecycle.policy.drive p) pl
      (fun t pl' => Driven key p pl.cluster (.ok t) pl'.cluster)
      fun e pl' => Driven key p pl.cluster (.error e) pl'.cluster := by
  unfold Lifecycle.drive
  split
  · next hstep =>
    have h := ends_finalize hget hkey hstep
    simp only [ends_bind] at h
    simpa only [cleanup_policy, ends_bind, ends_discard, ends_pure,
      PlatformM.ends_onCluster] using h
  · next hstep => exact .released hstep
  · next hstep =>
    have h := ends_guard hget hkey hstep
    simpa only [ends_bind, ends_discard, ends_pure, PlatformM.ends_onCluster] using h
  · next hstep =>
    have h := ends_link hget hkey hstep
    simp only [ends_bind] at h
    simpa only [link_policy, ends_bind, ends_discard, ends_pure,
      PlatformM.ends_onCluster] using h
  · next hstep =>
    have h := ends_disable hget hkey hstep
    simpa only [disable_policy, ends_bind, ends_discard, ends_pure,
      PlatformM.ends_onCluster] using h
  · next hstep =>
    have h := ends_sync hget hkey hstep
    simpa only [sync_policy, ends_bind, ends_pure] using h

end

/-! ## What follows for the stores -/

section
variable {kind : ToolKind} {r : Except Error Transition}

theorem artifact_of_filed {o? : Option Policy} (h : Filed key o? c c') :
    c'.store kind.artifact = c.store kind.artifact :=
  h.store artifact_ne_policy

theorem artifact_of_reported {desired : PolicyReport} {report : Option String}
    (h : Reported desired report c c') : c'.store kind.artifact = c.store kind.artifact :=
  h.confined.store _ (by simpa using artifact_ne_policyReport)

theorem Swept.old (h : Swept p c c') (hplain : (c.store kind.artifact).All Object.Plain) {key : Key}
    {o : Object kind.artifact} (hget : (c'.store kind.artifact).objects.get? key = some o) :
    (c.store kind.artifact).objects.get? key = some o := by
  obtain ⟨_, -, h⟩ | ⟨-, rfl⟩ := h
  · exact h.old hplain hget
  · exact hget

/-- An artifact that is there after a policy was driven was there before, or the policy was up for a
sync and the artifact is its own. -/
theorem Driven.made (h : Driven key p c r c') (hplain : (c.store kind.artifact).All Object.Plain)
    {key' : Key} {o : Object kind.artifact}
    (hget : (c'.store kind.artifact).objects.get? key' = some o) :
    (c.store kind.artifact).objects.get? key' = some o ∨
      step p = .sync ∧ engineFor p = .ok kind ∧ Rendered kind key key' o := by
  have reworked : ∀ {kind₁ c₁}, step p = .sync → engineFor p = .ok kind₁ →
      Reworked kind₁ key c c₁ → (c₁.store kind.artifact).objects.get? key' = some o →
      (c.store kind.artifact).objects.get? key' = some o ∨
        step p = .sync ∧ engineFor p = .ok kind ∧ Rendered kind key key' o := by
    intro kind₁ c₁ hstep hengine hr hget₁
    by_cases he : kind = kind₁
    · subst he
      exact (hr.made hplain key' o hget₁).imp_right fun hnew => ⟨hstep, hengine, hnew⟩
    · exact .inl (by rwa [hr.store he] at hget₁)
  cases h with
  | refused | released => exact .inl hget
  | guarded _ hfiled | linked _ hfiled | invalid _ _ _ hfiled =>
    exact .inl (by rwa [artifact_of_filed hfiled] at hget)
  | cleanupStopped _ _ _ h =>
    obtain rfl | h := h.done
    · exact .inl hget
    · exact .inl (h.old hplain hget)
  | unwritten _ _ hswept => exact .inl (hswept.old hplain hget)
  | finalized _ hswept hfiled | disabled _ hswept hfiled =>
    exact .inl (hswept.old hplain (by rwa [artifact_of_filed hfiled] at hget))
  | reconcileStopped _ hstep hengine hr _ hfiled =>
    exact reworked hstep hengine hr (by rwa [artifact_of_filed hfiled] at hget)
  | unpublished _ hstep hengine hr _ hreport =>
    exact reworked hstep hengine hr (by rwa [artifact_of_reported hreport] at hget)
  | synced hstep hengine hr _ hreport hfiled =>
    exact reworked hstep hengine hr
      (by rwa [artifact_of_filed hfiled, artifact_of_reported hreport] at hget)

/-- Driving keeps what holds of all artifacts when it holds of those of the policy. -/
theorem Driven.all_artifacts {P : Key → Object kind.artifact → Prop} (h : Driven key p c r c')
    (hplain : (c.store kind.artifact).All Object.Plain) (hc : (c.store kind.artifact).All P)
    (hP : ∀ key' o, Rendered kind key key' o → P key' o) : (c'.store kind.artifact).All P :=
  fun key' o hget => (h.made hplain hget).elim (hc key' o) fun hnew => hP key' o hnew.2.2

theorem Swept.plain_reports (h : Swept p c c')
    (hc : (c.store .policyReport).All Object.Plain) :
    (c'.store .policyReport).All Object.Plain := by
  obtain ⟨_, -, h⟩ | ⟨-, rfl⟩ := h
  · obtain ⟨_, h⟩ := h.reports
    exact h.plain hc
  · exact hc

theorem Driven.plain_reports (h : Driven key p c r c')
    (hc : (c.store .policyReport).All Object.Plain) :
    (c'.store .policyReport).All Object.Plain := by
  have filed : ∀ {c₁ : Cluster} {o? : Option Policy}, Filed key o? c₁ c' →
      (c₁.store .policyReport).All Object.Plain → (c'.store .policyReport).All Object.Plain :=
    fun hfiled h => by rwa [hfiled.store (by decide)]
  cases h with
  | refused | released => exact hc
  | guarded _ hfiled | linked _ hfiled | invalid _ _ _ hfiled => exact filed hfiled hc
  | cleanupStopped _ _ _ h =>
    obtain rfl | h := h.done
    · exact hc
    · obtain ⟨_, h⟩ := h.reports
      exact h.plain hc
  | unwritten _ _ hswept => exact hswept.plain_reports hc
  | finalized _ hswept hfiled | disabled _ hswept hfiled =>
    exact filed hfiled (hswept.plain_reports hc)
  | reconcileStopped _ _ _ hr _ hfiled => exact filed hfiled (hr.plain_reports hc)
  | unpublished _ _ _ hr _ hreport => exact hreport.plain (hr.plain_reports hc)
  | synced _ _ hr _ hreport hfiled =>
    exact filed hfiled (hreport.plain (hr.plain_reports hc))

/-- Driving touches no other policy. -/
theorem Driven.other (h : Driven key p c r c') {key' : Key} (hne : key' ≠ key) :
    (c'.store .policy).objects.get? key' = (c.store .policy).objects.get? key' := by
  have reworked : ∀ {kind c₁}, Reworked kind key c c₁ → c₁.store .policy = c.store .policy :=
    fun {_ _} hr => hr.confined.store _ (by simpa using artifact_ne_policy.symm)
  cases h with
  | refused | released => rfl
  | guarded _ hfiled | linked _ hfiled | invalid _ _ _ hfiled => exact hfiled.other hne
  | cleanupStopped _ _ _ h =>
    obtain rfl | h := h.done
    · rfl
    · rw [h.confined.store _ (by simpa using artifact_ne_policy.symm)]
  | unwritten _ _ hswept => rw [hswept.policies]
  | finalized _ hswept hfiled | disabled _ hswept hfiled =>
    rw [hfiled.other hne, hswept.policies]
  | reconcileStopped _ _ _ hr _ hfiled => rw [hfiled.other hne, reworked hr]
  | unpublished _ _ _ hr _ hreport => rw [hreport.confined.store _ (by simp), reworked hr]
  | synced _ _ hr _ hreport hfiled =>
    rw [hfiled.other hne, hreport.confined.store _ (by simp), reworked hr]

/-- What is stored of a driven policy afterwards is that policy. -/
theorem Driven.revised (h : Driven key p c r c')
    (hget : (c.store .policy).objects.get? key = some p)
    (hget' : (c'.store .policy).objects.get? key = some p') : Revised p p' := by
  have same : c'.store .policy = c.store .policy → Revised p p' := fun he => by
    obtain rfl : p = p' := by simpa [he, hget] using hget'
    exact .rfl
  have filed : ∀ {c₁ : Cluster} {q : Policy}, Filed key (some q) c₁ c' → q = p' :=
    fun hfiled => by simpa [hfiled.self] using hget'
  cases h with
  | refused | released => exact same rfl
  | guarded _ hfiled hr | linked _ hfiled hr =>
    obtain rfl := filed hfiled
    exact hr.toRevised
  | cleanupStopped _ _ _ hstopped =>
    obtain rfl | hcleaned := hstopped.done
    · exact same rfl
    · exact same (hcleaned.confined.store _ (by simpa using artifact_ne_policy.symm))
  | unwritten _ _ hswept => exact same hswept.policies
  | finalized _ _ hfiled hr => exact (hr p' (hfiled.self.symm.trans hget')).1.toRevised
  | disabled _ _ hfiled hr | synced _ _ _ _ _ hfiled hr =>
    obtain rfl := filed hfiled
    exact hr.toRevised
  | invalid _ _ _ hfiled hr | reconcileStopped _ _ _ _ _ hfiled hr =>
    obtain rfl := filed hfiled
    obtain rfl | hr := hr
    · exact .rfl
    · exact hr.toRevised
  | unpublished _ _ _ hreworked _ hreport =>
    exact same (by
      rw [hreport.confined.store _ (by simp),
        hreworked.confined.store _ (by simpa using artifact_ne_policy.symm)])

/-- Driving a policy with the operator's finalizer leaves the policy with it, or everything of the
declared kind was cleaned up before. -/
theorem Driven.guarded_or_swept (h : Driven key p c r c')
    (hget : (c.store .policy).objects.get? key = some p)
    (hguard : finalizer ∈ p.metadata.guards) :
    (∃ p', (c'.store .policy).objects.get? key = some p' ∧ Revised p p' ∧
        finalizer ∈ p'.metadata.guards) ∨
      step p = .finalize ∧ ∃ c₁, Swept p c c₁ ∧
        ∀ kind : ToolKind, c'.store kind.artifact = c₁.store kind.artifact := by
  have same : (c'.store .policy).objects.get? key = some p →
      ∃ p', (c'.store .policy).objects.get? key = some p' ∧ Revised p p' ∧
        finalizer ∈ p'.metadata.guards := fun h => ⟨p, h, .rfl, hguard⟩
  have restated : ∀ {c₁ : Cluster} {p' : Policy}, Filed key (some p') c₁ c' →
      (p' = p ∨ ∃ status, Restated status p p') →
      ∃ p', (c'.store .policy).objects.get? key = some p' ∧ Revised p p' ∧
        finalizer ∈ p'.metadata.guards := by
    rintro c₁ p' hfiled (rfl | ⟨status, hr⟩)
    · exact ⟨p', hfiled.self, .rfl, hguard⟩
    · exact ⟨p', hfiled.self, hr.toRevised, by rwa [hr.guards]⟩
  cases h with
  | refused | released => exact .inl (same hget)
  | guarded _ hfiled hr hguards =>
    exact .inl ⟨_, hfiled.self, hr.toRevised, by rw [hguards]; exact List.mem_append_left _ hguard⟩
  | linked _ hfiled hr hguards =>
    exact .inl ⟨_, hfiled.self, hr.toRevised, by rwa [hguards]⟩
  | cleanupStopped _ _ _ hstopped =>
    obtain rfl | hcleaned := hstopped.done
    · exact .inl (same hget)
    · exact .inl (same (by
        rw [hcleaned.confined.store _ (by simpa using artifact_ne_policy.symm), hget]))
  | unwritten _ _ hswept => exact .inl (same (by rw [hswept.policies, hget]))
  | finalized hstep hswept hfiled _ =>
    exact .inr ⟨hstep, _, hswept, fun _ => artifact_of_filed hfiled⟩
  | disabled _ _ hfiled hr => exact .inl (restated hfiled (.inr ⟨_, hr⟩))
  | invalid _ _ _ hfiled hr | reconcileStopped _ _ _ _ _ hfiled hr =>
    exact .inl (restated hfiled (hr.imp_right fun hr => ⟨_, hr⟩))
  | unpublished _ _ _ hreworked _ hreport =>
    exact .inl (same (by
      rw [hreport.confined.store _ (by simp),
        hreworked.confined.store _ (by simpa using artifact_ne_policy.symm), hget]))
  | synced _ _ _ _ _ hfiled hr => exact .inl (restated hfiled (.inr ⟨_, hr⟩))

end

end PolicyOperator.PolicyLifecycle
