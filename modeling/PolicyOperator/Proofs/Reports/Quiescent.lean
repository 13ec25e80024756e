import PolicyOperator.Proofs.Engine.Rendered
import PolicyOperator.Proofs.Reports.Published
import PolicyOperator.Proofs.Reports.Reviewed
import PolicyOperator.Proofs.Reports.Scanned

/-!
# Reports at rest

A report on scans or on experiments is brought up to date once, and then rests: as long as nobody
touches the report, its policy and the results of scans, further calls answer as the first one did
and write nothing (`quiescent`). Whatever else is stored may change in between, and so may the time
of day.

* What the handler publishes and answers is a function of the report, the policy and the results
  (`due`, `handle_eq_post`).
* The status comes back from the store without fractions of a second. What is due with it is that
  status again (`due_restated`), for the new status either does not depend on the old one, or is the
  old one with its phase set to running. So a call leaves a report that `Rests` (`rested_post`), and
  at rest a call changes nothing (`Rests.handle`).
* Others that leave alone what `Untouched` names leave the report at rest (`Quiet.untouched`).
-/

namespace PolicyOperator

namespace ReportHandler

open Cluster

variable {r r' : PolicyReport} {p : Policy} {key : Key} {c c' : Cluster} {status : ReportStatus}
  {answer : Except Failure Unit}

/-! ## What is due -/

/-- The status that the handler publishes, and what it answers then; or why it does not. -/
def due (r : PolicyReport) (p : Policy) (c : Cluster) :
    Except Failure (ReportStatus × Except Failure Unit) :=
  match ToolKind.ofName r.spec.type, p.spec.typed with
  | .ok .trivy, .ok (.trivy spec) =>
    let results := resultsFor c r (spec.expectedJobs p)
    if results.isEmpty then
      .ok ({ r.status.getD {} with phase := .running },
        .error (.error (.notReady s!"no scan results for policy {p.displayName} yet")))
    else
      match scannedStatus? results with
      | some status => .ok (status, .ok ())
      | none => .error .overflow
  | .ok .litmus, .ok (.litmus spec) => .ok (experimentsStatus spec, .ok ())
  | .error e, _ => .error (.error e)
  | .ok _, .error e => .error (.error e)
  | .ok kind, .ok _ =>
    .error (.error (.validation s!"{kind.name} report requires a {kind.name} policy"))

/-- Publishes what is due, and answers. -/
def post (r : PolicyReport) :
    Except Failure (ReportStatus × Except Failure Unit) → ExceptT Failure (StateM Cluster) Unit
  | .error e => throw e
  | .ok (status, answer) => do
    discard (publish r status)
    answer

theorem post_done (r : PolicyReport) (status : ReportStatus) (c : Cluster) :
    post r (.ok (status, .ok ())) c =
      (discard (publish r status) : ExceptT Failure (StateM Cluster) Unit) c := by
  show ((discard (publish r status) : ExceptT Failure (StateM Cluster) Unit) >>=
    fun _ => liftM (Except.ok ())) c = _
  rw [run_bind]
  rcases (discard (publish r status) : ExceptT Failure (StateM Cluster) Unit) c with ⟨e | _, c'⟩ <;>
    rfl

theorem handleTrivy_eq_post (htype : ToolKind.ofName r.spec.type = .ok .trivy) (c : Cluster) :
    handleTrivy r p c = post r (due r p c) c := by
  unfold due
  rw [htype]
  rcases hspec : p.spec.typed with e | part
  · unfold handleTrivy
    rw [hspec]
    rfl
  · cases part with
    | falco | litmus =>
      unfold handleTrivy
      rw [hspec]
      rfl
    | trivy spec =>
      dsimp only
      split
      · next hnone => exact handleTrivy_of_nil hspec (List.isEmpty_iff.1 hnone)
      · next hsome =>
        cases hstatus : scannedStatus? (resultsFor c r (spec.expectedJobs p)) with
        | none => exact handleTrivy_of_not_fits hspec (scannedStatus?_eq_none_iff.1 hstatus)
        | some status =>
          rw [post_done]
          exact handleTrivy_of_scannedStatus? hspec (fun h => hsome (List.isEmpty_iff.2 h)) hstatus

theorem handleLitmus_of_typed {spec : LitmusSpec} (hspec : p.spec.typed = .ok (.litmus spec)) :
    handleLitmus r p c = (discard (publish r (experimentsStatus spec)) : ClusterM Unit) c := by
  unfold handleLitmus
  rw [hspec]
  have hpart : (liftM (Except.ok (.litmus spec) : Except Error Section) : ClusterM Section) c =
      (.ok (.litmus spec), c) := rfl
  exact run_bind_of_ok hpart _

theorem handleLitmus_eq_post (htype : ToolKind.ofName r.spec.type = .ok .litmus) (c : Cluster) :
    (liftM (handleLitmus r p) : ExceptT Failure (StateM Cluster) Unit) c =
      post r (due r p c) c := by
  unfold due
  rw [htype]
  rcases hspec : p.spec.typed with e | part
  · unfold handleLitmus
    rw [hspec]
    rfl
  · cases part with
    | falco | trivy =>
      unfold handleLitmus
      rw [hspec]
      rfl
    | litmus spec =>
      rw [post_done, run_discard, run_liftM_failure, run_liftM_failure,
        handleLitmus_of_typed hspec, run_discard]
      rcases publish r (experimentsStatus spec) c with ⟨e | b, c'⟩ <;> rfl

theorem handle_eq_post (refresh : Duration) (hkind : ToolKind.ofName r.spec.type ≠ .ok .falco)
    (pl : Platform) :
    handle refresh r p pl = PlatformM.onCluster (post r (due r p pl.cluster)) pl := by
  rcases htype : ToolKind.ofName r.spec.type with e | kind
  · unfold handle due
    rw [htype]
    rfl
  · cases kind with
    | falco => exact absurd htype hkind
    | trivy =>
      unfold handle PlatformM.onCluster
      rw [htype, ← handleTrivy_eq_post htype]
      rfl
    | litmus =>
      unfold handle PlatformM.onCluster
      rw [htype, ← handleLitmus_eq_post htype]
      rfl

/-! ## Rest -/

/-- Nothing is left to publish, and the handler answers so. -/
inductive Rests (r : PolicyReport) (p : Policy) (c : Cluster) : Except Failure Unit → Prop
  | refused {e : Failure} : due r p c = .error e → Rests r p c (.error e)
  | shown {status : ReportStatus} {answer : Except Failure Unit} :
      due r p c = .ok (status, answer) → Shows r status → Rests r p c answer

theorem post_of_shows (h : Shows r status) (answer : Except Failure Unit) (c : Cluster) :
    post r (.ok (status, answer)) c = (answer, c) := by
  have hpublish : (discard (publish r status) : ExceptT Failure (StateM Cluster) Unit) c =
      (.ok (), c) := by
    rw [run_discard, run_liftM_failure, publish_of_shows h]
    rfl
  refine (run_bind_of_ok hpublish _).trans ?_
  cases answer <;> rfl

/-- At rest a call changes nothing. -/
theorem Rests.handle {pl : Platform} (h : Rests r p pl.cluster answer) (refresh : Duration)
    (hkind : ToolKind.ofName r.spec.type ≠ .ok .falco) :
    ReportHandler.handle refresh r p pl = (answer, pl) := by
  rw [handle_eq_post refresh hkind]
  refine PlatformM.run_onCluster ?_
  cases h with
  | refused hdue =>
    rw [hdue]
    rfl
  | shown hdue hshows => rw [hdue, post_of_shows hshows]

/-- What the handlers read of a report besides its status. -/
structure Akin (r r' : PolicyReport) : Prop where
  spec : r'.spec = r.spec
  name : r'.metadata.name = r.metadata.name
  ns : r'.metadata.ns = r.metadata.ns

/-- The results of scans are the same. -/
def SameResults (c c' : Cluster) : Prop :=
  (c'.store .vulnerabilityReport).objects = (c.store .vulnerabilityReport).objects

theorem resultsFor_congr (hakin : Akin r r') (hresults : SameResults c c') (jobs : List String) :
    resultsFor c' r' jobs = resultsFor c r jobs := by
  have hlist : ∀ ns, (c'.store .vulnerabilityReport).list ns ∅ =
      (c.store .vulnerabilityReport).list ns ∅ := fun ns => by
    rw [Store.list, Store.list, hresults]
  have hns : r'.metadata.nsOrEmpty = r.metadata.nsOrEmpty := by
    rw [Metadata.nsOrEmpty, Metadata.nsOrEmpty, hakin.ns]
  unfold resultsFor
  rw [hns]
  exact congrArg (List.filter _) (hlist _)

theorem due_congr (hresults : SameResults c c') : due r p c' = due r p c := by
  have hakin : Akin r r := ⟨rfl, rfl, rfl⟩
  simp only [due, resultsFor_congr hakin hresults]

/-- The status that sums up results has no fractions of a second. -/
theorem wholeSeconds_of_scannedStatus? {results : List VulnerabilityReport}
    (h : scannedStatus? results = some status) : status.wholeSeconds = status := by
  simp only [scannedStatus?, Option.bind_eq_bind, Option.pure_def, Option.bind_eq_some_iff,
    Option.some.injEq] at h
  obtain ⟨_, -, _, -, rfl⟩ := h
  rfl

/-- What is due with the status that is due, as it is stored, is that status again. -/
theorem due_restated (hakin : Akin r r') (hresults : SameResults c c')
    (hdue : due r p c = .ok (status, answer)) (hstatus : r'.status = some status.wholeSeconds) :
    due r' p c' = .ok (status.wholeSeconds, answer) := by
  unfold due at hdue ⊢
  rw [hakin.spec]
  -- only a section of the report's own kind is served
  split at hdue
  case h_1 spec _ _ =>
    dsimp only at hdue ⊢
    rw [resultsFor_congr hakin hresults]
    split at hdue
    · next hnone =>
      cases hdue
      rw [if_pos hnone, hstatus]
      rfl
    · next hsome =>
      rw [if_neg hsome]
      split at hdue
      · next status' hscanned =>
        cases hdue
        rw [wholeSeconds_of_scannedStatus? hscanned]
      · cases hdue
  case h_2 =>
    cases hdue
    rfl
  all_goals cases hdue

theorem akin_withStatus (r : PolicyReport) (status : ReportStatus) (version : Nat) :
    Akin r (Store.withStatus r { r with status := some status } version) := ⟨rfl, rfl, rfl⟩

/-- The section declares scans whose results add up to more than a word holds. -/
def Exceeds (r : PolicyReport) (p : Policy) (part : Section) (c : Cluster) : Prop :=
  ∃ spec, part = .trivy spec ∧ ¬ Fits (resultsFor c r (spec.expectedJobs p))

/-- With the section that the policy declares a status is due, and the report is brought up to date
or waits for results; or else it has results whose sums exceed a word. -/
theorem due_of_typed {part : Section} (htype : r.spec.type = p.spec.type)
    (hkind : ToolKind.ofName r.spec.type ≠ .ok .falco) (htyped : p.spec.typed = .ok part)
    (c : Cluster) :
    (∃ status answer, due r p c = .ok (status, answer) ∧
      (answer = .ok () ∨ ∃ text, answer = .error (.error (.notReady text)))) ∨
    due r p c = .error .overflow ∧ Exceeds r p part c := by
  obtain ⟨kind, hofName, hsection⟩ := PolicySpec.sectionOf_of_typed htyped
  rw [htype] at hkind
  unfold due
  rw [htype, show ToolKind.ofName p.spec.type = .ok kind from hofName, htyped]
  cases kind with
  | falco => exact absurd hofName hkind
  | trivy =>
    obtain ⟨spec, -, rfl⟩ := Option.map_eq_some_iff.1 hsection
    dsimp only
    split
    · exact .inl ⟨_, _, rfl, .inr ⟨_, rfl⟩⟩
    · cases hstatus : scannedStatus? (resultsFor c r (spec.expectedJobs p)) with
      | some status => exact .inl ⟨_, _, rfl, .inl rfl⟩
      | none => exact .inr ⟨rfl, spec, rfl, scannedStatus?_eq_none_iff.1 hstatus⟩
  | litmus =>
    obtain ⟨spec, -, rfl⟩ := Option.map_eq_some_iff.1 hsection
    exact .inl ⟨_, _, rfl, .inl rfl⟩

/-- The report was filed again, or not touched, and is at rest. -/
def Rested (r : PolicyReport) (p : Policy) (key : Key) (c : Cluster) (answer : Except Failure Unit)
    (c' : Cluster) : Prop :=
  ∃ r', Akin r r' ∧ Cluster.Filed key (some r') c c' ∧ Rests r' p c' answer

/-- A call with working writes leaves a report at rest. -/
theorem rested_post (hkey : r.key = .ok key)
    (hstored : (c.store .policyReport).objects.get? key = some r)
    (hworking : (c.store .policyReport).failing = false) :
    Rested r p key c (post r (due r p c) c).1 (post r (due r p c) c).2 := by
  rcases hdue : due r p c with e | ⟨status, answer⟩
  · exact ⟨r, ⟨rfl, rfl, rfl⟩, Filed.rfl hstored, .refused hdue⟩
  · by_cases hshows : Shows r status
    · rw [post_of_shows hshows]
      exact ⟨r, ⟨rfl, rfl, rfl⟩, Filed.rfl hstored, .shown hdue hshows⟩
    · refine Ends.run (x := post r (.ok (status, answer)))
        (ends_bind.2 (ends_discard.2 (ends_liftM_failure.2 ?_)))
      refine (ends_publish_of_not_shows hshows hkey hstored).mono (fun _ c' h => ?_)
        fun e c' h => absurd h.1 (by simp [hworking])
      obtain ⟨version, hfiled⟩ := h.filed
      have hakin := akin_withStatus r status version
      have hagain := due_restated hakin (congrArg Store.objects (hfiled.store (by decide))) hdue rfl
      have hshown : Rested r p key c answer c' := ⟨_, hakin, hfiled, .shown hagain rfl⟩
      cases answer <;> exact hshown

/-- With working writes the answer is the one that is due. -/
theorem answer_post (hkey : r.key = .ok key)
    (hstored : (c.store .policyReport).objects.get? key = some r)
    (hworking : (c.store .policyReport).failing = false) (status : ReportStatus)
    (answer : Except Failure Unit) : (post r (.ok (status, answer)) c).1 = answer := by
  by_cases hshows : Shows r status
  · rw [post_of_shows hshows]
  · refine Ends.run (x := post r (.ok (status, answer))) (P := fun a _ => a = answer)
      (ends_bind.2 (ends_discard.2 (ends_liftM_failure.2 ?_)))
    refine (ends_publish_of_not_shows hshows hkey hstored).mono (fun _ _ _ => ?_)
      fun e c' h => absurd h.1 (by simp [hworking])
    cases answer <;> rfl

end ReportHandler

/-! ## Runs -/

namespace Controller

open Cluster ReportHandler

variable {settings : Settings} {r : PolicyReport} {p : Policy} {key : Key} {c c' : Cluster}
  {pl pl' pl'' : Platform}

/-- The report, its policy and the results of scans are as they were. -/
structure Untouched (r : PolicyReport) (c c' : Cluster) : Prop where
  report : (c'.store .policyReport).objects.get? (place r) =
    (c.store .policyReport).objects.get? (place r)
  policy : policyOf r c' = policyOf r c
  results : SameResults c c'

/-- The stored report is read and reconciled again and again. In between others do what they like,
but leave alone what the report shows. -/
inductive Course (settings : Settings) (r : PolicyReport) (pl : Platform) : Platform → Prop
  | start : Course settings r pl pl
  | call {pl' : Platform} {r' : PolicyReport} : Course settings r pl pl' →
      (pl'.cluster.store .policyReport).objects.get? (place r) = some r' →
      Course settings r pl (reconcileReport settings r' pl').2
  | others {pl' pl'' : Platform} : Course settings r pl pl' →
      Untouched r pl'.cluster pl''.cluster → Course settings r pl pl''

/-- What a call with a policy comes to. -/
def answered (settings : Settings) (answer : Except Failure Unit) : Except Failure Requeue :=
  answer.map fun _ => some settings.reports.refresh

theorem reconcileReport_of_policy (hpolicy : policyOf r pl.cluster = some p)
    {answer : Except Failure Unit} (h : handle settings.reports.refresh r p pl = (answer, pl')) :
    reconcileReport settings r pl = (answered settings answer, pl') := by
  have hread : PlatformM.onCluster (liftM
      (ClusterM.get? .policy r.metadata.nsOrEmpty r.spec.policyRef.name)) pl =
      ((.ok (some p) : Except Failure (Option Policy)), pl) :=
    PlatformM.run_onCluster (r := .ok (some p)) (c := pl.cluster) (by
      rw [run_liftM_failure, ← hpolicy]
      rfl)
  rw [reconcileReport, run_bind_of_ok hread]
  cases answer with
  | ok _ => exact run_bind_of_ok h _
  | error e => exact run_bind_of_error h _

/-- The report of a policy, other than a sampled one, gets what is due. -/
theorem reconcileReport_of_post (hpolicy : policyOf r pl.cluster = some p)
    (hkind : ToolKind.ofName r.spec.type ≠ .ok .falco) :
    reconcileReport settings r pl =
      (answered settings (post r (due r p pl.cluster) pl.cluster).1,
        { pl with cluster := (post r (due r p pl.cluster) pl.cluster).2 }) :=
  reconcileReport_of_policy hpolicy
    ((handle_eq_post settings.reports.refresh hkind pl).trans (PlatformM.run_onCluster rfl))

/-- The report is stored with its policy, and at rest. -/
structure Quiet (r : PolicyReport) (p : Policy) (answer : Except Failure Unit) (pl : Platform) :
    Prop where
  stored : ∃ r', Akin r r' ∧ (pl.cluster.store .policyReport).objects.get? (place r) = some r' ∧
    Rests r' p pl.cluster answer
  policy : policyOf r pl.cluster = some p

theorem policyOf_congr {r' : PolicyReport} (hakin : Akin r r') (c : Cluster) :
    policyOf r' c = policyOf r c := by
  rw [policyOf, policyOf, Metadata.nsOrEmpty, Metadata.nsOrEmpty, hakin.ns, hakin.spec]

section

variable {answer : Except Failure Unit}

/-- Whoever reads the report and reconciles it gets the same answer, and nothing changes. -/
theorem Quiet.call (h : Quiet r p answer pl) (settings : Settings)
    (hkind : ToolKind.ofName r.spec.type ≠ .ok .falco) :
    ∃ r', (pl.cluster.store .policyReport).objects.get? (place r) = some r' ∧
      reconcileReport settings r' pl = (answered settings answer, pl) := by
  obtain ⟨r', hakin, hget, hrests⟩ := h.stored
  rw [← hakin.spec] at hkind
  exact ⟨r', hget, reconcileReport_of_policy ((policyOf_congr hakin _).trans h.policy)
    (hrests.handle settings.reports.refresh hkind)⟩

theorem Quiet.untouched (h : Quiet r p answer pl) (hsame : Untouched r pl.cluster pl'.cluster) :
    Quiet r p answer pl' := by
  obtain ⟨r', hakin, hget, hrests⟩ := h.stored
  refine ⟨⟨r', hakin, hsame.report.trans hget, ?_⟩, hsame.policy.trans h.policy⟩
  have hdue : due r' p pl'.cluster = due r' p pl.cluster := due_congr hsame.results
  cases hrests with
  | refused hrefused => exact .refused (hdue.trans hrefused)
  | shown hshown hshows => exact .shown (hdue.trans hshown) hshows

/-- A report at rest stays so, whoever does what. -/
theorem Quiet.course (h : Quiet r p answer pl) (hkind : ToolKind.ofName r.spec.type ≠ .ok .falco)
    (hrun : Course settings r pl pl') : Quiet r p answer pl' := by
  induction hrun with
  | start => exact h
  | call _ hget ih =>
    obtain ⟨r', hget', hcall⟩ := ih.call settings hkind
    obtain rfl := Option.some.inj (hget'.symm.trans hget)
    rw [hcall]
    exact ih
  | others _ hsame ih => exact ih.untouched hsame

/-- The first call brings the report to rest. -/
theorem quiet_reconcile (settings : Settings) (hkey : r.key = .ok key)
    (hstored : (pl.cluster.store .policyReport).objects.get? key = some r)
    (hpolicy : policyOf r pl.cluster = some p)
    (hkind : ToolKind.ofName r.spec.type ≠ .ok .falco)
    (hworking : (pl.cluster.store .policyReport).failing = false) :
    ∃ answer, (reconcileReport settings r pl).1 = answered settings answer ∧
      Quiet r p answer (reconcileReport settings r pl).2 := by
  obtain ⟨r', hakin, hfiled, hrests⟩ := rested_post (p := p) hkey hstored hworking
  rw [reconcileReport_of_post hpolicy hkind]
  refine ⟨_, rfl, ⟨r', hakin, ?_, hrests⟩, ?_⟩
  · rw [place_of_key hkey]
    exact hfiled.self
  · show policyOf r (post r (due r p pl.cluster) pl.cluster).2 = some p
    rw [policyOf, hfiled.store (by decide)]
    exact hpolicy

end

/-- A report on scans or on experiments rests from the first call on that can write: the next ones
answer as it did, whatever others do elsewhere, and change nothing. The first one brings the report
up to date or waits for results. It writes nothing if a sum of results exceeds a word. -/
theorem quiescent (settings : Settings) (hc : pl.cluster.Reached)
    (hstored : (pl.cluster.store .policyReport).objects.get? key = some r)
    (hpolicy : policyOf r pl.cluster = some p) (htype : r.spec.type = p.spec.type)
    (hkind : p.spec.kind = .ok .trivy ∨ p.spec.kind = .ok .litmus)
    (hworking : (pl.cluster.store .policyReport).failing = false) :
    (∀ part, p.spec.typed = .ok part →
      (reconcileReport settings r pl).1 = .ok (some settings.reports.refresh) ∨
      (∃ text, (reconcileReport settings r pl).1 = .error (.error (.notReady text))) ∨
      Exceeds r p part pl.cluster ∧ reconcileReport settings r pl = (.error .overflow, pl)) ∧
    ∀ pl', Course settings r (reconcileReport settings r pl).2 pl' →
      ∃ r', (pl'.cluster.store .policyReport).objects.get? key = some r' ∧
        reconcileReport settings r' pl' = ((reconcileReport settings r pl).1, pl') := by
  have hkey : r.key = .ok key := hc.filed .policyReport key r hstored
  have hother : ToolKind.ofName r.spec.type ≠ .ok .falco := by
    intro hfalco
    rw [htype] at hfalco
    rcases hkind with h | h <;> cases h.symm.trans hfalco
  refine ⟨fun part htyped => ?_, fun pl' hrun => ?_⟩
  · rw [reconcileReport_of_post hpolicy hother]
    obtain ⟨status, answer, hdue, hanswer⟩ | ⟨hdue, hexceeds⟩ :=
      due_of_typed htype hother htyped pl.cluster
    · rw [hdue, answer_post hkey hstored hworking]
      obtain rfl | ⟨text, rfl⟩ := hanswer
      · exact .inl rfl
      · exact .inr (.inl ⟨text, rfl⟩)
    · rw [hdue]
      exact .inr (.inr ⟨hexceeds, rfl⟩)
  · obtain ⟨answer, hanswer, hquiet⟩ :=
      quiet_reconcile settings hkey hstored hpolicy hother hworking
    rw [hanswer, ← place_of_key hkey]
    exact (hquiet.course hother hrun).call settings hother

namespace Quiescent.Sample

open ReportHandler.Sample

/-- The policy with its report, and no results yet. -/
def waiting : Platform where
  cluster := (do
    discard (ClusterM.create policy)
    discard (ClusterM.create (Artifact.report policy .trivy)) : ClusterM PUnit) {} |>.2

theorem reached_waiting : waiting.cluster.Reached :=
  reached_empty.later (((ClusterM.later_create _).discard.bind fun _ =>
    (ClusterM.later_create _).discard).state {})

def afterwards : Platform := (reconcileReport {} report waiting).2

/-- On another day, with writes that fail. -/
def later : Platform :=
  { afterwards with cluster := { afterwards.cluster with
    clock := ⟨86400, 0⟩
    reports := { afterwards.cluster.reports with failing := true } } }

end Quiescent.Sample

open Quiescent.Sample ReportHandler.Sample in
/-- The report waits for results, and the second call finds that it says so. -/
theorem quiescent_sample :
    ∃ r', (later.cluster.store .policyReport).objects.get? reportKey = some r' ∧
      reconcileReport {} r' later =
        (.error (.error (.notReady "no scan results for policy images yet")), later) := by
  have hstored : (waiting.cluster.store .policyReport).objects.get? reportKey = some report := rfl
  have hpolicy : policyOf report waiting.cluster = some (Store.created policy ⟨0, 0⟩ 1) := rfl
  have hrests := (quiescent {} reached_waiting hstored hpolicy rfl (.inl rfl) rfl).2
  exact hrests later (.others .start ⟨rfl, rfl, rfl⟩)

end Controller

end PolicyOperator
