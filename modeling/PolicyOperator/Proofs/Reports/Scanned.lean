import PolicyOperator.Proofs.Cluster.Reached
import PolicyOperator.Proofs.Labels
import PolicyOperator.Proofs.Reports.Published
import PolicyOperator.Proofs.Reports.Severity

/-!
# Reports on scans

A report on scans considers the results in its namespace that are about the jobs of the policy's
current generation, each once (`considered_resultsFor`). While there is none the report is running
and the handler is not ready. From the first one on the report is completed, and its status says what
was found (`totalled_of_scannedStatus?`). Only if a sum exceeds a word there is no status, and the
handler breaks off (`handleTrivy_of_not_fits`).

* `totalled_iff_fits` says which results have a status, and that it is exact.
* `summed_up_of_trivy` says what is published and answered.
* `completed_iff_answered` says when: one result is enough, whichever scans are still to answer
  (`completed_before_all`).
-/

namespace PolicyOperator.ReportHandler

open Cluster

variable {r : PolicyReport} {p : Policy} {spec : TrivySpec} {key : Key} {c : Cluster}
  {ns job : String} {jobs : List String} {result : VulnerabilityReport}
  {results : List VulnerabilityReport} {status : ReportStatus}

/-! ## The results of some jobs -/

/-- The labels say that the result is about a job. -/
structure About (result : VulnerabilityReport) (job : String) : Prop where
  kind : result.metadata.labels.bind (·.get? Labels.resourceKind) = some "Job"
  name : result.metadata.labels.bind (·.get? Labels.resourceName) = some job

theorem isForJob_iff : result.isForJob job = true ↔ About result job := by
  have hfields : About result job ↔
      result.metadata.labels.bind (·.get? Labels.resourceKind) = some "Job" ∧
        result.metadata.labels.bind (·.get? Labels.resourceName) = some job :=
    ⟨fun h => ⟨h.kind, h.name⟩, fun h => ⟨h.1, h.2⟩⟩
  rw [hfields, Object.isForJob]
  cases result.metadata.labels <;> simp

/-- The results in a namespace that are about some jobs: each once, in the order of their names. -/
structure Considered (c : Cluster) (ns : String) (jobs : List String)
    (results : List VulnerabilityReport) : Prop where
  mem_iff : ∀ result, result ∈ results ↔
    (∃ name, (c.store .vulnerabilityReport).objects.get? ⟨ns, name⟩ = some result) ∧
      ∃ job ∈ jobs, About result job
  ordered : results.Pairwise fun a b => compare a.displayName b.displayName = .lt

theorem considered_resultsFor (hc : (c.store .vulnerabilityReport).Filed) (hkey : r.key = .ok key)
    (jobs : List String) : Considered c key.ns jobs (resultsFor c r jobs) := by
  refine ⟨fun result => ?_, (Store.pairwise_list hc).filter _⟩
  have hlisted : result ∈ c.vulnerabilityReports.list (some key.ns) ∅ ↔
      ∃ name, (c.store .vulnerabilityReport).objects.get? ⟨key.ns, name⟩ = some result :=
    Store.mem_list_namespace_iff
  simp only [resultsFor, Object.nsOrEmpty_of_key hkey, List.mem_filter, hlisted, List.any_eq_true,
    isForJob_iff]

/-- Some result in a namespace is about a job. -/
def Answered (c : Cluster) (ns job : String) : Prop :=
  ∃ name result, (c.store .vulnerabilityReport).objects.get? ⟨ns, name⟩ = some result ∧
    About result job

theorem Considered.ne_nil_iff (h : Considered c ns jobs results) :
    results ≠ [] ↔ ∃ job ∈ jobs, Answered c ns job := by
  constructor
  · intro hsome
    obtain ⟨result, hmem⟩ := List.exists_mem_of_ne_nil results hsome
    obtain ⟨⟨name, hget⟩, job, hjob, habout⟩ := (h.mem_iff result).1 hmem
    exact ⟨job, hjob, name, result, hget, habout⟩
  · rintro ⟨job, hjob, name, result, hget, habout⟩
    exact List.ne_nil_of_mem ((h.mem_iff result).2 ⟨⟨name, hget⟩, job, hjob, habout⟩)

/-! ## What results add up to -/

/-- What is found in some results, without bounds. -/
def foundDetails (results : List VulnerabilityReport) : Json := .object [
  ("reportCount", .int results.length),
  ("severityTotals", .object [
    ("criticalCount", .int (findings .critical results)),
    ("highCount", .int (findings .high results)),
    ("lowCount", .int (findings .low results)),
    ("mediumCount", .int (findings .medium results)),
    ("unknownCount", .int (findings .unknown results))]),
  ("vulnerabilities", .arr
    (results.flatMap fun result => result.spec.vulnerabilities.map Vulnerability.toJson))]

/-- A status counts what is found in some results. -/
structure Totalled (results : List VulnerabilityReport) (status : ReportStatus) : Prop where
  phase : status.phase = .completed
  verdict : status.summary.verdict = if ∃ result ∈ results, Severe result then .fail else .pass
  failed : status.summary.failed.toNat = results.countP fun result => Severe result
  totalChecks : status.summary.totalChecks.toNat = known results
  passed : status.summary.passed.toNat + status.summary.failed.toNat =
    status.summary.totalChecks.toNat
  details : status.details = some (foundDetails results)

theorem toNat_passed_ofCounts (total failed : UInt32) :
    (ReportSummary.ofCounts total failed).passed.toNat +
      (ReportSummary.ofCounts total failed).failed.toNat = total.toNat := by
  have hfailed := toNat_failed_ofCounts total failed
  have hle : (ReportSummary.ofCounts total failed).failed ≤ total := by
    rw [UInt32.le_iff_toNat_le, hfailed]
    exact Nat.min_le_right _ _
  show (total - (ReportSummary.ofCounts total failed).failed).toNat + _ = _
  rw [UInt32.toNat_sub_of_le _ _ hle]
  rw [UInt32.le_iff_toNat_le] at hle
  omega

theorem totalled_of_scannedStatus? (h : scannedStatus? results = some status) :
    Totalled results status := by
  simp only [scannedStatus?, Option.bind_eq_bind, Option.pure_def, Option.bind_eq_some_iff,
    Option.some.injEq] at h
  obtain ⟨totals, htotals, total, htotal, rfl⟩ := h
  have hexact := totals?_eq_some_iff.1 htotals
  have htotal : total.toNat = known results := (total?_totals?_eq_some_iff htotals).1 htotal
  have hfailed : (ReportSummary.ofCounts total (wordOfCount
      (results.countP fun result => result.spec.summary.isFailing))).failed.toNat =
      results.countP fun result => Severe result := by
    -- there are at least as many findings as severe results, so nothing is cut off
    have hle := countP_severe_le results
    have hword := total.toNat_lt_size
    rw [toNat_failed_ofCounts, toNat_wordOfCount, countP_isFailing]
    omega
  constructor
  case phase => rfl
  case verdict =>
    rw [verdict_ofCounts, hfailed]
    exact ite_congr (propext countP_severe_pos_iff) (fun _ => rfl) fun _ => rfl
  case failed => exact hfailed
  case totalChecks => exact htotal
  case passed => exact toNat_passed_ofCounts _ _
  case details =>
    simp only [foundDetails, ← hexact]
    rfl

/-! ## The handler -/

theorem exact_details {j : Json} (h : scannedStatus? results = some status)
    (hj : status.details = some j) : j.Exact := by
  obtain rfl := Option.some.inj ((totalled_of_scannedStatus? h).details.symm.trans hj)
  have htotals : ∀ e ∈ [
      ("criticalCount", Json.int (findings .critical results)),
      ("highCount", .int (findings .high results)), ("lowCount", .int (findings .low results)),
      ("mediumCount", .int (findings .medium results)),
      ("unknownCount", .int (findings .unknown results))], e.2.Exact := by
    simp [Json.exact_int]
  have hfound : ∀ v : Vulnerability, v.toJson.Exact := fun v =>
    Json.exact_record (by simp [Json.exact_str])
  refine Json.exact_object (List.forall_mem_cons.2 ⟨Json.exact_int _, List.forall_mem_cons.2
    ⟨Json.exact_object htotals, List.forall_mem_singleton.2 (Json.exact_arr fun j hj => ?_)⟩⟩)
  obtain ⟨result, -, hj⟩ := List.mem_flatMap.1 hj
  obtain ⟨v, -, rfl⟩ := List.mem_map.1 hj
  exact hfound v

theorem handleTrivy_of_nil (hspec : p.spec.typed = .ok (.trivy spec))
    (hnone : resultsFor c r (spec.expectedJobs p) = []) :
    handleTrivy r p c = (do
      discard (publish r { r.status.getD {} with phase := .running })
      throw (.error (.notReady s!"no scan results for policy {p.displayName} yet")) :
        ExceptT Failure (StateM Cluster) Unit) c := by
  unfold handleTrivy
  rw [hspec]
  exact congrFun (if_pos (by rw [hnone]; rfl)) c

theorem handleTrivy_of_scannedStatus? (hspec : p.spec.typed = .ok (.trivy spec))
    (hsome : resultsFor c r (spec.expectedJobs p) ≠ [])
    (hstatus : scannedStatus? (resultsFor c r (spec.expectedJobs p)) = some status) :
    handleTrivy r p c =
      (discard (publish r status) : ExceptT Failure (StateM Cluster) Unit) c := by
  unfold handleTrivy
  rw [hspec]
  refine (congrFun (if_neg (by simpa using hsome)) c).trans ?_
  rw [hstatus]

/-- The handler breaks off if a sum exceeds a word. -/
theorem handleTrivy_of_not_fits (hspec : p.spec.typed = .ok (.trivy spec))
    (hfits : ¬ Fits (resultsFor c r (spec.expectedJobs p))) :
    handleTrivy r p c = (.error .overflow, c) := by
  have hsome : resultsFor c r (spec.expectedJobs p) ≠ [] := fun h => hfits (by rw [h]; decide)
  unfold handleTrivy
  rw [hspec]
  refine (congrFun (if_neg (by simpa using hsome)) c).trans ?_
  rw [scannedStatus?_eq_none_iff.2 hfits]
  rfl

theorem posted_handleTrivy (hkey : r.key = .ok key)
    (hstored : (c.store .policyReport).objects.get? key = some r)
    (hspec : p.spec.typed = .ok (.trivy spec)) :
    (resultsFor c r (spec.expectedJobs p) = [] →
      Posted r { r.status.getD {} with phase := .running } key c
        (.error (.error (.notReady s!"no scan results for policy {p.displayName} yet")))
        (handleTrivy r p c).1 (handleTrivy r p c).2) ∧
    (resultsFor c r (spec.expectedJobs p) ≠ [] →
      ∀ status, scannedStatus? (resultsFor c r (spec.expectedJobs p)) = some status →
        Posted r status key c (.ok ()) (handleTrivy r p c).1 (handleTrivy r p c).2) := by
  refine ⟨fun hnone => ?_, fun hsome status hstatus => ?_⟩
  · rw [handleTrivy_of_nil hspec hnone]
    refine Ends.run (ends_bind.2 (ends_discard.2 (ends_liftM_failure.2 ?_)))
    refine (ends_publish hkey hstored (fun s hs h => ?_) _).mono (fun _ _ h => h) fun _ _ h => h
    have hphase : s.phase = .running := congrArg ReportStatus.phase h
    rw [hs, Option.getD_some, ← hphase]
  · rw [handleTrivy_of_scannedStatus? hspec hsome hstatus]
    refine Ends.run (ends_discard.2 (ends_liftM_failure.2 ?_))
    exact ends_publish hkey hstored
      (fun s _ h => ReportStatus.eq_of_exact (fun _ => exact_details hstatus) h) _

/-- There is a status exactly if no sum exceeds a word, and then it says what was found: the report
fails exactly if a result is severe. Without one the handler breaks off before it writes. -/
theorem totalled_iff_fits (results : List VulnerabilityReport) (r : PolicyReport) (p : Policy)
    (c : Cluster) :
    ((scannedStatus? results).isSome ↔ Fits results) ∧
      (∀ status, scannedStatus? results = some status → Totalled results status) ∧
      ∀ spec, p.spec.typed = .ok (.trivy spec) →
        ((handleTrivy r p c).1 = .error .overflow ↔
          ¬ Fits (resultsFor c r (spec.expectedJobs p))) ∧
        (¬ Fits (resultsFor c r (spec.expectedJobs p)) → (handleTrivy r p c).2 = c) ∧
        (resultsFor c r (spec.expectedJobs p) ≠ [] →
          ∀ status, scannedStatus? (resultsFor c r (spec.expectedJobs p)) = some status →
            handleTrivy r p c =
              (discard (publish r status) : ExceptT Failure (StateM Cluster) Unit) c) := by
  refine ⟨isSome_scannedStatus?_iff, fun _ => totalled_of_scannedStatus?,
    fun spec hspec => ⟨⟨fun hbroken hfits => ?_, fun hfits => ?_⟩, fun hfits => ?_,
      fun hsome status => handleTrivy_of_scannedStatus? hspec hsome⟩⟩
  · -- what the handler calls may fail, but cannot break off
    have hends : Ends (handleTrivy r p) c (fun _ _ => True) fun e _ => e ≠ .overflow := by
      by_cases hnone : resultsFor c r (spec.expectedJobs p) = []
      · unfold Ends
        rw [handleTrivy_of_nil hspec hnone]
        exact ends_bind.2 (ends_discard.2 (ends_liftM_failure.2
          (ends_of (fun _ _ _ => Failure.noConfusion) fun _ _ _ => Failure.noConfusion)))
      · obtain ⟨status, hstatus⟩ := Option.isSome_iff_exists.1 (isSome_scannedStatus?_iff.2 hfits)
        unfold Ends
        rw [handleTrivy_of_scannedStatus? hspec hnone hstatus]
        exact ends_discard.2 (ends_liftM_failure.2
          (ends_of (fun _ _ _ => trivial) fun _ _ _ => Failure.noConfusion))
    exact hends.error (Prod.ext hbroken rfl) rfl
  · rw [handleTrivy_of_not_fits hspec hfits]
  · rw [handleTrivy_of_not_fits hspec hfits]

open Sample in
/-- Of a result that fits there is a status, and one with too many findings ends the call. -/
theorem totalled_iff_fits_sample :
    (∃ status, scannedStatus? [filed "web-scan" "web" { high := 1 }] = some status ∧
      status.summary.verdict = .fail) ∧
      (handleTrivy report policy (start [flooded])).1 = .error .overflow ∧
      (handleTrivy report policy (start [flooded])).2 = start [flooded] := by
  obtain ⟨hfits, htotalled, hhandled⟩ := totalled_iff_fits
    [filed "web-scan" "web" { high := 1 }] report policy (start [flooded])
  obtain ⟨status, hstatus⟩ := Option.isSome_iff_exists.1 (hfits.2 (by decide))
  have hflooded : ¬ Fits (resultsFor (start [flooded]) report (images.expectedJobs policy)) := by
    decide
  obtain ⟨hbreaks, hleft, -⟩ := hhandled images rfl
  exact ⟨⟨status, hstatus, (htotalled status hstatus).verdict⟩, hbreaks.2 hflooded,
    hleft hflooded⟩

/-- The status that is due with some results, and the answer. -/
inductive Due (p : Policy) (r : PolicyReport) (results : List VulnerabilityReport) :
    ReportStatus → Except Failure Unit → Prop
  | waiting : results = [] →
      Due p r results { r.status.getD {} with phase := .running }
        (.error (.error (.notReady s!"no scan results for policy {p.displayName} yet")))
  | completed {status : ReportStatus} : results ≠ [] → Totalled results status →
      Due p r results status (.ok ())

/-- The results that are considered are those about the policy's jobs, each once. The report says
what they add up to, unless there is none yet. -/
theorem summed_up_of_trivy (hc : c.Reached)
    (hstored : (c.store .policyReport).objects.get? key = some r)
    (hspec : p.spec.typed = .ok (.trivy spec)) :
    Considered c key.ns (spec.expectedJobs p) (resultsFor c r (spec.expectedJobs p)) ∧
      (Fits (resultsFor c r (spec.expectedJobs p)) → ∃ status answer,
        Due p r (resultsFor c r (spec.expectedJobs p)) status answer ∧
        Posted r status key c answer (handleTrivy r p c).1 (handleTrivy r p c).2) := by
  have hkey : r.key = .ok key := hc.filed .policyReport key r hstored
  obtain ⟨hwaiting, hcompleted⟩ := posted_handleTrivy hkey hstored hspec
  refine ⟨considered_resultsFor (hc.filed .vulnerabilityReport) hkey _, fun hfits => ?_⟩
  by_cases hnone : resultsFor c r (spec.expectedJobs p) = []
  · exact ⟨_, _, .waiting hnone, hwaiting hnone⟩
  · obtain ⟨status, hstatus⟩ := Option.isSome_iff_exists.1 (isSome_scannedStatus?_iff.2 hfits)
    exact ⟨_, _, .completed hnone (totalled_of_scannedStatus? hstatus),
      hcompleted hnone status hstatus⟩

namespace Sample

/-- Results for two jobs of the policy, which has the first of them twice, and for another job. -/
def mixed : List VulnerabilityReport := [
  filed "web-scan" "web" { critical := 1, high := 2, medium := 1 },
  filed "old-scan" "db" { critical := 7 },
  filed "api-scan" "api" { low := 2, unknown := 3 }]

/-- The result of one scan, with nothing severe in it. -/
def clean : List VulnerabilityReport := [filed "web-scan" "web" { low := 2 }]

def reportKey : Key := ⟨"shop", "trivy-report-images"⟩

theorem reached_start (results : List VulnerabilityReport) : (start results).Reached :=
  reached_empty.later (((ClusterM.later_create _).discard.bind fun _ =>
    Keeps.forM fun _ _ => (ClusterM.later_create _).discard).state {})

end Sample

open Sample in
/-- Of the results two are considered, in the order of their names, and one of them is severe. -/
theorem summed_up_sample :
    (start mixed).Reached ∧
      ((start mixed).store .policyReport).objects.get? reportKey = some report ∧
      policy.spec.typed = .ok (.trivy images) ∧
      Fits (resultsFor (start mixed) report (images.expectedJobs policy)) ∧
      (resultsFor (start mixed) report (images.expectedJobs policy)).map Object.displayName =
        ["api-scan", "web-scan"] ∧
      (∃ status answer,
        Due policy report (resultsFor (start mixed) report (images.expectedJobs policy)) status
          answer ∧
        Posted report status reportKey (start mixed) answer
          (handleTrivy report policy (start mixed)).1
          (handleTrivy report policy (start mixed)).2) ∧
      (handleTrivy report policy (start mixed)).1 = .ok () ∧
      (status? (reported mixed)).map (·.summary) =
        some { verdict := .fail, totalChecks := 6, passed := 5, failed := 1 } := by
  have hstored : ((start mixed).store .policyReport).objects.get? reportKey = some report := rfl
  have hfits : Fits (resultsFor (start mixed) report (images.expectedJobs policy)) := by decide
  obtain ⟨-, hsummed⟩ := summed_up_of_trivy (reached_start mixed) hstored
    (show policy.spec.typed = .ok (.trivy images) from rfl)
  exact ⟨reached_start mixed, hstored, rfl, hfits, rfl, hsummed hfits, rfl, rfl⟩

/-- The report is completed from the first result on, and until then it is running. Where a sum
exceeds a word, the handler breaks off and writes nothing. -/
theorem completed_iff_answered (hc : c.Reached)
    (hstored : (c.store .policyReport).objects.get? key = some r)
    (hspec : p.spec.typed = .ok (.trivy spec)) :
    (Fits (resultsFor c r (spec.expectedJobs p)) → ∃ status answer,
      Posted r status key c answer (handleTrivy r p c).1 (handleTrivy r p c).2 ∧
      (status.phase = .completed ↔ ∃ job ∈ spec.expectedJobs p, Answered c key.ns job) ∧
      (answer = .ok () ↔ ∃ job ∈ spec.expectedJobs p, Answered c key.ns job) ∧
      ((∀ job ∈ spec.expectedJobs p, ¬ Answered c key.ns job) →
        status = { r.status.getD {} with phase := .running } ∧
          answer =
            .error (.error (.notReady s!"no scan results for policy {p.displayName} yet")))) ∧
    (¬ Fits (resultsFor c r (spec.expectedJobs p)) →
      (∃ job ∈ spec.expectedJobs p, Answered c key.ns job) ∧
        handleTrivy r p c = (.error .overflow, c)) := by
  have hkey : r.key = .ok key := hc.filed .policyReport key r hstored
  obtain ⟨hwaiting, hcompleted⟩ := posted_handleTrivy hkey hstored hspec
  have hanswered := (considered_resultsFor (hc.filed .vulnerabilityReport) hkey
    (spec.expectedJobs p)).ne_nil_iff
  refine ⟨fun hfits => ?_, fun hfits =>
    ⟨hanswered.1 fun hnone => hfits (by rw [hnone]; decide), handleTrivy_of_not_fits hspec hfits⟩⟩
  by_cases hnone : resultsFor c r (spec.expectedJobs p) = []
  · have hall : ¬ ∃ job ∈ spec.expectedJobs p, Answered c key.ns job :=
      fun h => hanswered.2 h hnone
    exact ⟨_, _, hwaiting hnone, iff_of_false nofun hall, iff_of_false nofun hall,
      fun _ => ⟨rfl, rfl⟩⟩
  · have hsome := hanswered.1 hnone
    obtain ⟨status, hstatus⟩ := Option.isSome_iff_exists.1 (isSome_scannedStatus?_iff.2 hfits)
    have hphase := (totalled_of_scannedStatus? hstatus).phase
    refine ⟨_, _, hcompleted hnone status hstatus, iff_of_true hphase hsome,
      iff_of_true rfl hsome, fun hall => ?_⟩
    obtain ⟨job, hjob, hanswer⟩ := hsome
    exact absurd hanswer (hall job hjob)

open Sample in
/-- Without results the report runs, with one of them it is completed, and with too many findings
the handler breaks off. -/
theorem completed_iff_answered_sample :
    (start []).Reached ∧ (start clean).Reached ∧
      ((start []).store .policyReport).objects.get? reportKey = some report ∧
      ((start clean).store .policyReport).objects.get? reportKey = some report ∧
      policy.spec.typed = .ok (.trivy images) ∧
      (∃ status, Posted report status reportKey (start [])
          (.error (.error (.notReady "no scan results for policy images yet")))
          (handleTrivy report policy (start [])).1 (handleTrivy report policy (start [])).2 ∧
        status.phase = .running) ∧
      (∃ status, Posted report status reportKey (start clean) (.ok ())
          (handleTrivy report policy (start clean)).1 (handleTrivy report policy (start clean)).2 ∧
        status.phase = .completed) ∧
      handleTrivy report policy (start [flooded]) = (.error .overflow, start [flooded]) := by
  have htyped : policy.spec.typed = .ok (.trivy images) := rfl
  have hempty : ((start []).store .policyReport).objects.get? reportKey = some report := rfl
  have hclean : ((start clean).store .policyReport).objects.get? reportKey = some report := rfl
  have hnone : ∀ job ∈ images.expectedJobs policy, ¬ Answered (start []) reportKey.ns job :=
    fun job _ ⟨name, result, hget, _⟩ => nomatch hget
  have hsome : ∃ job ∈ images.expectedJobs policy, Answered (start clean) reportKey.ns job :=
    ⟨"eirenyx-trivy-images-web-1", by decide, "web-scan", _, rfl, rfl, rfl⟩
  obtain ⟨_, _, hwaits, -, -, hwaiting⟩ :=
    (completed_iff_answered (reached_start []) hempty htyped).1 (by decide)
  obtain ⟨rfl, rfl⟩ := hwaiting hnone
  obtain ⟨status, _, hposted, hphase, hanswer, -⟩ :=
    (completed_iff_answered (reached_start clean) hclean htyped).1 (by decide)
  obtain rfl := hanswer.2 hsome
  have hflooded : ((start [flooded]).store .policyReport).objects.get? reportKey = some report :=
    rfl
  exact ⟨reached_start [], reached_start clean, hempty, hclean, rfl, ⟨_, hwaits, rfl⟩,
    ⟨status, hposted, hphase.2 hsome⟩,
    ((completed_iff_answered (reached_start [flooded]) hflooded htyped).2 (by decide)).2⟩

open Sample in
/-- One of two scans has answered, and the report is completed and passes. -/
theorem completed_before_all :
    handleTrivy report policy (start clean) = (.ok (), reported clean) ∧
      (status? (reported clean)).map (fun s => (s.phase, s.summary.verdict)) =
        some (.completed, .pass) ∧
      "eirenyx-trivy-images-api-1" ∈ images.expectedJobs policy ∧
      ¬ Answered (start clean) "shop" "eirenyx-trivy-images-api-1" := by
  refine ⟨rfl, rfl, by decide, fun hanswer => ?_⟩
  have hkey : report.key = .ok reportKey := rfl
  have hconsidered := considered_resultsFor ((reached_start clean).filed .vulnerabilityReport) hkey
    ["eirenyx-trivy-images-api-1"]
  exact hconsidered.ne_nil_iff.2 ⟨_, List.mem_singleton.2 rfl, hanswer⟩ rfl

end PolicyOperator.ReportHandler
