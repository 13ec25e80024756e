import PolicyOperator.Report.Handler

/-!
# Adding up findings

A summary counts findings in words of 32 bits. Sums over several results are words as well, and an
addition that exceeds a word has no answer. `findings` and `known` are the same sums without a bound,
and they fit (`Fits`) if they are words.

* Checked additions have the sums as their answers: those of words (`addWord?_eq_some_iff`), of
  summaries (`SeverityCounts.add?_eq_some_iff`, `SeverityCounts.total?_eq_some_iff`), and of any
  number of results (`totals?_eq_some_iff`).
* So there is a status exactly if the sums fit (`isSome_scannedStatus?_iff`). Without one the handler
  breaks off, even where a finding is severe (`severe_breaks_off`).
-/

namespace PolicyOperator

/-- How severe a finding is. -/
inductive Severity where
  | critical
  | high
  | medium
  | low
  | unknown

/-- The findings of one severity. -/
def SeverityCounts.of (counts : SeverityCounts) : Severity → UInt32
  | .critical => counts.critical
  | .high => counts.high
  | .medium => counts.medium
  | .low => counts.low
  | .unknown => counts.unknown

/-- Some finding of the result is critical or high. -/
def Severe (result : VulnerabilityReport) : Prop :=
  0 < result.spec.summary.critical.toNat ∨ 0 < result.spec.summary.high.toNat

instance : DecidablePred Severe := fun result =>
  inferInstanceAs (Decidable
    (0 < result.spec.summary.critical.toNat ∨ 0 < result.spec.summary.high.toNat))

/-- The findings of one severity in some results. -/
def findings (severity : Severity) : List VulnerabilityReport → Nat
  | [] => 0
  | result :: rest => (result.spec.summary.of severity).toNat + findings severity rest

/-- The findings in some results whose severity is known. -/
def known (results : List VulnerabilityReport) : Nat :=
  findings .critical results + findings .high results + findings .medium results +
    findings .low results

/-- No sum of findings exceeds a word. -/
def Fits (results : List VulnerabilityReport) : Prop :=
  known results < UInt32.size ∧ findings .unknown results < UInt32.size

instance : DecidablePred Fits := fun results =>
  inferInstanceAs (Decidable
    (known results < UInt32.size ∧ findings .unknown results < UInt32.size))

/-! ## Checked additions -/

section
variable {a b x : UInt32} {counts counts' sum : SeverityCounts} {results : List VulnerabilityReport}

theorem exists_toNat_eq {n : Nat} (h : n < UInt32.size) : ∃ w : UInt32, w.toNat = n :=
  ⟨UInt32.ofNat n, UInt32.toNat_ofNat_of_lt' h⟩

theorem addWord?_eq_some_iff : addWord? a b = some x ↔ a.toNat + b.toNat = x.toNat := by
  have hx := x.toNat_lt_size
  unfold addWord?
  split
  · next h =>
    have hsum : (a + b).toNat = a.toNat + b.toNat := by
      rw [UInt32.toNat_add]
      exact Nat.mod_eq_of_lt h
    rw [Option.some.injEq, ← UInt32.toNat_inj, hsum]
  · next h => exact iff_of_false nofun (by omega)

namespace SeverityCounts

theorem ext_of (h : ∀ severity, (counts.of severity).toNat = (counts'.of severity).toNat) :
    counts = counts' := by
  have hof := fun severity => UInt32.toNat_inj.1 (h severity)
  obtain ⟨_, _, _, _, _⟩ := counts
  rw [mk.injEq]
  exact ⟨hof .critical, hof .high, hof .medium, hof .low, hof .unknown⟩

theorem exists_of {f : Severity → Nat} (h : ∀ severity, f severity < UInt32.size) :
    ∃ counts : SeverityCounts, ∀ severity, (counts.of severity).toNat = f severity :=
  ⟨⟨.ofNat (f .critical), .ofNat (f .high), .ofNat (f .medium), .ofNat (f .low),
    .ofNat (f .unknown)⟩, fun severity => by
      cases severity <;> exact UInt32.toNat_ofNat_of_lt' (h _)⟩

theorem add?_eq_some_iff : counts.add? counts' = some sum ↔
    ∀ severity, (counts.of severity).toNat + (counts'.of severity).toNat =
      (sum.of severity).toNat := by
  simp only [add?, Option.bind_eq_bind, Option.bind_eq_some_iff, Option.pure_def,
    Option.some.injEq, addWord?_eq_some_iff]
  constructor
  · rintro ⟨_, hcritical, _, hhigh, _, hmedium, _, hlow, _, hunknown, rfl⟩ severity
    cases severity <;> assumption
  · intro h
    exact ⟨_, h .critical, _, h .high, _, h .medium, _, h .low, _, h .unknown, rfl⟩

theorem total?_eq_some_iff : counts.total? = some x ↔
    counts.critical.toNat + counts.high.toNat + counts.medium.toNat + counts.low.toNat =
      x.toNat := by
  simp only [total?, Option.bind_eq_bind, Option.bind_eq_some_iff, addWord?_eq_some_iff]
  constructor
  · rintro ⟨severe, hsevere, noted, hnoted, htotal⟩
    omega
  · intro h
    have hx := x.toNat_lt_size
    obtain ⟨severe, hsevere⟩ : ∃ w : UInt32, w.toNat = counts.critical.toNat + counts.high.toNat :=
      exists_toNat_eq (by omega)
    obtain ⟨noted, hnoted⟩ : ∃ w : UInt32, w.toNat = severe.toNat + counts.medium.toNat :=
      exists_toNat_eq (by omega)
    exact ⟨severe, hsevere.symm, noted, hnoted.symm, by omega⟩

end SeverityCounts

/-! ## Sums over results -/

theorem findings_cons (severity : Severity) (result : VulnerabilityReport)
    (rest : List VulnerabilityReport) : findings severity (result :: rest) =
      (result.spec.summary.of severity).toNat + findings severity rest := rfl

theorem Fits.findings_lt (h : Fits results) (severity : Severity) :
    findings severity results < UInt32.size := by
  obtain ⟨hknown, hunknown⟩ := h
  unfold known at hknown
  cases severity <;> omega

theorem foldlM_add?_eq_some_iff :
    results.foldlM (fun counts result => counts.add? result.spec.summary) counts = some sum ↔
      ∀ severity, (counts.of severity).toNat + findings severity results =
        (sum.of severity).toNat := by
  induction results generalizing counts with
  | nil =>
    simp only [List.foldlM_nil, Option.pure_def, Option.some.injEq, findings, Nat.add_zero]
    exact ⟨fun h _ => by rw [h], SeverityCounts.ext_of⟩
  | cons result rest ih =>
    simp only [List.foldlM_cons, Option.bind_eq_bind, Option.bind_eq_some_iff,
      SeverityCounts.add?_eq_some_iff, ih, findings_cons]
    constructor
    · rintro ⟨_, hfirst, hrest⟩ severity
      rw [← hrest, ← hfirst, Nat.add_assoc]
    · intro h
      -- the sum with the first result is below the whole one
      obtain ⟨first, hfirst⟩ : ∃ first : SeverityCounts, ∀ severity, (first.of severity).toNat =
          (counts.of severity).toNat + (result.spec.summary.of severity).toNat :=
        SeverityCounts.exists_of fun severity => by
          have hsum := (sum.of severity).toNat_lt_size
          have hall := h severity
          omega
      exact ⟨first, fun severity => (hfirst severity).symm, fun severity => by
        rw [hfirst, Nat.add_assoc]
        exact h severity⟩

end

/-! ## What the handler computes -/

namespace ReportHandler

variable {results : List VulnerabilityReport} {result : VulnerabilityReport}
  {totals : SeverityCounts} {status : ReportStatus}

theorem totals?_eq_some_iff : totals? results = some totals ↔
    ∀ severity, (totals.of severity).toNat = findings severity results := by
  have hzero : ∀ severity, (({} : SeverityCounts).of severity).toNat = 0 := fun severity => by
    cases severity <;> rfl
  simp only [totals?, foldlM_add?_eq_some_iff, hzero, Nat.zero_add]
  exact forall_congr' fun _ => eq_comm

/-- The total of the totals is the sum of what is known. -/
theorem total?_totals?_eq_some_iff {total : UInt32} (h : totals? results = some totals) :
    totals.total? = some total ↔ total.toNat = known results := by
  have hexact := totals?_eq_some_iff.1 h
  rw [SeverityCounts.total?_eq_some_iff, known, ← hexact, ← hexact, ← hexact, ← hexact]
  exact eq_comm

/-- The sums exceed no word exactly if there is a status. -/
theorem isSome_scannedStatus?_iff : (scannedStatus? results).isSome ↔ Fits results := by
  simp only [scannedStatus?, Option.bind_eq_bind, Option.pure_def, Option.isSome_iff_exists,
    Option.bind_eq_some_iff, Option.some.injEq]
  constructor
  · rintro ⟨_, totals, htotals, total, htotal, -⟩
    rw [Fits, ← (total?_totals?_eq_some_iff htotals).1 htotal,
      ← totals?_eq_some_iff.1 htotals .unknown]
    exact ⟨total.toNat_lt_size, UInt32.toNat_lt_size _⟩
  · intro hfits
    obtain ⟨totals, htotals⟩ := SeverityCounts.exists_of hfits.findings_lt
    have htotals := totals?_eq_some_iff.2 htotals
    obtain ⟨total, htotal⟩ := exists_toNat_eq hfits.1
    exact ⟨_, totals, htotals, total, (total?_totals?_eq_some_iff htotals).2 htotal, rfl⟩

theorem scannedStatus?_eq_none_iff : scannedStatus? results = none ↔ ¬ Fits results := by
  rw [← isSome_scannedStatus?_iff, Option.not_isSome_iff_eq_none]

/-! ## The verdict -/

theorem isFailing_iff : result.spec.summary.isFailing = true ↔ Severe result := by
  simp [SeverityCounts.isFailing, Severe, UInt32.lt_iff_toNat_lt]

theorem countP_isFailing (results : List VulnerabilityReport) :
    (results.countP fun result => result.spec.summary.isFailing) =
      results.countP fun result => Severe result :=
  List.countP_congr fun result _ => by rw [isFailing_iff, decide_eq_true_iff]

theorem countP_severe_pos_iff :
    0 < (results.countP fun result => Severe result) ↔ ∃ result ∈ results, Severe result := by
  simp only [List.countP_pos_iff, decide_eq_true_iff]

/-- Every severe result has a finding of its own. -/
theorem countP_severe_le (results : List VulnerabilityReport) :
    (results.countP fun result => Severe result) ≤ known results := by
  induction results with
  | nil => exact Nat.zero_le _
  | cons result rest ih =>
    have hone : known (result :: rest) = known [result] + known rest := by
      simp [known, findings]
      omega
    rw [List.countP_cons, hone]
    split
    · next h =>
      have hsevere : Severe result := of_decide_eq_true h
      have hfound : 0 < known [result] := by
        simp only [known, findings, Severe, SeverityCounts.of] at *
        omega
      omega
    · omega

theorem toNat_wordOfCount (n : Nat) : (wordOfCount n).toNat = min n (UInt32.size - 1) := by
  unfold wordOfCount
  split
  · next h =>
    rw [UInt32.toNat_ofNat_of_lt' h]
    omega
  · next h =>
    show 4294967295 = _
    unfold UInt32.size at *
    omega

theorem toNat_failed_ofCounts (total failed : UInt32) :
    (ReportSummary.ofCounts total failed).failed.toNat = min failed.toNat total.toNat := by
  show (if failed ≤ total then failed else total).toNat = _
  split
  · next h => exact (Nat.min_eq_left (UInt32.le_iff_toNat_le.1 h)).symm
  · next h => exact (Nat.min_eq_right (by rw [UInt32.le_iff_toNat_le] at h; omega)).symm

/-- One failed check fails the whole, if it is counted. -/
theorem verdict_ofCounts (total failed : UInt32) :
    (ReportSummary.ofCounts total failed).verdict =
      if 0 < (ReportSummary.ofCounts total failed).failed.toNat then .fail else .pass :=
  ite_congr (propext UInt32.lt_iff_toNat_lt) (fun _ => rfl) fun _ => rfl

namespace Sample

/-- Two scans have the same name. -/
def images : TrivySpec where
  scans := [⟨"web", "web:1", none, false, [], none⟩, ⟨"api", "api:1", none, false, [], none⟩,
    ⟨"web", "web:2", none, false, [], none⟩]

def policy : Policy where
  metadata := { name := some "images", ns := some "shop", generation := some 1 }
  spec := { type := "trivy", trivy := some images }

/-- The policy's report, as it is stored first. -/
def report : PolicyReport := Store.created (Artifact.report policy .trivy) ⟨0, 0⟩ 1

/-- A result for the job of a scan of the policy. -/
def filed (name scan : String) (counts : SeverityCounts) : VulnerabilityReport where
  metadata := {
    name := some name
    ns := some "shop"
    labels := some (.ofList [
      (Labels.resourceKind, "Job"),
      (Labels.resourceName, Naming.scanJob "images" scan 1)]) }
  spec := { summary := counts, vulnerabilities := [{ id := name }] }

/-- The report, and some results. -/
def start (results : List VulnerabilityReport) : Cluster :=
  (do discard (ClusterM.create (Artifact.report policy .trivy))
      results.forM fun result => discard (ClusterM.create result) : ClusterM PUnit) {} |>.2

def reported (results : List VulnerabilityReport) : Cluster :=
  (handleTrivy report policy (start results)).2

/-- The status that is stored with the report. -/
def status? (c : Cluster) : Option ReportStatus :=
  ((c.store .policyReport).get? "shop" "trivy-report-images").bind Object.status

/-- More findings than a word counts. -/
def flooded : VulnerabilityReport :=
  filed "web-scan" "web" { critical := 1, high := 4294967295 }

end Sample

open Sample in
/-- The counts of one result are enough for the handler to break off, and the result is severe. -/
theorem severe_breaks_off :
    handleTrivy report policy (start [flooded]) = (.error .overflow, start [flooded]) ∧
      (∃ result ∈ resultsFor (start [flooded]) report (images.expectedJobs policy),
        Severe result) ∧
      status? (start [flooded]) = none := by
  refine ⟨rfl, ⟨Store.created flooded ⟨0, 0⟩ 1, ?_, ?_⟩, rfl⟩
  · show _ ∈ [_]
    exact List.mem_singleton.2 rfl
  · decide

end ReportHandler

end PolicyOperator
