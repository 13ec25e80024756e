import PolicyOperator.Engine.Scans
import PolicyOperator.Platform

/-!
# Report handlers

A handler works out the status of one report from the live state: sampled pods for falco, the
results of the scan jobs for trivy, the declared experiments for litmus. A status is only written
when it differs from the stored one.
-/

namespace PolicyOperator.ReportHandler

/-- Writes a status unless it is there already; the answer is whether it was written. -/
def publish (r : PolicyReport) (status : ReportStatus) : ClusterM Bool := do
  if r.status.map ReportStatus.unsignedZeros = some status.unsignedZeros then
    return false
  else do
    discard (ClusterM.replaceStatus { r with status := some status })
    return true

/-- A count as a word; the largest word when it is too large. -/
def wordOfCount (n : Nat) : UInt32 := if n < UInt32.size then UInt32.ofNat n else 4294967295

/-! ## Falco -/

/-- The evidence was drawn for this generation, less than a refresh interval ago. -/
def isFresh (refresh : Duration) (now : Instant) (r : PolicyReport) : Bool :=
  match r.status with
  | none => false
  | some s =>
    s.phase == .completed && s.observedGeneration == r.metadata.generation &&
      (s.refreshedAt.bind now.since?).any fun age => age.nanoseconds < refresh.nanoseconds

/-- The status that shows some findings and pods. -/
def drawnStatus (r : PolicyReport) (spec : FalcoSpec) (findings : Nat) (pods : List PodDetail)
    (now : Instant) : ReportStatus where
  phase := .completed
  summary := .ofCounts 1 (if 0 < findings then 1 else 0)
  details := some (.object [
    ("findings", .int findings),
    ("message", .str "Obtained results for policy reconciliation."),
    ("podDetails", .arr (pods.map PodDetail.toJson)),
    ("rule", .str (spec.observedRule?.getD ""))])
  observedGeneration := r.metadata.generation
  refreshedAt := some now

/-- Draws a count of findings, and so many pods. -/
def draw : PlatformM (Nat × List PodDetail) := do
  let p ← get
  let (findings, sampler) := p.sampler.findingCount
  let (pods, sampler) := sampler.choose findings p.cluster.eligiblePods
  set { p with sampler := sampler }
  return (findings, pods)

/-- Draws new evidence unless that of the report is fresh. Draws differ, so without this pause the
status would be written for ever. -/
def handleFalco (refresh : Duration) (r : PolicyReport) (p : Policy) : PlatformM Unit := do
  match ← p.spec.typed with
  | .falco spec =>
    let now := (← get).cluster.clock
    if isFresh refresh now r then
      return
    else do
      let (findings, pods) ← draw
      discard (PlatformM.onCluster (publish r (drawnStatus r spec findings pods now)))
  | _ => throw (.validation "falco report requires a falco policy")

/-! ## Trivy -/

/-- The results in the report's namespace that are about one of some jobs. -/
def resultsFor (c : Cluster) (r : PolicyReport) (jobs : List String) : List VulnerabilityReport :=
  (c.vulnerabilityReports.list (some r.metadata.nsOrEmpty) ∅).filter fun result =>
    jobs.any result.isForJob

/-- The counts of all results added up. -/
def totals? (results : List VulnerabilityReport) : Option SeverityCounts :=
  results.foldlM (fun acc result => acc.add? result.spec.summary) {}

/-- The status that sums up some results, unless a sum exceeds its word. -/
def scannedStatus? (results : List VulnerabilityReport) : Option ReportStatus := do
  let failed := results.countP fun result => result.spec.summary.isFailing
  let totals ← totals? results
  let total ← totals.total?
  return {
    phase := .completed
    summary := .ofCounts total (wordOfCount failed)
    details := some (.object [
      ("reportCount", .int results.length),
      ("severityTotals", totals.toJson),
      ("vulnerabilities", .arr
        (results.flatMap fun result => result.spec.vulnerabilities.map Vulnerability.toJson))]) }

/-- Sums up the results of the policy's jobs. While there are none, the report keeps running. The
additions are checked, and the call breaks off before it writes anything if one exceeds its word. -/
def handleTrivy (r : PolicyReport) (p : Policy) : ExceptT Failure (StateM Cluster) Unit := do
  match ← p.spec.typed with
  | .trivy spec =>
    let results := resultsFor (← get) r (spec.expectedJobs p)
    if results.isEmpty then do
      discard (publish r { r.status.getD {} with phase := .running })
      throw (.error (.notReady s!"no scan results for policy {p.displayName} yet"))
    else
      match scannedStatus? results with
      | some status => discard (publish r status)
      | none => throw .overflow
  | _ => throw (.error (.validation "trivy report requires a trivy policy"))

/-! ## Litmus -/

/-- The status in which every declared experiment is a check that passed. -/
def experimentsStatus (spec : LitmusSpec) : ReportStatus where
  phase := .completed
  summary := .ofCounts (wordOfCount spec.experiments.length) 0
  details := some (.object [("experiments", Json.ofTexts (spec.experiments.map Experiment.name))])

def handleLitmus (r : PolicyReport) (p : Policy) : ClusterM Unit := do
  match ← p.spec.typed with
  | .litmus spec => discard (publish r (experimentsStatus spec))
  | _ => throw (.validation "litmus report requires a litmus policy")

/-- Brings a report up to date by the handler of its type. -/
def handle (refresh : Duration) (r : PolicyReport) (p : Policy) :
    ExceptT Failure (StateM Platform) Unit := do
  match ← ToolKind.ofName r.spec.type with
  | .falco => handleFalco refresh r p
  | .trivy => PlatformM.onCluster (handleTrivy r p)
  | .litmus => PlatformM.onCluster (handleLitmus r p)

end PolicyOperator.ReportHandler
