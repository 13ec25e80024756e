import PolicyOperator.Artifact

/-!
# Scan jobs

The trivy engine runs one job per declared scan. A job's name carries the policy's generation, so
an edit starts new scans while an unchanged policy never repeats one.
-/

namespace PolicyOperator

namespace Scan

def scannerImage : String := "aquasec/trivy:latest"

/-- How long a finished job is kept. -/
def keptSeconds : Int := 300

/-- The command line of the scanner. -/
def command (s : Scan) : List String :=
  ["trivy", "image"] ++
    (match s.severity with
      | some severity => if severity = "" then [] else ["--severity", severity]
      | none => []) ++
    (if s.ignoreUnfixed then ["--ignore-unfixed"] else []) ++
    (if s.vulnerabilityTypes.isEmpty then []
      else ["--vuln-type", ",".intercalate s.vulnerabilityTypes]) ++
    (match s.exitCode with
      | some code => ["--exit-code", toString code]
      | none => []) ++
    [s.image]

end Scan

namespace TrivySpec

/-- The name of a scan's job in the current generation of a policy. -/
def jobName (p : Policy) (scan : Scan) : String :=
  Naming.scanJob p.displayName scan.name (Artifact.generation p)

/-- The jobs that the current generation of a policy has. -/
def expectedJobs (s : TrivySpec) (p : Policy) : List String := s.scans.map (jobName p)

end TrivySpec

namespace Engine.Scans

/-- The trivy section of a policy. -/
def specOf (p : Policy) : Except Error TrivySpec := do
  match ← p.spec.typed with
  | .trivy spec => return spec
  | _ => throw (.validation "trivy engine received a non-trivy policy")

def validate (p : Policy) : Except Error Unit := do
  let spec ← specOf p
  if spec.scans.isEmpty then
    throw (.validation "spec.trivy.scans must contain at least one scan")
  spec.scans.zipIdx.forM fun (scan, i) =>
    if scan.name = "" then throw (.validation s!"trivy.scans[{i}].name is required")
    else if scan.image = "" then throw (.validation s!"trivy.scans[{i}].image is required")
    else pure ()

/-- The job of a scan. -/
def job (p : Policy) (scan : Scan) : Job where
  metadata := Artifact.ownedMetadata p (TrivySpec.jobName p scan) [(Labels.scanName, scan.name)]
  spec := some {
    backoffLimit := some 0
    ttlSecondsAfterFinished := some Scan.keptSeconds
    template := {
      metadata := some { labels := some (.ofList [(Labels.scanName, scan.name)]) }
      spec := some {
        restartPolicy := some "Never"
        containers := [{
          name := "trivy"
          image := some Scan.scannerImage
          command := some scan.command }] } } }

end Engine.Scans

namespace Access

variable [Monad m] (a : Access m)

/-- Creates a scan's job unless there is one of its name, which is left alone. -/
def ensureJob (p : Policy) (scan : Scan) : m Unit := do
  match ← a.get? .job p.metadata.nsOrEmpty (TrivySpec.jobName p scan) with
  | some _ => return
  | none => discard (a.create (Engine.Scans.job p scan))

/-- The jobs of a policy that a selector finds. -/
def ownJobs (p : Policy) : m (List Job) :=
  a.list .job (some p.metadata.nsOrEmpty) (Labels.ofPolicyName p.displayName)

def deleteJob (p : Policy) (j : Job) : m Unit :=
  discard (a.delete .job p.metadata.nsOrEmpty j.displayName)

/-- Creates the jobs that are missing, then deletes those of older generations and removed
scans. -/
def reconcileScans [MonadLiftT (Except Error) m] (p : Policy) : m Unit := do
  let spec ← Engine.Scans.specOf p
  spec.scans.forM (a.ensureJob p)
  let stale := (← a.ownJobs p).filter fun j => !(spec.expectedJobs p).contains j.displayName
  stale.forM (a.deleteJob p)

end Access

namespace Engine.Scans

/-- See `Access.ensureJob`. -/
def ensureJob (p : Policy) (scan : Scan) : ClusterM Unit := Access.direct.ensureJob p scan

/-- See `Access.ownJobs`. -/
def ownJobs (p : Policy) : ClusterM (List Job) := Access.direct.ownJobs p

def deleteJob (p : Policy) (j : Job) : ClusterM Unit := Access.direct.deleteJob p j

/-- See `Access.reconcileScans`. -/
def reconcile (p : Policy) : ClusterM Unit := Access.direct.reconcileScans p

def cleanup (p : Policy) : ClusterM Unit := do
  (← ownJobs p).forM (deleteJob p)

end Engine.Scans

end PolicyOperator
