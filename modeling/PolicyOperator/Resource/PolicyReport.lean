import PolicyOperator.Json.Codec

/-!
# Policy reports

A report holds the outcome of one policy that was observed last.
-/

namespace PolicyOperator

/-- The policy, and the edit of it, that a report is about. -/
structure PolicyRef where
  name : String
  generation : Int := 0
  deriving DecidableEq, Repr

namespace PolicyRef

def toJson (r : PolicyRef) : Json := .record [
  ("generation", some (.int r.generation)),
  ("name", some (.str r.name))]

def ofJson? (j : Draft) : Option PolicyRef := do
  let row ← j.row? ["name", "generation"]
  return {
    name := ← row.required "name" Draft.text?
    generation := ← row.defaulted "generation" 0 Draft.int64? }

end PolicyRef

structure ReportSpec where
  policyRef : PolicyRef
  /-- The name of one of the tool kinds. -/
  type : String
  deriving DecidableEq, Repr

namespace ReportSpec

def toJson (s : ReportSpec) : Json := .record [
  ("policyRef", some s.policyRef.toJson),
  ("type", some (.str s.type))]

def ofJson? (j : Draft) : Option ReportSpec := do
  let row ← j.row? ["policyRef", "type"]
  return {
    policyRef := ← row.required "policyRef" PolicyRef.ofJson?
    type := ← row.required "type" Draft.text? }

end ReportSpec

inductive ReportPhase where
  | pending
  | running
  | completed
  | failed
  deriving DecidableEq, Repr

namespace ReportPhase

def name : ReportPhase → String
  | .pending => "Pending"
  | .running => "Running"
  | .completed => "Completed"
  | .failed => "Failed"

def ofName? : String → Option ReportPhase
  | "Pending" => some .pending
  | "Running" => some .running
  | "Completed" => some .completed
  | "Failed" => some .failed
  | _ => none

end ReportPhase

inductive Verdict where
  | pass
  | fail
  | unknown
  deriving DecidableEq, Repr

namespace Verdict

def name : Verdict → String
  | .pass => "Pass"
  | .fail => "Fail"
  | .unknown => "Unknown"

def ofName? : String → Option Verdict
  | "Pass" => some .pass
  | "Fail" => some .fail
  | "Unknown" => some .unknown
  | _ => none

end Verdict

/-- The outcome in numbers. -/
structure ReportSummary where
  verdict : Verdict := .unknown
  totalChecks : UInt32 := 0
  passed : UInt32 := 0
  failed : UInt32 := 0
  deriving DecidableEq, Repr

namespace ReportSummary

/-- The summary of `total` checks of which `failed`, at most all, did not pass. One failed check
fails the whole. -/
def ofCounts (total failed : UInt32) : ReportSummary :=
  let failed := min failed total
  { verdict := if 0 < failed then .fail else .pass
    totalChecks := total
    passed := total - failed
    failed := failed }

def toJson (s : ReportSummary) : Json := .record [
  ("failed", some (Json.ofWord s.failed)),
  ("passed", some (Json.ofWord s.passed)),
  ("totalChecks", some (Json.ofWord s.totalChecks)),
  ("verdict", some (.str s.verdict.name))]

def ofJson? (j : Draft) : Option ReportSummary := do
  let row ← j.row? ["verdict", "totalChecks", "passed", "failed"]
  return {
    verdict := ← row.defaulted "verdict" .unknown fun j => j.word?.bind Verdict.ofName?
    totalChecks := ← row.defaulted "totalChecks" 0 Draft.word32?
    passed := ← row.defaulted "passed" 0 Draft.word32?
    failed := ← row.defaulted "failed" 0 Draft.word32? }

end ReportSummary

structure ReportStatus where
  phase : ReportPhase := .pending
  summary : ReportSummary := {}
  /-- What the tool found, in a form of its own. -/
  details : Option Json := none
  /-- The generation of the report that the status was made for. -/
  observedGeneration : Option Int := none
  /-- When sampled evidence was drawn last. -/
  refreshedAt : Option Instant := none
  deriving DecidableEq

namespace ReportStatus

def toJson (s : ReportStatus) : Json := .record [
  ("details", s.details),
  ("observedGeneration", s.observedGeneration.map .int),
  ("phase", some (.str s.phase.name)),
  ("refreshedAt", s.refreshedAt.map Json.ofInstant),
  ("summary", some s.summary.toJson)]

def ofJson? (j : Draft) : Option ReportStatus := do
  let row ← j.row? ["phase", "summary", "details", "observedGeneration", "refreshedAt"]
  return {
    phase := ← row.defaulted "phase" .pending fun j => j.word?.bind ReportPhase.ofName?
    summary := ← row.defaulted "summary" {} ReportSummary.ofJson?
    details := ← row.optional "details" Draft.value?
    observedGeneration := ← row.optional "observedGeneration" Draft.int64?
    refreshedAt := ← row.optional "refreshedAt" Draft.instant? }

def wholeSeconds (s : ReportStatus) : ReportStatus :=
  { s with refreshedAt := s.refreshedAt.map Instant.wholeSeconds }

@[simp] theorem wholeSeconds_wholeSeconds (s : ReportStatus) :
    s.wholeSeconds.wholeSeconds = s.wholeSeconds := by
  simp [wholeSeconds, Function.comp_def]

/-- The status with the signs of zeros in its details dropped. -/
def unsignedZeros (s : ReportStatus) : ReportStatus :=
  { s with details := s.details.map Json.unsignedZeros }

end ReportStatus

end PolicyOperator
