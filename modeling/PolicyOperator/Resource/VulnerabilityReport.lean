import PolicyOperator.Json.Codec

/-!
# Vulnerability reports

The results that the scanner files for a workload: findings, and their counts by severity. Counts
are words of 32 bits, and so are sums of them: a sum that exceeds a word is none.
-/

namespace PolicyOperator

/-- The sum of two words, unless it exceeds a word. -/
def addWord? (a b : UInt32) : Option UInt32 :=
  if a.toNat + b.toNat < UInt32.size then some (a + b) else none

/-- Findings per severity. -/
structure SeverityCounts where
  critical : UInt32 := 0
  high : UInt32 := 0
  medium : UInt32 := 0
  low : UInt32 := 0
  unknown : UInt32 := 0
  deriving DecidableEq, Repr, Inhabited

namespace SeverityCounts

/-- Some finding is critical or high. -/
def isFailing (c : SeverityCounts) : Bool := 0 < c.critical || 0 < c.high

/-- All findings of a known severity. -/
def total? (c : SeverityCounts) : Option UInt32 := do
  let severe ← addWord? c.critical c.high
  let noted ← addWord? severe c.medium
  addWord? noted c.low

def add? (a b : SeverityCounts) : Option SeverityCounts := do
  return {
    critical := ← addWord? a.critical b.critical
    high := ← addWord? a.high b.high
    medium := ← addWord? a.medium b.medium
    low := ← addWord? a.low b.low
    unknown := ← addWord? a.unknown b.unknown }

def toJson (c : SeverityCounts) : Json := .record [
  ("criticalCount", some (Json.ofWord c.critical)),
  ("highCount", some (Json.ofWord c.high)),
  ("lowCount", some (Json.ofWord c.low)),
  ("mediumCount", some (Json.ofWord c.medium)),
  ("unknownCount", some (Json.ofWord c.unknown))]

def ofJson? (j : Draft) : Option SeverityCounts := do
  let row ← j.row? ["criticalCount", "highCount", "mediumCount", "lowCount", "unknownCount"]
  return {
    critical := ← row.defaulted "criticalCount" 0 Draft.word32?
    high := ← row.defaulted "highCount" 0 Draft.word32?
    medium := ← row.defaulted "mediumCount" 0 Draft.word32?
    low := ← row.defaulted "lowCount" 0 Draft.word32?
    unknown := ← row.defaulted "unknownCount" 0 Draft.word32? }

end SeverityCounts

/-- One finding. -/
structure Vulnerability where
  id : String := ""
  severity : String := ""
  resource : Option String := none
  installedVersion : Option String := none
  fixedVersion : Option String := none
  title : Option String := none
  deriving DecidableEq, Repr

namespace Vulnerability

def toJson (v : Vulnerability) : Json := .record [
  ("fixedVersion", v.fixedVersion.map .str),
  ("installedVersion", v.installedVersion.map .str),
  ("resource", v.resource.map .str),
  ("severity", some (.str v.severity)),
  ("title", v.title.map .str),
  ("vulnerabilityID", some (.str v.id))]

def ofJson? (j : Draft) : Option Vulnerability := do
  let row ← j.row? ["vulnerabilityID", "severity", "resource", "installedVersion", "fixedVersion",
    "title"]
  return {
    id := ← row.defaulted "vulnerabilityID" "" Draft.text?
    severity := ← row.defaulted "severity" "" Draft.text?
    resource := ← row.optional "resource" Draft.text?
    installedVersion := ← row.optional "installedVersion" Draft.text?
    fixedVersion := ← row.optional "fixedVersion" Draft.text?
    title := ← row.optional "title" Draft.text? }

end Vulnerability

/-- The payload of a vulnerability report. -/
structure ScanResult where
  summary : SeverityCounts := {}
  vulnerabilities : List Vulnerability := []
  deriving DecidableEq, Repr

namespace ScanResult

def toJson (r : ScanResult) : Json := .record [
  ("summary", some r.summary.toJson),
  ("vulnerabilities", some (.arr (r.vulnerabilities.map Vulnerability.toJson)))]

def ofJson? (j : Draft) : Option ScanResult := do
  let row ← j.row? ["summary", "vulnerabilities"]
  return {
    summary := ← row.defaulted "summary" {} SeverityCounts.ofJson?
    vulnerabilities := ← row.defaulted "vulnerabilities" [] (Draft.listOf? Vulnerability.ofJson?) }

end ScanResult

end PolicyOperator
