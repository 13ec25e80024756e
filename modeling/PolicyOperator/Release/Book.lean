import PolicyOperator.Release.Profile
import PolicyOperator.Store

/-!
# Releases

The operations of a chart client, and a book that keeps releases in memory. The book notes every
call that it is asked for, and can be told to let an operation fail.
-/

namespace PolicyOperator

/-- One install or upgrade. -/
structure ReleaseRequest where
  release : String
  ns : String
  chart : String
  values : Json
  timeout : Duration
  deriving DecidableEq

/-- A release as the chart tool lists it. -/
structure Release where
  name : String
  ns : String
  revision : String := ""
  status : String := ""
  chart : String := ""
  appVersion : String := ""
  deriving DecidableEq, Repr

namespace Release

/-- Some operation has not finished, or was cut off and left the release locked. -/
def isPending (r : Release) : Bool := "pending-".isPrefixOf r.status || r.status == "uninstalling"

/-- Reads a release from the chart tool's listing. -/
def ofJson? (j : Draft) : Option Release := do
  let row ← j.row? ["name", "namespace", "revision", "status", "chart", "app_version"]
  return {
    name := ← row.required "name" Draft.text?
    ns := ← row.required "namespace" Draft.text?
    revision := ← row.defaulted "revision" "" Draft.text?
    status := ← row.defaulted "status" "" Draft.text?
    chart := ← row.defaulted "chart" "" Draft.text?
    appVersion := ← row.defaulted "app_version" "" Draft.text? }

def toJson (r : Release) : Json := .object [
  ("appVersion", .str r.appVersion),
  ("chart", .str r.chart),
  ("name", .str r.name),
  ("namespace", .str r.ns),
  ("revision", .str r.revision),
  ("status", .str r.status)]

end Release

/-- What a chart client can be asked for. -/
inductive ChartOperation where
  | repo
  | list
  | install
  | upgrade
  | uninstall
  deriving DecidableEq, Repr

namespace ChartOperation

def name : ChartOperation → String
  | .repo => "repo"
  | .list => "list"
  | .install => "install"
  | .upgrade => "upgrade"
  | .uninstall => "uninstall"

def ofName? (s : String) : Option ChartOperation :=
  [.repo, .list, .install, .upgrade, .uninstall].find? fun o => o.name == s

/-- The operation as errors speak of it. -/
def title (o : ChartOperation) : String := "helm " ++ o.name

end ChartOperation

/-- Releases kept in memory. -/
structure ReleaseBook where
  /-- Each release and the values that it was deployed with. -/
  releases : SortedMap Key (Release × Json) := ∅
  repositories : List String := []
  /-- The calls so far, the latest last. -/
  calls : List String := []
  /-- The operations that fail. -/
  failing : List ChartOperation := []

namespace ReleaseBook

/-- Lets an operation fail from now on. -/
def fail (b : ReleaseBook) (o : ChartOperation) : ReleaseBook :=
  { b with failing := if b.failing.contains o then b.failing else o :: b.failing }

/-- Lets an operation succeed again. -/
def recover (b : ReleaseBook) (o : ChartOperation) : ReleaseBook :=
  { b with failing := b.failing.filter (· ≠ o) }

def get? (b : ReleaseBook) (ns release : String) : Option Release :=
  (b.releases.get? ⟨ns, release⟩).map Prod.fst

/-- The values of a release. -/
def values? (b : ReleaseBook) (ns release : String) : Option Json :=
  (b.releases.get? ⟨ns, release⟩).map Prod.snd

/-- Overwrites the status of a release, if there is one. -/
def setStatus (b : ReleaseBook) (ns release status : String) : ReleaseBook :=
  match b.releases.get? ⟨ns, release⟩ with
  | some (r, values) =>
    { b with releases := b.releases.insert ⟨ns, release⟩ ({ r with status := status }, values) }
  | none => b

/-- The revision after a text: one more than the number it is, or one. -/
def revisionAfter (revision : Option String) : Nat :=
  let digits := (revision.getD "").toList
  let digits := match digits with
    | '+' :: rest => rest
    | cs => cs
  match Text.numeral? 10 digits with
  | some n => if n < UInt32.size then n + 1 else 1
  | none => 1

/-- Files a release as deployed. -/
def deploy (b : ReleaseBook) (r : ReleaseRequest) : ReleaseBook :=
  let release : Release := {
    name := r.release
    ns := r.ns
    revision := toString (revisionAfter ((b.get? r.ns r.release).map Release.revision))
    status := "deployed"
    chart := r.chart
    appVersion := "1.0.0" }
  { b with releases := b.releases.insert ⟨r.ns, r.release⟩ (release, r.values) }

/-- Drops a release. -/
def remove (b : ReleaseBook) (ns release : String) : ReleaseBook :=
  { b with releases := b.releases.erase ⟨ns, release⟩ }

/-- Notes a call. -/
def note (b : ReleaseBook) (o : ChartOperation) (target : String) : ReleaseBook :=
  { b with calls := b.calls ++ [o.name ++ " " ++ target] }

end ReleaseBook

end PolicyOperator
