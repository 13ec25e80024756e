import PolicyOperator.Release.Charts
import PolicyOperator.Release.Readiness
import PolicyOperator.Release.Values
import PolicyOperator.Settings

/-!
# Packages

Installing, upgrading and removing the release of a tool, and the health of its workload. Every
operation may be repeated.
-/

namespace PolicyOperator.Package

/-- What an install did. -/
inductive Outcome where
  | installed
  | upgraded
  deriving DecidableEq, Repr

/-- The profile of a tool and the namespace to install it in. -/
def profile (t : Tool) : Except Error (Profile × String) := do
  let profile := Profile.ofKind (← t.spec.kind)
  return (profile, profile.nsOr t.spec.ns)

/-- The tool's kind, if its spec makes sense. -/
def validate (t : Tool) : Except Error ToolKind := do
  let kind ← t.spec.kind
  match t.spec.values with
  | some values =>
    if !values.isNull && !values.isObject then
      throw (.validation "tool values must be a mapping")
  | none => pure ()
  return kind

/-- The values that a tool is installed with. -/
def values (p : Profile) (t : Tool) : Json := Json.mergedValues p.baseline t.spec.values

/-- What to ask the chart client for. -/
def request (settings : ToolSettings) (p : Profile) (ns : String) (t : Tool) :
    ReleaseRequest where
  release := p.release
  ns := ns
  chart := p.chart
  values := values p t
  timeout := p.installTimeout.getD settings.installTimeout

/-- Installs the tool's chart, or upgrades the release that is there. A locked release is left
alone. -/
def ensureInstalled (settings : ToolSettings) (t : Tool) : PlatformM Outcome := do
  let (profile, ns) ← profile t
  PlatformM.onCluster (ClusterM.ensureNamespace ns)
  Charts.ensureRepository profile.repository
  let request := request settings profile ns t
  match ← Charts.release ns profile.release with
  | some existing =>
    if existing.isPending then
      throw (.notReady s!"release {existing.name} in {ns} is {existing.status}")
    else do
      Charts.upgrade request
      return .upgraded
  | none => do
    Charts.install request
    return .installed

/-- Removes the tool's release. There need not be one. -/
def ensureUninstalled (t : Tool) : PlatformM Unit := do
  let (profile, ns) ← profile t
  match ← PlatformM.attempt (Charts.uninstall ns profile.release) with
  | .ok () => return
  | .error (.releaseNotFound _) => return
  | .error e => throw e

/-- Whether a cluster has a ready workload for a profile. -/
def isHealthy (c : Cluster) (p : Profile) (ns : String) : Bool :=
  match p.workload with
  | .daemonSet name => (c.daemonSets.get? ns name).any Object.isReadyDaemonSet
  | .deployment name => (c.deployments.get? ns name).any Object.isReadyDeployment

/-- One probe of the tool's workload. -/
def checkHealth (t : Tool) : PlatformM Bool := do
  let (profile, ns) ← profile t
  return isHealthy (← get).cluster profile ns

/-- Probes the tool's workload without a break until it is ready or no time remains. Between two
events all probes find the same, so one is made of them. -/
def watchHealth (t : Tool) : (probes : Nat) → (remaining : Duration) → PlatformM Bool
  | 0, _ => return false
  | probes + 1, remaining => do
    if ← checkHealth t then
      return true
    else if remaining.nanoseconds = 0 then
      return false
    else do
      let d := (← get).untilNext remaining
      PlatformM.pause "readiness poll" d
      watchHealth t probes ⟨remaining.nanoseconds - d.nanoseconds⟩

/-- Probes the tool's workload until it is ready or polling gives up. Without an interval it is
watched: a probe at the start, one after each event at most, and one at the end. -/
def waitHealthy (settings : ToolSettings) (t : Tool) : PlatformM Bool := do
  if settings.pollInterval.nanoseconds = 0 then
    watchHealth t ((← get).agenda.length + 2) settings.pollTimeout
  else
    Poll.untilReady (checkHealth t) (PlatformM.pause "readiness poll") settings.pollInterval
      (Poll.maxProbes settings.pollInterval settings.pollTimeout 1) settings.pollTimeout

/-- The version that the tool's release runs. -/
def releaseVersion (t : Tool) : PlatformM (Option String) := do
  let (profile, ns) ← profile t
  let release ← Charts.release ns profile.release
  return (release.map Release.appVersion).filter (· ≠ "")

end PolicyOperator.Package
