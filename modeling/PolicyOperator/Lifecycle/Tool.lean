import PolicyOperator.Lifecycle.Drive
import PolicyOperator.Release.Package

/-!
# The lifecycle of tools

A tool keeps one release installed. Its status says whether the release is there and whether its
workload is ready.
-/

namespace PolicyOperator.ToolLifecycle

def finalizer : String := "eirenyx.tool/finalizer"

def synced (t : Tool) : Bool := t.status.any fun s => s.installed && s.healthy

/-- Writes a status unless it is there already. -/
def publish (t : Tool) (status : ToolStatus) : PlatformM Unit := do
  if t.status = some status then
    return
  else
    discard (PlatformM.onCluster (ClusterM.replaceStatus { t with status := some status }))

/-- A finding on the tool as a whole. -/
def finding (t : Tool) (healthy : Bool) (reason message : String) : Finding where
  type := Condition.ready
  healthy := healthy
  reason := reason
  message := message
  observedGeneration := t.metadata.generation

/-- The status after a failure. -/
def failedStatus (t : Tool) (reason : String) (e : Error) (now : Instant) : ToolStatus :=
  let status := t.status.getD {}
  { status with
    conditions := Condition.record (finding t false reason e.message) now status.conditions }

/-- Notes a failure on the status, as well as that can be done. -/
def recordFailure (t : Tool) (reason : String) (e : Error) : PlatformM Unit := do
  let now := (← get).cluster.clock
  discard (PlatformM.attempt (publish t (failedStatus t reason e now)))

/-- Removes the release. An unknown type never had one. -/
def cleanup (t : Tool) : PlatformM Unit := do
  match ← PlatformM.attempt (Package.ensureUninstalled t) with
  | .ok () => return
  | .error e => if e.isTerminal then return else throw e

/-- The status of a disabled tool, of which only the conditions stay. -/
def disabledStatus (t : Tool) (now : Instant) : ToolStatus where
  conditions :=
    Condition.record (finding t false "Disabled" "tool is disabled") now (t.status.getD {}).conditions

def disable (t : Tool) : PlatformM Unit := do
  cleanup t
  publish t (disabledStatus t (← get).cluster.clock)

/-- The status after an install. -/
def syncedStatus (t : Tool) (healthy : Bool) (version : Option String) (now : Instant) :
    ToolStatus :=
  let status := t.status.getD {}
  let found :=
    if healthy then finding t true "Healthy" "workload is ready"
    else finding t false "NotReady" "workload is not ready yet"
  { installed := true
    healthy := healthy
    version := version
    conditions := Condition.record found now status.conditions }

/-- Validates the tool, installs or upgrades its release, waits for its workload, and says so. A
tool that is not healthy is looked at again later. -/
def sync (settings : ToolSettings) (t : Tool) : PlatformM (Option Duration) := do
  match Package.validate t with
  | .error e => do
    recordFailure t "ValidationFailed" e
    throw e
  | .ok _ =>
    match ← PlatformM.attempt (Package.ensureInstalled settings t) with
    | .error e => do
      recordFailure t "InstallFailed" e
      throw e
    | .ok _ => do
      let healthy ← Package.waitHealthy settings t
      let version ← PlatformM.attempt (Package.releaseVersion t)
      let now := (← get).cluster.clock
      publish t (syncedStatus t healthy version.toOption.join now)
      return if healthy then none else some settings.pollTimeout

end ToolLifecycle

/-- The lifecycle of tools. -/
def Lifecycle.tool (settings : ToolSettings) : Lifecycle .tool where
  finalizer := ToolLifecycle.finalizer
  enabled t := t.spec.enabled
  linked _ := none
  synced := ToolLifecycle.synced
  link t := pure t
  cleanup := ToolLifecycle.cleanup
  disable := ToolLifecycle.disable
  sync := ToolLifecycle.sync settings

end PolicyOperator
