import PolicyOperator.Json.Reader
import PolicyOperator.Release.Book
import PolicyOperator.Settings
import PolicyOperator.Yaml.Printer

/-!
# The chart program

The operations of a chart client as runs of `helm`: the arguments of each run, and what its outcome
means. `HelmM` is a computation on a host, which answers runs with outcomes that are laid down
beforehand and keeps account of what was run.
-/

namespace PolicyOperator

namespace Helm

/-! ## Arguments -/

def timeoutArg (d : Duration) : String := toString d.seconds ++ "s"

/-- The arguments of an install or upgrade whose values are in a file. -/
def releaseArgs (verb : String) (r : ReleaseRequest) (valuesFile : String) : List String :=
  [verb, r.release, r.chart, "--namespace", r.ns, "--wait", "--timeout", timeoutArg r.timeout,
    "--values", valuesFile]

/-- The arguments that list the release of a name, in whatever state it is. -/
def listArgs (ns release : String) : List String :=
  ["list", "--all", "--namespace", ns, "--filter", "^" ++ release ++ "$", "--output", "json"]

def uninstallArgs (ns release : String) (timeout : Duration) : List String :=
  ["uninstall", release, "--namespace", ns, "--wait", "--timeout", timeoutArg timeout]

/-- The arguments that every run ends with. -/
def commonArgs (s : ToolSettings) : List String :=
  ["--repository-config", s.repositoryConfig, "--repository-cache", s.repositoryCache]

/-! ## Outcomes -/

/-- What a run left behind. -/
structure Outcome where
  stdout : String := ""
  stderr : String := ""
  exitCode : Nat := 0
  deriving DecidableEq, Repr

/-- The complaints about a release that does not exist. -/
def missingRelease : List String := ["release: not found", "Release not loaded"]

def title (operation : String) : String := "helm " ++ operation

/-- The error that a failed run stands for. -/
def failure (operation stderr : String) : Error :=
  let reason := trimmed stderr
  if missingRelease.any fun part => Text.containsPart part.toList stderr.toList then
    .releaseNotFound reason
  else .transient (title operation) reason

/-- The releases that a listing names. -/
def releases? (stdout : String) : Option (List Release) :=
  (Draft.ofText? (trimmed stdout)).bind (Draft.listOf? Release.ofJson?)

/-! ## Runs -/

/-- A run of the program, with the text of the values file if there was one. -/
structure Invocation where
  args : List String
  values : Option String := none
  deriving DecidableEq, Repr

/-- A host with the chart program on it. -/
structure Host where
  settings : ToolSettings := {}
  /-- The outcomes of the runs to come; runs beyond them print nothing and succeed. -/
  outcomes : List Outcome := []
  /-- The runs so far. -/
  invocations : List Invocation := []
  /-- There is no such program. -/
  programMissing : Bool := false
  /-- The operator has been told to stop. -/
  cancelled : Bool := false
  /-- The file that lists chart repositories exists. -/
  hasRepositoryConfig : Bool := false
  /-- The directory of their indexes exists. -/
  hasRepositoryCache : Bool := false

/-- Where the values of a release are left for the program. -/
def valuesFile : String := "/tmp/eirenyx-values.yaml"

/-- The program can be started with the arguments, none of which may hold a NUL. -/
def Host.canStart (h : Host) (args : List String) : Bool :=
  !h.programMissing && args.all fun arg => !arg.toList.contains '\x00'

end Helm

/-- A computation on a host with the chart program. -/
abbrev HelmM := ExceptT Error (StateM Helm.Host)

namespace Helm

/-- Runs the program; the answer is what it printed. -/
def run (operation : String) (args : List String) (values : Option String) : HelmM String := do
  let h ← get
  let args := args ++ commonArgs h.settings
  if !h.canStart args then
    throw (.transient (title operation) "failed to spawn helm")
  let outcome := h.outcomes.headD {}
  set { h with
    outcomes := h.outcomes.tail
    invocations := h.invocations ++ [Invocation.mk args values] }
  if h.cancelled then
    throw (.cancelled (title operation))
  if outcome.exitCode ≠ 0 then
    throw (failure operation outcome.stderr)
  return outcome.stdout

/-- Makes the file and the directory that the program keeps repositories in. -/
def prepare : HelmM Unit :=
  modify fun h => { h with hasRepositoryConfig := true, hasRepositoryCache := true }

/-- Registers a repository and fetches its index. -/
def ensureRepository (r : ChartRepository) : HelmM Unit := do
  prepare
  discard (run "repo add" ["repo", "add", r.name, r.url, "--force-update"] none)
  discard (run "repo update" ["repo", "update", r.name] none)

/-- The release of a name in a namespace. -/
def release (ns name : String) : HelmM (Option Release) := do
  match releases? (← run "list" (listArgs ns name) none) with
  | some releases => return releases.find? fun r => r.name == name
  | none => throw (.json "not a list of releases")

/-- Installs or upgrades, as the verb says. -/
def deploy (verb : String) (r : ReleaseRequest) : HelmM Unit :=
  discard (run verb (releaseArgs verb r valuesFile) (some (Yaml.document (Yaml.ofJson r.values))))

def install (r : ReleaseRequest) : HelmM Unit := deploy "install" r

def upgrade (r : ReleaseRequest) : HelmM Unit := deploy "upgrade" r

def uninstall (ns name : String) (timeout : Duration) : HelmM Unit :=
  discard (run "uninstall" (uninstallArgs ns name timeout) none)

end Helm

end PolicyOperator
