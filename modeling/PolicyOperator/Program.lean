import PolicyOperator.CommandLine.Help
import PolicyOperator.Configuration
import PolicyOperator.Log.Filter
import PolicyOperator.Manifest.Definition
import PolicyOperator.Text.Debug
import PolicyOperator.Yaml.Printer

/-!
# The program

What the program does before it works on a cluster: `run` reads its settings, logs that it starts and
looks for a cluster, `crds` prints the object definitions. `Program.ending` tells how a start ends
where there is no cluster to be found.
-/

namespace PolicyOperator.Program

/-- What surrounds a start of the program. -/
structure Surroundings where
  args : List String
  /-- The filter of logs that the environment names. -/
  logFilter : Option String := none
  /-- The chart program that the environment names. -/
  helmPath : Option String := none
  /-- The directory that the environment names as the user's own. -/
  home : Option String := none
  /-- What files hold; nothing for those that cannot be read. -/
  files : String → Option String := fun _ => none

/-- How a start ends. -/
structure Ending where
  exitCode : Nat := 0
  /-- What is printed, apart from logs. -/
  output : String := ""
  /-- What is logged. -/
  events : List LogEvent := []
  /-- Logs are JSON lines. -/
  jsonLogs : Bool := false
  /-- What is complained of, line by line. -/
  complaint : String := ""
  deriving DecidableEq, Repr

/-- The object definitions as YAML documents. -/
def definitionsText : String :=
  "---\n".intercalate (Definition.all.map fun d => Yaml.document (Yaml.ofJson d.toJson)) ++ "\n"

/-- The start of the controllers, as it is logged. -/
def startEvent (s : Settings) : LogEvent where
  level := .info
  target := "eirenyx"
  message := "Eirenyx starting"
  fields := [("field_manager", s.fieldManager)]

/-- The search for a cluster goes on where the user names none. -/
def searchEvent (home : Option String) : LogEvent where
  level := .trace
  target := "kube_client::config"
  message := "no local config found, falling back to local in-cluster config"
  fields := [("error", match home with
    | some path => "failed to read kubeconfig from '" ++
        Text.debugQuoted (path ++ "/.kube/config") ++ "': No such file or directory (os error 2)"
    | none => "failed to find the path of kubeconfig")]

def noCluster : String :=
  "failed to build a cluster client from kubeconfig or service account"

/-- What stands in front of the cause of a failure. -/
def errorMark : String := "Error: "

/-- How `run` ends. -/
def runEnding (s : Surroundings) (o : CommandLine.RunOptions) : Ending :=
  match LogFilter.choose? s.logFilter o.logLevel with
  | none => {
    exitCode := 101
    complaint := CommandLine.lines [LogDirective.Fault.message .torn] }
  | some chosen =>
    let failed (message : String) (events : List LogEvent) : Ending := {
      exitCode := 1
      events := events.filter chosen.filter.allows
      jsonLogs := o.jsonLogs
      complaint := CommandLine.lines
        (chosen.refused.map (fun r => LogFilter.refusalLine r.1 r.2) ++ [errorMark ++ message]) }
    match Settings.load (o.config.map fun path => (path, s.files path)) s.helmPath with
    | .error e => failed e.message []
    | .ok settings => failed noCluster [startEvent settings, searchEvent s.home]

/-- How a start of the program ends. -/
def ending (s : Surroundings) : Ending :=
  match CommandLine.Command.ofArgs s.args with
  | .ok (.run o) => runEnding s o
  | .ok .crds => { output := definitionsText }
  | .error stop =>
    if stop.isAnswer then { output := stop.text } else { exitCode := 2, complaint := stop.text }

/-- The cause of a failure, as the first line that is marked as one gives it. -/
def Ending.error? (e : Ending) : Option String :=
  (e.complaint.splitOn "\n").findSome? fun line =>
    (Text.dropPrefix? errorMark.toList line.toList).map fun rest =>
      String.ofList (if rest.getLast? = some '\r' then rest.dropLast else rest)

/-- The logs as text; every event has the same time. -/
def Ending.logText (e : Ending) (time : String) : String :=
  CommandLine.lines (e.events.map fun event =>
    if e.jsonLogs then event.jsonLine time else event.plainLine time)

/-- The file whose content a start depends on. -/
def configFile? (args : List String) : Option String :=
  match CommandLine.Command.ofArgs args with
  | .ok (.run o) => o.config
  | _ => none

end PolicyOperator.Program
