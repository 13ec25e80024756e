import PolicyOperator.Duration
import PolicyOperator.Json.Basic
import PolicyOperator.ToolKind

/-!
# Install profiles

What it takes to install each kind of tool: chart, release, namespace, baseline values, and the
workload whose readiness stands for the tool's health.
-/

namespace PolicyOperator

/-- A place that charts come from. -/
structure ChartRepository where
  name : String
  url : String
  deriving DecidableEq, Repr

/-- The workload that has to be ready. -/
inductive HealthSource where
  | daemonSet (name : String)
  | deployment (name : String)
  deriving DecidableEq, Repr

structure Profile where
  kind : ToolKind
  /-- The namespace that the tool is installed in by convention. -/
  ns : String
  release : String
  repository : ChartRepository
  chart : String
  workload : HealthSource
  /-- How long an install may take, where the chart is a slow one. -/
  installTimeout : Option Duration := none
  baseline : Json
  deriving DecidableEq

namespace Profile

def ofKind : ToolKind → Profile
  | .falco => {
    kind := .falco
    ns := "falco"
    release := "falco"
    repository := {
      name := "falcosecurity"
      url := "https://falcosecurity.github.io/charts" }
    chart := "falcosecurity/falco"
    workload := .daemonSet "falco"
    baseline := .object [
      ("driver", .object [("kind", .str "modern_ebpf")]),
      ("tty", .bool true)] }
  | .trivy => {
    kind := .trivy
    ns := "trivy-system"
    release := "trivy-operator"
    repository := {
      name := "aqua"
      url := "https://aquasecurity.github.io/helm-charts/" }
    chart := "aqua/trivy-operator"
    workload := .deployment "trivy-operator"
    baseline := .object [("operator", .object [("vulnerabilityScannerEnabled", .bool true)])] }
  | .litmus => {
    kind := .litmus
    ns := "litmus"
    release := "litmus"
    repository := {
      name := "litmuschaos"
      url := "https://litmuschaos.github.io/litmus-helm/" }
    chart := "litmuschaos/litmus"
    workload := .deployment "litmus-server"
    installTimeout := some (.ofSeconds 600)
    baseline := .object [] }

/-- Where to install: the declared namespace unless it is empty, else the conventional one. -/
def nsOr (p : Profile) (declared : Option String) : String :=
  (declared.filter (· ≠ "")).getD p.ns

end Profile

end PolicyOperator
