import PolicyOperator.Resource.ChaosEngine
import PolicyOperator.Resource.Policy
import PolicyOperator.Resource.PolicyReport
import PolicyOperator.Resource.Tool
import PolicyOperator.Resource.VulnerabilityReport
import PolicyOperator.Resource.Workload

/-!
# Kinds of objects

The ten kinds of namespaced objects, where each is found on the API server, and the types of its
parts.
-/

namespace PolicyOperator

inductive ResourceKind where
  | tool
  | policy
  | policyReport
  | configMap
  | job
  | chaosEngine
  | vulnerabilityReport
  | pod
  | daemonSet
  | deployment
  deriving DecidableEq, Repr

namespace ResourceKind

def all : List ResourceKind :=
  [.tool, .policy, .policyReport, .configMap, .job, .chaosEngine, .vulnerabilityReport, .pod,
    .daemonSet, .deployment]

def name : ResourceKind → String
  | .tool => "Tool"
  | .policy => "Policy"
  | .policyReport => "PolicyReport"
  | .configMap => "ConfigMap"
  | .job => "Job"
  | .chaosEngine => "ChaosEngine"
  | .vulnerabilityReport => "VulnerabilityReport"
  | .pod => "Pod"
  | .daemonSet => "DaemonSet"
  | .deployment => "Deployment"

def ofName? (s : String) : Option ResourceKind := all.find? fun k => k.name == s

/-- The API group; empty for the core group. -/
def group : ResourceKind → String
  | .tool | .policy | .policyReport => "eirenyx.eirenyx"
  | .configMap | .pod => ""
  | .job => "batch"
  | .chaosEngine => "litmuschaos.io"
  | .vulnerabilityReport => "aquasecurity.github.io"
  | .daemonSet | .deployment => "apps"

def version : ResourceKind → String
  | .tool | .policy | .policyReport | .chaosEngine | .vulnerabilityReport => "v1alpha1"
  | .configMap | .job | .pod | .daemonSet | .deployment => "v1"

/-- Group and version as objects carry them. -/
def apiVersion (k : ResourceKind) : String :=
  if k.group = "" then k.version else k.group ++ "/" ++ k.version

def plural : ResourceKind → String
  | .tool => "tools"
  | .policy => "policies"
  | .policyReport => "policyreports"
  | .configMap => "configmaps"
  | .job => "jobs"
  | .chaosEngine => "chaosengines"
  | .vulnerabilityReport => "vulnerabilityreports"
  | .pod => "pods"
  | .daemonSet => "daemonsets"
  | .deployment => "deployments"

/-- The kind is part of the cluster itself, so its wire form is read leniently. -/
def isBuiltIn : ResourceKind → Bool
  | .configMap | .job | .pod | .daemonSet | .deployment => true
  | _ => false

/-- The part of an object whose edits count as generations. -/
@[reducible] def Spec : ResourceKind → Type
  | .tool => ToolSpec
  | .policy => PolicySpec
  | .policyReport => ReportSpec
  | .configMap => Option TextMap
  | .job => Option JobSpec
  | .chaosEngine => ChaosEngineSpec
  | .vulnerabilityReport => ScanResult
  | .pod => Option PodSpec
  | .daemonSet | .deployment => Option WorkloadSpec

/-- The part of an object that reports on it. -/
@[reducible] def Status : ResourceKind → Type
  | .tool => ToolStatus
  | .policy => PolicyStatus
  | .policyReport => ReportStatus
  | .configMap | .vulnerabilityReport => Empty
  | .job => JobStatus
  | .chaosEngine => ChaosEngineStatus
  | .pod => PodStatus
  | .daemonSet => DaemonSetStatus
  | .deployment => DeploymentStatus

instance : (k : ResourceKind) → DecidableEq k.Spec
  | .tool => inferInstanceAs (DecidableEq ToolSpec)
  | .policy => inferInstanceAs (DecidableEq PolicySpec)
  | .policyReport => inferInstanceAs (DecidableEq ReportSpec)
  | .configMap => inferInstanceAs (DecidableEq (Option TextMap))
  | .job => inferInstanceAs (DecidableEq (Option JobSpec))
  | .chaosEngine => inferInstanceAs (DecidableEq ChaosEngineSpec)
  | .vulnerabilityReport => inferInstanceAs (DecidableEq ScanResult)
  | .pod => inferInstanceAs (DecidableEq (Option PodSpec))
  | .daemonSet | .deployment => inferInstanceAs (DecidableEq (Option WorkloadSpec))

instance : (k : ResourceKind) → DecidableEq k.Status
  | .tool => inferInstanceAs (DecidableEq ToolStatus)
  | .policy => inferInstanceAs (DecidableEq PolicyStatus)
  | .policyReport => inferInstanceAs (DecidableEq ReportStatus)
  | .configMap | .vulnerabilityReport => inferInstanceAs (DecidableEq Empty)
  | .job => inferInstanceAs (DecidableEq JobStatus)
  | .chaosEngine => inferInstanceAs (DecidableEq ChaosEngineStatus)
  | .pod => inferInstanceAs (DecidableEq PodStatus)
  | .daemonSet => inferInstanceAs (DecidableEq DaemonSetStatus)
  | .deployment => inferInstanceAs (DecidableEq DeploymentStatus)

end ResourceKind

end PolicyOperator
