import PolicyOperator.Resource.Object

/-!
# Labels

Every artifact carries labels by which it is found again, so cleaning up needs no memory of what
was made. A selector asks for equal values under some keys.
-/

namespace PolicyOperator

/-- The label pairs that an object has to carry. -/
abbrev Selector := TextMap

namespace Selector

/-- The labels hold every pair of the selector. -/
def accepts (selector : Selector) (labels : Option TextMap) : Bool :=
  selector.entries.all fun (key, value) => (labels.bind (·.get? key)) == some value

/-- The selector as the API server reads it: `key=value` pairs with commas between. -/
def toText (selector : Selector) : String :=
  ",".intercalate (selector.entries.map fun (key, value) => key ++ "=" ++ value)

end Selector

namespace Labels

def managedBy : String := "app.kubernetes.io/managed-by"
def manager : String := "eirenyx"
def policyName : String := "eirenyx.eirenyx/policy-name"
def policyType : String := "eirenyx.eirenyx/policy-type"
def policyNamespace : String := "eirenyx.eirenyx/policy-namespace"
def scanName : String := "eirenyx.eirenyx/trivy-scan-name"
def experimentName : String := "eirenyx.eirenyx/litmus-experiment"

/-- The kind of workload that a vulnerability report is about. -/
def resourceKind : String := "trivy-operator.resource.kind"

/-- The name of the workload that a vulnerability report is about. -/
def resourceName : String := "trivy-operator.resource.name"

/-- Accepts every artifact of the policies with a name. -/
def ofPolicyName (name : String) : Selector :=
  .ofList [(managedBy, manager), (policyName, name)]

/-- A selector that only accepts artifacts of policies in one namespace. -/
def inNamespace (selector : Selector) (ns : String) : Selector :=
  selector.insert policyNamespace ns

/-- The labels that all artifacts of a policy share. -/
def ofPolicy (p : Policy) : TextMap :=
  let labels := (ofPolicyName (p.metadata.name.getD "")).insert policyType p.spec.type
  match p.metadata.ns with
  | some ns => labels.insert policyNamespace ns
  | none => labels

end Labels

/-- The report is about the job with a name. -/
def Object.isForJob (r : VulnerabilityReport) (job : String) : Bool :=
  match r.metadata.labels with
  | some labels =>
    labels.get? Labels.resourceKind == some "Job" && labels.get? Labels.resourceName == some job
  | none => false

end PolicyOperator
