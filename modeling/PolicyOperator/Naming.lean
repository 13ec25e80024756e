import PolicyOperator.ToolKind

/-!
# Names of artifacts

What a policy's artifacts are called follows from the policy alone.
-/

namespace PolicyOperator.Naming

/-- Where a config map keeps the rule document. -/
def rulesKey : String := "eirenyx_rules.yaml"

/-- The config map with the rule document of a policy. -/
def ruleDocument (policy : String) : String := "eirenyx-falco-policy-" ++ policy

/-- The job of a scan. A new generation has a new job, so an edit scans again. -/
def scanJob (policy scan : String) (generation : Int) : String :=
  "eirenyx-trivy-" ++ policy ++ "-" ++ scan ++ "-" ++ toString generation

/-- The chaos engine of an experiment. -/
def chaosEngine (policy experiment : String) : String :=
  "eirenyx-litmus-" ++ policy ++ "-" ++ experiment

/-- The report of a policy. -/
def report (kind : ToolKind) (policy : String) : String := kind.name ++ "-report-" ++ policy

end PolicyOperator.Naming
