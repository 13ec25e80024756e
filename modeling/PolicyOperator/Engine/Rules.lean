import PolicyOperator.Artifact
import PolicyOperator.Text.Blank
import PolicyOperator.Yaml.Printer

/-!
# Rule documents

The falco engine renders the rules of a policy into one document, which a config map holds. Rules
stand in the order of their names, and each condition is narrowed to the policy's target.
-/

namespace PolicyOperator

/-! ## Conditions -/

namespace Target

/-- Asks a field for one of some values; nothing when there are none. -/
def clause? (field : String) : List String → Option String
  | [] => none
  | [value] => some (field ++ " = \"" ++ value ++ "\"")
  | values =>
    some (field ++ " in (" ++ ", ".intercalate (values.map fun v => "\"" ++ v ++ "\"") ++ ")")

/-- What the target asks of an event. -/
def clauses (t : Target) : List String :=
  (clause? "k8s.ns.name" t.namespaces).toList ++ (clause? "k8s.node.name" t.nodes).toList

/-- A condition that only holds within the target. -/
def scope (t : Target) (condition : String) : String :=
  match t.clauses with
  | [] => trimmed condition
  | clauses =>
    "(" ++ trimmed condition ++ ") and (" ++ " and ".intercalate clauses ++ ")"

end Target

/-! ## Documents -/

/-- A rule as the document states it. -/
structure RenderedRule where
  rule : String
  desc : String
  condition : String
  output : String
  priority : String
  tags : List String
  deriving DecidableEq, Repr

namespace RenderedRule

/-- A rule of the policy with a name, narrowed to its target. -/
def ofRule (policy : String) (target : Target) (r : Rule) : RenderedRule where
  rule := r.name
  desc := "Managed by Eirenyx policy " ++ policy
  condition := target.scope r.condition
  output := trimmedEnd r.output
  priority := r.priority
  tags := r.tags

def toYaml (r : RenderedRule) : Yaml := .mapping ([
  ("rule", .text r.rule),
  ("desc", .text r.desc),
  ("condition", .text r.condition),
  ("output", .text r.output),
  ("priority", .text r.priority)] ++
  if r.tags.isEmpty then [] else [("tags", .list (r.tags.map .text))])

end RenderedRule

namespace FalcoSpec

/-- The rules by name; rules of one name keep their order. -/
def sortedRules (s : FalcoSpec) : List Rule := s.rules.mergeSort fun a b => decide (a.name ≤ b.name)

def renderedRules (s : FalcoSpec) (policy : String) (target : Target) : List RenderedRule :=
  s.sortedRules.map (RenderedRule.ofRule policy target)

/-- The rule document. -/
def document (s : FalcoSpec) (policy : String) (target : Target) : String :=
  (Yaml.list ((s.renderedRules policy target).map RenderedRule.toYaml)).document

end FalcoSpec

/-! ## The engine -/

namespace Engine.Rules

/-- The falco section of a policy. -/
def specOf (p : Policy) : Except Error FalcoSpec := do
  match ← p.spec.typed with
  | .falco spec => return spec
  | _ => throw (.validation "falco engine received a non-falco policy")

/-- The texts that a rule needs. -/
def neededTexts (r : Rule) : List (String × String) :=
  [("name", r.name), ("condition", r.condition), ("output", r.output), ("priority", r.priority)]

def validate (p : Policy) : Except Error Unit := do
  let spec ← specOf p
  if spec.rules.isEmpty then
    throw (.validation "spec.falco.rules must contain at least one rule")
  spec.rules.zipIdx.forM fun (rule, i) =>
    (neededTexts rule).forM fun (field, value) =>
      if blank value then throw (.validation s!"falco rule[{i}].{field} is required") else pure ()

/-- The config map that holds a policy's document. -/
def configMap (p : Policy) (spec : FalcoSpec) : ConfigMap where
  metadata := Artifact.ownedMetadata p (Naming.ruleDocument p.displayName) []
  spec := some (.ofList [(Naming.rulesKey, spec.document p.displayName p.spec.target)])

/-- Adds the data of one config map to another. -/
def addData (desired next : ConfigMap) : ConfigMap :=
  let data : TextMap := next.spec.getD ∅
  { next with spec := some (data.overlay (desired.spec.getD ∅)) }

end Engine.Rules

/-- Brings a policy's config map up to date. -/
def Access.reconcileRules [Monad m] [MonadLiftT (Except Error) m] (a : Access m) (p : Policy) :
    m Unit := do
  let spec ← Engine.Rules.specOf p
  let desired := Engine.Rules.configMap p spec
  discard (a.upsert desired (Engine.Rules.addData desired))

namespace Engine.Rules

/-- See `Access.reconcileRules`. -/
def reconcile (p : Policy) : ClusterM Unit := Access.direct.reconcileRules p

def cleanup (p : Policy) : ClusterM Unit := do
  discard (ClusterM.delete .configMap p.metadata.nsOrEmpty (Naming.ruleDocument p.displayName))
  discard (Artifact.deleteReports p)

end Engine.Rules

end PolicyOperator
