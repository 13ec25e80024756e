import PolicyOperator.Error

/-!
# Tool kinds

The closed set of tools that the operator manages. A tool and a policy both declare one by name.
-/

namespace PolicyOperator

inductive ToolKind where
  | falco
  | trivy
  | litmus
  deriving DecidableEq, Repr, Inhabited

namespace ToolKind

def all : List ToolKind := [.falco, .trivy, .litmus]

def name : ToolKind → String
  | .falco => "falco"
  | .trivy => "trivy"
  | .litmus => "litmus"

/-- The kind of a name. Unknown names are refused, none is the default. -/
def ofName (s : String) : Except Error ToolKind :=
  match s with
  | "falco" => .ok .falco
  | "trivy" => .ok .trivy
  | "litmus" => .ok .litmus
  | other => .error (.unsupportedType other)

theorem ofName_name (k : ToolKind) : ofName k.name = .ok k := by cases k <;> rfl

end ToolKind

end PolicyOperator
