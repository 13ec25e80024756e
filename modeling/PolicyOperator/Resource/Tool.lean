import PolicyOperator.Condition
import PolicyOperator.ToolKind

/-!
# Tools

A tool is one security or chaos-testing capability that a chart installs.
-/

namespace PolicyOperator

/-- What the user asks of a tool. -/
structure ToolSpec where
  /-- The name of one of the tool kinds. -/
  type : String
  enabled : Bool := false
  /-- Where to install; the kind's own namespace when not given. -/
  ns : Option String := none
  /-- Chart values laid over those of the kind. -/
  values : Option Json := none
  deriving DecidableEq

namespace ToolSpec

/-- The declared kind. -/
def kind (s : ToolSpec) : Except Error ToolKind := ToolKind.ofName s.type

def toJson (s : ToolSpec) : Json := .record [
  ("enabled", some (.bool s.enabled)),
  ("namespace", s.ns.map .str),
  ("type", some (.str s.type)),
  ("values", s.values)]

def ofJson? (j : Draft) : Option ToolSpec := do
  let row ← j.row? ["type", "enabled", "namespace", "values"]
  return {
    type := ← row.required "type" Draft.text?
    enabled := ← row.defaulted "enabled" false Draft.bool?
    ns := ← row.optional "namespace" Draft.text?
    values := ← row.optional "values" Draft.value? }

/-- The spec with the signs of zeros in its values dropped. -/
def unsignedZeros (s : ToolSpec) : ToolSpec := { s with values := s.values.map Json.unsignedZeros }

end ToolSpec

/-- What the operator observed of a tool. -/
structure ToolStatus where
  installed : Bool := false
  healthy : Bool := false
  version : Option String := none
  conditions : List Condition := []
  deriving DecidableEq

namespace ToolStatus

def toJson (s : ToolStatus) : Json := .record [
  ("conditions", if s.conditions.isEmpty then none
    else some (.arr (s.conditions.map Condition.toJson))),
  ("healthy", some (.bool s.healthy)),
  ("installed", some (.bool s.installed)),
  ("version", s.version.map .str)]

def ofJson? (j : Draft) : Option ToolStatus := do
  let row ← j.row? ["installed", "healthy", "version", "conditions"]
  return {
    installed := ← row.defaulted "installed" false Draft.bool?
    healthy := ← row.defaulted "healthy" false Draft.bool?
    version := ← row.optional "version" Draft.text?
    conditions := ← row.defaulted "conditions" [] (Draft.listOf? Condition.ofJson?) }

def wholeSeconds (s : ToolStatus) : ToolStatus :=
  { s with conditions := s.conditions.map Condition.wholeSeconds }

@[simp] theorem wholeSeconds_wholeSeconds (s : ToolStatus) :
    s.wholeSeconds.wholeSeconds = s.wholeSeconds := by
  simp [wholeSeconds, Function.comp_def]

end ToolStatus

end PolicyOperator
