import PolicyOperator.Json.Basic
import PolicyOperator.Text.Scan

/-!
# Pointers into JSON values

A pointer is empty, or a list of steps with a slash before each. In a step `~1` stands for a slash
and `~0` for a tilde. A step into an array is an index without needless zeros.
-/

namespace PolicyOperator.Json

namespace Pointer

/-- The key that a step names. -/
def key : List Char → List Char
  | '~' :: '1' :: rest => '/' :: key rest
  | '~' :: '0' :: rest => '~' :: key rest
  | c :: rest => c :: key rest
  | [] => []

/-- The index that a step names. -/
def index? (step : List Char) : Option Nat :=
  if step.length ≠ 1 ∧ step.head? = some '0' then none
  else if step.all Char.isDigit then Text.numeral? 10 step
  else none

/-- The value one step further. -/
def step? (j : Json) (step : List Char) : Option Json :=
  match j with
  | .obj members => Entries.get? (String.ofList step) members
  | .arr items => (index? step).bind fun i => items[i]?
  | _ => none

end Pointer

/-- The value that a pointer leads to. -/
def at? (j : Json) (pointer : String) : Option Json :=
  match pointer.toList with
  | [] => some j
  | '/' :: cs => ((cs.splitOn '/').map Pointer.key).foldlM Pointer.step? j
  | _ => none

end PolicyOperator.Json
