import PolicyOperator.Json.Basic

/-!
# Paths into JSON values

Changing what a path of keys and indexes leads to.
-/

namespace PolicyOperator.Json

/-- A step of a path. -/
inductive PathStep where
  | key (name : String)
  | index (place : Nat)
  deriving DecidableEq, Repr

/-- Removes what a path leads to. Nothing happens where it leads nowhere. -/
def removeAt : List PathStep → Json → Json
  | [], j => j
  | [.key name], j => j.eraseField name
  | [.index i], .arr items => .arr (items.eraseIdx i)
  | .key name :: path, j =>
    match j.field? name with
    | some inner => j.setField name (removeAt path inner)
    | none => j
  | .index i :: path, .arr items => .arr (items.modify i (removeAt path))
  | .index _ :: _, j => j

/-- Puts a value where a path leads. Objects are made on the way, also out of values that are none;
an array grows only by an index that ends the path. -/
def placeAt (value : Json) : List PathStep → Json → Json
  | [], _ => value
  | .key name :: path, j =>
    let j := if j.isObject then j else .obj []
    j.setField name (placeAt value path ((j.field? name).getD (.obj [])))
  | .index i :: path, .arr items =>
    if items.length ≤ i ∧ path.isEmpty then .arr (items ++ [value])
    else .arr (items.modify i (placeAt value path))
  | .index _ :: _, j => j

end PolicyOperator.Json
