import PolicyOperator.Json.Codec
import PolicyOperator.Json.Reader
import PolicyOperator.Text.Debug

/-!
# Refusals

The API server refuses a request with a status of 400 to 599. Its body should say why; the code in
the body counts then, not the status. `Refusal.error` is what the operator makes of it.
-/

namespace PolicyOperator.ApiServer

/-- What the API server says of a request that it refused. -/
structure Refusal where
  code : Nat
  reason : String := ""
  message : String := ""
  deriving DecidableEq, Repr

namespace Refusal

def ofJson? (j : Draft) : Option Refusal := do
  let row ← j.row? ["status", "message", "reason", "code"]
  discard (row.required "status" Draft.text?)
  return {
    code := ← row.required "code" Draft.nat16?
    reason := ← row.defaulted "reason" "" Draft.text?
    message := ← row.defaulted "message" "" Draft.text? }

/-- The refusal that a response stands for. A body that does not say why is quoted. -/
def ofResponse (status : Nat) (body : String) : Refusal :=
  match (Draft.ofText? body).bind ofJson? with
  | some refusal => refusal
  | none => {
    code := status
    reason := "Failed to parse error data"
    message := Text.debugQuoted body }

/-- The object is not there, in the words of the server. -/
def saysNotFound (r : Refusal) : Bool := r.reason == "NotFound"

/-- The error that a refusal stands for. -/
def error (r : Refusal) : Error :=
  if r.code = 404 then .notFound r.reason r.message
  else if r.code = 409 then .conflict r.reason "" r.message
  else .api r.message

end Refusal

end PolicyOperator.ApiServer
