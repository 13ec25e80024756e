import PolicyOperator.ApiServer.Refusal
import PolicyOperator.ApiServer.Target
import PolicyOperator.Resource.Kind

/-!
# Requests and responses

The requests of the operator to the API server. `ApiM` is a computation over a connection, which
answers requests with responses that are laid down beforehand and keeps account of what was sent.
-/

namespace PolicyOperator

namespace ApiServer

inductive Method where
  | get
  | post
  | put
  | delete
  deriving DecidableEq, Repr

def Method.name : Method → String
  | .get => "GET"
  | .post => "POST"
  | .put => "PUT"
  | .delete => "DELETE"

structure Request where
  method : Method
  target : Target
  body : Option Json := none
  deriving DecidableEq

/-- What comes back for a request. -/
inductive Response where
  /-- The connection broke. -/
  | lost
  | answer (status : Nat) (body : String)
  deriving DecidableEq, Repr

/-- A connection to the API server. -/
structure Connection where
  /-- The name under which objects are written. -/
  fieldManager : String := "eirenyx"
  /-- The responses to come; requests beyond them are lost. -/
  responses : List Response := []
  /-- The requests so far. -/
  requests : List Request := []

/-! ## Paths -/

/-- Where the objects of a group and version are. -/
def base (k : ResourceKind) : String :=
  if k.group = "" then "/api/" ++ k.version else "/apis/" ++ k.group ++ "/" ++ k.version

/-- The objects of a kind in a namespace, or in all. -/
def collectionPath (k : ResourceKind) : Option String → String
  | some ns => base k ++ "/namespaces/" ++ ns ++ "/" ++ k.plural
  | none => base k ++ "/" ++ k.plural

def objectPath (k : ResourceKind) (ns name : String) : String :=
  collectionPath k (some ns) ++ "/" ++ name

def statusPath (k : ResourceKind) (ns name : String) : String := objectPath k ns name ++ "/status"

def namespacesPath : String := "/api/v1/namespaces"

end ApiServer

/-- A computation over a connection to the API server. -/
abbrev ApiM := ExceptT Error (StateM ApiServer.Connection)

namespace ApiServer

/-- Sends a request to what a text names. The answer is the body of the response, or the server's
refusal. -/
def send (method : Method) (target : String) (body : Option Json) :
    ApiM (Except Refusal Draft) := do
  let some target := Target.ofText? target
    | throw (.api "the target of a request holds what no target may hold")
  let c ← get
  let sent : Request := { method, target, body }
  set { c with responses := c.responses.tail, requests := c.requests ++ [sent] }
  match c.responses.headD .lost with
  | .lost => throw (.api "the connection was lost")
  | .answer status body =>
    if 400 ≤ status ∧ status < 600 then
      return .error (.ofResponse status body)
    else
      match Draft.ofText? body with
      | some j => return .ok j
      | none => throw (.api "the response is not JSON")

/-- Reads what the server sent. -/
def decoded (read : Draft → Option α) (j : Draft) : ApiM α :=
  match read j with
  | some a => return a
  | none => throw (.api "the response does not decode")

/-- Sends a request that has to be granted. -/
def request (method : Method) (target : String) (body : Option Json)
    (read : Draft → Option α) : ApiM α := do
  match ← send method target body with
  | .ok j => decoded read j
  | .error refusal => throw refusal.error

/-- Sends a request for something that need not be there. -/
def lookUp (target : String) (read : Draft → Option α) : ApiM (Option α) := do
  match ← send .get target none with
  | .ok j => return some (← decoded read j)
  | .error refusal => if refusal.saysNotFound then return none else throw refusal.error

/-- A name that a path is to end with must not be empty. -/
def checkName (name : String) : ApiM Unit :=
  if name = "" then throw (.api "a name is required") else return ()

end ApiServer

end PolicyOperator
