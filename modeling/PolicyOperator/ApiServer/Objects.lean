import PolicyOperator.ApiServer.Exchange
import PolicyOperator.Labels

/-!
# Objects on the API server

The operations of an object store as requests to the API server, and the creation of namespaces.
-/

namespace PolicyOperator.ApiServer

variable {k : ResourceKind}

/-! ## What the server sends -/

/-- The envelope of a list. -/
def isListMetadata (j : Draft) : Bool :=
  (do
    let row ← j.members?
    discard (row.optional "continue" Draft.text?)
    discard (row.optional "remainingItemCount" Draft.int64?)
    discard (row.optional "resourceVersion" Draft.text?)
    row.optional "selfLink" Draft.text? : Option (Option String)).isSome

/-- The objects of a list. Of a list, unlike of an object, also the unknown members are read. -/
def listed? (k : ResourceKind) (j : Draft) : Option (List (Object k)) :=
  match j with
  | .obj members => do
    guard (members.all fun (key, d) => ["metadata", "items"].contains key || d.isReadable)
    let row ← j.row? ["metadata", "items"]
    discard (row.defaulted "metadata" () fun d => if isListMetadata d then some () else none)
    row.required "items" fun
      | .null => some []
      | items => items.listOf? (Object.ofJson? k)
  | _ => none

/-- One of the causes in the details of a report on a request. -/
def isStatusCause (j : Draft) : Bool :=
  (do
    let row ← j.row? ["reason", "message", "field"]
    discard (row.defaulted "reason" "" Draft.text?)
    discard (row.defaulted "message" "" Draft.text?)
    row.defaulted "field" "" Draft.text?).isSome

def isStatusDetails (j : Draft) : Bool :=
  (do
    let row ← j.row? ["name", "group", "kind", "uid", "causes", "retryAfterSeconds"]
    for key in ["name", "group", "kind", "uid"] do
      discard (row.defaulted key "" Draft.text?)
    let causes ← row.defaulted "causes" [] (Draft.listOf? some)
    guard (causes.all isStatusCause)
    row.defaulted "retryAfterSeconds" 0 (Draft.intIn? 0 4294967295)).isSome

/-- The server's report on a request, as a deletion may answer with. -/
def isStatus (j : Draft) : Bool :=
  (do
    let row ← j.row? ["status", "code", "message", "reason", "details"]
    let summary ← row.optional "status" Draft.word?
    guard (summary.all ["Success", "Failure"].contains)
    discard (row.defaulted "code" 0 Draft.nat16?)
    discard (row.defaulted "message" "" Draft.text?)
    discard (row.defaulted "reason" "" Draft.text?)
    row.optional "details" fun d => if isStatusDetails d then some () else none).isSome

/-- The answer to a deletion: a report, or the object that goes. All of it has to be readable. -/
def isDeletion (k : ResourceKind) (j : Draft) : Bool :=
  match j.value? with
  | some value =>
    if value.field? "kind" = some (.str "Status") then isStatus j else (Object.ofJson? k j).isSome
  | none => false

/-- A condition of a namespace. -/
def isNamespaceCondition (j : Draft) : Bool :=
  (do
    let row ← j.members?
    discard (row.optional "lastTransitionTime" Draft.instant?)
    for key in ["message", "reason", "status", "type"] do
      discard (row.optional key Draft.text?)).isSome

def isNamespace (j : Draft) : Bool :=
  (do
    let row ← j.members?
    guard (Object.tagFits row "apiVersion" "v1" && Object.tagFits row "kind" "Namespace")
    discard (row.optional "metadata" Metadata.ofJson?)
    discard (row.optional "spec" fun spec => do
      (← spec.members?).optional "finalizers" (Draft.listOf? Draft.text?))
    row.optional "status" fun status => do
      let row ← status.members?
      discard (row.optional "phase" Draft.text?)
      let conditions ← row.lenient "conditions" [] (Draft.listOf? some)
      guard (conditions.all isNamespaceCondition)).isSome

def namespace? (j : Draft) : Option Unit := if isNamespace j then some () else none

/-! ## Objects -/

def get? (k : ResourceKind) (ns name : String) : ApiM (Option (Object k)) := do
  checkName name
  lookUp (objectPath k ns name) (Object.ofJson? k)

/-- The objects of a namespace, or of all, that a selector accepts. -/
def list (k : ResourceKind) (ns : Option String) (selector : Selector) :
    ApiM (List (Object k)) :=
  let params := if selector.entries.isEmpty then [] else [("labelSelector", selector.toText)]
  request .get (Target.textOf (collectionPath k ns) params) none (listed? k)

/-- The namespace that an object is written to. -/
def namespaceOf (o : Object k) : ApiM String :=
  match o.metadata.ns with
  | some ns => return ns
  | none => throw (.validation s!"{o.displayName} has no namespace")

/-- The target of a write. -/
def writeTarget (path : String) : ApiM String :=
  return Target.textOf path [("fieldManager", (← get).fieldManager)]

/-- The longest name in bytes under which an object can be created. -/
def maxManagerSize : Nat := 128

def create (o : Object k) : ApiM (Object k) := do
  let ns ← namespaceOf o
  if (← get).fieldManager.utf8ByteSize > maxManagerSize then
    throw (.api "the field manager's name is too long")
  request .post (← writeTarget (collectionPath k (some ns))) (some o.toJson) (Object.ofJson? k)

/-- Sends the whole object to a path that names it. -/
def put (path : String → String → String) (o : Object k) : ApiM (Object k) := do
  let ns ← namespaceOf o
  checkName o.displayName
  request .put (← writeTarget (path ns o.displayName)) (some o.toJson) (Object.ofJson? k)

def replace (o : Object k) : ApiM (Object k) := put (objectPath k) o

def replaceStatus (o : Object k) : ApiM (Object k) := put (statusPath k) o

/-- Jobs take their pods with them. -/
def deletionOptions : Json := .object [("propagationPolicy", .str "Background")]

/-- Deletes an object. The answer is whether it was there. -/
def delete (k : ResourceKind) (ns name : String) : ApiM Bool := do
  checkName name
  match ← send .delete (Target.textOf (objectPath k ns name) []) (some deletionOptions) with
  | .ok j =>
    if isDeletion k j then return true
    else throw (.api "the response does not decode")
  | .error refusal => if refusal.code = 404 then return false else throw refusal.error

/-! ## Namespaces -/

def namespaceJson (name : String) : Json := .object [
  ("apiVersion", .str "v1"),
  ("kind", .str "Namespace"),
  ("metadata", .object [("name", .str name)])]

/-- Makes a namespace unless it is there. Another writer may make it first. -/
def ensureNamespace (name : String) : ApiM Unit := do
  checkName name
  match ← lookUp (namespacesPath ++ "/" ++ name) namespace? with
  | some () => return ()
  | none =>
    match ← send .post (Target.textOf namespacesPath []) (some (namespaceJson name)) with
    | .ok j => decoded namespace? j
    | .error refusal => if refusal.code = 409 then return () else throw refusal.error

end PolicyOperator.ApiServer
