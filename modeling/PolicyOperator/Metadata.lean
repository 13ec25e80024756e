import PolicyOperator.Json.Codec

/-!
# Object metadata

What the cluster keeps about every object: its key, labels, owners, finalizers, and the marks that
the store sets on writes.
-/

namespace PolicyOperator

/-- An object that another one belongs to. -/
structure OwnerReference where
  apiVersion : String
  kind : String
  name : String
  uid : String
  controller : Option Bool := none
  blockOwnerDeletion : Option Bool := none
  deriving DecidableEq, Repr

namespace OwnerReference

def toJson (o : OwnerReference) : Json := .record [
  ("apiVersion", some (.str o.apiVersion)),
  ("blockOwnerDeletion", o.blockOwnerDeletion.map .bool),
  ("controller", o.controller.map .bool),
  ("kind", some (.str o.kind)),
  ("name", some (.str o.name)),
  ("uid", some (.str o.uid))]

def ofJson? (j : Draft) : Option OwnerReference := do
  let row ← j.members?
  return {
    apiVersion := ← row.lenient "apiVersion" "" Draft.text?
    kind := ← row.lenient "kind" "" Draft.text?
    name := ← row.lenient "name" "" Draft.text?
    uid := ← row.lenient "uid" "" Draft.text?
    controller := ← row.optional "controller" Draft.bool?
    blockOwnerDeletion := ← row.optional "blockOwnerDeletion" Draft.bool? }

end OwnerReference

/-- Who set which fields of an object last. -/
structure ManagedFields where
  manager : Option String := none
  operation : Option String := none
  apiVersion : Option String := none
  fieldsType : Option String := none
  /-- The fields, in the form that `fieldsType` names. -/
  fieldsV1 : Option Json := none
  subresource : Option String := none
  time : Option Instant := none
  deriving DecidableEq

namespace ManagedFields

def toJson (f : ManagedFields) : Json := .record [
  ("apiVersion", f.apiVersion.map .str),
  ("fieldsType", f.fieldsType.map .str),
  ("fieldsV1", f.fieldsV1),
  ("manager", f.manager.map .str),
  ("operation", f.operation.map .str),
  ("subresource", f.subresource.map .str),
  ("time", f.time.map Json.ofInstant)]

def ofJson? (j : Draft) : Option ManagedFields := do
  let row ← j.members?
  return {
    manager := ← row.optional "manager" Draft.text?
    operation := ← row.optional "operation" Draft.text?
    apiVersion := ← row.optional "apiVersion" Draft.text?
    fieldsType := ← row.optional "fieldsType" Draft.text?
    fieldsV1 := ← row.optional "fieldsV1" Draft.value?
    subresource := ← row.optional "subresource" Draft.text?
    time := ← row.optional "time" Draft.instant? }

def wholeSeconds (f : ManagedFields) : ManagedFields :=
  { f with time := f.time.map Instant.wholeSeconds }

@[simp] theorem wholeSeconds_wholeSeconds (f : ManagedFields) :
    f.wholeSeconds.wholeSeconds = f.wholeSeconds := by
  simp [wholeSeconds, Function.comp_def]

end ManagedFields

/-- Labels and other maps from texts to texts. -/
abbrev TextMap := SortedMap String String

structure Metadata where
  name : Option String := none
  /-- The namespace. -/
  ns : Option String := none
  labels : Option TextMap := none
  annotations : Option TextMap := none
  finalizers : Option (List String) := none
  ownerReferences : Option (List OwnerReference) := none
  uid : Option String := none
  resourceVersion : Option String := none
  /-- Counts the edits of the spec. -/
  generation : Option Int := none
  creationTimestamp : Option Instant := none
  deletionTimestamp : Option Instant := none
  deletionGracePeriodSeconds : Option Int := none
  generateName : Option String := none
  selfLink : Option String := none
  managedFields : Option (List ManagedFields) := none
  deriving DecidableEq, Inhabited

namespace Metadata

def toJson (m : Metadata) : Json := .record [
  ("annotations", m.annotations.map Json.ofTextMap),
  ("creationTimestamp", m.creationTimestamp.map Json.ofInstant),
  ("deletionGracePeriodSeconds", m.deletionGracePeriodSeconds.map .int),
  ("deletionTimestamp", m.deletionTimestamp.map Json.ofInstant),
  ("finalizers", m.finalizers.map Json.ofTexts),
  ("generateName", m.generateName.map .str),
  ("generation", m.generation.map .int),
  ("labels", m.labels.map Json.ofTextMap),
  ("managedFields", m.managedFields.map fun l => .arr (l.map ManagedFields.toJson)),
  ("name", m.name.map .str),
  ("namespace", m.ns.map .str),
  ("ownerReferences", m.ownerReferences.map fun l => .arr (l.map OwnerReference.toJson)),
  ("resourceVersion", m.resourceVersion.map .str),
  ("selfLink", m.selfLink.map .str),
  ("uid", m.uid.map .str)]

def ofJson? (j : Draft) : Option Metadata := do
  let row ← j.members?
  return {
    name := ← row.optional "name" Draft.text?
    ns := ← row.optional "namespace" Draft.text?
    labels := ← row.optional "labels" Draft.textMap?
    annotations := ← row.optional "annotations" Draft.textMap?
    finalizers := ← row.optional "finalizers" (Draft.listOf? Draft.text?)
    ownerReferences := ← row.optional "ownerReferences" (Draft.listOf? OwnerReference.ofJson?)
    uid := ← row.optional "uid" Draft.text?
    resourceVersion := ← row.optional "resourceVersion" Draft.text?
    generation := ← row.optional "generation" Draft.int64?
    creationTimestamp := ← row.optional "creationTimestamp" Draft.instant?
    deletionTimestamp := ← row.optional "deletionTimestamp" Draft.instant?
    deletionGracePeriodSeconds := ← row.optional "deletionGracePeriodSeconds" Draft.int64?
    generateName := ← row.optional "generateName" Draft.text?
    selfLink := ← row.optional "selfLink" Draft.text?
    managedFields := ← row.optional "managedFields" (Draft.listOf? ManagedFields.ofJson?) }

/-- The metadata as its wire form keeps it: times lose their fractions of a second. -/
def wholeSeconds (m : Metadata) : Metadata :=
  { m with
    creationTimestamp := m.creationTimestamp.map Instant.wholeSeconds
    deletionTimestamp := m.deletionTimestamp.map Instant.wholeSeconds
    managedFields := m.managedFields.map fun l => l.map ManagedFields.wholeSeconds }

@[simp] theorem wholeSeconds_wholeSeconds (m : Metadata) :
    m.wholeSeconds.wholeSeconds = m.wholeSeconds := by
  simp [wholeSeconds, Function.comp_def]

/-- The name that the object is spoken of by, empty when it has none. -/
def displayName (m : Metadata) : String := (m.name.or m.generateName).getD ""

/-- The namespace, empty when there is none. -/
def nsOrEmpty (m : Metadata) : String := m.ns.getD ""

/-- Namespace and name, parted by a slash. -/
def path (m : Metadata) : String := m.nsOrEmpty ++ "/" ++ m.name.getD ""

/-- The owners, none when there is no list. -/
def owners (m : Metadata) : List OwnerReference := m.ownerReferences.getD []

/-- The finalizers, none when there is no list. -/
def guards (m : Metadata) : List String := m.finalizers.getD []

/-- Something has to be done before the object may go. -/
def isGuarded (m : Metadata) : Bool := !m.guards.isEmpty

def isDeleting (m : Metadata) : Bool := m.deletionTimestamp.isSome

end Metadata

end PolicyOperator
