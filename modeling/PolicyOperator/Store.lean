import PolicyOperator.Labels

/-!
# The object store

A store holds the objects of one kind and treats writes as the API server does:

* an object with finalizers is only marked by a deletion, and goes with the write that leaves it
  none;
* the generation counts the edits of the spec, and `replaceStatus` writes nothing but the status;
* a write that carries an outdated version is refused.

Every operation returns its answer with the new store, or an error and no store: a failed write
leaves things as they are. Unlike the API server, `create` keeps the status that it is given.
-/

namespace PolicyOperator

/-- What an object is filed under. -/
structure Key where
  ns : String
  name : String
  deriving DecidableEq, Repr

namespace Key

/-- By namespace, then by name. -/
instance : Ord Key := ⟨compareLex (compareOn Key.ns) (compareOn Key.name)⟩

instance : Std.TransOrd Key :=
  inferInstanceAs (Std.TransCmp (compareLex (compareOn Key.ns) (compareOn Key.name)))

instance : Std.LawfulEqOrd Key where
  eq_of_compare {a b} h := by
    obtain ⟨h1, h2⟩ : compare a.ns b.ns = .eq ∧ compare a.name b.name = .eq := by
      simpa [compare, compareLex, compareOn] using h
    cases a; cases b
    simp_all
  compare_self := Std.ReflCmp.compare_self

end Key

namespace Object

/-- The key of an object, which has to have a name and a namespace. -/
def key {k : ResourceKind} (o : Object k) : Except Error Key :=
  match o.metadata.name, o.metadata.ns with
  | none, _ => .error (.validation s!"{k.name} has no name")
  | some name, none => .error (.validation s!"{k.name} '{name}' has no namespace")
  | some name, some ns => .ok ⟨ns, name⟩

end Object

/-- The objects of one kind. -/
structure Store (k : ResourceKind) where
  objects : SortedMap Key (Object k) := ∅
  /-- How many writes succeeded. -/
  writes : Nat := 0
  /-- The version that was handed out last. -/
  lastVersion : Nat := 0
  /-- All writes fail as long as this is set. -/
  failing : Bool := false

namespace Store

variable {k : ResourceKind}

instance : Inhabited (Store k) := ⟨{}⟩

def get? (s : Store k) (ns name : String) : Option (Object k) := s.objects.get? ⟨ns, name⟩

/-- The objects of a namespace, or of all, that a selector accepts, in key order. -/
def list (s : Store k) (ns : Option String) (selector : Selector) : List (Object k) :=
  (s.objects.entries.filter fun (key, o) =>
    ns.all (· == key.ns) && selector.accepts o.metadata.labels).map Prod.snd

/-- The identity of the object that a version created. No version is handed out twice. -/
def uid (k : ResourceKind) (version : Nat) : String :=
  Instant.padded 8 (ResourceKind.all.idxOf k) ++ "-0000-4000-8000-" ++ Instant.padded 12 version

/-- Refuses a write while writes are made to fail. -/
def checkWritable (s : Store k) (verb : String) : Except Error Unit :=
  if s.failing then .error (.transient s!"{verb} {k.name}" "injected failure") else .ok ()

/-- Refuses a write that carries a version other than the stored one. -/
def checkVersion (current incoming : Object k) (name : String) : Except Error Unit :=
  match incoming.metadata.resourceVersion with
  | none => .ok ()
  | some version =>
    if current.metadata.resourceVersion = some version then .ok ()
    else .error (.conflict k.name name "the object has been modified")

/-- The object that a write goes to. -/
def current (s : Store k) (key : Key) : Except Error (Object k) :=
  match s.objects.get? key with
  | some o => .ok o
  | none => .error (.notFound k.name key.name)

def nextVersion (s : Store k) : Nat := s.lastVersion + 1

/-- The store after a write that used a new version. -/
def written (s : Store k) (objects : SortedMap Key (Object k)) : Store k :=
  { s with objects := objects, writes := s.writes + 1, lastVersion := s.nextVersion }

/-- A new object with the store's own marks. -/
def created (o : Object k) (now : Instant) (version : Nat) : Object k :=
  { o with metadata := { o.metadata with
    uid := some (uid k version)
    resourceVersion := some (toString version)
    generation := some 1
    creationTimestamp := some now
    deletionTimestamp := none } }

/-- Files a new object. -/
def create (s : Store k) (now : Instant) (o : Object k) : Except Error (Object k × Store k) := do
  s.checkWritable "create"
  let key ← o.key
  if s.objects.contains key then
    throw (.conflict k.name key.name "already exists")
  let stored := created o now s.nextVersion
  return (stored, s.written (s.objects.insert key stored))

/-- What a replacement makes of the stored object: spec and metadata of the new one, the status and
the store's own marks of the old one. -/
def replacement (current incoming : Object k) (version : Nat) : Object k :=
  let next := { incoming with status := current.status }.wholeSeconds
  let generation := current.metadata.generation.getD 1
  let generation := if k.sameSpec current.spec next.spec then generation else generation + 1
  { next with metadata := { next.metadata with
    uid := current.metadata.uid
    creationTimestamp := current.metadata.creationTimestamp
    deletionTimestamp := current.metadata.deletionTimestamp
    generation := some generation
    resourceVersion := some (toString version) } }

/-- The objects once one is replaced. One that is being deleted goes when it has no finalizers. -/
def settled (s : Store k) (key : Key) (next : Object k) : SortedMap Key (Object k) :=
  if next.metadata.isDeleting && !next.metadata.isGuarded then s.objects.erase key
  else s.objects.insert key next

/-- Writes spec and metadata of an object. -/
def replace (s : Store k) (o : Object k) : Except Error (Object k × Store k) := do
  s.checkWritable "replace"
  let key ← o.key
  let current ← s.current key
  checkVersion current o key.name
  let next := replacement current o s.nextVersion
  return (next, s.written (s.settled key next))

/-- The stored object with another status. -/
def withStatus (current incoming : Object k) (version : Nat) : Object k :=
  let next := { current with status := incoming.status }.wholeSeconds
  { next with metadata := { next.metadata with resourceVersion := some (toString version) } }

/-- Writes the status of an object and nothing else. -/
def replaceStatus (s : Store k) (o : Object k) : Except Error (Object k × Store k) := do
  s.checkWritable "replace status"
  let key ← o.key
  let current ← s.current key
  checkVersion current o key.name
  let next := withStatus current o s.nextVersion
  return (next, s.written (s.objects.insert key next))

/-- The object marked for deletion. -/
def marked (o : Object k) (now : Instant) (version : Nat) : Object k :=
  { o with metadata := { o.metadata with
    deletionTimestamp := some now
    resourceVersion := some (toString version) } }

/-- The store once an object is deleted, or marked when it has finalizers. -/
def deletion (s : Store k) (now : Instant) (key : Key) : Store k :=
  match s.objects.get? key with
  | none => s
  | some current =>
    if !current.metadata.isGuarded then
      { s with objects := s.objects.erase key, writes := s.writes + 1 }
    else if current.metadata.isDeleting then { s with writes := s.writes + 1 }
    else s.written (s.objects.insert key (marked current now s.nextVersion))

/-- Deletes an object. The answer is whether it was there. -/
def delete (s : Store k) (now : Instant) (ns name : String) : Except Error (Bool × Store k) := do
  s.checkWritable "delete"
  return (s.objects.contains ⟨ns, name⟩, s.deletion now ⟨ns, name⟩)

end Store

end PolicyOperator
