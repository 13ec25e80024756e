import PolicyOperator.Resource.Object

/-!
# Life states

Where an object is in its life is read off the object every time and stored nowhere. The state
says which step comes next.
-/

namespace PolicyOperator

/-- What is read off an object. -/
structure Observed where
  deleting : Bool := false
  /-- The operator's finalizer is there. -/
  guarded : Bool := false
  /-- The owner link is there; nothing for kinds that have none. -/
  linked : Option Bool := none
  enabled : Bool := false
  /-- The status reflects the spec. -/
  synced : Bool := false
  deriving DecidableEq, Repr

inductive LifeState where
  /-- Without finalizer. -/
  | new
  /-- With finalizer, but without owner link; or without need of one and not synced. -/
  | guarded
  /-- With owner link, and not synced. -/
  | linked
  /-- Enabled and synced. -/
  | active
  /-- Disabled, with finalizer. -/
  | disabled
  /-- To be deleted, with cleaning up to do. -/
  | deleting
  /-- To be deleted, with nothing left to do. -/
  | gone
  deriving DecidableEq, Repr

inductive Step where
  | finalize
  | release
  | guard
  | link
  | disable
  | sync
  deriving DecidableEq, Repr

/-- What one step did. -/
inductive Transition where
  /-- The finalizer went after the cleanup. -/
  | finalized
  /-- Nothing was left to do. -/
  | released
  | finalizerAdded
  | ownerLinked
  | disabled
  /-- Synced, perhaps to be looked at again. -/
  | synced (requeueAfter : Option Duration)
  deriving DecidableEq, Repr

namespace LifeState

def name : LifeState → String
  | .new => "New"
  | .guarded => "Guarded"
  | .linked => "Linked"
  | .active => "Active"
  | .disabled => "Disabled"
  | .deleting => "Deleting"
  | .gone => "Gone"

end LifeState

namespace Step

def name : Step → String
  | .finalize => "Finalize"
  | .release => "Release"
  | .guard => "Guard"
  | .link => "Link"
  | .disable => "Disable"
  | .sync => "Sync"

end Step

namespace Transition

def name : Transition → String
  | .finalized => "Finalized"
  | .released => "Released"
  | .finalizerAdded => "FinalizerAdded"
  | .ownerLinked => "OwnerLinked"
  | .disabled => "Disabled"
  | .synced _ => "Synced"

/-- When to look at the object again; nothing to wait for a change. -/
def requeueAfter : Transition → Option Duration
  | .synced d => d
  | _ => none

end Transition

namespace Observed

/-- Deletion comes first, then the finalizer, the owner link, and whether the object is enabled. -/
def state (o : Observed) : LifeState :=
  if o.deleting then (if o.guarded then .deleting else .gone)
  else if !o.guarded then .new
  else if o.linked = some false then .guarded
  else if !o.enabled then .disabled
  else if o.synced then .active
  else if o.linked = some true then .linked
  else .guarded

/-- The step that the state asks for. -/
def step (o : Observed) : Step :=
  match o.state with
  | .deleting => .finalize
  | .gone => .release
  | .new => .guard
  | .guarded => if o.linked = some false then .link else .sync
  | .disabled => .disable
  | .linked | .active => .sync

/-- What was seen, and what follows from it. -/
def toJson (o : Observed) : Json := .object [
  ("deleting", .bool o.deleting),
  ("enabled", .bool o.enabled),
  ("guarded", .bool o.guarded),
  ("linked", (o.linked.map Json.bool).getD .null),
  ("state", .str o.state.name),
  ("step", .str o.step.name),
  ("synced", .bool o.synced)]

end Observed

end PolicyOperator
