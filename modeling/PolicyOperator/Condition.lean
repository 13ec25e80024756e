import PolicyOperator.Json.Codec

/-!
# Conditions

A status holds one condition per aspect of an object. Setting a condition keeps its place in the
list and moves its transition time only when its status flips.
-/

namespace PolicyOperator

/-- One aspect of an object's state. -/
structure Condition where
  type : String
  status : String
  reason : String
  message : String
  observedGeneration : Option Int
  lastTransitionTime : Instant
  deriving DecidableEq, Inhabited

namespace Condition

/-- The condition that sums up the others. -/
def ready : String := "Ready"

def toJson (c : Condition) : Json := .record [
  ("lastTransitionTime", some (Json.ofInstant c.lastTransitionTime)),
  ("message", some (.str c.message)),
  ("observedGeneration", c.observedGeneration.map .int),
  ("reason", some (.str c.reason)),
  ("status", some (.str c.status)),
  ("type", some (.str c.type))]

def ofJson? (j : Draft) : Option Condition := do
  let row ← j.members?
  return {
    type := ← row.lenient "type" "" Draft.text?
    status := ← row.lenient "status" "" Draft.text?
    reason := ← row.lenient "reason" "" Draft.text?
    message := ← row.lenient "message" "" Draft.text?
    observedGeneration := ← row.optional "observedGeneration" Draft.int64?
    lastTransitionTime := ← row.required "lastTransitionTime" Draft.instant? }

def wholeSeconds (c : Condition) : Condition :=
  { c with lastTransitionTime := c.lastTransitionTime.wholeSeconds }

@[simp] theorem wholeSeconds_wholeSeconds (c : Condition) :
    c.wholeSeconds.wholeSeconds = c.wholeSeconds := by
  simp [wholeSeconds]

end Condition

/-- What a caller knows of one aspect. -/
structure Finding where
  type : String
  healthy : Bool
  reason : String
  message : String
  observedGeneration : Option Int
  deriving DecidableEq, Repr

namespace Finding

def ofJson? (j : Draft) : Option Finding := do
  let row ← j.members?
  return {
    type := ← row.required "type" Draft.text?
    healthy := ← row.required "healthy" Draft.bool?
    reason := ← row.required "reason" Draft.text?
    message := ← row.required "message" Draft.text?
    observedGeneration := ← row.optional "observedGeneration" Draft.int64? }

/-- The status word. -/
def status (f : Finding) : String := if f.healthy then "True" else "False"

/-- The condition of a finding made at a time. -/
def condition (f : Finding) (now : Instant) : Condition where
  type := f.type
  status := f.status
  reason := f.reason
  message := f.message
  observedGeneration := f.observedGeneration
  lastTransitionTime := now

end Finding

namespace Condition

/-- A condition after a finding on its aspect; the transition time moves when the status flips. -/
def update (c : Condition) (f : Finding) (now : Instant) : Condition :=
  { f.condition now with
    lastTransitionTime := if c.status = f.status then c.lastTransitionTime else now }

/-- Records a finding: the first condition of its type is brought up to date, or one is added at
the end. -/
def record (f : Finding) (now : Instant) : List Condition → List Condition
  | [] => [f.condition now]
  | c :: rest => if c.type = f.type then c.update f now :: rest else c :: record f now rest

/-- Some condition of the type is true. -/
def isTrue (conditions : List Condition) (type : String) : Bool :=
  conditions.any fun c => c.type == type && c.status == "True"

end Condition

end PolicyOperator
