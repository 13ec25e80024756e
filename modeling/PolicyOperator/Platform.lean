import PolicyOperator.Cluster
import PolicyOperator.Release.Book
import PolicyOperator.Report.Sampler

/-!
# The platform

Everything that the controllers act on: the cluster, the releases, the source of sampled evidence,
a timer, and what others are going to do while the operator waits. `PlatformM` is a computation
over it; what it did before it failed stays done.
-/

namespace PolicyOperator

/-- Something that happens without the operator. -/
inductive OutsideEvent where
  | cancel
  | change (f : Cluster → Cluster)

namespace OutsideEvent

def isCancel : OutsideEvent → Bool
  | .cancel => true
  | .change _ => false

end OutsideEvent

structure Platform where
  cluster : Cluster := {}
  book : ReleaseBook := {}
  sampler : Sampler := {}
  /-- The timer. -/
  elapsed : Duration := ⟨0⟩
  /-- Events to come, by the time on the timer when they are due. -/
  agenda : List (Duration × OutsideEvent) := []
  /-- The operator has been told to stop. -/
  cancelled : Bool := false

namespace Platform

def happen (p : Platform) : OutsideEvent → Platform
  | .cancel => { p with cancelled := true }
  | .change f => { p with cluster := f p.cluster }

/-- What the timer reads once more time has passed. -/
def readingAfter (p : Platform) (d : Duration) : Duration := ⟨p.elapsed.nanoseconds + d.nanoseconds⟩

/-- Puts an event on the agenda, behind those that are due no later. -/
def schedule (p : Platform) (due : Duration) (event : OutsideEvent) : Platform :=
  let (before, after) := p.agenda.span fun e => e.1.nanoseconds ≤ due.nanoseconds
  { p with agenda := before ++ (due, event) :: after }

/-- Lets time pass up to a reading of the timer; what is due by then happens. -/
def passUntil (p : Platform) (reading : Duration) : Platform :=
  let (due, later) := p.agenda.span fun e => e.1.nanoseconds ≤ reading.nanoseconds
  due.foldl (fun p e => p.happen e.2) { p with agenda := later, elapsed := reading }

/-- How long it is until the next event, or until a time is over. -/
def untilNext (p : Platform) (remaining : Duration) : Duration :=
  match p.agenda with
  | [] => remaining
  | (due, _) :: _ => ⟨min (due.nanoseconds - p.elapsed.nanoseconds) remaining.nanoseconds⟩

/-- When the operator will be told to stop, if that is before a reading of the timer. -/
def cancelBefore? (p : Platform) (reading : Duration) : Option Duration :=
  (p.agenda.find? fun e => e.2.isCancel && e.1.nanoseconds < reading.nanoseconds).map Prod.fst

end Platform

/-- A computation over the platform. -/
abbrev PlatformM := ExceptT Error (StateM Platform)

namespace PlatformM

/-- Runs a computation over the cluster alone. -/
def onCluster (x : ExceptT ε (StateM Cluster) α) : ExceptT ε (StateM Platform) α := fun p =>
  let (result, cluster) := x p.cluster
  (result, { p with cluster := cluster })

/-- Runs a computation and hands on its failure as a value. -/
def attempt (x : PlatformM α) : PlatformM (Except Error α) := fun p =>
  let (result, p) := x p
  (.ok result, p)

/-- Waits. A cancellation ends the wait, and fails the operation that waits. -/
def pause (operation : String) (d : Duration) : PlatformM Unit := do
  let p ← get
  if p.cancelled then
    throw (.cancelled operation)
  let wake := p.readingAfter d
  match p.cancelBefore? wake with
  | some stop => do
    set (p.passUntil stop)
    throw (.cancelled operation)
  | none => set (p.passUntil wake)

end PlatformM

end PolicyOperator
