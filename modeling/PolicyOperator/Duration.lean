import PolicyOperator.Error

/-!
# Durations

Spans of time, and how long the operator waits before it tries again.
-/

namespace PolicyOperator

/-- A span of time in nanoseconds. -/
structure Duration where
  nanoseconds : Nat
  deriving DecidableEq, Repr, Inhabited

namespace Duration

def ofSeconds (n : Nat) : Duration := ⟨n * 1000000000⟩

def ofMilliseconds (n : Nat) : Duration := ⟨n * 1000000⟩

/-- Whole seconds; a started second does not count. -/
def seconds (d : Duration) : Nat := d.nanoseconds / 1000000000

/-- Whole milliseconds; a started one does not count. -/
def milliseconds (d : Duration) : Nat := d.nanoseconds / 1000000

theorem seconds_ofSeconds (n : Nat) : (ofSeconds n).seconds = n := by
  simp [ofSeconds, seconds]

end Duration

/-- The wait after a failure that may pass by itself. -/
def retryDelay : Duration := .ofSeconds 5

/-- The wait after the report of a vanished policy could not be deleted. -/
def orphanRetryDelay : Duration := .ofSeconds 300

/-- When to look at the object again; terminal errors wait for an edit. -/
def Error.requeueAfter (e : Error) : Option Duration :=
  if e.isTerminal then none else some retryDelay

end PolicyOperator
