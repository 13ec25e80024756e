import PolicyOperator.Log.Directive

/-!
# Filters

The filter that decides which events are written: a list of directives with commas between them.
Of the directives that speak of an event the most specific one counts.
-/

namespace PolicyOperator

structure LogFilter where
  directives : List LogDirective := []
  deriving DecidableEq, Repr

namespace LogFilter

/-- The parts of a filter's text. -/
def parts (s : String) : List String := (s.splitOn ",").filter (· ≠ "")

/-- The filter that a text describes, if all of its directives make sense. -/
def read (s : String) : Except LogDirective.Fault LogFilter := do
  return ⟨← (parts s).mapM LogDirective.read⟩

/-- A filter, and the parts of its text that made no sense, with what is wrong with them. -/
structure Outcome where
  filter : LogFilter
  refused : List (String × LogDirective.Fault) := []
  deriving DecidableEq, Repr

/-- One more part of a filter's text. Parts that make no sense are left out, but for torn ones,
which leave no filter. -/
def Outcome.add? (o : Outcome) (part : String) : Option Outcome :=
  match LogDirective.read part with
  | .ok d => some { o with filter := ⟨o.filter.directives ++ [d]⟩ }
  | .error .torn => none
  | .error fault => some { o with refused := o.refused ++ [(part, fault)] }

/-- The filter of those directives of a text that make sense. -/
def readLenient? (s : String) : Option Outcome := (parts s).foldlM Outcome.add? ⟨{}, []⟩

/-- The filter of the environment if it makes sense, else that of the command line. -/
def choose? (environment : Option String) (commandLine : String) : Option Outcome :=
  match environment.map read with
  | some (.ok filter) => some ⟨filter, []⟩
  | some (.error .torn) => none
  | _ => readLenient? commandLine

/-- The line that tells of a part that made no sense. -/
def refusalLine (part : String) (fault : LogDirective.Fault) : String :=
  "ignoring `" ++ part ++ "`: " ++ fault.message

/-- The more specific of two directives, the second if they are alike. -/
def moreSpecific (a b : LogDirective) : LogDirective := if a.notMoreSpecific b then b else a

/-- The level up to which events like this one are written. Without any directive that is
`error`. -/
def levelFor (f : LogFilter) (e : LogEvent) : LogLevel :=
  if f.directives.isEmpty then .error
  else
    match f.directives.filter fun d => d.concerns e with
    | [] => .off
    | d :: ds => (ds.foldl moreSpecific d).level

/-- The event is written. -/
def allows (f : LogFilter) (e : LogEvent) : Bool := e.level.rank ≤ (f.levelFor e).rank

end LogFilter

end PolicyOperator
