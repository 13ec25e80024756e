import PolicyOperator.Json.Printer
import PolicyOperator.Text.Scan

/-!
# Levels and events

What is logged: a message with a level, the part of the program that speaks, and further fields.
-/

namespace PolicyOperator

/-! ## Levels and events -/

/-- How much is logged, from nothing to everything. -/
inductive LogLevel where
  | off
  | error
  | warn
  | info
  | debug
  | trace
  deriving DecidableEq, Repr

namespace LogLevel

def all : List LogLevel := [.off, .error, .warn, .info, .debug, .trace]

def name : LogLevel → String
  | .off => "OFF"
  | .error => "ERROR"
  | .warn => "WARN"
  | .info => "INFO"
  | .debug => "DEBUG"
  | .trace => "TRACE"

/-- The place in the order of levels. -/
def rank (l : LogLevel) : Nat := all.idxOf l

/-- A level by its rank, or by its name in any case. -/
def ofText? (s : String) : Option LogLevel :=
  let digits := match s.toList with
    | '+' :: rest => rest
    | cs => cs
  match Text.numeral? 10 digits with
  | some n => all[n]?
  | none => all.find? fun l => l.name.toList == s.toList.map Char.toUpper

end LogLevel

/-- Something to log. -/
structure LogEvent where
  level : LogLevel
  /-- The part of the program that speaks. -/
  target : String
  message : String
  fields : List (String × String) := []
  deriving DecidableEq, Repr

namespace LogEvent

def fieldNames (e : LogEvent) : List String := "message" :: e.fields.map Prod.fst

/-- The event without its time. -/
def toJson (e : LogEvent) : Json := .object [
  ("fields", .object (("message", .str e.message) :: e.fields.map fun f => (f.1, .str f.2))),
  ("level", .str e.level.name),
  ("target", .str e.target)]

/-- The event as a JSON line, after the time. -/
def jsonLine (time : String) (e : LogEvent) : String :=
  let fields := (("message", e.message) :: e.fields).map fun (key, value) =>
    Json.quoted key ++ ":" ++ Json.quoted value
  "\x7b\"timestamp\":" ++ Json.quoted time ++ ",\"level\":" ++ Json.quoted e.level.name ++
    ",\"fields\":\x7b" ++ ",".intercalate fields ++ "\x7d,\"target\":" ++ Json.quoted e.target ++
    "\x7d"

/-- The event as a line to read, after the time. -/
def plainLine (time : String) (e : LogEvent) : String :=
  let level := String.ofList (List.replicate (5 - e.level.name.length) ' ') ++ e.level.name
  time ++ " " ++ level ++ " " ++ e.target ++ ": " ++ e.message ++
    String.join (e.fields.map fun (key, value) => " " ++ key ++ "=" ++ value)

end LogEvent

end PolicyOperator
