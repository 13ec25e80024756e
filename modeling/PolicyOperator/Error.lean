/-!
# Errors

What can go wrong while the operator works, grouped by how it reacts: terminal errors wait until
the user edits the object, all others are tried again after a fixed delay.
-/

namespace PolicyOperator

/-- The cause of a failed operation. -/
inductive Error where
  /-- The object's spec breaks a rule. -/
  | validation (reason : String)
  /-- The declared type is none of the supported ones. -/
  | unsupportedType (type : String)
  | notFound (object name : String)
  | releaseNotFound (release : String)
  | conflict (object name reason : String)
  | transient (operation reason : String)
  | notReady (reason : String)
  | cancelled (operation : String)
  /-- The API server or the way to it failed. -/
  | api (reason : String)
  /-- A text that should hold JSON does not decode. -/
  | json (reason : String)
  | yaml (reason : String)
  | io (reason : String)
  deriving DecidableEq, Repr

namespace Error

/-- The word for this kind of error. -/
def kindName : Error → String
  | .validation _ => "Validation"
  | .unsupportedType _ => "UnsupportedType"
  | .notFound .. => "NotFound"
  | .releaseNotFound _ => "ReleaseNotFound"
  | .conflict .. => "Conflict"
  | .transient .. => "Transient"
  | .notReady _ => "NotReady"
  | .cancelled _ => "Cancelled"
  | .api _ => "Kube"
  | .json _ => "Json"
  | .yaml _ => "Yaml"
  | .io _ => "Io"

/-- The text shown to the user. -/
def message : Error → String
  | .validation reason => s!"validation failed: {reason}"
  | .unsupportedType type => s!"unsupported type: {type}"
  | .notFound object name => s!"{object} '{name}' not found"
  | .releaseNotFound release => s!"release '{release}' not found"
  | .conflict object name reason => s!"conflict writing {object} '{name}': {reason}"
  | .transient operation reason => s!"{operation} failed: {reason}"
  | .notReady reason => s!"not yet complete: {reason}"
  | .cancelled operation => s!"{operation} cancelled"
  | .api reason => s!"Kubernetes API error: {reason}"
  | .json reason => s!"JSON error: {reason}"
  | .yaml reason => s!"YAML error: {reason}"
  | .io reason => s!"I/O error: {reason}"

/-- Only an edit of the spec can help. -/
def isTerminal : Error → Bool
  | .validation _ | .unsupportedType _ => true
  | _ => false

/-- Something that was looked up is not there. -/
def isNotFound : Error → Bool
  | .notFound .. | .releaseNotFound _ => true
  | _ => false

end Error

/-- Why a call has no answer. -/
inductive Failure where
  | error (e : Error)
  /-- A sum exceeds its word. The program breaks off, and no caller gets to handle it. -/
  | overflow
  deriving DecidableEq, Repr

/-- What may fail but cannot break off. -/
instance (priority := low) : MonadLift (ExceptT Error (StateM σ)) (ExceptT Failure (StateM σ)) where
  monadLift := ExceptT.adapt Failure.error

end PolicyOperator
