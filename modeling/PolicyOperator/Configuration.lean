import PolicyOperator.Settings
import PolicyOperator.Toml.Reader

/-!
# The configuration file

Settings may come from a TOML file. What the file leaves out has its default, and what is no
setting is ignored.
-/

namespace PolicyOperator

/-- Why settings could not be had from a file. -/
inductive ConfigurationError where
  | unreadable (path : String)
  | invalid (path : String)
  deriving DecidableEq, Repr

def ConfigurationError.message : ConfigurationError → String
  | .unreadable path => "failed to read config " ++ path
  | .invalid path => "invalid config " ++ path

namespace Settings

/-- The settings that a TOML document describes. -/
def ofToml? (text : String) : Option Settings := (Toml.ofText? text).bind fun t => ofJson? t.toJson

/-- The settings of a run. A file goes by its path with what it holds, nothing when it cannot be read;
`helmPath` is what the environment says. -/
def load (file : Option (String × Option String)) (helmPath : Option String) :
    Except ConfigurationError Settings :=
  match file with
  | none => .ok (withHelmPath {} helmPath)
  | some (path, none) => .error (.unreadable path)
  | some (path, some content) =>
    match ofToml? content with
    | some s => .ok (s.withHelmPath helmPath)
    | none => .error (.invalid path)

end Settings

end PolicyOperator
