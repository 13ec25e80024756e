/-!
# The command line

`Command.ofArgs` reads the arguments behind the program's name. There are two commands: `run` starts
the controllers, `crds` prints the object definitions. The answer is a command, or why none is
carried out (`Stop`).
-/

namespace PolicyOperator.CommandLine

/-- What `run` is told. -/
structure RunOptions where
  /-- The configuration file. -/
  config : Option String := none
  logLevel : String := "info"
  /-- Logs are JSON lines. -/
  jsonLogs : Bool := false
  deriving DecidableEq, Repr

inductive Command where
  | run (options : RunOptions)
  | crds
  deriving DecidableEq, Repr

/-- What a help text is about. -/
inductive Topic where
  /-- The program. The long text has more to say. -/
  | program (long : Bool)
  | run
  | crds
  | help
  deriving DecidableEq, Repr

/-- Why no command is carried out. -/
inductive Stop where
  | help (topic : Topic)
  | version
  /-- There is no command at all. -/
  | missingCommand
  | unknownCommand (word : String)
  | unknownArgument (word : String)
  /-- An option has no value, or one that it cannot take. -/
  | badValue (option : String)
  /-- An option takes no value but has one. -/
  | needlessValue (option : String)
  /-- An option is given twice. -/
  | repeated (option : String)
  deriving DecidableEq, Repr

/-! ## Words -/

/-- How a word of the command line is understood. -/
inductive Word where
  /-- The mark `--`, behind which no word is an option. -/
  | escape
  /-- A name behind two dashes, and the text behind its first `=`. -/
  | long (name : String) (value : Option String)
  /-- A letter behind one dash, and the characters behind it. -/
  | short (letter : Char) (rest : List Char)
  | plain
  deriving DecidableEq, Repr

def Word.ofText (s : String) : Word :=
  match s.toList with
  | ['-', '-'] => .escape
  | '-' :: '-' :: cs =>
    let name := String.ofList (cs.takeWhile (· ≠ '='))
    match cs.dropWhile (· ≠ '=') with
    | [] => .long name none
    | _ :: value => .long name (some (String.ofList value))
  | '-' :: c :: cs => .short c cs
  | _ => .plain

/-! ## The options of `run` -/

/-- The options that take a value. -/
inductive ValueOption where
  | config
  | logLevel
  deriving DecidableEq, Repr

namespace ValueOption

def name : ValueOption → String
  | .config => "--config"
  | .logLevel => "--log-level"

def ofLong? : String → Option ValueOption
  | "config" => some .config
  | "log-level" => some .logLevel
  | _ => none

end ValueOption

/-- The options read so far. -/
structure Draft where
  config : Option String := none
  logLevel : Option String := none
  jsonLogs : Bool := false
  /-- The last option that takes a value from a word of its own, and the value once it is there. Its
  value is looked at only when the next option comes, or the end. -/
  pending : Option (ValueOption × Option String) := none
  deriving DecidableEq, Repr

namespace Draft

/-- The last option still waits for its value. -/
def awaits? (d : Draft) : Option ValueOption :=
  match d.pending with
  | some (o, none) => some o
  | _ => none

/-- Takes the value of an option. A file has to have a name. -/
def put (d : Draft) (o : ValueOption) (value : String) : Except Stop Draft :=
  match o with
  | .config =>
    if d.config.isSome then .error (.repeated o.name)
    else if value = "" then .error (.badValue o.name)
    else .ok { d with config := some value }
  | .logLevel =>
    if d.logLevel.isSome then .error (.repeated o.name)
    else .ok { d with logLevel := some value }

/-- Looks at the value of the last option. -/
def settle (d : Draft) : Except Stop Draft :=
  match d.pending with
  | none => .ok d
  | some (o, none) => .error (.badValue o.name)
  | some (o, some value) => put { d with pending := none } o value

/-- Begins an option that takes a value. -/
def start (d : Draft) (o : ValueOption) (attached : Option String) : Except Stop Draft := do
  let d ← d.settle
  match attached with
  | some value => d.put o value
  | none => return { d with pending := some (o, none) }

/-- Takes an option with a long name. -/
def long (d : Draft) (word name : String) (value : Option String) : Except Stop Draft :=
  match ValueOption.ofLong? name with
  | some o => d.start o value
  | none =>
    if name = "json-logs" then
      if value.isSome then .error (.needlessValue word)
      else do
        let d ← d.settle
        if d.jsonLogs then throw (.repeated word)
        return { d with jsonLogs := true }
    else if name = "help" then
      if value.isSome then .error (.needlessValue word)
      else do
        discard d.settle
        throw (.help .run)
    else .error (.unknownArgument word)

/-- Takes an option with a short name. Its value may follow at once, or after `=`. -/
def short (d : Draft) (word : String) (letter : Char) (rest : List Char) : Except Stop Draft :=
  if letter = 'c' then
    d.start .config (match rest with
      | [] => none
      | '=' :: value => some (String.ofList value)
      | value => some (String.ofList value))
  else if letter = 'h' then do
    discard d.settle
    throw (.help .run)
  else .error (.unknownArgument word)

/-- The options of `run`, once all words are read. -/
def finish (d : Draft) : Except Stop RunOptions := do
  let d ← d.settle
  let plain : RunOptions := {}
  return {
    config := d.config
    logLevel := d.logLevel.getD plain.logLevel
    jsonLogs := d.jsonLogs }

/-- Reads the words behind `run`. -/
def read (d : Draft) : List String → Except Stop RunOptions
  | [] => d.finish
  | word :: rest =>
    match Word.ofText word with
    | .escape =>
      match rest with
      | [] => d.finish
      | word :: _ => .error (.unknownArgument word)
    | .long name value => do (← d.long word name value).read rest
    | .short letter cs => do (← d.short word letter cs).read rest
    | .plain =>
      match d.awaits? with
      | some o => { d with pending := some (o, some word) }.read rest
      | none => .error (.unknownArgument word)

end Draft

/-! ## Commands -/

/-- Reads the words behind `crds`, which takes none but a call for help. -/
def crdsCommand : List String → Except Stop Command
  | [] => .ok .crds
  | word :: rest =>
    match Word.ofText word, rest with
    | .escape, [] => .ok .crds
    | .escape, next :: _ => .error (.unknownArgument next)
    | .long "help" none, _ => .error (.help .crds)
    | .long "help" (some _), _ => .error (.needlessValue word)
    | .short 'h' _, _ => .error (.help .crds)
    | _, _ => .error (.unknownArgument word)

/-- The help text that the words behind `help` call for. -/
def helpTopic : List String → Stop
  | [] => .help (.program true)
  | ["run"] => .help .run
  | ["crds"] => .help .crds
  | ["help"] => .help .help
  | word :: rest =>
    if ["run", "crds", "help"].contains word then .unknownCommand (rest.headD "")
    else .unknownCommand word

/-- Reads the first word where it is no command. -/
def firstWord (word : String) (rest : List String) : Stop :=
  match Word.ofText word, rest with
  | .escape, [] => .missingCommand
  | .escape, next :: _ =>
    if ["run", "crds", "help"].contains next then .unknownArgument next else .unknownCommand next
  | .long "help" none, _ => .help (.program true)
  | .long "version" none, _ => .version
  | .long "help" (some _), _ | .long "version" (some _), _ => .needlessValue word
  | .short 'h' _, _ => .help (.program false)
  | .short 'V' _, _ => .version
  | .long _ _, _ | .short _ _, _ => .unknownArgument word
  | .plain, _ => .unknownCommand word

/-- The command that the arguments name. -/
def Command.ofArgs : List String → Except Stop Command
  | [] => .error .missingCommand
  | "run" :: rest => (Draft.read {} rest).map .run
  | "crds" :: rest => crdsCommand rest
  | "help" :: rest => .error (helpTopic rest)
  | word :: rest => .error (firstWord word rest)

end PolicyOperator.CommandLine
