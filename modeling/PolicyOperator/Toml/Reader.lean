import PolicyOperator.Toml.Scalar

/-!
# Reading TOML text

`Toml.ofText?` reads a whole document. Arrays and tables in braces may nest at most 80 deep, and a
path has at most 80 keys.
-/

namespace PolicyOperator.Toml

/-- Reads something from the front of a text; the answer goes with the rest. -/
abbrev Reader (α : Type) := List Char → Option (α × List Char)

/-- The rest after blanks, line breaks and comments. -/
def skip (inComment : Bool) : List Char → Option (List Char)
  | [] => some []
  | '\n' :: rest => skip false rest
  | '\r' :: '\n' :: rest => skip false rest
  | c :: rest =>
    if inComment then if isPlain c then skip true rest else none
    else if isBlank c then skip false rest
    else if c = '#' then skip true rest
    else some (c :: rest)

/-- The rest after the end of a line. -/
def lineEnd? (cs : List Char) : Option (List Char) :=
  match cs.dropWhile isBlank with
  | [] => some []
  | '\n' :: rest => some rest
  | '\r' :: '\n' :: rest => some rest
  | '#' :: rest => skip true rest
  | _ => none

/-! ## Keys -/

def isKeyChar (c : Char) : Bool := c.isAlphanum || c == '_' || c == '-'

/-- A single key. Quotes on several lines do not make one. -/
def simpleKey? : Reader String
  | '"' :: rest =>
    (basic? (rest.length + 1) rest).map fun (body, rest) => (String.ofList body, rest)
  | '\'' :: rest => (literal? rest).map fun (body, rest) => (String.ofList body, rest)
  | cs => do
    let (word, rest) := cs.span isKeyChar
    guard (!word.isEmpty)
    return (String.ofList word, rest)

/-- How many keys a path may have. -/
def maxKeys : Nat := 80

/-- Keys with points between them. -/
def dottedKeys? : (fuel : Nat) → Reader (List String)
  | 0, _ => none
  | fuel + 1, cs => do
    let (key, rest) ← simpleKey? (cs.dropWhile isBlank)
    match rest.dropWhile isBlank with
    | '.' :: rest =>
      let (keys, rest) ← dottedKeys? fuel rest
      return (key :: keys, rest)
    | rest => return ([key], rest)

/-- A path of keys. -/
def keys? : Reader (List String) := fun cs => do
  let (keys, rest) ← dottedKeys? (cs.length + 1) cs
  guard (keys.length ≤ maxKeys)
  return (keys, rest)

/-! ## Values -/

/-- Items up to a closing bracket, with commas between them and perhaps one behind them. -/
def items? (close : Char) (item : Reader α) : (fuel : Nat) → Reader (List α)
  | 0, _ => none
  | fuel + 1, cs => do
    match ← skip false cs with
    | [] => none
    | c :: rest =>
      if c = close then return ([], rest)
      let (x, rest) ← item (c :: rest)
      match ← skip false rest with
      | [] => none
      | c :: rest =>
        if c = close then return ([x], rest)
        guard (c = ',')
        let (xs, rest) ← items? close item fuel rest
        return (x :: xs, rest)

/-- A key or a path of keys with a value. `gap` reads what may stand around the equals sign. -/
def assignment? (gap : List Char → Option (List Char)) (value : Reader Toml) :
    Reader (List String × Toml) := fun cs => do
  let (keys, rest) ← keys? cs
  match ← gap rest with
  | '=' :: rest =>
    let (value, rest) ← value (← gap rest)
    return ((keys, value), rest)
  | _ => none

/-- The table of the assignments between braces. -/
def bracesTable? (assignments : List (List String × Toml)) : Option Toml := do
  return (← assignments.foldlM (fun (t : Table) (keys, value) => t.assign keys value)
    ⟨.braces, []⟩).toToml

/-- A value that nests at most `depth` deep. -/
def value? : (depth : Nat) → Reader Toml
  | 0, cs => ((text? cs).map fun (s, rest) => (.text s, rest)).or (scalar? cs)
  | depth + 1, cs =>
    match cs with
    | '[' :: rest =>
      (items? ']' (value? depth) (rest.length + 1) rest).map fun (items, rest) =>
        (.array items, rest)
    | '\x7b' :: rest => do
      let assignment := assignment? (skip false) (value? depth)
      let (assignments, rest) ← items? '\x7d' assignment (rest.length + 1) rest
      return (← bracesTable? assignments, rest)
    | cs => ((text? cs).map fun (s, rest) => (.text s, rest)).or (scalar? cs)

/-- How deep values may nest. -/
def maxDepth : Nat := 80

/-! ## Documents -/

/-- One line that says something. -/
def statement? : Reader Statement
  | '[' :: '[' :: rest => do
    let (keys, rest) ← keys? rest
    return (.item keys, ← mark? ']' (← mark? ']' rest))
  | '[' :: rest => do
    let (keys, rest) ← keys? rest
    return (.table keys, ← mark? ']' rest)
  | cs => do
    let ((keys, value), rest) ← assignment? (some ∘ List.dropWhile isBlank) (value? maxDepth) cs
    return (.assign keys value, rest)

/-- The lines of a document that say something. -/
def statements? : (fuel : Nat) → List Char → Option (List Statement)
  | 0, _ => none
  | fuel + 1, cs => do
    match ← skip false cs with
    | [] => return []
    | cs =>
      let (statement, rest) ← statement? cs
      return statement :: (← statements? fuel (← lineEnd? rest))

/-- The table that a document describes. A byte order mark may come first. -/
def ofText? (s : String) : Option Toml := do
  let cs := match s.toList with
    | '\ufeff' :: rest => rest
    | cs => cs
  ofStatements? (← statements? (cs.length + 1) cs)

example : (ofText? "a.b = 0x1F # x\n[c]\nd = ['e', 1.5,]\n").map toJson =
    some (.object [
      ("a", .object [("b", .int 31)]),
      ("c", .object [("d", .arr [.str "e", .real ⟨false, 6755399441055744, -52⟩])])]) := by
  decide +kernel

end PolicyOperator.Toml
