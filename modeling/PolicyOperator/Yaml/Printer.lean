import PolicyOperator.Json.Basic
import PolicyOperator.Yaml.Scalar

/-!
# Writing YAML documents

Block style: one entry to a line, two spaces a level. A list stands at the level of the key that
holds it, and a list item may begin a mapping on its own line.
-/

namespace PolicyOperator

/-- A node of a document. The entries of a mapping are written in the order given. -/
inductive Yaml where
  | null
  | bool (value : Bool)
  | int (value : Int)
  | real (value : Binary64)
  | text (value : String)
  | list (items : List Yaml)
  | mapping (entries : List (String × Yaml))
  deriving Inhabited, Repr

namespace Yaml

mutual

/-- A JSON value as a node; members keep their order. -/
def ofJson : Json → Yaml
  | .null => .null
  | .bool b => .bool b
  | .int n => .int n
  | .real x => .real x
  | .str s => .text s
  | .arr items => .list (ofItems items)
  | .obj members => .mapping (ofMembers members)

def ofItems : List Json → List Yaml
  | [] => []
  | item :: rest => ofJson item :: ofItems rest

def ofMembers : List (String × Json) → List (String × Yaml)
  | [] => []
  | (k, v) :: rest => (k, ofJson v) :: ofMembers rest

end

def margin (indent : Nat) : String := String.ofList (spaces indent)

/-- The key fits on one line before a colon. -/
def isSimpleKey (key : String) : Bool := key.utf8ByteSize ≤ 128 && !key.toList.any isBreak

/-- Ends the line that a scalar's text leaves open. -/
def endLine (text : String) : String :=
  if text.toList.getLast?.any isBreak then text else text ++ "\n"

mutual

/-- The lines of a node. The first continues a line that has been written up to column `indent`;
further entries start there. -/
def lines (indent : Nat) : Yaml → String
  | .null => "null\n"
  | .bool b => if b then "true\n" else "false\n"
  | .int n => toString n ++ "\n"
  | .real x => x.toText ++ "\n"
  | .text s => endLine (scalarText false indent s)
  | .list [] => "[]\n"
  | .list (item :: rest) => "- " ++ lines (indent + 2) item ++ itemLines indent rest
  | .mapping [] => "\x7b\x7d\n"
  | .mapping ((k, v) :: rest) => entryLines indent k v ++ restLines indent rest

/-- An entry of a mapping, without the margin of its first line. -/
def entryLines (indent : Nat) (key : String) : Yaml → String
  | .list (item :: rest) =>
    if isSimpleKey key then
      scalarText true (indent + 2) key ++ ":\n" ++ margin indent ++ "- " ++
        lines (indent + 2) item ++ itemLines indent rest
    else
      "? " ++ endLine (scalarText false (indent + 2) key) ++ margin indent ++ ": - " ++
        lines (indent + 4) item ++ itemLines (indent + 2) rest
  | .mapping ((k, v) :: rest) =>
    (if isSimpleKey key then
      scalarText true (indent + 2) key ++ ":\n" ++ margin (indent + 2)
    else
      "? " ++ endLine (scalarText false (indent + 2) key) ++ margin indent ++ ": ") ++
      entryLines (indent + 2) k v ++ restLines (indent + 2) rest
  | node =>
    (if isSimpleKey key then scalarText true (indent + 2) key ++ ": "
    else "? " ++ endLine (scalarText false (indent + 2) key) ++ margin indent ++ ": ") ++
      lines (indent + 2) node

/-- Further items of a list. -/
def itemLines (indent : Nat) : List Yaml → String
  | [] => ""
  | item :: rest => margin indent ++ "- " ++ lines (indent + 2) item ++ itemLines indent rest

/-- Further entries of a mapping. -/
def restLines (indent : Nat) : List (String × Yaml) → String
  | [] => ""
  | (k, v) :: rest => margin indent ++ entryLines indent k v ++ restLines indent rest

end

/-- The text of a document. -/
def document (node : Yaml) : String :=
  match node with
  | .text s => endLine (scalarText false 2 s)
  | node => lines 0 node

end Yaml

end PolicyOperator
