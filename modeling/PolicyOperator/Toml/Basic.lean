import PolicyOperator.Json.Basic

/-!
# TOML documents

The values of a TOML document, and how its lines build up the tables: a header opens a table, an
assignment puts a value under a key or a path of keys. No key is given twice, and who may add to a
table depends on how the table came about.
-/

namespace PolicyOperator

/-- How a table came about. -/
inductive TableOrigin where
  /-- A header names it, or it is the document. -/
  | header
  /-- It lies on the way to a header. -/
  | passed
  /-- It lies on the way to a dotted key. -/
  | dotted
  /-- It was written between braces. -/
  | braces
  deriving DecidableEq, Repr

inductive Toml where
  | text (value : String)
  | int (value : Int)
  | float (value : Binary64)
  | bool (value : Bool)
  | dateTime (text : String)
  | array (items : List Toml)
  /-- An array of tables, each opened by a header. -/
  | tables (items : List Toml)
  | table (origin : TableOrigin) (members : List (String × Toml))
  deriving Inhabited, Repr

namespace Toml

mutual

/-- The value in JSON. A date is an object with a single member. -/
def toJson : Toml → Json
  | .text s => .str s
  | .int n => .int n
  | .float x => .real x
  | .bool b => .bool b
  | .dateTime s => .obj [("datetime", .str s)]
  | .array items | .tables items => .arr (itemsToJson items)
  | .table _ members => .obj (membersToJson members)

def itemsToJson : List Toml → List Json
  | [] => []
  | item :: rest => item.toJson :: itemsToJson rest

def membersToJson : List (String × Toml) → List (String × Json)
  | [] => []
  | (key, value) :: rest => (key, value.toJson) :: membersToJson rest

end

/-! ## Building tables -/

/-- A table in the making. -/
structure Table where
  origin : TableOrigin
  members : List (String × Toml) := []

def Table.toToml (t : Table) : Toml := .table t.origin t.members

namespace Table

/-- Changes the table that a path of keys leads to from `t`. Missing tables are made on the way, and
an array of tables stands for its last table. Else a dotted key passes only through tables that no
header names. -/
def change (dotted : Bool) (f : Table → Option Table) : List String → Table → Option Table
  | [], t => f t
  | key :: path, t => do
    let next : Toml ← match Entries.get? key t.members with
      | none =>
        let made : Table := ⟨if dotted then .dotted else .passed, []⟩
        (change dotted f path made).map toToml
      | some (.table origin members) =>
        if origin = .braces || (dotted && origin = .header) then none
        else (change dotted f path ⟨origin, members⟩).map toToml
      | some (.tables items) =>
        match items.reverse with
        | .table origin members :: earlier =>
          (change dotted f path ⟨origin, members⟩).map fun last =>
            .tables (last.toToml :: earlier).reverse
        | _ => none
      | some _ => none
    return { t with members := Entries.insert key next t.members }

/-- Adds a member, whose key must be new. -/
def add (t : Table) (key : String) (value : Toml) : Option Table :=
  match Entries.get? key t.members with
  | some _ => none
  | none => some { t with members := Entries.insert key value t.members }

/-- Puts a value under a key, or under a path of keys of which all but the last lead to tables of
dotted keys. -/
def assign (t : Table) (keys : List String) (value : Toml) : Option Table := do
  let key ← keys.getLast?
  let path := keys.dropLast
  change true (fun t =>
    if (t.origin = .dotted) = path.isEmpty then none else t.add key value) path t

/-- Opens the table that a header names. -/
def openTable (t : Table) (keys : List String) : Option Table := do
  let key ← keys.getLast?
  change false (fun t =>
    match Entries.get? key t.members with
    | none => t.add key (.table .header [])
    | some (.table .passed members) =>
      some { t with members := Entries.insert key (.table .header members) t.members }
    | some _ => none) keys.dropLast t

/-- Opens one more table of the array that a header names. -/
def openItem (t : Table) (keys : List String) : Option Table := do
  let key ← keys.getLast?
  change false (fun t =>
    match Entries.get? key t.members with
    | none => t.add key (.tables [.table .header []])
    | some (.tables items) =>
      let items := items ++ [.table .header []]
      some { t with members := Entries.insert key (.tables items) t.members }
    | some _ => none) keys.dropLast t

end Table

/-- A line of a document. -/
inductive Statement where
  | table (keys : List String)
  | item (keys : List String)
  | assign (keys : List String) (value : Toml)

/-- A document in the making: its tables, and the path to the one that is open. -/
structure Draft where
  root : Table := ⟨.header, []⟩
  current : List String := []

/-- Takes in one more line. -/
def Draft.take (d : Draft) : Statement → Option Draft
  | .table keys => do return ⟨← d.root.openTable keys, keys⟩
  | .item keys => do return ⟨← d.root.openItem keys, keys⟩
  | .assign keys value => do
    let root ← Table.change false (fun t => t.assign keys value) d.current d.root
    return { d with root := root }

/-- The table that the lines of a document build up. -/
def ofStatements? (lines : List Statement) : Option Toml := do
  return (← lines.foldlM Draft.take {}).root.toToml

end Toml

end PolicyOperator
