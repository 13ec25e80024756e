import PolicyOperator.Instant
import PolicyOperator.Json.Draft

/-!
# Reading typed values from JSON

Each type on the wire has a writer into `Json` and a reader from `Draft`. The readers of whole values
are here, and `Row`, through which a reader takes the fields of a record. Unknown members are
ignored everywhere, whatever they hold.
-/

namespace PolicyOperator

namespace Json

def ofTextMap (m : SortedMap String String) : Json :=
  .obj (m.entries.map fun e => (e.1, .str e.2))

def ofTexts (l : List String) : Json := .arr (l.map .str)

def ofInstant (t : Instant) : Json := .str t.toText

def ofWord (n : UInt32) : Json := .int n.toNat

end Json

namespace Draft

def bool? : Draft → Option Bool
  | .bool b => some b
  | _ => none

def text? : Draft → Option String
  | .str s => some s
  | _ => none

/-- A whole number in a range. -/
def intIn? (lo hi : Int) : Draft → Option Int
  | .int n => if lo ≤ n ∧ n ≤ hi then some n else none
  | _ => none

def int32? : Draft → Option Int := intIn? (-2147483648) 2147483647

def int64? : Draft → Option Int := intIn? (-9223372036854775808) 9223372036854775807

def nat16? (d : Draft) : Option Nat := (intIn? 0 65535 d).map Int.toNat

def nat64? (d : Draft) : Option Nat := (intIn? 0 18446744073709551615 d).map Int.toNat

def word32? (d : Draft) : Option UInt32 :=
  (intIn? 0 4294967295 d).map fun n => UInt32.ofNat n.toNat

/-- The items of an array, all read alike. -/
def listOf? (read : Draft → Option α) : Draft → Option (List α)
  | .arr items => items.mapM read
  | _ => none

/-- A map from texts to texts; of two values under one key the later wins. -/
def textMap? : Draft → Option (SortedMap String String)
  | .obj members => do
    return .ofList (← members.mapM fun (k, d) => do return (k, ← d.text?))
  | _ => none

def instant? (d : Draft) : Option Instant := d.text?.bind Instant.ofText?

/-- A word out of a closed list, alone or as the only key of an object with the value null. -/
def word? (d : Draft) : Option String :=
  match d with
  | .str s => some s
  | .obj [(s, .null)] => some s
  | _ => none

/-! ## Rows -/

/-- The fields of a record that is being read: the values given for each, in order. -/
structure Row where
  given : String → List Draft

/-- The values that members give for a key. -/
def valuesOf (members : List (String × Draft)) (key : String) : List Draft :=
  (members.filter fun m => m.1 == key).map Prod.snd

/-- The row of an object, in which a field may be given more than once. -/
def members? : Draft → Option Row
  | .obj members => some ⟨valuesOf members⟩
  | _ => none

/-- The row of an array that lists the values of the first fields in order. -/
def rowOfItems (keys : List String) (items : List Draft) : Row := ⟨valuesOf (keys.zip items)⟩

/-- The row of an object that gives no field twice, or of an array of as many values as there are
fields at the most. -/
def row? (keys : List String) : Draft → Option Row
  | .obj members =>
    if keys.all fun key => (valuesOf members key).length ≤ 1 then some ⟨valuesOf members⟩ else none
  | .arr items => if items.length ≤ keys.length then some (rowOfItems keys items) else none
  | _ => none

/-- Like `row?`, but what an array lists beyond the fields is ignored. -/
def openRow? (keys : List String) : Draft → Option Row
  | .arr items => some (rowOfItems keys items)
  | d => d.row? keys

namespace Row

/-- A field that has to be there. Of its values all have to be readable, and the last counts. -/
def required (r : Row) (key : String) (read : Draft → Option α) : Option α := do
  (← (r.given key).mapM read).getLast?

/-- A field with a value of its own when it is missing. -/
def defaulted (r : Row) (key : String) (default : α) (read : Draft → Option α) : Option α := do
  return (← (r.given key).mapM read).getLast?.getD default

/-- A field that may be missing or null. -/
def optional (r : Row) (key : String) (read : Draft → Option α) : Option (Option α) := do
  let values ← (r.given key).mapM fun d =>
    match d with
    | .null => some none
    | d => (read d).map some
  return values.getLast?.join

/-- A field that takes a value of its own when it is missing or null. -/
def lenient (r : Row) (key : String) (default : α) (read : Draft → Option α) : Option α := do
  return (← r.optional key read).getD default

end Row

end Draft

end PolicyOperator
