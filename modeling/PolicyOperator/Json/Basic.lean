import PolicyOperator.Number.Binary64
import PolicyOperator.SortedMap

/-!
# JSON values

The free-form values of the operator and the wire form of its objects. The members of an object
are entries in increasing key order, so equal objects are equal values.

Main statement: `field?_record` reads a member back from an object that was put together from
optional members.
-/

namespace PolicyOperator

/-- A JSON value. Whole numbers and numbers with a fraction or exponent are told apart. -/
inductive Json where
  | null
  | bool (value : Bool)
  | int (value : Int)
  | real (value : Binary64)
  | str (value : String)
  | arr (items : List Json)
  | obj (members : List (String × Json))
  deriving Inhabited, Repr

namespace Json

mutual

def decEq : (a b : Json) → Decidable (a = b)
  | .null, .null => isTrue rfl
  | .bool a, .bool b => if h : a = b then isTrue (h ▸ rfl) else isFalse (by simp [h])
  | .int a, .int b => if h : a = b then isTrue (h ▸ rfl) else isFalse (by simp [h])
  | .real a, .real b => if h : a = b then isTrue (h ▸ rfl) else isFalse (by simp [h])
  | .str a, .str b => if h : a = b then isTrue (h ▸ rfl) else isFalse (by simp [h])
  | .arr a, .arr b =>
    match decEqItems a b with
    | isTrue h => isTrue (h ▸ rfl)
    | isFalse h => isFalse (by simp [h])
  | .obj a, .obj b =>
    match decEqMembers a b with
    | isTrue h => isTrue (h ▸ rfl)
    | isFalse h => isFalse (by simp [h])
  | .null, .bool _ | .null, .int _ | .null, .real _ | .null, .str _ | .null, .arr _
  | .null, .obj _ | .bool _, .null | .bool _, .int _ | .bool _, .real _ | .bool _, .str _
  | .bool _, .arr _ | .bool _, .obj _ | .int _, .null | .int _, .bool _ | .int _, .real _
  | .int _, .str _ | .int _, .arr _ | .int _, .obj _ | .real _, .null | .real _, .bool _
  | .real _, .int _ | .real _, .str _ | .real _, .arr _ | .real _, .obj _ | .str _, .null
  | .str _, .bool _ | .str _, .int _ | .str _, .real _ | .str _, .arr _ | .str _, .obj _
  | .arr _, .null | .arr _, .bool _ | .arr _, .int _ | .arr _, .real _ | .arr _, .str _
  | .arr _, .obj _ | .obj _, .null | .obj _, .bool _ | .obj _, .int _ | .obj _, .real _
  | .obj _, .str _ | .obj _, .arr _ => isFalse (by simp)

def decEqItems : (a b : List Json) → Decidable (a = b)
  | [], [] => isTrue rfl
  | [], _ :: _ | _ :: _, [] => isFalse (by simp)
  | a :: as, b :: bs =>
    match decEq a b, decEqItems as bs with
    | isTrue h, isTrue hs => isTrue (h ▸ hs ▸ rfl)
    | isFalse h, _ => isFalse (by simp [h])
    | _, isFalse hs => isFalse (by simp [hs])

def decEqMembers : (a b : List (String × Json)) → Decidable (a = b)
  | [], [] => isTrue rfl
  | [], _ :: _ | _ :: _, [] => isFalse (by simp)
  | (k, a) :: as, (l, b) :: bs =>
    if hk : k = l then
      match decEq a b, decEqMembers as bs with
      | isTrue h, isTrue hs => isTrue (hk ▸ h ▸ hs ▸ rfl)
      | isFalse h, _ => isFalse (by simp [h])
      | _, isFalse hs => isFalse (by simp [hs])
    else isFalse (by simp [hk])

end

instance : DecidableEq Json := decEq

/-! ## Equal values -/

mutual

/-- The value with the signs of its zeros dropped. Values that are alike in this are equal as
numbers are, where `-0.0` equals `0.0`. -/
def unsignedZeros : Json → Json
  | .null => .null
  | .bool b => .bool b
  | .int n => .int n
  | .real x => .real x.unsignedZero
  | .str s => .str s
  | .arr items => .arr (unsignedZeroItems items)
  | .obj members => .obj (unsignedZeroMembers members)

def unsignedZeroItems : List Json → List Json
  | [] => []
  | j :: rest => j.unsignedZeros :: unsignedZeroItems rest

def unsignedZeroMembers : List (String × Json) → List (String × Json)
  | [] => []
  | (k, j) :: rest => (k, j.unsignedZeros) :: unsignedZeroMembers rest

end

/-! ## Building objects -/

/-- The object of a list of members; of two with one key the later wins. -/
def object (members : List (String × Json)) : Json := .obj (Entries.ofList members)

/-- The members that are present. -/
def presentMembers : List (String × Option Json) → List (String × Json)
  | [] => []
  | (k, some j) :: rest => (k, j) :: presentMembers rest
  | (_, none) :: rest => presentMembers rest

/-- The object of the members that are present. -/
def record (members : List (String × Option Json)) : Json := object (presentMembers members)

/-! ## Reading members -/

/-- The member of an object under a key. -/
def field? (j : Json) (key : String) : Option Json :=
  match j with
  | .obj members => Entries.get? key members
  | _ => none

def isNull : Json → Bool
  | .null => true
  | _ => false

def isObject : Json → Bool
  | .obj _ => true
  | _ => false

/-- The object with one more member, or a new value for one; other values stay. -/
def setField (j : Json) (key : String) (value : Json) : Json :=
  match j with
  | .obj members => .obj (Entries.insert key value members)
  | j => j

/-- The object without a member. -/
def eraseField (j : Json) (key : String) : Json :=
  match j with
  | .obj members => .obj (Entries.erase key members)
  | j => j

/-! ## Members of a record -/

/-- The value that a list of optional members holds for a key: the last present one. -/
def lastMember (key : String) : List (String × Option Json) → Option Json
  | [] => none
  | (k, v) :: rest => (lastMember key rest).or (if key = k then v else none)

theorem get?_foldl_insert (key : String) (members : List (String × Option Json))
    (acc : List (String × Json)) :
    Entries.get? key
        ((presentMembers members).foldl (fun acc e => Entries.insert e.1 e.2 acc) acc) =
      (lastMember key members).or (Entries.get? key acc) := by
  induction members generalizing acc with
  | nil => simp [presentMembers, lastMember]
  | cons m rest ih =>
    obtain ⟨k, v⟩ := m
    cases v with
    | none =>
      simp only [presentMembers, lastMember, ih]
      split <;> simp
    | some j =>
      simp only [presentMembers, lastMember, List.foldl_cons, ih]
      by_cases h : key = k
      · subst h
        rw [Entries.get?_insert_self]
        cases lastMember key rest <;> simp
      · rw [Entries.get?_insert_of_ne h]
        simp [h]

/-- A member of a record is the one given for its key. -/
theorem field?_record (key : String) (members : List (String × Option Json)) :
    (record members).field? key = lastMember key members := by
  simp [record, object, field?, Entries.ofList, get?_foldl_insert, Entries.get?]

end Json

end PolicyOperator
