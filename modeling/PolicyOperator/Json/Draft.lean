import PolicyOperator.Json.Basic

/-!
# Drafts of JSON values

What readers of typed values work on: a JSON value before it is settled which of its parts are
needed. An object may give a member more than once. A part that stands for no value, such as a
number beyond all doubles or half of a surrogate pair, spoils what reads it and nothing else.

Main statements: `value?_ofJson` reads a value back from its draft, and `settled_of_value?` says
that whatever is read can be read back so.
-/

namespace PolicyOperator

/-- A JSON value as it was written. -/
inductive Draft where
  | null
  | bool (value : Bool)
  | int (value : Int)
  | real (value : Binary64)
  | str (value : String)
  | arr (items : List Draft)
  /-- The members in the order in which they were written. -/
  | obj (members : List (String × Draft))
  /-- A part that is well written but stands for no value. -/
  | unreadable
  deriving Inhabited

namespace Draft

/-! ## Values as drafts -/

mutual

def ofJson : Json → Draft
  | .null => .null
  | .bool b => .bool b
  | .int n => .int n
  | .real x => .real x
  | .str s => .str s
  | .arr items => .arr (ofItems items)
  | .obj members => .obj (ofMembers members)

def ofItems : List Json → List Draft
  | [] => []
  | item :: rest => ofJson item :: ofItems rest

def ofMembers : List (String × Json) → List (String × Draft)
  | [] => []
  | (key, value) :: rest => (key, ofJson value) :: ofMembers rest

end

instance : Coe Json Draft := ⟨ofJson⟩

/-! ## Drafts as values -/

mutual

/-- The value of a draft all of whose parts can be read. Of two members with one key the later
wins. -/
def value? : Draft → Option Json
  | .null => some .null
  | .bool b => some (.bool b)
  | .int n => some (.int n)
  | .real x => some (.real x)
  | .str s => some (.str s)
  | .arr items => (itemValues? items).map .arr
  | .obj members => (memberValues? members).map Json.object
  | .unreadable => none

def itemValues? : List Draft → Option (List Json)
  | [] => some []
  | item :: rest => do return (← value? item) :: (← itemValues? rest)

def memberValues? : List (String × Draft) → Option (List (String × Json))
  | [] => some []
  | (key, value) :: rest => do return (key, ← value? value) :: (← memberValues? rest)

end

/-- All parts can be read. -/
def isReadable (d : Draft) : Bool := d.value?.isSome

/-! ## Reading a value back -/

mutual

/-- The members of every object in a value are put together as `Json.object` puts them. -/
def Settled : Json → Prop
  | .arr items => SettledItems items
  | .obj members => Entries.ofList members = members ∧ SettledMembers members
  | _ => True

def SettledItems : List Json → Prop
  | [] => True
  | item :: rest => Settled item ∧ SettledItems rest

def SettledMembers : List (String × Json) → Prop
  | [] => True
  | (_, value) :: rest => Settled value ∧ SettledMembers rest

end

mutual

/-- A value is read back from its draft. -/
theorem value?_ofJson : ∀ j : Json, Settled j → (ofJson j).value? = some j
  | .null, _ | .bool _, _ | .int _, _ | .real _, _ | .str _, _ => rfl
  | .arr items, h => by
    simp only [Settled] at h
    simp [ofJson, value?, itemValues?_ofItems items h]
  | .obj members, h => by
    simp only [Settled] at h
    simp [ofJson, value?, memberValues?_ofMembers members h.2, Json.object, h.1]

theorem itemValues?_ofItems :
    ∀ items : List Json, SettledItems items → itemValues? (ofItems items) = some items
  | [], _ => rfl
  | item :: rest, h => by
    simp only [SettledItems] at h
    simp [ofItems, itemValues?, value?_ofJson item h.1, itemValues?_ofItems rest h.2]

theorem memberValues?_ofMembers : ∀ members : List (String × Json), SettledMembers members →
    memberValues? (ofMembers members) = some members
  | [], _ => rfl
  | (key, value) :: rest, h => by
    simp only [SettledMembers] at h
    simp [ofMembers, memberValues?, value?_ofJson value h.1, memberValues?_ofMembers rest h.2]

end

/-! ## What is read is settled -/

theorem settledItems_iff {items : List Json} : SettledItems items ↔ ∀ v ∈ items, Settled v := by
  induction items with
  | nil => simp [SettledItems]
  | cons item rest ih => simp [SettledItems, ih]

theorem settledMembers_iff {members : List (String × Json)} :
    SettledMembers members ↔ ∀ e ∈ members, Settled e.2 := by
  induction members with
  | nil => simp [SettledMembers]
  | cons e rest ih => simp [SettledMembers, ih]

theorem Settled.ordered {members : List (String × Json)} (h : Settled (.obj members)) :
    Entries.Ordered members := by
  simp only [Settled] at h
  rw [← h.1]
  exact Entries.ordered_ofList _

mutual

/-- A value that was read is put together as values are. -/
theorem settled_of_value? : ∀ {d : Draft} {j : Json}, d.value? = some j → Settled j
  | .null, _, h | .bool _, _, h | .int _, _, h | .real _, _, h | .str _, _, h => by
    cases h
    trivial
  | .arr items, _, h => by
    obtain ⟨l, hl, rfl⟩ := Option.map_eq_some_iff.1 h
    exact settledItems_of_itemValues? hl
  | .obj members, _, h => by
    obtain ⟨l, hl, rfl⟩ := Option.map_eq_some_iff.1 h
    refine ⟨Entries.ofList_of_ordered (Entries.ordered_ofList l), ?_⟩
    have hsettled := settledMembers_iff.1 (settledMembers_of_memberValues? hl)
    exact settledMembers_iff.2 fun e he => hsettled e (Entries.mem_of_mem_ofList he)
  | .unreadable, _, h => by cases h

theorem settledItems_of_itemValues? : ∀ {items : List Draft} {l : List Json},
    itemValues? items = some l → SettledItems l
  | [], _, h => by
    cases h
    trivial
  | item :: rest, _, h => by
    obtain ⟨j, hj, hrest⟩ := Option.bind_eq_some_iff.1 h
    obtain ⟨l, hl, heq⟩ := Option.bind_eq_some_iff.1 hrest
    cases heq
    exact ⟨settled_of_value? hj, settledItems_of_itemValues? hl⟩

theorem settledMembers_of_memberValues? : ∀ {members : List (String × Draft)}
    {l : List (String × Json)}, memberValues? members = some l → SettledMembers l
  | [], _, h => by
    cases h
    trivial
  | (key, d) :: rest, _, h => by
    obtain ⟨j, hj, hrest⟩ := Option.bind_eq_some_iff.1 h
    obtain ⟨l, hl, heq⟩ := Option.bind_eq_some_iff.1 hrest
    cases heq
    exact ⟨settled_of_value? hj, settledMembers_of_memberValues? hl⟩

end

end Draft

end PolicyOperator
