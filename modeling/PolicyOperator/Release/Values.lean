import PolicyOperator.Json.Basic

/-!
# Chart values

Values that a user declares are laid over the baseline of a tool: mappings merge key by key, and
anything else is replaced as a whole.

Main statement: `get?_mergeMembers` says what the merge of two mappings holds under a key.
-/

namespace PolicyOperator.Json

/-- Adds the entries whose key is new. -/
def addMissing (members top : List (String × Json)) : List (String × Json) :=
  top.foldl (fun acc e =>
    if (Entries.get? e.1 acc).isSome then acc else Entries.insert e.1 e.2 acc) members

mutual

/-- `overlay` laid over a base. -/
def merge : (base overlay : Json) → Json
  | .obj base, .obj top => .obj (addMissing (mergeShared top base) top)
  | .obj _, .null => .null
  | .obj _, .bool b => .bool b
  | .obj _, .int n => .int n
  | .obj _, .real x => .real x
  | .obj _, .str s => .str s
  | .obj _, .arr items => .arr items
  | .null, overlay | .bool _, overlay | .int _, overlay | .real _, overlay | .str _, overlay
  | .arr _, overlay => overlay

/-- The base entries, each under what the overlay holds for its key. -/
def mergeShared (top : List (String × Json)) : List (String × Json) → List (String × Json)
  | [] => []
  | (k, v) :: rest => (k, mergeValue (Entries.get? k top) v) :: mergeShared top rest

/-- One value under what the overlay holds for its key, if anything. -/
def mergeValue (top : Option Json) (v : Json) : Json :=
  match top with
  | some o => merge v o
  | none => v

end

/-- Baseline values under the declared ones. Null declares nothing, and no values at all are an
empty mapping. -/
def mergedValues (baseline : Json) (declared : Option Json) : Json :=
  let values := match declared with
    | some d => if d.isNull then baseline else baseline.merge d
    | none => baseline
  if values.isNull then .obj [] else values

/-! ## Look-up -/

theorem get?_mergeShared (key : String) (top : List (String × Json)) :
    ∀ base, Entries.get? key (mergeShared top base) =
      (Entries.get? key base).map (mergeValue (Entries.get? key top))
  | [] => by simp [mergeShared, Entries.get?]
  | (k, v) :: rest => by
    by_cases h : key = k
    · subst h; simp [mergeShared, Entries.get?]
    · simp [mergeShared, Entries.get?, h, get?_mergeShared key top rest]

theorem get?_addMissing (key : String) (members top : List (String × Json)) :
    Entries.get? key (addMissing members top) =
      (Entries.get? key members).or (Entries.get? key top) := by
  induction top generalizing members with
  | nil => simp [addMissing, Entries.get?]
  | cons e rest ih =>
    obtain ⟨k, v⟩ := e
    simp only [addMissing, List.foldl_cons] at ih ⊢
    rw [ih]
    by_cases hk : key = k
    · subst hk
      cases hm : Entries.get? key members with
      | none => simp [Entries.get?, Entries.get?_insert_self]
      | some w => simp [hm]
    · split
      · simp [Entries.get?, hk]
      · rw [Entries.get?_insert_of_ne hk]
        simp [Entries.get?, hk]

/-- The merge of two mappings holds under a key what the base holds there, under what the overlay
holds there. -/
theorem get?_mergeMembers (key : String) (base top : List (String × Json)) :
    (merge (.obj base) (.obj top)).field? key =
      match Entries.get? key base, Entries.get? key top with
      | some v, some o => some (merge v o)
      | some v, none => some v
      | none, o => o := by
  simp only [merge, field?, get?_addMissing, get?_mergeShared]
  cases Entries.get? key base <;> cases Entries.get? key top <;> simp [mergeValue]

end PolicyOperator.Json
