/-!
# Sorted maps

A finite map is a list of entries in strictly increasing key order. The functions on plain entry
lists (`Entries`) carry the theory; `SortedMap` adds the order as an invariant, so two maps with
the same look-ups are equal as values.

Main statements: `get?_insert`, `get?_erase`, `get?_overlay` say what each operation does to the
look-up, and `mem_entries_iff` that the entries are exactly what the look-up finds.
-/

namespace PolicyOperator

/-! ## Entry lists -/

namespace Entries

variable {κ α : Type} [Ord κ]

/-- The first value filed under `k`. -/
def get? (k : κ) : List (κ × α) → Option α
  | [] => none
  | (k', v) :: rest => if compare k k' = .eq then some v else get? k rest

/-- Files `v` under `k` at its place in the order; a value already there is replaced. -/
def insert (k : κ) (v : α) : List (κ × α) → List (κ × α)
  | [] => [(k, v)]
  | (k', v') :: rest =>
    match compare k k' with
    | .lt => (k, v) :: (k', v') :: rest
    | .eq => (k, v) :: rest
    | .gt => (k', v') :: insert k v rest

/-- Drops every entry filed under `k`. -/
def erase (k : κ) (entries : List (κ × α)) : List (κ × α) :=
  entries.filter fun e => compare k e.1 != .eq

/-- Sorts entries by key; of two with one key the later wins. -/
def ofList (entries : List (κ × α)) : List (κ × α) :=
  entries.foldl (fun acc e => insert e.1 e.2 acc) []

/-- The keys increase strictly. -/
def Ordered (entries : List (κ × α)) : Prop :=
  entries.Pairwise fun a b => compare a.1 b.1 = .lt

theorem ordered_nil : Ordered ([] : List (κ × α)) := List.Pairwise.nil

theorem fst_mem_of_mem_insert {k : κ} {v : α} {e : κ × α} :
    ∀ {l : List (κ × α)}, e ∈ insert k v l → e = (k, v) ∨ e ∈ l
  | [], h => by simpa [insert] using h
  | (k', v') :: rest, h => by
    simp only [insert] at h
    split at h
    · simpa using h
    · rcases List.mem_cons.1 h with h | h
      · exact Or.inl h
      · exact Or.inr (List.mem_cons_of_mem _ h)
    · rcases List.mem_cons.1 h with h | h
      · exact Or.inr (h ▸ List.mem_cons_self)
      · exact (fst_mem_of_mem_insert h).imp_right (List.mem_cons_of_mem _)

variable [Std.TransOrd κ]

theorem Ordered.insert {k : κ} {v : α} :
    ∀ {l : List (κ × α)}, Ordered l → Ordered (insert k v l)
  | [], _ => List.pairwise_singleton _ _
  | (k', v') :: rest, h => by
    have hrest : Ordered rest := (List.pairwise_cons.1 h).2
    have hhead := (List.pairwise_cons.1 h).1
    simp only [Entries.insert]
    split
    · next hlt =>
      refine List.pairwise_cons.2 ⟨fun e he => ?_, h⟩
      rcases List.mem_cons.1 he with rfl | he
      · exact hlt
      · exact Std.TransCmp.lt_trans hlt (hhead e he)
    · next heq =>
      refine List.pairwise_cons.2 ⟨fun e he => ?_, hrest⟩
      exact Std.TransCmp.lt_of_eq_of_lt heq (hhead e he)
    · next hgt =>
      refine List.pairwise_cons.2 ⟨fun e he => ?_, Ordered.insert hrest⟩
      rcases fst_mem_of_mem_insert he with rfl | he
      · exact Std.OrientedCmp.gt_iff_lt.1 hgt
      · exact hhead e he

omit [Std.TransOrd κ] in
theorem Ordered.erase {k : κ} {l : List (κ × α)} (h : Ordered l) : Ordered (erase k l) :=
  List.Pairwise.sublist List.filter_sublist h

theorem ordered_foldl_insert (l acc : List (κ × α)) (h : Ordered acc) :
    Ordered (l.foldl (fun acc e => insert e.1 e.2 acc) acc) := by
  induction l generalizing acc with
  | nil => exact h
  | cons e l ih => exact ih _ h.insert

theorem ordered_ofList (l : List (κ × α)) : Ordered (ofList l) :=
  ordered_foldl_insert l [] ordered_nil

/-- What lies behind all entries is filed at the end. -/
theorem insert_of_forall_lt {k : κ} {v : α} {l : List (κ × α)} (h : ∀ e ∈ l, compare e.1 k = .lt) :
    insert k v l = l ++ [(k, v)] := by
  induction l with
  | nil => rfl
  | cons e rest ih =>
    have hgt : compare k e.1 = .gt := Std.OrientedCmp.gt_iff_lt.2 (h e List.mem_cons_self)
    simp only [insert, hgt, ih fun e' he' => h e' (List.mem_cons_of_mem _ he'), List.cons_append]

/-- Sorting changes nothing about what is in order. -/
theorem ofList_of_ordered {l : List (κ × α)} (h : Ordered l) : ofList l = l := by
  suffices hfoldl : ∀ (l acc : List (κ × α)), Ordered (acc ++ l) →
      l.foldl (fun acc e => insert e.1 e.2 acc) acc = acc ++ l from hfoldl l [] h
  intro l
  induction l with
  | nil => exact fun acc _ => (List.append_nil acc).symm
  | cons e l ih =>
    intro acc hacc
    have hlast : ∀ e' ∈ acc, compare e'.1 e.1 = .lt := fun e' he' =>
      (List.pairwise_append.1 hacc).2.2 e' he' e List.mem_cons_self
    rw [List.foldl_cons, insert_of_forall_lt hlast, ih _ (by simpa using hacc), List.append_assoc]
    rfl

omit [Std.TransOrd κ] in
theorem mem_of_mem_ofList {e : κ × α} {l : List (κ × α)} (h : e ∈ ofList l) : e ∈ l := by
  suffices hfoldl : ∀ (l acc : List (κ × α)),
      e ∈ l.foldl (fun acc e => insert e.1 e.2 acc) acc → e ∈ acc ∨ e ∈ l from
    (hfoldl l [] h).resolve_left nofun
  intro l
  induction l with
  | nil => exact fun acc h => .inl h
  | cons a l ih =>
    intro acc h
    obtain h | h := ih _ h
    · obtain rfl | h := fst_mem_of_mem_insert h
      · exact .inr List.mem_cons_self
      · exact .inl h
    · exact .inr (List.mem_cons_of_mem _ h)

variable [Std.LawfulEqOrd κ]

omit [Std.TransOrd κ] in
theorem get?_insert_self (k : κ) (v : α) : ∀ l : List (κ × α), get? k (insert k v l) = some v
  | [] => by simp [insert, get?]
  | (k', v') :: rest => by
    simp only [insert]
    split
    · simp [get?]
    · simp [get?]
    · next hgt => simp [get?, hgt, get?_insert_self k v rest]

omit [Std.TransOrd κ] in
theorem get?_insert_of_ne {k k' : κ} (h : k' ≠ k) (v : α) :
    ∀ l : List (κ × α), get? k' (insert k v l) = get? k' l
  | [] => by simp [insert, get?, h]
  | (k'', v'') :: rest => by
    simp only [insert]
    split
    · simp [get?, h]
    · next heq => simp [get?, ← Std.LawfulEqCmp.eq_of_compare heq, h]
    · simp [get?, get?_insert_of_ne h v rest]

omit [Std.TransOrd κ] [Std.LawfulEqOrd κ] in
theorem get?_erase_self (k : κ) (l : List (κ × α)) : get? k (erase k l) = none := by
  induction l with
  | nil => rfl
  | cons e l ih =>
    by_cases h : compare k e.1 = .eq
    · simpa [erase, h] using ih
    · simpa [erase, h, get?] using ih

omit [Std.TransOrd κ] in
theorem get?_erase_of_ne {k k' : κ} (h : k' ≠ k) (l : List (κ × α)) :
    get? k' (erase k l) = get? k' l := by
  induction l with
  | nil => rfl
  | cons e l ih =>
    by_cases hk : compare k e.1 = .eq
    · have : e.1 = k := (Std.LawfulEqCmp.eq_of_compare hk).symm
      simpa [erase, hk, get?, this, h] using ih
    · by_cases hk' : compare k' e.1 = .eq
      · simp [erase, hk, get?, hk']
      · simpa [erase, hk, get?, hk'] using ih

omit [Std.TransOrd κ] in
theorem mem_of_get? {k : κ} {v : α} : ∀ {l : List (κ × α)}, get? k l = some v → (k, v) ∈ l
  | (k', v') :: rest, h => by
    by_cases hk : compare k k' = .eq
    · simp only [get?, hk, if_true, Option.some.injEq] at h
      rw [Std.LawfulEqCmp.eq_of_compare hk, h]
      exact List.mem_cons_self
    · simp only [get?, hk, if_false] at h
      exact List.mem_cons_of_mem _ (mem_of_get? h)

omit [Std.TransOrd κ] in
theorem get?_of_mem {k : κ} {v : α} :
    ∀ {l : List (κ × α)}, Ordered l → (k, v) ∈ l → get? k l = some v
  | (k', v') :: rest, h, hmem => by
    rcases List.mem_cons.1 hmem with heq | hmem
    · cases heq; simp [get?]
    · have hlt := (List.pairwise_cons.1 h).1 _ hmem
      have hne : compare k k' ≠ .eq := fun he => by
        rw [Std.LawfulEqCmp.eq_of_compare he] at hlt
        simp at hlt
      simp [get?, hne, get?_of_mem (List.pairwise_cons.1 h).2 hmem]

/-- Ordered lists with the same look-ups are the same list. -/
theorem ext {l l' : List (κ × α)} (h : Ordered l) (h' : Ordered l')
    (hget : ∀ k, get? k l = get? k l') : l = l' := by
  induction l generalizing l' with
  | nil =>
    cases l' with
    | nil => rfl
    | cons e l' => simpa [get?] using hget e.1
  | cons e l ih =>
    cases l' with
    | nil => simpa [get?] using hget e.1
    | cons e' l' =>
      have hl := List.pairwise_cons.1 h
      have hl' := List.pairwise_cons.1 h'
      have hkey : e.1 = e'.1 := by
        have h1 := mem_of_get? (l := e' :: l') (k := e.1) (v := e.2) (by
          rw [← hget]; simp [get?])
        have h2 := mem_of_get? (l := e :: l) (k := e'.1) (v := e'.2) (by
          rw [hget]; simp [get?])
        rcases List.mem_cons.1 h1 with h1 | h1
        · rw [← h1]
        · rcases List.mem_cons.1 h2 with h2 | h2
          · rw [← h2]
          · have a := hl'.1 _ h1
            have b := hl.1 _ h2
            exact absurd (Std.TransCmp.lt_trans a b) (by simp)
      have hval : e.2 = e'.2 := by
        have := hget e.1
        simpa [get?, hkey] using this
      have htail : l = l' := ih hl.2 hl'.2 fun k => by
        by_cases hk : k = e.1
        · have none_of : ∀ {m : List (κ × α)}, (∀ a ∈ m, compare e.1 a.1 = .lt) →
              get? e.1 m = none := fun {m} hm => by
            cases hg : get? e.1 m with
            | none => rfl
            | some v => simpa using hm _ (mem_of_get? hg)
          subst hk
          rw [none_of hl.1, none_of (by rw [hkey]; exact hl'.1)]
        · have := hget k
          simpa [get?, hk, hkey ▸ hk] using this
      rw [htail, Prod.ext hkey hval]

end Entries

/-! ## Maps -/

/-- A finite map, held as its entries in increasing key order. -/
structure SortedMap (κ : Type) (α : Type) [Ord κ] where
  entries : List (κ × α)
  ordered : Entries.Ordered entries

namespace SortedMap

variable {κ α : Type} [Ord κ]

instance [DecidableEq κ] [DecidableEq α] : DecidableEq (SortedMap κ α) := fun a b =>
  decidable_of_iff (a.entries = b.entries) (by cases a; cases b; simp)

/-- The map without entries. -/
def empty : SortedMap κ α := ⟨[], Entries.ordered_nil⟩

instance : EmptyCollection (SortedMap κ α) := ⟨empty⟩
instance : Inhabited (SortedMap κ α) := ⟨empty⟩

def isEmpty (m : SortedMap κ α) : Bool := m.entries.isEmpty

theorem eq_empty_of_isEmpty {m : SortedMap κ α} (h : m.isEmpty = true) : m = ∅ := by
  obtain ⟨entries, ordered⟩ := m
  obtain rfl : entries = [] := List.isEmpty_iff.1 h
  rfl

def get? (m : SortedMap κ α) (k : κ) : Option α := Entries.get? k m.entries

def contains (m : SortedMap κ α) (k : κ) : Bool := (m.get? k).isSome

def keys (m : SortedMap κ α) : List κ := m.entries.map Prod.fst

def values (m : SortedMap κ α) : List α := m.entries.map Prod.snd

def erase (m : SortedMap κ α) (k : κ) : SortedMap κ α :=
  ⟨Entries.erase k m.entries, m.ordered.erase⟩

variable [Std.TransOrd κ]

def insert (m : SortedMap κ α) (k : κ) (v : α) : SortedMap κ α :=
  ⟨Entries.insert k v m.entries, m.ordered.insert⟩

/-- `m` overlaid with the entries of a list, later ones winning. -/
def insertAll (m : SortedMap κ α) (entries : List (κ × α)) : SortedMap κ α :=
  entries.foldl (fun acc e => acc.insert e.1 e.2) m

/-- `m` overlaid with `other`, which wins where both have a key. -/
def overlay (m other : SortedMap κ α) : SortedMap κ α := m.insertAll other.entries

/-- The map of a list of entries; of two with one key the later wins. -/
def ofList (entries : List (κ × α)) : SortedMap κ α := empty.insertAll entries

variable [Std.LawfulEqOrd κ]

omit [Std.TransOrd κ] [Std.LawfulEqOrd κ] in
@[simp] theorem get?_empty (k : κ) : (empty : SortedMap κ α).get? k = none := rfl

theorem get?_insert [DecidableEq κ] (m : SortedMap κ α) (k k' : κ) (v : α) :
    (m.insert k v).get? k' = if k' = k then some v else m.get? k' := by
  split
  · next h => subst h; exact Entries.get?_insert_self ..
  · next h => exact Entries.get?_insert_of_ne h ..

omit [Std.TransOrd κ] in
theorem get?_erase [DecidableEq κ] (m : SortedMap κ α) (k k' : κ) :
    (m.erase k).get? k' = if k' = k then none else m.get? k' := by
  split
  · next h => subst h; exact Entries.get?_erase_self ..
  · next h => exact Entries.get?_erase_of_ne h ..

omit [Std.TransOrd κ] in
theorem mem_entries_iff (m : SortedMap κ α) (k : κ) (v : α) :
    (k, v) ∈ m.entries ↔ m.get? k = some v :=
  ⟨Entries.get?_of_mem m.ordered, Entries.mem_of_get?⟩

omit [Std.LawfulEqOrd κ] in
@[simp] theorem insertAll_cons (m : SortedMap κ α) (e : κ × α) (l : List (κ × α)) :
    m.insertAll (e :: l) = (m.insert e.1 e.2).insertAll l := rfl

theorem get?_insertAll_of_notMem [DecidableEq κ] {k : κ} {l : List (κ × α)}
    (m : SortedMap κ α) (h : ∀ e ∈ l, e.1 ≠ k) : (m.insertAll l).get? k = m.get? k := by
  induction l generalizing m with
  | nil => rfl
  | cons e l ih =>
    have hne : k ≠ e.1 := fun he => h e List.mem_cons_self he.symm
    rw [insertAll_cons, ih _ fun e' he' => h e' (List.mem_cons_of_mem _ he'), get?_insert,
      if_neg hne]

theorem get?_insertAll_of_ordered [DecidableEq κ] {k : κ} {l : List (κ × α)}
    (m : SortedMap κ α) (h : Entries.Ordered l) :
    (m.insertAll l).get? k = (Entries.get? k l).or (m.get? k) := by
  induction l generalizing m with
  | nil => rfl
  | cons e l ih =>
    obtain ⟨hhead, hrest⟩ := List.pairwise_cons.1 h
    rw [insertAll_cons]
    by_cases hk : k = e.1
    · subst hk
      have hl : ∀ e' ∈ l, e'.1 ≠ e.1 := fun e' he' heq => by simpa [heq] using hhead e' he'
      rw [get?_insertAll_of_notMem _ hl, get?_insert, if_pos rfl]
      simp [Entries.get?]
    · rw [ih _ hrest, get?_insert, if_neg hk]
      simp [Entries.get?, hk]

/-- The overlay wins where it has the key. -/
theorem get?_overlay [DecidableEq κ] (m other : SortedMap κ α) (k : κ) :
    (m.overlay other).get? k = (other.get? k).or (m.get? k) :=
  get?_insertAll_of_ordered m other.ordered

omit [Std.LawfulEqOrd κ] in
theorem entries_insertAll (m : SortedMap κ α) (l : List (κ × α)) :
    (m.insertAll l).entries = l.foldl (fun acc e => Entries.insert e.1 e.2 acc) m.entries := by
  induction l generalizing m with
  | nil => rfl
  | cons e l ih => exact ih _

theorem ext_get? {m m' : SortedMap κ α} (h : ∀ k, m.get? k = m'.get? k) : m = m' := by
  cases m; cases m'
  simp only [mk.injEq]
  exact Entries.ext ‹_› ‹_› h

/-- A map is the map of its entries. -/
theorem ofList_entries (m : SortedMap κ α) : ofList m.entries = m := by
  have hentries : (ofList m.entries).entries = m.entries :=
    (entries_insertAll empty m.entries).trans (Entries.ofList_of_ordered m.ordered)
  exact ext_get? fun k => congrArg (Entries.get? k) hentries

end SortedMap

end PolicyOperator
