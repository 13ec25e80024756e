import PolicyOperator.Json.Codec

/-!
# Reading back what was written

A type on the wire has a reader and a writer. `Trips ok read write norm`: a value in the range `ok`
is written and read again as it was, up to what `norm` drops (the fractions of a second, or
nothing), and what `norm` drops is not written. The range speaks of the value alone: a whole number
that no reader accepts is out of range. Conversely only what is in range is ever read.

The readers of fields lift that of the values that they read (`Trips.required`, `Trips.optional`,
…), so for a record it comes down to its fields, one by one. What is read from a field is in range
(`Trips.ranged_of_required`, `Trips.ranged_of_optional`, …).

`Json.row j` is the row of an object, in which no field is given twice. The objects that are written
are read as such rows (`Draft.row?_record`, `Draft.members?_record`).
-/

namespace PolicyOperator

open Draft

attribute [simp] Json.field?_record Json.lastMember

/-! ## The row of an object -/

namespace Json

/-- The fields of an object, each given once at most. -/
def row (j : Json) : Row where
  given key := ((j.field? key).map ofJson).toList

theorem given_row (j : Json) (key : String) :
    j.row.given key = ((j.field? key).map ofJson).toList := rfl

end Json

namespace Draft

theorem fst_of_mem_ofMembers {members : List (String × Json)} {m : String × Draft}
    (h : m ∈ ofMembers members) : ∃ e ∈ members, e.1 = m.1 := by
  induction members with
  | nil => simp [ofMembers] at h
  | cons e rest ih =>
    simp only [ofMembers, List.mem_cons] at h ⊢
    obtain rfl | h := h
    · exact ⟨e, .inl rfl, rfl⟩
    · obtain ⟨e', he', heq⟩ := ih h
      exact ⟨e', .inr he', heq⟩

/-- Where the keys increase, a key has one value at most. -/
theorem valuesOf_ofMembers {members : List (String × Json)} (h : Entries.Ordered members)
    (key : String) :
    valuesOf (ofMembers members) key = ((Entries.get? key members).map ofJson).toList := by
  induction members with
  | nil => rfl
  | cons e rest ih =>
    obtain ⟨hhead, hrest⟩ := List.pairwise_cons.1 h
    have hlater := ih hrest
    by_cases hkey : e.1 = key
    · subst hkey
      have hnone : valuesOf (ofMembers rest) e.1 = [] := by
        simp only [valuesOf, List.map_eq_nil_iff, List.filter_eq_nil_iff, beq_iff_eq]
        intro m hm heq
        obtain ⟨e', he', hfst⟩ := fst_of_mem_ofMembers hm
        have hself : compare e.1 e.1 = .eq := Std.ReflCmp.compare_self
        have hlt := hhead e' he'
        rw [hfst, heq, hself] at hlt
        cases hlt
      simp only [valuesOf] at hnone ⊢
      simp [ofMembers, Entries.get?, hnone]
    · have hne : ¬ compare key e.1 = .eq := fun he => hkey (Std.LawfulEqCmp.eq_of_compare he).symm
      simp only [valuesOf] at hlater ⊢
      simp [ofMembers, Entries.get?, hkey, hne, hlater]

theorem members?_ofJson {members : List (String × Json)} (h : Entries.Ordered members) :
    (ofJson (.obj members)).members? = some (Json.obj members).row := by
  simp only [ofJson, members?, Option.some.injEq, Row.mk.injEq, Json.row]
  exact funext (valuesOf_ofMembers h)

theorem row?_ofJson {members : List (String × Json)} (h : Entries.Ordered members)
    (keys : List String) :
    (ofJson (.obj members)).row? keys = some (Json.obj members).row := by
  have hone : keys.all fun key => decide ((valuesOf (ofMembers members) key).length ≤ 1) := by
    simp only [List.all_eq_true, decide_eq_true_eq, valuesOf_ofMembers h]
    intro key _
    cases Entries.get? key members <;> simp
  simp only [ofJson, row?, hone, if_true, Option.some.injEq, Row.mk.injEq, Json.row]
  exact funext (valuesOf_ofMembers h)

@[simp] theorem members?_record (members : List (String × Option Json)) :
    (ofJson (.record members)).members? = some (Json.record members).row :=
  members?_ofJson (Entries.ordered_ofList _)

@[simp] theorem row?_record (keys : List String) (members : List (String × Option Json)) :
    (ofJson (.record members)).row? keys = some (Json.record members).row :=
  row?_ofJson (Entries.ordered_ofList _) keys

end Draft

/-! ## Fields -/

namespace Draft.Row

variable {α : Type} {read : Draft → Option α} {row : Row} {key : String} {j v : Json} {a dflt : α}

/-- A value that was read for some item of a list was read from one of them. -/
theorem exists_of_mapM {ds : List Draft} {l : List α} (h : ds.mapM read = some l) (ha : a ∈ l) :
    ∃ d ∈ ds, read d = some a := by
  induction ds generalizing l with
  | nil =>
    cases h
    cases ha
  | cons d ds ih =>
    simp only [List.mapM_cons, Option.bind_eq_bind, Option.bind_eq_some_iff, Option.pure_def,
      Option.some.injEq] at h
    obtain ⟨b, hb, l', hl', rfl⟩ := h
    obtain rfl | ha := List.mem_cons.1 ha
    · exact ⟨d, List.mem_cons_self, hb⟩
    · obtain ⟨d', hd', h'⟩ := ih hl' ha
      exact ⟨d', List.mem_cons_of_mem _ hd', h'⟩

theorem exists_of_required (h : row.required key read = some a) : ∃ d, read d = some a := by
  obtain ⟨l, hl, ha⟩ := Option.bind_eq_some_iff.1 h
  obtain ⟨d, -, hd⟩ := exists_of_mapM hl (List.mem_of_getLast? ha)
  exact ⟨d, hd⟩

theorem exists_of_defaulted (h : row.defaulted key dflt read = some a) :
    a = dflt ∨ ∃ d, read d = some a := by
  obtain ⟨l, hl, ha⟩ := Option.bind_eq_some_iff.1 h
  cases hlast : l.getLast? with
  | none => exact .inl (by simpa [hlast, eq_comm] using ha)
  | some b =>
    obtain rfl : b = a := by simpa [hlast] using ha
    obtain ⟨d, -, hd⟩ := exists_of_mapM hl (List.mem_of_getLast? hlast)
    exact .inr ⟨d, hd⟩

/-- A field that may be null reads the one value that it is given. -/
theorem optional_of_given {d : Draft} (hd : d ≠ .null) (h : row.given key = [d]) :
    row.optional key read = (read d).map some := by
  unfold optional
  rw [h]
  cases d with
  | null => exact absurd rfl hd
  | _ =>
    simp only [List.mapM_cons, List.mapM_nil, Option.pure_def, Option.bind_eq_bind]
    cases read _ <;> rfl

theorem exists_of_optional (h : row.optional key read = some (some a)) :
    ∃ d, d ≠ .null ∧ read d = some a := by
  obtain ⟨l, hl, ha⟩ := Option.bind_eq_some_iff.1 h
  have hlast : l.getLast? = some (some a) := by
    simpa [Option.join_eq_some_iff] using ha
  obtain ⟨d, -, hd⟩ := exists_of_mapM hl (List.mem_of_getLast? hlast)
  have hnull : d ≠ .null := by
    rintro rfl
    cases hd
  refine ⟨d, hnull, ?_⟩
  cases d with
  | null => exact absurd rfl hnull
  | _ => simpa using hd

theorem exists_of_lenient (h : row.lenient key dflt read = some a) :
    a = dflt ∨ ∃ d, d ≠ .null ∧ read d = some a := by
  obtain ⟨o, ho, ha⟩ := Option.bind_eq_some_iff.1 h
  cases o with
  | none => exact .inl (by simpa [eq_comm] using ha)
  | some b =>
    obtain rfl : b = a := by simpa using ha
    exact .inr (exists_of_optional ho)

theorem required_row (h : j.field? key = some v) : j.row.required key read = read (ofJson v) := by
  cases hv : read (ofJson v) <;> simp [required, Json.given_row, h, hv]

theorem defaulted_row (h : j.field? key = some v) :
    j.row.defaulted key dflt read = read (ofJson v) := by
  cases hv : read (ofJson v) <;> simp [defaulted, Json.given_row, h, hv]

theorem defaulted_row_of_none (h : j.field? key = none) :
    j.row.defaulted key dflt read = some dflt := by
  simp [defaulted, Json.given_row, h]

theorem optional_row (h : j.field? key = some v) (hnull : v ≠ .null) :
    j.row.optional key read = (read (ofJson v)).map some :=
  optional_of_given (by cases v <;> simp_all [ofJson]) (by rw [Json.given_row, h]; rfl)

theorem optional_row_of_none (h : j.field? key = none) :
    j.row.optional key read = some none := by
  simp [optional, Json.given_row, h]

end Draft.Row

/-! ## Values that come back -/

/-- What is in range is written and read again as it was, up to `norm`, and nothing else is read. -/
structure Trips {α : Type} (ok : α → Prop) (read : Draft → Option α) (write : α → Json)
    (norm : α → α) : Prop where
  back : ∀ {a}, ok a → read (ofJson (write a)) = some (norm a)
  /-- What `norm` drops is not written. -/
  same : ∀ a, write (norm a) = write a
  /-- Null stands for no value. -/
  solid : ∀ {a}, ok a → write a ≠ .null
  ranged : ∀ {d a}, d ≠ .null → read d = some a → ok a

/-- Any value is in range. -/
abbrev TripsAny {α : Type} (read : Draft → Option α) (write : α → Json) (norm : α → α) : Prop :=
  Trips (fun _ => True) read write norm

namespace Trips

theorem of_back {α : Type} {read : Draft → Option α} {write : α → Json}
    (hback : ∀ a, read (ofJson (write a)) = some a) (hsolid : ∀ a, write a ≠ .null) :
    TripsAny read write id where
  back _ := hback _
  same _ := rfl
  solid _ := hsolid _
  ranged _ _ := trivial

variable {α : Type} {ok : α → Prop} {read : Draft → Option α} {write : α → Json} {norm : α → α}
  {row : Row} {key : String} {j : Json} {dflt : α}

/-! ### Fields that are written -/

theorem required (t : Trips ok read write norm) (a : α) (ha : ok a)
    (hj : j.field? key = some (write a)) : j.row.required key read = some (norm a) := by
  rw [Row.required_row hj, t.back ha]

theorem defaulted (t : Trips ok read write norm) (a : α) (ha : ok a)
    (hj : j.field? key = some (write a)) : j.row.defaulted key dflt read = some (norm a) := by
  rw [Row.defaulted_row hj, t.back ha]

/-- A field that is left out when it has its default. -/
theorem skipped (t : Trips ok read write norm) (a : α) (ha : ok a) {skip : Bool}
    (hskip : skip = true → a = dflt) (hnorm : norm dflt = dflt)
    (hj : j.field? key = if skip then none else some (write a)) :
    j.row.defaulted key dflt read = some (norm a) := by
  cases skip with
  | true => rw [Row.defaulted_row_of_none hj, hskip rfl, hnorm]
  | false => exact t.defaulted a ha hj

theorem optional (t : Trips ok read write norm) (a : Option α) (ha : ∀ b ∈ a, ok b)
    (hj : j.field? key = a.map write) : j.row.optional key read = some (a.map norm) := by
  cases a with
  | none => exact Row.optional_row_of_none hj
  | some a =>
    have hok := ha a rfl
    rw [Row.optional_row hj (t.solid hok), t.back hok]
    rfl

/-- An optional field of which any value is in range. -/
theorem optionalAny (t : TripsAny read write norm) (a : Option α)
    (hj : j.field? key = a.map write) : j.row.optional key read = some (a.map norm) :=
  t.optional a (fun _ _ => trivial) hj

theorem lenient (t : Trips ok read write norm) (a : α) (ha : ok a)
    (hj : j.field? key = some (write a)) : j.row.lenient key dflt read = some (norm a) := by
  rw [Row.lenient, Row.optional_row hj (t.solid ha), t.back ha]
  rfl

/-! ### Fields that are read -/

variable {a : α}

theorem ranged_of_read (t : Trips ok read write norm) (hnull : read .null = none) {d : Draft}
    (h : read d = some a) : ok a := by
  refine t.ranged ?_ h
  rintro rfl
  cases hnull.symm.trans h

theorem ranged_of_required (t : Trips ok read write norm) (hnull : read .null = none)
    (h : row.required key read = some a) : ok a := by
  obtain ⟨d, hd⟩ := Row.exists_of_required h
  exact t.ranged_of_read hnull hd

theorem ranged_of_defaulted (t : Trips ok read write norm) (hnull : read .null = none)
    (hdflt : ok dflt) (h : row.defaulted key dflt read = some a) : ok a := by
  obtain rfl | ⟨d, hd⟩ := Row.exists_of_defaulted h
  · exact hdflt
  · exact t.ranged_of_read hnull hd

theorem ranged_of_optional (t : Trips ok read write norm) {a : Option α}
    (h : row.optional key read = some a) : ∀ b ∈ a, ok b := by
  rintro b rfl
  obtain ⟨d, hnull, hd⟩ := Row.exists_of_optional h
  exact t.ranged hnull hd

theorem ranged_of_lenient (t : Trips ok read write norm) (hdflt : ok dflt)
    (h : row.lenient key dflt read = some a) : ok a := by
  obtain rfl | ⟨d, hnull, hd⟩ := Row.exists_of_lenient h
  · exact hdflt
  · exact t.ranged hnull hd

end Trips

end PolicyOperator
