import PolicyOperator.Proofs.Wire.Instants
import PolicyOperator.Proofs.Wire.Rows

/-!
# Values that come back

`Trips` for the values of fields: truth values, texts, whole numbers, instants, words out of a
closed list, free-form values, and lists and maps of these. Whole numbers are in the range of the
machine's (`FitsInt32`, `FitsInt64`). Free-form values come back as they are, at every depth;
instants lose their fractions of a second.
-/

namespace PolicyOperator

open Draft

/-- The range of whole numbers of 32 bits with a sign. -/
def FitsInt32 (n : Int) : Prop := -2147483648 ≤ n ∧ n ≤ 2147483647

instance : DecidablePred FitsInt32 := fun n =>
  inferInstanceAs (Decidable (-2147483648 ≤ n ∧ n ≤ 2147483647))

/-- The range of whole numbers of 64 bits with a sign. -/
def FitsInt64 (n : Int) : Prop := -9223372036854775808 ≤ n ∧ n ≤ 9223372036854775807

instance : DecidablePred FitsInt64 := fun n =>
  inferInstanceAs (Decidable (-9223372036854775808 ≤ n ∧ n ≤ 9223372036854775807))

/-- A free-form value that is there: null stands for none. -/
structure Json.IsPayload (j : Json) : Prop where
  settled : Settled j
  ne_null : j ≠ .null

namespace Trips

theorem bool : TripsAny bool? Json.bool id :=
  .of_back (fun _ => rfl) fun _ => Json.noConfusion

theorem text : TripsAny text? Json.str id :=
  .of_back (fun _ => rfl) fun _ => Json.noConfusion

theorem int (lo hi : Int) : Trips (fun n => lo ≤ n ∧ n ≤ hi) (intIn? lo hi) Json.int id where
  back h := if_pos h
  same _ := rfl
  solid _ := Json.noConfusion
  ranged {d n} _ h := by
    cases d with
    | int m =>
      obtain ⟨hrange, rfl⟩ : (lo ≤ m ∧ m ≤ hi) ∧ m = n := by simpa [intIn?] using h
      exact hrange
    | _ => cases h

theorem int32 : Trips FitsInt32 int32? Json.int id := int _ _

theorem int64 : Trips FitsInt64 int64? Json.int id := int _ _

theorem word : TripsAny word32? Json.ofWord id := by
  refine .of_back (fun w => ?_) fun _ => Json.noConfusion
  have hlt := w.toNat_lt
  simp only [Json.ofWord, ofJson, word32?, intIn?]
  rw [if_pos (by omega)]
  simp

theorem value : Trips Json.IsPayload value? id id where
  back h := value?_ofJson _ h.settled
  same _ := rfl
  solid h := h.ne_null
  ranged {d j} hnull h := by
    refine ⟨settled_of_value? h, ?_⟩
    rintro rfl
    cases d with
    | null => exact hnull rfl
    | arr items => simp [value?] at h
    | obj members => simp [value?, Json.object] at h
    | _ => cases h

theorem instant : Trips Instant.Writable instant? Json.ofInstant Instant.wholeSeconds where
  back h := by
    simp only [Json.ofInstant, ofJson, instant?, text?, Option.bind_some]
    exact Instant.ofText?_toText h
  same t := by rw [Json.ofInstant, Instant.toText_wholeSeconds, Json.ofInstant]
  solid _ := Json.noConfusion
  ranged _ h := by
    obtain ⟨s, -, hs⟩ := Option.bind_eq_some_iff.1 h
    exact Instant.writable_of_ofText? hs

/-- Words out of a closed list come back when their names do. -/
theorem named {α : Type} {ofName? : String → Option α} {name : α → String}
    (h : ∀ a, ofName? (name a) = some a) :
    TripsAny (fun d => d.word?.bind ofName?) (fun a => .str (name a)) id :=
  .of_back h fun _ => Json.noConfusion

variable {α : Type} {ok : α → Prop} {read : Draft → Option α} {write : α → Json} {norm : α → α}

theorem items (t : Trips ok read write norm) {l : List α} (h : ∀ a ∈ l, ok a) :
    (ofItems (l.map write)).mapM read = some (l.map norm) := by
  induction l with
  | nil => rfl
  | cons a rest ih =>
    obtain ⟨ha, hrest⟩ := List.forall_mem_cons.1 h
    simp [ofItems, t.back ha, ih hrest]

/-- Null is no item of a list. -/
theorem list (t : Trips ok read write norm) (hnull : read .null = none) :
    Trips (fun l => ∀ a ∈ l, ok a) (listOf? read) (fun l => .arr (l.map write))
      (List.map norm) where
  back h := t.items h
  same l := by simp [Function.comp_def, t.same]
  solid _ := Json.noConfusion
  ranged {d l} _ h a ha := by
    cases d with
    | arr ds =>
      obtain ⟨d, -, hd⟩ := Row.exists_of_mapM h ha
      exact t.ranged_of_read hnull hd
    | _ => cases h

theorem listId {write : α → Json} (t : Trips ok read write id) (hnull : read .null = none) :
    Trips (fun l => ∀ a ∈ l, ok a) (listOf? read) (fun l => .arr (l.map write)) id := by
  simpa using t.list hnull

/-- A list of values that are all in range. -/
theorem listAny {write : α → Json} (t : TripsAny read write id) :
    TripsAny (listOf? read) (fun l => .arr (l.map write)) id := by
  refine .of_back (fun l => ?_) fun _ => Json.noConfusion
  have hitems := t.items (l := l) fun _ _ => trivial
  rwa [List.map_id] at hitems

theorem texts : TripsAny (listOf? text?) Json.ofTexts id := text.listAny

theorem textMembers {m : SortedMap String String} :
    (ofMembers (m.entries.map fun e => (e.1, Json.str e.2))).mapM
      (fun (k, d) => do return (k, ← d.text?)) = some m.entries := by
  generalize m.entries = entries
  induction entries with
  | nil => rfl
  | cons e rest ih =>
    rw [List.map_cons, ofMembers, List.mapM_cons, ih]
    rfl

theorem textMap : TripsAny textMap? Json.ofTextMap id := by
  refine .of_back (fun m => ?_) fun _ => Json.noConfusion
  simp only [Json.ofTextMap, ofJson, textMap?, textMembers]
  simp [SortedMap.ofList_entries]

end Trips

end PolicyOperator
