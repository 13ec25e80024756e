import Mathlib.Data.List.Induction
import Mathlib.Data.List.Nodup
import PolicyOperator.Condition

/-!
# Findings and conditions

A list of conditions has one of each type if it grew by findings. Recording a finding then settles
what is true of its type (`isTrue_record`), and recording it again changes nothing (`Recorded`).

`Reflects l history`: the conditions tell what a history of findings came to. Each finding keeps
that (`Reflects.record`), so it holds of all conditions that grew from nothing
(`reflects_ofHistory`). The delicate part is the time of a condition. It is that of the first
finding of the final run, the longest run at the end in which all findings on the type came to the
same (`FinalRun`): a finding makes that run longer (`FinalRun.concat`), or it flips the status and
begins another (`finalRun_singleton`).
-/

namespace PolicyOperator

/-- A finding and when it was made. -/
structure DatedFinding extends Finding where
  time : Instant

namespace Condition

variable {type : String} {l : List Condition} {f : Finding} {c : Condition} {now : Instant}

/-! ## Conditions of one type -/

/-- Of the conditions one at most is of the type. -/
def Sole (type : String) (l : List Condition) : Prop :=
  l.Pairwise fun a b => a.type = type → b.type ≠ type

theorem isTrue_eq_false_of_forall (h : ∀ c ∈ l, c.type ≠ type) : isTrue l type = false := by
  simp only [isTrue, List.any_eq_false]
  intro c hc
  simp [h c hc]

theorem beq_status (f : Finding) : (f.status == "True") = f.healthy := by
  unfold Finding.status
  cases f.healthy <;> rfl

/-- The only condition of a type says what was found last. -/
theorem isTrue_record (h : Sole f.type l) (now : Instant) :
    isTrue (record f now l) f.type = f.healthy := by
  induction l with
  | nil => simp [record, isTrue, Finding.condition, beq_status]
  | cons c rest ih =>
    obtain ⟨hc, hrest⟩ := List.pairwise_cons.1 h
    by_cases htype : c.type = f.type
    · have hothers : isTrue rest f.type = false :=
        isTrue_eq_false_of_forall fun b hb => hc b hb htype
      rw [isTrue] at hothers
      simp [record, htype, isTrue, update, Finding.condition, beq_status, hothers]
    · have hlater := ih hrest
      rw [isTrue] at hlater
      simp [record, htype, isTrue, hlater]

theorem sole_record (h : Sole f.type l) (now : Instant) : Sole f.type (record f now l) := by
  induction l with
  | nil => exact List.pairwise_singleton _ _
  | cons c rest ih =>
    obtain ⟨hc, hrest⟩ := List.pairwise_cons.1 h
    unfold record
    split
    · next htype => exact List.pairwise_cons.2 ⟨fun b hb _ => hc b hb htype, hrest⟩
    · next htype => exact List.pairwise_cons.2 ⟨fun b _ ht => absurd ht htype, ih hrest⟩

theorem sole_map_wholeSeconds : Sole type (l.map wholeSeconds) ↔ Sole type l := List.pairwise_map

theorem isTrue_map_wholeSeconds : isTrue (l.map wholeSeconds) type = isTrue l type := by
  rw [isTrue, List.any_map]
  rfl

/-! ## Findings on record -/

/-- The finding is on record: to record it again changes nothing, at any time. -/
def Recorded (f : Finding) (l : List Condition) : Prop := ∀ now, record f now l = l

theorem update_of_status {c : Condition} (f : Finding) (hstatus : c.status = f.status)
    (now : Instant) :
    c.update f now = { f.condition now with lastTransitionTime := c.lastTransitionTime } := by
  rw [update, if_pos hstatus]

/-- A condition that a finding never changes is that finding, made when the condition flipped. -/
theorem update_eq_self_iff :
    (∀ now, c.update f now = c) ↔ c = f.condition c.lastTransitionTime := by
  constructor
  · intro h
    have hstatus : c.status = f.status := congrArg Condition.status (h ⟨0, 0⟩).symm
    have hsame := h ⟨0, 0⟩
    rw [update_of_status f hstatus] at hsame
    exact hsame.symm
  · intro h now
    have hstatus : c.status = f.status := congrArg Condition.status h
    rw [update_of_status f hstatus]
    exact h.symm

theorem recorded_cons_of_eq {rest : List Condition} (htype : c.type = f.type) :
    Recorded f (c :: rest) ↔ c = f.condition c.lastTransitionTime := by
  simp only [Recorded, record, htype, if_true, List.cons.injEq, and_true]
  exact update_eq_self_iff

theorem recorded_cons_of_ne {rest : List Condition} (htype : c.type ≠ f.type) :
    Recorded f (c :: rest) ↔ Recorded f rest := by
  simp only [Recorded, record, htype, if_false, List.cons.injEq, true_and]

theorem recorded_record (f : Finding) (now : Instant) (l : List Condition) :
    Recorded f (record f now l) := by
  induction l with
  | nil => exact (recorded_cons_of_eq rfl).2 rfl
  | cons c rest ih =>
    unfold record
    split
    · exact (recorded_cons_of_eq rfl).2 rfl
    · next htype => exact (recorded_cons_of_ne htype).2 ih

theorem Recorded.wholeSeconds (h : Recorded f l) : Recorded f (l.map Condition.wholeSeconds) := by
  induction l with
  | nil => exact absurd (h ⟨0, 0⟩) (by simp [record])
  | cons c rest ih =>
    rw [List.map_cons]
    by_cases htype : c.type = f.type
    · have hc : c = f.condition c.lastTransitionTime := (recorded_cons_of_eq htype).1 h
      have htype' : c.wholeSeconds.type = f.type := htype
      exact (recorded_cons_of_eq htype').2 (congrArg Condition.wholeSeconds hc)
    · have htype' : c.wholeSeconds.type ≠ f.type := htype
      exact (recorded_cons_of_ne htype').2 (ih ((recorded_cons_of_ne htype).1 h))

theorem isTrue_record_of_healthy (hhealthy : f.healthy = true) (now : Instant)
    (l : List Condition) : isTrue (record f now l) f.type = true := by
  have htrue : f.status = "True" := by rw [Finding.status, hhealthy]; rfl
  induction l with
  | nil => simp [record, isTrue, Finding.condition, htrue]
  | cons c rest ih =>
    by_cases htype : c.type = f.type
    · simp [record, htype, isTrue, update, Finding.condition, htrue]
    · rw [record, if_neg htype, isTrue, List.any_cons, ← isTrue, ih, Bool.or_true]

/-- A healthy finding on record is true. -/
theorem Recorded.isTrue (h : Recorded f l) (hhealthy : f.healthy = true) :
    isTrue l f.type = true := by
  rw [← h ⟨0, 0⟩]
  exact isTrue_record_of_healthy hhealthy ⟨0, 0⟩ l

/-! ## What a finding leaves -/

theorem types_record (f : Finding) (now : Instant) (l : List Condition) :
    (record f now l).map Condition.type =
      if f.type ∈ l.map Condition.type then l.map Condition.type
      else l.map Condition.type ++ [f.type] := by
  induction l with
  | nil => simp [record, Finding.condition]
  | cons c rest ih =>
    unfold record
    by_cases htype : c.type = f.type
    · simp [htype, update, Finding.condition]
    · simp only [htype, if_false, List.map_cons, ih, List.mem_cons, Ne.symm htype, false_or]
      split <;> simp

/-- What a finding leaves: the conditions of other types, and one of its own type, which is new or
an earlier one brought up to date. -/
theorem mem_record (hsole : Sole f.type l) (h : c ∈ record f now l) :
    (c ∈ l ∧ c.type ≠ f.type) ∨
      (c = f.condition now ∧ f.type ∉ l.map Condition.type) ∨
      ∃ old ∈ l, old.type = f.type ∧ c = old.update f now := by
  induction l with
  | nil =>
    right; left
    simpa [record] using h
  | cons a rest ih =>
    obtain ⟨ha, hrest⟩ := List.pairwise_cons.1 hsole
    unfold record at h
    by_cases htype : a.type = f.type
    · rw [if_pos htype] at h
      rcases List.mem_cons.1 h with rfl | hc
      · exact .inr (.inr ⟨a, List.mem_cons_self, htype, rfl⟩)
      · exact .inl ⟨List.mem_cons_of_mem _ hc, ha c hc htype⟩
    · rw [if_neg htype] at h
      rcases List.mem_cons.1 h with rfl | hc
      · exact .inl ⟨List.mem_cons_self, htype⟩
      · rcases ih hrest hc with ⟨hc, hne⟩ | ⟨hnew, hno⟩ | ⟨old, hold, ht, hup⟩
        · exact .inl ⟨List.mem_cons_of_mem _ hc, hne⟩
        · refine .inr (.inl ⟨hnew, ?_⟩)
          rw [List.map_cons, List.mem_cons, not_or]
          exact ⟨Ne.symm htype, hno⟩
        · exact .inr (.inr ⟨old, List.mem_cons_of_mem _ hold, ht, hup⟩)

/-! ## Histories -/

variable {d : DatedFinding} {history run : List DatedFinding}

/-- The conditions after a history of findings. -/
def ofHistory (history : List DatedFinding) : List Condition :=
  history.foldl (fun l d => record d.toFinding d.time l) []

theorem ofHistory_concat (history : List DatedFinding) (d : DatedFinding) :
    ofHistory (history ++ [d]) = record d.toFinding d.time (ofHistory history) := by
  simp [ofHistory]

/-- The findings on one aspect. -/
def about (type : String) (history : List DatedFinding) : List DatedFinding :=
  history.filter fun d => d.type = type

theorem about_concat_self (history : List DatedFinding) (d : DatedFinding) :
    about d.type (history ++ [d]) = about d.type history ++ [d] := by
  simp [about]

theorem about_concat_of_ne (h : type ≠ d.type) :
    about type (history ++ [d]) = about type history := by
  simp [about, h.symm]

/-- The types that were found, once for each finding. -/
def typesOf (history : List DatedFinding) : List String := history.map fun d => d.type

theorem typesOf_concat (history : List DatedFinding) (d : DatedFinding) :
    typesOf (history ++ [d]) = typesOf history ++ [d.type] := by
  simp [typesOf]

theorem about_eq_nil_iff : about type history = [] ↔ type ∉ typesOf history := by
  simp [about, typesOf, List.filter_eq_nil_iff]

/-- All findings of a run came to the same. -/
def Agree (run : List DatedFinding) : Prop := ∀ d ∈ run, ∀ d' ∈ run, d.healthy = d'.healthy

/-- The longest run at the end of a history in which all findings came to the same. -/
structure FinalRun (run history : List DatedFinding) : Prop where
  suffix : run <:+ history
  agree : Agree run
  longest : ∀ run', run' <:+ history → Agree run' → run' <:+ run

/-- A finding that comes to the same as the run makes the run longer. -/
theorem FinalRun.concat (h : FinalRun run history) (hd : ∀ d' ∈ run, d'.healthy = d.healthy) :
    FinalRun (run ++ [d]) (history ++ [d]) where
  suffix := List.suffix_append_self_iff.2 h.suffix
  agree := by
    have hall : ∀ d' ∈ run ++ [d], d'.healthy = d.healthy := by
      intro d' hd'
      rcases List.mem_append.1 hd' with hd' | hd'
      · exact hd d' hd'
      · rw [List.mem_singleton.1 hd']
    intro a ha b hb
    rw [hall a ha, hall b hb]
  longest := by
    intro run' hsuffix hagree
    rcases List.suffix_concat_iff.1 hsuffix with rfl | ⟨t, rfl, ht⟩
    · exact List.nil_suffix
    · refine List.suffix_append_self_iff.2 (h.longest t ht fun a ha b hb => ?_)
      exact hagree a (List.mem_append_left _ ha) b (List.mem_append_left _ hb)

/-- A finding that differs from the last one begins a run. -/
theorem finalRun_singleton
    (h : ∀ last, history.getLast? = some last → last.healthy ≠ d.healthy) :
    FinalRun [d] (history ++ [d]) where
  suffix := List.suffix_append _ _
  agree := by simp [Agree]
  longest := by
    intro run' hsuffix hagree
    rcases List.suffix_concat_iff.1 hsuffix with rfl | ⟨t, rfl, ht⟩
    · exact List.nil_suffix
    · rcases List.eq_nil_or_concat t with rfl | ⟨t, last, rfl⟩
      · exact List.suffix_rfl
      · obtain ⟨before, rfl⟩ := ht
        refine absurd (hagree last (by simp) d (by simp)) (h last ?_)
        simp

/-- The last finding of a history is in its final run. -/
theorem FinalRun.last_mem (h : FinalRun run history) (hrun : run ≠ []) {last : DatedFinding}
    (hlast : history.getLast? = some last) : last ∈ run := by
  obtain ⟨before, rfl⟩ := h.suffix
  rw [List.getLast?_append_of_ne_nil _ hrun] at hlast
  exact List.mem_of_getLast? hlast

/-- The condition repeats a finding. -/
structure Repeats (c : Condition) (f : Finding) : Prop where
  status : c.status = if f.healthy then "True" else "False"
  reason : c.reason = f.reason
  message : c.message = f.message
  observedGeneration : c.observedGeneration = f.observedGeneration

/-- The condition sums up the findings on its aspect: it repeats the last one, and has stood since
the first one of the final run. -/
structure SumsUp (c : Condition) (findings : List DatedFinding) : Prop where
  last : ∃ last, findings.getLast? = some last ∧ c.Repeats last.toFinding
  since : ∃ first later, FinalRun (first :: later) findings ∧ c.lastTransitionTime = first.time

/-- The conditions reflect a history: each type that was found has one condition, in the order of
the first findings of each, and a condition sums up the findings on its aspect. -/
structure Reflects (l : List Condition) (history : List DatedFinding) : Prop where
  found : ∀ type, type ∈ l.map Condition.type ↔ type ∈ typesOf history
  sole : (l.map Condition.type).Nodup
  ordered : (l.map Condition.type).Pairwise fun a b =>
    (typesOf history).idxOf a < (typesOf history).idxOf b
  sumsUp : ∀ c ∈ l, c.SumsUp (about c.type history)

theorem repeats_condition (f : Finding) (now : Instant) : (f.condition now).Repeats f :=
  ⟨rfl, rfl, rfl, rfl⟩

theorem repeats_update (c : Condition) (f : Finding) (now : Instant) : (c.update f now).Repeats f :=
  ⟨rfl, rfl, rfl, rfl⟩

theorem Repeats.beq_true (h : c.Repeats f) : (c.status == "True") = f.healthy := by
  rw [h.status]
  exact beq_status f

theorem Repeats.status_eq_iff (h : c.Repeats f) (f' : Finding) :
    c.status = f'.status ↔ f.healthy = f'.healthy := by
  rw [h.status, Finding.status]
  cases f.healthy <;> cases f'.healthy <;> decide

theorem sumsUp_condition (d : DatedFinding) : (d.toFinding.condition d.time).SumsUp [d] where
  last := ⟨d, rfl, repeats_condition d.toFinding d.time⟩
  since := by
    have hrun : FinalRun [d] ([] ++ [d]) := finalRun_singleton fun last hlast => nomatch hlast
    exact ⟨d, [], hrun, rfl⟩

theorem SumsUp.update {findings : List DatedFinding} (h : c.SumsUp findings) (d : DatedFinding) :
    (c.update d.toFinding d.time).SumsUp (findings ++ [d]) where
  last := ⟨d, List.getLast?_concat, repeats_update c d.toFinding d.time⟩
  since := by
    obtain ⟨last, hlast, hrepeats⟩ := h.last
    obtain ⟨first, later, hrun, hsince⟩ := h.since
    unfold Condition.update
    by_cases hstatus : c.status = d.toFinding.status
    · -- the status stays, and the run goes on
      have hsame : last.healthy = d.healthy := (hrepeats.status_eq_iff d.toFinding).1 hstatus
      have hmem : last ∈ first :: later := hrun.last_mem (List.cons_ne_nil _ _) hlast
      refine ⟨first, later ++ [d], hrun.concat fun d' hd' => ?_, ?_⟩
      · rw [hrun.agree d' hd' last hmem, hsame]
      · simp only [hstatus, if_true]
        exact hsince
    · -- the status flips, and a run begins
      refine ⟨d, [], finalRun_singleton fun last' hlast' => ?_, ?_⟩
      · obtain rfl : last = last' := Option.some.inj (hlast.symm.trans hlast')
        intro hsame
        exact hstatus ((hrepeats.status_eq_iff d.toFinding).2 hsame)
      · simp only [hstatus, if_false]

/-- A type that is found for the first time has the last place. -/
theorem idxOf_concat_lt {types : List String} {a b : String} (ha : a ∈ types) (hb : b ∉ types) :
    (types ++ [b]).idxOf a < (types ++ [b]).idxOf b := by
  have hlt : types.idxOf a < types.length := List.idxOf_lt_length_iff.2 ha
  rw [List.idxOf_append_of_mem ha, List.idxOf_append_of_notMem hb]
  omega

theorem Reflects.sole_type (h : Reflects l history) (type : String) : Sole type l := by
  refine (List.pairwise_map.1 h.sole).imp fun hne ha hb => hne ?_
  rw [ha, hb]

/-- The order after one more finding. -/
theorem Reflects.ordered_concat (h : Reflects l history) (d : DatedFinding) :
    ((record d.toFinding d.time l).map Condition.type).Pairwise fun a b =>
      (typesOf (history ++ [d])).idxOf a < (typesOf (history ++ [d])).idxOf b := by
  have hkept : (l.map Condition.type).Pairwise fun a b =>
      (typesOf (history ++ [d])).idxOf a < (typesOf (history ++ [d])).idxOf b := by
    refine h.ordered.imp_of_mem fun ha hb hlt => ?_
    rw [typesOf_concat, List.idxOf_append_of_mem ((h.found _).1 ha),
      List.idxOf_append_of_mem ((h.found _).1 hb)]
    exact hlt
  rw [types_record]
  split
  · exact hkept
  · next hnew =>
    refine List.pairwise_append.2 ⟨hkept, List.pairwise_singleton _ _, fun a ha b hb => ?_⟩
    rw [List.mem_singleton.1 hb, typesOf_concat]
    exact idxOf_concat_lt ((h.found a).1 ha) (mt (h.found d.type).2 hnew)

/-- One more finding. -/
theorem Reflects.record (h : Reflects l history) (d : DatedFinding) :
    Reflects (record d.toFinding d.time l) (history ++ [d]) where
  found := by
    intro type
    rw [types_record, typesOf_concat, List.mem_append, List.mem_singleton, ← h.found]
    split
    · next hold =>
      constructor
      · exact .inl
      · rintro (htype | rfl)
        · exact htype
        · exact hold
    · rw [List.mem_append, List.mem_singleton]
  sole := (h.ordered_concat d).imp fun hlt heq => by
    rw [heq] at hlt
    omega
  ordered := h.ordered_concat d
  sumsUp := by
    intro c hc
    rcases mem_record (h.sole_type d.type) hc with
      ⟨hold, hne⟩ | ⟨rfl, hnew⟩ | ⟨old, hold, htype, rfl⟩
    · rw [about_concat_of_ne hne]
      exact h.sumsUp c hold
    · show SumsUp _ (about d.type (history ++ [d]))
      rw [about_concat_self, about_eq_nil_iff.2 (mt (h.found d.type).2 hnew)]
      exact sumsUp_condition d
    · show SumsUp _ (about d.type (history ++ [d]))
      have hsum := h.sumsUp old hold
      rw [htype] at hsum
      rw [about_concat_self]
      exact hsum.update d

/-- What is true is what was found last. -/
theorem Reflects.isTrue_eq (h : Reflects l history) (type : String) :
    isTrue l type = (about type history).getLast?.any fun last => last.healthy := by
  cases hlast : (about type history).getLast? with
  | none =>
    have hnone : type ∉ l.map Condition.type := by
      rw [h.found, ← about_eq_nil_iff]
      exact List.getLast?_eq_none_iff.1 hlast
    refine isTrue_eq_false_of_forall fun c hc htype => hnone ?_
    exact List.mem_map.2 ⟨c, hc, htype⟩
  | some last =>
    have hfound : type ∈ l.map Condition.type := by
      rw [h.found]
      by_contra hnone
      rw [about_eq_nil_iff.2 hnone] at hlast
      exact nomatch hlast
    have htrue : ∀ c ∈ l, c.type = type → (c.status == "True") = last.healthy := by
      rintro c hc rfl
      obtain ⟨last', hlast', hrepeats⟩ := (h.sumsUp c hc).last
      obtain rfl : last = last' := Option.some.inj (hlast.symm.trans hlast')
      exact hrepeats.beq_true
    rw [Option.any_some, Bool.eq_iff_iff, isTrue, List.any_eq_true]
    simp only [Bool.and_eq_true, beq_iff_eq]
    constructor
    · rintro ⟨c, hc, htype, hstatus⟩
      rw [← htrue c hc htype, hstatus]
      rfl
    · intro hhealthy
      obtain ⟨c, hc, htype⟩ := List.mem_map.1 hfound
      refine ⟨c, hc, htype, ?_⟩
      rw [← beq_iff_eq, htrue c hc htype, hhealthy]

theorem reflects_ofHistory (history : List DatedFinding) :
    Reflects (ofHistory history) history := by
  induction history using List.reverseRecOn with
  | nil => exact ⟨fun _ => Iff.rfl, List.nodup_nil, List.Pairwise.nil, nofun⟩
  | append_singleton history d ih =>
    rw [ofHistory_concat]
    exact ih.record d

/-- Conditions that grew from nothing reflect the history that made them, and what is true is what
was found last. -/
theorem true_to_history (history : List DatedFinding) :
    Reflects (ofHistory history) history ∧ ∀ type, isTrue (ofHistory history) type =
      (about type history).getLast?.any fun last => last.healthy :=
  ⟨reflects_ofHistory history, (reflects_ofHistory history).isTrue_eq⟩

/-- A condition has stood since it flipped last, however often it was found since. -/
example :
    let found (type : String) (healthy : Bool) (generation seconds : Int) : DatedFinding :=
      ⟨⟨type, healthy, "Checked", "", some generation⟩, ⟨seconds, 0⟩⟩
    ofHistory [found "Ready" true 1 10, found "Scanned" true 1 20, found "Ready" false 2 30,
      found "Ready" false 3 40] =
    [⟨"Ready", "False", "Checked", "", some 3, ⟨30, 0⟩⟩,
      ⟨"Scanned", "True", "Checked", "", some 1, ⟨20, 0⟩⟩] := by
  decide

end Condition

end PolicyOperator
