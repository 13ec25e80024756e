import PolicyOperator.Proofs.Store.Atomic

/-!
# Requests through the wire form

The operations of the store pass the wire form by. For one write of what is in range this makes no
difference (`Store.steps_wire`). Here it is carried on to sequences of requests: a store that takes
every object through its wire form does what the store does (`Store.serve_through_wire`). So what
the laws of the store say of sequences, they say of both.

The invariant is `Store.Ranged`: what is stored is in range, and was not edited more often than
versions were handed out (`Object.Held`). The store's own marks keep to that (`held_created`,
`held_replacement`, `held_withStatus`, `held_marked`): a generation grows by one at most, and then a
version is handed out. A request hands out one version at most (`next_after`), so the generations
fit their words for as many requests as there are numbers in a word.
-/

namespace PolicyOperator

variable {k : ResourceKind}

namespace Object

theorem Readable.wholeSeconds {o : Object k} (h : o.Readable) : o.wholeSeconds.Readable :=
  readable_of_ofJson? h.ofJson?_toJson

/-- The object is in range, and was not edited more often than versions were handed out. -/
structure Held (last : Nat) (o : Object k) : Prop where
  readable : o.Readable
  counted : ∃ generation, o.metadata.generation = some generation ∧ generation ≤ last

theorem Held.mono {m n : Nat} {o : Object k} (h : o.Held m) (hle : m ≤ n) : o.Held n where
  readable := h.readable
  counted := by
    obtain ⟨generation, hgeneration, hm⟩ := h.counted
    exact ⟨generation, hgeneration, by omega⟩

end Object

namespace Request

/-- The time that a request brings. -/
def time? : Request k → Option Instant
  | .create now _ | .delete now _ => some now
  | .get _ | .list _ _ | .replace _ | .replaceStatus _ | .switch _ => none

/-- The write that a request asks for. -/
def write? : Request k → Option (Write k)
  | .create now o => some (.create now o)
  | .replace o => some (.replace o)
  | .replaceStatus o => some (.replaceStatus o)
  | .delete now key => some (.delete now key)
  | .get _ | .list _ _ | .switch _ => none

/-- What a request brings is in range. -/
structure InRange (r : Request k) : Prop where
  object : ∀ o ∈ r.desired?, o.Readable
  time : ∀ t ∈ r.time?, t.Writable

theorem request_of_write? {r : Request k} {w : Write k} (h : r.write? = some w) :
    w.request = r := by
  cases r <;> cases h <;> rfl

theorem InRange.update {w : Write k} (h : w.request.InRange) {o : Object k}
    (ho : w.update? = some o) : o.Readable := by
  cases w <;> cases ho <;> exact h.object _ rfl

end Request

namespace Store

/-- The store after a request. Writes are taken step by step. -/
def afterThrough (enc : Encoding k) (s : Store k) (r : Request k) : Store k :=
  match r.write? with
  | some w => (w.steps enc s).2
  | none => s.after r

/-- The store after a sequence of requests, the first one first. -/
def serveThrough (enc : Encoding k) (s : Store k) (requests : List (Request k)) : Store k :=
  requests.foldl (afterThrough enc) s

variable {s t : Store k} {now : Instant} {o o' current : Object k} {key : Key} {last version : Nat}
  {r : Request k}

/-! ## The store's marks -/

theorem held_created (ho : o.Readable) (hnow : now.Writable) (hversion : 1 ≤ version) :
    (created o now version).Held version := by
  have hgeneration : ∀ n ∈ (created o now version).metadata.generation, FitsInt64 n := by
    rintro n ⟨⟩
    decide
  have hcreated : ∀ t ∈ (created o now version).metadata.creationTimestamp, t.Writable := by
    rintro t ⟨⟩
    exact hnow
  have hmetadata : (created o now version).metadata.Readable :=
    ⟨hgeneration, hcreated, nofun, ho.metadata.deletionGracePeriodSeconds,
      ho.metadata.managedFields⟩
  exact ⟨⟨hmetadata, ho.spec, ho.status⟩, 1, rfl, by omega⟩

theorem held_replacement (hcurrent : current.Held last) (ho : o.Readable)
    (hroom : FitsInt64 (last + 1)) : (replacement current o version).Held (last + 1) := by
  obtain ⟨generation, hgeneration, hle⟩ := hcurrent.counted
  have hfits : FitsInt64 generation := hcurrent.readable.metadata.generation _ hgeneration
  -- the generation stays or grows by one
  obtain ⟨n, hn, hlow, hhigh⟩ : ∃ n, (replacement current o version).metadata.generation = some n ∧
      generation ≤ n ∧ n ≤ last + 1 := by
    rw [generation_replacement, hgeneration, Option.getD_some]
    split
    · exact ⟨_, rfl, by omega, by omega⟩
    · exact ⟨_, rfl, by omega, by omega⟩
  have hnext : ({ o with status := current.status } : Object k).wholeSeconds.Readable :=
    Object.Readable.wholeSeconds ⟨ho.metadata, ho.spec, hcurrent.readable.status⟩
  have hnew : ∀ m ∈ (replacement current o version).metadata.generation, FitsInt64 m := by
    rw [hn]
    rintro m ⟨⟩
    exact ⟨hfits.1.trans hlow, hhigh.trans hroom.2⟩
  have hmetadata : (replacement current o version).metadata.Readable :=
    ⟨hnew, hcurrent.readable.metadata.creationTimestamp,
      hcurrent.readable.metadata.deletionTimestamp, hnext.metadata.deletionGracePeriodSeconds,
      hnext.metadata.managedFields⟩
  exact ⟨⟨hmetadata, hnext.spec, hnext.status⟩, n, hn, hhigh⟩

theorem held_withStatus (hcurrent : current.Held last) (ho : o.Readable) :
    (withStatus current o version).Held last := by
  have hnext : ({ current with status := o.status } : Object k).wholeSeconds.Readable :=
    Object.Readable.wholeSeconds
      ⟨hcurrent.readable.metadata, hcurrent.readable.spec, ho.status⟩
  have hmetadata : (withStatus current o version).metadata.Readable :=
    ⟨hnext.metadata.generation, hnext.metadata.creationTimestamp,
      hnext.metadata.deletionTimestamp, hnext.metadata.deletionGracePeriodSeconds,
      hnext.metadata.managedFields⟩
  exact ⟨⟨hmetadata, hnext.spec, hnext.status⟩, hcurrent.counted⟩

theorem held_marked (hcurrent : current.Held last) (hnow : now.Writable) :
    (marked current now version).Held last := by
  have hdeleted : ∀ t ∈ (marked current now version).metadata.deletionTimestamp, t.Writable := by
    rintro t ⟨⟩
    exact hnow
  have hmetadata : (marked current now version).metadata.Readable :=
    { hcurrent.readable.metadata with deletionTimestamp := hdeleted }
  exact ⟨⟨hmetadata, hcurrent.readable.spec, hcurrent.readable.status⟩, hcurrent.counted⟩

/-! ## One request -/

/-- What is stored is in range. -/
def Ranged (s : Store k) : Prop := s.All fun _ o => o.Held s.lastVersion

theorem ranged_empty : Ranged ({} : Store k) := fun _ _ h => by cases h

/-- A write under one key. -/
theorem Ranged.of_get? {o? : Option (Object k)} (hs : s.Ranged)
    (hlast : s.lastVersion ≤ t.lastVersion)
    (hget : ∀ key', t.objects.get? key' = if key' = key then o? else s.objects.get? key')
    (ho : ∀ o, o? = some o → o.Held t.lastVersion) : t.Ranged :=
  All.of_get? (All.mono hs fun _ _ h => h.mono hlast) hget ho

/-- What is stored next is in range, and one version was handed out at most. -/
structure Next (s t : Store k) : Prop where
  last : t.lastVersion ≤ s.lastVersion + 1
  ranged : t.Ranged

/-- A request that is refused changes nothing. -/
theorem next_outcome {α : Type} {result : Except Error (α × Store k)} (hs : s.Ranged)
    (h : ∀ a t, result = .ok (a, t) → Next s t) : Next s (s.outcome result) := by
  rcases result with e | ⟨a, t⟩
  · exact ⟨Nat.le_succ _, hs⟩
  · exact h a t rfl

theorem next_create (hs : s.Ranged) (ho : o.Readable) (hnow : now.Writable)
    (h : s.create now o = .ok (o', t)) : Next s t := by
  obtain ⟨-, key, hkey, -, ho', ht⟩ := create_eq_ok_iff.1 h
  have hlast : t.lastVersion = s.lastVersion + 1 := congrArg lastVersion ht
  refine ⟨hlast.le, hs.of_get? (by omega) (get?_create h hkey) ?_⟩
  rintro _ ⟨⟩
  rw [hlast, ho']
  exact held_created ho hnow (Nat.le_add_left ..)

theorem next_replace (hs : s.Ranged) (ho : o.Readable) (hroom : FitsInt64 (s.lastVersion + 1))
    (h : s.replace o = .ok (o', t)) : Next s t := by
  obtain ⟨-, key, current, hkey, hcurrent, -, ho', ht⟩ := replace_eq_ok_iff.1 h
  have hlast : t.lastVersion = s.lastVersion + 1 := congrArg lastVersion ht
  refine ⟨hlast.le, hs.of_get? (by omega) (get?_replace h hkey) fun x hx => ?_⟩
  rw [hlast, eq_of_remaining hx, ho']
  exact held_replacement (hs key current hcurrent) ho hroom

theorem next_replaceStatus (hs : s.Ranged) (ho : o.Readable)
    (h : s.replaceStatus o = .ok (o', t)) : Next s t := by
  obtain ⟨-, key, current, hkey, hcurrent, -, ho', ht⟩ := replaceStatus_eq_ok_iff.1 h
  have hlast : t.lastVersion = s.lastVersion + 1 := congrArg lastVersion ht
  refine ⟨hlast.le, hs.of_get? (by omega) (get?_replaceStatus h hkey) ?_⟩
  rintro _ ⟨⟩
  rw [hlast, ho']
  exact (held_withStatus (hs key current hcurrent) ho).mono (Nat.le_succ _)

theorem next_deletion (hs : s.Ranged) (hnow : now.Writable) (key : Key) :
    Next s (s.deletion now key) := by
  unfold deletion
  cases hcurrent : s.objects.get? key with
  | none => exact ⟨Nat.le_succ _, hs⟩
  | some current =>
    dsimp only
    split
    · refine ⟨Nat.le_succ _, hs.of_get? (Nat.le_refl _) (fun _ => SortedMap.get?_erase ..) ?_⟩
      exact fun _ h => by cases h
    · split
      · exact ⟨Nat.le_succ _, hs⟩
      · refine ⟨Nat.le_refl _, hs.of_get? (Nat.le_succ _) (fun _ => SortedMap.get?_insert ..) ?_⟩
        rintro _ ⟨⟩
        exact (held_marked (hs key current hcurrent) hnow).mono (Nat.le_succ _)

theorem next_after (hs : s.Ranged) (hr : r.InRange) (hroom : FitsInt64 (s.lastVersion + 1)) :
    Next s (s.after r) := by
  cases r with
  | get | list | switch => exact ⟨Nat.le_succ _, hs⟩
  | create now o =>
    exact next_outcome hs fun _ _ => next_create hs (hr.object o rfl) (hr.time now rfl)
  | replace o => exact next_outcome hs fun _ _ => next_replace hs (hr.object o rfl) hroom
  | replaceStatus o => exact next_outcome hs fun _ _ => next_replaceStatus hs (hr.object o rfl)
  | delete now key =>
    refine next_outcome hs fun _ _ h => ?_
    obtain ⟨-, -, rfl⟩ := delete_eq_ok_iff.1 h
    exact next_deletion hs (hr.time now rfl) key

theorem steps_wire_of_ranged {w : Write k} (hs : s.Ranged) (hw : w.request.InRange) :
    w.steps (.wire k) s = w.run s := by
  rw [steps_wire (fun _ ho => hw.update ho) (All.mono hs fun _ _ h => h.readable), steps_direct]

theorem afterThrough_wire (hs : s.Ranged) (hr : r.InRange) :
    s.afterThrough (.wire k) r = s.after r := by
  unfold afterThrough
  cases hw : r.write? with
  | none => rfl
  | some w =>
    obtain rfl := Request.request_of_write? hw
    simp only [steps_wire_of_ranged hs hr, after_request]

/-! ## Sequences -/

theorem ranged_serve {requests : List (Request k)} (hs : s.Ranged)
    (hr : ∀ r ∈ requests, r.InRange) (hroom : FitsInt64 (s.lastVersion + requests.length)) :
    s.serveThrough (.wire k) requests = s.serve requests ∧ (s.serve requests).Ranged := by
  induction requests generalizing s with
  | nil => exact ⟨rfl, hs⟩
  | cons r rest ih =>
    obtain ⟨hr, hrest⟩ := List.forall_mem_cons.1 hr
    simp only [FitsInt64, List.length_cons, Nat.cast_add, Nat.cast_one] at hroom ih
    obtain ⟨hlast, hnext⟩ := next_after hs hr ⟨by omega, by omega⟩
    obtain ⟨hsame, hend⟩ := ih hnext hrest ⟨by omega, by omega⟩
    refine ⟨?_, hend⟩
    rw [serveThrough, List.foldl_cons, afterThrough_wire hs hr]
    exact hsame

/-- A store that takes every object through its wire form does what the store does: after any
requests of what is in range it holds the same, and it answers the next write alike. -/
theorem serve_through_wire {requests : List (Request k)} (hr : ∀ r ∈ requests, r.InRange)
    (hroom : FitsInt64 requests.length) :
    serveThrough (.wire k) {} requests = serve {} requests ∧
      ∀ w : Write k, w.request.InRange →
        w.steps (.wire k) (serve {} requests) = w.run (serve {} requests) := by
  have hlast : FitsInt64 (({} : Store k).lastVersion + requests.length) := by
    simpa using hroom
  obtain ⟨hsame, hend⟩ := ranged_serve ranged_empty hr hlast
  exact ⟨hsame, fun w hw => steps_wire_of_ranged hend hw⟩

end Store

end PolicyOperator
