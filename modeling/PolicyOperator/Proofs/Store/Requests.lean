import PolicyOperator.Proofs.Store.Reached

/-!
# Requests of many clients

A store answers one request after the other, so whoever makes them, the requests of any number of
clients come to one sequence (`serve`). A client that read an object and writes with its version
must not undo what others wrote in between. The main statement is `undisturbed_of_accepted`: such a
write is accepted only if the object was stored all the time since it was answered.

* What a request is answered with is known from then on (`known_of_mem_answers`): with its version
  nothing else is ever stored.
* An object that is stored at the end of a sequence, and was known at its start, was stored all along
  (`Known.stored`, `Numbered.between`), so every write under its key was refused on the way
  (`answers_of_stored`).
-/

namespace PolicyOperator

variable {k : ResourceKind}

/-- What a client asks of a store. -/
inductive Request (k : ResourceKind) where
  | get (key : Key)
  | list (ns : Option String) (selector : Selector)
  | create (now : Instant) (o : Object k)
  | replace (o : Object k)
  | replaceStatus (o : Object k)
  | delete (now : Instant) (key : Key)
  /-- Makes all writes fail from now on, or succeed again. -/
  | switch (failing : Bool)

namespace Store

/-- The store after an operation. One that is refused leaves it as it was. -/
def outcome (s : Store k) {α : Type} : Except Error (α × Store k) → Store k
  | .ok (_, t) => t
  | .error _ => s

/-- The object that a write is answered with. -/
def written? : Except Error (Object k × Store k) → Option (Object k)
  | .ok (o, _) => some o
  | .error _ => none

/-- The store after a request. -/
def after (s : Store k) : Request k → Store k
  | .get _ | .list _ _ => s
  | .create now o => s.outcome (s.create now o)
  | .replace o => s.outcome (s.replace o)
  | .replaceStatus o => s.outcome (s.replaceStatus o)
  | .delete now key => s.outcome (s.delete now key.ns key.name)
  | .switch failing => { s with failing := failing }

/-- The objects that a request is answered with. -/
def answers (s : Store k) : Request k → List (Object k)
  | .get key => (s.get? key.ns key.name).toList
  | .list ns selector => s.list ns selector
  | .create now o => (written? (s.create now o)).toList
  | .replace o => (written? (s.replace o)).toList
  | .replaceStatus o => (written? (s.replaceStatus o)).toList
  | .delete _ _ | .switch _ => []

/-- The store after a sequence of requests, the first one first. -/
def serve (s : Store k) (requests : List (Request k)) : Store k := requests.foldl after s

end Store

namespace Request

/-- The object that a request asks to be stored. -/
def desired? : Request k → Option (Object k)
  | .create _ o | .replace o | .replaceStatus o => some o
  | .get _ | .list _ _ | .delete _ _ | .switch _ => none

/-- The request is to change an object that is there. -/
def isUpdate : Request k → Bool
  | .replace _ | .replaceStatus _ => true
  | _ => false

end Request

namespace Store

section

variable {s t : Store k} {r : Request k} {x o o' : Object k} {key : Key} {α : Type}

theorem mem_written?_iff {result : Except Error (Object k × Store k)} :
    x ∈ (written? result).toList ↔ ∃ t, result = .ok (x, t) := by
  rcases result with e | ⟨o, t⟩ <;> simp [written?, eq_comm]

theorem later_outcome {result : Except Error (α × Store k)}
    (h : ∀ a t, result = .ok (a, t) → Later s t) : Later s (s.outcome result) := by
  rcases result with e | ⟨a, t⟩
  · exact .refl s
  · exact h a t rfl

theorem later_after (s : Store k) (r : Request k) : Later s (s.after r) := by
  cases r with
  | get | list => exact .refl s
  | create => exact later_outcome fun _ _ h => .create (.refl s) h
  | replace => exact later_outcome fun _ _ h => .replace (.refl s) h
  | replaceStatus => exact later_outcome fun _ _ h => .replaceStatus (.refl s) h
  | delete => exact later_outcome fun _ _ h => .delete (.refl s) h
  | switch failing => exact .switch failing (.refl s)

theorem later_serve (s : Store k) (requests : List (Request k)) : Later s (s.serve requests) := by
  induction requests generalizing s with
  | nil => exact .refl s
  | cons r rest ih => exact (later_after s r).trans (ih (s.after r))

theorem serve_append (s : Store k) (l l' : List (Request k)) :
    s.serve (l ++ l') = (s.serve l).serve l' :=
  List.foldl_append

theorem serve_concat (s : Store k) (l : List (Request k)) (r : Request k) :
    s.serve (l ++ [r]) = (s.serve l).after r :=
  serve_append s l [r]

/-- Whatever a request is answered with is known afterwards. -/
theorem known_of_mem_answers (hs : Numbered s) (hx : x ∈ s.answers r) : Known (s.after r) x := by
  cases r with
  | get key => exact hs.known (Option.mem_toList.1 hx)
  | list ns selector =>
    obtain ⟨e, he, rfl⟩ := List.mem_map.1 hx
    exact hs.known ((s.objects.mem_entries_iff e.1 e.2).1 (List.mem_filter.1 he).1)
  | create now o =>
    obtain ⟨t, ht⟩ := mem_written?_iff.1 hx
    rw [after, ht]
    exact known_create hs ht
  | replace o =>
    obtain ⟨t, ht⟩ := mem_written?_iff.1 hx
    rw [after, ht]
    exact known_replace ht
  | replaceStatus o =>
    obtain ⟨t, ht⟩ := mem_written?_iff.1 hx
    rw [after, ht]
    exact known_replaceStatus hs ht
  | delete | switch => cases hx

/-- The store answered the object to one of the requests that led to it. -/
def Returned (s : Store k) (o : Object k) : Prop :=
  ∃ past r since, o ∈ (serve {} past).answers r ∧ s = serve {} (past ++ r :: since)

theorem Returned.known (h : Returned s o) : Known s o := by
  obtain ⟨past, r, since, ho, rfl⟩ := h
  have hpast : Reached (serve ({} : Store k) past) := later_serve {} past
  rw [serve_append]
  exact (known_of_mem_answers hpast.numbered ho).advanced (later_serve _ since).advanced

/-- Whatever a request is answered with has a generation. -/
theorem counted_of_mem_answers (hs : s.All Object.Registered) (hx : x ∈ s.answers r) :
    ∃ generation, x.metadata.generation = some generation := by
  cases r with
  | get key => exact (hs key x (Option.mem_toList.1 hx)).counted
  | list ns selector =>
    obtain ⟨e, he, rfl⟩ := List.mem_map.1 hx
    exact (hs e.1 e.2 ((s.objects.mem_entries_iff e.1 e.2).1 (List.mem_filter.1 he).1)).counted
  | create now o =>
    obtain ⟨t, ht⟩ := mem_written?_iff.1 hx
    obtain ⟨-, key, -, -, rfl, -⟩ := create_eq_ok_iff.1 ht
    exact ⟨1, rfl⟩
  | replace o =>
    obtain ⟨t, ht⟩ := mem_written?_iff.1 hx
    obtain ⟨-, key, current, -, -, -, rfl, -⟩ := replace_eq_ok_iff.1 ht
    exact ⟨_, generation_replacement ..⟩
  | replaceStatus o =>
    obtain ⟨t, ht⟩ := mem_written?_iff.1 hx
    obtain ⟨-, key, current, -, hcurrent, -, rfl, -⟩ := replaceStatus_eq_ok_iff.1 ht
    exact (hs key current hcurrent).counted
  | delete | switch => cases hx

theorem Returned.counted (h : Returned s o) :
    ∃ generation, o.metadata.generation = some generation := by
  obtain ⟨past, r, since, ho, -⟩ := h
  have hpast : Reached (serve ({} : Store k) past) := later_serve {} past
  exact counted_of_mem_answers hpast.registered ho

/-- A known object that is stored later on is stored now: it cannot come back. -/
theorem Known.stored (h : Known s x) (ha : Advanced s t) (ht : t.objects.get? key = some x) :
    s.objects.get? key = some x := by
  obtain hold | ⟨n, hlt, -, hn⟩ := ha.fresh key x ht
  · exact hold
  · obtain ⟨m, hle, hm⟩ := h.stamped
    exact absurd (hm.unique hn) (by omega)

/-- An update with the version of a known object is accepted only while that object is stored. -/
theorem Known.current_of_accepted (h : Known s x) (hkey : x.key = .ok key) (hupdate : r.isUpdate)
    (hr : r.desired? = some o) (ho : o.key = .ok key) {v : String}
    (hv : o.metadata.resourceVersion = some v) (hxv : x.metadata.resourceVersion = some v)
    (haccepted : s.answers r ≠ []) : s.objects.get? key = some x := by
  have stored : ∀ key' current, o.key = .ok key' → s.objects.get? key' = some current →
      (∀ v, o.metadata.resourceVersion = some v → current.metadata.resourceVersion = some v) →
      s.objects.get? key = some x := by
    intro key' current hkey' hcurrent hversion
    obtain rfl : key' = key := by simpa [ho] using hkey'.symm
    rw [hcurrent, h.current key' current hkey hcurrent ((hversion v hv).trans hxv.symm)]
  obtain ⟨o', ho'⟩ := List.exists_mem_of_ne_nil _ haccepted
  cases r with
  | replace =>
    obtain rfl := Option.some.inj hr
    obtain ⟨t, ht⟩ := mem_written?_iff.1 ho'
    obtain ⟨-, key', current, hkey', hcurrent, hversion, -⟩ := replace_eq_ok_iff.1 ht
    exact stored key' current hkey' hcurrent hversion
  | replaceStatus =>
    obtain rfl := Option.some.inj hr
    obtain ⟨t, ht⟩ := mem_written?_iff.1 ho'
    obtain ⟨-, key', current, hkey', hcurrent, hversion, -⟩ := replaceStatus_eq_ok_iff.1 ht
    exact stored key' current hkey' hcurrent hversion
  | get | list | create | delete | switch => cases hupdate

/-- Where a request leaves an object as it is stored, no write under its key was accepted. -/
theorem answers_of_stored (hs : Numbered s) (hstored : s.objects.get? key = some x)
    (hafter : (s.after r).objects.get? key = some x) (hr : r.desired? = some o)
    (ho : o.key = .ok key) : s.answers r = [] := by
  -- an accepted update gives its object a version that no stored object has
  have fresh : ∀ o' : Object k, Stamped s.nextVersion o' → x ≠ o' := by
    rintro o' hnew rfl
    obtain ⟨n, hle, hn⟩ := hs.stamped key x hstored
    have hversion : n = s.lastVersion + 1 := hn.unique hnew
    omega
  refine List.eq_nil_iff_forall_not_mem.2 fun o' ho' => ?_
  cases r with
  | create now =>
    obtain rfl := Option.some.inj hr
    obtain ⟨t, ht⟩ := mem_written?_iff.1 ho'
    obtain ⟨-, key', hkey', hnone, -⟩ := create_eq_ok_iff.1 ht
    obtain rfl : key' = key := by simpa [ho] using hkey'.symm
    rw [hnone] at hstored
    cases hstored
  | replace =>
    obtain rfl := Option.some.inj hr
    obtain ⟨t, ht⟩ := mem_written?_iff.1 ho'
    rw [after, ht, outcome, get?_replace ht ho, if_pos rfl] at hafter
    obtain ⟨-, _, _, -, -, -, heq, -⟩ := replace_eq_ok_iff.1 ht
    exact fresh o' (heq ▸ rfl) (eq_of_remaining hafter)
  | replaceStatus =>
    obtain rfl := Option.some.inj hr
    obtain ⟨t, ht⟩ := mem_written?_iff.1 ho'
    rw [after, ht, outcome, get?_replaceStatus ht ho, if_pos rfl] at hafter
    obtain ⟨-, _, _, -, -, -, heq, -⟩ := replaceStatus_eq_ok_iff.1 ht
    exact fresh o' (heq ▸ rfl) (Option.some.inj hafter).symm
  | get | list | delete | switch => cases hr

end

/-- From `s` on the object is stored under the key all along, and whoever asks for a write under the
key is refused. A deletion may be accepted of what is on its way out already; it changes nothing. -/
structure Undisturbed (key : Key) (x : Object k) (s : Store k) (requests : List (Request k)) :
    Prop where
  stored : ∀ done, done <+: requests → (s.serve done).objects.get? key = some x
  refused : ∀ done r rest o, requests = done ++ r :: rest → r.desired? = some o →
    o.key = .ok key → (s.serve done).answers r = []

/-- No update is lost. An object was answered to some request `r`; after any other requests, an
update of its key that carries its version is accepted. Then the object was stored all the time from
`r` on, and nobody else wrote under its key; in particular it was not removed and created again. -/
theorem undisturbed_of_accepted {past since : List (Request k)} {r update : Request k}
    {x o : Object k} {key : Key} {v : String}
    (hx : x ∈ (serve {} past).answers r) (hkey : x.key = .ok key)
    (hxv : x.metadata.resourceVersion = some v) (hupdate : update.isUpdate)
    (ho : update.desired? = some o) (hokey : o.key = .ok key)
    (hov : o.metadata.resourceVersion = some v)
    (haccepted : (serve {} (past ++ r :: since)).answers update ≠ []) :
    Undisturbed key x (serve {} (past ++ [r])) since := by
  have hpast : Reached (serve ({} : Store k) past) := later_serve {} past
  rw [serve_concat]
  rw [serve_append] at haccepted
  generalize serve {} past = s₀ at hx hpast haccepted ⊢
  have hknown : Known (s₀.after r) x := known_of_mem_answers hpast.numbered hx
  have hnumbered : Numbered (s₀.after r) := hpast.numbered.advanced (later_after s₀ r).advanced
  have hend : ((s₀.after r).serve since).objects.get? key = some x :=
    (hknown.advanced (later_serve _ since).advanced).current_of_accepted hkey hupdate ho hokey hov
      hxv haccepted
  have hstart : (s₀.after r).objects.get? key = some x :=
    hknown.stored (later_serve _ since).advanced hend
  have hstored : ∀ done, done <+: since → ((s₀.after r).serve done).objects.get? key = some x := by
    rintro done ⟨rest, rfl⟩
    rw [serve_append] at hend
    exact hnumbered.between (later_serve _ done).advanced (later_serve _ rest).advanced hstart hend
  refine ⟨hstored, fun done w rest o' hsplit hw hwkey => ?_⟩
  have hbefore := hstored done ⟨w :: rest, hsplit.symm⟩
  have hafter := hstored (done ++ [w]) ⟨rest, by rw [hsplit, List.append_assoc]; rfl⟩
  rw [serve_concat] at hafter
  exact answers_of_stored (hnumbered.advanced (later_serve _ done).advanced) hbefore hafter hw hwkey

namespace Sample

def tool : Tool where
  metadata := { name := some "falco", ns := some "ops" }
  spec := { type := "falco", enabled := true }

def key : Key := ⟨"ops", "falco"⟩

/-- One client creates the tool and edits it, with the version that it was answered. -/
def past : List (Request .tool) :=
  [.create ⟨0, 0⟩ tool,
    .replace { created tool ⟨0, 0⟩ 1 with spec := { tool.spec with enabled := false } }]

/-- The tool as the second client reads it. -/
def read : Tool := ((serve {} past).objects.get? key).getD tool

/-- The first client writes again with the version that it knows, and is refused. -/
def stale : Request .tool := .replace (created tool ⟨0, 0⟩ 1)

def publish : Request .tool :=
  .replaceStatus { read with status := some { installed := true, healthy := true } }

end Sample

/-- The second client publishes a status; what the first one tried in between was refused. -/
theorem undisturbed_sample :
    (serve {} (Sample.past ++ .get Sample.key :: [Sample.stale])).answers Sample.publish ≠ [] ∧
      Undisturbed Sample.key Sample.read (serve {} (Sample.past ++ [.get Sample.key]))
        [Sample.stale] := by
  have haccepted : (serve {} (Sample.past ++ .get Sample.key :: [Sample.stale])).answers
      Sample.publish ≠ [] := nofun
  refine ⟨haccepted, ?_⟩
  have hupdate : Sample.publish.isUpdate := rfl
  exact undisturbed_of_accepted (v := "2") List.mem_cons_self rfl rfl hupdate rfl rfl rfl haccepted

end Store

end PolicyOperator
