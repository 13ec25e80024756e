import PolicyOperator.Proofs.Store.Requests

/-!
# Lifetimes

Callers pass whatever metadata they like; the marks of an object are the store's own. Every request
turns what is stored under a key in one of five ways (`Turned`, `turned_after`), and from that come
the laws of an object's life (`lifetime_of_stored`):

* what is stored is `Enrolled`: it has an identity, a time of creation, a version and a generation
  of at least one, and when it is being deleted it waits for a finalizer;
* as long as its key stays occupied it is `Carried` on: identity and time of creation never change,
  a deletion is not taken back or put off, and the generation counts the edits of the spec;
* the identity tells objects apart: one that is created under the key later on has another.

Times are compared at whole seconds, since a write drops fractions.
-/

namespace PolicyOperator

variable {k : ResourceKind}

namespace Object

/-- The marks that the store has put on each of its objects. -/
structure Enrolled (key : Key) (o : Object k) : Prop extends Registered key o where
  created : ∃ t, o.metadata.creationTimestamp = some t
  versioned : ∃ version, o.metadata.resourceVersion = some version
  positive : ∃ generation, o.metadata.generation = some generation ∧ 1 ≤ generation

/-- What becomes of the store's marks on an object while its spec is edited `n` times. -/
structure Carried (n : Nat) (o o' : Object k) : Prop where
  uid : o'.metadata.uid = o.metadata.uid
  created : o'.metadata.creationTimestamp.map Instant.wholeSeconds =
    o.metadata.creationTimestamp.map Instant.wholeSeconds
  leaving : ∀ t, o.metadata.deletionTimestamp = some t →
    o'.metadata.deletionTimestamp.map Instant.wholeSeconds = some t.wholeSeconds
  counted : o'.metadata.generation = o.metadata.generation.map (· + (n : Int))

variable {m n : Nat} {o o' o'' : Object k}

theorem Carried.refl (o : Object k) : o.Carried 0 o where
  uid := rfl
  created := rfl
  leaving t h := by rw [h, Option.map_some]
  counted := by cases o.metadata.generation <;> simp

theorem Carried.trans (h : o.Carried m o') (h' : o'.Carried n o'') : o.Carried (m + n) o'' where
  uid := h'.uid.trans h.uid
  created := h'.created.trans h.created
  leaving t ht := by
    obtain ⟨t', ht', hsame⟩ := Option.map_eq_some_iff.1 (h.leaving t ht)
    rw [h'.leaving t' ht', hsame]
  counted := by
    rw [h'.counted, h.counted, Option.map_map]
    congr 1
    funext g
    simp only [Function.comp_apply]
    omega

end Object

namespace Store

/-! ## What a request makes of an object -/

/-- What a request makes of what is stored under a key. A write is given the version; `edited` tells
whether it asks for another spec. -/
inductive Turned (key : Key) (version : Nat) :
    (edited : Bool) → Option (Object k) → Option (Object k) → Prop
  | kept (o? : Option (Object k)) : Turned key version false o? o?
  | created {o : Object k} (now : Instant) : o.key = .ok key →
      Turned key version false none (some (created o now version))
  | replaced {current o : Object k} : o.key = .ok key →
      Turned key version (!k.sameSpec current.spec o.spec) (some current)
        (remaining (replacement current o version))
  | restated (current o : Object k) :
      Turned key version false (some current) (some (withStatus current o version))
  | withdrawn {o? o'? : Option (Object k)} : Withdrawn o? o'? → Turned key version false o? o'?

/-- The request is a replacement under the key that is accepted, and asks for another spec than what
is stored. Metadata and status do not count. -/
def isEdit (s : Store k) (key : Key) (r : Request k) : Bool :=
  match r, s.objects.get? key with
  | .replace o, some current =>
    o.key.toOption == some key && (s.replace o).isOk && !k.sameSpec current.spec o.spec
  | _, _ => false

/-- How many of the requests edit the spec of what is stored under the key. -/
def edits (s : Store k) (key : Key) : List (Request k) → Nat
  | [] => 0
  | r :: rest => (s.isEdit key r).toNat + (s.after r).edits key rest

section

variable {s s' : Store k} {key : Key} {version : Nat} {edited : Bool} {o o' : Object k}
  {o? o'? : Option (Object k)}

/-- A write under one key keeps what is stored under the others. -/
theorem Turned.of_get? {written : Key} {now? : Option (Object k)}
    (hget : ∀ key, s'.objects.get? key = if key = written then now? else s.objects.get? key)
    (hother : key ≠ written → edited = false)
    (hturned : key = written → Turned key version edited (s.objects.get? key) now?) :
    Turned key version edited (s.objects.get? key) (s'.objects.get? key) := by
  rw [hget]
  split
  · next he => exact hturned he
  · next he =>
    rw [hother he]
    exact .kept _

theorem isEdit_of_ne {written : Key} (hkey : o.key = .ok written) (h : key ≠ written) :
    s.isEdit key (.replace o) = false := by
  unfold isEdit
  split
  · next he _ =>
    cases he
    simp [hkey, Except.toOption, Ne.symm h]
  · rfl

theorem isEdit_of_refused {e : Error} (h : s.replace o = .error e) :
    s.isEdit key (.replace o) = false := by
  unfold isEdit
  split
  · next he _ =>
    cases he
    simp [h, Except.isOk, Except.toBool]
  · rfl

theorem isEdit_of_accepted {current : Object k} (h : s.replace o = .ok (o', s'))
    (hkey : o.key = .ok key) (hcurrent : s.objects.get? key = some current) :
    s.isEdit key (.replace o) = !k.sameSpec current.spec o.spec := by
  simp [isEdit, hcurrent, hkey, h, Except.isOk, Except.toBool, Except.toOption]

/-- Every request turns what is stored under a key in one of these ways. -/
theorem turned_after (s : Store k) (key : Key) (r : Request k) :
    Turned key s.nextVersion (s.isEdit key r) (s.objects.get? key)
      ((s.after r).objects.get? key) := by
  cases r with
  | get | list | switch => exact .kept _
  | create now o =>
    simp only [after]
    cases hop : s.create now o with
    | error e => exact .kept _
    | ok answer =>
      obtain ⟨-, written, hkey, hnone, ho', -⟩ := create_eq_ok_iff.1 hop
      refine .of_get? (get?_create hop hkey) (fun _ => rfl) fun he => ?_
      subst he
      rw [hnone, ho']
      exact .created now hkey
  | replace o =>
    simp only [after]
    cases hop : s.replace o with
    | error e =>
      rw [isEdit_of_refused hop]
      exact .kept _
    | ok answer =>
      obtain ⟨-, written, current, hkey, hcurrent, -, ho', -⟩ := replace_eq_ok_iff.1 hop
      refine .of_get? (get?_replace hop hkey) (isEdit_of_ne hkey) fun he => ?_
      subst he
      rw [isEdit_of_accepted hop hkey hcurrent, hcurrent, ho']
      exact .replaced hkey
  | replaceStatus o =>
    simp only [after]
    cases hop : s.replaceStatus o with
    | error e => exact .kept _
    | ok answer =>
      obtain ⟨-, written, current, hkey, hcurrent, -, ho', -⟩ := replaceStatus_eq_ok_iff.1 hop
      refine .of_get? (get?_replaceStatus hop hkey) (fun _ => rfl) fun he => ?_
      subst he
      rw [hcurrent, ho']
      exact .restated current o
  | delete now written =>
    simp only [after]
    cases hop : s.delete now written.ns written.name with
    | error e => exact .kept _
    | ok answer =>
      obtain ⟨-, -, hs'⟩ := delete_eq_ok_iff.1 hop
      simp only [outcome, hs']
      by_cases he : key = written
      · subst he
        exact .withdrawn (withdrawn_deletion s now key)
      · rw [get?_deletion_of_ne s now he]
        exact .kept _

/-! ## The store's marks -/

/-- Objects that were created with different versions have different identities. -/
theorem uid_injective {m n : Nat} (h : uid k m = uid k n) : m = n := by
  have htail : (Instant.padded 12 m).toList = (Instant.padded 12 n).toList := by
    have hlist := congrArg String.toList h
    simp only [uid, String.toList_append] at hlist
    exact List.append_cancel_left hlist
  rw [← Instant.ofDigitChars_padded 12 m, htail, Instant.ofDigitChars_padded]

/-- The object was created after the version `first`, and not after `last`. -/
structure Issued (first last : Nat) (o : Object k) : Prop where
  identified : ∃ n, first < n ∧ n ≤ last ∧ o.metadata.uid = some (uid k n)
  created : ∃ t, o.metadata.creationTimestamp = some t
  positive : ∃ generation, o.metadata.generation = some generation ∧ 1 ≤ generation

variable {first last : Nat}

theorem Issued.mono (h : Issued first last o) (hle : last ≤ version) : Issued first version o := by
  obtain ⟨n, hlt, hn, huid⟩ := h.identified
  exact ⟨⟨n, hlt, Nat.le_trans hn hle, huid⟩, h.created, h.positive⟩

/-- Every request leaves the marks of what it does not create. -/
theorem Turned.issued (h : Turned key version edited o? (some o'))
    (hissued : ∀ o, o? = some o → Issued first last o) (hfirst : first < version)
    (hlast : last ≤ version) : Issued first version o' := by
  generalize ho' : some o' = o'? at h
  cases h with
  | kept => exact (hissued o' ho'.symm).mono hlast
  | created now hkey =>
    cases ho'
    exact ⟨⟨version, hfirst, Nat.le_refl _, rfl⟩, ⟨now, rfl⟩, 1, rfl, Int.le_refl _⟩
  | @replaced current o hkey =>
    obtain rfl := eq_of_remaining ho'.symm
    obtain ⟨huid, hcreated, g, hg, hpos⟩ := (hissued current rfl).mono hlast
    refine ⟨huid, hcreated, _, generation_replacement .., ?_⟩
    rw [hg, Option.getD_some]
    split <;> omega
  | restated current o =>
    cases ho'
    obtain ⟨huid, ⟨t, ht⟩, hpos⟩ := (hissued current rfl).mono hlast
    exact ⟨huid, ⟨t.wholeSeconds, by
      simp [withStatus, Object.wholeSeconds, Metadata.wholeSeconds, ht]⟩, hpos⟩
  | withdrawn hw =>
    subst ho'
    obtain ⟨o, rfl, ⟨rfl, -⟩ | ⟨now, version', rfl⟩⟩ := hw.of_some
    · exact (hissued _ rfl).mono hlast
    · obtain ⟨huid, hcreated, hpos⟩ := (hissued o rfl).mono hlast
      exact ⟨huid, hcreated, hpos⟩

/-- What stays under its key keeps its identity, is not called back, and counts its edits. -/
theorem Turned.carried (h : Turned key version edited (some o) (some o'))
    (hcounted : ∃ generation, o.metadata.generation = some generation) :
    o.Carried edited.toNat o' := by
  obtain ⟨g, hg⟩ := hcounted
  generalize ho : some o = o?, ho' : some o' = o'? at h
  cases h with
  | kept =>
    cases ho.trans ho'.symm
    exact .refl o
  | created => cases ho
  | @replaced current incoming hkey =>
    cases ho
    obtain rfl := eq_of_remaining ho'.symm
    refine ⟨rfl, rfl, fun t ht => congrArg _ ht, ?_⟩
    rw [generation_replacement, hg, ResourceKind.sameSpec_specWholeSeconds]
    cases k.sameSpec o.spec incoming.spec <;> simp
  | restated current incoming =>
    cases ho
    cases ho'
    refine ⟨rfl, ?_, fun t ht => ?_, ?_⟩
    · simp [withStatus, Object.wholeSeconds, Metadata.wholeSeconds, Function.comp_def]
    · simp [withStatus, Object.wholeSeconds, Metadata.wholeSeconds, ht]
    · simp [withStatus, Object.wholeSeconds, Metadata.wholeSeconds, hg]
  | withdrawn hw =>
    subst ho ho'
    cases hw with
    | kept => exact .refl o
    | marked now version' _ hnot =>
      refine ⟨rfl, rfl, fun t ht => ?_, (Object.Carried.refl o).counted⟩
      simp [Metadata.isDeleting, ht] at hnot

/-! ## The life of an object -/

/-- The key is occupied before each of the requests and after the last. -/
def Lasts (s : Store k) (key : Key) (requests : List (Request k)) : Prop :=
  ∀ done, done <+: requests → ((s.serve done).objects.get? key).isSome

theorem lasts_cons {r : Request k} {rest : List (Request k)} :
    s.Lasts key (r :: rest) ↔ (s.objects.get? key).isSome ∧ (s.after r).Lasts key rest := by
  constructor
  · intro h
    refine ⟨h [] (List.nil_prefix), fun done hdone => ?_⟩
    exact h (r :: done) (List.cons_prefix_cons.2 ⟨rfl, hdone⟩)
  · rintro ⟨hstart, hrest⟩ done hdone
    cases done with
    | nil => exact hstart
    | cons r' done =>
      obtain ⟨rfl, hdone'⟩ := List.cons_prefix_cons.1 hdone
      exact hrest done hdone'

/-- If every object under the key was created after the version `first`, that stays so. -/
theorem issued_serve (hfirst : first ≤ s.lastVersion)
    (hs : ∀ o, s.objects.get? key = some o → Issued first s.lastVersion o)
    (requests : List (Request k)) :
    ∀ o, (s.serve requests).objects.get? key = some o →
      Issued first (s.serve requests).lastVersion o := by
  induction requests generalizing s with
  | nil => exact hs
  | cons r rest ih =>
    have hadvanced := (later_after s r).advanced
    refine ih (Nat.le_trans hfirst hadvanced.last) fun o ho => ?_
    obtain hold | ⟨n, hlt, hle, -⟩ := hadvanced.fresh key o ho
    · exact (hs o hold).mono hadvanced.last
    · have hturned := turned_after s key r
      rw [ho] at hturned
      exact (hturned.issued hs (Nat.lt_succ_of_le hfirst) (Nat.le_succ _)).mono (by
        unfold nextVersion
        omega)

/-- What is stored under an occupied key is the object that was there at the start. -/
theorem carried_serve (hs : s.All Object.Registered) {requests : List (Request k)}
    (ho : s.objects.get? key = some o) (hlasts : s.Lasts key requests) :
    ∃ o', (s.serve requests).objects.get? key = some o' ∧
      o.Carried (s.edits key requests) o' := by
  induction requests generalizing s o with
  | nil => exact ⟨o, ho, .refl o⟩
  | cons r rest ih =>
    obtain ⟨-, hrest⟩ := lasts_cons.1 hlasts
    obtain ⟨o₁, ho₁⟩ := Option.isSome_iff_exists.1 (hrest [] List.nil_prefix)
    have hturned := turned_after s key r
    rw [ho, show (s.after r).objects.get? key = some o₁ from ho₁] at hturned
    have hstep := hturned.carried (hs key o ho).counted
    obtain ⟨o', ho', hcarried⟩ := ih ((later_after s r).registered hs) ho₁ hrest
    exact ⟨o', ho', hstep.trans hcarried⟩

/-- What is stored under a key that was vacant in between was created since. -/
theorem issued_of_not_lasts {requests : List (Request k)} (h : ¬ s.Lasts key requests) :
    ∀ o, (s.serve requests).objects.get? key = some o →
      Issued s.lastVersion (s.serve requests).lastVersion o := by
  obtain ⟨done, ⟨rest, rfl⟩, hvacant⟩ : ∃ done, done <+: requests ∧
      (s.serve done).objects.get? key = none := by
    simpa [Lasts] using h
  rw [serve_append]
  refine issued_serve (later_serve s done).advanced.last (fun o ho => ?_) rest
  rw [hvacant] at ho
  cases ho

/-- What the store sees to during an object's life, from the moment `s` on. -/
structure Lifetime (key : Key) (o : Object k) (s : Store k) (requests : List (Request k)) : Prop where
  enrolled : o.Enrolled key
  /-- As long as the key is occupied the object keeps its marks, and its generation counts the
  edits. -/
  carried : s.Lasts key requests → ∃ o', (s.serve requests).objects.get? key = some o' ∧
    o.Carried (s.edits key requests) o'
  /-- Once it is removed its identity does not come back. -/
  unique : ∀ o', (s.serve requests).objects.get? key = some o' →
    (o'.metadata.uid = o.metadata.uid ↔ s.Lasts key requests)

end

/-- The life of a stored object, whatever requests led to it and whatever requests follow. -/
theorem lifetime_of_stored {past since : List (Request k)} {key : Key} {o : Object k}
    (ho : (serve {} past).objects.get? key = some o) :
    Lifetime key o (serve {} past) since := by
  have hreached : Reached (serve ({} : Store k) past) := later_serve {} past
  have hissued : ∀ o, (serve {} past).objects.get? key = some o →
      Issued 0 (serve ({} : Store k) past).lastVersion o :=
    issued_serve (Nat.le_refl _) (fun _ h => by cases h) past
  generalize serve ({} : Store k) past = s at ho hreached hissued ⊢
  obtain ⟨⟨n, -, hn, huid⟩, hcreated, hpositive⟩ := hissued o ho
  obtain ⟨v, -, hversion⟩ := hreached.numbered.stamped key o ho
  refine ⟨⟨hreached.registered key o ho, hcreated, ⟨_, hversion⟩, hpositive⟩,
    carried_serve hreached.registered ho, fun o' ho' => ⟨fun hsame => ?_, fun hlasts => ?_⟩⟩
  · refine Classical.byContradiction fun hvacated => ?_
    obtain ⟨⟨n', hlt, -, huid'⟩, -, -⟩ := issued_of_not_lasts hvacated o' ho'
    have heq : n' = n := uid_injective (Option.some.inj (huid'.symm.trans (hsame.trans huid)))
    omega
  · obtain ⟨o₁, ho₁, hcarried⟩ := carried_serve hreached.registered ho hlasts
    obtain rfl : o₁ = o' := Option.some.inj (ho₁.symm.trans ho')
    exact hcarried.uid

namespace Lifetime.Sample

def tool : Tool where
  metadata := { name := some "falco", ns := some "ops", finalizers := some ["ops/guard"] }
  spec := { type := "falco", enabled := true }

def key : Key := ⟨"ops", "falco"⟩

/-- The tool is created and marked for deletion. -/
def past : List (Request .tool) := [.create ⟨60, 5⟩ tool, .delete ⟨90, 7⟩ key]

def leaving : Tool := ((serve {} past).objects.get? key).getD tool

/-- A caller edits the spec and passes marks of its own; another one publishes a status. -/
def since : List (Request .tool) :=
  [.replace { tool with
      metadata := { tool.metadata with
        uid := some "mine", generation := some 7, creationTimestamp := some ⟨0, 0⟩ }
      spec := { tool.spec with enabled := false } },
    .replaceStatus { tool with status := some { installed := true, healthy := true } },
    .delete ⟨120, 0⟩ key]

end Lifetime.Sample

/-- The tool is marked for deletion and stays until its finalizer is gone: one edit is counted, and
of what the callers pass for marks nothing is taken. -/
theorem lifetime_sample :
    (serve {} Lifetime.Sample.past).objects.get? Lifetime.Sample.key =
        some Lifetime.Sample.leaving ∧
      Lifetime.Sample.leaving.metadata.deletionTimestamp = some ⟨90, 7⟩ ∧
      (serve {} Lifetime.Sample.past).edits Lifetime.Sample.key Lifetime.Sample.since = 1 ∧
      Lifetime Lifetime.Sample.key Lifetime.Sample.leaving (serve {} Lifetime.Sample.past)
        Lifetime.Sample.since := by
  have hstored : (serve {} Lifetime.Sample.past).objects.get? Lifetime.Sample.key =
      some Lifetime.Sample.leaving := rfl
  exact ⟨hstored, rfl, by decide +kernel, lifetime_of_stored hstored⟩

end Store

end PolicyOperator
