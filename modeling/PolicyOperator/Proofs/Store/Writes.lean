import PolicyOperator.Proofs.Computation

/-!
# What a write does to a store

One statement for each operation says when it succeeds, what it answers and which store it leaves
(`create_eq_ok_iff`, `replace_eq_ok_iff`, `replaceStatus_eq_ok_iff`, `delete_eq_ok_iff`); the
look-ups after it follow (`get?_create`, `get?_replace`, `get?_replaceStatus`, and for a deletion
`withdrawn_deletion` and `get?_deletion_of_ne`). All other proofs use these and do not open the
operations.
-/

namespace PolicyOperator

variable {k : ResourceKind}

attribute [ext] Key

namespace Object

theorem key_eq_ok_iff {o : Object k} {key : Key} :
    o.key = .ok key ↔ o.metadata.name = some key.name ∧ o.metadata.ns = some key.ns := by
  unfold Object.key
  rcases o.metadata.name with _ | name <;> rcases o.metadata.ns with _ | ns <;> cases key <;> simp
  exact and_comm

/-- The key is made of name and namespace alone. -/
theorem key_congr {o o' : Object k} (hname : o'.metadata.name = o.metadata.name)
    (hns : o'.metadata.ns = o.metadata.ns) : o'.key = o.key := by
  unfold key
  rw [hname, hns]

theorem displayName_of_key {o : Object k} {key : Key} (h : o.key = .ok key) :
    o.displayName = key.name := by
  simp [displayName, Metadata.displayName, (key_eq_ok_iff.1 h).1]

theorem nsOrEmpty_of_key {o : Object k} {key : Key} (h : o.key = .ok key) :
    o.metadata.nsOrEmpty = key.ns := by
  simp [Metadata.nsOrEmpty, (key_eq_ok_iff.1 h).2]

theorem ownerReference?_eq_some_iff {o : Object k} {owner : OwnerReference} :
    o.ownerReference? = some owner ↔ ∃ name uid, o.metadata.name = some name ∧
      o.metadata.uid = some uid ∧
      owner = { apiVersion := k.apiVersion, kind := k.name, name := name, uid := uid } := by
  unfold ownerReference?
  rcases o.metadata.name with _ | name <;> rcases o.metadata.uid with _ | uid <;>
    simp [eq_comm]

end Object

namespace Store

/-! ## Checks -/

theorem checkWritable_eq_ok_iff {s : Store k} {verb : String} {u : Unit} :
    s.checkWritable verb = .ok u ↔ s.failing = false := by
  unfold checkWritable
  cases s.failing <;> simp

theorem current_eq_ok_iff {s : Store k} {key : Key} {o : Object k} :
    s.current key = .ok o ↔ s.objects.get? key = some o := by
  unfold current
  cases s.objects.get? key <;> simp

theorem checkVersion_eq_ok_iff {current incoming : Object k} {name : String} {u : Unit} :
    checkVersion current incoming name = .ok u ↔
      ∀ v, incoming.metadata.resourceVersion = some v →
        current.metadata.resourceVersion = some v := by
  unfold checkVersion
  cases incoming.metadata.resourceVersion with
  | none => simp
  | some v => by_cases h : current.metadata.resourceVersion = some v <;> simp [h]

/-! ## The operations -/

variable {s s' : Store k} {now : Instant} {o o' : Object k}

theorem create_eq_ok_iff :
    s.create now o = .ok (o', s') ↔
      s.failing = false ∧ ∃ key, o.key = .ok key ∧ s.objects.get? key = none ∧
        o' = created o now s.nextVersion ∧ s' = s.written (s.objects.insert key o') := by
  simp only [create, bind_eq_ok_iff, checkWritable_eq_ok_iff]
  constructor
  · rintro ⟨-, hw, key, hkey, h⟩
    split at h
    · exact absurd h throw_ne_ok
    · next hnone =>
      cases h
      exact ⟨hw, key, hkey, by simpa [SortedMap.contains] using hnone, rfl, rfl⟩
  · rintro ⟨hw, key, hkey, hnone, rfl, rfl⟩
    exact ⟨⟨⟩, hw, key, hkey, by simp [SortedMap.contains, hnone]; rfl⟩

theorem replace_eq_ok_iff :
    s.replace o = .ok (o', s') ↔
      s.failing = false ∧ ∃ key current, o.key = .ok key ∧ s.objects.get? key = some current ∧
        (∀ v, o.metadata.resourceVersion = some v → current.metadata.resourceVersion = some v) ∧
        o' = replacement current o s.nextVersion ∧ s' = s.written (s.settled key o') := by
  simp only [replace, bind_eq_ok_iff, checkWritable_eq_ok_iff, current_eq_ok_iff,
    checkVersion_eq_ok_iff]
  constructor
  · rintro ⟨-, hw, key, hkey, current, hcur, -, hv, h⟩
    cases h
    exact ⟨hw, key, current, hkey, hcur, hv, rfl, rfl⟩
  · rintro ⟨hw, key, current, hkey, hcur, hv, rfl, rfl⟩
    exact ⟨⟨⟩, hw, key, hkey, current, hcur, ⟨⟩, hv, rfl⟩

theorem replaceStatus_eq_ok_iff :
    s.replaceStatus o = .ok (o', s') ↔
      s.failing = false ∧ ∃ key current, o.key = .ok key ∧ s.objects.get? key = some current ∧
        (∀ v, o.metadata.resourceVersion = some v → current.metadata.resourceVersion = some v) ∧
        o' = withStatus current o s.nextVersion ∧
        s' = s.written (s.objects.insert key o') := by
  simp only [replaceStatus, bind_eq_ok_iff, checkWritable_eq_ok_iff, current_eq_ok_iff,
    checkVersion_eq_ok_iff]
  constructor
  · rintro ⟨-, hw, key, hkey, current, hcur, -, hv, h⟩
    cases h
    exact ⟨hw, key, current, hkey, hcur, hv, rfl, rfl⟩
  · rintro ⟨hw, key, current, hkey, hcur, hv, rfl, rfl⟩
    exact ⟨⟨⟩, hw, key, hkey, current, hcur, ⟨⟩, hv, rfl⟩

theorem delete_eq_ok_iff {ns name : String} {b : Bool} :
    s.delete now ns name = .ok (b, s') ↔
      s.failing = false ∧ b = s.objects.contains ⟨ns, name⟩ ∧ s' = s.deletion now ⟨ns, name⟩ := by
  simp only [delete, bind_eq_ok_iff, checkWritable_eq_ok_iff]
  constructor
  · rintro ⟨-, hw, h⟩
    cases h
    exact ⟨hw, rfl, rfl⟩
  · rintro ⟨hw, rfl, rfl⟩
    exact ⟨⟨⟩, hw, rfl⟩

/-! ## What is filed -/

section
variable (current incoming o : Object k) (version : Nat) (now : Instant)

@[simp] theorem status_created : (created o now version).status = o.status := rfl

@[simp] theorem name_replacement :
    (replacement current incoming version).metadata.name = incoming.metadata.name := rfl
@[simp] theorem ns_replacement :
    (replacement current incoming version).metadata.ns = incoming.metadata.ns := rfl
@[simp] theorem labels_replacement :
    (replacement current incoming version).metadata.labels = incoming.metadata.labels := rfl
@[simp] theorem guards_replacement :
    (replacement current incoming version).metadata.guards = incoming.metadata.guards := rfl
@[simp] theorem isDeleting_replacement :
    (replacement current incoming version).metadata.isDeleting = current.metadata.isDeleting := rfl
@[simp] theorem uid_replacement :
    (replacement current incoming version).metadata.uid = current.metadata.uid := rfl
@[simp] theorem generation_replacement :
    (replacement current incoming version).metadata.generation =
      some (if k.sameSpec current.spec (k.specWholeSeconds incoming.spec) then
        current.metadata.generation.getD 1 else current.metadata.generation.getD 1 + 1) := rfl
@[simp] theorem spec_replacement :
    (replacement current incoming version).spec = k.specWholeSeconds incoming.spec := rfl
@[simp] theorem status_replacement :
    (replacement current incoming version).status = current.status.map k.statusWholeSeconds := rfl

@[simp] theorem guards_withStatus :
    (withStatus current incoming version).metadata.guards = current.metadata.guards := rfl
@[simp] theorem isDeleting_withStatus :
    (withStatus current incoming version).metadata.isDeleting = current.metadata.isDeleting := by
  simp [withStatus, Object.wholeSeconds, Metadata.wholeSeconds, Metadata.isDeleting]
@[simp] theorem uid_withStatus :
    (withStatus current incoming version).metadata.uid = current.metadata.uid := rfl

@[simp] theorem guards_marked : (marked o now version).metadata.guards = o.metadata.guards := rfl
@[simp] theorem isDeleting_marked : (marked o now version).metadata.isDeleting = true := rfl

end

/-! ## Look-ups after a write -/

/-- What a replacement leaves under its key: an object that is being deleted goes once it has no
finalizers. -/
def remaining (next : Object k) : Option (Object k) :=
  if next.metadata.isDeleting && !next.metadata.isGuarded then none else some next

theorem eq_of_remaining {next : Object k} (h : remaining next = some o) : o = next := by
  unfold remaining at h
  split at h <;> cases h
  rfl

theorem get?_settled (s : Store k) (key key' : Key) (next : Object k) :
    (s.settled key next).get? key' =
      if key' = key then remaining next else s.objects.get? key' := by
  unfold settled remaining
  split
  · rw [SortedMap.get?_erase]
  · rw [SortedMap.get?_insert]

/-- What a deletion makes of what is stored under its key. -/
inductive Withdrawn : Option (Object k) → Option (Object k) → Prop
  | absent : Withdrawn none none
  | gone {o : Object k} : o.metadata.isGuarded = false → Withdrawn (some o) none
  | marked {o : Object k} (now : Instant) (version : Nat) : o.metadata.isGuarded = true →
      o.metadata.isDeleting = false → Withdrawn (some o) (some (marked o now version))
  | kept {o : Object k} : o.metadata.isGuarded = true → o.metadata.isDeleting = true →
      Withdrawn (some o) (some o)

namespace Withdrawn

theorem trans {a b c : Option (Object k)} (h : Withdrawn a b) (h' : Withdrawn b c) :
    Withdrawn a c := by
  cases h with
  | absent => exact h'
  | gone hg => cases h'; exact .gone hg
  | kept hg hd => exact h'
  | marked now version hg hd =>
    cases h' with
    | gone h => exact absurd hg (by simpa [Metadata.isGuarded] using h)
    | marked _ _ _ h => simp at h
    | kept _ _ => exact .marked now version hg hd

/-- Nothing comes of nothing. -/
theorem of_none {o? : Option (Object k)} (h : Withdrawn none o?) : o? = none := by
  cases h
  rfl

/-- What is left was there before, and is marked at most. -/
theorem of_some {o? : Option (Object k)} {o' : Object k} (h : Withdrawn o? (some o')) :
    ∃ o, o? = some o ∧ (o' = o ∧ o.metadata.isDeleting = true ∨
      ∃ now version, o' = Store.marked o now version) := by
  cases h with
  | marked now version _ _ => exact ⟨_, rfl, .inr ⟨now, version, rfl⟩⟩
  | kept _ hd => exact ⟨_, rfl, .inl ⟨rfl, hd⟩⟩

/-- What is left waits for a finalizer and is being deleted. -/
theorem leaving {o? : Option (Object k)} {o' : Object k} (h : Withdrawn o? (some o')) :
    o'.metadata.isGuarded = true ∧ o'.metadata.isDeleting = true := by
  cases h with
  | marked _ _ hguarded _ => exact ⟨hguarded, rfl⟩
  | kept hguarded hdeleting => exact ⟨hguarded, hdeleting⟩

/-- What is left is filed as it was. -/
theorem filed {o? : Option (Object k)} {o' : Object k} {key : Key} (h : Withdrawn o? (some o'))
    (hfiled : ∀ o, o? = some o → o.key = .ok key) : o'.key = .ok key := by
  cases h with
  | @marked o _ _ => exact (Object.key_congr (o := o) rfl rfl).trans (hfiled o rfl)
  | kept => exact hfiled _ rfl

/-- What is being deleted and waits for a finalizer is left as it is. -/
theorem eq_of_leaving {o : Object k} {o? : Option (Object k)} (h : Withdrawn (some o) o?)
    (hg : o.metadata.isGuarded = true) (hd : o.metadata.isDeleting = true) : o? = some o := by
  cases h with
  | gone h => simp [hg] at h
  | marked _ _ _ h => simp [hd] at h
  | kept _ _ => rfl

/-- Of an object without finalizers nothing is left. -/
theorem eq_none {o : Object k} {o? : Option (Object k)} (h : Withdrawn (some o) o?)
    (hg : o.metadata.isGuarded = false) : o? = none := by
  cases h with
  | gone _ => rfl
  | marked _ _ h _ => simp [hg] at h
  | kept h _ => simp [hg] at h

end Withdrawn

theorem withdrawn_deletion (s : Store k) (now : Instant) (key : Key) :
    Withdrawn (s.objects.get? key) ((s.deletion now key).objects.get? key) := by
  unfold deletion
  cases hcur : s.objects.get? key with
  | none => simpa [hcur] using Withdrawn.absent
  | some current =>
    simp only
    split
    · next hg =>
      rw [SortedMap.get?_erase, if_pos rfl]
      exact .gone (by simpa using hg)
    · next hg =>
      split
      · next hd =>
        rw [hcur]
        exact .kept (by simpa using hg) hd
      · next hd =>
        simp only [written, SortedMap.get?_insert, if_true]
        exact .marked _ _ (by simpa using hg) (by simpa using hd)

theorem get?_deletion_of_ne (s : Store k) (now : Instant) {key key' : Key} (h : key' ≠ key) :
    (s.deletion now key).objects.get? key' = s.objects.get? key' := by
  unfold deletion
  split
  · rfl
  · split
    · simp [SortedMap.get?_erase, h]
    · split
      · rfl
      · simp [written, SortedMap.get?_insert, h]

theorem get?_create (h : s.create now o = .ok (o', s')) {key : Key} (hkey : o.key = .ok key)
    (key' : Key) :
    s'.objects.get? key' = if key' = key then some o' else s.objects.get? key' := by
  obtain ⟨-, key0, hkey0, -, -, rfl⟩ := create_eq_ok_iff.1 h
  obtain rfl : key0 = key := by simpa [hkey0] using hkey
  exact SortedMap.get?_insert ..

theorem get?_replace (h : s.replace o = .ok (o', s')) {key : Key} (hkey : o.key = .ok key)
    (key' : Key) :
    s'.objects.get? key' = if key' = key then remaining o' else s.objects.get? key' := by
  obtain ⟨-, key0, current, hkey0, -, -, -, rfl⟩ := replace_eq_ok_iff.1 h
  obtain rfl : key0 = key := by simpa [hkey0] using hkey
  exact get?_settled ..

theorem get?_replaceStatus (h : s.replaceStatus o = .ok (o', s')) {key : Key}
    (hkey : o.key = .ok key) (key' : Key) :
    s'.objects.get? key' = if key' = key then some o' else s.objects.get? key' := by
  obtain ⟨-, key0, current, hkey0, -, -, -, rfl⟩ := replaceStatus_eq_ok_iff.1 h
  obtain rfl : key0 = key := by simpa [hkey0] using hkey
  exact SortedMap.get?_insert ..

/-! ## What holds of every stored object -/

/-- `P` holds of every stored object and the key that it is stored under. -/
def All (P : Key → Object k → Prop) (s : Store k) : Prop :=
  ∀ key o, s.objects.get? key = some o → P key o

theorem All.mono {P Q : Key → Object k → Prop} (h : s.All P) (hP : ∀ key o, P key o → Q key o) :
    s.All Q :=
  fun key o ho => hP key o (h key o ho)

end Store

end PolicyOperator
