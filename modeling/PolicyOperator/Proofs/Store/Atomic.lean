import PolicyOperator.Proofs.Store.Requests
import PolicyOperator.Proofs.Wire.Objects

/-!
# Writes step by step

A write goes in steps: it makes its checks, takes the object through its wire form, draws a version,
files the object and counts. `Write.steps` takes these steps on the store itself, one after the
other; a step that fails stops the write, and what was done before it stays done. Taking an object
through its wire form may fail of any object (`Encoding`).

The theorem (`atomic_steps`): a write is refused exactly for one of the reasons that `Refused`
lists, and then the store is as it was, versions and count included. A deletion of what is not there
does nothing either. Any other write counts once and touches its own key alone (`Touched`).

* All that may fail comes before the first step that changes the store, so a refusal finds the
  store untouched (`ends_target`, and one lemma for each operation: `atomic_create`,
  `atomic_replace`, `atomic_replaceStatus`, `atomic_delete`).
* The steps come to the operations of the store (`steps_direct`). There the wire form is passed by,
  which makes no difference to objects in range (`steps_wire`).
-/

namespace PolicyOperator

variable {k : ResourceKind}

/-- A write that a client asks for. -/
inductive Write (k : ResourceKind) where
  | create (now : Instant) (o : Object k)
  | replace (o : Object k)
  | replaceStatus (o : Object k)
  | delete (now : Instant) (key : Key)

/-- What a write is answered with: the object as it was written, or whether it was there. -/
inductive Answer (k : ResourceKind) where
  | object (o : Object k)
  | deleted (found : Bool)

/-- How objects go through their wire form, which may fail. -/
structure Encoding (k : ResourceKind) where
  /-- An object with the status of another one. -/
  withStatusOf : Object k → Object k → Except Error (Object k)
  /-- Two objects ask for the same. -/
  sameSpec : Object k → Object k → Except Error Bool

namespace Encoding

/-- Objects are written, the status is put in place, and the object is read again. -/
def wire (k : ResourceKind) : Encoding k where
  withStatusOf o source :=
    match Object.ofJson? k (o.toJson.withFieldOf "status" source.toJson) with
    | some o => .ok o
    | none => .error (.json s!"{k.name} does not decode")
  sameSpec a b := .ok (k.sameSpec a.spec b.spec)

/-- What comes of it, without writing and reading. -/
def direct (k : ResourceKind) : Encoding k where
  withStatusOf o source := .ok { o with status := source.status }.wholeSeconds
  sameSpec a b := .ok (k.sameSpec a.spec b.spec)

end Encoding

/-- A computation on a store. What it did before it failed stays done. -/
abbrev StoreM (k : ResourceKind) := ExceptT Error (StateM (Store k))

namespace StoreM

/-- Hands out the next version. -/
def drawVersion : StoreM k Nat := do
  let s ← get
  set { s with lastVersion := s.nextVersion }
  return s.nextVersion

def countWrite : StoreM k PUnit := modify fun s => { s with writes := s.writes + 1 }

/-- Changes what is stored. -/
def file (f : SortedMap Key (Object k) → SortedMap Key (Object k)) : StoreM k PUnit :=
  modify fun s => { s with objects := f s.objects }

/-- An outcome of the store: after a failure the store stays in place. -/
def served {α : Type} (outcome : Except Error (α × Store k)) (s : Store k) :
    Except Error α × Store k :=
  match outcome with
  | .ok (a, s') => (.ok a, s')
  | .error e => (.error e, s)

/-- The stored object that an update goes to, and its key. -/
def target (verb : String) (o : Object k) : StoreM k (Key × Object k) := do
  (← get).checkWritable verb
  let key ← o.key
  let current ← (← get).current key
  Store.checkVersion current o key.name
  return (key, current)

end StoreM

namespace Write

open StoreM

def verb : Write k → String
  | .create .. => "create"
  | .replace _ => "replace"
  | .replaceStatus _ => "replace status"
  | .delete .. => "delete"

/-- The key that a write goes to. -/
def key : Write k → Except Error Key
  | .create _ o | .replace o | .replaceStatus o => o.key
  | .delete _ key => .ok key

/-- The object that an update brings. -/
def update? : Write k → Option (Object k)
  | .replace o | .replaceStatus o => some o
  | .create .. | .delete .. => none

/-- The object that an update files, taken through its wire form. -/
def encoded (enc : Encoding k) (current : Object k) : Write k → Except Error (Object k)
  | .replace o => do
    let next ← enc.withStatusOf o current
    (enc.sameSpec current next).map fun _ => next
  | .replaceStatus o => enc.withStatusOf current o
  | .create _ o => .ok o
  | .delete .. => .ok current

/-- The store's marks on an object that takes the place of another one. -/
def remarked (current next : Object k) (same : Bool) (version : Nat) : Object k :=
  let generation := current.metadata.generation.getD 1
  { next with metadata := { next.metadata with
    uid := current.metadata.uid
    creationTimestamp := current.metadata.creationTimestamp
    deletionTimestamp := current.metadata.deletionTimestamp
    generation := some (if same then generation else generation + 1)
    resourceVersion := some (toString version) } }

/-- The steps of a write. -/
def steps (enc : Encoding k) : Write k → StoreM k (Answer k)
  | .create now o => do
    (← get).checkWritable "create"
    let key ← o.key
    if (← get).objects.contains key then
      throw (.conflict k.name key.name "already exists")
    else do
      let version ← drawVersion
      let stored := Store.created o now version
      file fun objects => objects.insert key stored
      countWrite
      return .object stored
  | .replace o => do
    let (key, current) ← target "replace" o
    let next ← enc.withStatusOf o current
    let same ← enc.sameSpec current next
    let version ← drawVersion
    let next := remarked current next same version
    countWrite
    file fun objects =>
      if next.metadata.isDeleting && !next.metadata.isGuarded then objects.erase key
      else objects.insert key next
    return .object next
  | .replaceStatus o => do
    let (key, current) ← target "replace status" o
    let next ← enc.withStatusOf current o
    let version ← drawVersion
    let next := { next with metadata := { next.metadata with
      resourceVersion := some (toString version) } }
    file fun objects => objects.insert key next
    countWrite
    return .object next
  | .delete now key => do
    (← get).checkWritable "delete"
    match (← get).objects.get? key with
    | none => return .deleted false
    | some current =>
      if current.metadata.isGuarded then
        if !current.metadata.isDeleting then
          let version ← drawVersion
          file fun objects => objects.insert key (Store.marked current now version)
      else
        file fun objects => objects.erase key
      countWrite
      return .deleted true

/-- The operation of the store. -/
def operation (s : Store k) : Write k → Except Error (Answer k × Store k)
  | .create now o => (s.create now o).map fun (o, t) => (.object o, t)
  | .replace o => (s.replace o).map fun (o, t) => (.object o, t)
  | .replaceStatus o => (s.replaceStatus o).map fun (o, t) => (.object o, t)
  | .delete now key => (s.delete now key.ns key.name).map fun (found, t) => (.deleted found, t)

/-- The operation as it is served. -/
def run (w : Write k) : StoreM k (Answer k) := fun s => served (w.operation s) s

def request : Write k → Request k
  | .create now o => .create now o
  | .replace o => .replace o
  | .replaceStatus o => .replaceStatus o
  | .delete now key => .delete now key

end Write

namespace Store

open Write StoreM

/-! ## Reasons for a refusal -/

/-- The write is to update an object that is stored. -/
structure Meets (s : Store k) (w : Write k) (o : Object k) (key : Key) (current : Object k) :
    Prop where
  working : s.failing = false
  update : w.update? = some o
  keyed : o.key = .ok key
  stored : s.objects.get? key = some current

/-- Why a write is refused. Of several reasons the first one counts. -/
inductive Refused (enc : Encoding k) (s : Store k) : Write k → Error → Prop
  | failing (w : Write k) : s.failing = true →
      Refused enc s w (.transient s!"{w.verb} {k.name}" "injected failure")
  | unplaced {w : Write k} {e : Error} : s.failing = false → w.key = .error e → Refused enc s w e
  | taken {now : Instant} {o : Object k} {key : Key} : s.failing = false → o.key = .ok key →
      (s.objects.get? key).isSome →
      Refused enc s (.create now o) (.conflict k.name key.name "already exists")
  | missing {w : Write k} {o : Object k} {key : Key} : s.failing = false → w.update? = some o →
      o.key = .ok key → s.objects.get? key = none → Refused enc s w (.notFound k.name key.name)
  | outdated {w : Write k} {o current : Object k} {key : Key} {version : String} :
      Meets s w o key current → o.metadata.resourceVersion = some version →
      current.metadata.resourceVersion ≠ some version →
      Refused enc s w (.conflict k.name key.name "the object has been modified")
  | unreadable {w : Write k} {o current : Object k} {key : Key} {e : Error} :
      Meets s w o key current →
      (∀ version, o.metadata.resourceVersion = some version →
        current.metadata.resourceVersion = some version) →
      w.encoded enc current = .error e → Refused enc s w e

/-- A write was counted, and at most what is stored under its key changed. -/
structure Touched (key : Key) (s s' : Store k) : Prop where
  writes : s'.writes = s.writes + 1
  others : ∀ key', key' ≠ key → s'.objects.get? key' = s.objects.get? key'
  failing : s'.failing = s.failing
  version : s'.lastVersion = s.lastVersion ∨ s'.lastVersion = s.lastVersion + 1

/-- All of a write is done, or nothing. -/
inductive Atomic (enc : Encoding k) (s : Store k) :
    Write k → Except Error (Answer k) → Store k → Prop
  | refused {w : Write k} {e : Error} : Refused enc s w e → Atomic enc s w (.error e) s
  | absent (now : Instant) {key : Key} : s.failing = false → s.objects.get? key = none →
      Atomic enc s (.delete now key) (.ok (.deleted false)) s
  | done {w : Write k} {answer : Answer k} {key : Key} {s' : Store k} :
      (∀ e, ¬ Refused enc s w e) → answer ≠ .deleted false → w.key = .ok key →
      Touched key s s' → Atomic enc s w (.ok answer) s'

/-! ## The steps -/

/-- What follows on a computation matters where that computation succeeds. -/
theorem run_bind_congr {σ α β : Type} {x : ExceptT Error (StateM σ) α} {s : σ}
    {done : α → σ → Prop} {failed : Error → σ → Prop} {f g : α → ExceptT Error (StateM σ) β}
    (h : Ends x s done failed) (hfg : ∀ a s', done a s' → f a s' = g a s') :
    (x >>= f) s = (x >>= g) s := by
  rw [run_bind, run_bind]
  rcases hx : x s with ⟨e | a, s'⟩
  · rfl
  · exact hfg a s' (h.ok hx)

section
variable {enc : Encoding k} {s : Store k} {w : Write k} {o current next : Object k} {key : Key}

theorem object_ne_deleted (o : Object k) (found : Bool) : Answer.object o ≠ .deleted found := nofun

theorem key_of_update (h : w.update? = some o) : w.key = o.key := by
  cases w <;> cases h <;> rfl

theorem checkWritable_eq_error_iff {verb : String} {e : Error} :
    s.checkWritable verb = .error e ↔
      s.failing = true ∧ e = .transient s!"{verb} {k.name}" "injected failure" := by
  unfold checkWritable
  cases s.failing <;> simp [eq_comm]

theorem current_eq_error_iff {e : Error} :
    s.current key = .error e ↔ s.objects.get? key = none ∧ e = .notFound k.name key.name := by
  unfold Store.current
  cases s.objects.get? key <;> simp [eq_comm]

theorem checkVersion_eq_error_iff {name : String} {e : Error} :
    checkVersion current o name = .error e ↔
      (∃ version, o.metadata.resourceVersion = some version ∧
        current.metadata.resourceVersion ≠ some version) ∧
      e = .conflict k.name name "the object has been modified" := by
  unfold checkVersion
  cases o.metadata.resourceVersion with
  | none => simp
  | some version =>
    by_cases h : current.metadata.resourceVersion = some version <;> simp [h, eq_comm]

/-- Looking for the object of an update changes nothing, and fails for the reasons up to
`outdated`. -/
theorem ends_target (enc : Encoding k) (hw : w.update? = some o) :
    Ends (target w.verb o) s
      (fun found s' => s' = s ∧ Meets s w o found.1 found.2 ∧
        ∀ version, o.metadata.resourceVersion = some version →
          found.2.metadata.resourceVersion = some version)
      fun e s' => s' = s ∧ Refused enc s w e := by
  simp only [target, ends_bind, ends_get, ends_liftM, ends_pure, true_and]
  split
  · next hworking =>
    have hworking := checkWritable_eq_ok_iff.1 hworking
    split
    · next key hkey =>
      split
      · next current hcurrent =>
        have hmeets : Meets s w o key current :=
          ⟨hworking, hw, hkey, current_eq_ok_iff.1 hcurrent⟩
        split
        · next hversion => exact ⟨hmeets, checkVersion_eq_ok_iff.1 hversion⟩
        · next hversion =>
          obtain ⟨⟨version, ho, hne⟩, rfl⟩ := checkVersion_eq_error_iff.1 hversion
          exact .outdated hmeets ho hne
      · next hcurrent =>
        obtain ⟨hnone, rfl⟩ := current_eq_error_iff.1 hcurrent
        exact .missing hworking hw hkey hnone
    · next hkey => exact .unplaced hworking (by rwa [key_of_update hw])
  · next hrefused =>
    obtain ⟨hfailing, rfl⟩ := checkWritable_eq_error_iff.1 hrefused
    exact .failing w hfailing

/-- An update that finds its object and gets it through the wire form is not refused. -/
theorem Meets.not_refused (h : Meets s w o key current)
    (hversion : ∀ version, o.metadata.resourceVersion = some version →
      current.metadata.resourceVersion = some version)
    (hencoded : w.encoded enc current = .ok next) (e : Error) : ¬ Refused enc s w e := by
  have hfound : ∀ {key' current'}, Meets s w o key' current' → key' = key ∧ current' = current := by
    intro key' current' h'
    obtain rfl : key' = key := by simpa [h.keyed] using h'.keyed.symm
    exact ⟨rfl, Option.some.inj (h'.stored.symm.trans h.stored)⟩
  have hupdate : ∀ {o'}, w.update? = some o' → o' = o := fun ho' =>
    Option.some.inj (ho'.symm.trans h.update)
  intro hr
  cases hr with
  | failing _ hfailing => simp [h.working] at hfailing
  | unplaced _ hkey => simp [key_of_update h.update, h.keyed] at hkey
  | taken => cases h.update
  | missing _ ho' hkey hnone =>
    obtain rfl := hupdate ho'
    obtain rfl := Except.ok.inj (hkey.symm.trans h.keyed)
    simp [h.stored] at hnone
  | outdated h' hv hne =>
    obtain rfl := hupdate h'.update
    obtain ⟨rfl, rfl⟩ := hfound h'
    exact hne (hversion _ hv)
  | unreadable h' _ he =>
    obtain rfl := hupdate h'.update
    obtain ⟨rfl, rfl⟩ := hfound h'
    simp [hencoded] at he

/-! Each operation makes its checks first. Where they are passed, what is left are the lookups of
other keys. -/

theorem atomic_create (now : Instant) (o : Object k) :
    Ends ((Write.create now o).steps enc) s (fun a => Atomic enc s (.create now o) (.ok a))
      fun e => Atomic enc s (.create now o) (.error e) := by
  simp only [steps, ends_bind, ends_get, ends_liftM]
  split
  · next hworking =>
    have hworking := checkWritable_eq_ok_iff.1 hworking
    split
    · next key hkey =>
      split
      · next htaken => exact .refused (.taken hworking hkey htaken)
      · next hfree =>
        refine .done (fun e hr => ?_) (object_ne_deleted _ _) hkey
          ⟨rfl, fun key' hne => ?_, rfl, .inr rfl⟩
        · cases hr with
          | failing _ hfailing => simp [hworking] at hfailing
          | unplaced _ he =>
            rw [show (Write.create now o).key = o.key from rfl, hkey] at he
            cases he
          | taken _ hkey' htaken =>
            obtain rfl := Except.ok.inj (hkey'.symm.trans hkey)
            exact hfree htaken
          | missing _ hupdate => cases hupdate
          | outdated hmeets => cases hmeets.update
          | unreadable hmeets => cases hmeets.update
        · exact (SortedMap.get?_insert ..).trans (if_neg hne)
    · next hkey => exact .refused (.unplaced hworking hkey)
  · next hrefused =>
    obtain ⟨hfailing, rfl⟩ := checkWritable_eq_error_iff.1 hrefused
    exact .refused (.failing _ hfailing)

theorem atomic_replace (o : Object k) :
    Ends ((Write.replace o).steps enc) s (fun a => Atomic enc s (.replace o) (.ok a))
      fun e => Atomic enc s (.replace o) (.error e) := by
  simp only [steps, ends_bind]
  refine (ends_target (w := .replace o) enc rfl).mono (fun found s' h => ?_) fun e s' h => ?_
  · obtain ⟨key, current⟩ := found
    obtain ⟨rfl, hmeets, hversion⟩ := h
    simp only [ends_liftM]
    split
    · next next hnext =>
      split
      · next same hsame =>
        have hencoded : (Write.replace o).encoded enc current = .ok next := by
          simp only [encoded, hnext, bind, Except.bind, hsame, Except.map]
        refine .done (hmeets.not_refused hversion hencoded) (object_ne_deleted _ _) hmeets.keyed
          ⟨rfl, fun key' hne => ?_, rfl, .inr rfl⟩
        -- the object is filed or, if it was only kept by finalizers, taken out
        show SortedMap.get? (if _ then _ else _) key' = _
        split
        · exact (SortedMap.get?_erase ..).trans (if_neg hne)
        · exact (SortedMap.get?_insert ..).trans (if_neg hne)
      · next hfails =>
        refine .refused (.unreadable hmeets hversion ?_)
        simp only [encoded, hnext, bind, Except.bind, hfails, Except.map]
    · next hfails =>
      refine .refused (.unreadable hmeets hversion ?_)
      simp only [encoded, hfails, bind, Except.bind]
  · obtain ⟨rfl, hrefused⟩ := h
    exact .refused hrefused

theorem atomic_replaceStatus (o : Object k) :
    Ends ((Write.replaceStatus o).steps enc) s
      (fun a => Atomic enc s (.replaceStatus o) (.ok a))
      fun e => Atomic enc s (.replaceStatus o) (.error e) := by
  simp only [steps, ends_bind]
  refine (ends_target (w := .replaceStatus o) enc rfl).mono (fun found s' h => ?_)
    fun e s' h => ?_
  · obtain ⟨key, current⟩ := found
    obtain ⟨rfl, hmeets, hversion⟩ := h
    simp only [ends_liftM]
    split
    · next next hnext =>
      refine .done (hmeets.not_refused hversion hnext) (object_ne_deleted _ _) hmeets.keyed
        ⟨rfl, fun key' hne => ?_, rfl, .inr rfl⟩
      exact (SortedMap.get?_insert ..).trans (if_neg hne)
    · next hfails => exact .refused (.unreadable hmeets hversion hfails)
  · obtain ⟨rfl, hrefused⟩ := h
    exact .refused hrefused

theorem atomic_delete (now : Instant) (key : Key) :
    Ends ((Write.delete now key).steps enc) s (fun a => Atomic enc s (.delete now key) (.ok a))
      fun e => Atomic enc s (.delete now key) (.error e) := by
  simp only [steps, ends_bind, ends_get, ends_liftM]
  split
  · next hworking =>
    have hworking := checkWritable_eq_ok_iff.1 hworking
    split
    · next hnone => exact .absent now hworking hnone
    · next current hcurrent =>
      have hdone : ∀ {s' : Store k}, Touched key s s' →
          Atomic enc s (.delete now key) (.ok (.deleted true)) s' := by
        intro s' h
        refine .done (fun e hr => ?_) (by simp) rfl h
        cases hr with
        | failing _ hfailing => simp [hworking] at hfailing
        | unplaced _ he => cases he
        | missing _ hupdate => cases hupdate
        | outdated hmeets => cases hmeets.update
        | unreadable hmeets => cases hmeets.update
      split
      · split
        · refine hdone ⟨rfl, fun key' hne => ?_, rfl, .inr rfl⟩
          exact (SortedMap.get?_insert ..).trans (if_neg hne)
        · exact hdone ⟨rfl, fun _ _ => rfl, rfl, .inl rfl⟩
      · refine hdone ⟨rfl, fun key' hne => ?_, rfl, .inl rfl⟩
        exact (SortedMap.get?_erase ..).trans (if_neg hne)
  · next hrefused =>
    obtain ⟨hfailing, rfl⟩ := checkWritable_eq_error_iff.1 hrefused
    exact .refused (.failing _ hfailing)

theorem ends_steps (enc : Encoding k) (w : Write k) (s : Store k) :
    Ends (w.steps enc) s (fun a => Atomic enc s w (.ok a)) fun e => Atomic enc s w (.error e) := by
  cases w with
  | create now o => exact atomic_create now o
  | replace o => exact atomic_replace o
  | replaceStatus o => exact atomic_replaceStatus o
  | delete now key => exact atomic_delete now key

/-! ## The operations -/

/-- What may fail before anything is written fails in the same way. -/
theorem run_check {α β γ : Type} {x : Except Error α} {f : α → StoreM k β} {g : α → Except Error γ}
    {h : γ → β × Store k} (hrest : ∀ a, f a s = served ((g a).map h) s) :
    ((liftM x : StoreM k α) >>= f) s = served ((x >>= g).map h) s := by
  cases x with
  | error e => rfl
  | ok a => exact hrest a

theorem run_get {α : Type} {f : Store k → StoreM k α} : ((get : StoreM k _) >>= f) s = f s s := rfl

/-- The steps come to the operation of the store. -/
theorem steps_direct (w : Write k) : w.steps (.direct k) = w.run := by
  funext s
  simp only [run, operation, Store.create, Store.replace, Store.replaceStatus, Store.delete]
  cases w with
  | create now o =>
    simp only [steps]
    refine run_get.trans (run_check fun _ => run_check fun key => run_get.trans ?_)
    cases s.objects.contains key <;> rfl
  | replace o =>
    simp only [steps, target, bind_assoc, pure_bind]
    refine run_get.trans (run_check fun _ => run_check fun key => run_get.trans ?_)
    exact run_check fun current => run_check fun _ => rfl
  | replaceStatus o =>
    simp only [steps, target, bind_assoc, pure_bind]
    refine run_get.trans (run_check fun _ => run_check fun key => run_get.trans ?_)
    exact run_check fun current => run_check fun _ => rfl
  | delete now key =>
    simp only [steps]
    -- nothing can fail any more, so what is left is what becomes of the store
    refine run_get.trans (run_check fun _ => run_get.trans ?_)
    simp only [deletion, SortedMap.contains]
    rcases s.objects.get? key with _ | current
    · rfl
    · dsimp only
      cases current.metadata.isGuarded with
      | false => rfl
      | true => cases current.metadata.isDeleting <;> rfl

theorem snd_served {α β : Type} (f : α → β) (outcome : Except Error (α × Store k)) (s : Store k) :
    (served (outcome.map fun (a, t) => (f a, t)) s).2 = s.outcome outcome := by
  rcases outcome with e | ⟨a, t⟩ <;> rfl

theorem after_request (w : Write k) (s : Store k) : s.after w.request = (w.run s).2 := by
  cases w with
  | create now o => exact (snd_served Answer.object (s.create now o) s).symm
  | replace o => exact (snd_served Answer.object (s.replace o) s).symm
  | replaceStatus o => exact (snd_served Answer.object (s.replaceStatus o) s).symm
  | delete now key => exact (snd_served Answer.deleted (s.delete now key.ns key.name) s).symm

theorem Encoding.withStatusOf_wire {o source : Object k} (h : o.Readable) (hs : source.Readable) :
    (Encoding.wire k).withStatusOf o source = (Encoding.direct k).withStatusOf o source := by
  simp only [Encoding.wire, Encoding.direct, h.ofJson?_withFieldOf hs]

theorem steps_wire (h : ∀ o, w.update? = some o → o.Readable) (hs : s.All fun _ o => o.Readable) :
    w.steps (.wire k) s = w.steps (.direct k) s := by
  cases w with
  | create => rfl
  | delete => rfl
  | replace o =>
    simp only [steps]
    refine run_bind_congr (ends_target (w := .replace o) (.wire k) rfl) fun found s' h' => ?_
    have hstored := hs _ _ h'.2.1.stored
    simp only [Encoding.withStatusOf_wire (h o rfl) hstored]
    rfl
  | replaceStatus o =>
    simp only [steps]
    refine run_bind_congr (ends_target (w := .replaceStatus o) (.wire k) rfl) fun found s' h' => ?_
    have hstored := hs _ _ h'.2.1.stored
    simp only [Encoding.withStatusOf_wire hstored (h o rfl)]

end

/-- Writes are atomic: however the wire form may fail, a write does all of what it answers or
nothing. The operations of the store do what the steps do, also where objects go through the wire
form, if they are in range. -/
theorem atomic_steps (enc : Encoding k) (w : Write k) (s : Store k) :
    Atomic enc s w (w.steps enc s).1 (w.steps enc s).2 ∧
      w.steps (.direct k) s = w.run s ∧ s.after w.request = (w.run s).2 ∧
      ((∀ o, w.update? = some o → o.Readable) → (s.All fun _ o => o.Readable) →
        w.steps (.wire k) s = w.run s) := by
  refine ⟨(ends_steps enc w s).run, congrFun (steps_direct w) s, after_request w s,
    fun h hs => ?_⟩
  rw [steps_wire h hs, steps_direct]

namespace Sample

def notes (version : String) : ConfigMap where
  metadata := { name := some "notes", ns := some "ops", resourceVersion := some version }
  spec := none

def shelf : Store .configMap where
  objects := SortedMap.empty.insert ⟨"ops", "notes"⟩ (notes "2")
  writes := 2
  lastVersion := 2

/-- Brings the version before the stored one. -/
def outdated : Write .configMap := .replace (notes "1")

theorem readable_notes (version : String) : (notes version).Readable where
  metadata := ⟨nofun, nofun, nofun, nofun, nofun⟩
  spec := trivial
  status := nofun

end Sample

theorem atomic_steps_sample :
    Sample.outdated.steps (.wire .configMap) Sample.shelf =
      (.error (.conflict "ConfigMap" "notes" "the object has been modified"), Sample.shelf) := by
  have hincoming : ∀ o, Sample.outdated.update? = some o → o.Readable := by
    rintro o h
    cases h
    exact Sample.readable_notes "1"
  have hstored : Sample.shelf.All fun _ o => o.Readable := by
    intro key o h
    simp only [Sample.shelf, SortedMap.get?_insert, SortedMap.get?_empty,
      Option.ite_none_right_eq_some, Option.some.injEq] at h
    obtain ⟨-, rfl⟩ := h
    exact Sample.readable_notes "2"
  exact (atomic_steps (.wire _) Sample.outdated Sample.shelf).2.2.2 hincoming hstored

end Store

end PolicyOperator
