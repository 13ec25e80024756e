import PolicyOperator.Proofs.Store.Requests

/-!
# Writers of the spec and writers of the status

`replace` writes metadata and spec of an object, `replaceStatus` its status. The main statement is
`partsApart`: neither writer touches what the other one writes, and where both write without asking
for a version, it does not matter who is first.

* Either write alone leaves the part of the other (`status_replacement`; `Parts.withStatus`, every
  field but the status and the version).
* The two writes commute on the object (`withStatus_replacement`): the one sets what the other
  keeps, and the generation is counted from the specs alone, which a status write leaves as they
  are.
* Both orders hand out the same two versions, so they leave the same store (`serve_comm`), unless
  the replacement takes away the last finalizer of an object that is being deleted: then the status
  comes too late in the one order.
-/

namespace PolicyOperator

variable {k : ResourceKind}

namespace Store

variable {s t : Store k} {key : Key} {x a b o : Object k}

/-! ## One object -/

/-- The object has the status of an object to come and all else of an object before, at whole
seconds and up to its version. -/
structure Parts (before incoming o : Object k) : Prop where
  spec : o.spec = k.specWholeSeconds before.spec
  metadata : o.metadata = { before.metadata.wholeSeconds with
    resourceVersion := o.metadata.resourceVersion }
  status : o.status = incoming.status.map k.statusWholeSeconds

theorem parts_withStatus (x b : Object k) (version : Nat) : Parts x b (withStatus x b version) :=
  ⟨rfl, rfl, rfl⟩

/-- The generation does not see fractions of a second. -/
@[simp] theorem sameSpec_specWholeSeconds_left (c d : k.Spec) :
    k.sameSpec (k.specWholeSeconds c) d = k.sameSpec c d := by
  simp [ResourceKind.sameSpec]

/-- Spec and status of an object may be written in either order. -/
theorem withStatus_replacement (x a b : Object k) (v w version : Nat) :
    withStatus (replacement x a v) b version = replacement (withStatus x b w) a version := by
  simp [withStatus, replacement, Object.wholeSeconds, Metadata.wholeSeconds, Function.comp_def]

/-! ## The store -/

/-- A replacement that leaves its object there. -/
theorem after_replace (hfailing : s.failing = false) (hx : s.objects.get? key = some x)
    (ha : a.key = .ok key) (hversion : a.metadata.resourceVersion = none)
    (hstays : x.metadata.isDeleting → a.metadata.isGuarded) :
    s.after (.replace a) =
      s.written (s.objects.insert key (replacement x a s.nextVersion)) := by
  have hok : s.replace a = .ok (replacement x a s.nextVersion,
      s.written (s.settled key (replacement x a s.nextVersion))) :=
    replace_eq_ok_iff.2 ⟨hfailing, key, x, ha, hx, by simp [hversion], rfl, rfl⟩
  have hsettled : s.settled key (replacement x a s.nextVersion) =
      s.objects.insert key (replacement x a s.nextVersion) := by
    unfold settled
    rw [if_neg]
    simpa [Metadata.isGuarded] using hstays
  rw [after, hok, outcome, hsettled]

theorem after_replaceStatus (hfailing : s.failing = false) (hx : s.objects.get? key = some x)
    (hb : b.key = .ok key) (hversion : b.metadata.resourceVersion = none) :
    s.after (.replaceStatus b) =
      s.written (s.objects.insert key (withStatus x b s.nextVersion)) := by
  have hok : s.replaceStatus b = .ok (withStatus x b s.nextVersion,
      s.written (s.objects.insert key (withStatus x b s.nextVersion))) :=
    replaceStatus_eq_ok_iff.2 ⟨hfailing, key, x, hb, hx, by simp [hversion], rfl, rfl⟩
  rw [after, hok, outcome]

/-- While writes fail nothing changes. -/
theorem after_of_failing (hfailing : s.failing = true) {r : Request k} (hr : r.isUpdate) :
    s.after r = s := by
  cases r with
  | replace o =>
    cases h : s.replace o with
    | error e => rw [after, h, outcome]
    | ok p =>
      obtain ⟨hworks, -⟩ := replace_eq_ok_iff.1 h
      simp [hworks] at hfailing
  | replaceStatus o =>
    cases h : s.replaceStatus o with
    | error e => rw [after, h, outcome]
    | ok p =>
      obtain ⟨hworks, -⟩ := replaceStatus_eq_ok_iff.1 h
      simp [hworks] at hfailing
  | get | list | create | delete | switch => cases hr

/-- Of two writes under one key the first one is only counted. -/
theorem written_written_insert (s : Store k) (key : Key) (o₁ o₂ o : Object k) :
    (s.written (s.objects.insert key o₁)).written
        ((s.written (s.objects.insert key o₁)).objects.insert key o) =
      (s.written (s.objects.insert key o₂)).written
        ((s.written (s.objects.insert key o₂)).objects.insert key o) := by
  have hobjects : (s.objects.insert key o₁).insert key o = (s.objects.insert key o₂).insert key o :=
    SortedMap.ext_get? fun key' => by
      simp only [SortedMap.get?_insert]
      split <;> rfl
  simp [written, nextVersion, hobjects]

/-- The two writes, the replacement first. -/
theorem serve_replace_replaceStatus (hfailing : s.failing = false)
    (hx : s.objects.get? key = some x) (ha : a.key = .ok key) (hb : b.key = .ok key)
    (hav : a.metadata.resourceVersion = none) (hbv : b.metadata.resourceVersion = none)
    (hstays : x.metadata.isDeleting → a.metadata.isGuarded) :
    s.serve [.replace a, .replaceStatus b] =
      (s.written (s.objects.insert key (replacement x a s.nextVersion))).written
        ((s.written (s.objects.insert key (replacement x a s.nextVersion))).objects.insert key
          (withStatus (replacement x a s.nextVersion) b (s.lastVersion + 2))) := by
  have hstored : (s.written (s.objects.insert key (replacement x a s.nextVersion))).objects.get? key =
      some (replacement x a s.nextVersion) := by
    rw [written, SortedMap.get?_insert, if_pos rfl]
  rw [serve, List.foldl_cons, List.foldl_cons, List.foldl_nil,
    after_replace hfailing hx ha hav hstays]
  exact after_replaceStatus hfailing hstored hb hbv

/-- The two writes, the status first. -/
theorem serve_replaceStatus_replace (hfailing : s.failing = false)
    (hx : s.objects.get? key = some x) (ha : a.key = .ok key) (hb : b.key = .ok key)
    (hav : a.metadata.resourceVersion = none) (hbv : b.metadata.resourceVersion = none)
    (hstays : x.metadata.isDeleting → a.metadata.isGuarded) :
    s.serve [.replaceStatus b, .replace a] =
      (s.written (s.objects.insert key (withStatus x b s.nextVersion))).written
        ((s.written (s.objects.insert key (withStatus x b s.nextVersion))).objects.insert key
          (replacement (withStatus x b s.nextVersion) a (s.lastVersion + 2))) := by
  have hstored : (s.written (s.objects.insert key (withStatus x b s.nextVersion))).objects.get? key =
      some (withStatus x b s.nextVersion) := by
    rw [written, SortedMap.get?_insert, if_pos rfl]
  have hstays' : (withStatus x b s.nextVersion).metadata.isDeleting → a.metadata.isGuarded := by
    rwa [isDeleting_withStatus]
  rw [serve, List.foldl_cons, List.foldl_cons, List.foldl_nil,
    after_replaceStatus hfailing hx hb hbv]
  exact after_replace hfailing hstored ha hav hstays'

/-- Both orders hand out the same versions and file the same object. -/
theorem serve_comm (hx : s.objects.get? key = some x) (ha : a.key = .ok key) (hb : b.key = .ok key)
    (hav : a.metadata.resourceVersion = none) (hbv : b.metadata.resourceVersion = none)
    (hstays : x.metadata.isDeleting → a.metadata.isGuarded) :
    s.serve [.replace a, .replaceStatus b] = s.serve [.replaceStatus b, .replace a] := by
  cases hfailing : s.failing with
  | false =>
    rw [serve_replace_replaceStatus hfailing hx ha hb hav hbv hstays,
      serve_replaceStatus_replace hfailing hx ha hb hav hbv hstays,
      withStatus_replacement x a b s.nextVersion s.nextVersion]
    exact written_written_insert ..
  | true =>
    have hreplace : s.after (.replace a) = s := after_of_failing hfailing rfl
    have hstatus : s.after (.replaceStatus b) = s := after_of_failing hfailing rfl
    simp only [serve, List.foldl_cons, List.foldl_nil, hreplace, hstatus]

/-! ## The two writers -/

/-- What a replacement by `a` and a status write of `b` make of the object `x` under their key. -/
structure PartsApart (s : Store k) (key : Key) (x a b : Object k) : Prop where
  /-- A replacement keeps the status, whatever status it comes with. -/
  replace : ∀ o t, s.replace a = .ok (o, t) → o.status = x.status.map k.statusWholeSeconds ∧
    t.objects.get? key = remaining o
  /-- A status write keeps all else, whatever else it comes with. -/
  replaceStatus : ∀ o t, s.replaceStatus b = .ok (o, t) → Parts x b o ∧
    t.objects.get? key = some o
  /-- Their order does not matter, unless the replacement lets the object go. -/
  commute : a.metadata.resourceVersion = none → b.metadata.resourceVersion = none →
    (x.metadata.isDeleting → a.metadata.isGuarded) →
    s.serve [.replace a, .replaceStatus b] = s.serve [.replaceStatus b, .replace a]
  /-- Then the object has the spec of the one and the status of the other. -/
  both : a.metadata.resourceVersion = none → b.metadata.resourceVersion = none →
    (x.metadata.isDeleting → a.metadata.isGuarded) → s.failing = false →
    ∃ o, (s.serve [.replace a, .replaceStatus b]).objects.get? key = some o ∧
      o.spec = k.specWholeSeconds a.spec ∧ o.status = b.status.map k.statusWholeSeconds

/-- Writers of the spec and writers of the status do not undo each other's work. -/
theorem partsApart (hx : s.objects.get? key = some x) (ha : a.key = .ok key)
    (hb : b.key = .ok key) : PartsApart s key x a b where
  replace o t h := by
    have hstored : t.objects.get? key = remaining o := by rw [get?_replace h ha, if_pos rfl]
    obtain ⟨-, key', current, hkey', hcurrent, -, rfl, -⟩ := replace_eq_ok_iff.1 h
    obtain rfl : key' = key := by simpa [ha] using hkey'.symm
    obtain rfl : current = x := by simpa [hx] using hcurrent.symm
    exact ⟨rfl, hstored⟩
  replaceStatus o t h := by
    have hstored : t.objects.get? key = some o := by rw [get?_replaceStatus h hb, if_pos rfl]
    obtain ⟨-, key', current, hkey', hcurrent, -, rfl, -⟩ := replaceStatus_eq_ok_iff.1 h
    obtain rfl : key' = key := by simpa [hb] using hkey'.symm
    obtain rfl : current = x := by simpa [hx] using hcurrent.symm
    exact ⟨parts_withStatus .., hstored⟩
  commute := serve_comm hx ha hb
  both hav hbv hstays hfailing := by
    refine ⟨withStatus (replacement x a s.nextVersion) b (s.lastVersion + 2), ?_, ?_, ?_⟩
    · rw [serve_replace_replaceStatus hfailing hx ha hb hav hbv hstays, written,
        SortedMap.get?_insert, if_pos rfl]
    · exact k.specWholeSeconds_specWholeSeconds a.spec
    · rfl

namespace Parts.Sample

/-- A tool that was deleted while its finalizer holds it, in a store that has no status of it. -/
def stored : Tool := marked
  (created { Sample.tool with
    metadata := { Sample.tool.metadata with finalizers := some ["eirenyx.tool/finalizer"] } } ⟨0, 5⟩ 1)
  ⟨60, 7⟩ 2

def store : Store .tool where
  objects := (∅ : SortedMap Key Tool).insert Sample.key stored
  lastVersion := 2

/-- An edit that comes with a status of its own. -/
def edit : Tool where
  metadata := { Sample.tool.metadata with finalizers := some ["eirenyx.tool/finalizer"] }
  spec := { Sample.tool.spec with enabled := false }
  status := some { installed := true, healthy := true }

/-- A status that comes with the spec of before. -/
def publication : Tool := { Sample.tool with status := some { installed := true } }

end Parts.Sample

/-- An edit of a tool on its way out and the status that is published meanwhile. -/
theorem partsApart_sample :
    PartsApart Parts.Sample.store Sample.key Parts.Sample.stored Parts.Sample.edit
        Parts.Sample.publication ∧
      Parts.Sample.store.serve [.replace Parts.Sample.edit, .replaceStatus Parts.Sample.publication] =
        Parts.Sample.store.serve
          [.replaceStatus Parts.Sample.publication, .replace Parts.Sample.edit] := by
  have h : PartsApart Parts.Sample.store Sample.key Parts.Sample.stored Parts.Sample.edit
      Parts.Sample.publication := partsApart rfl rfl rfl
  exact ⟨h, h.commute rfl rfl fun _ => rfl⟩

end Store

end PolicyOperator
