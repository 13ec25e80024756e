import PolicyOperator.Proofs.Store.Writes

/-!
# Writes on a cluster

`Cluster.Confined ks c c'`: between `c` and `c'` at most the stores of the kinds `ks` changed, and
nobody touched the clock or the switches that make writes fail. Each operation is confined to its
own kind (`confined_create`, …, `confined_delete`), and confinement is a preorder, so it carries
over to every computation made of them.

`Cluster.Filed key o? c c'`: one key now holds `o?`, and that is all. A write that the store has no
reason to refuse either files its object or fails because writes are made to fail, and then the
cluster is as before (`ends_create`, `ends_replace`, `ends_replaceStatus`).

`Store.Cleared keys s s'`: what was stored under `keys` was deleted, all else is as it was. Only the
switch makes a deletion fail, so a loop of deletions either clears all its keys or fails at once and
leaves the cluster alone (`Clears.forM`, `Clears.foldlM`).
-/

namespace PolicyOperator

/-! ## Confinement -/

namespace Cluster

/-- At most the stores of some kinds differ, and in those at most what is stored. -/
structure Confined (ks : List ResourceKind) (c c' : Cluster) : Prop where
  store : ∀ k, k ∉ ks → c'.store k = c.store k
  failing : ∀ k, (c'.store k).failing = (c.store k).failing
  clock : c'.clock = c.clock

variable {ks : List ResourceKind} {k : ResourceKind} {c c' : Cluster}

instance : IsPreorder Cluster (Confined ks) where
  refl _ := ⟨fun _ _ => rfl, fun _ => rfl, rfl⟩
  trans _ _ _ h h' :=
    ⟨fun k hk => (h'.store k hk).trans (h.store k hk),
      fun k => (h'.failing k).trans (h.failing k), h'.clock.trans h.clock⟩

theorem Confined.rfl : Confined ks c c := ⟨fun _ _ => Eq.refl _, fun _ => Eq.refl _, Eq.refl _⟩

theorem Confined.mono {ks' : List ResourceKind} (h : Confined ks c c') (hks : ∀ k ∈ ks, k ∈ ks') :
    Confined ks' c c' :=
  ⟨fun k hk => h.store k fun hk' => hk (hks k hk'), h.failing, h.clock⟩

theorem confined_setStore (hk : k ∈ ks) {s : Store k} (hs : s.failing = (c.store k).failing) :
    Confined ks c (c.setStore k s) := by
  refine ⟨fun k' hk' => store_setStore_of_ne c s fun he => hk' (he ▸ hk), fun k' => ?_, by simp⟩
  by_cases he : k' = k
  · subst he; simpa using hs
  · rw [store_setStore_of_ne c s he]

end Cluster

namespace ClusterM

open Cluster

variable {ks : List ResourceKind} {k : ResourceKind}

theorem confined_ofStore {f : Cluster → Except Error (α × Store k)} (hk : k ∈ ks)
    (hf : ∀ c a s, f c = .ok (a, s) → s.failing = (c.store k).failing) :
    Keeps (Confined ks) (ofStore k f) := fun c =>
  ends_ofStore.2 ⟨fun a s h => confined_setStore hk (hf c a s h), fun _ _ => .rfl⟩

theorem confined_create (hk : k ∈ ks) (o : Object k) : Keeps (Confined ks) (create o) :=
  confined_ofStore hk fun c o' s h => by
    obtain ⟨-, key, -, -, -, rfl⟩ := Store.create_eq_ok_iff.1 h
    rfl

theorem confined_replace (hk : k ∈ ks) (o : Object k) : Keeps (Confined ks) (replace o) :=
  confined_ofStore hk fun c o' s h => by
    obtain ⟨-, key, current, -, -, -, -, rfl⟩ := Store.replace_eq_ok_iff.1 h
    rfl

theorem confined_replaceStatus (hk : k ∈ ks) (o : Object k) :
    Keeps (Confined ks) (replaceStatus o) :=
  confined_ofStore hk fun c o' s h => by
    obtain ⟨-, key, current, -, -, -, -, rfl⟩ := Store.replaceStatus_eq_ok_iff.1 h
    rfl

theorem failing_deletion (s : Store k) (now : Instant) (key : Key) :
    (s.deletion now key).failing = s.failing := by
  unfold Store.deletion
  split
  · rfl
  · split
    · rfl
    · split <;> rfl

theorem confined_delete (hk : k ∈ ks) (ns name : String) :
    Keeps (Confined ks) (delete k ns name) :=
  confined_ofStore hk fun c b s h => by
    obtain ⟨-, -, rfl⟩ := Store.delete_eq_ok_iff.1 h
    exact failing_deletion ..

end ClusterM

/-! ## Writes under one key -/

namespace Cluster

variable {k k' : ResourceKind} {c c' : Cluster} {key : Key} {o? : Option (Object k)}

/-- The key holds `o?` now, and nothing else that is stored changed. -/
structure Filed (key : Key) (o? : Option (Object k)) (c c' : Cluster) : Prop where
  confined : Confined [k] c c'
  get? : ∀ key', (c'.store k).objects.get? key' =
    if key' = key then o? else (c.store k).objects.get? key'

theorem Filed.self (h : Filed key o? c c') : (c'.store k).objects.get? key = o? := by
  rw [h.get?, if_pos rfl]

theorem Filed.other (h : Filed key o? c c') {key' : Key} (hne : key' ≠ key) :
    (c'.store k).objects.get? key' = (c.store k).objects.get? key' := by
  rw [h.get?, if_neg hne]

theorem Filed.store (h : Filed key o? c c') (hne : k' ≠ k) : c'.store k' = c.store k' :=
  h.confined.store k' (by simpa using hne)

theorem Filed.rfl (h : (c.store k).objects.get? key = o?) : Filed key o? c c := by
  refine ⟨.rfl, fun key' => ?_⟩
  split
  · next he => rw [he, h]
  · exact Eq.refl _

/-- What is stored under a key stays, or something else takes its place. -/
def Grown (k : ResourceKind) (c c' : Cluster) : Prop :=
  ∀ key, ((c.store k).objects.get? key).isSome → ((c'.store k).objects.get? key).isSome

instance : IsPreorder Cluster (Grown k) where
  refl _ _ h := h
  trans _ _ _ h h' key hkey := h' key (h key hkey)

theorem Filed.grown {o : Object k} (h : Filed key (some o) c c') : Grown k c c' := by
  intro key' hkey'
  rw [h.get?]
  split
  · rfl
  · exact hkey'

/-- What holds of all objects still does when it holds of the one that was filed. -/
theorem Filed.all {P : Key → Object k → Prop} (h : Filed key o? c c')
    (hc : (c.store k).All P) (ho : ∀ o, o? = some o → P key o) : (c'.store k).All P := by
  intro key' o hget
  rw [h.get?] at hget
  split at hget
  · next he => exact he ▸ ho o hget
  · exact hc key' o hget

end Cluster

namespace ClusterM

open Cluster

variable {k : ResourceKind} {c : Cluster} {key : Key} {o current : Object k}

/-- An operation that otherwise succeeds fails because writes are made to fail. -/
theorem failing_of_error {r : Except Error α} {e : Error} (h : r = .error e)
    (hok : (c.store k).failing = false → ∃ a, r = .ok a) : (c.store k).failing = true := by
  cases hf : (c.store k).failing with
  | true => rfl
  | false =>
    obtain ⟨a, ha⟩ := hok hf
    rw [ha] at h
    cases h

theorem ends_create (hkey : o.key = .ok key) (hnone : (c.store k).objects.get? key = none) :
    Ends (create o) c
      (fun o' c' => (∃ v, o' = Store.created o c.clock v) ∧ Filed key (some o') c c')
      fun _ c' => (c.store k).failing = true ∧ c' = c := by
  refine ends_ofStore.2 ⟨fun o' s h => ?_, fun e h => ⟨failing_of_error h fun hf =>
    ⟨_, Store.create_eq_ok_iff.2 ⟨hf, key, hkey, hnone, rfl, rfl⟩⟩, rfl⟩⟩
  · obtain ⟨-, key', -, -, hcreated, hs⟩ := Store.create_eq_ok_iff.1 h
    refine ⟨⟨_, hcreated⟩, confined_setStore (by simp) (by rw [hs]; rfl), fun key' => ?_⟩
    rw [store_setStore]
    exact Store.get?_create h hkey key'

theorem ends_replace (hkey : o.key = .ok key)
    (hcurrent : (c.store k).objects.get? key = some current)
    (hversion : ∀ v, o.metadata.resourceVersion = some v →
      current.metadata.resourceVersion = some v) :
    Ends (replace o) c
      (fun _ c' => ∃ v, Filed key (Store.remaining (Store.replacement current o v)) c c')
      fun _ c' => (c.store k).failing = true ∧ c' = c := by
  refine ends_ofStore.2 ⟨fun o' s h => ?_, fun e h => ⟨failing_of_error h fun hf =>
    ⟨_, Store.replace_eq_ok_iff.2 ⟨hf, key, current, hkey, hcurrent, hversion, rfl, rfl⟩⟩, rfl⟩⟩
  · obtain ⟨-, key', current', hkey', hcur', -, ho', hs⟩ := Store.replace_eq_ok_iff.1 h
    obtain rfl : key' = key := by simpa [hkey'] using hkey
    obtain rfl : current' = current := by simpa [hcur'] using hcurrent
    refine ⟨(c.store k).nextVersion, confined_setStore (by simp) (by rw [hs]; rfl),
      fun key' => ?_⟩
    rw [store_setStore, ← ho']
    exact Store.get?_replace h hkey key'

theorem ends_replaceStatus (hkey : o.key = .ok key)
    (hcurrent : (c.store k).objects.get? key = some current)
    (hversion : ∀ v, o.metadata.resourceVersion = some v →
      current.metadata.resourceVersion = some v) :
    Ends (replaceStatus o) c
      (fun _ c' => ∃ v, Filed key (some (Store.withStatus current o v)) c c')
      fun _ c' => (c.store k).failing = true ∧ c' = c := by
  refine ends_ofStore.2 ⟨fun o' s h => ?_, fun e h => ⟨failing_of_error h fun hf =>
    ⟨_, Store.replaceStatus_eq_ok_iff.2
      ⟨hf, key, current, hkey, hcurrent, hversion, rfl, rfl⟩⟩, rfl⟩⟩
  · obtain ⟨-, key', current', hkey', hcur', -, ho', hs⟩ := Store.replaceStatus_eq_ok_iff.1 h
    obtain rfl : key' = key := by simpa [hkey'] using hkey
    obtain rfl : current' = current := by simpa [hcur'] using hcurrent
    refine ⟨(c.store k).nextVersion, confined_setStore (by simp) (by rw [hs]; rfl),
      fun key' => ?_⟩
    rw [store_setStore, ← ho']
    exact Store.get?_replaceStatus h hkey key'

/-! What a write leaves behind, whatever it answers. -/

theorem state_create (o : Object k) (c : Cluster) :
    (create o c).2 = c ∨ ∃ key v, o.key = .ok key ∧ (c.store k).objects.get? key = none ∧
      Filed key (some (Store.created o c.clock v)) c (create o c).2 := by
  refine Ends.state (P := fun c' => c' = c ∨ ∃ key v, o.key = .ok key ∧
    (c.store k).objects.get? key = none ∧ Filed key (some (Store.created o c.clock v)) c c')
    (ends_ofStore.2 ⟨fun o' s h => ?_, fun _ _ => .inl rfl⟩)
  obtain ⟨-, key, hkey, hnone, rfl, hs⟩ := Store.create_eq_ok_iff.1 h
  refine .inr ⟨key, (c.store k).nextVersion, hkey, hnone,
    confined_setStore (by simp) (by rw [hs]; rfl), fun key' => ?_⟩
  rw [store_setStore]
  exact Store.get?_create h hkey key'

theorem state_replace (o : Object k) (c : Cluster) :
    (replace o c).2 = c ∨ ∃ key current v, o.key = .ok key ∧
      (c.store k).objects.get? key = some current ∧
      Filed key (Store.remaining (Store.replacement current o v)) c (replace o c).2 := by
  refine Ends.state (P := fun c' => c' = c ∨ ∃ key current v, o.key = .ok key ∧
    (c.store k).objects.get? key = some current ∧
    Filed key (Store.remaining (Store.replacement current o v)) c c')
    (ends_ofStore.2 ⟨fun o' s h => ?_, fun _ _ => .inl rfl⟩)
  obtain ⟨-, key, current, hkey, hcurrent, -, rfl, hs⟩ := Store.replace_eq_ok_iff.1 h
  refine .inr ⟨key, current, (c.store k).nextVersion, hkey, hcurrent,
    confined_setStore (by simp) (by rw [hs]; rfl), fun key' => ?_⟩
  rw [store_setStore]
  exact Store.get?_replace h hkey key'

/-- Only the switch makes a deletion fail. -/
theorem ends_delete (k : ResourceKind) (key : Key) (c : Cluster) :
    Ends (delete k key.ns key.name) c
      (fun _ c' => (c.store k).failing = false ∧ ∃ o?,
        Store.Withdrawn ((c.store k).objects.get? key) o? ∧ Filed key o? c c')
      fun _ c' => (c.store k).failing = true ∧ c' = c := by
  refine ends_ofStore.2 ⟨fun b s h => ?_, fun e h => ⟨failing_of_error h fun hf =>
    ⟨(_, _), Store.delete_eq_ok_iff.2 ⟨hf, rfl, rfl⟩⟩, rfl⟩⟩
  obtain ⟨hworking, -, rfl⟩ := Store.delete_eq_ok_iff.1 h
  refine ⟨hworking, _, Store.withdrawn_deletion _ c.clock key,
    confined_setStore (by simp) (failing_deletion ..), fun key' => ?_⟩
  rw [store_setStore]
  split
  · next he => rw [he]
  · next hne => exact Store.get?_deletion_of_ne _ _ hne

theorem state_delete (k : ResourceKind) (key : Key) (c : Cluster) :
    (delete k key.ns key.name c).2 = c ∨ ∃ o?,
      Store.Withdrawn ((c.store k).objects.get? key) o? ∧
      Filed key o? c (delete k key.ns key.name c).2 :=
  Ends.state (P := fun c' => c' = c ∨ ∃ o?,
    Store.Withdrawn ((c.store k).objects.get? key) o? ∧ Filed key o? c c')
    ((ends_delete k key c).mono (fun _ _ h => .inr h.2) fun _ _ h => .inl h.2)

end ClusterM

/-! ## Writes that are made to fail -/

/-- Nothing changes while writes of a kind are made to fail. -/
def Cluster.Halts (k : ResourceKind) (c c' : Cluster) : Prop :=
  (c.store k).failing = true → c' = c

instance {k : ResourceKind} : IsPreorder Cluster (Cluster.Halts k) where
  refl _ _ := rfl
  trans _ _ _ h h' hfailing := by
    obtain rfl := h hfailing
    exact h' hfailing

namespace ClusterM

variable {k : ResourceKind}

theorem halts_ofStore {f : Cluster → Except Error (α × Store k)}
    (hf : ∀ c a s, f c = .ok (a, s) → (c.store k).failing = false) :
    Keeps (Cluster.Halts k) (ofStore k f) := fun c =>
  ends_ofStore.2 ⟨fun a s h hfailing => by simp [hf c a s h] at hfailing, fun _ _ _ => rfl⟩

theorem halts_create (o : Object k) : Keeps (Cluster.Halts k) (create o) :=
  halts_ofStore fun _ _ _ h => (Store.create_eq_ok_iff.1 h).1

theorem halts_delete (ns name : String) : Keeps (Cluster.Halts k) (delete k ns name) :=
  halts_ofStore fun _ _ _ h => (Store.delete_eq_ok_iff.1 h).1

end ClusterM

/-! ## Deletions -/

namespace Store

variable {k : ResourceKind} {keys keys' : Key → Prop} {s s' s'' : Store k}

/-- What was stored under the keys was deleted, and nothing else changed. -/
structure Cleared (keys : Key → Prop) (s s' : Store k) : Prop where
  swept : ∀ key, keys key → Withdrawn (s.objects.get? key) (s'.objects.get? key)
  others : ∀ key, ¬ keys key → s'.objects.get? key = s.objects.get? key

namespace Cleared

theorem nothing : Cleared (fun _ => False) s s := ⟨fun _ => False.elim, fun _ _ => rfl⟩

theorem deletion (s : Store k) (now : Instant) (key : Key) :
    Cleared (fun key' => key' = key) s (s.deletion now key) where
  swept _ h := h ▸ withdrawn_deletion s now key
  others _ h := get?_deletion_of_ne s now h

theorem trans (h : Cleared keys s s') (h' : Cleared keys' s' s'') :
    Cleared (fun key => keys key ∨ keys' key) s s'' where
  swept key hkey := by
    by_cases h1 : keys key <;> by_cases h2 : keys' key
    · exact (h.swept key h1).trans (h'.swept key h2)
    · exact h'.others key h2 ▸ h.swept key h1
    · exact h.others key h1 ▸ h'.swept key h2
    · exact absurd hkey (by simp [h1, h2])
  others key hkey := by
    rw [h'.others key fun hk => hkey (.inr hk), h.others key fun hk => hkey (.inl hk)]

theorem congr (h : Cleared keys s s') (hkeys : ∀ key, keys key ↔ keys' key) :
    Cleared keys' s s' :=
  ⟨fun key hk => h.swept key ((hkeys key).2 hk), fun key hk => h.others key fun hk' =>
    hk ((hkeys key).1 hk')⟩

/-- Deletions under some keys are deletions of the objects that are stored there. -/
theorem of_stored {P : Key → Object k → Prop} (h : Cleared keys s s')
    (hkeys : ∀ key o, s.objects.get? key = some o → (keys key ↔ P key o)) :
    Cleared (fun key => ∃ o, s.objects.get? key = some o ∧ P key o) s s' where
  swept := by
    rintro key ⟨o, hget, ho⟩
    exact h.swept key ((hkeys key o hget).2 ho)
  others key hnone := by
    cases hget : s.objects.get? key with
    | none =>
      by_cases hkey : keys key
      · have hw := h.swept key hkey
        rw [hget] at hw
        exact hw.of_none
      · rw [h.others key hkey, hget]
    | some o =>
      have hkey : ¬ keys key := fun hkey => hnone ⟨o, hget, (hkeys key o hget).1 hkey⟩
      rw [h.others key hkey, hget]

/-- Deletions change nothing where all that they meet is on its way out and waits for a
finalizer. -/
theorem objects_eq_iff (h : Cleared keys s s') :
    s'.objects = s.objects ↔ ∀ key o, keys key → s.objects.get? key = some o →
      o.metadata.isGuarded = true ∧ o.metadata.isDeleting = true := by
  constructor
  · intro hsame key o hkey ho
    have hw := h.swept key hkey
    rw [ho] at hw
    generalize hnew : s'.objects.get? key = o? at hw
    rw [hsame, ho] at hnew
    cases hw with
    | gone _ => cases hnew
    | kept hguarded hdeleting => exact ⟨hguarded, hdeleting⟩
    | marked now version _ hdeleting =>
      rw [Option.some.inj hnew, isDeleting_marked] at hdeleting
      cases hdeleting
  · intro hleaving
    refine SortedMap.ext_get? fun key => ?_
    by_cases hkey : keys key
    · have hw := h.swept key hkey
      cases hcur : s.objects.get? key with
      | none =>
        rw [hcur] at hw
        exact hw.of_none
      | some o =>
        rw [hcur] at hw
        obtain ⟨hguarded, hdeleting⟩ := hleaving key o hkey hcur
        exact hw.eq_of_leaving hguarded hdeleting
    · exact h.others key hkey

end Cleared

end Store

namespace ClusterM

open Cluster Store

variable {k : ResourceKind} {keys keys' : Key → Prop} {c : Cluster}

/-- Started in `c`, the computation clears some keys of a kind. It only fails when writes are made
to fail, and then it changes nothing. -/
def Clears (k : ResourceKind) (keys : Key → Prop) (c : Cluster) (x : ClusterM α) : Prop :=
  Ends x c
    (fun _ c' => Cleared keys (c.store k) (c'.store k) ∧ Confined [k] c c' ∧
      ((c.store k).failing = true → c' = c))
    fun _ c' => (c.store k).failing = true ∧ c' = c

namespace Clears

theorem delete (c : Cluster) (ns name : String) :
    Clears k (fun key => key = ⟨ns, name⟩) c (delete k ns name) := by
  refine ends_ofStore.2 ⟨fun b s h => ?_, fun e h => ⟨failing_of_error h fun hf =>
    ⟨(_, _), Store.delete_eq_ok_iff.2 ⟨hf, rfl, rfl⟩⟩, rfl⟩⟩
  obtain ⟨hw, -, rfl⟩ := Store.delete_eq_ok_iff.1 h
  exact ⟨by simpa using Cleared.deletion .., confined_setStore (by simp) (failing_deletion ..),
    by simp [hw]⟩

theorem pure (a : α) : Clears k (fun _ => False) c (pure a : ClusterM α) :=
  ⟨Cleared.nothing, .rfl, fun _ => rfl⟩

theorem bind {x : ClusterM α} {f : α → ClusterM β} (hx : Clears k keys c x)
    (hf : ∀ a c', Clears k keys' c' (f a)) :
    Clears k (fun key => keys key ∨ keys' key) c (x >>= f) := by
  refine ends_bind.2 (Ends.mono hx (fun a c1 h1 => ?_) fun _ _ h => h)
  obtain ⟨hclear, hconf, hsame⟩ := h1
  refine Ends.mono (hf a c1) (fun _ c2 h2 => ?_) fun _ c2 h2 => ?_
  · refine ⟨hclear.trans h2.1, IsTrans.trans _ _ _ hconf h2.2.1, fun h => ?_⟩
    rw [h2.2.2 (by rwa [hconf.failing]), hsame h]
  · have hfail : (c.store k).failing = true := by rw [← hconf.failing]; exact h2.1
    exact ⟨hfail, by rw [h2.2, hsame hfail]⟩

theorem congr {x : ClusterM α} (hx : Clears k keys c x) (hkeys : ∀ key, keys key ↔ keys' key) :
    Clears k keys' c x :=
  Ends.mono hx (fun _ _ h => ⟨h.1.congr hkeys, h.2⟩) fun _ _ h => h

theorem discard {x : ClusterM α} (hx : Clears k keys c x) : Clears k keys c (discard x) :=
  ends_discard.2 hx

theorem foldlM {l : List α} {f : β → α → ClusterM β} {place : α → Key} {b : β}
    (hf : ∀ b a c, Clears k (fun key => key = place a) c (f b a)) :
    Clears k (fun key => ∃ a ∈ l, key = place a) c (l.foldlM f b) := by
  induction l generalizing b c with
  | nil => exact (pure b).congr fun key => by simp
  | cons a l ih =>
    rw [List.foldlM_cons]
    exact ((hf b a c).bind fun b' c' => ih).congr fun key => by simp

theorem forM {l : List α} {f : α → ClusterM PUnit} {place : α → Key}
    (hf : ∀ a c, Clears k (fun key => key = place a) c (f a)) :
    Clears k (fun key => ∃ a ∈ l, key = place a) c (l.forM f) := by
  induction l generalizing c with
  | nil => exact (pure _).congr fun key => by simp
  | cons a l ih =>
    rw [List.forM]
    exact ((hf a c).bind fun _ c' => ih).congr fun key => by simp

end Clears

end ClusterM

end PolicyOperator
