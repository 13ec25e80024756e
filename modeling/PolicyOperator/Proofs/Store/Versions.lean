import PolicyOperator.Proofs.Store.Writes

/-!
# Versions

A store hands out each version once, so a version tells whether an object is still what it was when
somebody read it.

* `Advanced s s'`: on the way from `s` to `s'` whatever changed was given a version that `s` had not
  handed out yet. It is a preorder, and every operation keeps it (`advanced_create`, …).
* `Known s o`: the store answered `o` at some time. An object that is stored with the version of a
  known one is that one (`Known.current`), and advancing keeps that (`Known.advanced`).
* `Spares f s s'`: moreover, what carries the finalizer `f` is kept, and goes on carrying it. Only a
  replacement by an object without the finalizer does not do that (`spares_replace`).
-/

namespace PolicyOperator.Store

variable {k : ResourceKind} {s s' s'' : Store k} {now : Instant} {o o' : Object k} {key : Key}
  {m n : Nat}

/-- The object was written with the version. -/
def Stamped (n : Nat) (o : Object k) : Prop :=
  o.metadata.resourceVersion = some (toString n)

theorem Stamped.unique (h : Stamped m o) (h' : Stamped n o) : m = n := by
  have hrepr : m.repr = n.repr := Option.some.inj (h.symm.trans h')
  have hdigits : Nat.toDigits 10 m = Nat.toDigits 10 n := by
    rw [← Nat.toList_repr, ← Nat.toList_repr, hrepr]
  rw [← Nat.ofDigitChars_toDigits (b := 10) (by decide) (by decide) (n := m), hdigits,
    Nat.ofDigitChars_toDigits (by decide) (by decide)]

/-- Objects are filed under their own keys. -/
def Filed (s : Store k) : Prop :=
  s.All fun key o => o.key = .ok key

/-- Objects are filed under their own keys, with versions that have been handed out. -/
structure Numbered (s : Store k) : Prop where
  filed : s.Filed
  stamped : s.All fun _ o => ∃ n ≤ s.lastVersion, Stamped n o

theorem numbered_empty : Numbered ({} : Store k) where
  filed _ _ h := by cases h
  stamped _ _ h := by cases h

/-! ## Advancing -/

/-- What is stored was stored before or has a version that is new. -/
structure Advanced (s s' : Store k) : Prop where
  last : s.lastVersion ≤ s'.lastVersion
  fresh : ∀ key o, s'.objects.get? key = some o →
    s.objects.get? key = some o ∨ ∃ n, s.lastVersion < n ∧ n ≤ s'.lastVersion ∧ Stamped n o
  filed : s.Filed → s'.Filed

theorem Advanced.trans (h : Advanced s s') (h' : Advanced s' s'') : Advanced s s'' where
  last := Nat.le_trans h.last h'.last
  fresh key o ho := by
    obtain hold | ⟨n, hlt, hle, hn⟩ := h'.fresh key o ho
    · obtain hold | ⟨n, hlt, hle, hn⟩ := h.fresh key o hold
      · exact .inl hold
      · exact .inr ⟨n, hlt, Nat.le_trans hle h'.last, hn⟩
    · exact .inr ⟨n, Nat.lt_of_le_of_lt h.last hlt, hle, hn⟩
  filed hs := h'.filed (h.filed hs)

instance : IsPreorder (Store k) Advanced where
  refl _ := ⟨Nat.le_refl _, fun _ _ h => .inl h, id⟩
  trans _ _ _ := Advanced.trans

theorem Numbered.advanced (h : Numbered s) (ha : Advanced s s') : Numbered s' where
  filed := ha.filed h.filed
  stamped key o ho := by
    obtain hold | ⟨n, -, hle, hn⟩ := ha.fresh key o ho
    · obtain ⟨n, hle, hn⟩ := h.stamped key o hold
      exact ⟨n, Nat.le_trans hle ha.last, hn⟩
    · exact ⟨n, hle, hn⟩

/-- What is stored at both ends of a way was stored all along: changed, it would have another
version. -/
theorem Numbered.between (h : Numbered s) (ha : Advanced s s') (ha' : Advanced s' s'')
    (ho : s.objects.get? key = some o) (ho' : s''.objects.get? key = some o) :
    s'.objects.get? key = some o := by
  obtain hold | ⟨n, hlt, -, hn⟩ := ha'.fresh key o ho'
  · exact hold
  · obtain ⟨m, hle, hm⟩ := h.stamped key o ho
    have hlast := ha.last
    exact absurd (hm.unique hn) (by omega)

/-- A change under one key, to something with a new version if to anything. -/
theorem Advanced.of_get? {o? : Option (Object k)} (hlast : s.lastVersion ≤ s'.lastVersion)
    (hget : ∀ key', s'.objects.get? key' = if key' = key then o? else s.objects.get? key')
    (hfresh : ∀ o, o? = some o → s.lastVersion < s'.lastVersion ∧ Stamped s'.lastVersion o)
    (hfiled : ∀ o, o? = some o → s.Filed → o.key = .ok key) : Advanced s s' where
  last := hlast
  fresh key' o ho := by
    rw [hget] at ho
    split at ho
    · obtain ⟨hlt, hn⟩ := hfresh o ho
      exact .inr ⟨_, hlt, Nat.le_refl _, hn⟩
    · exact .inl ho
  filed hs key' o ho := by
    rw [hget] at ho
    split at ho
    · next he => exact he ▸ hfiled o ho hs
    · exact hs key' o ho

theorem advanced_create (h : s.create now o = .ok (o', s')) : Advanced s s' := by
  obtain ⟨-, key, hkey, -, ho', hs'⟩ := create_eq_ok_iff.1 h
  subst ho' hs'
  refine .of_get? (Nat.le_succ _) (get?_create h hkey) (fun x hx => ?_) fun x hx _ => ?_
  all_goals cases hx
  · exact ⟨Nat.lt_succ_self _, rfl⟩
  · exact (Object.key_congr rfl rfl).trans hkey

theorem advanced_replace (h : s.replace o = .ok (o', s')) : Advanced s s' := by
  obtain ⟨-, key, current, hkey, -, -, ho', hs'⟩ := replace_eq_ok_iff.1 h
  subst ho' hs'
  refine .of_get? (Nat.le_succ _) (get?_replace h hkey) (fun x hx => ?_) fun x hx _ => ?_
  all_goals obtain rfl := eq_of_remaining hx
  · exact ⟨Nat.lt_succ_self _, rfl⟩
  · exact (Object.key_congr rfl rfl).trans hkey

theorem advanced_replaceStatus (h : s.replaceStatus o = .ok (o', s')) : Advanced s s' := by
  obtain ⟨-, key, current, hkey, hcurrent, -, ho', hs'⟩ := replaceStatus_eq_ok_iff.1 h
  subst ho' hs'
  refine .of_get? (Nat.le_succ _) (get?_replaceStatus h hkey) (fun x hx => ?_) fun x hx hs => ?_
  all_goals cases hx
  · exact ⟨Nat.lt_succ_self _, rfl⟩
  · exact (Object.key_congr rfl rfl).trans (hs key current hcurrent)

theorem advanced_deletion (s : Store k) (now : Instant) (key : Key) :
    Advanced s (s.deletion now key) := by
  unfold deletion
  split
  · exact Std.Refl.refl s
  · next current hcurrent =>
    split
    · have hget : ∀ key', (s.objects.erase key).get? key' =
          if key' = key then none else s.objects.get? key' := SortedMap.get?_erase s.objects key
      exact .of_get? (Nat.le_refl _) hget (fun _ h => by cases h) fun _ h => by cases h
    · split
      · exact ⟨Nat.le_refl _, fun _ _ h => .inl h, id⟩
      · refine .of_get? (Nat.le_succ _) (fun _ => SortedMap.get?_insert ..) (fun x hx => ?_)
          fun x hx hs => ?_
        all_goals cases hx
        · exact ⟨Nat.lt_succ_self _, rfl⟩
        · exact (Object.key_congr rfl rfl).trans (hs key current hcurrent)

/-! ## Known objects -/

/-- The store answered the object at some time. -/
structure Known (s : Store k) (o : Object k) : Prop where
  filed : ∃ key, o.key = .ok key
  stamped : ∃ n ≤ s.lastVersion, Stamped n o
  current : ∀ key o', o.key = .ok key → s.objects.get? key = some o' →
    o'.metadata.resourceVersion = o.metadata.resourceVersion → o' = o

theorem Known.advanced (h : Known s o) (ha : Advanced s s') : Known s' o := by
  obtain ⟨m, hm, hstamped⟩ := h.stamped
  refine ⟨h.filed, ⟨m, Nat.le_trans hm ha.last, hstamped⟩, fun key o' hkey ho' hversion => ?_⟩
  obtain hold | ⟨n, hlt, -, hn⟩ := ha.fresh key o' ho'
  · exact h.current key o' hkey hold hversion
  · -- a new version is none that the known object can have
    have hsame : Stamped n o := hversion.symm.trans hn
    exact absurd (hstamped.unique hsame) (by omega)

/-- A write with the version of a known object is accepted only where that object is stored. -/
theorem Known.eq_of_accepted {current : Object k} (h : Known s o) (hkey : o.key = .ok key)
    (hcurrent : s.objects.get? key = some current)
    (hversion : ∀ v, o.metadata.resourceVersion = some v →
      current.metadata.resourceVersion = some v) : current = o := by
  obtain ⟨n, -, hstamped⟩ := h.stamped
  exact h.current key current hkey hcurrent ((hversion _ hstamped).trans hstamped.symm)

/-- What is stored is known. -/
theorem Numbered.known (h : Numbered s) (ho : s.objects.get? key = some o) : Known s o := by
  have hkey := h.filed key o ho
  refine ⟨⟨key, hkey⟩, h.stamped key o ho, fun key' o' hkey' ho' _ => ?_⟩
  obtain rfl : key = key' := by simpa [hkey] using hkey'
  exact Option.some.inj (ho'.symm.trans ho)

theorem known_create (hs : Numbered s) (h : s.create now o = .ok (o', s')) : Known s' o' := by
  obtain ⟨-, key, hkey, -⟩ := create_eq_ok_iff.1 h
  have hget : s'.objects.get? key = some o' := by rw [get?_create h hkey, if_pos rfl]
  exact (hs.advanced (advanced_create h)).known hget

theorem known_replaceStatus (hs : Numbered s) (h : s.replaceStatus o = .ok (o', s')) :
    Known s' o' := by
  obtain ⟨-, key, current, hkey, -⟩ := replaceStatus_eq_ok_iff.1 h
  have hget : s'.objects.get? key = some o' := by rw [get?_replaceStatus h hkey, if_pos rfl]
  exact (hs.advanced (advanced_replaceStatus h)).known hget

/-- The answer of a replacement is known, whether the object stayed or went. -/
theorem known_replace (h : s.replace o = .ok (o', s')) : Known s' o' := by
  obtain ⟨-, key, current, hkey, -, -, ho', hs'⟩ := replace_eq_ok_iff.1 h
  have hkey' : o'.key = .ok key := by
    rw [ho']
    exact (Object.key_congr rfl rfl).trans hkey
  refine ⟨⟨key, hkey'⟩, ⟨s.nextVersion, Nat.le_of_eq (by rw [hs']; rfl), by rw [ho']; rfl⟩,
    fun key₁ o₁ hkey₁ ho₁ _ => ?_⟩
  obtain rfl : key = key₁ := by simpa [hkey'] using hkey₁
  rw [get?_replace h hkey, if_pos rfl] at ho₁
  exact eq_of_remaining ho₁

/-! ## Sparing what carries a finalizer -/

variable {f : String}

/-- What carries the finalizer is kept and goes on carrying it. -/
structure Spares (f : String) (s s' : Store k) : Prop extends Advanced s s' where
  kept : ∀ key o, s.objects.get? key = some o → f ∈ o.metadata.guards →
    ∃ o', s'.objects.get? key = some o' ∧ f ∈ o'.metadata.guards ∧
      o'.metadata.uid = o.metadata.uid

theorem Spares.trans (h : Spares f s s') (h' : Spares f s' s'') : Spares f s s'' where
  toAdvanced := h.toAdvanced.trans h'.toAdvanced
  kept key o ho hf := by
    obtain ⟨o₁, ho₁, hf₁, huid₁⟩ := h.kept key o ho hf
    obtain ⟨o₂, ho₂, hf₂, huid₂⟩ := h'.kept key o₁ ho₁ hf₁
    exact ⟨o₂, ho₂, hf₂, huid₂.trans huid₁⟩

instance : IsPreorder (Store k) (Spares f) where
  refl s := ⟨Std.Refl.refl s, fun _ o ho hf => ⟨o, ho, hf, rfl⟩⟩
  trans _ _ _ := Spares.trans

/-- A change under one key that spares what is stored there. -/
theorem Spares.of_get? {o? : Option (Object k)} (ha : Advanced s s')
    (hget : ∀ key', s'.objects.get? key' = if key' = key then o? else s.objects.get? key')
    (hkept : ∀ o, s.objects.get? key = some o → f ∈ o.metadata.guards →
      ∃ o', o? = some o' ∧ f ∈ o'.metadata.guards ∧ o'.metadata.uid = o.metadata.uid) :
    Spares f s s' where
  toAdvanced := ha
  kept key' o ho hf := by
    rw [hget]
    split
    · next he => exact hkept o (he ▸ ho) hf
    · exact ⟨o, ho, hf, rfl⟩

theorem spares_create (h : s.create now o = .ok (o', s')) : Spares f s s' := by
  obtain ⟨-, key, hkey, hnone, -⟩ := create_eq_ok_iff.1 h
  exact .of_get? (advanced_create h) (get?_create h hkey) fun _ ho => by simp [hnone] at ho

/-- A replacement spares what carries the finalizer if it carries it itself. It need not when what
is stored does not, or has another version than the replacement asks for. -/
theorem spares_replace (h : s.replace o = .ok (o', s'))
    (hkept : ∀ key current, o.key = .ok key → s.objects.get? key = some current →
      (∀ v, o.metadata.resourceVersion = some v → current.metadata.resourceVersion = some v) →
      f ∈ current.metadata.guards → f ∈ o.metadata.guards) : Spares f s s' := by
  obtain ⟨-, key, current, hkey, hcurrent, hversion, ho', -⟩ := replace_eq_ok_iff.1 h
  refine .of_get? (advanced_replace h) (get?_replace h hkey) fun x hx hf => ?_
  obtain rfl : current = x := by simpa [hcurrent] using hx
  have hf' : f ∈ o'.metadata.guards := by
    rw [ho']
    exact hkept key current hkey hcurrent hversion hf
  refine ⟨o', ?_, hf', by rw [ho', uid_replacement]⟩
  simp [remaining, Metadata.isGuarded, List.ne_nil_of_mem hf']

theorem spares_replaceStatus (h : s.replaceStatus o = .ok (o', s')) : Spares f s s' := by
  obtain ⟨-, key, current, hkey, hcurrent, -, ho', -⟩ := replaceStatus_eq_ok_iff.1 h
  refine .of_get? (advanced_replaceStatus h) (get?_replaceStatus h hkey) fun x hx hf => ?_
  obtain rfl : current = x := by simpa [hcurrent] using hx
  exact ⟨o', rfl, by rwa [ho', guards_withStatus], by rw [ho', uid_withStatus]⟩

/-- A deletion only marks what carries a finalizer. -/
theorem spares_deletion (s : Store k) (now : Instant) (key : Key) :
    Spares f s (s.deletion now key) where
  toAdvanced := advanced_deletion s now key
  kept key' o ho hf := by
    by_cases he : key' = key
    · subst he
      have hw := withdrawn_deletion s now key'
      rw [ho] at hw
      generalize (s.deletion now key').objects.get? key' = o? at hw
      cases hw with
      | gone hg => simp [Metadata.isGuarded, List.ne_nil_of_mem hf] at hg
      | marked at_ version => exact ⟨_, rfl, hf, rfl⟩
      | kept => exact ⟨_, rfl, hf, rfl⟩
    · exact ⟨o, by rw [get?_deletion_of_ne s now he, ho], hf, rfl⟩

end PolicyOperator.Store
