import PolicyOperator.Proofs.Store.Versions

/-!
# Stores that operations lead to

`Later s s'`: operations lead from `s` to `s'`, and the switch that makes writes fail was thrown now
and then. It is the finest preorder that every operation keeps; that versions only advance follows
(`Later.advanced`).

A store is `Reached` when operations lead to it from the empty one. Its objects are `Registered`:
they are filed under their own keys, have an identity and a generation, and those that are being
deleted wait for a finalizer (`Later.registered`, `Reached.registered`).
-/

namespace PolicyOperator

variable {k : ResourceKind}

/-- What a store sees to for each of its objects. -/
structure Object.Registered (key : Key) (o : Object k) : Prop where
  filed : o.key = .ok key
  identified : ∃ uid, o.metadata.uid = some uid
  counted : ∃ generation, o.metadata.generation = some generation
  leaving : o.metadata.isDeleting = true → o.metadata.isGuarded = true

namespace Store

/-- Operations lead from one store to another. -/
inductive Later : Store k → Store k → Prop
  | refl (s : Store k) : Later s s
  | create {s t u : Store k} {now : Instant} {o o' : Object k} :
      Later s t → t.create now o = .ok (o', u) → Later s u
  | replace {s t u : Store k} {o o' : Object k} :
      Later s t → t.replace o = .ok (o', u) → Later s u
  | replaceStatus {s t u : Store k} {o o' : Object k} :
      Later s t → t.replaceStatus o = .ok (o', u) → Later s u
  | delete {s t u : Store k} {now : Instant} {ns name : String} {found : Bool} :
      Later s t → t.delete now ns name = .ok (found, u) → Later s u
  | switch {s t : Store k} (failing : Bool) : Later s t → Later s { t with failing := failing }

/-- Operations lead to the store from the empty one. -/
def Reached (s : Store k) : Prop := Later {} s

variable {s t u : Store k} {now : Instant} {o o' : Object k} {key : Key}

theorem Later.trans (h : Later s t) (h' : Later t u) : Later s u := by
  induction h' with
  | refl => exact h
  | create _ hop ih => exact .create ih hop
  | replace _ hop ih => exact .replace ih hop
  | replaceStatus _ hop ih => exact .replaceStatus ih hop
  | delete _ hop ih => exact .delete ih hop
  | switch failing _ ih => exact .switch failing ih

theorem Reached.later (hs : Reached s) (h : Later s t) : Reached t := Later.trans hs h

theorem Later.advanced (h : Later s t) : Advanced s t := by
  induction h with
  | refl => exact Std.Refl.refl s
  | create _ hop ih => exact ih.trans (advanced_create hop)
  | replace _ hop ih => exact ih.trans (advanced_replace hop)
  | replaceStatus _ hop ih => exact ih.trans (advanced_replaceStatus hop)
  | delete _ hop ih =>
    obtain ⟨-, -, rfl⟩ := delete_eq_ok_iff.1 hop
    exact ih.trans (advanced_deletion ..)
  | switch _ _ ih => exact ⟨ih.last, ih.fresh, ih.filed⟩

theorem Reached.numbered (h : Reached s) : Numbered s := numbered_empty.advanced h.advanced

/-! ## Registered objects -/

theorem registered_created (hkey : o.key = .ok key) (version : Nat) :
    (created o now version).Registered key where
  filed := (Object.key_congr rfl rfl).trans hkey
  identified := ⟨_, rfl⟩
  counted := ⟨_, rfl⟩
  leaving := nofun

/-- A replacement that stays in the store. -/
theorem registered_replacement {current : Object k} (hcurrent : current.Registered key)
    (hkey : o.key = .ok key) {version : Nat}
    (h : remaining (replacement current o version) = some o') : o'.Registered key := by
  have hleaving : o'.metadata.isDeleting = true → o'.metadata.isGuarded = true := by
    intro hdeleting
    have heq := eq_of_remaining h
    subst heq
    unfold remaining at h
    cases hguarded : (replacement current o version).metadata.isGuarded with
    | true => rfl
    | false => simp only [hdeleting, hguarded] at h; exact nomatch h
  obtain rfl := eq_of_remaining h
  obtain ⟨uid, huid⟩ := hcurrent.identified
  exact ⟨(Object.key_congr rfl rfl).trans hkey, ⟨uid, huid⟩, ⟨_, rfl⟩, hleaving⟩

theorem registered_withStatus {current : Object k} (hcurrent : current.Registered key)
    (version : Nat) : (withStatus current o version).Registered key where
  filed := (Object.key_congr rfl rfl).trans hcurrent.filed
  identified := hcurrent.identified
  counted := hcurrent.counted
  leaving h := hcurrent.leaving (by simpa using h)

theorem registered_withdrawn {o? : Option (Object k)}
    (hcurrent : ∀ o, o? = some o → o.Registered key) (h : Withdrawn o? (some o')) :
    o'.Registered key := by
  cases h with
  | @marked o _ _ hguarded _ =>
    have ho := hcurrent o rfl
    exact ⟨(Object.key_congr (o := o) rfl rfl).trans ho.filed, ho.identified, ho.counted,
      fun _ => hguarded⟩
  | kept => exact hcurrent _ rfl

theorem All.of_get? {P : Key → Object k → Prop} {o? : Option (Object k)} (hs : s.All P)
    (hget : ∀ key', t.objects.get? key' = if key' = key then o? else s.objects.get? key')
    (ho : ∀ o, o? = some o → P key o) : t.All P := by
  intro key' o hkey'
  rw [hget] at hkey'
  split at hkey'
  · next he => exact he ▸ ho o hkey'
  · exact hs key' o hkey'

/-- Operations keep every object registered. -/
theorem Later.registered (h : Later s t) (hs : s.All Object.Registered) :
    t.All Object.Registered := by
  induction h with
  | refl => exact hs
  | create _ hop ih =>
    obtain ⟨-, key, hkey, -, ho', -⟩ := create_eq_ok_iff.1 hop
    refine ih.of_get? (get?_create hop hkey) fun o ho => ?_
    cases ho
    exact ho' ▸ registered_created hkey _
  | replace _ hop ih =>
    obtain ⟨-, key, current, hkey, hcurrent, -, ho', -⟩ := replace_eq_ok_iff.1 hop
    refine ih.of_get? (get?_replace hop hkey) fun o ho => ?_
    exact registered_replacement (ih key current hcurrent) hkey (ho' ▸ ho)
  | replaceStatus _ hop ih =>
    obtain ⟨-, key, current, hkey, hcurrent, -, ho', -⟩ := replaceStatus_eq_ok_iff.1 hop
    refine ih.of_get? (get?_replaceStatus hop hkey) fun o ho => ?_
    cases ho
    exact ho' ▸ registered_withStatus (ih key current hcurrent) _
  | @delete t u now ns name _ _ hop ih =>
    obtain ⟨-, -, rfl⟩ := delete_eq_ok_iff.1 hop
    intro key o ho
    by_cases he : key = ⟨ns, name⟩
    · subst he
      have hw := withdrawn_deletion t now ⟨ns, name⟩
      rw [ho] at hw
      exact registered_withdrawn (ih _) hw
    · rw [get?_deletion_of_ne t now he] at ho
      exact ih key o ho
  | switch _ _ ih => exact ih

theorem Reached.registered (h : Reached s) : s.All Object.Registered :=
  Later.registered h fun _ _ ho => by cases ho

end Store

end PolicyOperator
