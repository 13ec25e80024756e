import PolicyOperator.Artifact
import PolicyOperator.Proofs.Store.Writes

/-!
# Labels and selections

A policy's artifacts are tagged with its key: the label of the operator, the policy's name and the
policy's namespace. `Labels.Tagged` says so; an object is tagged with one key at most
(`Tagged.unique`), what is rendered for a policy is tagged with the policy's key
(`tagged_labels`), and new labels win over old ones (`Tagged.overlay`). The two selectors that the
engines clean up with find exactly the tags (`accepts_ofPolicyName_iff`, `accepts_inNamespace_iff`).
A namespace lists each object once, in the order of the names (`Store.pairwise_list`).
-/

namespace PolicyOperator

/-! ## Selectors -/

theorem Selector.accepts_iff {selector : Selector} {labels : Option TextMap} :
    selector.accepts labels = true ↔
      ∀ key value, selector.get? key = some value → labels.bind (·.get? key) = some value := by
  simp only [Selector.accepts, List.all_eq_true, beq_iff_eq]
  exact ⟨fun h key value hget => h (key, value) ((selector.mem_entries_iff key value).2 hget),
    fun h e he => h e.1 e.2 ((selector.mem_entries_iff e.1 e.2).1 he)⟩

theorem Store.mem_list_iff {k : ResourceKind} {s : Store k} {ns : Option String}
    {selector : Selector} {o : Object k} :
    o ∈ s.list ns selector ↔ ∃ key, s.objects.get? key = some o ∧ (∀ n, ns = some n → n = key.ns) ∧
      selector.accepts o.metadata.labels = true := by
  simp only [Store.list, List.mem_map, List.mem_filter, Bool.and_eq_true, Option.all_eq_true,
    beq_iff_eq, Prod.exists, exists_eq_right, SortedMap.mem_entries_iff]

section
variable {k : ResourceKind} {s : Store k} {ns : String} {selector : Selector}
  {q : Object k → Bool} {key : Key}

/-- Without a selector everything in the namespace is listed. -/
theorem Store.mem_list_namespace_iff {o : Object k} :
    o ∈ s.list (some ns) ∅ ↔ ∃ name, s.objects.get? ⟨ns, name⟩ = some o := by
  rw [mem_list_iff]
  constructor
  · rintro ⟨key, hget, hns, -⟩
    exact ⟨key.name, hns ns rfl ▸ hget⟩
  · rintro ⟨name, hget⟩
    exact ⟨_, hget, fun n hn => (Option.some.inj hn).symm, rfl⟩

/-- What is listed in a namespace is in the order of the names. -/
theorem Store.pairwise_list (hs : s.All fun key o => o.key = .ok key) :
    (s.list (some ns) selector).Pairwise fun a b => compare a.displayName b.displayName = .lt := by
  rw [Store.list, List.pairwise_map]
  refine List.Pairwise.imp_of_mem (fun {a b} ha hb hlt => ?_) (s.objects.ordered.filter _)
  obtain ⟨hmem, hselected⟩ := List.mem_filter.1 ha
  obtain ⟨hmem', hselected'⟩ := List.mem_filter.1 hb
  have hname := Object.displayName_of_key (hs a.1 a.2 ((s.objects.mem_entries_iff a.1 a.2).1 hmem))
  have hname' := Object.displayName_of_key
    (hs b.1 b.2 ((s.objects.mem_entries_iff b.1 b.2).1 hmem'))
  have hns : a.1.ns = b.1.ns := by
    simp only [Option.all_some, Bool.and_eq_true, beq_iff_eq] at hselected hselected'
    rw [← hselected.1, ← hselected'.1]
  rw [hname, hname']
  have hlex : (compare a.1.ns b.1.ns).then (compare a.1.name b.1.name) = .lt := hlt
  have hsame : compare b.1.ns b.1.ns = .eq := Std.ReflCmp.compare_self
  rwa [hns, hsame] at hlex

/-! Keys that are read off listed objects are those under which such objects are stored. -/

theorem Store.exists_filtered_iff (hs : s.All fun key o => o.key = .ok key) :
    (∃ o ∈ (s.list (some ns) selector).filter q, key = ⟨ns, o.displayName⟩) ↔
      ∃ o, s.objects.get? key = some o ∧ key.ns = ns ∧
        selector.accepts o.metadata.labels = true ∧ q o = true := by
  constructor
  · rintro ⟨o, hfiltered, rfl⟩
    obtain ⟨hlisted, hq⟩ := List.mem_filter.1 hfiltered
    obtain ⟨key, hget, hns, haccepts⟩ := mem_list_iff.1 hlisted
    have hkey : (⟨ns, o.displayName⟩ : Key) = key := by
      rw [Object.displayName_of_key (hs key o hget), hns ns rfl]
    exact ⟨o, hkey ▸ hget, rfl, haccepts, hq⟩
  · rintro ⟨o, hget, rfl, haccepts, hq⟩
    have hlisted : o ∈ s.list (some key.ns) selector :=
      mem_list_iff.2 ⟨key, hget, fun n hn => (Option.some.inj hn).symm, haccepts⟩
    refine ⟨o, List.mem_filter.2 ⟨hlisted, hq⟩, ?_⟩
    rw [Object.displayName_of_key (hs key o hget)]

theorem Store.exists_listed_iff (hs : s.All fun key o => o.key = .ok key) :
    (∃ o ∈ s.list (some ns) selector, key = ⟨ns, o.displayName⟩) ↔
      ∃ o, s.objects.get? key = some o ∧ key.ns = ns ∧
        selector.accepts o.metadata.labels = true := by
  have hall : (s.list (some ns) selector).filter (fun _ => true) = s.list (some ns) selector :=
    List.filter_eq_self.2 fun _ _ => rfl
  rw [← hall, exists_filtered_iff hs]
  simp only [and_true]

/-- The same for a list over all namespaces. -/
theorem Store.exists_listed_anywhere_iff (hs : s.All fun key o => o.key = .ok key) :
    (∃ o ∈ s.list none selector, key = ⟨o.metadata.nsOrEmpty, o.displayName⟩) ↔
      ∃ o, s.objects.get? key = some o ∧ selector.accepts o.metadata.labels = true := by
  have hplace : ∀ key o, s.objects.get? key = some o →
      (⟨o.metadata.nsOrEmpty, o.displayName⟩ : Key) = key := fun key o hget => by
    rw [Object.nsOrEmpty_of_key (hs key o hget), Object.displayName_of_key (hs key o hget)]
  constructor
  · rintro ⟨o, hlisted, rfl⟩
    obtain ⟨key, hget, -, haccepts⟩ := mem_list_iff.1 hlisted
    exact ⟨o, hplace key o hget ▸ hget, haccepts⟩
  · rintro ⟨o, hget, haccepts⟩
    exact ⟨o, mem_list_iff.2 ⟨key, hget, nofun, haccepts⟩, (hplace key o hget).symm⟩

end

namespace Labels

/-! ## Tags -/

/-- The labels of an artifact of the policy with a key. -/
structure Tagged (labels : Option TextMap) (key : Key) : Prop where
  manager : labels.bind (·.get? managedBy) = some manager
  name : labels.bind (·.get? policyName) = some key.name
  ns : labels.bind (·.get? policyNamespace) = some key.ns

variable {labels : Option TextMap} {key key' : Key}

instance : Decidable (Tagged labels key) :=
  decidable_of_iff
    (labels.bind (·.get? managedBy) = some manager ∧
      labels.bind (·.get? policyName) = some key.name ∧
      labels.bind (·.get? policyNamespace) = some key.ns)
    ⟨fun h => ⟨h.1, h.2.1, h.2.2⟩, fun h => ⟨h.manager, h.name, h.ns⟩⟩

theorem Tagged.unique (h : Tagged labels key) (h' : Tagged labels key') : key = key' := by
  have hname := h.name.symm.trans h'.name
  have hns := h.ns.symm.trans h'.ns
  cases key; cases key'
  simp_all

/-- Labels laid over others tag with their own key. -/
theorem Tagged.overlay {new : TextMap} (h : Tagged (some new) key) (old : TextMap) :
    Tagged (some (old.overlay new)) key := by
  have hover : ∀ {label value : String}, new.get? label = some value →
      (old.overlay new).get? label = some value := fun hget => by
    rw [SortedMap.get?_overlay, hget, Option.some_or]
  exact ⟨hover h.manager, hover h.name, hover h.ns⟩

theorem Tagged.laid_over (h : Tagged labels key) (old : TextMap) :
    Tagged (some (old.overlay (labels.getD ∅))) key := by
  cases labels with
  | none => exact absurd h.manager (by simp)
  | some new => exact h.overlay old

theorem get?_ofPolicyName (name label : String) :
    (ofPolicyName name).get? label =
      if label = policyName then some name
      else if label = managedBy then some manager else none := by
  show ((SortedMap.empty.insert managedBy manager).insert policyName name).get? label = _
  rw [SortedMap.get?_insert, SortedMap.get?_insert, SortedMap.get?_empty]

theorem accepts_ofPolicyName_iff {name : String} :
    (ofPolicyName name).accepts labels = true ↔
      labels.bind (·.get? managedBy) = some manager ∧
        labels.bind (·.get? policyName) = some name := by
  rw [Selector.accepts_iff]
  constructor
  · intro h
    exact ⟨h managedBy manager (by rw [get?_ofPolicyName, if_neg (by decide), if_pos rfl]),
      h policyName name (by rw [get?_ofPolicyName, if_pos rfl])⟩
  · rintro ⟨hmanager, hname⟩ label value hget
    rw [get?_ofPolicyName] at hget
    split at hget
    · next he => exact he ▸ hget ▸ hname
    · split at hget
      · next he => exact he ▸ hget ▸ hmanager
      · cases hget

theorem accepts_inNamespace_iff {name ns : String} :
    (inNamespace (ofPolicyName name) ns).accepts labels = true ↔ Tagged labels ⟨ns, name⟩ := by
  rw [Selector.accepts_iff]
  simp only [inNamespace, SortedMap.get?_insert, get?_ofPolicyName]
  constructor
  · intro h
    exact ⟨h managedBy manager (by rw [if_neg (by decide), if_neg (by decide), if_pos rfl]),
      h policyName name (by rw [if_neg (by decide), if_pos rfl]),
      h policyNamespace ns (by rw [if_pos rfl])⟩
  · rintro h label value hget
    split at hget
    · next he => exact he ▸ hget ▸ h.ns
    · split at hget
      · next he => exact he ▸ hget ▸ h.name
      · split at hget
        · next he => exact he ▸ hget ▸ h.manager
        · cases hget

/-! ## The labels of a policy's artifacts -/

/-- What is rendered for a policy is tagged with its key, as long as its own labels are others than
the three of the tag. -/
theorem tagged_labels {p : Policy} (hkey : p.key = .ok key) {extra : List (String × String)}
    (hextra : ∀ e ∈ extra, e.1 ≠ managedBy ∧ e.1 ≠ policyName ∧ e.1 ≠ policyNamespace) :
    Tagged (some (Artifact.labels p extra)) key := by
  obtain ⟨hname, hns⟩ := Object.key_eq_ok_iff.1 hkey
  have hshared : ofPolicy p =
      ((ofPolicyName key.name).insert policyType p.spec.type).insert policyNamespace key.ns := by
    simp only [ofPolicy, hname, hns, Option.getD_some]
  have own : ∀ {label : String}, (∀ e ∈ extra, e.1 ≠ label) →
      (Artifact.labels p extra).get? label = (ofPolicy p).get? label :=
    fun h => SortedMap.get?_insertAll_of_notMem _ h
  refine ⟨(own fun e he => (hextra e he).1).trans ?_, (own fun e he => (hextra e he).2.1).trans ?_,
    (own fun e he => (hextra e he).2.2).trans ?_⟩
  · rw [hshared, SortedMap.get?_insert, if_neg (by decide), SortedMap.get?_insert,
      if_neg (by decide), get?_ofPolicyName, if_neg (by decide), if_pos rfl]
  · rw [hshared, SortedMap.get?_insert, if_neg (by decide), SortedMap.get?_insert,
      if_neg (by decide), get?_ofPolicyName, if_pos rfl]
  · rw [hshared, SortedMap.get?_insert, if_pos rfl]

end Labels

end PolicyOperator
