import PolicyOperator.Proofs.Policies.Runs

/-!
# No artifact without its policy

The theorem (`owner_of_tagged`) is about runs with any number of policies, whose types stay and
whose users leave the operator's finalizer alone: every artifact that is tagged with a key belongs
to a policy that is stored under that key and carries the finalizer.

The invariant (`Inv`) adds the type: the policy declares the kind of tool that makes such
artifacts. Artifacts are only made for a policy with the finalizer, and it is only taken away after
a cleanup of the declared kind, which misses nothing that is tagged with the policy's key.
-/

namespace PolicyOperator.PolicyLifecycle.Orphans

open Cluster Engine

variable {key : Key} {p : Policy} {c c' : Cluster} {e : Event}

/-- Users create, replace and delete policies, but replace none by one of another type, nor by one
without the operator's finalizer when it was there. Others leave policies and artifacts alone. -/
def Allowed (c : Cluster) (e : Event) (c' : Cluster) : Prop :=
  match e with
  | .create _ | .delete _ | .drive _ _ _ => True
  | .replace p => ∀ key current, p.key = .ok key → c.policies.objects.get? key = some current →
      p.spec.type = current.spec.type ∧
        (finalizer ∈ current.metadata.guards → finalizer ∈ p.metadata.guards)
  | .outside => ∀ k ∈ [ResourceKind.policy, .configMap, .job, .chaosEngine],
      (c'.store k).objects = (c.store k).objects

/-- A policy that may have artifacts of a kind. -/
def Owner (kind : ToolKind) (c : Cluster) (pk : Key) : Prop :=
  ∃ p, (c.store .policy).objects.get? pk = some p ∧ p.spec.kind = .ok kind ∧
    finalizer ∈ p.metadata.guards

/-- The invariant: policies are filed under their own keys, and artifacts have owners. -/
structure Inv (c : Cluster) : Prop where
  filed : (c.store .policy).All fun key p => p.key = .ok key
  sound : ∀ kind : ToolKind, (c.store kind.artifact).All (Sound kind)
  owned : ∀ kind : ToolKind, (c.store kind.artifact).All fun _ o =>
    ∀ pk, Labels.Tagged o.metadata.labels pk → Owner kind c pk

theorem Inv.plain (h : Inv c) (kind : ToolKind) : (c.store kind.artifact).All Object.Plain :=
  (h.sound kind).mono fun _ _ hs => hs.1

/-- A write of policies alone keeps the invariant if it takes no owner away. -/
theorem Inv.filedPolicy {o? : Option Policy} (h : Inv c) (hfiled : Filed key o? c c')
    (hkey : ∀ p, o? = some p → p.key = .ok key)
    (howner : ∀ kind, Owner kind c key → Owner kind c' key) : Inv c' where
  filed := hfiled.all h.filed hkey
  sound kind := by
    rw [artifact_of_filed hfiled]
    exact h.sound kind
  owned kind key' o hget pk htagged := by
    rw [artifact_of_filed hfiled] at hget
    have hold := h.owned kind key' o hget pk htagged
    by_cases he : pk = key
    · exact he ▸ howner kind (he ▸ hold)
    · obtain ⟨p, hp, hrest⟩ := hold
      exact ⟨p, by rwa [hfiled.other he], hrest⟩

theorem Inv.create (h : Inv c) (p : Policy) : Inv (ClusterM.create p c).2 := by
  obtain he | ⟨key, v, hkey, hnone, hfiled⟩ := ClusterM.state_create p c
  · rwa [he]
  · refine h.filedPolicy hfiled (fun p' hp' => ?_) fun kind ⟨p', hp', _⟩ => ?_
    · cases hp'
      exact (Object.key_congr rfl rfl).trans hkey
    · rw [hnone] at hp'
      cases hp'

theorem Inv.replace (h : Inv c) (ha : Allowed c (.replace p) c') :
    Inv (ClusterM.replace p c).2 := by
  obtain he | ⟨key, current, v, hkey, hcurrent, hfiled⟩ := ClusterM.state_replace p c
  · rwa [he]
  obtain ⟨htype, hguards⟩ := ha key current hkey hcurrent
  refine h.filedPolicy hfiled (fun p' hp' => ?_) fun kind ⟨p', hp', hkind, hguard⟩ => ?_
  · rw [Store.eq_of_remaining hp']
    exact (Object.key_congr rfl rfl).trans hkey
  · obtain rfl : current = p' := by simpa [hcurrent] using hp'
    have hguard' := hguards hguard
    refine ⟨_, hfiled.self.trans (Store.remaining_of_guarded ?_), ?_, hguard'⟩
    · exact Metadata.isGuarded_of_mem hguard'
    · rw [Store.spec_replacement]
      exact (congrArg ToolKind.ofName htype).trans hkind

theorem Inv.delete (h : Inv c) (key : Key) :
    Inv (ClusterM.delete .policy key.ns key.name c).2 := by
  obtain he | ⟨o?, hwithdrawn, hfiled⟩ := ClusterM.state_delete .policy key c
  · rwa [he]
  refine h.filedPolicy hfiled (fun p' hp' => (hp' ▸ hwithdrawn).filed (h.filed key))
    fun kind ⟨p, hp, hkind, hguard⟩ => ?_
  rw [hp] at hwithdrawn
  cases hwithdrawn with
  | gone hg => exact absurd (Metadata.isGuarded_of_mem hguard) (by simp [hg])
  | marked _ _ _ _ => exact ⟨_, hfiled.self, hkind, hguard⟩
  | kept _ _ => exact ⟨_, hfiled.self, hkind, hguard⟩

/-- An owner that is driven stays one, as long as something is tagged with its key. -/
theorem Inv.owner_driven {kind : ToolKind} {r : Except Error Transition} (h : Inv c)
    (hget : (c.store .policy).objects.get? key = some p) (hd : Driven key p c r c') {pk : Key}
    (howner : Owner kind c pk) {key' : Key} {o : Object kind.artifact}
    (ho : (c'.store kind.artifact).objects.get? key' = some o)
    (htagged : Labels.Tagged o.metadata.labels pk) : Owner kind c' pk := by
  obtain ⟨p₁, hp₁, hkind, hguard⟩ := howner
  by_cases he : pk = key
  · subst he
    obtain rfl : p = p₁ := by simpa [hget] using hp₁
    obtain ⟨p', hp', hr, hguard'⟩ | ⟨-, c₁, hswept, hstores⟩ := hd.guarded_or_swept hget hguard
    · exact ⟨p', hp', by rw [hr.spec, hkind], hguard'⟩
    · obtain ⟨kind', hkind', hcleaned⟩ | ⟨⟨_, hunknown⟩, -⟩ := hswept
      · obtain rfl : kind = kind' := by simpa [hkind] using hkind'
        rw [hstores] at ho
        exact absurd htagged (hcleaned.not_tagged (h.filed _ _ hget) (h.sound kind) ho)
      · rw [hkind] at hunknown
        cases hunknown
  · exact ⟨p₁, by rwa [hd.other he], hkind, hguard⟩

theorem Inv.driven {r : Except Error Transition} (h : Inv c)
    (hget : (c.store .policy).objects.get? key = some p) (hd : Driven key p c r c') : Inv c' where
  filed key' p' hp' := by
    by_cases he : key' = key
    · subst he
      exact (hd.revised hget hp').filed (h.filed _ _ hget)
    · rw [hd.other he] at hp'
      exact h.filed _ _ hp'
  sound kind := hd.all_artifacts (h.plain kind) (h.sound kind) fun _ _ hr => hr.sound
  owned kind key' o ho pk htagged := by
    obtain hold | ⟨hstep, hengine, hr⟩ := hd.made (h.plain kind) ho
    · exact h.owner_driven hget hd (h.owned kind key' o hold pk htagged) ho htagged
    · obtain rfl : key = pk := hr.tagged.unique htagged
      have hguard : finalizer ∈ p.metadata.guards :=
        (Lifecycle.guarded_observe_iff ..).1 (Observed.step_of_sync hstep).2.1
      exact h.owner_driven hget hd ⟨p, hget, (kind_of_engineFor hengine).1, hguard⟩ ho htagged

/-- Every allowed event keeps the invariant. -/
theorem Inv.step (h : Inv c) (he : Happens c e c') (ha : Allowed c e c') : Inv c' := by
  cases e with
  | create p => cases he; exact h.create p
  | replace p => cases he; exact h.replace ha
  | delete key => cases he; exact h.delete key
  | drive key p answer =>
    obtain ⟨hget, hd⟩ := he.driven fun hget => h.filed key p hget
    exact h.driven hget hd
  | outside =>
    have hpolicies : (c'.store .policy).objects = (c.store .policy).objects := ha _ (by simp)
    have hartifacts : ∀ kind : ToolKind,
        (c'.store kind.artifact).objects = (c.store kind.artifact).objects := fun kind =>
      ha _ (by cases kind <;> simp [ToolKind.artifact])
    refine ⟨fun key p hp => ?_, fun kind key o ho => ?_, fun kind key o ho pk htagged => ?_⟩
    · rw [hpolicies] at hp
      exact h.filed key p hp
    · rw [hartifacts] at ho
      exact h.sound kind key o ho
    · rw [hartifacts] at ho
      obtain ⟨p, hp, hrest⟩ := h.owned kind key o ho pk htagged
      exact ⟨p, by rwa [hpolicies], hrest⟩

/-- Policies under their own keys, and no artifacts yet. -/
structure Blank (c : Cluster) : Prop where
  filed : c.policies.All fun key p => p.key = .ok key
  artifacts : ∀ (kind : ToolKind) key, (c.store kind.artifact).objects.get? key = none

theorem Blank.inv (h : Blank c) : Inv c where
  filed := h.filed
  sound kind key o ho := by rw [h.artifacts] at ho; cases ho
  owned kind key o ho := by rw [h.artifacts] at ho; cases ho

/-- In every run, each config map, job or chaos engine that is tagged with the key of a policy has
that policy stored, with the operator's finalizer. -/
theorem owner_of_tagged {c₀ c : Cluster} {history : List Event} (hstart : Blank c₀)
    (hrun : Run Allowed c₀ history c) {kind : ToolKind} {key pk : Key}
    {o : Object kind.artifact} (hget : (c.store kind.artifact).objects.get? key = some o)
    (htagged : Labels.Tagged o.metadata.labels pk) :
    ∃ p, c.policies.objects.get? pk = some p ∧ finalizer ∈ p.metadata.guards := by
  have hinv : Inv c :=
    hrun.invariant (I := fun _ => Inv) hstart.inv fun _ _ _ _ h he ha => h.step he ha
  obtain ⟨p, hp, -, hguard⟩ := hinv.owned kind key o hget pk htagged
  exact ⟨p, hp, hguard⟩

/-- The rules of a policy that was synced. -/
theorem owner_of_tagged_sample : ∃ p : Policy,
    Sample.synced.policies.objects.get? ⟨"shop", "shells"⟩ = some p ∧
      finalizer ∈ p.metadata.guards := by
  have hblank : Blank Sample.start := by
    refine ⟨fun _ _ h => ?_, fun kind _ => ?_⟩
    · cases h
    · cases kind <;> rfl
  have hrun : Run Allowed Sample.start _ Sample.synced :=
    (((Run.start.step (.create Sample.start Sample.policy) trivial).step
      (Sample.happens_driven rfl) trivial).step (Sample.happens_driven rfl) trivial).step
      (Sample.happens_driven rfl) trivial
  obtain ⟨o, ho⟩ : ∃ o, Sample.synced.configMaps.objects.get?
      ⟨"shop", "eirenyx-falco-policy-shells"⟩ = some o := ⟨_, rfl⟩
  have htagged : Labels.Tagged (Object.metadata o).labels ⟨"shop", "shells"⟩ := by
    cases ho
    decide
  exact @owner_of_tagged _ _ _ hblank hrun .falco _ _ _ ho htagged

end PolicyOperator.PolicyLifecycle.Orphans
