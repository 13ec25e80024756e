import PolicyOperator.Proofs.Policies.Runs

/-!
# What a change of type leaves behind

A cleanup is about the type that the policy declares now. So an artifact that was rendered under an
earlier type stays until the policy is cleaned up under that type again, which need not happen
before it is deleted.

`left key history kind` says of a run that it synced the policy under a kind and has not cleaned up
under that kind since. In runs without failing writes every artifact is of a policy and a kind that
are left (`Inv.rendered`), and a policy that is driven alone has artifacts of every kind that is
left (`Inv.present`). Hence a deletion, and a change of type, leaves nothing behind exactly when no
other kind than the declared one is left (`nothing_left_iff`), and one edit of the type before a
deletion is enough to leave something (`rules_left_after_deletion`).
-/

namespace PolicyOperator.PolicyLifecycle.Leftovers

open Cluster Engine

variable {key : Key} {kind : ToolKind} {p : Policy} {c c' : Cluster} {e : Event}
  {history : List Event}

/-- The policy was synced under the kind and not disabled or finalized under it since. -/
def left (key : Key) : List Event → ToolKind → Prop
  | [], _ => False
  | .drive key' p (.ok (.synced _)) :: earlier, kind =>
    (key' = key ∧ p.spec.kind = .ok kind) ∨ left key earlier kind
  | .drive key' p (.ok .disabled) :: earlier, kind
  | .drive key' p (.ok .finalized) :: earlier, kind =>
    ¬ (key' = key ∧ p.spec.kind = .ok kind) ∧ left key earlier kind
  | _ :: earlier, kind => left key earlier kind

/-- No other policy was driven. -/
def Alone (key : Key) (history : List Event) : Prop :=
  ∀ key' p answer, .drive key' p answer ∈ history → key' = key

theorem Alone.of_cons (h : Alone key (e :: history)) : Alone key history :=
  fun key' p answer he => h key' p answer (List.mem_cons_of_mem _ he)

/-- What is left of a policy stems from driving it. -/
theorem driven_of_left (h : left key history kind) : ∃ p answer, .drive key p answer ∈ history := by
  induction history with
  | nil => exact h.elim
  | cons e earlier ih =>
    have weaken : left key earlier kind → ∃ p answer, .drive key p answer ∈ e :: earlier :=
      fun h => let ⟨p, answer, hp⟩ := ih h; ⟨p, answer, List.mem_cons_of_mem _ hp⟩
    unfold left at h
    split at h
    · next he => cases he
    · next he =>
      cases he
      obtain ⟨rfl, -⟩ | h := h
      · exact ⟨_, _, List.mem_cons_self⟩
      · exact weaken h
    · next he => cases he; exact weaken h.2
    · next he => cases he; exact weaken h.2
    · next he => cases he; exact weaken h

/-- The kinds of objects that driving a policy writes. -/
def written : List ResourceKind := [.policy, .policyReport, .configMap, .job, .chaosEngine]

/-- Users do what they like with policies, and the operator drives them. Others leave policies and
artifacts alone. No write is made to fail. -/
def Allowed (c : Cluster) (e : Event) (c' : Cluster) : Prop :=
  (∀ k ∈ written, (c'.store k).failing = false) ∧
    match e with
    | .create _ | .replace _ | .delete _ | .drive _ _ _ => True
    | .outside => ∀ k ∈ [ResourceKind.policy, .configMap, .job, .chaosEngine],
        (c'.store k).objects = (c.store k).objects

/-- Some artifact of the kind is stored. -/
def Present (kind : ToolKind) (c : Cluster) : Prop :=
  ∃ key o, (c.store kind.artifact).objects.get? key = some o

theorem Present.congr
    (h : (c'.store kind.artifact).objects = (c.store kind.artifact).objects) :
    Present kind c' ↔ Present kind c := by
  unfold Present
  rw [h]

/-- The invariant: artifacts are of policies and kinds that are left, and a policy that is driven
alone has some of each kind that is left. -/
structure Inv (history : List Event) (c : Cluster) : Prop where
  writable : ∀ k ∈ written, (c.store k).failing = false
  filed : (c.store .policy).All fun key p => p.key = .ok key
  rendered : ∀ kind : ToolKind, (c.store kind.artifact).All fun key o =>
    ∃ pk, Rendered kind pk key o ∧ left pk history kind
  present : ∀ key kind, Alone key history → left key history kind → Present kind c

theorem Inv.sound (h : Inv history c) (kind : ToolKind) :
    (c.store kind.artifact).All (Sound kind) :=
  (h.rendered kind).mono fun _ _ ⟨_, hr, _⟩ => hr.sound

theorem Inv.plain (h : Inv history c) (kind : ToolKind) :
    (c.store kind.artifact).All Object.Plain :=
  (h.sound kind).mono fun _ _ hs => hs.1

theorem Inv.artifact_writable (h : Inv history c) (kind : ToolKind) :
    (c.store kind.artifact).failing = false :=
  h.writable _ (by cases kind <;> simp [written, ToolKind.artifact])

/-! ## Driving -/

section
variable {pk : Key} {r : Except Error Transition}

/-- What is left stays so, but for a cleanup of its kind. -/
theorem left_drive (h : left pk history kind)
    (hr : r = .ok .finalized ∨ r = .ok .disabled → ¬ (key = pk ∧ p.spec.kind = .ok kind)) :
    left pk (.drive key p r :: history) kind := by
  cases r with
  | error => exact h
  | ok t =>
    cases t with
    | finalized => exact ⟨hr (.inl rfl), h⟩
    | disabled => exact ⟨hr (.inr rfl), h⟩
    | synced => exact .inr h
    | released | finalizerAdded | ownerLinked => exact h

/-- No drive makes anything left of another kind than the declared one. -/
theorem left_of_drive (h : left pk (.drive key p r :: history) kind)
    (hne : p.spec.kind ≠ .ok kind) : left pk history kind := by
  cases r with
  | error => exact h
  | ok t =>
    cases t with
    | finalized | disabled => exact h.2
    | synced => exact h.resolve_left fun h => hne h.2
    | released | finalizerAdded | ownerLinked => exact h

/-- A deletion and a disabling come after a cleanup. -/
theorem swept_of_cleaned (hd : Driven key p c r c') (hr : r = .ok .finalized ∨ r = .ok .disabled) :
    ∃ c₁, Swept p c c₁ ∧ ∀ kind : ToolKind, c'.store kind.artifact = c₁.store kind.artifact := by
  cases hd with
  | finalized _ hswept hfiled => exact ⟨_, hswept, fun _ => artifact_of_filed hfiled⟩
  | disabled _ hswept hfiled => exact ⟨_, hswept, fun _ => artifact_of_filed hfiled⟩
  | _ => simp at hr

/-- Without failing writes a valid policy that is up for a sync gets one. -/
theorem Inv.synced (h : Inv history c) (hd : Driven key p c r c') (hstep : step p = .sync)
    (hengine : engineFor p = .ok kind) : ∃ d, r = .ok (.synced d) := by
  cases hd with
  | synced => exact ⟨_, rfl⟩
  | refused _ hs | cleanupStopped _ hs | unwritten _ hs => simp [hstep] at hs
  | released hs | guarded hs | linked hs | finalized hs | disabled hs => simp [hstep] at hs
  | invalid _ _ he => simp [hengine] at he
  | reconcileStopped _ _ _ _ hstopped =>
    exact absurd (hstopped (h.plain _)).1 (by simp [h.artifact_writable])
  | unpublished _ _ _ hr _ hreport hfail =>
    rw [hreport.confined.failing, hr.confined.failing] at hfail
    exact absurd hfail (by simp [h.writable .policy (by simp [written])])

/-- After a drive every artifact is left of some policy. -/
theorem Inv.rendered_driven (h : Inv history c) (hkey : p.key = .ok key)
    (hd : Driven key p c r c') {key' : Key} {o : Object kind.artifact}
    (ho : (c'.store kind.artifact).objects.get? key' = some o) :
    ∃ pk, Rendered kind pk key' o ∧ left pk (.drive key p r :: history) kind := by
  obtain hold | ⟨hstep, hengine, hr⟩ := hd.made (h.plain kind) ho
  · obtain ⟨pk, hr, hleft⟩ := h.rendered kind key' o hold
    refine ⟨pk, hr, left_drive hleft ?_⟩
    rintro hcleaned ⟨rfl, hkind⟩
    obtain ⟨c₁, ⟨kind', hkind', hc⟩ | ⟨⟨_, he⟩, -⟩, hstores⟩ := swept_of_cleaned hd hcleaned
    · obtain rfl : kind = kind' := by simpa [hkind] using hkind'
      rw [hstores] at ho
      exact hc.not_tagged hkey (h.sound kind) ho hr.tagged
    · simp [hkind] at he
  · obtain ⟨d, rfl⟩ := h.synced hd hstep hengine
    exact ⟨key, hr, .inl ⟨rfl, (kind_of_engineFor hengine).1⟩⟩

/-- A cleanup leaves artifacts of other kinds alone. -/
theorem present_swept {c₁ : Cluster} (hpresent : Present kind c) (hswept : Swept p c c₁)
    (hne : p.spec.kind ≠ .ok kind) : Present kind c₁ := by
  obtain ⟨kind₁, hkind, hcleaned⟩ | ⟨-, rfl⟩ := hswept
  · have hother : kind ≠ kind₁ := by
      rintro rfl
      exact hne hkind
    exact (Present.congr (by rw [hcleaned.store hother])).2 hpresent
  · exact hpresent

/-- After a drive of the policy there are artifacts of each kind that is left of it. -/
theorem Inv.present_driven (h : Inv history c) (hd : Driven key p c r c')
    (hp : left key history kind → Present kind c)
    (hleft : left key (.drive key p r :: history) kind) : Present kind c' := by
  have hpolicies := h.writable .policy (by simp [written])
  have hreports := h.writable .policyReport (by simp [written])
  have filed : ∀ {c₁ : Cluster} {o? : Option Policy}, Filed key o? c₁ c' →
      Present kind c₁ → Present kind c' := fun hfiled =>
    (Present.congr (by rw [artifact_of_filed hfiled])).2
  cases hd with
  | refused | released => exact hp hleft
  | guarded _ hfiled | linked _ hfiled | invalid _ _ _ hfiled => exact filed hfiled (hp hleft)
  | cleanupStopped _ _ _ hstopped =>
    obtain hfail | hfail := hstopped.failing
    · exact absurd hfail (by simp [h.artifact_writable])
    · exact absurd hfail (by simp [hreports])
  | unwritten _ _ hswept hfail =>
    exact absurd hfail (by simp [hswept.policies, hpolicies])
  | finalized _ hswept hfiled | disabled _ hswept hfiled =>
    exact filed hfiled (present_swept (hp hleft.2) hswept fun hkind => hleft.1 ⟨rfl, hkind⟩)
  | reconcileStopped _ _ _ _ hstopped =>
    exact absurd (hstopped (h.plain _)).1 (by simp [h.artifact_writable])
  | unpublished _ _ _ hr _ hreport hfail =>
    rw [hreport.confined.failing, hr.confined.failing] at hfail
    exact absurd hfail (by simp [hpolicies])
  | @synced c₁ c₂ _ _ kind₁ _ _ hengine hr hin hreport hfiled =>
    obtain ⟨hkind, hvalid⟩ := kind_of_engineFor hengine
    suffices hpresent : Present kind c₁ from
      filed hfiled ((Present.congr (by rw [artifact_of_reported hreport])).2 hpresent)
    by_cases he : kind = kind₁
    · exact he ▸ (hin (h.plain kind₁)).exists_artifact hvalid
    · refine (Present.congr (by rw [hr.store he])).2 (hp (left_of_drive hleft ?_))
      simpa [hkind] using Ne.symm he

end

/-! ## One event -/

/-- A user's write of policies keeps the invariant. -/
theorem Inv.filedPolicy {o? : Option Policy} (h : Inv history c) (hfiled : Filed key o? c c')
    (hkey : ∀ p, o? = some p → p.key = .ok key) : Inv history c' where
  writable k hk := by rw [hfiled.confined.failing, h.writable k hk]
  filed := hfiled.all h.filed hkey
  rendered kind := by
    rw [artifact_of_filed hfiled]
    exact h.rendered kind
  present key kind halone hleft :=
    (Present.congr (by rw [artifact_of_filed hfiled])).2 (h.present key kind halone hleft)

theorem Inv.create (h : Inv history c) (p : Policy) : Inv history (ClusterM.create p c).2 := by
  obtain he | ⟨key, v, hkey, -, hfiled⟩ := ClusterM.state_create p c
  · rwa [he]
  · refine h.filedPolicy hfiled fun p' hp' => ?_
    cases hp'
    exact (Object.key_congr rfl rfl).trans hkey

theorem Inv.replace (h : Inv history c) (p : Policy) : Inv history (ClusterM.replace p c).2 := by
  obtain he | ⟨key, current, v, hkey, -, hfiled⟩ := ClusterM.state_replace p c
  · rwa [he]
  · refine h.filedPolicy hfiled fun p' hp' => ?_
    rw [Store.eq_of_remaining hp']
    exact (Object.key_congr rfl rfl).trans hkey

theorem Inv.delete (h : Inv history c) (key : Key) :
    Inv history (ClusterM.delete .policy key.ns key.name c).2 := by
  obtain he | ⟨o?, hwithdrawn, hfiled⟩ := ClusterM.state_delete .policy key c
  · rwa [he]
  · exact h.filedPolicy hfiled fun p' hp' => (hp' ▸ hwithdrawn).filed (h.filed key)

/-- An event that is no drive adds nothing to what is left. -/
theorem Inv.cons (h : Inv history c) (he : ∀ key kind, left key (e :: history) kind ↔
    left key history kind) : Inv (e :: history) c where
  writable := h.writable
  filed := h.filed
  rendered kind key o ho := by
    obtain ⟨pk, hr, hleft⟩ := h.rendered kind key o ho
    exact ⟨pk, hr, (he pk kind).2 hleft⟩
  present key kind halone hleft := h.present key kind halone.of_cons ((he key kind).1 hleft)

/-- Every allowed event keeps the invariant. -/
theorem Inv.step (h : Inv history c) (he : Happens c e c') (ha : Allowed c e c') :
    Inv (e :: history) c' := by
  obtain ⟨hwritable, ha⟩ := ha
  cases e with
  | create p => cases he; exact (h.create p).cons fun _ _ => .rfl
  | replace p => cases he; exact (h.replace p).cons fun _ _ => .rfl
  | delete key => cases he; exact (h.delete key).cons fun _ _ => .rfl
  | drive key p r =>
    obtain ⟨hget, hd⟩ := he.driven fun hget => h.filed key p hget
    have hkey := h.filed key p hget
    refine ⟨hwritable, fun key' p' hp' => ?_, fun kind key' o ho => h.rendered_driven hkey hd ho,
      fun key' kind halone hleft => ?_⟩
    · by_cases he : key' = key
      · subst he
        exact (hd.revised hget hp').filed hkey
      · rw [hd.other he] at hp'
        exact h.filed _ _ hp'
    · obtain rfl : key = key' := halone key p r List.mem_cons_self
      exact h.present_driven hd (h.present key kind halone.of_cons) hleft
  | outside =>
    have hpolicies : (c'.store .policy).objects = (c.store .policy).objects := ha _ (by simp)
    have hartifacts : ∀ kind : ToolKind,
        (c'.store kind.artifact).objects = (c.store kind.artifact).objects := fun kind =>
      ha _ (by cases kind <;> simp [ToolKind.artifact])
    refine ⟨hwritable, fun key p hp => ?_, fun kind key' o ho => ?_,
      fun key kind halone hleft => ?_⟩
    · rw [hpolicies] at hp
      exact h.filed key p hp
    · rw [hartifacts] at ho
      exact h.rendered kind key' o ho
    · exact (Present.congr (hartifacts kind)).2 (h.present key kind halone.of_cons hleft)

/-! ## The condition -/

/-- Policies under their own keys, no artifacts yet, and no write fails. -/
structure Blank (c : Cluster) : Prop where
  writable : ∀ k ∈ written, (c.store k).failing = false
  filed : (c.store .policy).All fun key p => p.key = .ok key
  artifacts : ∀ (kind : ToolKind) key, (c.store kind.artifact).objects.get? key = none

theorem Blank.inv (h : Blank c) : Inv [] c where
  writable := h.writable
  filed := h.filed
  rendered kind key o ho := by rw [h.artifacts] at ho; cases ho
  present _ _ _ hleft := hleft.elim

/-- No artifact of the kind is tagged with the key. -/
def Untagged (key : Key) (kind : ToolKind) (c : Cluster) : Prop :=
  ∀ key' o, (c.store kind.artifact).objects.get? key' = some o →
    ¬ Labels.Tagged o.metadata.labels key

theorem Inv.untagged (h : Inv history c) (hleft : ¬ left key history kind) :
    Untagged key kind c := by
  intro key' o ho htagged
  obtain ⟨pk, hr, hpk⟩ := h.rendered kind key' o ho
  exact hleft (hr.tagged.unique htagged ▸ hpk)

theorem Inv.tagged (h : Inv history c) (halone : Alone key history)
    (hleft : left key history kind) : ¬ Untagged key kind c := by
  intro huntagged
  obtain ⟨key', o, ho⟩ := h.present key kind halone hleft
  obtain ⟨pk, hr, hpk⟩ := h.rendered kind key' o ho
  obtain ⟨p, answer, hdrive⟩ := driven_of_left hpk
  obtain rfl := halone pk p answer hdrive
  exact huntagged key' o ho hr.tagged

/-- The kinds of which a drive with the answer ought to leave nothing: all of them after a deletion,
and else the ones that the policy does not declare. -/
def Due (p : Policy) : Transition → ToolKind → Prop
  | .finalized, _ => True
  | .disabled, kind | .synced _, kind => p.spec.kind ≠ .ok kind
  | _, _ => False

/-- A deletion leaves nothing of the policy, and a sync or a disabling nothing of another type, if
the policy had been cleaned up under every other type that it was synced under. For a policy that is
driven alone it is only then. -/
theorem nothing_left_iff {key : Key} {c₀ c : Cluster} {history : List Event} {p : Policy}
    {t : Transition} (hstart : Blank c₀)
    (hrun : Run Allowed c₀ (.drive key p (.ok t) :: history) c)
    (ht : t = .finalized ∨ t = .disabled ∨ ∃ d, t = .synced d) :
    ((∀ kind, left key history kind → p.spec.kind = .ok kind) →
        ∀ kind, Due p t kind → Untagged key kind c) ∧
      (Alone key history → (∀ kind, Due p t kind → Untagged key kind c) →
        ∀ kind, left key history kind → p.spec.kind = .ok kind) := by
  have hinv := hrun.invariant (I := Inv) hstart.inv fun _ _ _ _ h he ha => h.step he ha
  refine ⟨fun hleft kind hdue => hinv.untagged fun hnow => ?_,
    fun halone hnothing kind hleft => ?_⟩
  · by_cases hkind : p.spec.kind = .ok kind
    · obtain rfl | rfl | ⟨d, rfl⟩ := ht
      · exact hnow.1 ⟨rfl, hkind⟩
      · exact hdue hkind
      · exact hdue hkind
    · exact hkind (hleft kind (left_of_drive hnow hkind))
  · refine Classical.byContradiction fun hkind => ?_
    have hnow : left key (.drive key p (.ok t) :: history) kind :=
      left_drive hleft fun _ h => hkind h.2
    have halone' : Alone key (.drive key p (.ok t) :: history) := by
      intro key' p' answer he
      obtain he | he := List.mem_cons.1 he
      · cases he; rfl
      · exact halone key' p' answer he
    refine hinv.tagged halone' hnow (hnothing kind ?_)
    obtain rfl | rfl | ⟨d, rfl⟩ := ht
    · trivial
    · exact hkind
    · exact hkind

theorem blank_start : Blank Sample.start := by
  refine ⟨by decide, fun _ _ h => ?_, fun kind _ => ?_⟩
  · cases h
  · cases kind <;> rfl

/-- The policy is synced. -/
theorem run_synced : Run Allowed Sample.start
    [.drive Sample.key (Sample.stored Sample.linked) (.ok (.synced none)),
      .drive Sample.key (Sample.stored Sample.guarded) (.ok .ownerLinked),
      .drive Sample.key (Sample.stored Sample.created) (.ok .finalizerAdded),
      .create Sample.policy] Sample.synced :=
  (((Run.start.step (.create Sample.start Sample.policy) ⟨by decide, trivial⟩).step
    (Sample.happens_driven rfl) ⟨by decide, trivial⟩).step
    (Sample.happens_driven rfl) ⟨by decide, trivial⟩).step
    (Sample.happens_driven rfl) ⟨by decide, trivial⟩

/-- A policy that keeps its type is deleted without a trace. -/
theorem nothing_left_sample : ∃ history c, Run Allowed Sample.start history c ∧
    c.policies.objects.get? Sample.key = none ∧ ∀ kind, Untagged Sample.key kind c := by
  have hrun := (run_synced.step (.delete Sample.synced Sample.key) ⟨by decide, trivial⟩).step
    (Sample.happens_driven rfl) ⟨by decide, trivial⟩
  refine ⟨_, _, hrun, rfl, fun kind =>
    (nothing_left_iff blank_start hrun (.inl rfl)).1 (fun kind hleft => ?_) kind trivial⟩
  obtain ⟨-, h⟩ | h : _ ∨ _ := hleft
  · exact h
  · exact h.elim

/-- A policy whose type was edited to an unknown one is finalized and gone, and its rules stay. -/
theorem rules_left_after_deletion : ∃ history p c, ∃ o : ConfigMap,
    Run Allowed Sample.start (.drive Sample.key p (.ok .finalized) :: history) c ∧
      c.policies.objects.get? Sample.key = none ∧
      c.configMaps.objects.get? ⟨"shop", "eirenyx-falco-policy-shells"⟩ = some o ∧
      Labels.Tagged o.metadata.labels Sample.key := by
  have hrun := ((run_synced.step (.replace Sample.synced Sample.unknown)
    ⟨by decide, trivial⟩).step (.delete Sample.retyped Sample.key) ⟨by decide, trivial⟩).step
    (Sample.happens_driven rfl) ⟨by decide, trivial⟩
  exact ⟨_, _, _, _, hrun, rfl, rfl, by decide⟩

end PolicyOperator.PolicyLifecycle.Leftovers
