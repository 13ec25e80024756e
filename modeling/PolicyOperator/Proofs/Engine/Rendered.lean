import PolicyOperator.Engine
import PolicyOperator.Proofs.Artifact

/-!
# Rendered artifacts

Each engine keeps its artifacts in one store (`ToolKind.artifact`). An object there is
`Engine.Rendered kind pk` when it is a plain object, tagged with the key `pk` of a policy, at a
place where the engine puts artifacts of that policy.

`Engine.Reworked kind pk c c'`: between `c` and `c'` only that store changed, and what is there
afterwards was there before or is rendered for `pk`. It is a preorder, so a reconciliation keeps it
however it ends when each of its writes does (`keeps_reworked`).
-/

namespace PolicyOperator

/-- The kind of object that an engine makes. -/
def ToolKind.artifact : ToolKind → ResourceKind
  | .falco => .configMap
  | .trivy => .job
  | .litmus => .chaosEngine

theorem ToolKind.artifact_injective {a b : ToolKind} (h : a.artifact = b.artifact) : a = b := by
  cases a <;> cases b <;> first | rfl | exact absurd h (by decide)

theorem ToolKind.name_of_ofName {name : String} {kind : ToolKind} (h : ofName name = .ok kind) :
    kind.name = name := by
  unfold ofName at h
  split at h <;> cases h <;> rfl

/-- The kind of tool that a section is about. -/
def Section.kind : Section → ToolKind
  | .falco _ => .falco
  | .trivy _ => .trivy
  | .litmus _ => .litmus

namespace PolicySpec

variable {s : PolicySpec}

/-- A well-formed spec holds the section of its kind. -/
theorem sectionOf_of_typed {part : Section} (h : s.typed = .ok part) :
    ∃ kind, s.kind = .ok kind ∧ s.sectionOf kind = some part := by
  obtain ⟨kind, hkind, h⟩ := bind_eq_ok_iff.1 h
  by_cases hcount : 1 < s.sectionCount
  · simp only [hcount, if_true] at h
    obtain ⟨-, h, -⟩ := bind_eq_ok_iff.1 h
    exact absurd h throw_ne_ok
  · simp only [hcount, if_false] at h
    split at h
    · next hs => cases h; exact ⟨kind, hkind, hs⟩
    · exact absurd h throw_ne_ok

theorem kind_of_sectionOf {kind : ToolKind} {part : Section} (h : s.sectionOf kind = some part) :
    part.kind = kind := by
  cases kind <;>
  · simp only [sectionOf, Option.map_eq_some_iff] at h
    obtain ⟨_, -, rfl⟩ := h
    rfl

/-- The section that a spec holds is of the type that the spec names. -/
theorem type_of_typed {part : Section} (h : s.typed = .ok part) : s.type = part.kind.name := by
  obtain ⟨kind, hkind, hsection⟩ := sectionOf_of_typed h
  rw [kind_of_sectionOf hsection]
  exact (ToolKind.name_of_ofName hkind).symm

theorem falco_of_typed {spec : FalcoSpec} (h : s.typed = .ok (.falco spec)) :
    s.falco = some spec := by
  obtain ⟨kind, -, hs⟩ := sectionOf_of_typed h
  cases kind with
  | falco => simpa [sectionOf] using hs
  | trivy | litmus => simp [sectionOf] at hs

theorem trivy_of_typed {spec : TrivySpec} (h : s.typed = .ok (.trivy spec)) :
    s.trivy = some spec := by
  obtain ⟨kind, -, hs⟩ := sectionOf_of_typed h
  cases kind with
  | trivy => simpa [sectionOf] using hs
  | falco | litmus => simp [sectionOf] at hs

end PolicySpec

namespace Engine

open Cluster

variable {kind : ToolKind} {pk key : Key} {c c' c'' : Cluster}

/-- Where an engine files the artifacts of a policy. Labels alone tie chaos engines to theirs. -/
def Placed (kind : ToolKind) (pk key : Key) : Prop :=
  match kind with
  | .falco => key = ⟨pk.ns, Naming.ruleDocument pk.name⟩
  | .trivy => key.ns = pk.ns
  | .litmus => True

/-- An artifact of the policy with the key `pk`. -/
structure Rendered (kind : ToolKind) (pk key : Key) (o : Object kind.artifact) : Prop where
  plain : o.Plain key
  tagged : Labels.Tagged o.metadata.labels pk
  placed : Placed kind pk key

/-- Whatever is tagged with the key of a policy is an artifact of it. -/
def Sound (kind : ToolKind) (key : Key) (o : Object kind.artifact) : Prop :=
  o.Plain key ∧ ∀ pk, Labels.Tagged o.metadata.labels pk → Placed kind pk key

theorem Rendered.sound {o : Object kind.artifact} (h : Rendered kind pk key o) :
    Sound kind key o :=
  ⟨h.plain, fun _ h' => h.tagged.unique h' ▸ h.placed⟩

/-- What is there was there before or is rendered for `pk`. -/
structure Reworked (kind : ToolKind) (pk : Key) (c c' : Cluster) : Prop where
  confined : Confined [kind.artifact] c c'
  made : (c.store kind.artifact).All Object.Plain → ∀ key o,
    (c'.store kind.artifact).objects.get? key = some o →
      (c.store kind.artifact).objects.get? key = some o ∨ Rendered kind pk key o

/-- What holds of all artifacts still does when it holds of those of the policy. -/
theorem Reworked.all {P : Key → Object kind.artifact → Prop} (h : Reworked kind pk c c')
    (hplain : (c.store kind.artifact).All Object.Plain) (hc : (c.store kind.artifact).All P)
    (hP : ∀ key o, Rendered kind pk key o → P key o) : (c'.store kind.artifact).All P :=
  fun key o ho => (h.made hplain key o ho).elim (hc key o) (hP key o)

theorem Reworked.plain (h : Reworked kind pk c c')
    (hplain : (c.store kind.artifact).All Object.Plain) :
    (c'.store kind.artifact).All Object.Plain :=
  h.all hplain hplain fun _ _ hr => hr.plain

theorem Reworked.trans (h : Reworked kind pk c c') (h' : Reworked kind pk c' c'') :
    Reworked kind pk c c'' where
  confined := IsTrans.trans _ _ _ h.confined h'.confined
  made hplain key o ho := by
    rcases h'.made (h.plain hplain) key o ho with hold | hnew
    · exact h.made hplain key o hold
    · exact .inr hnew

instance : IsPreorder Cluster (Reworked kind pk) where
  refl _ := ⟨.rfl, fun _ _ _ ho => .inl ho⟩
  trans _ _ _ := Reworked.trans

theorem Reworked.filed {o : Object kind.artifact} (h : Filed key (some o) c c')
    (ho : Rendered kind pk key o) : Reworked kind pk c c' where
  confined := h.confined
  made _ key' o' ho' := by
    rw [h.get?] at ho'
    split at ho'
    · next he => cases ho'; exact .inr (he ▸ ho)
    · exact .inl ho'

/-- What a computation does among plain artifacts is all that it does. -/
theorem keeps_reworked {x : ClusterM α} (hx : Keeps (Confined [kind.artifact]) x)
    (hmade : ∀ c, (c.store kind.artifact).All Object.Plain →
      Ends x c (fun _ => Reworked kind pk c) fun _ => Reworked kind pk c) :
    Keeps (Reworked kind pk) x := by
  intro c
  by_cases hplain : (c.store kind.artifact).All Object.Plain
  · exact hmade c hplain
  · exact (hx c).mono (fun _ _ h => ⟨h, fun hp => absurd hp hplain⟩)
      fun _ _ h => ⟨h, fun hp => absurd hp hplain⟩

/-- Deleting artifacts makes none. -/
theorem keeps_reworked_delete (kind : ToolKind) (ns name : String) :
    Keeps (Reworked kind pk) (ClusterM.delete kind.artifact ns name) := by
  refine keeps_reworked (ClusterM.confined_delete (by simp) ns name) fun c hplain => ?_
  refine Ends.mono (ClusterM.Clears.delete c ns name) (fun _ c' h => ⟨h.2.1, fun _ key o ho => ?_⟩)
    fun _ c' h => h.2 ▸ ⟨.rfl, fun _ _ _ ho => .inl ho⟩
  exact .inl ((h.1.get?_iff_of_plain hplain).1 ho).1

/-- Upserting an artifact of the policy reworks the artifacts. -/
theorem keeps_reworked_upsert (kind : ToolKind) {desired : Object kind.artifact}
    {apply : Object kind.artifact → Object kind.artifact} (hkey : desired.key = .ok key)
    (happly : ∀ o : Object kind.artifact, (apply o).metadata = o.metadata)
    (hguards : desired.metadata.isGuarded = false)
    (htagged : Labels.Tagged desired.metadata.labels pk) (hplaced : Placed kind pk key) :
    Keeps (Reworked kind pk) (Artifact.upsert desired apply) := by
  refine keeps_reworked (Artifact.confined_upsert desired apply) fun c hplain => ?_
  refine (Artifact.ends_upsert_plain hkey happly hguards hplain).mono
    (fun _ c' ⟨o, hfiled, ho⟩ => .filed hfiled ⟨ho.plain, ho.tagged htagged, hplaced⟩)
    fun _ c' h => h.2 ▸ ⟨.rfl, fun _ _ _ ho => .inl ho⟩

/-! ## Cleanups -/

/-- What was stored under some keys of the engine's store was deleted, and perhaps reports. -/
structure Cleaned (kind : ToolKind) (keys : Key → Prop) (c c' : Cluster) : Prop where
  confined : Confined [kind.artifact, .policyReport] c c'
  artifacts : Store.Cleared keys (c.store kind.artifact) (c'.store kind.artifact)
  reports : ∃ keys, Store.Cleared keys (c.store .policyReport) (c'.store .policyReport)

/-- A cleanup that stopped either did nothing or left only reports to delete, and writes to one of
the stores are made to fail. -/
structure CleanupStopped (kind : ToolKind) (keys : Key → Prop) (c c' : Cluster) : Prop where
  failing : (c.store kind.artifact).failing = true ∨ (c.store .policyReport).failing = true
  done : c' = c ∨ Cleaned kind keys c c'

variable {keys : Key → Prop} {p : Policy}

theorem artifact_ne_policyReport : kind.artifact ≠ .policyReport := by
  cases kind <;> decide

theorem Reworked.plain_reports (h : Reworked kind pk c c')
    (hc : (c.store .policyReport).All Object.Plain) :
    (c'.store .policyReport).All Object.Plain := by
  rwa [h.confined.store _ (by simpa using artifact_ne_policyReport.symm)]

/-- The store of another engine is not touched. -/
theorem Reworked.store (h : Reworked kind pk c c') {kind' : ToolKind} (hne : kind' ≠ kind) :
    c'.store kind'.artifact = c.store kind'.artifact :=
  h.confined.store _ (by simpa using fun he => hne (ToolKind.artifact_injective he))

/-- The store of another engine is not touched. -/
theorem Cleaned.store (h : Cleaned kind keys c c') {kind' : ToolKind} (hne : kind' ≠ kind) :
    c'.store kind'.artifact = c.store kind'.artifact :=
  h.confined.store _ (by
    simpa [artifact_ne_policyReport] using fun he => hne (ToolKind.artifact_injective he))

/-- A cleanup makes no artifacts. -/
theorem Cleaned.old (h : Cleaned kind keys c c') {kind' : ToolKind}
    (hplain : (c.store kind'.artifact).All Object.Plain) {o : Object kind'.artifact}
    (hget : (c'.store kind'.artifact).objects.get? key = some o) :
    (c.store kind'.artifact).objects.get? key = some o := by
  by_cases he : kind' = kind
  · subst he
    exact ((h.artifacts.get?_iff_of_plain hplain).1 hget).1
  · rwa [h.store he] at hget

theorem Cleaned.ofArtifacts
    (h : Store.Cleared keys (c.store kind.artifact) (c'.store kind.artifact))
    (hconf : Confined [kind.artifact] c c') : Cleaned kind keys c c' := by
  refine ⟨hconf.mono fun _ hk => List.mem_cons.2 (.inl (List.mem_singleton.1 hk)), h,
    fun _ => False, ?_⟩
  rw [hconf.store _ (by simpa using artifact_ne_policyReport.symm)]
  exact .nothing

/-- Artifacts go first, then the reports. -/
theorem ends_cleanup_reports {x : ClusterM PUnit}
    (hx : ClusterM.Clears kind.artifact keys c x) :
    Ends (do x; discard (Artifact.deleteReports p)) c (fun _ => Cleaned kind keys c)
      fun _ => CleanupStopped kind keys c := by
  refine ends_bind.2 (Ends.mono hx (fun _ c1 h1 => ?_) fun _ _ h => ⟨.inl h.1, .inl h.2⟩)
  obtain ⟨hclear, hconf, -⟩ := h1
  have hfirst := Cleaned.ofArtifacts hclear hconf
  refine ends_discard.2 (Ends.mono (Artifact.clears_deleteReports p c1) (fun _ c2 h2 => ?_)
    fun _ c2 h2 => ?_)
  · obtain ⟨hreports, hconf', -⟩ := h2
    refine ⟨IsTrans.trans _ _ _ hfirst.confined (hconf'.mono (by simp)), ?_,
      Artifact.ownReports p c1, ?_⟩
    · rw [hconf'.store _ (by simpa using artifact_ne_policyReport)]
      exact hclear
    · rw [← hconf.store .policyReport (by simpa using artifact_ne_policyReport.symm)]
      exact hreports
  · obtain ⟨hfail, rfl⟩ := h2
    exact ⟨.inr (by rwa [hconf.failing] at hfail), .inr hfirst⟩

end Engine

end PolicyOperator
