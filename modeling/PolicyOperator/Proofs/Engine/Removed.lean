import PolicyOperator.Proofs.Engine.Idempotence
import PolicyOperator.Proofs.Engine.Settled

/-!
# What a cleanup removes

`Condemned kind pk k key o`: the object is one of those that a cleanup of the policy with the key `pk`
is there to remove. This is about the object alone and not about what the policy asks for, so it can be
told after the spec was edited, and whether or not the spec is valid.

* A cleanup that succeeds deletes what is condemned and nothing else, in any store
  (`ends_cleanup_condemned`). What is left of that waits for a finalizer, so a second cleanup changes
  nothing (`unchanged_of_lessened`).
* A reconciliation writes condemned objects only, however it ends (`keeps_wrote_reconcile`).
-/

namespace PolicyOperator.Engine

open Cluster Artifact

variable {kind : ToolKind} {p : Policy} {pk key : Key} {k : ResourceKind} {c c' c'' : Cluster}

/-- The objects that a cleanup of the policy with the key `pk` is to remove. Of the artifacts these are
the config map that is named after the policy, the jobs in its namespace with its name on their labels,
or the chaos engines anywhere with its name and its namespace on theirs. The reports in its namespace
that refer to it go too, unless the engine is the one for scans. -/
def Condemned (kind : ToolKind) (pk : Key) : (k : ResourceKind) → Key → Object k → Prop
  | .configMap, key, _ => kind = .falco ∧ key = ⟨pk.ns, Naming.ruleDocument pk.name⟩
  | .job, key, o => kind = .trivy ∧ key.ns = pk.ns ∧
      o.metadata.labels.bind (·.get? Labels.managedBy) = some Labels.manager ∧
      o.metadata.labels.bind (·.get? Labels.policyName) = some pk.name
  | .chaosEngine, _, o => kind = .litmus ∧ Labels.Tagged o.metadata.labels pk
  | .policyReport, key, r => kind ≠ .trivy ∧ key.ns = pk.ns ∧ r.spec.policyRef.name = pk.name
  | _, _, _ => False

/-- A condemned object is stored under the key. -/
def condemned (kind : ToolKind) (pk : Key) (c : Cluster) (k : ResourceKind) (key : Key) : Prop :=
  ∃ o, (c.store k).objects.get? key = some o ∧ Condemned kind pk k key o

theorem kind_of_condemned {o : Object k} (h : Condemned kind pk k key o) :
    k = kind.artifact ∨ k = .policyReport := by
  cases k with
  | configMap | job | chaosEngine =>
    obtain ⟨rfl, -⟩ := h
    exact .inl rfl
  | policyReport => exact .inr rfl
  | tool | policy | vulnerabilityReport | pod | daemonSet | deployment => exact h.elim

/-- A condemned object goes on being condemned while it is being deleted. -/
theorem condemned_marked {o : Object k} (h : Condemned kind pk k key o) (now : Instant)
    (version : Nat) : Condemned kind pk k key (Store.marked o now version) := by
  cases k <;> exact h

/-- An object with the tags of the policy, at a place where its artifacts are. -/
theorem condemned_of_tagged {o : Object kind.artifact} (hplaced : Placed kind pk key)
    (htagged : Labels.Tagged o.metadata.labels pk) : Condemned kind pk kind.artifact key o := by
  cases kind with
  | falco => exact ⟨rfl, hplaced⟩
  | trivy => exact ⟨rfl, hplaced, htagged.manager, htagged.name⟩
  | litmus => exact ⟨rfl, htagged⟩

/-! ## Cleaning up -/

/-- Where an engine cleans up, the condemned artifacts are. -/
theorem cleared_artifacts {s : Store kind.artifact} (hkey : p.key = .ok pk)
    (hc : (c.store kind.artifact).Filed)
    (h : Store.Cleared (swept kind p c) (c.store kind.artifact) s) :
    Store.Cleared (condemned kind pk c kind.artifact) (c.store kind.artifact) s := by
  have hname := Object.displayName_of_key hkey
  have hns := Object.nsOrEmpty_of_key hkey
  cases kind with
  | falco =>
    -- the config map is deleted by its name, whether it is there or not
    refine h.of_stored fun key _ _ => ?_
    show key = ⟨p.metadata.nsOrEmpty, Naming.ruleDocument p.displayName⟩ ↔ _
    rw [hname, hns]
    exact ⟨fun hplace => ⟨rfl, hplace⟩, fun hcond => hcond.2⟩
  | trivy =>
    have hc : (c.store .job).Filed := hc
    refine h.congr fun key => ?_
    show (∃ j ∈ (c.store .job).list _ _, key = _) ↔ _
    rw [Store.exists_listed_iff hc]
    refine exists_congr fun j => and_congr_right fun _ => ?_
    rw [Labels.accepts_ofPolicyName_iff, hname, hns]
    exact ⟨fun hcond => ⟨rfl, hcond⟩, fun hcond => hcond.2⟩
  | litmus =>
    have hc : (c.store .chaosEngine).Filed := hc
    refine h.congr fun key => ?_
    show (∃ e ∈ (c.store .chaosEngine).list _ _, key = _) ↔ _
    rw [Store.exists_listed_anywhere_iff hc]
    refine exists_congr fun e => and_congr_right fun _ => ?_
    rw [Experiments.selector, Labels.accepts_inNamespace_iff, hname, hns]
    exact ⟨fun hcond => ⟨rfl, hcond⟩, fun hcond => hcond.2⟩

theorem ownReports_iff (hkey : p.key = .ok pk) (hc : (c.store .policyReport).Filed)
    (hkind : kind ≠ .trivy) : ownReports p c key ↔ condemned kind pk c .policyReport key := by
  have hname := Object.displayName_of_key hkey
  have hns := Object.nsOrEmpty_of_key hkey
  show (∃ r ∈ ((c.store .policyReport).list _ _).filter _, key = _) ↔ _
  rw [Store.exists_filtered_iff hc]
  refine exists_congr fun r => and_congr_right fun _ => ?_
  rw [beq_iff_eq, hname, hns]
  constructor
  · rintro ⟨hin, -, hrefers⟩
    exact ⟨hkind, hin, hrefers⟩
  · rintro ⟨-, hin, hrefers⟩
    exact ⟨hin, rfl, hrefers⟩

/-- Reports are deleted after the artifacts of an engine, and all of them or none. -/
theorem ends_reports {keys : Key → Prop} {x : ClusterM PUnit} (hkey : p.key = .ok pk)
    (hc : (c.store .policyReport).Filed) (hkind : kind ≠ .trivy)
    (hx : ClusterM.Clears kind.artifact keys c x) :
    Ends (do x; discard (deleteReports p)) c
      (fun _ c' => Store.Cleared (condemned kind pk c .policyReport) (c.store .policyReport)
        (c'.store .policyReport))
      fun _ c' => c'.store .policyReport = c.store .policyReport := by
  refine ends_bind.2 (Ends.mono hx (fun _ c₁ h₁ => ?_) fun _ c' h => by rw [h.2])
  have hsame : c₁.store .policyReport = c.store .policyReport :=
    h₁.2.1.store _ (by simpa using artifact_ne_policyReport.symm)
  have hc₁ : (c₁.store .policyReport).Filed := hsame ▸ hc
  refine ends_discard.2 (Ends.mono (clears_deleteReports p c₁) (fun _ c' h => ?_) fun _ c' h => ?_)
  · have hcleared := h.1.congr fun key => ownReports_iff hkey hc₁ hkind
    unfold condemned at hcleared
    rwa [hsame] at hcleared
  · rw [h.2, hsame]

theorem ends_cleanup_reports_condemned (hkey : p.key = .ok pk)
    (hc : (c.store .policyReport).Filed) :
    Ends (cleanup kind p) c
      (fun _ c' => Store.Cleared (condemned kind pk c .policyReport) (c.store .policyReport)
        (c'.store .policyReport))
      fun _ c' => c'.store .policyReport = c.store .policyReport := by
  cases kind with
  | falco => exact ends_reports hkey hc (by decide) (ClusterM.Clears.delete c _ _).discard
  | trivy =>
    have hsame : Keeps (Confined [.job]) (cleanup .trivy p) :=
      (ClusterM.keeps_list _ _ _).bind fun _ => .forM fun _ _ =>
        (ClusterM.confined_delete (by simp) _ _).discard
    refine (hsame c).mono (fun _ c' h => ?_) fun _ c' h => h.store _ (by decide)
    rw [h.store .policyReport (by decide)]
    exact Store.Cleared.nothing.congr fun key =>
      ⟨False.elim, fun ⟨_, _, hkind, _⟩ => hkind rfl⟩
  | litmus =>
    unfold cleanup Experiments.cleanup
    rw [ends_bind, ClusterM.ends_list]
    exact ends_reports hkey hc (by decide)
      (.forM fun _ c => (ClusterM.Clears.delete c _ _).discard)

/-- Only condemned objects were deleted, and nothing else changed. -/
def Lessened (kind : ToolKind) (pk : Key) (c c' : Cluster) : Prop :=
  ∀ k, ∃ keys, (∀ key, keys key → condemned kind pk c k key) ∧
    Store.Cleared keys (c.store k) (c'.store k)

/-- Of the artifacts what is condemned was deleted, and in other stores nothing is condemned. -/
theorem cleared_of_cleaned (hkey : p.key = .ok pk) (hc : c.Reached)
    (h : Cleaned kind (swept kind p c) c c') (hreport : k ≠ .policyReport) :
    Store.Cleared (condemned kind pk c k) (c.store k) (c'.store k) := by
  by_cases hartifact : k = kind.artifact
  · subst hartifact
    exact cleared_artifacts hkey (hc.filed _) h.artifacts
  · have hnone : ∀ key, ¬ condemned kind pk c k key := fun key ⟨o, _, ho⟩ =>
      (kind_of_condemned ho).elim hartifact hreport
    rw [h.confined.store k (by simp [hartifact, hreport])]
    exact Store.Cleared.nothing.congr fun key => ⟨False.elim, hnone key⟩

/-- A cleanup deletes what is condemned and nothing else. One that fails deletes at most that. -/
theorem ends_cleanup_condemned (hkey : p.key = .ok pk) (hc : c.Reached) :
    Ends (cleanup kind p) c
      (fun _ c' => ∀ k, Store.Cleared (condemned kind pk c k) (c.store k) (c'.store k))
      fun _ => Lessened kind pk c := by
  have hboth := (ends_cleanup kind p c).and
    (ends_cleanup_reports_condemned hkey (hc.filed .policyReport))
  refine hboth.mono (fun _ c' h k => ?_) fun _ c' h k => ?_
  · obtain ⟨hcleaned, hreports⟩ := h
    by_cases hreport : k = .policyReport
    · subst hreport
      exact hreports
    · exact cleared_of_cleaned hkey hc hcleaned hreport
  · obtain ⟨hstopped, hreports⟩ := h
    have hnone : ∀ key, False → condemned kind pk c k key := fun _ => False.elim
    obtain rfl | hcleaned := hstopped.done
    · exact ⟨_, hnone, .nothing⟩
    · by_cases hreport : k = .policyReport
      · subst hreport
        rw [hreports]
        exact ⟨_, hnone, .nothing⟩
      · exact ⟨_, fun _ => id, cleared_of_cleaned hkey hc hcleaned hreport⟩

theorem lessened_cleanup (hkey : p.key = .ok pk) (hc : c.Reached) :
    Lessened kind pk c (cleanup kind p c).2 :=
  Ends.state ((ends_cleanup_condemned hkey hc).mono
    (fun _ _ h k => ⟨condemned kind pk c k, fun _ => id, h k⟩) fun _ _ h => h)

/-- Where condemned objects were deleted, what was not there before is one that waits for a
finalizer. -/
theorem condemned_of_cleared {keys : Key → Prop} {s : Store k} {o : Object k}
    (hkeys : ∀ key, keys key → condemned kind pk c k key)
    (h : Store.Cleared keys (c.store k) s) (hget : s.objects.get? key = some o)
    (hnew : (c.store k).objects.get? key ≠ some o) : Condemned kind pk k key o := by
  by_cases hkey : keys key
  · have hw := h.swept key hkey
    rw [hget] at hw
    obtain ⟨o₁, hget₁, ⟨rfl, -⟩ | ⟨now, version, rfl⟩⟩ := hw.of_some
    · exact absurd hget₁ hnew
    · obtain ⟨o₂, hget₂, hcond⟩ := hkeys key hkey
      obtain rfl : o₂ = o₁ := Option.some.inj (hget₂.symm.trans hget₁)
      exact condemned_marked hcond now version
  · exact absurd ((h.others key hkey).symm.trans hget) hnew

/-- What is condemned after everything condemned was deleted waits for a finalizer, so it is not
deleted any further. -/
theorem unchanged_of_lessened
    (h : ∀ k, Store.Cleared (condemned kind pk c k) (c.store k) (c'.store k))
    (h' : Lessened kind pk c' c'') (k : ResourceKind) :
    (c''.store k).objects = (c'.store k).objects := by
  obtain ⟨keys, hkeys, hcleared⟩ := h' k
  refine hcleared.objects_eq_iff.2 fun key o hkey hget => ?_
  obtain ⟨o', hget', hcond⟩ := hkeys key hkey
  obtain rfl : o' = o := Option.some.inj (hget'.symm.trans hget)
  by_cases hold : condemned kind pk c k key
  · have hw := (h k).swept key hold
    rw [hget] at hw
    exact hw.leaving
  · have hsame := (h k).others key hold
    exact absurd ⟨o', hsame ▸ hget, hcond⟩ hold

/-! ## Reconciling -/

/-- What is stored with the artifacts was there before or is condemned. -/
def Adds (kind : ToolKind) (pk : Key) (c c' : Cluster) : Prop :=
  ∀ key o, (c'.store kind.artifact).objects.get? key = some o →
    (c.store kind.artifact).objects.get? key = some o ∨ Condemned kind pk kind.artifact key o

/-- Operations of the stores lead from one cluster to the other, and among registered artifacts they
add condemned ones only. -/
structure Wrote (kind : ToolKind) (pk : Key) (c c' : Cluster) : Prop where
  later : Later c c'
  adds : (c.store kind.artifact).All Object.Registered → Adds kind pk c c'

instance : IsPreorder Cluster (Wrote kind pk) where
  refl c := ⟨Std.Refl.refl (r := Later) c, fun _ _ _ ho => .inl ho⟩
  trans a b c h h' := by
    refine ⟨IsTrans.trans (r := Later) _ _ _ h.later h'.later, fun ha key o ho => ?_⟩
    have hb : (b.store kind.artifact).All Object.Registered := (h.later _).registered ha
    obtain hold | hnew := h'.adds hb key o ho
    · exact h.adds ha key o hold
    · exact .inr hnew

/-- What a computation does among registered artifacts is all that it does. -/
theorem keeps_wrote {α : Type} {x : ClusterM α} (hx : Keeps Later x)
    (hadds : ∀ c, (c.store kind.artifact).All Object.Registered →
      Ends x c (fun _ => Adds kind pk c) fun _ => Adds kind pk c) :
    Keeps (Wrote kind pk) x := by
  intro c
  by_cases hc : (c.store kind.artifact).All Object.Registered
  · exact ((hx c).and (hadds c hc)).mono (fun _ _ h => ⟨h.1, fun _ => h.2⟩)
      fun _ _ h => ⟨h.1, fun _ => h.2⟩
  · exact (hx c).mono (fun _ _ h => ⟨h, fun hc' => absurd hc' hc⟩)
      fun _ _ h => ⟨h, fun hc' => absurd hc' hc⟩

theorem adds_of_filed {o? : Option (Object kind.artifact)} (h : Filed key o? c c')
    (ho : ∀ o, o? = some o → Condemned kind pk kind.artifact key o) : Adds kind pk c c' := by
  intro key' o hget
  rw [h.get?] at hget
  split at hget
  · next he => exact .inr (he ▸ ho o hget)
  · exact .inl hget

/-- Upserting an artifact of the policy puts its tags on whatever was there. -/
theorem keeps_wrote_upsert (kind : ToolKind) {desired : Object kind.artifact}
    {apply : Object kind.artifact → Object kind.artifact} (hkey : desired.key = .ok key)
    (happly : ∀ o : Object kind.artifact, (apply o).metadata = o.metadata)
    (htagged : Labels.Tagged desired.metadata.labels pk) (hplaced : Placed kind pk key) :
    Keeps (Wrote kind pk) (upsert desired apply) := by
  refine keeps_wrote (later_upsert desired apply) fun c hc => ?_
  refine (ends_upsert hkey happly fun o ho => (hc key o ho).filed).mono (fun _ c' h => ?_)
    fun _ c' h => h.2 ▸ fun _ _ ho => .inl ho
  cases h with
  | created v _ hfiled =>
    refine adds_of_filed hfiled fun o ho => ?_
    obtain rfl := Option.some.inj ho
    exact condemned_of_tagged hplaced htagged
  | updated o v _ hfiled =>
    refine adds_of_filed hfiled fun o' ho' => ?_
    obtain rfl := Store.eq_of_remaining ho'
    have hlabels : (merged o desired apply).metadata.labels =
        some ((o.metadata.labels.getD ∅).overlay (desired.metadata.labels.getD ∅)) :=
      congrArg Metadata.labels (happly _)
    refine condemned_of_tagged hplaced ?_
    rw [Store.labels_replacement, hlabels]
    exact htagged.laid_over _
  | unchanged => exact fun _ _ ho => .inl ho

theorem Scans.keeps_wrote_ensureJob (hkey : p.key = .ok pk) (scan : Scan) :
    Keeps (Wrote .trivy pk) (ensureJob p scan) := by
  refine keeps_wrote (later_ensureJob p scan) fun c _ => ?_
  refine (ends_ensureJob hkey scan c).mono (fun _ c' h => ?_)
    fun _ c' h => h.2 ▸ fun _ _ ho => .inl ho
  obtain rfl | ⟨o, hfiled, hrendered⟩ := h.1
  · exact fun _ _ ho => .inl ho
  · refine adds_of_filed hfiled fun o' ho' => ?_
    obtain rfl := Option.some.inj ho'
    exact condemned_of_tagged hrendered.placed hrendered.tagged

/-- The jobs that go are condemned themselves. -/
theorem Scans.keeps_wrote_deleteStale (hkey : p.key = .ok pk) (spec : TrivySpec) :
    Keeps (Wrote .trivy pk) (do
      let stale := (← ownJobs p).filter fun j => !(spec.expectedJobs p).contains j.displayName
      stale.forM (deleteJob p)) := by
  have hlater : ∀ jobs : List Job, Keeps Later (jobs.forM (deleteJob p)) := later_deleteJobs p
  refine keeps_wrote ((ClusterM.keeps_list _ _ _).bind fun _ => hlater _) fun c hc => ?_
  rw [ownJobs, Access.ownJobs, ends_bind, ClusterM.ends_list]
  have hfiled : (c.store .job).Filed := hc.mono fun _ _ ho => ho.filed
  refine Ends.mono (clears_stale hfiled) (fun _ c' h => ?_)
    fun _ c' h => h.2 ▸ fun _ _ ho => .inl ho
  have hkeys : ∀ key, Outdated p spec c key → condemned .trivy pk c .job key := by
    rintro key ⟨j, hget, hin, hlabels, -⟩
    rw [Labels.accepts_ofPolicyName_iff, Object.displayName_of_key hkey] at hlabels
    rw [Object.nsOrEmpty_of_key hkey] at hin
    exact ⟨j, hget, rfl, hin, hlabels⟩
  intro key o hget
  by_cases hold : (c.store .job).objects.get? key = some o
  · exact .inl hold
  · exact .inr (condemned_of_cleared hkeys h.1 hget hold)

/-- However it ends, a reconciliation of the policy writes condemned artifacts only. -/
theorem keeps_wrote_reconcile (kind : ToolKind) (hkey : p.key = .ok pk) :
    Keeps (Wrote kind pk) (reconcile kind p) := by
  cases kind with
  | falco =>
    exact (Keeps.liftM _).bind fun _ =>
      (keeps_wrote_upsert .falco (Rules.key_configMap hkey) (Rules.metadata_addData _)
        (Rules.tagged_configMap hkey) rfl).discard
  | trivy =>
    refine (Keeps.liftM _).bind fun spec => ?_
    refine (Keeps.forM fun scan _ => Scans.keeps_wrote_ensureJob hkey scan).bind fun _ => ?_
    exact Scans.keeps_wrote_deleteStale hkey spec
  | litmus =>
    refine (Keeps.liftM _).bind fun spec => Keeps.forM fun e _ => ?_
    exact (keeps_wrote_upsert .litmus (Experiments.key_chaosEngine p e)
      (Experiments.metadata_update p e) (Experiments.tagged_chaosEngine hkey e) trivial).discard

/-- What a reconciliation wrote is condemned, in whatever store it is. -/
theorem condemned_of_reconcile {o : Object k} (hkey : p.key = .ok pk) (hc : c.Reached)
    (hget : ((reconcile kind p c).2.store k).objects.get? key = some o)
    (hnew : (c.store k).objects.get? key ≠ some o) : Condemned kind pk k key o := by
  have hwrote := (keeps_wrote_reconcile kind hkey).state c
  have hconfined := ((keeps_reworked_reconcile kind hkey).state c).confined
  by_cases hartifact : k = kind.artifact
  · subst hartifact
    exact (hwrote.adds (hc.registered _) key o hget).resolve_left hnew
  · rw [hconfined.store k (by simpa using hartifact)] at hget
    exact absurd hget hnew

/-! ## The theorem -/

/-- The engine did something for the policy with the key `pk`, whatever its spec was at the time and
whatever came of it. -/
inductive Worked (kind : ToolKind) (pk : Key) : Cluster → Cluster → Prop
  | reconcile {p : Policy} (c : Cluster) : p.key = .ok pk → Worked kind pk c (reconcile kind p c).2
  | cleanup {p : Policy} (c : Cluster) : p.key = .ok pk → Worked kind pk c (cleanup kind p c).2

/-- The engine writes condemned objects only. -/
theorem Worked.condemned {o : Object k} (h : Worked kind pk c c') (hc : c.Reached)
    (hget : (c'.store k).objects.get? key = some o)
    (hnew : (c.store k).objects.get? key ≠ some o) : Condemned kind pk k key o := by
  cases h with
  | reconcile _ hkey => exact condemned_of_reconcile hkey hc hget hnew
  | cleanup _ hkey =>
    obtain ⟨keys, hkeys, hcleared⟩ := lessened_cleanup hkey hc k
    exact condemned_of_cleared hkeys hcleared hget hnew

/-- What a cleanup of the policy with the key `pk` comes to when it succeeds. -/
structure Removed (kind : ToolKind) (pk : Key) (c c' : Cluster) : Prop where
  /-- What is condemned is gone, or marked as deleted if a finalizer holds it, and all else is stored as
  it was. -/
  exactly : ∀ k, Store.Cleared (condemned kind pk c k) (c.store k) (c'.store k)
  /-- Cleaning up once more changes no object. -/
  again : ∀ p : Policy, p.key = .ok pk →
    ∀ k, ((cleanup kind p c').2.store k).objects = (c'.store k).objects
  /-- Whatever the engine wrote for the policy before was among the objects to remove if it was still
  stored as the engine had left it. -/
  written : ∀ c₀ c₁, c₀.Reached → Worked kind pk c₀ c₁ → ∀ k key o,
    (c₁.store k).objects.get? key = some o → (c₀.store k).objects.get? key ≠ some o →
      (c.store k).objects.get? key = some o → condemned kind pk c k key

/-- A cleanup that succeeds removes exactly the artifacts of the policy, valid or not. -/
theorem removed_of_cleanup (hc : c.Reached) (hkey : p.key = .ok pk)
    (hrun : cleanup kind p c = (.ok (), c')) : Removed kind pk c c' := by
  have hexactly := (ends_cleanup_condemned hkey hc).ok hrun
  have hlater : Later c c' := (later_cleanup p kind c).ok hrun
  constructor
  case exactly => exact hexactly
  case again =>
    intro p' hkey'
    exact unchanged_of_lessened hexactly (lessened_cleanup hkey' (hc.later hlater))
  case written =>
    intro c₀ c₁ hc₀ hworked k key o hget hnew hkept
    exact ⟨o, hkept, hworked.condemned hc₀ hget hnew⟩

open Experiments.Sample in
/-- All experiments left the spec, which is invalid now, and the engines in both namespaces go. -/
theorem removed_sample :
    validate .litmus (policy []) ≠ .ok () ∧
      ((after plain {}).store .chaosEngine).objects.entries.length = 2 ∧
      ((cleanup .litmus (policy []) (after plain {})).2.store .chaosEngine).objects = ∅ ∧
      Removed .litmus ⟨"shop", "chaos"⟩ (after plain {})
        (cleanup .litmus (policy []) (after plain {})).2 := by
  have hreached : (after plain {}).Reached :=
    reached_empty.later ((later_reconcile plain .litmus).state {})
  exact ⟨by decide, rfl, rfl, removed_of_cleanup (p := policy []) hreached rfl rfl⟩

end PolicyOperator.Engine
