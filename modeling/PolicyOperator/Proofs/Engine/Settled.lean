import PolicyOperator.Proofs.Artifact.Current
import PolicyOperator.Proofs.Engine
import PolicyOperator.Proofs.Lifecycle.Reached

/-!
# Settled artifacts

The artifacts of a policy are `Engine.Settled` when a reconciliation finds nothing to do about them:
the config map and the chaos engines are current, the jobs are there, and of other jobs of the policy
only some are left that are being deleted and wait for a finalizer.

* A reconciliation of settled artifacts leaves everything that is stored as it is
  (`Settled.still_reconcile`).
* What a reconciliation of rules or scans leaves is settled, from whatever it started
  (`settled_reconcile`).
* Artifacts of any kind that a reconciliation leaves as they are were settled (`settled_of_unmoved`).
* Being settled is about what is stored with the artifacts (`Settled.of_objects`) and about what they
  are rendered from (`Settled.congr`).
-/

namespace PolicyOperator.Engine

open Cluster Artifact

variable {p p' : Policy} {pk key : Key} {c c' : Cluster}

/-! ## What artifacts are rendered from -/

/-- The same artifacts are rendered from both policies. -/
structure Alike (p p' : Policy) : Prop where
  name : p'.metadata.name = p.metadata.name
  ns : p'.metadata.ns = p.metadata.ns
  uid : p'.metadata.uid = p.metadata.uid
  spec : p'.spec = p.spec
  generation : p'.metadata.generation = p.metadata.generation
  displayName : p'.displayName = p.displayName

namespace Alike

theorem nsOrEmpty (h : Alike p p') : p'.metadata.nsOrEmpty = p.metadata.nsOrEmpty := by
  rw [Metadata.nsOrEmpty, Metadata.nsOrEmpty, h.ns]

theorem labels (h : Alike p p') (extra : List (String × String)) :
    Artifact.labels p' extra = Artifact.labels p extra := by
  simp only [Artifact.labels, Labels.ofPolicy, h.name, h.ns, h.spec]

theorem ownedMetadata (h : Alike p p') (name : String) (extra : List (String × String)) :
    Artifact.ownedMetadata p' name extra = Artifact.ownedMetadata p name extra := by
  have howner : Artifact.owner? p' = Artifact.owner? p := by
    simp only [Artifact.owner?, Object.ownerReference?, h.name, h.uid]
  simp only [Artifact.ownedMetadata, h.labels, h.ns, howner]

theorem configMap (h : Alike p p') (spec : FalcoSpec) :
    Rules.configMap p' spec = Rules.configMap p spec := by
  simp only [Rules.configMap, h.ownedMetadata, h.displayName, h.spec]

theorem jobName (h : Alike p p') : TrivySpec.jobName p' = TrivySpec.jobName p := by
  funext scan
  simp only [TrivySpec.jobName, Artifact.generation, h.displayName, h.generation]

theorem chaosEngine (h : Alike p p') (e : Experiment) :
    Experiments.chaosEngine p' e = Experiments.chaosEngine p e := by
  simp only [Experiments.chaosEngine, h.labels, h.displayName, h.nsOrEmpty]

end Alike

/-! ## Rules -/

namespace Rules

variable {spec : FalcoSpec}

/-- Data is laid over the data that is there. -/
theorem brings_addData {d : ConfigMap} {labels data : TextMap}
    (hlabels : d.metadata.labels = some labels) (hdata : d.spec = some data) :
    Brings d (addData d) fun s => some ((s.getD ∅).overlay (d.spec.getD ∅)) where
  labels := ⟨labels, hlabels⟩
  apply_eq _ := rfl
  desired := by
    rw [hdata]
    show some (data.overlay data) = some data
    rw [SortedMap.overlay_self]
  again s := by
    show some (((s.getD ∅ : TextMap).overlay _).overlay _) = some ((s.getD ∅ : TextMap).overlay _)
    rw [SortedMap.overlay_overlay]

theorem brings_configMap (p : Policy) (spec : FalcoSpec) :
    Brings (configMap p spec) (addData (configMap p spec))
      fun s => some ((s.getD ∅).overlay ((configMap p spec).spec.getD ∅)) :=
  brings_addData rfl rfl

/-- The config map is current. -/
def Settled (p : Policy) (c : Cluster) : Prop :=
  ∃ spec o, specOf p = .ok spec ∧
    (c.store .configMap).objects.get? ⟨p.metadata.nsOrEmpty, Naming.ruleDocument p.displayName⟩ =
      some o ∧
    Current (configMap p spec) (addData (configMap p spec)) o

theorem settled_reconcile (hkey : p.key = .ok pk) (hspec : specOf p = .ok spec)
    (hc : (c.store .configMap).All Object.Registered) :
    Ends (reconcile p) c (fun _ => Settled p) fun _ _ => (c.store .configMap).failing = true := by
  unfold reconcile Access.reconcileRules
  simp only [ends_bind, ends_liftM, hspec, ends_discard]
  refine (ends_upsert_current (brings_configMap p spec) (key_configMap hkey) hc).mono
    (fun _ c' h => ?_) fun _ _ h => h.1
  obtain ⟨o, hfiled, hcurrent⟩ := h
  have hget := hfiled.self
  rw [← Object.displayName_of_key hkey, ← Object.nsOrEmpty_of_key hkey] at hget
  exact ⟨spec, o, hspec, hget, hcurrent⟩

theorem Settled.still_reconcile (h : Settled p c) (hkey : p.key = .ok pk) :
    Ends (reconcile p) c (fun _ => Still c) fun _ _ => False := by
  obtain ⟨spec, o, hspec, hget, hcurrent⟩ := h
  rw [Object.displayName_of_key hkey, Object.nsOrEmpty_of_key hkey] at hget
  unfold reconcile Access.reconcileRules
  simp only [ends_bind, ends_liftM, hspec, ends_discard]
  refine (ends_upsert_of_current (key_configMap hkey) hget hcurrent).mono (fun _ c' h => ?_)
    fun _ _ h => h
  rw [h]
  exact .rfl

theorem Settled.congr (h : Settled p c) (ha : Alike p p') : Settled p' c := by
  obtain ⟨spec, o, hspec, hget, hcurrent⟩ := h
  refine ⟨spec, o, ?_, ?_, ?_⟩
  · rw [← hspec, specOf, specOf, ha.spec]
  · rw [ha.nsOrEmpty, ha.displayName, hget]
  · rwa [ha.configMap]

theorem Settled.of_objects (h : Settled p c)
    (hs : (c'.store .configMap).objects = (c.store .configMap).objects) : Settled p c' := by
  unfold Settled at *
  rwa [hs]

end Rules

/-! ## Scans -/

namespace Scans

variable {spec : TrivySpec}

/-- The jobs that a reconciliation deletes. -/
def stale (p : Policy) (spec : TrivySpec) (c : Cluster) : List Job :=
  ((c.store .job).list (some p.metadata.nsOrEmpty) (Labels.ofPolicyName p.displayName)).filter
    fun j => !(spec.expectedJobs p).contains j.displayName

/-- A job of the policy is stored there that no current scan has. -/
def Outdated (p : Policy) (spec : TrivySpec) (c : Cluster) (key : Key) : Prop :=
  ∃ j : Job, (c.store .job).objects.get? key = some j ∧ key.ns = p.metadata.nsOrEmpty ∧
    (Labels.ofPolicyName p.displayName).accepts j.metadata.labels = true ∧
    key.name ∉ spec.expectedJobs p

theorem outdated_iff (hc : (c.store .job).Filed) :
    (∃ j ∈ stale p spec c, key = ⟨p.metadata.nsOrEmpty, j.displayName⟩) ↔
      Outdated p spec c key := by
  rw [stale, Store.exists_filtered_iff hc]
  refine exists_congr fun j => and_congr_right fun hget => ?_
  have hname : j.displayName = key.name := Object.displayName_of_key (hc key j hget)
  rw [hname, Bool.not_eq_true', List.contains_eq_mem, decide_eq_false_iff_not]

theorem clears_stale (hc : (c.store .job).Filed) :
    ClusterM.Clears .job (Outdated p spec c) c ((stale p spec c).forM (deleteJob p)) :=
  (clears_deleteJobs p _ c).congr fun _ => outdated_iff hc

/-- The jobs of all scans are there, and those that no scan has are being deleted, held by a
finalizer. -/
def Settled (p : Policy) (c : Cluster) : Prop :=
  ∃ spec, specOf p = .ok spec ∧
    (∀ name ∈ spec.expectedJobs p,
      ((c.store .job).objects.get? ⟨p.metadata.nsOrEmpty, name⟩).isSome) ∧
    ∀ key j, Outdated p spec c key → (c.store .job).objects.get? key = some j →
      j.metadata.isGuarded = true ∧ j.metadata.isDeleting = true

/-- Deletions leave of the outdated jobs only those that wait for a finalizer. -/
theorem leaving_of_cleared
    (h : Store.Cleared (Outdated p spec c) (c.store .job) (c'.store .job)) {j : Job}
    (hold : Outdated p spec c' key) (hget : (c'.store .job).objects.get? key = some j) :
    j.metadata.isGuarded = true ∧ j.metadata.isDeleting = true := by
  by_cases hk : Outdated p spec c key
  · have hw := h.swept key hk
    rw [hget] at hw
    exact hw.leaving
  · unfold Outdated at hold
    rw [h.others key hk] at hold
    exact absurd hold hk

theorem settled_reconcile (hkey : p.key = .ok pk) (hspec : specOf p = .ok spec)
    (hc : (c.store .job).All Object.Registered) :
    Ends (reconcile p) c (fun _ => Settled p) fun _ _ => (c.store .job).failing = true := by
  -- the loop keeps the jobs filed, and the deletions act on what it leaves
  have hjobs : Ends (spec.scans.forM (ensureJob p)) c
      (fun _ c₁ => (c₁.store .job).failing = (c.store .job).failing ∧ (c₁.store .job).Filed ∧
        ∀ scan ∈ spec.scans,
          ((c₁.store .job).objects.get? ⟨pk.ns, TrivySpec.jobName p scan⟩).isSome)
      fun _ _ => (c.store .job).failing = true := by
    have hlater : Keeps Later (spec.scans.forM (ensureJob p)) := .forM fun _ _ => later_ensureJob p _
    refine (hlater.ends (ends_ensureJobs hkey spec.scans c)).mono (fun _ c₁ h => ?_)
      fun _ _ h => h.1.1
    exact ⟨h.1.1, (((h.2 .job).registered hc).mono fun _ _ ho => ho.filed), h.1.2⟩
  unfold reconcile Access.reconcileScans
  simp only [ends_bind, ends_liftM, hspec, Access.ownJobs, ClusterM.ends_list]
  refine hjobs.mono (fun _ c₁ h₁ => ?_) fun _ _ h => h
  obtain ⟨hfailing, hfiled, hthere⟩ := h₁
  refine Ends.mono (clears_stale hfiled) (fun _ c₂ h₂ => ?_) fun _ c₂ h₂ => hfailing ▸ h₂.1
  refine ⟨spec, hspec, fun name hname => ?_, fun key j => leaving_of_cleared h₂.1⟩
  obtain ⟨scan, hscan, rfl⟩ := List.mem_map.1 hname
  have hkept : ¬ Outdated p spec c₁ ⟨p.metadata.nsOrEmpty, TrivySpec.jobName p scan⟩ := by
    rintro ⟨-, -, -, -, hstale⟩
    exact hstale hname
  rw [h₂.1.others _ hkept, Object.nsOrEmpty_of_key hkey]
  exact hthere scan hscan

theorem Settled.still_reconcile (h : Settled p c) (hc : (c.store .job).Filed) :
    Ends (reconcile p) c (fun _ => Still c)
      fun _ c' => (c.store .job).failing = true ∧ Still c c' := by
  obtain ⟨spec, hspec, hthere, hleaving⟩ := h
  have hjobs : Ends (spec.scans.forM (ensureJob p)) c (fun _ c₁ => c₁ = c) fun _ _ => False := by
    refine (ends_forM (I := fun s => s = c) (Q := fun _ _ => True) (fun scan hscan s hs => ?_)
      rfl).mono (fun _ _ h => h.1) fun _ _ h => h
    subst hs
    obtain ⟨j, hj⟩ := Option.isSome_iff_exists.1 (hthere _ (List.mem_map_of_mem hscan))
    unfold ensureJob Access.ensureJob
    rw [ends_bind, ClusterM.ends_get?, hj]
    exact ⟨rfl, trivial, fun _ _ _ => trivial⟩
  unfold reconcile Access.reconcileScans
  simp only [ends_bind, ends_liftM, hspec, Access.ownJobs, ClusterM.ends_list]
  refine hjobs.mono (fun _ c₁ h₁ => ?_) fun _ _ h => h.elim
  subst h₁
  refine Ends.mono (clears_stale hc) (fun _ c₂ h₂ => ?_) fun _ c₂ h₂ => ⟨h₂.1, by rw [h₂.2]; exact .rfl⟩
  obtain ⟨hcleared, hconfined, -⟩ := h₂
  refine hconfined.still fun key => ?_
  by_cases hold : Outdated p spec c₁ key
  · obtain ⟨j, hget, -⟩ := id hold
    obtain ⟨hguarded, hdeleting⟩ := hleaving key j hold hget
    have hw := hcleared.swept key hold
    rw [hget] at hw ⊢
    exact hw.eq_of_leaving hguarded hdeleting
  · exact hcleared.others key hold

theorem Settled.congr (h : Settled p c) (ha : Alike p p') : Settled p' c := by
  obtain ⟨spec, hspec, hthere, hleaving⟩ := h
  refine ⟨spec, ?_, ?_, ?_⟩
  · rw [← hspec, specOf, specOf, ha.spec]
  · rwa [TrivySpec.expectedJobs, ha.jobName, ha.nsOrEmpty]
  · unfold Outdated
    rwa [TrivySpec.expectedJobs, ha.jobName, ha.nsOrEmpty, ha.displayName]

theorem Settled.of_objects (h : Settled p c)
    (hs : (c'.store .job).objects = (c.store .job).objects) : Settled p c' := by
  unfold Settled Outdated at *
  rwa [hs]

end Scans

/-! ## Experiments -/

namespace Experiments

variable {spec : LitmusSpec} {e : Experiment}

/-- What an upsert does to an engine that is stored. -/
def update (p : Policy) (e : Experiment) (o : ChaosEngine) : ChaosEngine :=
  { o with spec := (chaosEngine p e).spec }

/-- The spec takes the place of the one that is there. -/
theorem brings_spec {d : ChaosEngine} {labels : TextMap} (hlabels : d.metadata.labels = some labels) :
    Brings d (fun next => { next with spec := d.spec }) fun _ => d.spec where
  labels := ⟨labels, hlabels⟩
  apply_eq _ := rfl
  desired := rfl
  again _ := rfl

theorem brings_chaosEngine (p : Policy) (e : Experiment) :
    Brings (chaosEngine p e) (update p e) fun _ => (chaosEngine p e).spec :=
  brings_spec rfl

/-- The engine of every experiment is current. -/
def Settled (p : Policy) (c : Cluster) : Prop :=
  ∃ spec, specOf p = .ok spec ∧ ∀ e ∈ spec.experiments, ∃ o,
    (c.store .chaosEngine).objects.get? (place p e) = some o ∧
    Current (chaosEngine p e) (update p e) o

/-- A reconciliation of current engines writes nothing. -/
theorem Settled.unchanged_reconcile (h : Settled p c) :
    Ends (reconcile p) c (fun _ c' => c' = c) fun _ _ => False := by
  obtain ⟨spec, hspec, hcurrent⟩ := h
  unfold reconcile Access.reconcileExperiments
  simp only [ends_bind, ends_liftM, hspec]
  refine (ends_forM (I := fun s => s = c) (Q := fun _ _ => True) (fun e he s hs => ?_) rfl).mono
    (fun _ c' h => h.1) fun _ _ h => h
  subst hs
  obtain ⟨o, hget, ho⟩ := hcurrent e he
  exact ends_discard.2 ((ends_upsert_of_current (key_chaosEngine p e) hget ho).mono
    (fun _ _ h => ⟨h, trivial, fun _ _ _ => trivial⟩) fun _ _ h => h)

theorem Settled.still_reconcile (h : Settled p c) :
    Ends (reconcile p) c (fun _ => Still c) fun _ _ => False :=
  h.unchanged_reconcile.mono (fun _ c' h => by rw [h]; exact .rfl) fun _ _ h => h

theorem Settled.congr (h : Settled p c) (ha : Alike p p') : Settled p' c := by
  obtain ⟨spec, hspec, hcurrent⟩ := h
  refine ⟨spec, by rw [← hspec, specOf, specOf, ha.spec], fun e he => ?_⟩
  have hplace : place p' e = place p e := by
    rw [place, place, ha.nsOrEmpty, ha.displayName]
  have hupdate : update p' e = update p e := by
    funext o
    rw [update, update, ha.chaosEngine]
  rw [hplace, hupdate, ha.chaosEngine]
  exact hcurrent e he

theorem Settled.of_objects (h : Settled p c)
    (hs : (c'.store .chaosEngine).objects = (c.store .chaosEngine).objects) : Settled p c' := by
  unfold Settled at *
  rwa [hs]

/-- Upserts of engines that changed nothing found all of them current. -/
theorem ends_ensureEngines (p : Policy) (l : List Experiment)
    (hc : (c.store .chaosEngine).Reached) :
    Ends (l.forM (ensureEngine p)) c
      (fun _ c' => Grown .chaosEngine c c' ∧
        ((c'.store .chaosEngine).objects = (c.store .chaosEngine).objects →
          ∀ e ∈ l, ∃ o, (c.store .chaosEngine).objects.get? (place p e) = some o ∧
            Current (chaosEngine p e) (update p e) o))
      fun _ _ => (c.store .chaosEngine).failing = true := by
  induction l generalizing c with
  | nil => exact ⟨Std.Refl.refl (r := Grown .chaosEngine) c, fun _ _ h => nomatch h⟩
  | cons e rest ih =>
    have hupsert := (later_upsert (chaosEngine p e) (update p e)).ends
      ((confined_upsert (chaosEngine p e) (update p e)).ends
        (ends_upsert (key_chaosEngine p e) (brings_chaosEngine p e).metadata
          fun o ho => (hc.registered _ o ho).filed))
    rw [List.forM, ends_bind]
    refine ends_discard.2 (hupsert.mono (fun change c₁ h₁ => ?_) fun _ _ h => h.1.1.1)
    obtain ⟨⟨hupserted, hconfined⟩, hlater⟩ := h₁
    obtain ⟨o, hfiled, -⟩ := hupserted.current (brings_chaosEngine p e) hc.registered
    have hrest : Keeps Later (rest.forM (ensureEngine p)) :=
      .forM fun e _ => (later_upsert _ _).discard
    refine (hrest.ends (ih (hc.later (hlater .chaosEngine)))).mono (fun _ c₂ h₂ => ?_)
      fun _ c₂ h₂ => by rw [← hconfined.failing]; exact h₂.1
    obtain ⟨⟨hgrown, hcurrent⟩, hlater₂⟩ := h₂
    refine ⟨IsTrans.trans _ _ _ hfiled.grown hgrown, fun hsame => ?_⟩
    -- nothing is taken away, so what is stored in the end was stored after the first upsert too
    have hsame₁ : (c₁.store .chaosEngine).objects = (c.store .chaosEngine).objects := by
      refine SortedMap.ext_get? fun key => ?_
      cases hget : (c.store .chaosEngine).objects.get? key with
      | some o =>
        exact hc.numbered.between (hlater .chaosEngine).advanced (hlater₂ .chaosEngine).advanced
          hget (hsame ▸ hget)
      | none =>
        rw [← hsame] at hget
        refine Option.not_isSome_iff_eq_none.1 fun hsome => ?_
        have h := hgrown key hsome
        rw [hget] at h
        cases h
    intro b hb
    obtain rfl | hb := List.mem_cons.1 hb
    · exact hupserted.current_of_same (brings_chaosEngine p b) hc.registered (by rw [hsame₁])
    · rw [← hsame₁]
      exact hcurrent (hsame.trans hsame₁.symm) b hb

end Experiments

/-! ## All engines -/

variable {kind : ToolKind}

/-- A reconciliation finds nothing to do. -/
def Settled : ToolKind → Policy → Cluster → Prop
  | .falco => Rules.Settled
  | .trivy => Scans.Settled
  | .litmus => Experiments.Settled

theorem Settled.congr (h : Settled kind p c) (ha : Alike p p') : Settled kind p' c := by
  cases kind with
  | falco => exact Rules.Settled.congr h ha
  | trivy => exact Scans.Settled.congr h ha
  | litmus => exact Experiments.Settled.congr h ha

theorem Settled.of_objects (h : Settled kind p c)
    (hs : (c'.store kind.artifact).objects = (c.store kind.artifact).objects) :
    Settled kind p c' := by
  cases kind with
  | falco => exact Rules.Settled.of_objects h hs
  | trivy => exact Scans.Settled.of_objects h hs
  | litmus => exact Experiments.Settled.of_objects h hs

/-- A reconciliation of settled artifacts moves nothing. It only fails when writes are made to
fail. -/
theorem Settled.still_reconcile (h : Settled kind p c) (hkey : p.key = .ok pk)
    (hc : (c.store kind.artifact).Filed) :
    Ends (reconcile kind p) c (fun _ => Still c)
      fun _ c' => (c.store kind.artifact).failing = true ∧ Still c c' := by
  cases kind with
  | falco => exact (Rules.Settled.still_reconcile h hkey).mono (fun _ _ h => h) fun _ _ h => h.elim
  | trivy => exact Scans.Settled.still_reconcile h hc
  | litmus => exact (Experiments.Settled.still_reconcile h).mono (fun _ _ h => h) fun _ _ h => h.elim

/-- What a reconciliation of rules or scans leaves is settled. -/
theorem settled_reconcile (hkey : p.key = .ok pk) {u : Unit} (hvalid : validate kind p = .ok u)
    (hkind : kind ≠ .litmus) (hc : (c.store kind.artifact).All Object.Registered) :
    Ends (reconcile kind p) c (fun _ => Settled kind p)
      fun _ _ => (c.store kind.artifact).failing = true := by
  cases kind with
  | falco =>
    obtain ⟨spec, hspec, -⟩ := bind_eq_ok_iff.1 hvalid
    exact Rules.settled_reconcile hkey hspec hc
  | trivy =>
    obtain ⟨spec, hspec, -⟩ := bind_eq_ok_iff.1 hvalid
    exact Scans.settled_reconcile hkey hspec hc
  | litmus => exact absurd rfl hkind

/-- A reconciliation that leaves the artifacts as they are found them settled. -/
theorem settled_of_unmoved (hkey : p.key = .ok pk) {u : Unit} (hvalid : validate kind p = .ok u)
    (hc : (c.store kind.artifact).Reached) :
    Ends (reconcile kind p) c
      (fun _ c' => (c'.store kind.artifact).objects = (c.store kind.artifact).objects →
        Settled kind p c)
      fun _ _ => (c.store kind.artifact).failing = true := by
  by_cases hkind : kind = .litmus
  · subst hkind
    obtain ⟨spec, hspec, -⟩ := bind_eq_ok_iff.1 hvalid
    unfold reconcile Access.reconcile Access.reconcileExperiments
    simp only [ends_bind, ends_liftM, hspec]
    exact (Experiments.ends_ensureEngines p spec.experiments hc).mono
      (fun _ _ h hsame => ⟨spec, hspec, h.2 hsame⟩) fun _ _ h => h
  · exact (settled_reconcile hkey hvalid hkind hc.registered).mono
      (fun _ _ h hsame => h.of_objects hsame.symm) fun _ _ h => h

end PolicyOperator.Engine
