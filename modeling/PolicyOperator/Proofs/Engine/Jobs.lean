import PolicyOperator.Proofs.Engine.Interrupted
import PolicyOperator.Proofs.Engine.Outcome

/-!
# What a reconciliation makes of the jobs

Each operation of a store may fail, so a reconciliation of scans may stop anywhere.
`Access.Faithful` says of operations that each does what a cluster's own does, or fails and changes
nothing; the cluster's own are of this kind, and so are those of a rationed cluster
(`faithful_direct`, `faithful_rationed`).

Whatever faithful operations it uses, a reconciliation fills in jobs first, those of some scans when
it stops there (`FillsIn`, `ends_fillAll`), and deletes outdated jobs after all scans have theirs
(`ends_deleteAll`). So wherever it stops it was `Careful` with the jobs, and when it succeeds they
are `Tidied` (`tidied_of_reconcile`).
-/

namespace PolicyOperator

open Cluster

variable {σ α β : Type} {view : σ → Cluster} {s : σ} {c c' c₁ : Cluster}

/-! ## Operations that may fail -/

/-- Seen through `view`, the computation does what `x` does, or fails and changes nothing. -/
def Performs (view : σ → Cluster) (x' : ExceptT Error (StateM σ) α) (x : ClusterM α) : Prop :=
  ∀ s, Ends x' s (fun a s' => x (view s) = (.ok a, view s')) fun _ s' => view s' = view s

theorem performs_ofStore {k : ResourceKind} (f : Cluster → Except Error (α × Store k)) :
    Performs id (ClusterM.ofStore k f) (ClusterM.ofStore k f) := fun c =>
  ends_of (fun _ _ h => h) fun e c' h => by
    have hends : Ends (ClusterM.ofStore k f) c (fun _ _ => True) fun _ c' => c' = c :=
      ClusterM.ends_ofStore.2 ⟨fun _ _ _ => trivial, fun _ _ => rfl⟩
    exact hends.error h

theorem performs_read {x : ClusterM α} (hx : Performs id x x) :
    Performs Rationed.cluster (RationedM.read x) x := by
  intro s
  rcases hrun : x s.cluster with ⟨e | a, c⟩
  · have hsame : c = s.cluster := (hx s.cluster).error hrun
    rw [Ends, RationedM.run_read hrun]
    exact hsame
  · rw [Ends, RationedM.run_read hrun]

theorem performs_write {x : ClusterM α} (hx : Performs id x x) :
    Performs Rationed.cluster (RationedM.write x) x := by
  rintro ⟨c, _ | left⟩
  · exact rfl
  · rcases hrun : x c with ⟨e | a, c'⟩
    · have hsame : c' = c := (hx c).error hrun
      rw [Ends, RationedM.run_write_succ hrun]
      exact hsame
    · rw [Ends, RationedM.run_write_succ hrun]

namespace Access

/-- Each operation does what the cluster's own does, or fails and changes nothing. -/
structure Faithful (a : Access (ExceptT Error (StateM σ))) (view : σ → Cluster) : Prop where
  get? : ∀ k ns name, Performs view (a.get? k ns name) (ClusterM.get? k ns name)
  list : ∀ k ns selector, Performs view (a.list k ns selector) (ClusterM.list k ns selector)
  create : ∀ {k : ResourceKind} (o : Object k), Performs view (a.create o) (ClusterM.create o)
  replace : ∀ {k : ResourceKind} (o : Object k), Performs view (a.replace o) (ClusterM.replace o)
  delete : ∀ k ns name, Performs view (a.delete k ns name) (ClusterM.delete k ns name)

theorem faithful_direct : direct.Faithful id where
  get? _ _ _ _ := rfl
  list _ _ _ _ := rfl
  create _ := performs_ofStore _
  replace _ := performs_ofStore _
  delete _ _ _ := performs_ofStore _

theorem faithful_rationed : rationed.Faithful Rationed.cluster where
  get? k ns name := performs_read (faithful_direct.get? k ns name)
  list k ns selector := performs_read (faithful_direct.list k ns selector)
  create o := performs_write (faithful_direct.create o)
  replace o := performs_write (faithful_direct.replace o)
  delete k ns name := performs_write (faithful_direct.delete k ns name)

end Access

namespace Engine.Scans

variable {a : Access (ExceptT Error (StateM σ))} {p : Policy} {spec : TrivySpec} {scan : Scan}
  {scans done rest : List Scan} {key : Key} {now : Instant} {j : Job}

/-! ## Filling in -/

/-- What comes under a key when jobs are filled in: a job stays, and a free place goes to the first
scan that has it. -/
inductive Found (p : Policy) (scans : List Scan) (now : Instant) (key : Key) :
    Option Job → Option Job → Prop
  | kept (j : Job) : Found p scans now key (some j) (some j)
  | free : (∀ scan ∈ scans, (job p scan).site ≠ key) → Found p scans now key none none
  | made (scan : Scan) (version : Nat) :
      scans.find? (fun scan => (job p scan).site = key) = some scan →
      (job p scan).key = .ok key →
      Found p scans now key none (some (Store.created (job p scan) now version))

theorem Found.append {x y z : Option Job} (h : Found p done now key x y)
    (h' : Found p rest now key y z) : Found p (done ++ rest) now key x z := by
  cases h with
  | kept j =>
    cases h'
    exact .kept j
  | made scan version hfirst hkey =>
    cases h'
    exact .made scan version (by rw [List.find?_append, hfirst]; rfl) hkey
  | free hnone =>
    have hdone : done.find? (fun scan => (job p scan).site = key) = none :=
      List.find?_eq_none.2 fun scan hscan => by simpa using hnone scan hscan
    cases h' with
    | free hrest =>
      exact .free fun scan hscan => (List.mem_append.1 hscan).elim (hnone scan) (hrest scan)
    | made scan version hfirst hkey =>
      refine .made scan version ?_ hkey
      rw [List.find?_append, hdone, Option.none_or, hfirst]

/-- Jobs were filled in for some scans, and nothing else changed. -/
structure FillsIn (p : Policy) (scans : List Scan) (c c' : Cluster) : Prop where
  clock : c'.clock = c.clock
  found : ∀ key, Found p scans c.clock key ((c.store .job).objects.get? key)
    ((c'.store .job).objects.get? key)

theorem FillsIn.nil (p : Policy) (c : Cluster) : FillsIn p [] c c := by
  refine ⟨rfl, fun key => ?_⟩
  cases (c.store .job).objects.get? key with
  | none => exact .free nofun
  | some j => exact .kept j

theorem FillsIn.append (h : FillsIn p done c c₁) (h' : FillsIn p rest c₁ c') :
    FillsIn p (done ++ rest) c c' :=
  ⟨h'.clock.trans h.clock, fun key => (h.found key).append (h.clock ▸ h'.found key)⟩

/-- Where no scan has its job nothing changes. -/
theorem FillsIn.same (h : FillsIn p scans c c') (hkey : ∀ scan ∈ scans, (job p scan).site ≠ key) :
    (c'.store .job).objects.get? key = (c.store .job).objects.get? key := by
  have hfound := h.found key
  generalize (c.store .job).objects.get? key = x at hfound
  generalize (c'.store .job).objects.get? key = y at hfound ⊢
  cases hfound with
  | kept | free => rfl
  | made scan version hfirst =>
    have hscan := List.find?_some hfirst
    exact absurd (by simpa using hscan) (hkey scan (List.mem_of_find?_eq_some hfirst))

theorem FillsIn.kept (h : FillsIn p scans c c') {j : Job}
    (hget : (c.store .job).objects.get? key = some j) :
    (c'.store .job).objects.get? key = some j := by
  have hfound := h.found key
  rw [hget] at hfound
  generalize (c'.store .job).objects.get? key = y at hfound ⊢
  cases hfound
  rfl

/-- Every scan has a job. -/
theorem FillsIn.isSome (h : FillsIn p scans c c') (hscan : scan ∈ scans) :
    ((c'.store .job).objects.get? (job p scan).site).isSome := by
  have hfound := h.found (job p scan).site
  generalize (c.store .job).objects.get? (job p scan).site = x at hfound
  generalize (c'.store .job).objects.get? (job p scan).site = y at hfound ⊢
  cases hfound with
  | kept | made => rfl
  | free hnone => exact absurd rfl (hnone scan hscan)

theorem fillsIn_of_create (h : ClusterM.create (job p scan) c = (.ok j, c'))
    (hnone : (c.store .job).objects.get? (job p scan).site = none) : FillsIn p [scan] c c' := by
  have hends : Ends (ClusterM.create (job p scan)) c (fun _ => FillsIn p [scan] c)
      fun _ _ => True := by
    refine ClusterM.ends_ofStore.2 ⟨fun o t hcreate => ?_, fun _ _ => trivial⟩
    obtain ⟨-, key, hkey, -, rfl, -⟩ := Store.create_eq_ok_iff.1 hcreate
    refine ⟨clock_setStore .., fun key' => ?_⟩
    rw [store_setStore, Store.get?_create hcreate hkey]
    obtain rfl := Object.site_of_key hkey
    by_cases hsite : key' = (job p scan).site
    · rw [if_pos hsite, hsite, hnone]
      exact .made scan _ (by simp) hkey
    · rw [if_neg hsite]
      cases (c.store .job).objects.get? key' with
      | some j => exact .kept j
      | none => exact .free (by simpa using Ne.symm hsite)
  exact hends.ok h

/-- The place of the scan's job was taken. -/
theorem fillsIn_of_isSome (h : ((c.store .job).objects.get? (job p scan).site).isSome) :
    FillsIn p [scan] c c := by
  refine ⟨rfl, fun key => ?_⟩
  cases hget : (c.store .job).objects.get? key with
  | some j => exact .kept j
  | none =>
    refine .free fun b hb hsite => ?_
    obtain rfl := List.mem_singleton.1 hb
    rw [hsite, hget] at h
    cases h

theorem ends_fillIn (ha : a.Faithful view) (scan : Scan) (s : σ) :
    Ends (a.ensureJob p scan) s (fun _ s' => FillsIn p [scan] (view s) (view s'))
      fun _ s' => view s' = view s := by
  unfold Access.ensureJob
  rw [ends_bind]
  refine (ha.get? .job _ _ s).mono (fun o? s₁ hget => ?_) fun _ _ h => h
  have hread : (Except.ok (((view s).store .job).objects.get? (job p scan).site), view s) =
      ((.ok o?, view s₁) : Except Error _ × Cluster) := hget
  obtain ⟨hfound, hsame⟩ := Prod.mk.inj hread
  rw [Except.ok.injEq] at hfound
  rw [hsame] at hfound ⊢
  cases o? with
  | some j => exact fillsIn_of_isSome (by rw [hfound]; rfl)
  | none =>
    refine ends_discard.2 ((ha.create (job p scan) s₁).mono (fun o s₂ h => ?_) fun _ _ h => h)
    exact fillsIn_of_create h hfound

/-- Fills in the jobs of all scans, or stops after some of them. -/
theorem ends_fillAll (ha : a.Faithful view) (scans : List Scan) (s : σ) :
    Ends (scans.forM (a.ensureJob p)) s (fun _ s' => FillsIn p scans (view s) (view s'))
      fun _ s' => ∃ done, done <+: scans ∧ FillsIn p done (view s) (view s') := by
  induction scans generalizing s with
  | nil => exact .nil p (view s)
  | cons scan rest ih =>
    rw [List.forM, ends_bind]
    refine (ends_fillIn ha scan s).mono (fun _ s₁ hfirst => ?_) fun _ _ hsame =>
      ⟨[], List.nil_prefix, hsame ▸ .nil p (view s)⟩
    refine (ih s₁).mono (fun _ _ hrest => hfirst.append hrest) fun _ _ h => ?_
    obtain ⟨done, hdone, hfilled⟩ := h
    exact ⟨scan :: done, List.cons_prefix_cons.2 ⟨rfl, hdone⟩, hfirst.append hfilled⟩

/-! ## Deleting -/

/-- Deletes some jobs of a policy, or stops after the first of them. -/
theorem ends_deleteAll (ha : a.Faithful view) (p : Policy) (jobs : List Job) (s : σ) :
    Ends (jobs.forM (a.deleteJob p)) s
      (fun _ s' => Store.Cleared (fun key => ∃ j ∈ jobs, key = ⟨p.metadata.nsOrEmpty, j.displayName⟩)
        ((view s).store .job) ((view s').store .job))
      fun _ s' => ∃ done, done <+: jobs ∧
        Store.Cleared (fun key => ∃ j ∈ done, key = ⟨p.metadata.nsOrEmpty, j.displayName⟩)
          ((view s).store .job) ((view s').store .job) := by
  induction jobs generalizing s with
  | nil => exact Store.Cleared.nothing.congr (by simp)
  | cons j rest ih =>
    rw [List.forM, ends_bind]
    refine ends_discard.2 ((ha.delete .job p.metadata.nsOrEmpty j.displayName s).mono
      (fun _ s₁ h => ?_) fun _ _ hsame =>
        ⟨[], List.nil_prefix, hsame ▸ Store.Cleared.nothing.congr (by simp)⟩)
    have hfirst := ((ClusterM.Clears.delete (view s) p.metadata.nsOrEmpty j.displayName).ok h).1
    refine (ih s₁).mono (fun _ _ hrest => (hfirst.trans hrest).congr (by simp)) fun _ _ h => ?_
    obtain ⟨done, hdone, hcleared⟩ := h
    exact ⟨j :: done, List.cons_prefix_cons.2 ⟨rfl, hdone⟩, (hfirst.trans hcleared).congr (by simp)⟩

/-! ## Reconciliation -/

/-- What a reconciliation did to jobs, wherever it stopped. -/
structure Careful (p : Policy) (spec : TrivySpec) (c c' : Cluster) : Prop where
  /-- The jobs of the scans stay as they are. -/
  kept : ∀ name ∈ spec.expectedJobs p, ∀ j,
    (c.store .job).objects.get? ⟨p.metadata.nsOrEmpty, name⟩ = some j →
    (c'.store .job).objects.get? ⟨p.metadata.nsOrEmpty, name⟩ = some j
  /-- A job that was missing is made for the first scan with its name. -/
  made : ∀ name ∈ spec.expectedJobs p, ∀ j,
    (c.store .job).objects.get? ⟨p.metadata.nsOrEmpty, name⟩ = none →
    (c'.store .job).objects.get? ⟨p.metadata.nsOrEmpty, name⟩ = some j →
    ∃ scan version, spec.scans.find? (fun scan => TrivySpec.jobName p scan = name) = some scan ∧
      j = Store.created (job p scan) c.clock version
  /-- An outdated job is deleted if anything happens to it. -/
  outdated : ∀ key, Outdated p spec c key →
    (c'.store .job).objects.get? key = (c.store .job).objects.get? key ∨
      Store.Withdrawn ((c.store .job).objects.get? key) ((c'.store .job).objects.get? key)
  /-- By then all scans have their jobs. -/
  order : ∀ key, Outdated p spec c key →
    (c'.store .job).objects.get? key ≠ (c.store .job).objects.get? key →
    ∀ name ∈ spec.expectedJobs p,
      ((c'.store .job).objects.get? ⟨p.metadata.nsOrEmpty, name⟩).isSome
  others : ∀ key, (key.ns = p.metadata.nsOrEmpty → key.name ∉ spec.expectedJobs p) →
    ¬ Outdated p spec c key →
    (c'.store .job).objects.get? key = (c.store .job).objects.get? key

/-- What a reconciliation that succeeds did to jobs. -/
structure Tidied (p : Policy) (spec : TrivySpec) (c c' : Cluster) : Prop extends
    Careful p spec c c' where
  present : ∀ name ∈ spec.expectedJobs p,
    ((c'.store .job).objects.get? ⟨p.metadata.nsOrEmpty, name⟩).isSome
  cleared : ∀ key, Outdated p spec c key →
    Store.Withdrawn ((c.store .job).objects.get? key) ((c'.store .job).objects.get? key)

theorem site_job_iff {name : String} :
    (job p scan).site = ⟨p.metadata.nsOrEmpty, name⟩ ↔ TrivySpec.jobName p scan = name := by
  simp [Object.site, job, Artifact.ownedMetadata, Object.displayName, Metadata.displayName,
    Metadata.nsOrEmpty]

theorem mem_expectedJobs_iff {name : String} :
    name ∈ spec.expectedJobs p ↔
      ∃ scan ∈ spec.scans, (job p scan).site = ⟨p.metadata.nsOrEmpty, name⟩ := by
  simp only [TrivySpec.expectedJobs, List.mem_map, site_job_iff]

/-- A job that no scan has is not touched by the filling in. -/
theorem FillsIn.same_of_notMem (h : FillsIn p done c c') (hdone : done <+: spec.scans)
    (hkey : key.ns = p.metadata.nsOrEmpty → key.name ∉ spec.expectedJobs p) :
    (c'.store .job).objects.get? key = (c.store .job).objects.get? key := by
  refine h.same fun scan hscan hsite => ?_
  have hns : key.ns = p.metadata.nsOrEmpty := congrArg Key.ns hsite.symm
  refine hkey hns (mem_expectedJobs_iff.2 ⟨scan, hdone.subset hscan, ?_⟩)
  rw [hsite, ← hns]

theorem FillsIn.outdated_iff (h : FillsIn p done c c') (hdone : done <+: spec.scans) :
    Outdated p spec c' key ↔ Outdated p spec c key := by
  by_cases hkey : key.name ∈ spec.expectedJobs p
  · exact ⟨fun ⟨_, _, _, _, hold⟩ => absurd hkey hold, fun ⟨_, _, _, _, hold⟩ => absurd hkey hold⟩
  · rw [Outdated, Outdated, h.same_of_notMem hdone fun _ => hkey]

/-- Jobs of some scans were filled in, and outdated jobs deleted only after those of all. -/
theorem careful_of {keys : Key → Prop} (hfill : FillsIn p done c c₁) (hdone : done <+: spec.scans)
    (hclear : Store.Cleared keys (c₁.store .job) (c'.store .job))
    (hkeys : ∀ key, keys key → Outdated p spec c₁ key ∧ done = spec.scans) :
    Careful p spec c c' := by
  have hexpected : ∀ name ∈ spec.expectedJobs p,
      (c'.store .job).objects.get? ⟨p.metadata.nsOrEmpty, name⟩ =
        (c₁.store .job).objects.get? ⟨p.metadata.nsOrEmpty, name⟩ := fun name hname =>
    hclear.others _ fun hk => (hkeys _ hk).1.elim fun _ hold => hold.2.2.2 hname
  constructor
  case kept =>
    intro name hname j hget
    rw [hexpected name hname]
    exact hfill.kept hget
  case made =>
    intro name hname j hnone hget
    have hfound := hfill.found ⟨p.metadata.nsOrEmpty, name⟩
    rw [hnone, ← hexpected name hname, hget] at hfound
    cases hfound with
    | made scan version hfirst =>
      refine ⟨scan, version, ?_, rfl⟩
      simp only [site_job_iff] at hfirst
      exact hdone.find?_eq_some hfirst
  case outdated =>
    intro key hold
    have hsame := hfill.same_of_notMem hdone fun _ => hold.elim fun _ hold => hold.2.2.2
    by_cases hk : keys key
    · exact .inr (hsame ▸ hclear.swept key hk)
    · exact .inl ((hclear.others key hk).trans hsame)
  case order =>
    intro key hold hchanged name hname
    have hsame := hfill.same_of_notMem hdone fun _ => hold.elim fun _ hold => hold.2.2.2
    have hk : keys key := by_contra fun hk => hchanged ((hclear.others key hk).trans hsame)
    obtain rfl := (hkeys key hk).2
    obtain ⟨scan, hscan, hsite⟩ := mem_expectedJobs_iff.1 hname
    rw [hexpected name hname, ← hsite]
    exact hfill.isSome hscan
  case others =>
    intro key hkey hold
    have hk : ¬ keys key := fun hk => hold ((hfill.outdated_iff hdone).1 (hkeys key hk).1)
    rw [hclear.others key hk, hfill.same_of_notMem hdone hkey]

theorem careful_of_same (p : Policy) (spec : TrivySpec) (c : Cluster) : Careful p spec c c :=
  careful_of (.nil p c) List.nil_prefix .nothing fun _ h => h.elim

theorem tidied_of (hfill : FillsIn p spec.scans c c₁)
    (hclear : Store.Cleared (Outdated p spec c₁) (c₁.store .job) (c'.store .job)) :
    Tidied p spec c c' where
  toCareful := careful_of hfill List.prefix_rfl hclear fun _ hold => ⟨hold, rfl⟩
  present name hname := by
    obtain ⟨scan, hscan, hsite⟩ := mem_expectedJobs_iff.1 hname
    rw [hclear.others _ fun hold => hold.elim fun _ hold => hold.2.2.2 hname, ← hsite]
    exact hfill.isSome hscan
  cleared key hold := by
    rw [← hfill.same_of_notMem List.prefix_rfl fun _ => hold.elim fun _ hold => hold.2.2.2]
    exact hclear.swept key ((hfill.outdated_iff List.prefix_rfl).2 hold)

/-- Jobs that were filled in are filed under their own keys. -/
theorem FillsIn.filed (h : FillsIn p scans c c') (hc : (c.store .job).Filed) :
    (c'.store .job).Filed := by
  intro key j hget
  have hfound := h.found key
  rw [hget] at hfound
  generalize hold : (c.store .job).objects.get? key = x at hfound
  cases hfound with
  | kept => exact hc key j hold
  | made scan version hfirst hkey => exact (Object.key_congr (o := job p scan) rfl rfl).trans hkey

/-- With operations any of which may fail, a reconciliation tidies the jobs, or stops and was
careful with them until then. -/
theorem ends_reconcile_faithful (ha : a.Faithful view) (hc : ((view s).store .job).Filed)
    (hspec : p.spec.trivy = some spec) :
    Ends (a.reconcile .trivy p) s (fun _ s' => Tidied p spec (view s) (view s'))
      fun _ s' => Careful p spec (view s) (view s') := by
  unfold Access.reconcile Access.reconcileScans
  rw [ends_bind, ends_liftM]
  cases htyped : specOf p with
  | error e => exact careful_of_same p spec (view s)
  | ok spec' =>
    obtain rfl : spec' = spec := by simpa [section_of_specOf htyped] using hspec
    dsimp only
    rw [ends_bind]
    refine (ends_fillAll ha spec'.scans s).mono (fun _ s₁ hfill => ?_) fun _ _ h => ?_
    · rw [ends_bind]
      refine (ha.list .job _ _ s₁).mono (fun own s₂ hlist => ?_) fun _ _ hsame => ?_
      · obtain ⟨hown, hsame⟩ : ((view s₁).store .job).list (some p.metadata.nsOrEmpty)
            (Labels.ofPolicyName p.displayName) = own ∧ view s₁ = view s₂ := by
          have hread : (Except.ok (((view s₁).store .job).list (some p.metadata.nsOrEmpty)
              (Labels.ofPolicyName p.displayName)), view s₁) =
              ((.ok own, view s₂) : Except Error _ × Cluster) := hlist
          simpa using hread
        subst hown
        rw [hsame] at hfill ⊢
        have hfiled := hfill.filed hc
        refine (ends_deleteAll ha p (stale p spec' (view s₂)) s₂).mono (fun _ s₃ hclear => ?_)
          fun _ s₃ ⟨done, hdone, hclear⟩ => ?_
        · exact tidied_of hfill (hclear.congr fun key => outdated_iff hfiled)
        · refine careful_of hfill List.prefix_rfl hclear fun key ⟨j, hj, hkey⟩ => ⟨?_, rfl⟩
          exact (outdated_iff hfiled).1 ⟨j, hdone.subset hj, hkey⟩
      · exact careful_of (hsame ▸ hfill) List.prefix_rfl .nothing fun _ h => h.elim
    · obtain ⟨done, hdone, hfill⟩ := h
      exact careful_of hfill hdone .nothing fun _ h => h.elim

/-- A reconciliation of scans fills in the jobs that are missing and takes away those that no scan
has; one that fails, at whatever operation, was careful with the jobs until then. -/
theorem tidied_of_reconcile (hc : (c.store .job).Reached) (hspec : p.spec.trivy = some spec) :
    Ends (Engine.reconcile .trivy p) c (fun _ => Tidied p spec c) (fun _ => Careful p spec c) ∧
      ∀ left, Ends (Access.rationed.reconcile .trivy p) ⟨c, left⟩
        (fun _ s => Tidied p spec c s.cluster) fun _ s => Careful p spec c s.cluster := by
  have hfiled : (c.store .job).Filed := hc.numbered.filed
  refine ⟨?_, fun left => ?_⟩
  · exact ends_reconcile_faithful Access.faithful_direct hfiled hspec
  · exact ends_reconcile_faithful (s := (⟨c, left⟩ : Rationed)) Access.faithful_rationed hfiled hspec

namespace Jobs.Sample

/-- Two scans have the same name. -/
def images : TrivySpec where
  scans := [⟨"web", "web:1", none, false, [], none⟩, ⟨"api", "api:1", none, false, [], none⟩,
    ⟨"web", "web:2", none, false, [], none⟩]

def policy : Policy where
  metadata := { name := some "images", ns := some "shop", generation := some 2 }
  spec := { type := "trivy", trivy := some images }

/-- A job of the policy that is held by somebody's finalizer. -/
def held (name : String) : Job where
  metadata := {
    name := some name
    ns := some "shop"
    labels := some (Labels.ofPolicyName "images")
    finalizers := some ["audit"] }
  spec := none

/-- There is the job of one scan, and one of an earlier generation. -/
def start : Cluster :=
  (["eirenyx-trivy-images-api-2", "eirenyx-trivy-images-api-1"].forM
    (fun name => discard (ClusterM.create (held name))) : ClusterM PUnit) {} |>.2

def tidied : Cluster := (Engine.reconcile .trivy policy start).2

/-- What is left when the second write is the first to fail. -/
def stopped : Rationed := (Access.rationed.reconcile .trivy policy ⟨start, 1⟩).2

theorem reached_start : start.Reached :=
  reached_empty.later ((Keeps.forM fun _ _ => (ClusterM.later_create _).discard).state {})

end Jobs.Sample

open Jobs.Sample in
/-- Of two scans with one name the first gets the job. The outdated job is marked in the end, and
not yet when the reconciliation stops before. -/
theorem tidied_sample :
    Engine.reconcile .trivy policy start = (.ok (), tidied) ∧ Tidied policy images start tidied ∧
      ((tidied.store .job).get? "shop" "eirenyx-trivy-images-api-1").map
        (·.metadata.isDeleting) = some true ∧
      Access.rationed.reconcile .trivy policy ⟨start, 1⟩ =
        (.error (.transient "write" "interrupted"), stopped) ∧
      Careful policy images start stopped.cluster ∧
      ((stopped.cluster.store .job).get? "shop" "eirenyx-trivy-images-api-1").map
        (·.metadata.isDeleting) = some false := by
  have hrun : Engine.reconcile .trivy policy start = (.ok (), tidied) := rfl
  have hstop : Access.rationed.reconcile .trivy policy ⟨start, 1⟩ =
      (.error (.transient "write" "interrupted"), stopped) := rfl
  obtain ⟨hdirect, hrationed⟩ := tidied_of_reconcile (reached_start .job) (p := policy) rfl
  exact ⟨hrun, hdirect.ok hrun, rfl, hstop, (hrationed 1).error hstop, rfl⟩

end Engine.Scans

end PolicyOperator
