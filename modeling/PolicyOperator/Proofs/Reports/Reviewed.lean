import PolicyOperator.Controller
import PolicyOperator.Proofs.Cluster.Writes

/-!
# What reconciling a report changes

`Reviewed r pl answer pl'` says what may become of a cluster when the snapshot `r` of a report is
reconciled, and `reviewed_reconcile` that nothing else does:

* without its policy the report is deleted, or nothing happens and it is looked at again later,
* with its policy the report stays. At most its status is written, and only if the snapshot is not
  outdated.

`Restates r` is a preorder that `ReportHandler.publish` keeps (`keeps_publish`). The handlers only
write through `publish`, so they keep it as well.
-/

namespace PolicyOperator

open Cluster

namespace ReportHandler

variable {r : PolicyReport} {c c' : Cluster} {pl : Platform}

/-- Where the snapshot says that the report is stored. -/
def place (r : PolicyReport) : Key := ⟨r.metadata.nsOrEmpty, r.displayName⟩

theorem place_of_key {key : Key} (h : r.key = .ok key) : place r = key := by
  rw [place, Object.nsOrEmpty_of_key h, Object.displayName_of_key h]

/-- What a write of its status makes of a report, if the writer knew the stored version or named
none. Times are stored at whole seconds. -/
inductive Restated (version : Option String) : Option PolicyReport → Option PolicyReport → Prop
  | same {o? : Option PolicyReport} : Restated version o? o?
  | written {o o' : PolicyReport} :
      (∀ v, version = some v → o.metadata.resourceVersion = some v) → o'.spec = o.spec →
      o'.metadata = { o.metadata.wholeSeconds with
        resourceVersion := o'.metadata.resourceVersion } →
      Restated version (some o) (some o')

/-- At most the status of the report was written. -/
structure Restates (r : PolicyReport) (c c' : Cluster) : Prop where
  confined : Confined [.policyReport] c c'
  others : ∀ key, key ≠ place r →
    (c'.store .policyReport).objects.get? key = (c.store .policyReport).objects.get? key
  self : Restated r.metadata.resourceVersion ((c.store .policyReport).objects.get? (place r))
    ((c'.store .policyReport).objects.get? (place r))

theorem Restated.trans {version : Option String} {o₁ o₂ o₃ : Option PolicyReport}
    (h : Restated version o₁ o₂) (h' : Restated version o₂ o₃) : Restated version o₁ o₃ := by
  cases h with
  | same => exact h'
  | @written o o' hversion hspec hmetadata =>
    cases h' with
    | same => exact .written hversion hspec hmetadata
    | written _ hspec' hmetadata' =>
      refine .written hversion (hspec'.trans hspec) ?_
      have hseconds : o'.metadata.wholeSeconds =
          { o.metadata.wholeSeconds with resourceVersion := o'.metadata.resourceVersion } := by
        rw [hmetadata]
        exact congrArg
          (fun m : Metadata => { m with resourceVersion := o'.metadata.resourceVersion })
          o.metadata.wholeSeconds_wholeSeconds
      rw [hmetadata', hseconds]

instance : IsPreorder Cluster (Restates r) where
  refl _ := ⟨.rfl, fun _ _ => rfl, .same⟩
  trans _ _ _ h h' := ⟨IsTrans.trans _ _ _ h.confined h'.confined,
    fun key hne => (h'.others key hne).trans (h.others key hne), h.self.trans h'.self⟩

/-! ## The handlers -/

theorem keeps_publish (r : PolicyReport) (status : ReportStatus) :
    Keeps (Restates r) (publish r status) := by
  unfold publish
  split
  · exact .pure _
  · refine Keeps.bind (Keeps.discard fun c => ClusterM.ends_ofStore.2 ⟨fun o' s h => ?_, fun _ _ =>
      Std.Refl.refl c⟩) fun _ => .pure _
    obtain ⟨-, key, current, hkey, hcurrent, hversion, rfl, hs⟩ :=
      Store.replaceStatus_eq_ok_iff.1 h
    have hplace : place r = key := place_of_key ((Object.key_congr rfl rfl).trans hkey)
    have hget := Store.get?_replaceStatus h hkey
    refine ⟨confined_setStore (by simp) (by rw [hs]; rfl), fun key' hne => ?_, ?_⟩
    · rw [store_setStore, hget, if_neg (hplace ▸ hne)]
    · rw [store_setStore, hget, hplace, if_pos rfl, hcurrent]
      exact .written hversion rfl rfl

theorem keeps_trivy (r : PolicyReport) (p : Policy) : Keeps (Restates r) (handleTrivy r p) := by
  refine (keeps_liftM_except _).bind fun spec => ?_
  split
  · refine Keeps.get.bind fun c => ?_
    dsimp only
    split
    · exact (keeps_liftM_failure (keeps_publish r _)).discard.bind fun _ => .throw _
    · split
      · exact (keeps_liftM_failure (keeps_publish r _)).discard
      · exact .throw _
  · exact .throw _

theorem keeps_litmus (r : PolicyReport) (p : Policy) : Keeps (Restates r) (handleLitmus r p) := by
  refine (Keeps.liftM _).bind fun spec => ?_
  split
  · exact (keeps_publish r _).discard
  · exact .throw _

/-- At most the status of the report was written to the cluster. -/
def Reported (r : PolicyReport) (pl pl' : Platform) : Prop := Restates r pl.cluster pl'.cluster

instance : IsPreorder Platform (Reported r) where
  refl pl := Std.Refl.refl (r := Restates r) pl.cluster
  trans _ _ _ h h' := IsTrans.trans (r := Restates r) _ _ _ h h'

theorem reported_onCluster {ε : Type} {x : ExceptT ε (StateM Cluster) α} (hx : Keeps (Restates r) x) :
    Keeps (Reported r) (PlatformM.onCluster x) :=
  PlatformM.keeps_onCluster hx fun _ _ h => h

/-- Drawing evidence only moves the sampler on. -/
theorem ends_draw (pl : Platform) :
    Ends draw pl (fun _ pl' => pl'.cluster = pl.cluster) fun _ _ => False := by
  unfold draw
  rw [ends_bind, ends_get]
  generalize pl.sampler.findingCount = drawn
  obtain ⟨findings, sampler⟩ := drawn
  dsimp only
  generalize sampler.choose findings pl.cluster.eligiblePods = drawn
  obtain ⟨pods, sampler⟩ := drawn
  rw [ends_bind, ends_set]
  rfl

theorem reported_draw (r : PolicyReport) : Keeps (Reported r) draw := fun pl =>
  (ends_draw pl).mono (fun _ pl' h => by
    rw [Reported, h]
    exact Std.Refl.refl pl.cluster) fun _ _ h => h.elim

theorem reported_falco (refresh : Duration) (r : PolicyReport) (p : Policy) :
    Keeps (Reported r) (handleFalco refresh r p) := by
  refine (Keeps.liftM _).bind fun spec => ?_
  split
  · refine Keeps.get.bind fun pl => ?_
    dsimp only
    split
    · exact .pure _
    · exact (reported_draw r).bind fun _ => (reported_onCluster (keeps_publish r _)).discard
  · exact .throw _

theorem reported_handle (refresh : Duration) (r : PolicyReport) (p : Policy) :
    Keeps (Reported r) (handle refresh r p) := by
  refine (keeps_liftM_except _).bind fun kind => ?_
  cases kind with
  | falco => exact keeps_liftM_failure (reported_falco refresh r p)
  | trivy => exact reported_onCluster (keeps_trivy r p)
  | litmus => exact reported_onCluster (keeps_liftM_failure (keeps_litmus r p))

end ReportHandler

/-! ## The controller -/

namespace Controller

open ReportHandler

variable {r : PolicyReport} {pl : Platform}

/-- The policy that a report is about, in the report's namespace. -/
def policyOf (r : PolicyReport) (c : Cluster) : Option Policy :=
  (c.store .policy).objects.get? ⟨r.metadata.nsOrEmpty, r.spec.policyRef.name⟩

/-- What reconciling the snapshot of a report did. -/
structure Reviewed (r : PolicyReport) (pl : Platform) (answer : Except Failure Requeue)
    (pl' : Platform) : Prop where
  /-- The report of a policy that is gone is deleted, and nothing else changes. -/
  collected : policyOf r pl.cluster = none → (pl.cluster.store .policyReport).failing = false →
    answer = .ok none ∧ ∃ o?,
      Store.Withdrawn ((pl.cluster.store .policyReport).objects.get? (place r)) o? ∧
      Filed (place r) o? pl.cluster pl'.cluster
  /-- If it cannot be deleted, it is looked at again after five minutes. -/
  postponed : policyOf r pl.cluster = none → (pl.cluster.store .policyReport).failing = true →
    answer = .ok (some (.ofSeconds 300)) ∧ pl' = pl
  /-- Otherwise at most its status is written. -/
  restated : ∀ p, policyOf r pl.cluster = some p → Restates r pl.cluster pl'.cluster

theorem ends_collectOrphan (r : PolicyReport) (c : Cluster) :
    Ends (collectOrphan r) c (fun again c' =>
      (c.store .policyReport).failing = false ∧ again = none ∧ (∃ o?,
        Store.Withdrawn ((c.store .policyReport).objects.get? (place r)) o? ∧
        Filed (place r) o? c c') ∨
      (c.store .policyReport).failing = true ∧ again = some (.ofSeconds 300) ∧ c' = c)
      fun _ _ => False := by
  have hdelete := ClusterM.ends_delete .policyReport (place r) c
  unfold Ends collectOrphan
  rcases hrun : ClusterM.delete .policyReport r.metadata.nsOrEmpty r.displayName c with ⟨e | b, c'⟩
  · obtain ⟨hfailing, hsame⟩ := hdelete.error hrun
    exact .inr ⟨hfailing, rfl, hsame⟩
  · obtain ⟨hworking, hgone⟩ := hdelete.ok hrun
    exact .inl ⟨hworking, rfl, hgone⟩

/-- A report is deleted only if its policy is gone, and with its policy at most its status is
written. -/
theorem reviewed_reconcile (settings : Settings) (r : PolicyReport) (pl : Platform) :
    Reviewed r pl (reconcileReport settings r pl).1 (reconcileReport settings r pl).2 := by
  refine Ends.run ?_
  unfold reconcileReport
  rw [ends_bind, PlatformM.ends_onCluster, ends_liftM_failure, ClusterM.ends_get?]
  split
  · next hnone =>
    refine PlatformM.ends_onCluster.2 (ends_liftM_failure.2 ((ends_collectOrphan r pl.cluster).mono
      (fun again c' h => ?_) fun _ _ h => h.elim))
    refine ⟨fun _ hworking => ?_, fun _ hfailing => ?_, fun p hp => ?_⟩
    · obtain ⟨-, rfl, hgone⟩ | ⟨hfailing, -⟩ := h
      · exact ⟨rfl, hgone⟩
      · rw [hworking] at hfailing
        cases hfailing
    · obtain ⟨hworking, -⟩ | ⟨-, rfl, rfl⟩ := h
      · rw [hfailing] at hworking
        cases hworking
      · exact ⟨rfl, rfl⟩
    · cases hnone.symm.trans hp
  · next p hp =>
    have hstored : policyOf r pl.cluster ≠ none := by simp [policyOf, hp]
    have hrestated : ∀ {answer} {pl' : Platform}, Restates r pl.cluster pl'.cluster →
        Reviewed r pl answer pl' := fun h =>
      ⟨fun hnone => absurd hnone hstored, fun hnone => absurd hnone hstored, fun _ _ => h⟩
    exact ends_bind.2 ((reported_handle _ r p pl).mono (fun _ _ h => hrestated h)
      fun _ _ h => hrestated h)

end Controller

end PolicyOperator
