import PolicyOperator.Proofs.Policies.Staleness

/-!
# Scans that are run again

A finished scan is known by its job alone, and the API server deletes the job once it has been
finished for as long as it asks for. A drive then finds no job and scans again, although the policy
is the same.

A run drives one policy as it is stored, while jobs report how they get on and expire.
`created place` counts how often it created the job at a place, `rescanned place` says that a drive
scanned after a job that the run had created expired. Exactly then the job of a scan is created more
than once (`scanned_once_iff`), and this does happen (`scanned_twice`).

* A drive that scans leaves every job of the policy (`Scanning.inLine`); one that does not leaves
  all jobs or cleans up (`jobs_of_not_scanning`).
* What a moment can do to a job is `Moment.Regular` (`regular_of_takes`), and the invariant `Inv`
  follows from that alone (`Inv.after`).
-/

namespace PolicyOperator.PolicyLifecycle.Rescans

open Cluster Engine

/-! ## One drive -/

section
variable {key place : Key} {p : Policy} {c : Cluster} {pl : Platform} {spec : TrivySpec}
  {name : String}

/-- A drive of the policy gets to write its jobs. -/
structure Scanning (p : Policy) (c : Cluster) : Prop where
  step : step p = .sync
  engine : engineFor p = .ok .trivy
  writable : (c.store .job).failing = false

theorem jobs_drive (p : Policy) (pl : Platform) :
    ((Lifecycle.policy.drive p pl).2.cluster.store .job).objects =
      ((work p pl.cluster).2.store .job).objects :=
  sameStored_drive p pl .trivy

theorem halts_reconcile (p : Policy) : Keeps (Halts .job) (Scans.reconcile p) := by
  refine (Keeps.liftM _).bind fun spec => (Keeps.forM fun scan _ => ?_).bind fun _ => ?_
  · refine (ClusterM.keeps_get? _ _ _).bind fun found => ?_
    split
    · exact .pure _
    · exact (ClusterM.halts_create _).discard
  · exact (ClusterM.keeps_list _ _ _).bind fun _ =>
      Keeps.forM fun _ _ => (ClusterM.halts_delete _ _).discard

/-- A drive that scans leaves a job for every scan. -/
theorem Scanning.inLine (pl : Platform) (h : Scanning p pl.cluster) (hkey : p.key = .ok key) :
    Scans.InLine p (Lifecycle.policy.drive p pl).2.cluster := by
  obtain ⟨spec, hspec, -⟩ := bind_eq_ok_iff.1 (kind_of_engineFor h.engine).2
  have hwork : work p pl.cluster = Scans.reconcile p pl.cluster := by
    unfold work
    rw [h.step, h.engine]
    rfl
  have hdone : Scans.InLine p (work p pl.cluster).2 := by
    rw [hwork]
    refine ((Scans.ends_reconcile hkey hspec pl.cluster).mono (fun _ _ hin => hin)
      fun _ _ hfailed => ?_).state
    simp [h.writable] at hfailed
  obtain ⟨spec, hspec, hjobs⟩ := hdone
  exact ⟨spec, hspec, fun name hname => by rw [jobs_drive]; exact hjobs name hname⟩

/-- A cleanup makes no jobs. -/
theorem absent_of_cleanup (hkind : p.spec.kind = .ok .trivy)
    (hnone : (c.store .job).objects.get? place = none) :
    ((cleanup p c).2.store .job).objects.get? place = none := by
  have absent : ∀ {keys c'}, Cleaned .trivy keys c c' →
      (c'.store .job).objects.get? place = none := fun {keys c'} hcleaned => by
    have hcleared := hcleaned.artifacts
    by_cases hplace : keys place
    · have hw := hcleared.swept place hplace
      rw [show (c.store (ToolKind.artifact .trivy)).objects.get? place = none from hnone] at hw
      exact hw.of_none
    · exact (hcleared.others place hplace).trans hnone
  refine Ends.state (P := fun c' => (c'.store .job).objects.get? place = none)
    ((ends_cleanup p c).mono (fun _ c' hswept => ?_) fun _ c' ⟨kind, hkind', hstopped⟩ => ?_)
  · obtain ⟨kind, hkind', hcleaned⟩ | ⟨-, rfl⟩ := hswept
    · obtain rfl : ToolKind.trivy = kind := by simpa [hkind] using hkind'
      exact absent hcleaned
    · exact hnone
  · obtain rfl : ToolKind.trivy = kind := by simpa [hkind] using hkind'
    obtain rfl | hcleaned := hstopped.done
    · exact hnone
    · exact absent hcleaned

/-- A drive that does not scan leaves all jobs, or it cleans up and makes none. -/
theorem jobs_of_not_scanning (pl : Platform) (hnot : ¬ Scanning p pl.cluster)
    (hkind : p.spec.kind = .ok .trivy) :
    ((Lifecycle.policy.drive p pl).2.cluster.store .job).objects =
        (pl.cluster.store .job).objects ∨
      (step p = .finalize ∨ step p = .disable) ∧ ∀ place,
        (pl.cluster.store .job).objects.get? place = none →
        ((Lifecycle.policy.drive p pl).2.cluster.store .job).objects.get? place = none := by
  rw [jobs_drive]
  unfold work
  cases hstep : step p with
  | finalize => exact .inr ⟨.inl rfl, fun _ => absent_of_cleanup hkind⟩
  | disable => exact .inr ⟨.inr rfl, fun _ => absent_of_cleanup hkind⟩
  | release | guard | link => exact .inl rfl
  | sync =>
    refine .inl ?_
    cases hengine : engineFor p with
    | error e => rfl
    | ok kind =>
      obtain rfl : ToolKind.trivy = kind := by
        simpa [hkind] using (kind_of_engineFor hengine).1
      have hfailing : (pl.cluster.store .job).failing = true := by
        by_contra hworking
        exact hnot ⟨hstep, hengine, by simpa using hworking⟩
      have hsame := (halts_reconcile p).state pl.cluster hfailing
      show ((Scans.reconcile p pl.cluster).2.store .job).objects = _
      rw [hsame]

end

/-! ## Runs -/

/-- The job ran to its end. -/
def isFinished (s : JobStatus) : Bool :=
  s.active.getD 0 == 0 && (0 < s.succeeded.getD 0 || 0 < s.failed.getD 0)

structure World where
  platform : Platform
  /-- Which jobs have finished, by their identities, and when. -/
  finished : List (Option String × Instant) := []

inductive Turn where
  /-- The operator drives the policy as it is stored. -/
  | drive (p : Policy)
  /-- A job reports how it gets on. -/
  | progress (place : Key)
  /-- The API server deletes a job that has been finished for as long as it asks for. -/
  | expire (place : Key)
  /-- Anything else that concerns neither the policy nor jobs; time passes. -/
  | elsewhere

/-- What a turn makes of a world. -/
inductive Takes (key : Key) : World → Turn → World → Prop
  | drive {w : World} {p : Policy} :
      (w.platform.cluster.store .policy).objects.get? key = some p →
      Takes key w (.drive p) { w with platform := (Lifecycle.policy.drive p w.platform).2 }
  | progress {w : World} {place : Key} {j j' : Job} {status : JobStatus} {c : Cluster} :
      (w.platform.cluster.store .job).objects.get? place = some j → j.key = .ok place →
      ClusterM.replaceStatus { j with status := some status } w.platform.cluster = (.ok j', c) →
      Takes key w (.progress place) {
        platform := { w.platform with cluster := c }
        finished := if isFinished status then
            (j.metadata.uid, w.platform.cluster.clock) :: w.finished
          else w.finished }
  | expire {w : World} {place : Key} {j : Job} {spec : JobSpec} {ttl : Int} {since : Instant} :
      (w.platform.cluster.store .job).objects.get? place = some j → j.spec = some spec →
      spec.ttlSecondsAfterFinished = some ttl → (j.metadata.uid, since) ∈ w.finished →
      since.seconds + ttl ≤ w.platform.cluster.clock.seconds →
      Takes key w (.expire place) { w with platform := { w.platform with
        cluster := w.platform.cluster.setStore .job
          ((w.platform.cluster.store .job).deletion w.platform.cluster.clock place) } }
  | elsewhere {w : World} {pl : Platform} :
      (pl.cluster.store .policy).objects.get? key =
        (w.platform.cluster.store .policy).objects.get? key →
      (pl.cluster.store .job).objects = (w.platform.cluster.store .job).objects →
      Takes key w .elsewhere { w with platform := pl }

/-- A turn, with the cluster before and after it. -/
structure Moment where
  before : Cluster
  turn : Turn
  after : Cluster

/-- A sequence of turns, the latest first. -/
inductive Run (key : Key) (w₀ : World) : List Moment → World → Prop
  | start : Run key w₀ [] w₀
  | step {history : List Moment} {w w' : World} {turn : Turn} : Run key w₀ history w →
      Takes key w turn w' →
      Run key w₀ (⟨w.platform.cluster, turn, w'.platform.cluster⟩ :: history) w'

/-- An enabled policy with scans is stored, as stores keep their objects. -/
structure Start (key : Key) (p : Policy) (c : Cluster) : Prop where
  stored : (c.store .policy).objects.get? key = some p
  registered : Object.Registered key p
  trivy : p.spec.kind = .ok .trivy
  enabled : p.spec.enabled = true

namespace Moment

/-- The job at the place is new. -/
def creates (place : Key) (m : Moment) : Bool :=
  ((m.before.store .job).objects.get? place).isNone &&
    ((m.after.store .job).objects.get? place).isSome

/-- The job at the place expires and is gone. -/
def expires (place : Key) (m : Moment) : Prop :=
  m.turn = .expire place ∧ (m.after.store .job).objects.get? place = none

/-- A drive gets to write the jobs of the policy. -/
def scans (m : Moment) : Prop := ∃ p, m.turn = .drive p ∧ Scanning p m.before

end Moment

/-- How often a job was created at the place. -/
def created (place : Key) (history : List Moment) : Nat := history.countP (Moment.creates place)

/-- A job that was created at the place has expired. -/
def expired (place : Key) : List Moment → Prop
  | [] => False
  | m :: earlier => m.expires place ∧ 0 < created place earlier ∨ expired place earlier

/-- A drive scanned after a job that was created at the place had expired. -/
def rescanned (place : Key) : List Moment → Prop
  | [] => False
  | m :: earlier => m.scans ∧ expired place earlier ∨ rescanned place earlier

/-! ## One moment -/

section
variable {key place : Key} {p q : Policy} {spec : TrivySpec} {name : String} {w w' : World}
  {m : Moment} {turn : Turn} {history : List Moment} {c c' : Cluster}

theorem Moment.creates_iff : m.creates place = true ↔
    (m.before.store .job).objects.get? place = none ∧
      ((m.after.store .job).objects.get? place).isSome := by
  rw [creates, Bool.and_eq_true, Option.isNone_iff_eq_none]

/-- All that a moment can do to the job at a place: only a drive that scans creates it, and then it
is there; only its expiry takes it away, as long as the policy stays. -/
structure Moment.Regular (p : Policy) (place : Key) (m : Moment) : Prop where
  made : m.creates place = true → m.scans
  there : m.scans → ((m.after.store .job).objects.get? place).isSome
  staying : m.scans → p.metadata.isDeleting = false
  removed : ((m.before.store .job).objects.get? place).isSome →
    (m.after.store .job).objects.get? place = none →
    m.expires place ∨ p.metadata.isDeleting = true

/-- Turns other than drives create no jobs, and only an expiry takes one away. -/
theorem regular_of_kept (hturn : ∀ q, turn ≠ .drive q)
    (hnone : (c.store .job).objects.get? place = none →
      (c'.store .job).objects.get? place = none)
    (hsome : ((c.store .job).objects.get? place).isSome →
      (c'.store .job).objects.get? place = none → turn = .expire place) :
    Moment.Regular p place ⟨c, turn, c'⟩ := by
  have hscans : ¬ Moment.scans ⟨c, turn, c'⟩ := fun ⟨q, hq, _⟩ => hturn q hq
  refine ⟨fun hcreates => ?_, fun h => absurd h hscans, fun h => absurd h hscans,
    fun hbefore hafter => .inl ⟨hsome hbefore hafter, hafter⟩⟩
  obtain ⟨hbefore, hafter⟩ := Moment.creates_iff.1 hcreates
  simp [hnone hbefore] at hafter

/-- Drives of the policy are regular at the places of its jobs. -/
theorem regular_drive {pl : Platform} (hstart : Start key p c) (hrevised : Revised p q)
    (hspec : Scans.specOf p = .ok spec) (hname : name ∈ spec.expectedJobs p) :
    Moment.Regular p ⟨key.ns, name⟩
      ⟨pl.cluster, .drive q, (Lifecycle.policy.drive q pl).2.cluster⟩ := by
  have hkey := hrevised.filed hstart.registered.filed
  have hkind : q.spec.kind = .ok .trivy := by rw [hrevised.spec, hstart.trivy]
  by_cases hscanning : Scanning q pl.cluster
  · have hthere : (((Lifecycle.policy.drive q pl).2.cluster.store .job).objects.get?
        ⟨key.ns, name⟩).isSome := by
      obtain ⟨g, hg⟩ := hstart.registered.counted
      obtain ⟨spec', hspec', hjobs⟩ := (hscanning.inLine pl hkey).congr
        hrevised.spec.symm hkey hstart.registered.filed
        (hg.trans (hrevised.generation g hg).symm)
      obtain rfl : spec' = spec := by simpa [hspec'] using hspec
      have hjob := hjobs name hname
      rwa [Object.nsOrEmpty_of_key hstart.registered.filed] at hjob
    refine ⟨fun _ => ⟨q, rfl, hscanning⟩, fun _ => hthere, fun _ => ?_, fun _ hafter => ?_⟩
    · exact hrevised.deleting.symm.trans (Observed.step_of_sync hscanning.step).1
    · rw [hafter] at hthere
      cases hthere
  · have hnot : ¬ Moment.scans ⟨pl.cluster, .drive q, (Lifecycle.policy.drive q pl).2.cluster⟩ := by
      rintro ⟨q', hq, h⟩
      cases hq
      exact hscanning h
    have hjobs := jobs_of_not_scanning pl hscanning hkind
    refine ⟨fun hcreates => ?_, fun h => absurd h hnot, fun h => absurd h hnot,
      fun hbefore hafter => .inr ?_⟩
    · obtain ⟨hbefore, hafter⟩ := Moment.creates_iff.1 hcreates
      obtain hsame | ⟨-, habsent⟩ := hjobs
      · simp [hsame, hbefore] at hafter
      · simp [habsent _ hbefore] at hafter
    · obtain hsame | ⟨hstep | hstep, -⟩ := hjobs
      · rw [hsame] at hafter
        rw [hafter] at hbefore
        cases hbefore
      · exact hrevised.deleting.symm.trans (Observed.step_eq_finalize_iff.1 hstep).1
      · have hdisabled : q.spec.enabled = false := (Observed.step_of_disable hstep).2.2
        rw [hrevised.spec, hstart.enabled] at hdisabled
        cases hdisabled

/-- Every turn is regular. -/
theorem regular_of_takes (hstart : Start key p c)
    (hrevised : ∀ q, (w.platform.cluster.store .policy).objects.get? key = some q → Revised p q)
    (hspec : Scans.specOf p = .ok spec) (hname : name ∈ spec.expectedJobs p)
    (h : Takes key w turn w') :
    Moment.Regular p ⟨key.ns, name⟩ ⟨w.platform.cluster, turn, w'.platform.cluster⟩ := by
  cases h with
  | drive hget => exact regular_drive hstart (hrevised _ hget) hspec hname
  | @progress place j j' status c hget hkey hwrite =>
    obtain ⟨v, hfiled⟩ := Ends.ok (ClusterM.ends_replaceStatus
      (o := { j with status := some status }) ((Object.key_congr rfl rfl).trans hkey) hget
      fun _ h => h) hwrite
    refine regular_of_kept (by simp) (fun hnone => ?_) fun hsome hnone => ?_
    all_goals dsimp only at *
    · rw [hfiled.get?]
      split
      · next he =>
        rw [he, hget] at hnone
        cases hnone
      · exact hnone
    · exact absurd (hfiled.grown _ hsome) (by simp [hnone])
  | @expire place j _ _ _ hget =>
    have hdeletion := Store.withdrawn_deletion (w.platform.cluster.store .job)
      w.platform.cluster.clock place
    have hothers : ∀ place', place' ≠ place →
        ((w.platform.cluster.store .job).deletion w.platform.cluster.clock place).objects.get?
          place' = (w.platform.cluster.store .job).objects.get? place' :=
      fun place' hne => Store.get?_deletion_of_ne _ _ hne
    refine regular_of_kept (by simp) (fun hnone => ?_) fun hsome hnone => ?_
    all_goals simp only [store_setStore] at *
    · rw [hothers _ fun he => by simp [he, hget] at hnone]
      exact hnone
    · by_contra hne
      rw [hothers _ fun he => hne (by rw [he])] at hnone
      rw [hnone] at hsome
      cases hsome
  | elsewhere _ hjobs =>
    refine regular_of_kept (by simp) (fun hnone => ?_) fun hsome hnone => ?_
    · rwa [hjobs]
    · rw [hjobs] at hnone
      rw [hnone] at hsome
      cases hsome

/-- Turns leave the policy as it is stored, but for what drives edit. -/
theorem revised_of_takes (hstart : Start key p c)
    (hrevised : ∀ q, (w.platform.cluster.store .policy).objects.get? key = some q → Revised p q)
    (h : Takes key w turn w') :
    ∀ q, (w'.platform.cluster.store .policy).objects.get? key = some q → Revised p q := by
  cases h with
  | @drive q hget =>
    intro q' hget'
    have hq := hrevised q hget
    have hdriven : Driven key q w.platform.cluster (Lifecycle.policy.drive q w.platform).1
        (Lifecycle.policy.drive q w.platform).2.cluster :=
      Ends.run (P := fun r (pl : Platform) => Driven key q w.platform.cluster r pl.cluster)
        (ends_drive hget (hq.filed hstart.registered.filed))
    exact hq.trans (hdriven.revised hget hget')
  | @progress place j j' status c hget hkey hwrite =>
    have hconfined : Confined [.job] w.platform.cluster c :=
      (ClusterM.confined_replaceStatus (by simp) { j with status := some status } _).ok hwrite
    intro q hq
    exact hrevised q (by rwa [← hconfined.store .policy (by simp)])
  | expire =>
    intro q hq
    rw [store_setStore_of_ne _ _ (by decide : ResourceKind.policy ≠ .job)] at hq
    exact hrevised q hq
  | elsewhere hpolicy =>
    intro q hq
    exact hrevised q (by rwa [← hpolicy])

/-! ## Every run -/

theorem created_of_creates (h : m.creates place = true) :
    created place (m :: history) = created place history + 1 := by
  rw [created, List.countP_cons, if_pos h, created]

theorem created_of_not_creates (h : m.creates place ≠ true) :
    created place (m :: history) = created place history := by
  rw [created, List.countP_cons, if_neg h, Nat.add_zero, created]

theorem created_le (m : Moment) : created place history ≤ created place (m :: history) := by
  by_cases h : m.creates place = true
  · rw [created_of_creates h]
    exact Nat.le_succ _
  · exact Nat.le_of_eq (created_of_not_creates h).symm

/-- The invariant: a job that was created and is gone has expired, and if one has expired and one is
there again, a drive scanned again. -/
structure Inv (p : Policy) (place : Key) (history : List Moment) (c : Cluster) : Prop where
  leaving : p.metadata.isDeleting = true → created place history = 0
  gone : (c.store .job).objects.get? place = none → 0 < created place history →
    expired place history
  back : ((c.store .job).objects.get? place).isSome → expired place history →
    rescanned place history
  once : expired place history → 0 < created place history
  twice : rescanned place history ↔ 1 < created place history

theorem inv_start : Inv p place [] c :=
  ⟨fun _ => rfl, fun _ h => (Nat.not_lt_zero 0 h).elim, fun _ h => h.elim, fun h => h.elim,
    fun h => h.elim, fun h => absurd h (by simp [created])⟩

/-- If the job is gone although one had been created, it expired before or does so now. -/
theorem Inv.gone_after (h : Inv p place history m.before) (hm : m.Regular p place)
    (hnone : (m.after.store .job).objects.get? place = none)
    (hpos : 0 < created place (m :: history)) : expired place (m :: history) := by
  have hnot : m.creates place ≠ true := fun hcreates => by
    have hsome := (Moment.creates_iff.1 hcreates).2
    simp [hnone] at hsome
  rw [created_of_not_creates hnot] at hpos
  by_cases hbefore : (m.before.store .job).objects.get? place = none
  · exact .inr (h.gone hbefore hpos)
  · obtain hexpires | hleaving := hm.removed (Option.isSome_iff_ne_none.2 hbefore) hnone
    · exact .inl ⟨hexpires, hpos⟩
    · rw [h.leaving hleaving] at hpos
      exact absurd hpos (Nat.lt_irrefl 0)

/-- A job that is there again after one expired was made by a drive that scanned, now or before. -/
theorem Inv.back_after (h : Inv p place history m.before) (hm : m.Regular p place)
    (hsome : ((m.after.store .job).objects.get? place).isSome)
    (hexpired : expired place (m :: history)) : rescanned place (m :: history) := by
  obtain ⟨hexpires, -⟩ | hexpired := hexpired
  · simp [hexpires.2] at hsome
  · by_cases hbefore : (m.before.store .job).objects.get? place = none
    · exact .inl ⟨hm.made (Moment.creates_iff.2 ⟨hbefore, hsome⟩), hexpired⟩
    · exact .inr (h.back (Option.isSome_iff_ne_none.2 hbefore) hexpired)

/-- A drive that scans after a job expired makes another one, unless there is one again already. -/
theorem Inv.created_of_rescanned (h : Inv p place history m.before) (hm : m.Regular p place)
    (hrescanned : rescanned place (m :: history)) : 1 < created place (m :: history) := by
  obtain ⟨hscans, hexpired⟩ | hrescanned := hrescanned
  · by_cases hbefore : (m.before.store .job).objects.get? place = none
    · have hpos := h.once hexpired
      rw [created_of_creates (Moment.creates_iff.2 ⟨hbefore, hm.there hscans⟩)]
      omega
    · have hagain := h.back (Option.isSome_iff_ne_none.2 hbefore) hexpired
      exact Nat.lt_of_lt_of_le (h.twice.1 hagain) (created_le m)
  · exact Nat.lt_of_lt_of_le (h.twice.1 hrescanned) (created_le m)

/-- A second job is only made when the first one is gone, and so has expired. -/
theorem Inv.rescanned_of_created (h : Inv p place history m.before) (hm : m.Regular p place)
    (htwo : 1 < created place (m :: history)) : rescanned place (m :: history) := by
  by_cases hcreates : m.creates place = true
  · rw [created_of_creates hcreates] at htwo
    exact .inl ⟨hm.made hcreates, h.gone (Moment.creates_iff.1 hcreates).1 (by omega)⟩
  · rw [created_of_not_creates hcreates] at htwo
    exact .inr (h.twice.2 htwo)

/-- Every regular moment keeps the invariant. -/
theorem Inv.after (h : Inv p place history m.before) (hm : m.Regular p place) :
    Inv p place (m :: history) m.after where
  leaving hleaving := by
    have hnot : m.creates place ≠ true := fun hcreates => by
      have hstaying := hm.staying (hm.made hcreates)
      rw [hleaving] at hstaying
      cases hstaying
    rw [created_of_not_creates hnot, h.leaving hleaving]
  gone := h.gone_after hm
  back := h.back_after hm
  once hexpired := by
    obtain ⟨-, hpos⟩ | hexpired := hexpired
    · exact Nat.lt_of_lt_of_le hpos (created_le m)
    · exact Nat.lt_of_lt_of_le (h.once hexpired) (created_le m)
  twice := ⟨h.created_of_rescanned hm, h.rescanned_of_created hm⟩

theorem Run.inv {w₀ : World} (hrun : Run key w₀ history w)
    (hstart : Start key p w₀.platform.cluster) (hspec : Scans.specOf p = .ok spec)
    (hname : name ∈ spec.expectedJobs p) :
    (∀ q, (w.platform.cluster.store .policy).objects.get? key = some q → Revised p q) ∧
      Inv p ⟨key.ns, name⟩ history w.platform.cluster := by
  induction hrun with
  | start =>
    refine ⟨fun q hq => ?_, inv_start⟩
    obtain rfl := Option.some.inj (hstart.stored.symm.trans hq)
    exact .rfl
  | step _ ht ih =>
    obtain ⟨hrevised, hinv⟩ := ih
    exact ⟨revised_of_takes hstart hrevised ht,
      hinv.after (regular_of_takes hstart hrevised hspec hname ht)⟩

/-- The job of a scan is created at most once exactly in the runs in which no drive scans after a
job that was created for it has expired. -/
theorem scanned_once_iff {w₀ : World} (hstart : Start key p w₀.platform.cluster)
    (hrun : Run key w₀ history w) (hspec : Scans.specOf p = .ok spec)
    (hname : name ∈ spec.expectedJobs p) :
    created ⟨key.ns, name⟩ history ≤ 1 ↔ ¬ rescanned ⟨key.ns, name⟩ history := by
  rw [(hrun.inv hstart hspec hname).2.twice, Nat.not_lt]

end

/-! ## A scan that is run twice -/

namespace Sample

open Staleness

/-- Where the job of the scan is kept. -/
def place : Key := ⟨"shop", "eirenyx-trivy-images-web-1"⟩

def start : World := { platform := { cluster := Staleness.created } }

/-- The world after the stored policy was driven. -/
def drive (w : World) : World :=
  { w with platform := (Lifecycle.policy.drive (stored w.platform.cluster) w.platform).2 }

def guarded : World := drive start

def linked : World := drive guarded

/-- The first scan has its job. -/
def scanned : World := drive linked

def job : Job :=
  (scanned.platform.cluster.jobs.objects.get? place).getD { metadata := {}, spec := none }

/-- The job with what it reports in the end. -/
def report : Job := { job with status := some { succeeded := some 1 } }

/-- The scan has finished. -/
def finished : World where
  platform := { scanned.platform with
    cluster := (ClusterM.replaceStatus report scanned.platform.cluster).2 }
  finished := [(job.metadata.uid, ⟨0, 0⟩)]

/-- Five minutes later. -/
def later : World := { finished with platform := { finished.platform with
  cluster := { finished.platform.cluster with clock := ⟨300, 0⟩ } } }

/-- The job has expired. -/
def cleared : World := { later with platform := { later.platform with
  cluster := later.platform.cluster.setStore .job
    ((later.platform.cluster.store .job).deletion later.platform.cluster.clock place) } }

/-- The policy was driven once more. -/
def repeated : World := drive cleared

/-- The policy as it is stored in a world, driven. -/
def driven (w : World) : Moment :=
  ⟨w.platform.cluster, .drive (stored w.platform.cluster), (drive w).platform.cluster⟩

/-- The turns until the scan has its job. -/
def history : List Moment := [driven linked, driven guarded, driven start]

/-- The turns until the job has expired. -/
def waiting : List Moment := [
  ⟨later.platform.cluster, .expire place, cleared.platform.cluster⟩,
  ⟨finished.platform.cluster, .elsewhere, later.platform.cluster⟩,
  ⟨scanned.platform.cluster, .progress place, finished.platform.cluster⟩]

theorem start_created : Start key (stored Staleness.created) start.platform.cluster where
  stored := rfl
  registered := ⟨rfl, ⟨_, rfl⟩, ⟨_, rfl⟩, nofun⟩
  trivy := rfl
  enabled := rfl

theorem run_scanned : Run key start history scanned := by
  have hguarded : Run key start [driven start] guarded :=
    .step .start (.drive (w := start) (p := stored Staleness.created) rfl)
  have hlinked : Run key start [driven guarded, driven start] linked :=
    .step hguarded (.drive (w := guarded) (p := stored guarded.platform.cluster) rfl)
  exact .step hlinked (.drive (w := linked) (p := stored linked.platform.cluster) rfl)

theorem created_history : Rescans.created place history = 1 := by rfl

theorem stored_job : (scanned.platform.cluster.store .job).objects.get? place = some job := by rfl

theorem written_report : ∃ j, ClusterM.replaceStatus report scanned.platform.cluster =
    (.ok j, finished.platform.cluster) := ⟨_, rfl⟩

theorem stored_report : ∃ version,
    (later.platform.cluster.store .job).objects.get? place =
      some (Store.withStatus job report version) := by
  obtain ⟨j, hwrite⟩ := written_report
  have hplace : report.key = .ok place := rfl
  obtain ⟨version, hfiled⟩ :=
    (ClusterM.ends_replaceStatus hplace stored_job fun _ h => h).ok hwrite
  exact ⟨version, hfiled.self⟩

theorem run_cleared : Run key start (waiting ++ history) cleared := by
  obtain ⟨j, hwrite⟩ := written_report
  obtain ⟨version, hreport⟩ := stored_report
  have hfinished : Run key start (_ :: history) finished :=
    run_scanned.step (.progress (w := scanned) (j := job) stored_job rfl hwrite)
  have hlater : Run key start (_ :: _ :: history) later := hfinished.step (.elsewhere rfl rfl)
  exact hlater.step (.expire (w := later) hreport rfl rfl List.mem_cons_self (by decide))

theorem expired_waiting : expired place (waiting ++ history) := by
  obtain ⟨version, hreport⟩ := stored_report
  have hgone := Store.withdrawn_deletion (later.platform.cluster.store .job)
    later.platform.cluster.clock place
  rw [hreport] at hgone
  refine .inl ⟨⟨rfl, hgone.eq_none rfl⟩, ?_⟩
  have hpos : 0 < Rescans.created place history := by
    rw [created_history]
    exact Nat.one_pos
  exact Nat.lt_of_lt_of_le hpos (Nat.le_trans (created_le _) (created_le _))

theorem scanning_cleared : Scanning (stored cleared.platform.cluster) cleared.platform.cluster :=
  ⟨rfl, rfl, rfl⟩

/-- The job is one of those that the policy asks for. -/
theorem expected_job : ∃ spec, Scans.specOf (stored Staleness.created) = .ok spec ∧
    place.name ∈ spec.expectedJobs (stored Staleness.created) :=
  ⟨_, rfl, List.mem_singleton.2 rfl⟩

end Sample

open Rescans.Sample Staleness in
/-- Until its job expires the scan is run once. -/
theorem scanned_once_sample :
    Run key start Sample.history scanned ∧ created Sample.place Sample.history = 1 ∧
      ¬ rescanned Sample.place Sample.history := by
  obtain ⟨spec, hspec, hjob⟩ := expected_job
  refine ⟨run_scanned, created_history, ?_⟩
  exact (scanned_once_iff start_created run_scanned hspec hjob).1
    (Nat.le_of_eq created_history)

open Rescans.Sample Staleness in
/-- The policy is driven as it is stored, nobody edits it, and yet its finished scan is run
again. -/
theorem scanned_twice :
    Start key (stored Staleness.created) start.platform.cluster ∧
      Run key start (driven cleared :: (waiting ++ Sample.history)) repeated ∧
      (∃ spec, Scans.specOf (stored Staleness.created) = .ok spec ∧
        Sample.place.name ∈ spec.expectedJobs (stored Staleness.created)) ∧
      Sample.place.ns = key.ns ∧
      1 < created Sample.place (driven cleared :: (waiting ++ Sample.history)) := by
  have hrun : Run key start (driven cleared :: (waiting ++ Sample.history)) repeated :=
    run_cleared.step (.drive (w := cleared) (p := stored cleared.platform.cluster) rfl)
  obtain ⟨spec, hspec, hjob⟩ := expected_job
  refine ⟨start_created, hrun, expected_job, rfl, ?_⟩
  refine (hrun.inv start_created hspec hjob).2.twice.1 (.inl ⟨⟨_, rfl, ?_⟩, expired_waiting⟩)
  exact scanning_cleared

end PolicyOperator.PolicyLifecycle.Rescans
