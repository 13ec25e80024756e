import PolicyOperator.Proofs.Engine.Settled

/-!
# Reconciling from scratch

A policy declares entries: one rule document, scans, or experiments. Each is rendered
(`Engine.rendering`) and filed at a place that follows from the policy and the name of the entry
(`Engine.place`); entries with different names have different places (`name_of_place`).

When nothing is stored at the places of a policy, a reconciliation creates what the entries are
rendered to, deletes the jobs that are `Superseded`, and does nothing else
(`ends_reconcile_vacant`, `Reconciled`).
-/

namespace PolicyOperator

theorem PolicySpec.litmus_of_typed {s : PolicySpec} {spec : LitmusSpec}
    (h : s.typed = .ok (.litmus spec)) : s.litmus = some spec := by
  obtain ⟨kind, -, hs⟩ := sectionOf_of_typed h
  cases kind with
  | litmus => simpa [sectionOf] using hs
  | falco | trivy => simp [sectionOf] at hs

namespace Engine

open Cluster Artifact

theorem Experiments.section_of_specOf {p : Policy} {spec : LitmusSpec}
    (h : Experiments.specOf p = .ok spec) : p.spec.litmus = some spec := by
  obtain ⟨part, hpart, h⟩ := bind_eq_ok_iff.1 h
  cases part with
  | litmus part => cases h; exact PolicySpec.litmus_of_typed hpart
  | falco part | trivy part => exact absurd h throw_ne_ok

/-! ## Entries -/

/-- What a policy declares an artifact by. -/
def Entry : ToolKind → Type
  | .falco => FalcoSpec
  | .trivy => Scan
  | .litmus => Experiment

/-- The entries of a policy, in the order in which it declares them. -/
def entries : (kind : ToolKind) → Policy → List (Entry kind)
  | .falco, p => p.spec.falco.toList
  | .trivy, p => (p.spec.trivy.map TrivySpec.scans).getD []
  | .litmus, p => (p.spec.litmus.map LitmusSpec.experiments).getD []

/-- What tells the entries of a policy apart. There is one rule document only. -/
def entryName : (kind : ToolKind) → Entry kind → String
  | .falco, _ => Naming.rulesKey
  | .trivy, scan => Scan.name scan
  | .litmus, e => Experiment.name e

/-- The artifact of an entry. -/
def rendering : (kind : ToolKind) → Policy → Entry kind → Object kind.artifact
  | .falco, p, spec => Rules.configMap p spec
  | .trivy, p, scan => Scans.job p scan
  | .litmus, p, e => Experiments.chaosEngine p e

/-- Where the artifact of an entry is filed. -/
def place (kind : ToolKind) (p : Policy) (e : Entry kind) : Key :=
  ⟨(rendering kind p e).metadata.nsOrEmpty, (rendering kind p e).displayName⟩

variable {kind : ToolKind} {p q : Policy} {pk qk key : Key} {c c' : Cluster}

theorem key_rendering (hkey : p.key = .ok pk) (e : Entry kind) :
    (rendering kind p e).key = .ok (place kind p e) := by
  have hfiled : ∃ key, (rendering kind p e).key = .ok key := by
    cases kind with
    | falco => exact ⟨_, Rules.key_configMap hkey⟩
    | trivy => exact ⟨_, Scans.key_job hkey⟩
    | litmus => exact ⟨_, Experiments.key_chaosEngine p e⟩
  obtain ⟨key, hfiled⟩ := hfiled
  rw [place, Object.nsOrEmpty_of_key hfiled, Object.displayName_of_key hfiled, hfiled]

theorem tagged_rendering (hkey : p.key = .ok pk) (e : Entry kind) :
    Labels.Tagged (rendering kind p e).metadata.labels pk := by
  cases kind with
  | falco => exact Rules.tagged_configMap hkey
  | trivy => exact Labels.tagged_labels hkey (by simp only [List.mem_singleton, forall_eq]; decide)
  | litmus => exact Experiments.tagged_chaosEngine hkey e

theorem place_falco (hkey : p.key = .ok pk) (spec : Entry .falco) :
    place .falco p spec = ⟨pk.ns, Naming.ruleDocument pk.name⟩ := by
  have h := key_rendering hkey spec
  rw [show (rendering .falco p spec).key = _ from Rules.key_configMap hkey] at h
  exact (Except.ok.inj h).symm

theorem place_trivy (hkey : p.key = .ok pk) (scan : Entry .trivy) :
    place .trivy p scan = ⟨pk.ns, TrivySpec.jobName p scan⟩ := by
  have h := key_rendering hkey scan
  rw [show (rendering .trivy p scan).key = _ from Scans.key_job hkey] at h
  exact (Except.ok.inj h).symm

theorem place_litmus (p : Policy) (e : Entry .litmus) :
    place .litmus p e = Experiments.place p e := rfl

/-- Entries of one policy with the same place have the same name. -/
theorem name_of_place (hkey : p.key = .ok pk) {e e' : Entry kind}
    (h : place kind p e = place kind p e') : entryName kind e = entryName kind e' := by
  cases kind with
  | falco => rfl
  | trivy =>
    rw [place_trivy hkey, place_trivy hkey] at h
    have hname : TrivySpec.jobName p e = TrivySpec.jobName p e' := congrArg Key.name h
    unfold TrivySpec.jobName Naming.scanJob at hname
    show Scan.name e = Scan.name e'
    simpa using hname
  | litmus =>
    rw [place_litmus, place_litmus] at h
    have hname : Naming.chaosEngine p.displayName (Experiment.name e) =
      Naming.chaosEngine p.displayName (Experiment.name e') := congrArg Key.name h
    unfold Naming.chaosEngine at hname
    show Experiment.name e = Experiment.name e'
    simpa using hname

/-- Entries with names of their own have places of their own. -/
theorem pairwise_places (hkey : p.key = .ok pk) {l : List (Entry kind)}
    (h : (l.map (entryName kind)).Nodup) :
    l.Pairwise fun e e' => place kind p e ≠ place kind p e' :=
  (List.pairwise_map.1 h).imp fun hne hplace => hne (name_of_place hkey hplace)

/-! ## Creating one artifact after the other -/

/-- What the items of a list are rendered to was created, each at its place, and nothing else
happened. -/
structure Made {α : Type} {k : ResourceKind} (l : List α) (rendering : α → Object k) (place : α → Key)
    (c c' : Cluster) : Prop where
  confined : Confined [k] c c'
  made : ∀ a ∈ l, ∃ v, (c'.store k).objects.get? (place a) =
    some (Store.created (rendering a) c.clock v)
  others : ∀ key, (∀ a ∈ l, key ≠ place a) →
    (c'.store k).objects.get? key = (c.store k).objects.get? key

theorem ends_make {α : Type} {k : ResourceKind} {l : List α} {f : α → ClusterM PUnit}
    {rendering : α → Object k} {place : α → Key}
    (hmake : ∀ a ∈ l, ∀ c, (c.store k).objects.get? (place a) = none → Ends (f a) c
      (fun _ c' => ∃ v, Filed (place a) (some (Store.created (rendering a) c.clock v)) c c')
      fun _ _ => True)
    (hdistinct : l.Pairwise fun a b => place a ≠ place b) {c : Cluster}
    (hvacant : ∀ a ∈ l, (c.store k).objects.get? (place a) = none) :
    Ends (l.forM f) c (fun _ => Made l rendering place c) fun _ _ => True := by
  induction l generalizing c with
  | nil => exact ⟨.rfl, by simp, fun _ _ => rfl⟩
  | cons a rest ih =>
    obtain ⟨hfirst, hrest⟩ := List.pairwise_cons.1 hdistinct
    rw [List.forM, ends_bind]
    refine (hmake a List.mem_cons_self c (hvacant a List.mem_cons_self)).mono (fun _ c₁ h₁ => ?_)
      fun _ _ h => h
    obtain ⟨v, hfiled⟩ := h₁
    have hvacant₁ : ∀ b ∈ rest, (c₁.store k).objects.get? (place b) = none := fun b hb => by
      rw [hfiled.other (hfirst b hb).symm, hvacant b (List.mem_cons_of_mem _ hb)]
    refine (ih (fun b hb => hmake b (List.mem_cons_of_mem _ hb)) hrest hvacant₁).mono
      (fun _ c' h => ?_) fun _ _ h => h
    constructor
    case confined => exact IsTrans.trans _ _ _ hfiled.confined h.confined
    case made =>
      intro b hb
      obtain rfl | hb := List.mem_cons.1 hb
      · exact ⟨v, by rw [h.others _ hfirst, hfiled.self]⟩
      · rw [← hfiled.confined.clock]
        exact h.made b hb
    case others =>
      intro key hkey
      rw [h.others key fun b hb => hkey b (List.mem_cons_of_mem _ hb),
        hfiled.other (hkey a List.mem_cons_self)]

theorem ends_upsert_vacant {k : ResourceKind} {desired : Object k} {apply : Object k → Object k}
    (hkey : desired.key = .ok key) (hvacant : (c.store k).objects.get? key = none) :
    Ends (discard (upsert desired apply) : ClusterM PUnit) c
      (fun _ c' => ∃ v, Filed key (some (Store.created desired c.clock v)) c c')
      fun _ _ => True := by
  have hplace : (⟨desired.metadata.nsOrEmpty, desired.displayName⟩ : Key) = key := by
    rw [Object.nsOrEmpty_of_key hkey, Object.displayName_of_key hkey]
  unfold upsert Access.upsert
  rw [ends_discard, ends_bind, ClusterM.ends_get?, hplace, hvacant]
  dsimp only
  rw [ends_bind, ends_discard]
  refine (ClusterM.ends_create hkey hvacant).mono (fun o c' h => ?_) fun _ _ _ => trivial
  obtain ⟨⟨v, rfl⟩, hfiled⟩ := h
  exact ⟨v, hfiled⟩

theorem Scans.ends_ensureJob_vacant (hkey : p.key = .ok pk) (scan : Scan)
    (hvacant : (c.store .job).objects.get? ⟨pk.ns, TrivySpec.jobName p scan⟩ = none) :
    Ends (ensureJob p scan) c
      (fun _ c' => ∃ v, Filed ⟨pk.ns, TrivySpec.jobName p scan⟩
        (some (Store.created (job p scan) c.clock v)) c c')
      fun _ _ => True := by
  unfold ensureJob Access.ensureJob
  rw [ends_bind, ClusterM.ends_get?, Object.nsOrEmpty_of_key hkey, hvacant]
  refine ends_discard.2 ((ClusterM.ends_create (key_job hkey) hvacant).mono (fun o c' h => ?_)
    fun _ _ _ => trivial)
  obtain ⟨⟨v, rfl⟩, hfiled⟩ := h
  exact ⟨v, hfiled⟩

/-! ## Reconciliation -/

/-- A job of the policy is there that none of its scans has. -/
def Superseded : ToolKind → Policy → Cluster → Key → Prop
  | .trivy, p, c, key => ∃ spec, Scans.specOf p = .ok spec ∧ Scans.Outdated p spec c key
  | _, _, _, _ => False

/-- What the entries of the policy are rendered to was created, and what is superseded deleted. -/
structure Reconciled (kind : ToolKind) (p : Policy) (c c' : Cluster) : Prop where
  confined : Confined [kind.artifact] c c'
  made : ∀ e ∈ entries kind p, ∃ v,
    (c'.store kind.artifact).objects.get? (place kind p e) =
      some (Store.created (rendering kind p e) c.clock v)
  swept : ∀ key, Superseded kind p c key →
    Store.Withdrawn ((c.store kind.artifact).objects.get? key)
      ((c'.store kind.artifact).objects.get? key)
  others : ∀ key, (∀ e ∈ entries kind p, key ≠ place kind p e) → ¬ Superseded kind p c key →
    (c'.store kind.artifact).objects.get? key = (c.store kind.artifact).objects.get? key

theorem Made.reconciled (h : Made (entries kind p) (rendering kind p) (place kind p) c c')
    (hnone : ∀ key, ¬ Superseded kind p c key) : Reconciled kind p c c' :=
  ⟨h.confined, h.made, fun key hs => absurd hs (hnone key), fun key hkey _ => h.others key hkey⟩

theorem Scans.outdated_congr {spec : TrivySpec}
    (h : (c'.store .job).objects.get? key = (c.store .job).objects.get? key) :
    Outdated p spec c' key ↔ Outdated p spec c key := by
  unfold Outdated
  rw [h]

theorem Scans.ends_reconcile_vacant (hkey : p.key = .ok pk) {spec : TrivySpec}
    (hspec : specOf p = .ok spec) (hc : (c.store .job).Filed)
    (hdistinct : (entries .trivy p).Pairwise fun e e' => place .trivy p e ≠ place .trivy p e')
    (hvacant : ∀ e ∈ entries .trivy p, (c.store .job).objects.get? (place .trivy p e) = none) :
    Ends (reconcile p) c (fun _ => Reconciled .trivy p c) fun _ _ => True := by
  have hentries : entries .trivy p = spec.scans := by
    rw [entries, section_of_specOf hspec]
    rfl
  have hmakes : Ends (spec.scans.forM (ensureJob p)) c
      (fun _ c' => Made (k := .job) (entries .trivy p) (rendering .trivy p) (place .trivy p) c c')
      fun _ _ => True := by
    rw [← hentries]
    refine ends_make (fun scan _ c hnone => ?_) hdistinct hvacant
    rw [place_trivy hkey] at hnone ⊢
    exact ends_ensureJob_vacant hkey scan hnone
  have hkeeps : Keeps Later (spec.scans.forM (ensureJob p)) := .forM fun _ _ => later_ensureJob p _
  unfold reconcile Access.reconcileScans
  simp only [ends_bind, ends_liftM, hspec, Access.ownJobs, ClusterM.ends_list]
  refine (hkeeps.ends hmakes).mono (fun _ c₁ h₁ => ?_) fun _ _ _ => trivial
  obtain ⟨hmade, hlater⟩ := h₁
  have hfiled : (c₁.store .job).Filed := (hlater .job).advanced.filed hc
  refine Ends.mono (clears_stale hfiled) (fun _ c₂ h₂ => ?_) fun _ _ _ => trivial
  obtain ⟨hcleared, hconfined, -⟩ := h₂
  -- the place of an entry is expected, so no outdated job is there
  have expected : ∀ e ∈ entries .trivy p, ∀ s : Cluster, ¬ Outdated p spec s (place .trivy p e) := by
    rintro e he s ⟨_, _, _, _, hstale⟩
    rw [place_trivy hkey] at hstale
    exact hstale (List.mem_map_of_mem (hentries ▸ he))
  constructor
  case confined => exact IsTrans.trans _ _ _ hmade.confined hconfined
  case made =>
    intro e he
    obtain ⟨v, hv⟩ := hmade.made e he
    exact ⟨v, (hcleared.others _ (expected e he c₁)).trans hv⟩
  case swept =>
    rintro key ⟨spec', hspec', hold⟩
    obtain rfl : spec' = spec := by simpa [hspec] using hspec'.symm
    have hsame := hmade.others key fun e he hplace => expected e he c (hplace ▸ hold)
    have hw := hcleared.swept key ((outdated_congr hsame).2 hold)
    exact hsame ▸ hw
  case others =>
    intro key hne hnot
    have hsame := hmade.others key hne
    refine (hcleared.others key fun hold => hnot ?_).trans hsame
    exact ⟨spec, hspec, (outdated_congr hsame).1 hold⟩

/-- Reconciling a valid policy at whose places nothing is stored. -/
theorem ends_reconcile_vacant (hkey : p.key = .ok pk) (hvalid : validate kind p = .ok ())
    (hc : (c.store kind.artifact).Filed) (hnames : ((entries kind p).map (entryName kind)).Nodup)
    (hvacant : ∀ e ∈ entries kind p,
      (c.store kind.artifact).objects.get? (place kind p e) = none) :
    Ends (reconcile kind p) c (fun _ => Reconciled kind p c) fun _ _ => True := by
  have hdistinct := pairwise_places hkey hnames
  cases kind with
  | falco =>
    obtain ⟨spec, hspec, -⟩ := bind_eq_ok_iff.1 hvalid
    have hentries : entries .falco p = [spec] := by
      rw [entries, Rules.section_of_specOf hspec]
      rfl
    have hmade : Ends ([spec].forM fun spec => (discard (upsert (Rules.configMap p spec)
        (Rules.addData (Rules.configMap p spec))) : ClusterM PUnit)) c
        (fun _ => Made (k := .configMap) (entries .falco p) (rendering .falco p) (place .falco p) c)
        fun _ _ => True := by
      rw [← hentries]
      refine ends_make (fun spec _ c hnone => ?_) hdistinct hvacant
      exact ends_upsert_vacant (key_rendering hkey spec) hnone
    unfold reconcile Access.reconcile Access.reconcileRules
    simp only [ends_bind, ends_liftM, hspec]
    simp only [List.forM, ends_bind, ends_pure] at hmade
    exact hmade.mono (fun _ _ h => h.reconciled fun _ => id) fun _ _ h => h
  | trivy =>
    obtain ⟨spec, hspec, -⟩ := bind_eq_ok_iff.1 hvalid
    exact Scans.ends_reconcile_vacant hkey hspec hc hdistinct hvacant
  | litmus =>
    obtain ⟨spec, hspec, -⟩ := bind_eq_ok_iff.1 hvalid
    have hentries : entries .litmus p = spec.experiments := by
      rw [entries, Experiments.section_of_specOf hspec]
      rfl
    have hmade : Ends (spec.experiments.forM (Experiments.ensureEngine p)) c
        (fun _ => Made (k := .chaosEngine) (entries .litmus p) (rendering .litmus p) (place .litmus p) c)
        fun _ _ => True := by
      rw [← hentries]
      refine ends_make (fun e _ c hnone => ?_) hdistinct hvacant
      exact ends_upsert_vacant (key_rendering hkey e) hnone
    unfold reconcile Access.reconcile Access.reconcileExperiments
    simp only [ends_bind, ends_liftM, hspec]
    exact hmade.mono (fun _ _ h => h.reconciled fun _ => id) fun _ _ h => h

end Engine

end PolicyOperator
