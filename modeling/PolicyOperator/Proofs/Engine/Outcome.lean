import PolicyOperator.Proofs.Artifact.Essence
import PolicyOperator.Proofs.Engine.Idempotence

/-!
# What a reconciliation makes of what it finds

A reconciliation that succeeds treats every key by itself, and what is there afterwards is a function
of what was there, up to the marks that a store sets (`Engine.outcome`, `ends_reconcile_outcome`).

* The loop over scans gives a free place to the first scan that has it (`Scans.filled`); the deletions
  act on the jobs that no scan has (`Scans.pruned`).
* The loop over experiments brings the engine at a place up to date for one experiment after the
  other, so the last one counts (`Experiments.upserted`).

Going through the same items twice is no more than going through them once (`Scans.filled_filled`,
`Scans.pruned_pruned`, `Experiments.upserted_upserted`).
-/

namespace PolicyOperator.Engine

open Cluster Artifact

variable {p : Policy} {key : Key} {c c' : Cluster}

/-! ## Rules -/

namespace Rules

variable {spec : FalcoSpec}

/-- What an upsert of the rule document makes of what is under a key. -/
def upserted (p : Policy) (spec : FalcoSpec) (key : Key) (x : Option ConfigMap) : Option ConfigMap :=
  if (configMap p spec).site = key then
    some (brought (configMap p spec) (addData (configMap p spec)) x)
  else x

theorem entries_of_specOf (h : specOf p = .ok spec) : entries .falco p = [spec] := by
  rw [entries, section_of_specOf h]
  rfl

theorem ends_upsert_rules (p : Policy) (spec : FalcoSpec)
    (hc : (c.store .configMap).All Object.Registered) :
    Ends (upsert (configMap p spec) (addData (configMap p spec))) c
      (fun _ c' => (configMap p spec).Placeable c ∧ Confined [.configMap] c c' ∧
        ∀ key, c'.essence? .configMap key = upserted p spec key (c.essence? .configMap key))
      fun _ _ => (c.store .configMap).failing = true ∨ ¬ (configMap p spec).Placeable c := by
  refine (ends_upsert_essence (brings_configMap p spec) rfl hc).mono (fun _ c' h => ?_)
    fun _ _ h => h.1
  obtain ⟨hplaceable, o, hfiled, ho⟩ := h
  refine ⟨hplaceable, hfiled.confined, fun key => ?_⟩
  rw [hfiled.essence?, upserted]
  by_cases hsite : (configMap p spec).site = key
  · rw [if_pos hsite.symm, if_pos hsite, Option.map_some, ho, hsite]
  · rw [if_neg (Ne.symm hsite), if_neg hsite]

end Rules

/-! ## Scans -/

namespace Scans

variable {scan : Scan} {scans l₁ l₂ : List Scan} {x : Option Job} {names : List String}
  {spec : TrivySpec}

/-- What the loop over some scans makes of what is under a key. -/
def filled (p : Policy) (scans : List Scan) (key : Key) (x : Option Job) : Option Job :=
  x.or ((scans.find? fun scan => (job p scan).site = key).map fun scan => (job p scan).essence)

theorem filled_append :
    filled p (l₁ ++ l₂) key x = filled p l₂ key (filled p l₁ key x) := by
  simp only [filled, List.find?_append, Option.map_or, Option.or_assoc]

theorem filled_filled : filled p scans key (filled p scans key x) = filled p scans key x := by
  simp only [filled, Option.or_assoc, Option.or_self]

theorem isSome_filled_iff :
    (filled p scans key x).isSome ↔ x.isSome ∨ ∃ scan ∈ scans, (job p scan).site = key := by
  simp [filled]

theorem filled_of_ne (h : ∀ scan ∈ scans, (job p scan).site ≠ key) : filled p scans key x = x := by
  have hnone : (scans.find? fun scan => (job p scan).site = key) = none :=
    List.find?_eq_none.2 fun scan hscan => by simpa using h scan hscan
  rw [filled, hnone, Option.map_none, Option.or_none]

/-- A job can be created in the namespace of the policy; without one, there has to be a job. -/
theorem placeable_job_iff :
    (job p scan).Placeable c ↔
      p.metadata.ns.isSome ∨ (c.essence? .job (job p scan).site).isSome := by
  have hkeyed : (∃ key, (job p scan).key = .ok key) ↔ p.metadata.ns.isSome := by
    constructor
    · rintro ⟨key, hkey⟩
      have hns : p.metadata.ns = some key.ns := (Object.key_eq_ok_iff.1 hkey).2
      rw [hns]
      rfl
    · intro hns
      obtain ⟨ns, hns⟩ := Option.isSome_iff_exists.1 hns
      exact ⟨⟨ns, TrivySpec.jobName p scan⟩, Object.key_eq_ok_iff.2 ⟨rfl, hns⟩⟩
  rw [Object.Placeable, hkeyed, essence?, Option.isSome_map]

theorem ends_ensureJob_essence (p : Policy) (scan : Scan) (c : Cluster) :
    Ends (ensureJob p scan) c
      (fun _ c' => (job p scan).Placeable c ∧ Confined [.job] c c' ∧
        ∀ key, c'.essence? .job key = filled p [scan] key (c.essence? .job key))
      fun _ _ => (c.store .job).failing = true ∨ ¬ (job p scan).Placeable c := by
  have hsite : (⟨p.metadata.nsOrEmpty, TrivySpec.jobName p scan⟩ : Key) = (job p scan).site := rfl
  unfold ensureJob Access.ensureJob
  rw [ends_bind, ClusterM.ends_get?, hsite]
  cases hget : (c.store .job).objects.get? (job p scan).site with
  | some j =>
    refine ⟨.inr (by rw [hget]; rfl), .rfl, fun key => ?_⟩
    by_cases hsite : (job p scan).site = key
    · rw [essence?, ← hsite, hget]
      rfl
    · exact (filled_of_ne (by simpa using hsite)).symm
  | none =>
    cases hkey : (job p scan).key with
    | error e =>
      refine ends_discard.2 (ClusterM.ends_ofStore.2 ⟨fun o s h => ?_, fun _ _ => .inr ?_⟩)
      · obtain ⟨-, key, hkey', -⟩ := Store.create_eq_ok_iff.1 h
        rw [hkey] at hkey'
        cases hkey'
      · rintro (⟨key, hkey'⟩ | hsome)
        · rw [hkey] at hkey'
          cases hkey'
        · rw [hget] at hsome
          cases hsome
    | ok key =>
      obtain rfl := Object.site_of_key hkey
      refine ends_discard.2 ((ClusterM.ends_create hkey hget).mono (fun o c' h => ?_)
        fun _ _ h => .inl h.1)
      obtain ⟨⟨v, rfl⟩, hfiled⟩ := h
      refine ⟨.inl ⟨_, hkey⟩, hfiled.confined, fun key => ?_⟩
      rw [hfiled.essence?]
      split
      · next hsite =>
        rw [hsite, essence?, hget, filled, List.find?_cons_of_pos (by simp), Option.map_none,
          Option.none_or, Option.map_some, Option.map_some, Object.essence_created rfl]
      · next hne => exact (filled_of_ne (by simpa using Ne.symm hne)).symm

theorem ends_ensureJobs_essence (p : Policy) (scans : List Scan) (c : Cluster) :
    Ends (scans.forM (ensureJob p)) c
      (fun _ c' => (∀ scan ∈ scans, (job p scan).Placeable c) ∧ Confined [.job] c c' ∧
        ∀ key, c'.essence? .job key = filled p scans key (c.essence? .job key))
      fun _ _ => (c.store .job).failing = true ∨ ¬ ∀ scan ∈ scans, (job p scan).Placeable c := by
  induction scans generalizing c with
  | nil => exact ⟨nofun, .rfl, fun key => (filled_of_ne (by simp)).symm⟩
  | cons scan rest ih =>
    rw [List.forM, ends_bind]
    refine (ends_ensureJob_essence p scan c).mono (fun _ c₁ h₁ => ?_)
      fun _ _ h => h.imp id fun hnot hall => hnot (hall scan List.mem_cons_self)
    obtain ⟨hplaceable, hconfined, hfilled⟩ := h₁
    -- the first job only takes a place that was free for it
    have placeable_iff : ∀ b, (job p b).Placeable c₁ ↔ (job p b).Placeable c := fun b => by
      rw [placeable_job_iff, placeable_job_iff, hfilled, isSome_filled_iff]
      refine ⟨?_, fun h => h.imp id .inl⟩
      rintro (hns | hsome | ⟨_, hmem, hsite⟩)
      · exact .inl hns
      · exact .inr hsome
      · obtain rfl := List.mem_singleton.1 hmem
        exact hsite ▸ placeable_job_iff.1 hplaceable
    refine (ih c₁).mono (fun _ c₂ h₂ => ?_) fun _ _ h => h.imp (fun h => hconfined.failing _ ▸ h) ?_
    · refine ⟨fun b hb => ?_, IsTrans.trans _ _ _ hconfined h₂.2.1, fun key => ?_⟩
      · obtain rfl | hb := List.mem_cons.1 hb
        · exact hplaceable
        · exact (placeable_iff b).1 (h₂.1 b hb)
      · rw [h₂.2.2, hfilled, ← filled_append]
        rfl
    · exact fun hnot hall =>
        hnot fun b hb => (placeable_iff b).2 (hall b (List.mem_cons_of_mem _ hb))

/-- What the deletions make of what is under a key, when there are scans for some names. -/
def pruned (p : Policy) (names : List String) (key : Key) (x : Option Job) : Option Job :=
  x.bind fun j =>
    if key.ns = p.metadata.nsOrEmpty ∧
        (Labels.ofPolicyName p.displayName).accepts j.metadata.labels = true ∧ key.name ∉ names then
      j.withdrawn?
    else some j

theorem pruned_of_mem (h : key.name ∈ names) : pruned p names key x = x := by
  cases x with
  | none => rfl
  | some j => exact if_neg fun hstale => hstale.2.2 h

theorem pruned_pruned : pruned p names key (pruned p names key x) = pruned p names key x := by
  cases x with
  | none => rfl
  | some j =>
    by_cases hstale : key.ns = p.metadata.nsOrEmpty ∧
        (Labels.ofPolicyName p.displayName).accepts j.metadata.labels = true ∧ key.name ∉ names
    · have hpruned : pruned p names key (some j) = j.withdrawn? := if_pos hstale
      rw [hpruned]
      unfold Object.withdrawn?
      split
      · next hguarded => exact (if_pos hstale).trans (if_pos hguarded)
      · rfl
    · have hpruned : pruned p names key (some j) = some j := if_neg hstale
      rw [hpruned, hpruned]

/-- Deletions of outdated jobs only: what is under a key is as it was, or pruned. -/
theorem pruned_of_cleared {keys : Key → Prop}
    (h : Store.Cleared keys (c.store .job) (c'.store .job))
    (hkeys : ∀ key, keys key → Outdated p spec c key) (key : Key) :
    (keys key → c'.essence? .job key =
        pruned p (spec.expectedJobs p) key (c.essence? .job key)) ∧
      (¬ keys key → c'.essence? .job key = c.essence? .job key) := by
  refine ⟨fun hkey => ?_, fun hkey => ?_⟩
  · obtain ⟨j, hget, hstale⟩ := hkeys key hkey
    have hw := (h.swept key hkey).essence
    rw [hget, Option.map_some, Option.bind_some] at hw
    rw [essence?, essence?, hget, hw]
    exact (if_pos hstale).symm
  · rw [essence?, essence?, h.others key hkey]

theorem ends_stale_essence (hc : (c.store .job).Filed) :
    Ends ((stale p spec c).forM (deleteJob p)) c
      (fun _ c' => Confined [.job] c c' ∧ ∀ key, c'.essence? .job key =
        pruned p (spec.expectedJobs p) key (c.essence? .job key))
      fun _ _ => (c.store .job).failing = true := by
  refine Ends.mono (clears_stale hc) (fun _ c' h => ⟨h.2.1, fun key => ?_⟩) fun _ _ h => h.1
  by_cases hold : Outdated p spec c key
  · exact (pruned_of_cleared h.1 (fun _ hk => hk) key).1 hold
  · rw [(pruned_of_cleared h.1 (fun _ hk => hk) key).2 hold, essence?]
    cases hget : (c.store .job).objects.get? key with
    | none => rfl
    | some j => exact (if_neg fun hstale => hold ⟨j, hget, hstale⟩).symm

theorem entries_of_specOf (h : specOf p = .ok spec) : entries .trivy p = spec.scans := by
  rw [entries, section_of_specOf h]
  rfl

/-- What a reconciliation makes of what is under a key. -/
def outcome (p : Policy) (scans : List Scan) (key : Key) (x : Option Job) : Option Job :=
  pruned p (scans.map (TrivySpec.jobName p)) key (filled p scans key x)

/-- What some of the scans made is as good as what was there. -/
theorem outcome_filled (h : l₁ <+: scans) :
    outcome p scans key (filled p l₁ key x) = outcome p scans key x := by
  obtain ⟨l₂, rfl⟩ := h
  rw [outcome, outcome, filled_append, filled_append, filled_filled]

/-- What a reconciliation made is as good as what was there. -/
theorem outcome_outcome : outcome p scans key (outcome p scans key x) = outcome p scans key x := by
  by_cases hsite : ∃ scan ∈ scans, (job p scan).site = key
  · obtain ⟨scan, hscan, rfl⟩ := hsite
    have hname : (job p scan).site.name ∈ scans.map (TrivySpec.jobName p) :=
      List.mem_map_of_mem hscan
    rw [outcome, outcome, pruned_of_mem hname, pruned_of_mem hname, filled_filled]
  · have hne : ∀ scan ∈ scans, (job p scan).site ≠ key := fun scan hscan h => hsite ⟨scan, hscan, h⟩
    rw [outcome, outcome, filled_of_ne hne, filled_of_ne hne, pruned_pruned]

end Scans

/-! ## Experiments -/

namespace Experiments

variable {e b : Experiment} {l : List Experiment} {x : Option ChaosEngine} {o : ChaosEngine}

/-- What upserts for some experiments make of what is under a key. -/
def upserted (p : Policy) (l : List Experiment) (key : Key) (x : Option ChaosEngine) :
    Option ChaosEngine :=
  (l.filter fun e => place p e = key).foldl
    (fun x e => some (brought (chaosEngine p e) (update p e) x)) x

theorem upserted_cons_of_eq (h : place p e = key) :
    upserted p (e :: l) key x =
      upserted p l key (some (brought (chaosEngine p e) (update p e) x)) := by
  rw [upserted, List.filter_cons_of_pos (by simpa using h), List.foldl_cons]
  rfl

theorem upserted_cons_of_ne (h : place p e ≠ key) :
    upserted p (e :: l) key x = upserted p l key x := by
  rw [upserted, List.filter_cons_of_neg (by simpa using h)]
  rfl

theorem upserted_append {l₁ l₂ : List Experiment} :
    upserted p (l₁ ++ l₂) key x = upserted p l₂ key (upserted p l₁ key x) := by
  simp only [upserted, List.filter_append, List.foldl_append]

theorem ends_ensureEngines_essence (p : Policy) (l : List Experiment)
    (hc : (c.store .chaosEngine).All Object.Registered) :
    Ends (l.forM (ensureEngine p)) c
      (fun _ c' => Confined [.chaosEngine] c c' ∧ ∀ key, c'.essence? .chaosEngine key =
        upserted p l key (c.essence? .chaosEngine key))
      fun _ _ => (c.store .chaosEngine).failing = true := by
  induction l generalizing c with
  | nil => exact ⟨.rfl, fun _ => rfl⟩
  | cons e rest ih =>
    have hupsert := (later_upsert (chaosEngine p e) (update p e)).ends
      (ends_upsert_essence (brings_chaosEngine p e) rfl hc)
    rw [List.forM, ends_bind]
    refine ends_discard.2 (hupsert.mono (fun _ c₁ h₁ => ?_) fun _ _ h => h.1.1.elim id fun hnot =>
      absurd (.inl ⟨_, key_chaosEngine p e⟩) hnot)
    obtain ⟨⟨-, o, hfiled, ho⟩, hlater⟩ := h₁
    refine (ih ((hlater .chaosEngine).registered hc)).mono (fun _ c₂ h₂ => ?_)
      fun _ _ h => hfiled.confined.failing _ ▸ h
    refine ⟨IsTrans.trans _ _ _ hfiled.confined h₂.1, fun key => ?_⟩
    rw [h₂.2, hfiled.essence?]
    by_cases hplace : place p e = key
    · rw [upserted_cons_of_eq hplace, if_pos (show key = (chaosEngine p e).site from hplace.symm),
        Option.map_some, ho, ← hplace]
      rfl
    · rw [upserted_cons_of_ne hplace, if_neg (show key ≠ (chaosEngine p e).site from Ne.symm hplace)]

/-- An engine written for an experiment. -/
def remade (p : Policy) (e : Experiment) : Option ChaosEngine → ChaosEngine
  | none => (chaosEngine p e).essence
  | some o => (merged o (chaosEngine p e) (update p e)).wholeSeconds

/-- An upsert sets the labels and the spec of an engine. -/
theorem merged_chaosEngine (o : ChaosEngine) :
    merged o (chaosEngine p e) (update p e) =
      { o with
        metadata := { o.metadata with
          labels := some ((o.metadata.labels.getD ∅).overlay
            (Artifact.labels p [(Labels.experimentName, e.name)])) }
        spec := e.engineSpec } := rfl

/-- The upsert for an experiment brings its engine back from any other spec. -/
theorem merged_respecified (p : Policy) (e : Experiment) (s : ChaosEngineSpec) :
    merged { (chaosEngine p e).essence with spec := s } (chaosEngine p e) (update p e) =
      (chaosEngine p e).essence := by
  rw [merged_chaosEngine]
  simp [chaosEngine, Object.essence]

theorem wholeSeconds_remade : (remade p e x).wholeSeconds = remade p e x := by
  cases x with
  | none => rfl
  | some o => exact Object.wholeSeconds_wholeSeconds _

/-- What an engine was written for before does not matter. -/
theorem remade_remade (h : place p b = place p e) :
    remade p e (some (remade p b x)) = remade p e x := by
  cases x with
  | none =>
    have hb : (chaosEngine p b).essence =
        { (chaosEngine p e).essence with spec := b.engineSpec } := by
      rw [chaosEngine_of_place h]
      rfl
    rw [remade, remade, remade, hb, merged_respecified]
    rfl
  | some o =>
    have hmerged : merged (merged o (chaosEngine p b) (update p b)).wholeSeconds (chaosEngine p e)
        (update p e) = (merged o (chaosEngine p e) (update p e)).wholeSeconds := by
      rw [merged_chaosEngine, merged_chaosEngine, merged_chaosEngine, name_of_place h]
      simp [Object.wholeSeconds, Metadata.wholeSeconds, ResourceKind.specWholeSeconds]
    rw [remade, remade, remade, hmerged, Object.wholeSeconds_wholeSeconds]

theorem brought_remade (h : place p b = place p e) :
    brought (chaosEngine p e) (update p e) (some (remade p b x)) = remade p e x := by
  have hremade := remade_remade (x := x) h
  rw [brought]
  split
  · next hsame => rw [← hremade, remade, hsame, wholeSeconds_remade]
  · exact hremade

theorem brought_eq (e : Experiment) (x : Option ChaosEngine) :
    x = some (brought (chaosEngine p e) (update p e) x) ∨
      brought (chaosEngine p e) (update p e) x = remade p e x := by
  cases x with
  | none => exact .inr rfl
  | some o =>
    rw [brought]
    split
    · exact .inl rfl
    · exact .inr rfl

/-- After an engine was written at a place, the last experiment with that place counts. -/
theorem foldl_remade (hl : ∀ e ∈ l, place p e = key) (hb : place p b = key) :
    l.foldl (fun x e => some (brought (chaosEngine p e) (update p e) x)) (some (remade p b x)) =
      some (remade p (l.getLastD b) x) := by
  induction l generalizing b with
  | nil => rfl
  | cons e l ih =>
    have he := hl e List.mem_cons_self
    rw [List.foldl_cons, brought_remade (hb.trans he.symm), List.getLastD_cons]
    exact ih (fun e' he' => hl e' (List.mem_cons_of_mem _ he')) he

/-- A loop over experiments with one place leaves what is there, or what the last of them writes. -/
theorem foldl_eq (hl : ∀ e ∈ l, place p e = key) :
    l.foldl (fun x e => some (brought (chaosEngine p e) (update p e) x)) x = x ∨
      ∃ e, l.getLast? = some e ∧
        l.foldl (fun x e => some (brought (chaosEngine p e) (update p e) x)) x =
          some (remade p e x) := by
  induction l generalizing x with
  | nil => exact .inl rfl
  | cons e l ih =>
    have hrest : ∀ e' ∈ l, place p e' = key := fun e' he' => hl e' (List.mem_cons_of_mem _ he')
    rw [List.foldl_cons]
    obtain hsame | hremade := brought_eq e x
    · rw [← hsame]
      refine (ih hrest).imp id fun ⟨b, hb, h⟩ => ⟨b, ?_, h⟩
      rw [List.getLast?_cons, hb]
      rfl
    · rw [hremade, foldl_remade hrest (hl e List.mem_cons_self)]
      refine .inr ⟨_, ?_, rfl⟩
      rw [List.getLast?_cons, List.getLastD_eq_getLast?]

/-- Going through the same experiments again changes nothing. -/
theorem upserted_upserted : upserted p l key (upserted p l key x) = upserted p l key x := by
  unfold upserted
  have hplaces : ∀ e ∈ l.filter fun e => place p e = key, place p e = key := fun e he => by
    simpa using (List.mem_filter.1 he).2
  obtain hsame | ⟨e, hlast, hremade⟩ := foldl_eq (x := x) hplaces
  · rw [hsame, hsame]
  · have he := hplaces e (List.mem_of_getLast? hlast)
    rw [hremade, foldl_remade hplaces he, List.getLastD_eq_getLast?, hlast]
    rfl

/-- What some of the experiments made is as good as what was there. -/
theorem upserted_of_prefix {l₁ : List Experiment} (h : l₁ <+: l) :
    upserted p l key (upserted p l₁ key x) = upserted p l key x := by
  obtain ⟨l₂, rfl⟩ := h
  rw [upserted_append, upserted_append, upserted_upserted]

end Experiments

/-! ## All engines -/

variable {kind : ToolKind}

/-- What a reconciliation makes of what is under a key, up to the marks that the store sets. -/
def outcome : (kind : ToolKind) → Policy → Key → Option (Object kind.artifact) →
    Option (Object kind.artifact)
  | .falco, p, key, x => (entries .falco p).foldl (fun x spec => Rules.upserted p spec key x) x
  | .trivy, p, key, x => Scans.outcome p (entries .trivy p) key x
  | .litmus, p, key, x => Experiments.upserted p (entries .litmus p) key x

/-- There is a place for the artifact of every entry. -/
def Placeable (kind : ToolKind) (p : Policy) (c : Cluster) : Prop :=
  ∀ e ∈ entries kind p, (rendering kind p e).Placeable c

/-- The policy has no section for the engine, which then does nothing. -/
def Malformed (kind : ToolKind) (p : Policy) : Prop :=
  ∃ e, ∀ c, reconcile kind p c = (.error e, c)

/-- A reconciliation that starts with an error, whatever it would go on with. -/
theorem ends_malformed {α : Type} {r : Except Error α} {f : α → ClusterM Unit} {e : Error}
    (h : r = .error e) (hrun : reconcile kind p = liftM r >>= f) {done : Unit → Cluster → Prop} :
    Ends (reconcile kind p) c done fun _ _ => Malformed kind p := by
  have hstop : ∀ c, reconcile kind p c = (.error e, c) := fun c => by
    rw [hrun, h]
    rfl
  unfold Ends
  rw [hstop c]
  exact ⟨e, hstop⟩

/-- A reconciliation only fails when the policy is malformed, when writes are made to fail, or when
there is no place for an artifact. -/
theorem ends_reconcile_outcome (hc : (c.store kind.artifact).All Object.Registered) :
    Ends (reconcile kind p) c
      (fun _ c' => Placeable kind p c ∧ Confined [kind.artifact] c c' ∧
        ∀ key, c'.essence? kind.artifact key = outcome kind p key (c.essence? kind.artifact key))
      fun _ _ => Malformed kind p ∨ (c.store kind.artifact).failing = true ∨
        ¬ Placeable kind p c := by
  cases kind with
  | falco =>
    cases hspec : Rules.specOf p with
    | error e => exact (ends_malformed hspec rfl).mono (fun _ _ h => h) fun _ _ h => .inl h
    | ok spec =>
      have hentries := Rules.entries_of_specOf hspec
      have hplaceable : Placeable .falco p c ↔ (Rules.configMap p spec).Placeable c := by
        unfold Placeable
        rw [hentries]
        exact List.forall_mem_singleton
      unfold reconcile Access.reconcile Access.reconcileRules outcome
      simp only [ends_bind, ends_liftM, hspec, ends_discard, hplaceable, hentries]
      exact (Rules.ends_upsert_rules p spec hc).mono (fun _ _ h => h) fun _ _ h => .inr h
  | trivy =>
    cases hspec : Scans.specOf p with
    | error e => exact (ends_malformed hspec rfl).mono (fun _ _ h => h) fun _ _ h => .inl h
    | ok spec =>
      have hkeeps : Keeps Later (spec.scans.forM (Scans.ensureJob p)) :=
        .forM fun _ _ => Scans.later_ensureJob p _
      unfold reconcile Access.reconcile Access.reconcileScans Placeable outcome
      simp only [ends_bind, ends_liftM, hspec, Access.ownJobs, ClusterM.ends_list,
        Scans.entries_of_specOf hspec]
      refine (hkeeps.ends (Scans.ends_ensureJobs_essence p spec.scans c)).mono (fun _ c₁ h₁ => ?_)
        fun _ _ h => .inr h.1
      obtain ⟨⟨hplaceable, hconfined, hfilled⟩, hlater⟩ := h₁
      have hfiled : (c₁.store .job).Filed :=
        ((hlater .job).registered hc).mono fun _ _ ho => ho.filed
      refine (Scans.ends_stale_essence hfiled).mono (fun _ c₂ h₂ => ?_)
        fun _ _ h => .inr (.inl (hconfined.failing _ ▸ h))
      refine ⟨hplaceable, IsTrans.trans _ _ _ hconfined h₂.1, fun key => ?_⟩
      exact (h₂.2 key).trans (congrArg (Scans.pruned p (spec.expectedJobs p) key) (hfilled key))
  | litmus =>
    cases hspec : Experiments.specOf p with
    | error e => exact (ends_malformed hspec rfl).mono (fun _ _ h => h) fun _ _ h => .inl h
    | ok spec =>
      unfold reconcile Access.reconcile Access.reconcileExperiments outcome
      simp only [ends_bind, ends_liftM, hspec, Experiments.entries_of_specOf hspec]
      exact (Experiments.ends_ensureEngines_essence p spec.experiments hc).mono
        (fun _ _ h => ⟨fun e _ => .inl ⟨_, Experiments.key_chaosEngine p e⟩, h⟩)
        fun _ _ h => .inr (.inl h)

end PolicyOperator.Engine
