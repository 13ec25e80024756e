import PolicyOperator.Proofs.Engine.Outcome

/-!
# Experiments that were retired

A reconciliation of experiments brings their engines up to date and takes none away, so the engine of
an experiment that left the spec stays, and runs on.

`Tended pk c`: only reconciliations of the policy with the key `pk` wrote chaos engines, each under
the spec of its time, and some may have failed halfway. What is stored then is what experiments are
rendered to (`Tended.stocked`), whichever version of the policy declared them. After one more
reconciliation that succeeds, the active engines are those that are declared exactly if every engine
that was there has the place of an experiment of the current spec, and experiments with a common place
ask for the same (`inStep_iff`).
-/

namespace PolicyOperator.Engine.Experiments

open Cluster Artifact

variable {p q : Policy} {pk key : Key} {spec spec' : LitmusSpec} {e : Experiment} {c c' : Cluster}

/-! ## One policy under several specs -/

theorem type_of_specOf (h : specOf p = .ok spec) : p.spec.type = ToolKind.litmus.name := by
  obtain ⟨part, hpart, h⟩ := bind_eq_ok_iff.1 h
  cases part with
  | litmus part => exact PolicySpec.type_of_typed hpart
  | falco part | trivy part => exact absurd h throw_ne_ok

theorem place_congr (hp : p.key = .ok pk) (hq : q.key = .ok pk) : place q = place p := by
  funext e
  rw [place, place, Object.nsOrEmpty_of_key hq, Object.displayName_of_key hq,
    Object.nsOrEmpty_of_key hp, Object.displayName_of_key hp]

/-- An experiment is rendered alike for all versions of a policy. -/
theorem chaosEngine_congr (hp : p.key = .ok pk) (hq : q.key = .ok pk) (hspec : specOf p = .ok spec)
    (hspec' : specOf q = .ok spec') : chaosEngine q = chaosEngine p := by
  obtain ⟨hpname, hpns⟩ := Object.key_eq_ok_iff.1 hp
  obtain ⟨hqname, hqns⟩ := Object.key_eq_ok_iff.1 hq
  have hlabels : Labels.ofPolicy q = Labels.ofPolicy p := by
    simp only [Labels.ofPolicy, hpname, hpns, hqname, hqns, type_of_specOf hspec,
      type_of_specOf hspec']
  funext e
  rw [chaosEngine, chaosEngine, Artifact.labels, Artifact.labels, hlabels,
    Object.nsOrEmpty_of_key hq, Object.displayName_of_key hq, Object.nsOrEmpty_of_key hp,
    Object.displayName_of_key hp]

/-! ## What reconciliations leave -/

/-- Every engine is what some experiment is rendered to. -/
def Stocked (p : Policy) (c : Cluster) : Prop :=
  (c.store .chaosEngine).All fun key o => ∃ e, key = place p e ∧ o.essence = (chaosEngine p e).essence

/-- An engine with another spec is brought up to date. -/
theorem brought_respecified (p : Policy) (e : Experiment) (s : ChaosEngineSpec) :
    brought (chaosEngine p e) (update p e) (some { (chaosEngine p e).essence with spec := s }) =
      (chaosEngine p e).essence := by
  rw [brought, merged_respecified]
  split
  · next hsame => exact hsame.symm
  · rfl

/-- In a stock of engines, an experiment gets what it is rendered to, whatever was at its place. -/
theorem Stocked.brought (h : Stocked p c) (e : Experiment) :
    Artifact.brought (chaosEngine p e) (update p e) (c.essence? .chaosEngine (place p e)) =
      (chaosEngine p e).essence := by
  unfold essence?
  cases hget : (c.store .chaosEngine).objects.get? (place p e) with
  | none => rfl
  | some o =>
    obtain ⟨e', hplace, hessence⟩ := h _ o hget
    rw [Option.map_some, hessence, chaosEngine_of_place hplace.symm]
    exact brought_respecified p e e'.engineSpec

theorem Stocked.ends_ensureEngine (h : Stocked p c)
    (hc : (c.store .chaosEngine).All Object.Registered) (e : Experiment) :
    Ends (ensureEngine p e) c
      (fun _ c' => ∃ o, Filed (place p e) (some o) c c' ∧ o.essence = (chaosEngine p e).essence)
      fun _ c' => c' = c := by
  refine ends_discard.2 ((ends_upsert_essence (brings_chaosEngine p e) rfl hc).mono
    (fun _ c' hdone => ?_) fun _ _ hfailed => hfailed.2)
  obtain ⟨-, o, hfiled, hessence⟩ := hdone
  exact ⟨o, hfiled, hessence.trans (h.brought e)⟩

theorem Stocked.filed (h : Stocked p c) {o : ChaosEngine} (hfiled : Filed (place p e) (some o) c c')
    (ho : o.essence = (chaosEngine p e).essence) : Stocked p c' :=
  hfiled.all h fun o' ho' => by
    cases ho'
    exact ⟨e, rfl, ho⟩

/-- Among engines of the policy, a reconciliation leaves at each place what an experiment with that
place is rendered to, and does nothing else. -/
theorem Stocked.ends_reconcile (h : Stocked p c)
    (hc : (c.store .chaosEngine).All Object.Registered) :
    Ends (reconcile p) c
      (fun _ c' => Stocked p c' ∧
        (∀ key, (∀ e ∈ entries .litmus p, key ≠ place p e) →
          (c'.store .chaosEngine).objects.get? key = (c.store .chaosEngine).objects.get? key) ∧
        ∀ e ∈ entries .litmus p, ∃ b ∈ entries .litmus p, place p b = place p e ∧
          ∃ o, (c'.store .chaosEngine).objects.get? (place p e) = some o ∧
            o.essence = (chaosEngine p b).essence)
      fun _ => Stocked p := by
  cases hspec : specOf p with
  | error e =>
    rw [reconcile, Access.reconcileExperiments, hspec]
    exact h
  | ok spec =>
    rw [entries_of_specOf hspec]
    unfold reconcile Access.reconcileExperiments
    simp only [ends_bind, ends_liftM, hspec]
    refine (ends_forM
      (I := fun s => Stocked p s ∧ (s.store .chaosEngine).All Object.Registered ∧
        ∀ key, (∀ e ∈ spec.experiments, key ≠ place p e) →
          (s.store .chaosEngine).objects.get? key = (c.store .chaosEngine).objects.get? key)
      (Q := fun e s => ∃ b ∈ spec.experiments, place p b = place p e ∧
        ∃ o, (s.store .chaosEngine).objects.get? (place p e) = some o ∧
          o.essence = (chaosEngine p b).essence)
      (F := fun _ => Stocked p)
      (fun e he s hs => ?_) ⟨h, hc, fun _ _ => rfl⟩).mono
      (fun _ _ hdone => ⟨hdone.1.1, hdone.1.2.2, hdone.2⟩) fun _ _ hfailed => hfailed
    obtain ⟨hstocked, hregistered, hothers⟩ := hs
    have hlater : Keeps Later (ensureEngine p e) := (later_upsert _ _).discard
    refine (hlater.ends (hstocked.ends_ensureEngine hregistered e)).mono (fun _ s' hdone => ?_)
      fun _ s' hfailed => hfailed.1 ▸ hstocked
    obtain ⟨⟨o, hfiled, ho⟩, hlater⟩ := hdone
    refine ⟨⟨hstocked.filed hfiled ho, (hlater .chaosEngine).registered hregistered,
      fun key hkey => (hfiled.other (hkey e he)).trans (hothers key hkey)⟩,
      ⟨e, he, rfl, o, hfiled.self, ho⟩, fun b hb hprevious => ?_⟩
    by_cases hplace : place p b = place p e
    · exact ⟨e, he, hplace.symm, o, by rw [hplace, hfiled.self], ho⟩
    · obtain ⟨b', hb', hplace', o', hget, ho'⟩ := hprevious
      exact ⟨b', hb', hplace', o', by rw [hfiled.other hplace, hget], ho'⟩

/-! ## Clusters that one policy tends -/

/-- Nothing but reconciliations of the policy with a key, under whatever specs it had, wrote chaos
engines. They need not have succeeded. -/
inductive Tended (pk : Key) : Cluster → Prop
  | fresh {c : Cluster} : (c.store .chaosEngine).objects = ∅ → Tended pk c
  | reconcile {p : Policy} {c : Cluster} : p.key = .ok pk → Tended pk c →
      Tended pk (reconcile p c).2
  | elsewhere {c c' : Cluster} : Tended pk c →
      (c'.store .chaosEngine).objects = (c.store .chaosEngine).objects → Tended pk c'

theorem Tended.registered (h : Tended pk c) : (c.store .chaosEngine).All Object.Registered := by
  induction h with
  | fresh hempty =>
    intro key o ho
    rw [hempty] at ho
    cases ho
  | @reconcile p c _ _ ih => exact ((later_reconcile p .litmus).state c .chaosEngine).registered ih
  | elsewhere _ hsame ih => exact fun key o ho => ih key o (hsame ▸ ho)

theorem Tended.stocked (h : Tended pk c) (hp : p.key = .ok pk) (hspec : specOf p = .ok spec) :
    Stocked p c := by
  induction h with
  | fresh hempty =>
    intro key o ho
    rw [hempty] at ho
    cases ho
  | @reconcile q c hq htended ih =>
    cases hspec' : specOf q with
    | error e =>
      rw [Experiments.reconcile, Access.reconcileExperiments, hspec']
      exact ih
    | ok spec' =>
      have hplace := place_congr hp hq
      have hengine := chaosEngine_congr hp hq hspec hspec'
      have hq : Stocked q c := by
        unfold Stocked
        rwa [hplace, hengine]
      have hend : Stocked q (Experiments.reconcile q c).2 :=
        ((hq.ends_reconcile htended.registered).mono (fun _ _ h => h.1) fun _ _ h => h).state
      unfold Stocked at hend
      rwa [hplace, hengine] at hend
  | elsewhere _ hsame ih => exact fun key o ho => ih key o (hsame ▸ ho)

/-! ## The theorem -/

/-- The active engines that carry the policy's tags are, in all namespaces, what its experiments are
rendered to. -/
def InStep (p : Policy) (pk : Key) (c : Cluster) : Prop :=
  ∀ key x, (∃ o, (c.store .chaosEngine).objects.get? key = some o ∧
      Labels.Tagged o.metadata.labels pk ∧ o.metadata.isDeleting = false ∧ o.essence = x) ↔
    ∃ e ∈ entries .litmus p, key = place p e ∧ (chaosEngine p e).essence = x

theorem active_of_essence (hkey : p.key = .ok pk) {o : ChaosEngine}
    (h : o.essence = (chaosEngine p e).essence) :
    Labels.Tagged o.metadata.labels pk ∧ o.metadata.isDeleting = false := by
  have hlabels : o.essence.metadata.labels = (chaosEngine p e).essence.metadata.labels := by rw [h]
  have htagged : Labels.Tagged (chaosEngine p e).essence.metadata.labels pk :=
    tagged_chaosEngine hkey e
  refine ⟨hlabels ▸ htagged, ?_⟩
  rw [← Object.isDeleting_essence, h]
  rfl

/-- The policy, under whatever specs it had, is all that chaos engines were written for, and now it is
reconciled without an error. Its active engines are those of its current experiments exactly if every
engine that was there has the place of one of them, and experiments with a common place ask for the
same. -/
theorem inStep_iff (hkey : p.key = .ok pk) (hc : Tended pk c)
    (hrun : reconcile p c = (.ok (), c')) :
    InStep p pk c' ↔
      (∀ key o, (c.store .chaosEngine).objects.get? key = some o →
        ∃ e ∈ entries .litmus p, key = place p e) ∧ Unambiguous p := by
  obtain ⟨spec, hspec⟩ := specOf_of_run hrun
  have hstocked := hc.stocked hkey hspec
  obtain ⟨-, hothers, hdeclared⟩ := (hstocked.ends_reconcile hc.registered).ok hrun
  constructor
  · intro hstep
    refine ⟨fun key o hget => ?_, fun e he e' he' hplace => ?_⟩
    · by_contra hnone
      have hkept := hothers key fun e he hplace => hnone ⟨e, he, hplace⟩
      obtain ⟨b, -, hb⟩ := hstocked key o hget
      obtain ⟨htagged, hactive⟩ := active_of_essence hkey hb
      obtain ⟨e, he, hplace, -⟩ :=
        (hstep key o.essence).1 ⟨o, hkept.trans hget, htagged, hactive, rfl⟩
      exact hnone ⟨e, he, hplace⟩
    · obtain ⟨o, hget, -, -, ho⟩ := (hstep _ _).2 ⟨e, he, rfl, rfl⟩
      obtain ⟨o', hget', -, -, ho'⟩ := (hstep _ _).2 ⟨e', he', rfl, rfl⟩
      obtain rfl : o = o' := by simpa [hplace, hget'] using hget.symm
      exact congrArg Object.spec (ho.symm.trans ho')
  · rintro ⟨hcovered, hunambiguous⟩ key x
    -- experiments with a common place are rendered alike
    have alike : ∀ e ∈ entries .litmus p, ∀ b ∈ entries .litmus p, place p b = place p e →
        chaosEngine p b = chaosEngine p e := fun e he b hb hplace => by
      rw [chaosEngine_of_place hplace, hunambiguous b hb e he hplace]
      rfl
    constructor
    · rintro ⟨o, hget, -, -, rfl⟩
      have hplace : ∃ e ∈ entries .litmus p, key = place p e := by
        by_contra hnone
        rw [hothers key fun e he hplace => hnone ⟨e, he, hplace⟩] at hget
        exact hnone (hcovered key o hget)
      obtain ⟨e, he, rfl⟩ := hplace
      obtain ⟨b, hb, hbe, o', hget', ho'⟩ := hdeclared e he
      obtain rfl : o = o' := by simpa [hget'] using hget.symm
      exact ⟨e, he, rfl, by rw [ho', alike e he b hb hbe]⟩
    · rintro ⟨e, he, rfl, rfl⟩
      obtain ⟨b, hb, hbe, o, hget, ho⟩ := hdeclared e he
      rw [alike e he b hb hbe] at ho
      obtain ⟨htagged, hactive⟩ := active_of_essence hkey ho
      exact ⟨o, hget, htagged, hactive, ho⟩

namespace Sample

def drain : Experiment := { kill "node-drain" "prod" with name := "drain" }

def earlier : Policy := policy [kill "pod-delete" "prod"]

/-- The experiment asks for something else, and there is one more. -/
def extended : Policy := policy [kill "container-kill" "prod", drain]

/-- Another experiment takes the place of the first. -/
def replacing : Policy := policy [drain]

def chaosKey : Key := ⟨"shop", "chaos"⟩

theorem tended_earlier : Tended chaosKey (after earlier {}) := .reconcile rfl (.fresh rfl)

end Sample

open Sample

theorem inStep_sample : InStep extended chaosKey (after extended (after earlier {})) := by
  refine (inStep_iff rfl tended_earlier rfl).2 ⟨fun key o ho => ?_, by decide⟩
  have hplaces : ∀ entry ∈ (after earlier {}).chaosEngines.objects.entries,
      entry.1 = place extended (kill "container-kill" "prod") := by decide
  exact ⟨_, List.mem_cons_self, hplaces (key, o) ((SortedMap.mem_entries_iff ..).2 ho)⟩

/-- The engine of the experiment that was replaced is still active, at a place that the policy
declares no longer. -/
theorem replaced_engine_stays :
    Tended chaosKey (after earlier {}) ∧ validate replacing = .ok () ∧
      reconcile replacing (after earlier {}) =
        (.ok (), after replacing (after earlier {})) ∧
      (engine? replacing (kill "pod-delete" "prod") (after replacing (after earlier {}))).map
          (·.spec.engineState) = some .active ∧
      ¬ InStep replacing chaosKey (after replacing (after earlier {})) := by
  refine ⟨tended_earlier, rfl, rfl, by decide, fun hstep => ?_⟩
  obtain ⟨o, hget, htagged, hactive⟩ : ∃ o,
      engine? replacing (kill "pod-delete" "prod") (after replacing (after earlier {})) = some o ∧
        Labels.Tagged o.metadata.labels chaosKey ∧ o.metadata.isDeleting = false :=
    ⟨_, rfl, by decide, by decide⟩
  obtain ⟨e, he, hplace, -⟩ := (hstep _ o.essence).1 ⟨o, hget, htagged, hactive, rfl⟩
  obtain rfl : e = drain := List.mem_singleton.1 he
  exact absurd hplace (by decide)

end PolicyOperator.Engine.Experiments
