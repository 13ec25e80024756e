import PolicyOperator.Proofs.Engine.Reconciled

/-!
# Reconciling experiments again

A policy may declare several experiments of one name for one namespace, which validation does not
refuse. Their engines share a place, and each upsert there undoes the one before. So a reconciliation
gives every experiment the engine that it asks for, and has nothing to do the next time, exactly if
the experiments that share a place ask for the same (`idempotent_iff`).
-/

namespace PolicyOperator.Engine.Experiments

open Cluster Artifact

variable {p : Policy} {spec : LitmusSpec} {e e' : Experiment} {c c' : Cluster}

theorem name_of_place (h : place p e = place p e') : e.name = e'.name := by
  have hname : Naming.chaosEngine p.displayName e.name =
      Naming.chaosEngine p.displayName e'.name := congrArg Key.name h
  unfold Naming.chaosEngine at hname
  exact (String.append_right_inj _).1 hname

/-- Engines with a common place differ in their specs alone. -/
theorem chaosEngine_of_place (h : place p e = place p e') :
    chaosEngine p e = { chaosEngine p e' with spec := e.engineSpec } := by
  have hns : e.engineNamespace p.metadata.nsOrEmpty = e'.engineNamespace p.metadata.nsOrEmpty :=
    congrArg Key.ns h
  rw [chaosEngine, chaosEngine, name_of_place h, hns]

/-- Experiments whose engines share a place ask for the same. -/
def Unambiguous (p : Policy) : Prop :=
  ∀ e ∈ entries .litmus p, ∀ e' ∈ entries .litmus p, place p e = place p e' →
    Experiment.engineSpec e = Experiment.engineSpec e'

instance : DecidablePred Unambiguous := fun p =>
  decidable_of_iff
    (∀ e ∈ (p.spec.litmus.map LitmusSpec.experiments).getD [],
      ∀ e' ∈ (p.spec.litmus.map LitmusSpec.experiments).getD [],
        place p e = place p e' → e.engineSpec = e'.engineSpec)
    Iff.rfl

theorem entries_of_specOf (h : specOf p = .ok spec) : entries .litmus p = spec.experiments := by
  rw [entries, section_of_specOf h]
  rfl

theorem specOf_of_run (h : reconcile p c = (.ok (), c')) : ∃ spec, specOf p = .ok spec := by
  cases hspec : specOf p with
  | ok spec => exact ⟨spec, rfl⟩
  | error e =>
    rw [reconcile, Access.reconcileExperiments, hspec] at h
    exact nomatch h

/-- What a reconciliation of unambiguous experiments leaves is settled. -/
theorem settled_reconcile (hspec : specOf p = .ok spec) (hp : Unambiguous p)
    (hc : (c.store .chaosEngine).Reached) :
    Ends (reconcile p) c (fun _ => Settled p) fun _ _ => (c.store .chaosEngine).failing = true := by
  unfold Unambiguous at hp
  rw [entries_of_specOf hspec] at hp
  unfold reconcile Access.reconcileExperiments
  simp only [ends_bind, ends_liftM, hspec]
  refine (ends_forM
    (I := fun s => (s.store .chaosEngine).Reached ∧
      (s.store .chaosEngine).failing = (c.store .chaosEngine).failing)
    (Q := fun e s => ∃ o, (s.store .chaosEngine).objects.get? (place p e) = some o ∧
      Current (chaosEngine p e) (update p e) o)
    (fun e he s hs => ?_) ⟨hc, rfl⟩).mono (fun _ _ h => ⟨spec, hspec, h.2⟩) fun _ _ h => h
  have hupsert := (later_upsert (chaosEngine p e) (update p e)).ends
    (ends_upsert_current (brings_chaosEngine p e) (key_chaosEngine p e) hs.1.registered)
  refine ends_discard.2 (hupsert.mono (fun _ s' h => ?_) fun _ _ h => hs.2 ▸ h.1.1)
  obtain ⟨⟨o, hfiled, hcurrent⟩, hlater⟩ := h
  refine ⟨⟨hs.1.later (hlater .chaosEngine), (hfiled.confined.failing _).trans hs.2⟩,
    ⟨o, hfiled.self, hcurrent⟩, fun b hb hprevious => ?_⟩
  by_cases hplace : place p b = place p e
  · have hsame : chaosEngine p b = chaosEngine p e := by
      rw [chaosEngine_of_place hplace, hp b hb e he hplace]
      rfl
    have hupdate : update p b = update p e := by
      funext o
      rw [update, update, hsame]
    exact ⟨o, by rw [hplace, hfiled.self], by rwa [hsame, hupdate]⟩
  · obtain ⟨o', hget, ho'⟩ := hprevious
    exact ⟨o', by rw [hfiled.other hplace, hget], ho'⟩

/-- A current engine has the spec that its experiment asks for. -/
theorem spec_of_current {o : ChaosEngine} (h : Current (chaosEngine p e) (update p e) o) :
    o.spec = e.engineSpec :=
  (congrArg Object.spec h).symm

/-- A policy was reconciled without an error. Every experiment has an engine of the spec that it asks
for, and reconciling again succeeds without a write, exactly if experiments that share a place ask
for the same. -/
theorem idempotent_iff (hc : (c.store .chaosEngine).Reached)
    (hrun : reconcile p c = (.ok (), c')) :
    ((∀ e ∈ entries .litmus p, ∃ o,
        (c'.store .chaosEngine).objects.get? (place p e) = some o ∧
          o.spec = Experiment.engineSpec e) ∧
      reconcile p c' = (.ok (), c')) ↔ Unambiguous p := by
  constructor
  · rintro ⟨hengines, -⟩ e he e' he' hplace
    obtain ⟨o, hget, hspec⟩ := hengines e he
    obtain ⟨o', hget', hspec'⟩ := hengines e' he'
    obtain rfl : o = o' := by simpa [hplace, hget'] using hget.symm
    exact hspec.symm.trans hspec'
  · intro hp
    obtain ⟨spec, hspec⟩ := specOf_of_run hrun
    have hsettled := (settled_reconcile hspec hp hc).ok hrun
    refine ⟨fun e he => ?_, ?_⟩
    · obtain ⟨spec', hspec', hcurrent⟩ := hsettled
      obtain ⟨o, hget, ho⟩ := hcurrent e (entries_of_specOf hspec' ▸ he)
      exact ⟨o, hget, spec_of_current ho⟩
    · obtain ⟨_, _, hagain, rfl⟩ := hsettled.unchanged_reconcile.exists_ok
      exact hagain

namespace Sample

/-- An experiment on the pods of an application. -/
def kill (ref target : String) : Experiment where
  name := "kill"
  experimentRef := ref
  targetNamespace := some target
  appInfo := { ns := "shop", label := "app=web", kind := "deployment" }

def policy (experiments : List Experiment) : Policy where
  metadata := { name := some "chaos", ns := some "shop" }
  spec := { type := "litmus", enabled := true, litmus := some { experiments := experiments } }

/-- One name in two namespaces, and one experiment that is declared twice. -/
def plain : Policy :=
  policy [kill "pod-delete" "prod", kill "pod-delete" "stage", kill "pod-delete" "prod"]

/-- One name and one namespace for two experiments. -/
def ambiguous : Policy := policy [kill "pod-delete" "prod", kill "node-drain" "prod"]

/-- The cluster after a policy was reconciled. -/
def after (p : Policy) (c : Cluster) : Cluster := (reconcile p c).2

/-- What is stored for an experiment. -/
def engine? (p : Policy) (e : Experiment) (c : Cluster) : Option ChaosEngine :=
  (c.store .chaosEngine).objects.get? (place p e)

end Sample

open Sample

theorem idempotent_sample :
    (∀ e ∈ entries .litmus plain, ∃ o,
        ((after plain {}).store .chaosEngine).objects.get? (place plain e) = some o ∧
          o.spec = Experiment.engineSpec e) ∧
      reconcile plain (after plain {}) = (.ok (), after plain {}) :=
  (idempotent_iff (reached_empty _) rfl).2 (by decide)

/-- The second experiment takes the engine of the first, and every reconciliation writes both. -/
theorem experiments_undo_each_other :
    validate ambiguous = .ok () ∧ reconcile ambiguous {} = (.ok (), after ambiguous {}) ∧
      (engine? ambiguous (kill "pod-delete" "prod") (after ambiguous {})).map (·.spec) =
        some (kill "node-drain" "prod").engineSpec ∧
      (kill "node-drain" "prod").engineSpec ≠ (kill "pod-delete" "prod").engineSpec ∧
      (reconcile ambiguous (after ambiguous {})).1 = .ok () ∧
      (after ambiguous (after ambiguous {})).chaosEngines.writes =
        (after ambiguous {}).chaosEngines.writes + 2 :=
  ⟨rfl, rfl, by decide, by decide, rfl, rfl⟩

end PolicyOperator.Engine.Experiments
