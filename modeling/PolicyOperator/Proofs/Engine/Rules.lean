import PolicyOperator.Proofs.Engine.Rendered

/-!
# The rule engine

A reconciliation leaves the policy's document in its config map (`ends_reconcile`), and writes
nothing else that is not an artifact of the policy (`keeps_reworked_reconcile`). A cleanup takes
that config map away (`ends_cleanup`).
-/

namespace PolicyOperator.Engine.Rules

open Cluster

variable {p p' : Policy} {pk key : Key} {spec : FalcoSpec} {c : Cluster}

/-- The config map of the policy holds the document of the current spec. -/
def InLine (p : Policy) (c : Cluster) : Prop :=
  ∃ spec o data, specOf p = .ok spec ∧
    (c.store .configMap).objects.get? ⟨p.metadata.nsOrEmpty, Naming.ruleDocument p.displayName⟩ =
      some o ∧
    o.spec = some data ∧
    data.get? Naming.rulesKey = some (spec.document p.displayName p.spec.target)

theorem section_of_specOf (h : specOf p = .ok spec) : p.spec.falco = some spec := by
  obtain ⟨part, hpart, h⟩ := bind_eq_ok_iff.1 h
  cases part with
  | falco part => cases h; exact PolicySpec.falco_of_typed hpart
  | trivy part | litmus part => exact absurd h throw_ne_ok

theorem InLine.congr (h : InLine p c) (hspec : p'.spec = p.spec) (hkey : p.key = .ok pk)
    (hkey' : p'.key = .ok pk) : InLine p' c := by
  have hsection : specOf p' = specOf p := by unfold specOf; rw [hspec]
  unfold InLine at *
  rwa [hsection, hspec, Object.displayName_of_key hkey', Object.nsOrEmpty_of_key hkey',
    ← Object.displayName_of_key hkey, ← Object.nsOrEmpty_of_key hkey]

theorem key_configMap (hkey : p.key = .ok pk) :
    (configMap p spec).key = .ok ⟨pk.ns, Naming.ruleDocument pk.name⟩ := by
  rw [Object.key_eq_ok_iff]
  exact ⟨by rw [← Object.displayName_of_key hkey]; rfl, (Object.key_eq_ok_iff.1 hkey).2⟩

theorem tagged_configMap (hkey : p.key = .ok pk) :
    Labels.Tagged (configMap p spec).metadata.labels pk :=
  Labels.tagged_labels hkey (by simp)

theorem metadata_addData (desired next : ConfigMap) :
    (addData desired next).metadata = next.metadata := rfl

theorem keeps_reworked_reconcile (hkey : p.key = .ok pk) :
    Keeps (Reworked .falco pk) (reconcile p) :=
  (Keeps.liftM _).bind fun _ =>
    (keeps_reworked_upsert .falco (key_configMap hkey) (metadata_addData _) rfl
      (tagged_configMap hkey) rfl).discard

/-- The data of a config map that was rendered. -/
theorem get?_rulesKey (document : String) :
    (SortedMap.ofList [(Naming.rulesKey, document)]).get? Naming.rulesKey = some document := by
  show (SortedMap.empty.insert _ _).get? _ = _
  rw [SortedMap.get?_insert, if_pos rfl]

/-- A reconciliation of a policy with rules only fails when writes are made to fail. -/
theorem ends_reconcile (hkey : p.key = .ok pk) (hspec : specOf p = .ok spec)
    (hplain : (c.store .configMap).All Object.Plain) :
    Ends (reconcile p) c (fun _ => InLine p)
      fun _ c' => (c.store .configMap).failing = true ∧ c' = c := by
  unfold reconcile Access.reconcileRules
  simp only [ends_bind, ends_liftM, hspec, ends_discard]
  refine (Artifact.ends_upsert_plain (key_configMap hkey) (metadata_addData _) rfl hplain).mono
    (fun _ c' h => ?_) fun _ _ h => h
  obtain ⟨o, hfiled, ho⟩ := h
  have hget := hfiled.self
  rw [← Object.displayName_of_key hkey, ← Object.nsOrEmpty_of_key hkey] at hget
  have hown := get?_rulesKey (spec.document p.displayName p.spec.target)
  have hdata : ∃ data, o.spec = some data ∧
      data.get? Naming.rulesKey = some (spec.document p.displayName p.spec.target) := by
    obtain hs | ⟨x, hs | hs⟩ := ho.spec
    · exact ⟨_, hs, hown⟩
    all_goals
      refine ⟨_, hs, ?_⟩
      rw [SortedMap.get?_overlay]
      exact (congrArg (Option.or · _) hown).trans (Option.some_or ..)
  obtain ⟨data, hs, hdoc⟩ := hdata
  exact ⟨spec, o, data, hspec, hget, hs, hdoc⟩

/-- Where a cleanup deletes. -/
def swept (p : Policy) (key : Key) : Prop :=
  key = ⟨p.metadata.nsOrEmpty, Naming.ruleDocument p.displayName⟩

theorem ends_cleanup (p : Policy) (c : Cluster) :
    Ends (cleanup p) c (fun _ => Cleaned .falco (swept p) c)
      fun _ => CleanupStopped .falco (swept p) c :=
  ends_cleanup_reports (ClusterM.Clears.delete c _ _).discard

theorem swept_of_placed (hkey : p.key = .ok pk) (h : Placed .falco pk key) : swept p key := by
  rw [swept, Object.displayName_of_key hkey, Object.nsOrEmpty_of_key hkey]
  exact h

end PolicyOperator.Engine.Rules
