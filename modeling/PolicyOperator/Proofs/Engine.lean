import PolicyOperator.Proofs.Engine.Experiments
import PolicyOperator.Proofs.Engine.Rules
import PolicyOperator.Proofs.Engine.Scans

/-!
# Reconciling and cleaning up

What the three engines have in common. Among plain artifacts, reconciling a valid policy brings its
artifacts in line with the spec unless writes are made to fail (`ends_reconcile`), and whatever
happens it makes nothing but artifacts of the policy (`keeps_reworked_reconcile`). A cleanup deletes
every artifact that is tagged with the policy's key (`ends_cleanup`, `swept_of_rendered`).
-/

namespace PolicyOperator.Engine

open Cluster

variable {kind : ToolKind} {p p' : Policy} {pk key : Key} {c c' : Cluster}

/-- The artifacts are as the spec of the policy says. -/
def InLine : ToolKind → Policy → Cluster → Prop
  | .falco => Rules.InLine
  | .trivy => Scans.InLine
  | .litmus => Experiments.InLine

theorem InLine.congr (h : InLine kind p c) (hspec : p'.spec = p.spec) (hkey : p.key = .ok pk)
    (hkey' : p'.key = .ok pk) (hgen : p'.metadata.generation = p.metadata.generation) :
    InLine kind p' c := by
  cases kind with
  | falco => exact Rules.InLine.congr h hspec hkey hkey'
  | trivy => exact Scans.InLine.congr h hspec hkey hkey' hgen
  | litmus => exact Experiments.InLine.congr h hspec hkey hkey'

/-- Being in line is about what is stored with the artifacts alone. -/
theorem InLine.of_objects (h : InLine kind p c)
    (hs : (c'.store kind.artifact).objects = (c.store kind.artifact).objects) :
    InLine kind p c' := by
  cases kind with
  | falco =>
    obtain ⟨spec, o, data, hspec, hget, hrest⟩ := h
    have hs' : (c'.store .configMap).objects = (c.store .configMap).objects := hs
    exact ⟨spec, o, data, hspec, by rw [hs', hget], hrest⟩
  | trivy => exact Scans.InLine.grown h fun key hkey => (congrArg (·.get? key) hs) ▸ hkey
  | litmus => exact Experiments.InLine.grown h fun key hkey => (congrArg (·.get? key) hs) ▸ hkey

/-! ## Reconciliation -/

theorem keeps_reworked_reconcile (kind : ToolKind) (hkey : p.key = .ok pk) :
    Keeps (Reworked kind pk) (reconcile kind p) := by
  cases kind with
  | falco => exact Rules.keeps_reworked_reconcile hkey
  | trivy => exact Scans.keeps_reworked_reconcile hkey
  | litmus => exact Experiments.keeps_reworked_reconcile hkey

/-- Reconciling a valid policy among plain artifacts. -/
theorem ends_reconcile (hkey : p.key = .ok pk) {u : Unit} (hvalid : validate kind p = .ok u)
    (hplain : (c.store kind.artifact).All Object.Plain) :
    Ends (reconcile kind p) c (fun _ => InLine kind p) fun _ c' =>
      (c.store kind.artifact).failing = true ∧ (InLine kind p c → InLine kind p c') := by
  cases kind with
  | falco =>
    obtain ⟨spec, hspec, -⟩ := bind_eq_ok_iff.1 hvalid
    exact (Rules.ends_reconcile hkey hspec hplain).mono (fun _ _ h => h)
      fun _ _ h => ⟨h.1, fun hin => h.2 ▸ hin⟩
  | trivy =>
    obtain ⟨spec, hspec, -⟩ := bind_eq_ok_iff.1 hvalid
    exact Scans.ends_reconcile hkey hspec c
  | litmus =>
    obtain ⟨spec, hspec, -⟩ := bind_eq_ok_iff.1 hvalid
    exact Experiments.ends_reconcile hkey hspec hplain

/-- A valid policy has at least one artifact. -/
theorem InLine.exists_artifact (h : InLine kind p c) {u : Unit} (hvalid : validate kind p = .ok u) :
    ∃ key o, (c.store kind.artifact).objects.get? key = some o := by
  cases kind with
  | falco =>
    obtain ⟨-, o, -, -, hget, -⟩ := h
    exact ⟨_, o, hget⟩
  | trivy =>
    obtain ⟨spec, hspec, hjobs⟩ := h
    obtain ⟨spec', hspec', hscans⟩ := bind_eq_ok_iff.1 hvalid
    obtain rfl : spec' = spec := by simpa [hspec] using hspec'.symm
    cases hl : spec'.scans with
    | nil => simp [hl] at hscans
    | cons scan _ =>
      have hjob := hjobs (TrivySpec.jobName p scan) (List.mem_map_of_mem (by simp [hl]))
      exact ⟨_, Option.isSome_iff_exists.1 hjob⟩
  | litmus =>
    obtain ⟨spec, hspec, hengines⟩ := h
    obtain ⟨spec', hspec', hexperiments⟩ := bind_eq_ok_iff.1 hvalid
    obtain rfl : spec' = spec := by simpa [hspec] using hspec'.symm
    cases hl : spec'.experiments with
    | nil => simp [hl] at hexperiments
    | cons e _ => exact ⟨_, Option.isSome_iff_exists.1 (hengines e (by simp [hl]))⟩

/-! ## Cleanup -/

/-- Where a cleanup deletes. -/
def swept : ToolKind → Policy → Cluster → Key → Prop
  | .falco, p, _ => Rules.swept p
  | .trivy, p, c => Scans.swept p c
  | .litmus, p, c => Experiments.swept p c

theorem ends_cleanup (kind : ToolKind) (p : Policy) (c : Cluster) :
    Ends (cleanup kind p) c (fun _ => Cleaned kind (swept kind p c) c)
      fun _ => CleanupStopped kind (swept kind p c) c := by
  cases kind with
  | falco => exact Rules.ends_cleanup p c
  | trivy => exact Scans.ends_cleanup p c
  | litmus => exact Experiments.ends_cleanup p c

/-- A cleanup misses nothing that is tagged with the policy's key. -/
theorem swept_of_rendered {o : Object kind.artifact} (hkey : p.key = .ok pk)
    (hget : (c.store kind.artifact).objects.get? key = some o) (h : Rendered kind pk key o) :
    swept kind p c key := by
  cases kind with
  | falco => exact Rules.swept_of_placed hkey h.placed
  | trivy => exact Scans.swept_of_rendered hkey hget h
  | litmus => exact Experiments.swept_of_rendered hkey hget h

/-- Among sound artifacts a cleanup leaves none of the policy. -/
theorem Cleaned.not_tagged (h : Cleaned kind (swept kind p c) c c') (hkey : p.key = .ok pk)
    (hsound : (c.store kind.artifact).All (Sound kind)) {o : Object kind.artifact}
    (hget : (c'.store kind.artifact).objects.get? key = some o) :
    ¬ Labels.Tagged o.metadata.labels pk := by
  intro htag
  obtain ⟨hold, hkept⟩ :=
    (h.artifacts.get?_iff_of_plain (hsound.mono fun _ _ hs => hs.1)).1 hget
  have hs := hsound key o hold
  exact hkept (swept_of_rendered hkey hold ⟨hs.1, htag, hs.2 pk htag⟩)

end PolicyOperator.Engine
