import PolicyOperator.Proofs.Engine.Settled

/-!
# Reconciliations that are interrupted

An engine reaches the stores by five operations (`Access`), and reconciles by whatever operations it
is given. A `Rationed` cluster lets some more writes through and makes the next one fail, so the
numbers of writes are the points at which a reconciliation can be interrupted.

`Follows x' x stopped`: where `x` succeeds, the rationed computation `x'` does the same, or it stops
in a cluster that `stopped` relates to the first. A loop stops in a cluster that it leaves when it
goes through the first items only (`Partway`), as a step that writes once stops before it changed
anything (`Halted`). This describes where reconciliations stop (`Stopped`, `follows_reconcile`).
-/

namespace PolicyOperator

open Cluster

variable {α β : Type} {k : ResourceKind}

/-! ## Rationed clusters -/

/-- A cluster that lets some more writes through. -/
structure Rationed where
  cluster : Cluster
  left : Nat

/-- A computation over a rationed cluster. -/
abbrev RationedM := ExceptT Error (StateM Rationed)

namespace RationedM

def read (x : ClusterM α) : RationedM α := fun s =>
  let (answer, c) := x s.cluster
  (answer, { s with cluster := c })

/-- Fails without an effect once no more writes are let through. -/
def write (x : ClusterM α) : RationedM α := fun s =>
  match s.left with
  | 0 => (.error (.transient "write" "interrupted"), s)
  | left + 1 =>
    let (answer, c) := x s.cluster
    (answer, ⟨c, left⟩)

theorem run_read {x : ClusterM α} {s : Rationed} {r : Except Error α} {c : Cluster}
    (h : x s.cluster = (r, c)) : read x s = (r, { s with cluster := c }) := by
  rw [read, h]

theorem run_write_zero (x : ClusterM α) (c : Cluster) :
    write x ⟨c, 0⟩ = (.error (.transient "write" "interrupted"), ⟨c, 0⟩) := rfl

theorem run_write_succ {x : ClusterM α} {c c' : Cluster} {r : Except Error α} (h : x c = (r, c'))
    (left : Nat) : write x ⟨c, left + 1⟩ = (r, ⟨c', left⟩) := by
  simp only [write, h]

end RationedM

/-- The operations of a rationed cluster. -/
def Access.rationed : Access RationedM where
  get? k ns name := .read (ClusterM.get? k ns name)
  list k ns selector := .read (ClusterM.list k ns selector)
  create o := .write (ClusterM.create o)
  replace o := .write (ClusterM.replace o)
  delete k ns name := .write (ClusterM.delete k ns name)

/-! ## Computations that are interrupted -/

/-- Where `x` succeeds, `x'` does the same, or stops in a cluster that is related to the first. -/
def Follows (x' : RationedM α) (x : ClusterM α) (stopped : Cluster → Cluster → Prop) : Prop :=
  ∀ (s : Rationed) a c', x s.cluster = (.ok a, c') →
    Ends x' s (fun a' s' => a' = a ∧ s'.cluster = c') fun _ s' => stopped s.cluster s'.cluster

/-- Nothing changed, although the store would have accepted a write. -/
def Halted (k : ResourceKind) (c c₁ : Cluster) : Prop := c₁ = c ∧ (c.store k).failing = false

/-- The first items of a loop were gone through, and the store would have accepted more writes. -/
def Partway (k : ResourceKind) (l : List α) (f : α → ClusterM PUnit) (c c₁ : Cluster) : Prop :=
  ∃ done, done <+: l ∧ done.forM f c = (.ok ⟨⟩, c₁) ∧ (c₁.store k).failing = false

namespace Follows

variable {x : ClusterM α} {x' : RationedM α} {f : α → ClusterM β} {f' : α → RationedM β}
  {stopped stopped' : Cluster → Cluster → Prop}

theorem mono (h : Follows x' x stopped) (hs : ∀ c c₁, stopped c c₁ → stopped' c c₁) :
    Follows x' x stopped' :=
  fun s a c' hx => (h s a c' hx).mono (fun _ _ hd => hd) fun _ _ he => hs _ _ he

theorem pure (a : α) : Follows (pure a : RationedM α) (pure a : ClusterM α) stopped := by
  intro s b c' hx
  cases hx
  exact ⟨rfl, rfl⟩

theorem read (x : ClusterM α) : Follows (.read x) x stopped := by
  intro s a c' hx
  unfold Ends
  rw [RationedM.run_read hx]
  exact ⟨rfl, rfl⟩

theorem write (hx : ∀ c a c', x c = (.ok a, c') → (c.store k).failing = false) :
    Follows (.write x) x (Halted k) := by
  rintro ⟨c, _ | left⟩ a c' hs
  · unfold Ends
    rw [RationedM.run_write_zero]
    exact ⟨rfl, hx _ _ _ hs⟩
  · unfold Ends
    rw [RationedM.run_write_succ hs]
    exact ⟨rfl, rfl⟩

theorem discard (h : Follows x' x stopped) : Follows (discard x') (discard x) stopped := by
  intro s a c' hs
  rw [run_discard] at hs
  obtain ⟨⟨b, hb⟩, rfl⟩ : (∃ b, (x s.cluster).1 = .ok b) ∧ (x s.cluster).2 = c' := by
    rcases hx : x s.cluster with ⟨e | b, c₁⟩
    · rw [hx] at hs; cases hs
    · rw [hx] at hs; cases hs; exact ⟨⟨b, rfl⟩, rfl⟩
  exact ends_discard.2 ((h s b _ (Prod.ext hb rfl)).mono (fun _ _ hd => ⟨rfl, hd.2⟩) fun _ _ he => he)

/-- A sequence stops in its first part, or in the second from where the first succeeds. -/
theorem bind {stoppedNext : α → Cluster → Cluster → Prop} (h : Follows x' x stopped)
    (hf : ∀ a, Follows (f' a) (f a) (stoppedNext a)) :
    Follows (x' >>= f') (x >>= f) fun c c₁ =>
      stopped c c₁ ∨ ∃ a c₀, x c = (.ok a, c₀) ∧ stoppedNext a c₀ c₁ := by
  intro s b c' hs
  rw [run_bind] at hs
  rcases hx : x s.cluster with ⟨e | a, c₀⟩
  · rw [hx] at hs; cases hs
  · rw [hx] at hs
    refine ends_bind.2 ((h s a c₀ hx).mono (fun a' s' hd => ?_) fun _ _ he => .inl he)
    obtain ⟨rfl, rfl⟩ := hd
    exact (hf a' s' b c' hs).mono (fun _ _ hd => hd) fun _ _ he => .inr ⟨a', _, hx, he⟩

/-- What follows on a plain answer. -/
theorem after_liftM {r : Except Error α} (hf : ∀ a, r = .ok a → Follows (f' a) (f a) stopped) :
    Follows (liftM r >>= f') (liftM r >>= f) stopped := by
  cases r with
  | error e =>
    intro s b c' hs
    cases hs
  | ok a => exact hf a rfl

/-- What follows on reading. -/
theorem after_read {x : ClusterM α} (hx : ∀ c, (x c).2 = c)
    {stoppedNext : α → Cluster → Cluster → Prop} (hf : ∀ a, Follows (f' a) (f a) (stoppedNext a)) :
    Follows (.read x >>= f') (x >>= f) fun c c₁ => ∃ a, x c = (.ok a, c) ∧ stoppedNext a c c₁ := by
  have hread : Follows (.read x) x fun _ _ => False := read x
  refine (hread.bind hf).mono fun c c₁ h => ?_
  obtain h | ⟨a, c₀, hread, h⟩ := h
  · exact h.elim
  · obtain rfl : c₀ = c := by rw [← hx c, hread]
    exact ⟨a, hread, h⟩

theorem forM {l : List α} {f : α → ClusterM PUnit} {f' : α → RationedM PUnit}
    (hf : ∀ a, Follows (f' a) (f a) (Halted k)) :
    Follows (l.forM f') (l.forM f) (Partway k l f) := by
  induction l with
  | nil => exact pure _
  | cons a l ih =>
    rw [List.forM, List.forM]
    refine ((hf a).bind fun _ => ih).mono fun c c₁ h => ?_
    obtain ⟨rfl, hwritable⟩ | ⟨_, c₀, hfirst, done, hdone, hrest, hwritable⟩ := h
    · exact ⟨[], List.nil_prefix, rfl, hwritable⟩
    · refine ⟨a :: done, List.cons_prefix_cons.2 ⟨rfl, hdone⟩, ?_, hwritable⟩
      rw [List.forM, run_bind_of_ok hfirst, hrest]

end Follows

/-! ## Writes -/

theorem failing_of_ofStore {f : Cluster → Except Error (α × Store k)}
    (hf : ∀ c a s, f c = .ok (a, s) → (c.store k).failing = false) (c : Cluster) (a : α)
    (c' : Cluster) (h : ClusterM.ofStore k f c = (.ok a, c')) : (c.store k).failing = false := by
  have hends : Ends (ClusterM.ofStore k f) c (fun _ _ => (c.store k).failing = false)
      fun _ _ => True :=
    ClusterM.ends_ofStore.2 ⟨fun a s h => hf c a s h, fun _ _ => trivial⟩
  exact hends.ok h

theorem follows_create (o : Object k) :
    Follows (Access.rationed.create o) (ClusterM.create o) (Halted k) :=
  .write (failing_of_ofStore fun _ _ _ h => (Store.create_eq_ok_iff.1 h).1)

theorem follows_replace (o : Object k) :
    Follows (Access.rationed.replace o) (ClusterM.replace o) (Halted k) :=
  .write (failing_of_ofStore fun _ _ _ h => (Store.replace_eq_ok_iff.1 h).1)

theorem follows_delete (k : ResourceKind) (ns name : String) :
    Follows (Access.rationed.delete k ns name) (ClusterM.delete k ns name) (Halted k) :=
  .write (failing_of_ofStore fun _ _ _ h => (Store.delete_eq_ok_iff.1 h).1)

/-- A write whose answer is not used. -/
theorem Follows.write_then {x : ClusterM α} {x' : RationedM α} (h : Follows x' x (Halted k)) (b : β) :
    Follows (do Functor.discard x'; Pure.pure b : RationedM β) (do Functor.discard x; Pure.pure b)
      (Halted k) := by
  have hend : ∀ _ : PUnit, Follows (Pure.pure b) (Pure.pure b) fun _ _ => False := fun _ => .pure b
  refine (h.discard.bind hend).mono fun c c₁ h => ?_
  obtain h | ⟨_, _, _, h⟩ := h
  · exact h
  · exact h.elim

theorem follows_upsert (desired : Object k) (apply : Object k → Object k) :
    Follows (Access.rationed.upsert desired apply) (Artifact.upsert desired apply) (Halted k) := by
  refine (Follows.after_read (fun _ => rfl) fun found => ?_).mono fun _ _ ⟨_, _, h⟩ => h
  cases found with
  | none => exact (follows_create desired).write_then _
  | some o =>
    dsimp only
    split
    · exact .pure _
    · exact (follows_replace _).write_then _

/-! ## Reconciliations -/

namespace Engine

/-- Where a reconciliation stops when one of its writes fails. -/
def Stopped : ToolKind → Policy → Cluster → Cluster → Prop
  | .falco, _, c, c₁ => Halted .configMap c c₁
  | .trivy, p, c, c₁ => ∃ spec, Scans.specOf p = .ok spec ∧
      (Partway .job spec.scans (Scans.ensureJob p) c c₁ ∨
        ∃ c₀, spec.scans.forM (Scans.ensureJob p) c = (.ok ⟨⟩, c₀) ∧
          Partway .job (Scans.stale p spec c₀) (Scans.deleteJob p) c₀ c₁)
  | .litmus, p, c, c₁ => ∃ spec, Experiments.specOf p = .ok spec ∧
      Partway .chaosEngine spec.experiments (Experiments.ensureEngine p) c c₁

theorem Scans.follows_ensureJob (p : Policy) (scan : Scan) :
    Follows (Access.rationed.ensureJob p scan) (ensureJob p scan) (Halted .job) := by
  refine (Follows.after_read (fun _ => rfl) fun found => ?_).mono fun _ _ ⟨_, _, h⟩ => h
  cases found with
  | none => exact (follows_create _).discard
  | some _ => exact .pure _

theorem Scans.follows_deleteJob (p : Policy) (j : Job) :
    Follows (Access.rationed.deleteJob p j) (deleteJob p j) (Halted .job) :=
  (follows_delete _ _ _).discard

theorem Experiments.follows_ensureEngine (p : Policy) (e : Experiment) :
    Follows (Access.rationed.ensureEngine p e) (ensureEngine p e) (Halted .chaosEngine) :=
  (follows_upsert _ _).discard

/-- A rationed reconciliation does what the engine does, or stops at a write. -/
theorem follows_reconcile (kind : ToolKind) (p : Policy) :
    Follows (Access.rationed.reconcile kind p) (reconcile kind p) (Stopped kind p) := by
  cases kind with
  | falco => exact .after_liftM fun spec _ => (follows_upsert _ _).discard
  | trivy =>
    refine .after_liftM fun spec hspec => ?_
    refine ((Follows.forM (Scans.follows_ensureJob p)).bind fun _ =>
      .after_read (fun _ => rfl) fun _ => .forM (Scans.follows_deleteJob p)).mono fun c c₁ h => ?_
    obtain h | ⟨_, c₀, hjobs, own, hown, h⟩ := h
    · exact ⟨spec, hspec, .inl h⟩
    · cases hown
      exact ⟨spec, hspec, .inr ⟨c₀, hjobs, h⟩⟩
  | litmus =>
    refine .after_liftM fun spec hspec => ?_
    exact (Follows.forM (Experiments.follows_ensureEngine p)).mono fun _ _ h => ⟨spec, hspec, h⟩

end Engine

end PolicyOperator
