import PolicyOperator.Lifecycle.Drive
import PolicyOperator.Proofs.Store.Writes

/-!
# Which step is taken

The step of an object follows from what is read off it. Each step stands for one condition
(`step_eq_finalize_iff`, …, `step_of_sync`), and a rewrite of the finalizers touches nothing else.
-/

namespace PolicyOperator

namespace Observed

variable {o : Observed}

theorem step_eq_finalize_iff : o.step = .finalize ↔ o.deleting = true ∧ o.guarded = true := by
  rcases o with ⟨_ | _, _ | _, _ | _ | _, _ | _, _ | _⟩ <;> decide

theorem step_eq_guard_iff : o.step = .guard ↔ o.deleting = false ∧ o.guarded = false := by
  rcases o with ⟨_ | _, _ | _, _ | _ | _, _ | _, _ | _⟩ <;> decide

theorem step_eq_link_iff :
    o.step = .link ↔ o.deleting = false ∧ o.guarded = true ∧ o.linked = some false := by
  rcases o with ⟨_ | _, _ | _, _ | _ | _, _ | _, _ | _⟩ <;> decide

theorem step_eq_sync_iff : o.step = .sync ↔
    o.deleting = false ∧ o.guarded = true ∧ o.linked ≠ some false ∧ o.enabled = true := by
  rcases o with ⟨_ | _, _ | _, _ | _ | _, _ | _, _ | _⟩ <;> decide

theorem step_of_link (h : o.step = .link) : o.deleting = false ∧ o.guarded = true := by
  revert h
  rcases o with ⟨_ | _, _ | _, _ | _ | _, _ | _, _ | _⟩ <;> decide

theorem step_of_disable (h : o.step = .disable) :
    o.deleting = false ∧ o.guarded = true ∧ o.enabled = false := by
  revert h
  rcases o with ⟨_ | _, _ | _, _ | _ | _, _ | _, _ | _⟩ <;> decide

theorem step_of_sync (h : o.step = .sync) :
    o.deleting = false ∧ o.guarded = true ∧ o.enabled = true := by
  revert h
  rcases o with ⟨_ | _, _ | _, _ | _ | _, _ | _, _ | _⟩ <;> decide

end Observed

namespace Lifecycle

variable {k : ResourceKind} (l : Lifecycle k) (o : Object k)

theorem guarded_observe_iff :
    (l.observe o).guarded = true ↔ l.finalizer ∈ o.metadata.guards := by
  simp [observe]

@[simp] theorem guards_guarded :
    (l.guarded o).metadata.guards = o.metadata.guards ++ [l.finalizer] := rfl

@[simp] theorem guards_unguarded :
    (l.unguarded o).metadata.guards = o.metadata.guards.filter (· ≠ l.finalizer) := rfl

theorem key_guarded {key : Key} (h : o.key = .ok key) : (l.guarded o).key = .ok key :=
  (Object.key_congr rfl rfl).trans h

theorem key_unguarded {key : Key} (h : o.key = .ok key) : (l.unguarded o).key = .ok key :=
  (Object.key_congr rfl rfl).trans h

end Lifecycle

end PolicyOperator
