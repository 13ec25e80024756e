import PolicyOperator.Lifecycle.Policy
import PolicyOperator.Lifecycle.Tool
import PolicyOperator.Proofs.Computation
import Mathlib.Data.List.TakeDrop

/-!
# What waiting and the hooks keep

A preorder on states is kept by waiting if it is kept by the events that are due
(`follows_passUntil`, `PlatformM.keeps_pause`, `Package.keeps_waitHealthy`), and by the hooks of the lifecycles
if it is kept by what they write (`ToolLifecycle.keeps_publish`, `PolicyLifecycle.keeps_sync`, …).
Frames and invariants of a hook come down to its writes by these rules.
-/

namespace PolicyOperator

/-! ## Waiting -/

section
variable {R : Platform → Platform → Prop} [IsPreorder Platform R]

/-- Once the rest of the agenda is put off, the events that are due lead to where waiting does. -/
theorem Platform.follows_passUntil {P : OutsideEvent → Prop}
    (hhappen : ∀ (pl : Platform) e, P e → R pl (pl.happen e)) (pl : Platform) (reading : Duration)
    (h : ∀ e ∈ pl.agenda, P e.2) :
    ∃ waiting, (∀ e ∈ waiting, e ∈ pl.agenda) ∧
      R { pl with agenda := waiting, elapsed := reading } (pl.passUntil reading) := by
  have hdue : ∀ (due : List (Duration × OutsideEvent)) (pl : Platform), (∀ e ∈ due, P e.2) →
      R pl (due.foldl (fun pl e => pl.happen e.2) pl) := by
    intro due
    induction due with
    | nil => exact fun pl _ => Std.Refl.refl (r := R) pl
    | cons e due ih =>
      intro pl hdue
      exact IsTrans.trans _ _ _ (hhappen pl e.2 (hdue e List.mem_cons_self))
        (ih _ fun e he => hdue e (List.mem_cons_of_mem _ he))
  unfold passUntil
  rw [List.span_eq_takeWhile_dropWhile]
  refine ⟨_, fun e he => (List.dropWhile_suffix _).subset he, hdue _ _ fun e he => ?_⟩
  exact h e ((List.takeWhile_prefix _).subset he)

theorem PlatformM.keeps_pause (h : ∀ pl reading, R pl (pl.passUntil reading)) (operation : String)
    (d : Duration) : Keeps R (pause operation d) := by
  intro pl
  simp only [pause, ends_bind, ends_get]
  split
  · simp only [ends_bind, ends_throw]
    exact Std.Refl.refl (r := R) pl
  · split
    · simp only [ends_bind, ends_set, ends_throw]
      exact h _ _
    · simp only [ends_set]
      exact h _ _

/-- Polling keeps what its probes and pauses keep. -/
theorem keeps_untilReady {probe : PlatformM Bool} {pause : Duration → PlatformM PUnit}
    {interval : Duration} (hprobe : Keeps R probe) (hpause : ∀ d, Keeps R (pause d)) (probes : Nat)
    (remaining : Duration) : Keeps R (Poll.untilReady probe pause interval probes remaining) := by
  induction probes generalizing remaining with
  | zero => exact .pure false
  | succ probes ih =>
    unfold Poll.untilReady
    refine hprobe.bind fun ready => ?_
    split
    · exact .pure true
    · split
      · exact .pure false
      · exact (hpause _).bind fun _ => ih _

/-- Waiting for a tool keeps what its probes and pauses keep, with an interval or without. -/
theorem Package.keeps_waitHealthy {settings : ToolSettings} {t : Tool}
    (hprobe : Keeps R (checkHealth t)) (hpause : ∀ operation d, Keeps R (PlatformM.pause operation d)) :
    Keeps R (waitHealthy settings t) := by
  have hwatch : ∀ probes remaining, Keeps R (watchHealth t probes remaining) := by
    intro probes
    induction probes with
    | zero => exact fun _ => .pure false
    | succ probes ih =>
      intro remaining
      unfold watchHealth
      refine hprobe.bind fun ready => ?_
      split
      · exact .pure true
      · split
        · exact .pure false
        · exact Keeps.get.bind fun _ => (hpause _ _).bind fun _ => ih _
  unfold waitHealthy
  split
  · exact Keeps.get.bind fun _ => hwatch _ _
  · exact keeps_untilReady hprobe (hpause _) _ _

/-- Every chart operation begins with a note in the book. -/
theorem Charts.keeps_enter {o : ChartOperation} {target : String}
    (h : ∀ pl : Platform, R pl { pl with book := pl.book.note o target }) :
    Keeps R (enter o target) := by
  refine Keeps.get.bind fun pl => ?_
  dsimp only
  split
  on_goal 1 => refine (Keeps.throw _).bind fun _ => ?_
  all_goals
    refine (Keeps.modify h).bind fun _ => Keeps.get.bind fun pl => ?_
    split
    · exact .throw _
    · exact .pure _

/-! ## Hooks over the platform -/

namespace ToolLifecycle

open PlatformM

variable {t : Tool}

theorem keeps_publish {status : ToolStatus}
    (h : Keeps R (onCluster (ClusterM.replaceStatus { t with status := some status }))) :
    Keeps R (publish t status) := by
  unfold publish
  split
  · exact .pure _
  · exact h.discard

theorem keeps_recordFailure {reason : String} {e : Error}
    (h : ∀ status, Keeps R (publish t status)) : Keeps R (recordFailure t reason e) :=
  Keeps.get.bind fun _ => (keeps_attempt (h _)).discard

theorem keeps_disable (hcleanup : Keeps R (cleanup t))
    (hpublish : ∀ status, Keeps R (publish t status)) : Keeps R (disable t) :=
  hcleanup.bind fun _ => Keeps.get.bind fun _ => hpublish _

theorem keeps_sync {settings : ToolSettings}
    (hinstall : Keeps R (Package.ensureInstalled settings t))
    (hwait : Keeps R (Package.waitHealthy settings t))
    (hversion : Keeps R (Package.releaseVersion t))
    (hpublish : ∀ status, Keeps R (publish t status)) : Keeps R (sync settings t) := by
  unfold sync
  split
  · exact (keeps_recordFailure hpublish).bind fun _ => .throw _
  · refine (keeps_attempt hinstall).bind fun r => ?_
    split
    · exact (keeps_recordFailure hpublish).bind fun _ => .throw _
    · refine hwait.bind fun healthy => (keeps_attempt hversion).bind fun version => ?_
      exact Keeps.get.bind fun _ => (hpublish _).bind fun _ => .pure _

end ToolLifecycle

namespace PolicyLifecycle

open PlatformM

variable {p : Policy}

theorem keeps_recordFailure {phase : Option PolicyPhase} {reason : String} {e : Error}
    (h : ∀ status, Keeps R (onCluster (publish p status))) :
    Keeps R (recordFailure p phase reason e) :=
  Keeps.get.bind fun _ => (keeps_attempt (h _)).discard

theorem keeps_sync (hreconcile : ∀ kind, Keeps R (onCluster (Engine.reconcile kind p)))
    (hreport : ∀ desired, Keeps R (onCluster (ensureReport desired)))
    (hpublish : ∀ status, Keeps R (onCluster (publish p status))) : Keeps R (sync p) := by
  unfold sync
  split
  · exact (keeps_recordFailure hpublish).bind fun _ => .throw _
  · refine (keeps_attempt (hreconcile _)).bind fun r => ?_
    split
    · exact (keeps_recordFailure hpublish).bind fun _ => .throw _
    · refine (keeps_attempt (hreport _)).bind fun report => ?_
      exact Keeps.get.bind fun _ => (hpublish _).bind fun _ => .pure _

end PolicyLifecycle

/-- A drive keeps what the hooks and the writes of its steps keep. -/
theorem Lifecycle.keeps_drive {k : ResourceKind} {l : Lifecycle k} {o : Object k}
    (hcleanup : Keeps R (l.cleanup o))
    (hunguard : Keeps R (PlatformM.onCluster (ClusterM.replace (l.unguarded o))))
    (hguard : Keeps R (PlatformM.onCluster (ClusterM.replace (l.guarded o))))
    (hlink : Keeps R (l.link o >>= fun linked =>
      discard (PlatformM.onCluster (ClusterM.replace linked))))
    (hdisable : Keeps R (l.disable o)) (hsync : Keeps R (l.sync o)) : Keeps R (l.drive o) := by
  unfold drive
  split
  · exact hcleanup.bind fun _ => hunguard.discard.bind fun _ => .pure _
  · exact .pure _
  · exact hguard.discard.bind fun _ => .pure _
  · intro pl
    have hwritten := hlink.bind (fun _ => Keeps.pure (R := R) Transition.ownerLinked) pl
    simpa only [ends_bind] using hwritten
  · exact hdisable.bind fun _ => .pure _
  · exact hsync.bind fun _ => .pure _

end

/-! ## Hooks over the cluster -/

namespace PolicyLifecycle

open ClusterM

variable {R : Cluster → Cluster → Prop} [IsPreorder Cluster R] {p : Policy}

theorem keeps_publish {status : PolicyStatus}
    (h : Keeps R (replaceStatus { p with status := some status })) : Keeps R (publish p status) := by
  unfold publish
  split
  · exact .pure _
  · exact h.discard

theorem keeps_ensureReport {desired : PolicyReport}
    (hcreate : ∀ r : PolicyReport, Keeps R (create r))
    (hreplace : ∀ r : PolicyReport, Keeps R (replace r)) : Keeps R (ensureReport desired) := by
  refine (keeps_get? _ _ _).bind fun found => ?_
  cases found with
  | none => exact (hcreate _).discard.bind fun _ => .pure _
  | some existing =>
    dsimp only
    split
    · exact (hreplace _).discard.bind fun _ => .pure _
    · exact .pure _

/-- Linking only looks. -/
theorem keeps_link : Keeps R (link p) := by
  refine (Keeps.liftM _).bind fun kind => (keeps_get? _ _ _).bind fun found => ?_
  cases found with
  | none => exact .throw _
  | some tool =>
    dsimp only
    split
    · exact .throw _
    · exact .pure _

theorem keeps_disable (hcleanup : Keeps R (cleanup p))
    (hpublish : ∀ status, Keeps R (publish p status)) : Keeps R (disable p) :=
  hcleanup.bind fun _ => keeps_now.bind fun _ => hpublish _

end PolicyLifecycle

end PolicyOperator
