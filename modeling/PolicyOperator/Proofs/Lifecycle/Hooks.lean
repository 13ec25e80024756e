import PolicyOperator.Proofs.Lifecycle.Managed
import PolicyOperator.Proofs.Lifecycle.Policy

/-!
# What driving does to managed objects

A drive calls the hooks of a lifecycle and writes the object that it drives. `Hooks l o` says what
the hooks do to managed objects: a cleanup leaves them alone, a link keeps the finalizers, and
disabling and syncing spare what carries its finalizer. Both lifecycles have such hooks
(`hooks_tool`, `hooks_policy`).

For a drive it follows that no step but the finalization takes an object away that carries its
finalizer (`Hooks.spares_drive`), that the finalization takes the driven object at most, and only if
it is stored as it was driven (`ends_unguard`), and that a failed cleanup is all that there is to
the drive (`Hooks.drive_of_cleanup_error`).
-/

namespace PolicyOperator

namespace Platform

/-- Managed objects are stored as they were, and no other events are to come. -/
def Unmoved (pl pl' : Platform) : Prop :=
  pl'.agenda = pl.agenda ∧ Cluster.Unmoved pl.cluster pl'.cluster

instance : IsPreorder Platform Unmoved where
  refl pl := ⟨rfl, Std.Refl.refl (r := Cluster.Unmoved) pl.cluster⟩
  trans _ _ _ h h' := ⟨h'.1.trans h.1, IsTrans.trans _ _ _ h.2 h'.2⟩

/-- Every managed object that carries its finalizer is kept, for others only act. -/
def Spares (pl pl' : Platform) : Prop :=
  pl.Tended → pl'.Tended ∧ Cluster.Spares pl.cluster pl'.cluster

instance : IsPreorder Platform Spares where
  refl pl ht := ⟨ht, Std.Refl.refl (r := Cluster.Spares) pl.cluster⟩
  trans _ _ _ h h' ht :=
    have ⟨ht₁, hs₁⟩ := h ht
    have ⟨ht₂, hs₂⟩ := h' ht₁
    ⟨ht₂, IsTrans.trans _ _ _ hs₁ hs₂⟩

variable {pl pl' : Platform}

theorem Unmoved.spares (h : Unmoved pl pl') : Spares pl pl' := fun ht =>
  ⟨fun due f he => ht due f (h.1 ▸ he), h.2.spares⟩

/-- The event is an act of others, if it changes the cluster. -/
def IsAct (e : OutsideEvent) : Prop :=
  ∀ f, e = .change f → ∀ c, Relation.ReflTransGen (fun c c' => ∃ answer, Act c answer c') c (f c)

theorem spares_happen {e : OutsideEvent} (he : IsAct e) : Spares pl (pl.happen e) := fun ht => by
  cases e with
  | cancel => exact ⟨ht, Std.Refl.refl (r := Cluster.Spares) pl.cluster⟩
  | change f => exact ⟨ht, spares_of_acts (he f rfl pl.cluster)⟩

theorem spares_passUntil (pl : Platform) (reading : Duration) :
    Spares pl (pl.passUntil reading) := fun ht => by
  obtain ⟨waiting, hwaiting, hpass⟩ := follows_passUntil (fun _ _ => spares_happen) pl reading
    fun e he f hf => ht e.1 f (hf ▸ he)
  exact hpass fun due f he => ht due f (hwaiting _ he)

end Platform

open Cluster

/-! ## Computations over the platform -/

namespace PlatformM

theorem unmoved_onCluster {x : ClusterM α} (hx : Keeps Cluster.Unmoved x) :
    Keeps Platform.Unmoved (onCluster x) :=
  keeps_onCluster hx fun _ _ h => ⟨rfl, h⟩

theorem spares_onCluster {x : ClusterM α} (hx : Keeps Cluster.Spares x) :
    Keeps Platform.Spares (onCluster x) :=
  keeps_onCluster hx fun _ _ h ht => ⟨ht, h⟩

theorem unmoved_modify {f : Platform → Platform}
    (hf : ∀ pl, (f pl).agenda = pl.agenda ∧ (f pl).cluster = pl.cluster) :
    Keeps Platform.Unmoved (modify f : PlatformM PUnit) :=
  Keeps.modify fun pl => by
    obtain ⟨hagenda, hcluster⟩ := hf pl
    refine ⟨hagenda, ?_⟩
    rw [hcluster]
    exact Std.Refl.refl (r := Cluster.Unmoved) pl.cluster

theorem spares_of_unmoved {x : PlatformM α} (hx : Keeps Platform.Unmoved x) :
    Keeps Platform.Spares x :=
  hx.mono fun _ _ h => h.spares

theorem spares_pause (operation : String) (d : Duration) :
    Keeps Platform.Spares (pause operation d) :=
  keeps_pause Platform.spares_passUntil operation d

end PlatformM

/-! ## Charts -/

namespace Charts

open PlatformM

theorem unmoved_enter (o : ChartOperation) (target : String) :
    Keeps Platform.Unmoved (enter o target) :=
  keeps_enter fun pl => ⟨rfl, Std.Refl.refl (r := Cluster.Unmoved) pl.cluster⟩

theorem unmoved_ensureRepository (r : ChartRepository) :
    Keeps Platform.Unmoved (ensureRepository r) :=
  (unmoved_enter _ _).bind fun _ => unmoved_modify fun pl => by split <;> exact ⟨rfl, rfl⟩

theorem unmoved_release (ns name : String) : Keeps Platform.Unmoved (release ns name) :=
  (unmoved_enter _ _).bind fun _ => Keeps.get.bind fun _ => .pure _

theorem unmoved_install (r : ReleaseRequest) : Keeps Platform.Unmoved (install r) :=
  (unmoved_enter _ _).bind fun _ => unmoved_modify fun _ => ⟨rfl, rfl⟩

theorem unmoved_upgrade (r : ReleaseRequest) : Keeps Platform.Unmoved (upgrade r) :=
  (unmoved_enter _ _).bind fun _ => unmoved_modify fun _ => ⟨rfl, rfl⟩

theorem unmoved_uninstall (ns name : String) : Keeps Platform.Unmoved (uninstall ns name) := by
  refine (unmoved_enter _ _).bind fun _ => Keeps.get.bind fun pl => ?_
  split
  · exact .throw _
  · exact unmoved_modify fun _ => ⟨rfl, rfl⟩

end Charts

namespace Package

open PlatformM

variable (settings : ToolSettings) (t : Tool)

theorem unmoved_ensureUninstalled : Keeps Platform.Unmoved (ensureUninstalled t) := by
  refine (Keeps.liftM _).bind fun (profile, ns) => ?_
  refine (keeps_attempt (Charts.unmoved_uninstall ns profile.release)).bind fun r => ?_
  split
  · exact .pure _
  · exact .pure _
  · exact .throw _

theorem unmoved_ensureInstalled : Keeps Platform.Unmoved (ensureInstalled settings t) := by
  refine (Keeps.liftM _).bind fun (profile, ns) => ?_
  refine (unmoved_onCluster (Keeps.modify fun c => ?_)).bind fun _ =>
    (Charts.unmoved_ensureRepository _).bind fun _ =>
      (Charts.unmoved_release _ _).bind fun existing => ?_
  · split
    · exact Std.Refl.refl (r := Cluster.Unmoved) c
    · exact fun m => by cases m <;> exact ⟨rfl, rfl⟩
  · split
    · split
      · exact .throw _
      · exact (Charts.unmoved_upgrade _).bind fun _ => .pure _
    · exact (Charts.unmoved_install _).bind fun _ => .pure _

theorem unmoved_checkHealth : Keeps Platform.Unmoved (checkHealth t) :=
  (Keeps.liftM _).bind fun _ => Keeps.get.bind fun _ => .pure _

theorem spares_waitHealthy : Keeps Platform.Spares (waitHealthy settings t) :=
  keeps_waitHealthy (spares_of_unmoved (unmoved_checkHealth t)) spares_pause

theorem unmoved_releaseVersion : Keeps Platform.Unmoved (releaseVersion t) :=
  (Keeps.liftM _).bind fun _ => (Charts.unmoved_release _ _).bind fun _ => .pure _

end Package

/-! ## The hooks of the lifecycles -/

/-- What a drive has to know of the hooks that it calls on an object. -/
structure Hooks {m : Managed} (l : Lifecycle m.kind) (o : Object m.kind) : Prop where
  finalizer : l.finalizer = m.finalizer
  cleanup : Keeps Platform.Unmoved (l.cleanup o)
  link : ∀ pl, Ends (l.link o) pl
    (fun linked pl' => pl' = pl ∧ linked.metadata.guards = o.metadata.guards) fun _ pl' => pl' = pl
  disable : Keeps Platform.Spares (l.disable o)
  /-- Disabling begins with a cleanup. -/
  stopped : ∀ pl e pl', l.cleanup o pl = (.error e, pl') → l.disable o pl = (.error e, pl')
  sync : Keeps Platform.Spares (l.sync o)

namespace ToolLifecycle

open PlatformM

variable (t : Tool)

theorem spares_publish (status : ToolStatus) : Keeps Platform.Spares (publish t status) :=
  keeps_publish (spares_onCluster (ClusterM.spares_replaceStatus _))

theorem unmoved_cleanup : Keeps Platform.Unmoved (cleanup t) := by
  refine (keeps_attempt (Package.unmoved_ensureUninstalled t)).bind fun r => ?_
  split
  · exact .pure _
  · split
    · exact .pure _
    · exact .throw _

theorem spares_disable : Keeps Platform.Spares (disable t) :=
  keeps_disable (spares_of_unmoved (unmoved_cleanup t)) (spares_publish t)

theorem spares_sync (settings : ToolSettings) : Keeps Platform.Spares (sync settings t) :=
  keeps_sync (spares_of_unmoved (Package.unmoved_ensureInstalled settings t))
    (Package.spares_waitHealthy settings t)
    (spares_of_unmoved (Package.unmoved_releaseVersion t)) (spares_publish t)

end ToolLifecycle

theorem hooks_tool (settings : ToolSettings) (t : Tool) :
    Hooks (m := .tool) (Lifecycle.tool settings) t where
  finalizer := rfl
  cleanup := ToolLifecycle.unmoved_cleanup t
  link _ := ⟨rfl, rfl⟩
  disable := ToolLifecycle.spares_disable t
  stopped _ _ _ h := run_bind_of_error (x := ToolLifecycle.cleanup t) h _
  sync := ToolLifecycle.spares_sync t settings

namespace PolicyLifecycle

open PlatformM

variable {p : Policy} {key : Key}

theorem spares_publish (status : PolicyStatus) : Keeps Cluster.Spares (publish p status) :=
  keeps_publish (ClusterM.spares_replaceStatus _)

theorem kind_ne_artifact (m : Managed) (kind : ToolKind) : m.kind ≠ kind.artifact := by
  cases m <;> cases kind <;> decide

theorem kind_ne_policyReport (m : Managed) : m.kind ≠ .policyReport := by
  cases m <;> decide

theorem unmoved_of_cleaned {kind : ToolKind} {keys : Key → Prop} {c c' : Cluster}
    (h : Engine.Cleaned kind keys c c') : Cluster.Unmoved c c' :=
  h.confined.unmoved fun m => by simp [kind_ne_artifact, kind_ne_policyReport]

theorem unmoved_cleanup (p : Policy) : Keeps Cluster.Unmoved (cleanup p) := fun c => by
  refine (ends_cleanup p c).mono (fun _ c' h => ?_) fun _ c' ⟨kind, _, h⟩ => ?_
  · obtain ⟨kind, -, h⟩ | ⟨-, rfl⟩ := h
    · exact unmoved_of_cleaned h
    · exact Std.Refl.refl (r := Cluster.Unmoved) c'
  · obtain rfl | h := h.done
    · exact Std.Refl.refl (r := Cluster.Unmoved) c'
    · exact unmoved_of_cleaned h

theorem spares_disable : Keeps Cluster.Spares (disable p) :=
  keeps_disable ((unmoved_cleanup p).mono fun _ _ h => h.spares) spares_publish

theorem spares_sync (hkey : p.key = .ok key) : Keeps Platform.Spares (sync p) := by
  refine keeps_sync (fun kind => ?_) (fun desired => ?_) fun status => ?_
  · exact spares_onCluster ((Engine.keeps_reworked_reconcile kind hkey).mono fun _ _ h =>
      (h.confined.unmoved fun m => by simp [kind_ne_artifact]).spares)
  · exact spares_onCluster ((confined_ensureReport desired).mono fun _ _ h =>
      (h.unmoved fun m => by simp [kind_ne_policyReport]).spares)
  · exact spares_onCluster (spares_publish status)

/-- A link appends an owner and writes nothing. -/
theorem ends_withOwner (p : Policy) (c : Cluster) :
    Ends (link p) c (fun linked c' => c' = c ∧ ∃ owner, linked = withOwner p owner)
      fun _ c' => c' = c := by
  unfold link
  rw [ends_bind, ends_liftM]
  split
  · rw [ends_bind, ClusterM.ends_get?]
    split
    · exact rfl
    · split
      · exact rfl
      · exact ⟨rfl, _, rfl⟩
  · rfl

end PolicyLifecycle

theorem hooks_policy {p : Policy} {key : Key} (hkey : p.key = .ok key) :
    Hooks (m := .policy) Lifecycle.policy p where
  finalizer := rfl
  cleanup := PlatformM.unmoved_onCluster (PolicyLifecycle.unmoved_cleanup p)
  link pl := PlatformM.ends_onCluster.2 ((PolicyLifecycle.ends_withOwner p pl.cluster).mono
    (fun _ _ ⟨hc, _, hlinked⟩ => ⟨by rw [hc], by rw [hlinked]; rfl⟩) fun _ _ h => by rw [h])
  disable := PlatformM.spares_onCluster PolicyLifecycle.spares_disable
  stopped pl e pl' h := by
    change PlatformM.onCluster (PolicyLifecycle.cleanup p) pl = _ at h
    change PlatformM.onCluster (PolicyLifecycle.disable p) pl = _
    rcases hc : PolicyLifecycle.cleanup p pl.cluster with ⟨r, c⟩
    rw [PlatformM.run_onCluster hc] at h
    cases h
    exact PlatformM.run_onCluster (run_bind_of_error hc _)
  sync := PolicyLifecycle.spares_sync hkey

theorem hooks (settings : ToolSettings) (m : Managed) {o : Object m.kind} {key : Key}
    (hkey : o.key = .ok key) : Hooks (m.lifecycle settings) o := by
  cases m with
  | tool => exact hooks_tool settings o
  | policy => exact hooks_policy hkey

/-! ## The drive -/

section
variable {m : Managed} {l : Lifecycle m.kind} {o : Object m.kind} {pl pl' : Platform}

/-- Only the finalization takes away what carries its finalizer. -/
theorem Hooks.spares_drive (h : Hooks l o) (hstep : (l.observe o).step ≠ .finalize) :
    Keeps Platform.Spares (l.drive o) := by
  unfold Lifecycle.drive
  split
  · next he => exact absurd he hstep
  · exact .pure _
  · have hmem : m.finalizer ∈ (l.guarded o).metadata.guards := by simp [h.finalizer]
    exact (PlatformM.spares_onCluster (ClusterM.spares_replace hmem)).discard.bind fun _ => .pure _
  · next he =>
    have hguarded := (l.guarded_observe_iff o).1 (Observed.step_of_link he).2
    intro pl
    refine ends_bind.2 ((h.link pl).mono (fun linked pl' ⟨hpl, hguards⟩ => ?_) fun _ pl' hpl => ?_)
    · subst hpl
      have hmem : m.finalizer ∈ linked.metadata.guards := by rwa [hguards, ← h.finalizer]
      exact ((PlatformM.spares_onCluster (ClusterM.spares_replace hmem)).discard.bind
        fun _ => .pure _) pl'
    · subst hpl
      exact Std.Refl.refl (r := Platform.Spares) pl'
  · exact h.disable.bind fun _ => .pure _
  · exact h.sync.bind fun _ => .pure _

/-- When the cleanup fails, the drive fails with it and does nothing else. -/
theorem Hooks.drive_of_cleanup_error (h : Hooks l o) {e : Error}
    (hstep : (l.observe o).step = .finalize ∨ (l.observe o).step = .disable)
    (hc : l.cleanup o pl = (.error e, pl')) : l.drive o pl = (.error e, pl') := by
  unfold Lifecycle.drive
  obtain hstep | hstep := hstep
  all_goals rw [hstep]
  · exact run_bind_of_error hc _
  · exact run_bind_of_error (h.stopped pl e pl' hc) _

/-- After a cleanup the drive ends as taking the finalizer away does. -/
theorem drive_of_cleanup_ok {r : Except Error (Object m.kind)} {c : Cluster}
    (hstep : (l.observe o).step = .finalize) (hc : l.cleanup o pl = (.ok (), pl'))
    (hr : ClusterM.replace (l.unguarded o) pl'.cluster = (r, c)) :
    l.drive o pl = (r.map fun _ => .finalized, { pl' with cluster := c }) := by
  have hunguard : (discard (PlatformM.onCluster (ClusterM.replace (l.unguarded o))) :
      PlatformM PUnit) pl' = (r.map fun _ => ⟨⟩, { pl' with cluster := c }) := by
    rw [run_discard, PlatformM.run_onCluster hr]
  unfold Lifecycle.drive
  rw [hstep]
  refine (run_bind_of_ok hc _).trans ?_
  cases r with
  | ok => exact run_bind_of_ok hunguard _
  | error => exact run_bind_of_error hunguard _

/-- Taking the finalizer away concerns the object alone, and only succeeds if it is stored as it was
driven. -/
theorem ends_unguard {c : Cluster} (hknown : Snapshot.Known ⟨m, o⟩ c) :
    Ends (ClusterM.replace (l.unguarded o)) c (fun _ => Cluster.SparesBut ⟨m, o⟩ c)
      fun _ c' => c' = c := by
  refine ClusterM.ends_ofStore.2 ⟨fun o' s h => ?_, fun _ _ => rfl⟩
  obtain ⟨-, key, current, hkey, hcurrent, hversion, -⟩ := Store.replace_eq_ok_iff.1 h
  have hkey' : o.key = .ok key := (Object.key_congr rfl rfl).trans hkey
  obtain rfl : current = o := hknown.eq_of_accepted hkey' hcurrent hversion
  refine ⟨Cluster.advances_setStore (Store.advanced_replace h), fun m' key' x hx hf => ?_⟩
  by_cases hm : m' = m
  · subst hm
    by_cases he : key' = key
    · subst he
      obtain rfl : current = x := by simpa [hcurrent] using hx
      exact .inr rfl
    · refine .inl ⟨x, ?_, hf, rfl⟩
      rw [Cluster.store_setStore, Store.get?_replace h hkey, if_neg he, hx]
  · refine .inl ⟨x, ?_, hf, rfl⟩
    rw [Cluster.store_setStore_of_ne _ _ fun he => hm (Managed.kind_injective he), hx]

end

end PolicyOperator
