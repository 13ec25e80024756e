import PolicyOperator.Proofs.Lifecycle.Hooks
import PolicyOperator.Proofs.Store.Requests

/-!
# What driving leaves of an object

A drive writes whole objects that are made from a snapshot, which may be outdated. Still it edits
nothing but the finalizer of the lifecycle, the owners and the status (`Object.Amended`): a write is
accepted only where the snapshot is what is stored, and then it differs from the snapshot in no more
than that.

`Cluster.Amends s c c'` says so of the managed objects of two clusters. It is a preorder, so that it
has to be shown of single writes only (`amending_replace`, `amending_replaceStatus`); the main
statement is `amends_drive`, for every step of both lifecycles and however the drive ends.
-/

namespace PolicyOperator

/-! ## Amended objects -/

/-- The metadata but for what a lifecycle edits and the store counts. -/
def Metadata.frame (m : Metadata) : Metadata :=
  { m.wholeSeconds with finalizers := none, ownerReferences := none, resourceVersion := none }

namespace Object

variable {k : ResourceKind}

/-- The same object but for one finalizer, an owner behind the others, and the status. Labels,
annotations and the generation stay, as all other metadata does; times are compared at whole
seconds. -/
structure Amended (finalizer : String) (o o' : Object k) : Prop where
  spec : o'.spec = o.spec
  metadata : o'.metadata.frame = o.metadata.frame
  guards : o'.metadata.guards.filter (· ≠ finalizer) = o.metadata.guards.filter (· ≠ finalizer)
  owners : o'.metadata.owners = o.metadata.owners ∨
    ∃ owner, o'.metadata.owners = o.metadata.owners ++ [owner]

variable {finalizer : String} {o o' : Object k}

theorem Amended.refl (finalizer : String) (o : Object k) : o.Amended finalizer o :=
  ⟨rfl, rfl, rfl, .inl rfl⟩

theorem Amended.generation (h : o.Amended finalizer o') :
    o'.metadata.generation = o.metadata.generation := by
  show o'.metadata.frame.generation = o.metadata.frame.generation
  rw [h.metadata]

/-- Scans keep their jobs: nothing that a lifecycle writes starts them anew. -/
theorem Amended.jobName {p p' : Policy} (h : p.Amended finalizer p') :
    TrivySpec.jobName p' = TrivySpec.jobName p := by
  funext scan
  have hname : p'.metadata.frame.displayName = p.metadata.frame.displayName := by rw [h.metadata]
  rw [TrivySpec.jobName, TrivySpec.jobName, Artifact.generation, Artifact.generation, h.generation]
  exact congrArg (Naming.scanJob · scan.name _) hname

/-- What a lifecycle writes: the object with other finalizers and owners, within the same bounds. -/
structure Edited (finalizer : String) (o x : Object k) : Prop where
  same : ∃ finalizers owners, x = { o with metadata := { o.metadata with
    finalizers := finalizers, ownerReferences := owners } }
  guards : x.metadata.guards.filter (· ≠ finalizer) = o.metadata.guards.filter (· ≠ finalizer)
  owners : x.metadata.owners = o.metadata.owners ∨
    ∃ owner, x.metadata.owners = o.metadata.owners ++ [owner]

theorem Edited.refl (finalizer : String) (o : Object k) : o.Edited finalizer o :=
  ⟨⟨_, _, rfl⟩, rfl, .inl rfl⟩

theorem Edited.key (h : o.Edited finalizer o') : o'.key = o.key := by
  obtain ⟨finalizers, owners, rfl⟩ := h.same
  exact key_congr rfl rfl

theorem Edited.resourceVersion (h : o.Edited finalizer o') :
    o'.metadata.resourceVersion = o.metadata.resourceVersion := by
  obtain ⟨finalizers, owners, rfl⟩ := h.same
  rfl

end Object

theorem Lifecycle.edited_unguarded {k : ResourceKind} (l : Lifecycle k) (o : Object k) :
    o.Edited l.finalizer (l.unguarded o) where
  same := ⟨_, _, rfl⟩
  guards := by
    rw [guards_unguarded, List.filter_filter]
    simp
  owners := .inl rfl

theorem Lifecycle.edited_guarded {k : ResourceKind} (l : Lifecycle k) (o : Object k) :
    o.Edited l.finalizer (l.guarded o) where
  same := ⟨_, _, rfl⟩
  guards := by
    rw [guards_guarded, List.filter_append]
    simp
  owners := .inl rfl

theorem PolicyLifecycle.edited_withOwner (finalizer : String) (p : Policy) (owner : OwnerReference) :
    p.Edited finalizer (withOwner p owner) where
  same := ⟨_, _, rfl⟩
  guards := rfl
  owners := .inr ⟨owner, rfl⟩

section
variable {m : Managed} {finalizer : String} {o x : Object m.kind}

theorem Object.Edited.amended_replacement (h : o.Edited finalizer x) {g : Int}
    (hg : o.metadata.generation = some g) (version : Nat) :
    o.Amended finalizer (Store.replacement o x version) where
  spec := by
    obtain ⟨finalizers, owners, rfl⟩ := h.same
    exact m.specWholeSeconds o.spec
  metadata := by
    obtain ⟨finalizers, owners, rfl⟩ := h.same
    simp [Store.replacement, Object.wholeSeconds, Metadata.frame, Metadata.wholeSeconds, hg,
      ResourceKind.sameSpec, Function.comp_def]
  guards := h.guards
  owners := h.owners

theorem amended_withStatus (o x : Object m.kind) (version : Nat) :
    o.Amended finalizer (Store.withStatus o x version) where
  spec := m.specWholeSeconds o.spec
  metadata := by
    simp [Store.withStatus, Object.wholeSeconds, Metadata.frame, Metadata.wholeSeconds,
      Function.comp_def]
  guards := rfl
  owners := .inl rfl

end

/-! ## Amended clusters -/

namespace Cluster

variable {s : Snapshot} {c c' c'' : Cluster}

/-- Of the managed objects the one that the snapshot was taken of is amended at most, and only where
it is stored as in the snapshot. -/
structure Amends (s : Snapshot) (c c' : Cluster) : Prop where
  others : ∀ (m : Managed) key, (m = s.of → s.object.key ≠ .ok key) →
    (c'.store m.kind).objects.get? key = (c.store m.kind).objects.get? key
  stale : ∀ key, s.object.key = .ok key →
    (c.store s.of.kind).objects.get? key ≠ some s.object →
    (c'.store s.of.kind).objects.get? key = (c.store s.of.kind).objects.get? key
  current : ∀ key o, s.object.key = .ok key →
    (c.store s.of.kind).objects.get? key = some s.object →
    (c'.store s.of.kind).objects.get? key = some o → s.object.Amended s.of.finalizer o

theorem Unmoved.amends (h : Unmoved c c') : Amends s c c' where
  others m key _ := by rw [(h m).1]
  stale key _ _ := by rw [(h s.of).1]
  current key o _ hstored ho := by
    rw [(h s.of).1, hstored] at ho
    cases ho
    exact .refl _ _

theorem Amends.trans (h : Amends s c c') (h' : Amends s c' c'') : Amends s c c'' where
  others m key hne := (h'.others m key hne).trans (h.others m key hne)
  stale key hkey hstale := by
    have hsame := h.stale key hkey hstale
    exact (h'.stale key hkey (hsame ▸ hstale)).trans hsame
  current key o hkey hstored ho := by
    by_cases hstill : (c'.store s.of.kind).objects.get? key = some s.object
    · exact h'.current key o hkey hstill ho
    · exact h.current key o hkey hstored (h'.stale key hkey hstill ▸ ho)

/-- The managed object of a known snapshot is amended at most. -/
def Amending (s : Snapshot) (c c' : Cluster) : Prop :=
  s.Known c → Advances c c' ∧ Amends s c c'

instance : IsPreorder Cluster (Amending s) where
  refl c _ := ⟨fun m => Std.Refl.refl (c.store m.kind),
    (Std.Refl.refl (r := Unmoved) c : Unmoved c c).amends⟩
  trans _ _ _ h h' hknown := by
    obtain ⟨hadvances, hamends⟩ := h hknown
    obtain ⟨hadvances', hamends'⟩ := h' (hknown.advances hadvances)
    exact ⟨fun m => (hadvances m).trans (hadvances' m), hamends.trans hamends'⟩

theorem Unmoved.amending (h : Unmoved c c') : Amending s c c' :=
  fun _ => ⟨h.spares.advances, h.amends⟩

/-- A write under the snapshot's key, where the snapshot is stored. -/
theorem Amends.of_get? {key : Key} {written : Store s.of.kind} {o? : Option (Object s.of.kind)}
    (hkey : s.object.key = .ok key)
    (hget : ∀ key', written.objects.get? key' =
      if key' = key then o? else (c.store s.of.kind).objects.get? key')
    (hstored : (c.store s.of.kind).objects.get? key = some s.object)
    (ho : ∀ o, o? = some o → s.object.Amended s.of.finalizer o) :
    Amends s c (c.setStore s.of.kind written) where
  others m key' hne := by
    by_cases hm : m = s.of
    · subst hm
      have hother : key' ≠ key := fun he => hne rfl (he ▸ hkey)
      rw [store_setStore, hget, if_neg hother]
    · rw [store_setStore_of_ne _ _ fun he => hm (Managed.kind_injective he)]
  stale key' hkey' hstale := by
    obtain rfl : key = key' := by simpa [hkey] using hkey'
    exact absurd hstored hstale
  current key' o hkey' _ hnow := by
    obtain rfl : key = key' := by simpa [hkey] using hkey'
    rw [store_setStore, hget, if_pos rfl] at hnow
    exact ho o hnow

end Cluster

namespace ClusterM

open Cluster

variable {m : Managed} {o : Object m.kind}

/-- A replacement by the snapshot with other finalizers and owners. -/
theorem amending_replace {x : Object m.kind} (hx : o.Edited m.finalizer x) {g : Int}
    (hg : o.metadata.generation = some g) : Keeps (Amending ⟨m, o⟩) (replace x) := fun c => by
  refine ends_ofStore.2 ⟨fun o' written h hknown => ?_, fun _ _ => Std.Refl.refl c⟩
  obtain ⟨-, key, current, hkey, hcurrent, hversion, ho', -⟩ := Store.replace_eq_ok_iff.1 h
  have hkey' : o.key = .ok key := hx.key ▸ hkey
  rw [hx.resourceVersion] at hversion
  obtain rfl : current = o := hknown.eq_of_accepted hkey' hcurrent hversion
  refine ⟨advances_setStore (Store.advanced_replace h),
    .of_get? hkey' (Store.get?_replace h hkey) hcurrent fun next hnext => ?_⟩
  obtain rfl := Store.eq_of_remaining hnext
  rw [ho']
  exact hx.amended_replacement hg _

/-- A write of the snapshot's status. -/
theorem amending_replaceStatus (status : Option m.kind.Status) :
    Keeps (Amending ⟨m, o⟩) (replaceStatus { o with status := status }) := fun c => by
  refine ends_ofStore.2 ⟨fun o' written h hknown => ?_, fun _ _ => Std.Refl.refl c⟩
  obtain ⟨-, key, current, hkey, hcurrent, hversion, ho', -⟩ := Store.replaceStatus_eq_ok_iff.1 h
  have hkey' : o.key = .ok key := (Object.key_congr rfl rfl).trans hkey
  obtain rfl : current = o := hknown.eq_of_accepted hkey' hcurrent hversion
  refine ⟨advances_setStore (Store.advanced_replaceStatus h),
    .of_get? hkey' (Store.get?_replaceStatus h hkey) hcurrent fun next hnext => ?_⟩
  cases hnext
  rw [ho']
  exact amended_withStatus _ _ _

end ClusterM

/-! ## Over the platform -/

namespace Platform

/-- Nobody else writes managed objects while the operator waits. -/
def Exclusive (pl : Platform) : Prop :=
  ∀ due f, (due, .change f) ∈ pl.agenda → ∀ c, Cluster.Unmoved c (f c)

def Amending (s : Snapshot) (pl pl' : Platform) : Prop :=
  pl.Exclusive → pl'.Exclusive ∧ Cluster.Amending s pl.cluster pl'.cluster

variable {s : Snapshot} {pl pl' : Platform}

instance : IsPreorder Platform (Amending s) where
  refl pl h := ⟨h, Std.Refl.refl (r := Cluster.Amending s) pl.cluster⟩
  trans _ _ _ h h' hx := by
    obtain ⟨hx₁, h₁⟩ := h hx
    obtain ⟨hx₂, h₂⟩ := h' hx₁
    exact ⟨hx₂, IsTrans.trans (r := Cluster.Amending s) _ _ _ h₁ h₂⟩

theorem Unmoved.amending (h : Unmoved pl pl') : Amending s pl pl' := fun hx =>
  ⟨fun due f he => hx due f (h.1 ▸ he), h.2.amending⟩

theorem amending_happen {e : OutsideEvent}
    (he : ∀ f, e = .change f → ∀ c, Cluster.Unmoved c (f c)) :
    Amending s pl (pl.happen e) := by
  cases e with
  | cancel => exact fun hx => ⟨hx, Std.Refl.refl (r := Cluster.Amending s) pl.cluster⟩
  | change f => exact fun hx => ⟨hx, (he f rfl pl.cluster).amending⟩

theorem amending_passUntil (pl : Platform) (reading : Duration) :
    Amending s pl (pl.passUntil reading) := fun hx => by
  obtain ⟨waiting, hwaiting, hpass⟩ := follows_passUntil (R := Amending s)
    (fun _ _ => amending_happen) pl reading fun e he f hf => hx e.1 f (hf ▸ he)
  exact hpass fun due f he => hx due f (hwaiting _ he)

end Platform

namespace PlatformM

variable {s : Snapshot}

theorem amending_onCluster {x : ClusterM α} (hx : Keeps (Cluster.Amending s) x) :
    Keeps (Platform.Amending s) (onCluster x) :=
  keeps_onCluster hx fun _ _ h hexclusive => ⟨hexclusive, h⟩

theorem amending_of_unmoved {x : PlatformM α} (hx : Keeps Platform.Unmoved x) :
    Keeps (Platform.Amending s) x :=
  hx.mono fun _ _ h => h.amending

end PlatformM

/-! ## The lifecycles -/

open PlatformM

/-- The steps that are the same in both lifecycles. -/
theorem amending_drive {m : Managed} {l : Lifecycle m.kind} {o : Object m.kind} {g : Int}
    (hfinalizer : l.finalizer = m.finalizer) (hg : o.metadata.generation = some g)
    (hcleanup : Keeps Platform.Unmoved (l.cleanup o))
    (hlink : Keeps (Platform.Amending ⟨m, o⟩) (l.link o >>= fun linked =>
      discard (onCluster (ClusterM.replace linked))))
    (hdisable : Keeps (Platform.Amending ⟨m, o⟩) (l.disable o))
    (hsync : Keeps (Platform.Amending ⟨m, o⟩) (l.sync o)) :
    Keeps (Platform.Amending ⟨m, o⟩) (l.drive o) := by
  have hreplace : ∀ {x : Object m.kind}, o.Edited l.finalizer x →
      Keeps (Platform.Amending ⟨m, o⟩) (onCluster (ClusterM.replace x)) :=
    fun hx => amending_onCluster (ClusterM.amending_replace (hfinalizer ▸ hx) hg)
  exact Lifecycle.keeps_drive (amending_of_unmoved hcleanup) (hreplace (l.edited_unguarded o))
    (hreplace (l.edited_guarded o)) hlink hdisable hsync

namespace ToolLifecycle

variable {t : Tool}

theorem amending_publish (status : ToolStatus) :
    Keeps (Platform.Amending ⟨.tool, t⟩) (publish t status) :=
  keeps_publish (amending_onCluster (ClusterM.amending_replaceStatus (m := .tool) _))

theorem amending_waitHealthy (settings : ToolSettings) :
    Keeps (Platform.Amending ⟨.tool, t⟩) (Package.waitHealthy settings t) :=
  Package.keeps_waitHealthy (amending_of_unmoved (Package.unmoved_checkHealth t))
    (keeps_pause Platform.amending_passUntil)

theorem amending_drive (settings : ToolSettings) {g : Int} (hg : t.metadata.generation = some g) :
    Keeps (Platform.Amending ⟨.tool, t⟩) ((Lifecycle.tool settings).drive t) :=
  PolicyOperator.amending_drive (m := .tool) rfl hg (unmoved_cleanup t)
    (amending_onCluster (ClusterM.amending_replace (m := .tool) (.refl _ t) hg)).discard
    (keeps_disable (amending_of_unmoved (unmoved_cleanup t)) amending_publish)
    (keeps_sync (amending_of_unmoved (Package.unmoved_ensureInstalled settings t))
      (amending_waitHealthy settings) (amending_of_unmoved (Package.unmoved_releaseVersion t))
      amending_publish)

end ToolLifecycle

namespace PolicyLifecycle

variable {p : Policy} {key : Key}

theorem amending_publish (status : PolicyStatus) :
    Keeps (Cluster.Amending ⟨.policy, p⟩) (publish p status) :=
  keeps_publish (ClusterM.amending_replaceStatus (m := .policy) _)

theorem amending_link {g : Int} (hg : p.metadata.generation = some g) :
    Keeps (Platform.Amending ⟨.policy, p⟩) (onCluster (link p) >>= fun linked =>
      discard (onCluster (ClusterM.replace linked))) := fun pl => by
  rw [ends_bind, ends_onCluster]
  refine (ends_withOwner p pl.cluster).mono (fun linked c ⟨hc, owner, hlinked⟩ => ?_)
    fun _ c hc => ?_
  · subst hc hlinked
    exact (amending_onCluster (ClusterM.amending_replace (m := .policy)
      (edited_withOwner _ p owner) hg)).discard pl
  · subst hc
    exact Std.Refl.refl (r := Platform.Amending ⟨.policy, p⟩) pl

theorem unmoved_reconcile (kind : ToolKind) (hkey : p.key = .ok key) :
    Keeps Cluster.Unmoved (Engine.reconcile kind p) :=
  (Engine.keeps_reworked_reconcile kind hkey).mono fun _ _ h =>
    h.confined.unmoved fun m => by simp [kind_ne_artifact]

theorem unmoved_ensureReport (desired : PolicyReport) :
    Keeps Cluster.Unmoved (ensureReport desired) :=
  (confined_ensureReport desired).mono fun _ _ h =>
    h.unmoved fun m => by simp [kind_ne_policyReport]

theorem amending_drive {g : Int} (hkey : p.key = .ok key) (hg : p.metadata.generation = some g) :
    Keeps (Platform.Amending ⟨.policy, p⟩) (Lifecycle.policy.drive p) :=
  PolicyOperator.amending_drive (m := .policy) rfl hg (unmoved_onCluster (unmoved_cleanup p))
    (amending_link hg)
    (amending_onCluster (keeps_disable ((unmoved_cleanup p).mono fun _ _ h => h.amending)
      amending_publish))
    (keeps_sync (fun kind => amending_of_unmoved (unmoved_onCluster (unmoved_reconcile kind hkey)))
      (fun desired => amending_of_unmoved (unmoved_onCluster (unmoved_ensureReport desired)))
      fun status => amending_onCluster (amending_publish status))

end PolicyLifecycle

/-! ## The drive -/

/-- The store answered the snapshot to one of the requests that led to it. -/
def Snapshot.Returned (s : Snapshot) (c : Cluster) : Prop :=
  (c.store s.of.kind).Returned s.object

/-- Whatever snapshot a drive is given and however it ends: if the object is still stored, it is
amended at most, and no other managed object changed. Where something else than the snapshot is
stored nothing changes at all. -/
theorem amends_drive (settings : ToolSettings) {s : Snapshot} {pl : Platform}
    (hs : s.Returned pl.cluster) (hexclusive : pl.Exclusive) :
    Cluster.Amends s pl.cluster ((s.of.lifecycle settings).drive s.object pl).2.cluster := by
  obtain ⟨m, o⟩ := s
  have hknown : Snapshot.Known ⟨m, o⟩ pl.cluster := Store.Returned.known hs
  obtain ⟨key, hkey⟩ := hknown.filed
  obtain ⟨g, hg⟩ := Store.Returned.counted hs
  have hdrive : Keeps (Platform.Amending ⟨m, o⟩) ((m.lifecycle settings).drive o) := by
    cases m with
    | tool => exact ToolLifecycle.amending_drive settings hg
    | policy => exact PolicyLifecycle.amending_drive hkey hg
  exact ((hdrive.state pl hexclusive).2 hknown).2

namespace Amended

/-! ## A policy with another finalizer -/

def policy : Policy where
  metadata := { name := some "shells", ns := some "shop", finalizers := some ["shop/audit"] }
  spec := { type := "falco", enabled := true }

def key : Key := ⟨"shop", "shells"⟩

/-- The policy is created and read by the operator. -/
def policies : Store .policy := Store.serve {} ([.create ⟨60, 5⟩ policy] ++ .get key :: [])

def platform : Platform := { cluster := { policies := policies } }

/-- The policy as the operator read it. -/
def read : Policy := Store.created policy ⟨60, 5⟩ 1

/-- The cluster after the policy was driven. -/
def driven : Cluster := (Lifecycle.policy.drive read platform).2.cluster

end Amended

/-- The policy gets the finalizer of the lifecycle behind the one that it has. -/
theorem amends_sample :
    (Snapshot.Returned ⟨.policy, Amended.read⟩ Amended.platform.cluster ∧
      Amended.platform.Exclusive) ∧
    Cluster.Amends ⟨.policy, Amended.read⟩ Amended.platform.cluster Amended.driven ∧
    (Amended.driven.policies.objects.get? Amended.key).map (·.metadata.guards) =
      some ["shop/audit", PolicyLifecycle.finalizer] := by
  have hreturned : Snapshot.Returned ⟨.policy, Amended.read⟩ Amended.platform.cluster :=
    ⟨_, _, _, List.mem_singleton.2 rfl, rfl⟩
  have hexclusive : Amended.platform.Exclusive := fun _ _ he => by cases he
  exact ⟨⟨hreturned, hexclusive⟩, amends_drive {} hreturned hexclusive, rfl⟩

end PolicyOperator
