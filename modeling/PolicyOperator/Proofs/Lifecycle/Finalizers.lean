import PolicyOperator.Proofs.Lifecycle.Hooks

/-!
# The finalizer guards the cleanup

A `World` is a platform with what is remembered outside of it: the snapshots that stores answered,
and the calls of the operator that have cleaned up and are yet to take the finalizer away. In each
`Turn` others act, or the operator drives a snapshot, however old it is. A finalization may also be
interrupted between its cleanup and its write. The other writes of a drive are such as others may
make too, so what happens when it is interrupted elsewhere is a sequence of acts.

The theorem (`kept_or_finalized`) says of every turn in every run that an object with its finalizer
is kept, unless the turn ends the finalization of exactly that object, after a cleanup that
succeeded; and that a failed cleanup leaves all managed objects as they were. What carries it is
that a snapshot with the version of the stored object is the stored object (`Inv.known`).
-/

namespace PolicyOperator.Finalizers

open Cluster

variable {settings : ToolSettings}

structure World where
  platform : Platform := {}
  /-- The snapshots that stores have answered. -/
  seen : List Snapshot := []
  /-- The finalizations that have cleaned up and not written yet. -/
  cleaned : List Snapshot := []

inductive Turn where
  /-- Others write or read. -/
  | act
  /-- Writes or charts are made to fail or to work again, or time passes. -/
  | elsewhere
  /-- The operator drives a snapshot and gets an answer. -/
  | drive (s : Snapshot) (answer : Except Error Transition)
  /-- A finalization begins with its cleanup. -/
  | cleanUp (s : Snapshot) (answer : Except Error Unit)
  /-- A finalization ends with its write. -/
  | letGo (s : Snapshot)

/-- The step that the snapshot is up for. -/
def step (settings : ToolSettings) (s : Snapshot) : Step :=
  ((s.of.lifecycle settings).observe s.object).step

def cleanup (settings : ToolSettings) (s : Snapshot) : PlatformM Unit :=
  (s.of.lifecycle settings).cleanup s.object

/-- What a turn makes of a world. -/
inductive Takes (settings : ToolSettings) : World → Turn → World → Prop
  | act {w : World} {answer : Option Snapshot} {c : Cluster} : Act w.platform.cluster answer c →
      Takes settings w .act { w with
        platform := { w.platform with cluster := c }
        seen := answer.toList ++ w.seen }
  | elsewhere {w : World} {pl : Platform} : Unmoved w.platform.cluster pl.cluster → pl.Tended →
      Takes settings w .elsewhere { w with platform := pl }
  | drive {w : World} {s : Snapshot} {answer : Except Error Transition} {pl : Platform} :
      s ∈ w.seen → (s.of.lifecycle settings).drive s.object w.platform = (answer, pl) →
      Takes settings w (.drive s answer) { w with platform := pl }
  | cleanedUp {w : World} {s : Snapshot} {pl : Platform} :
      s ∈ w.seen → step settings s = .finalize → cleanup settings s w.platform = (.ok (), pl) →
      Takes settings w (.cleanUp s (.ok ())) { w with platform := pl, cleaned := s :: w.cleaned }
  | cleanUpFailed {w : World} {s : Snapshot} {e : Error} {pl : Platform} :
      s ∈ w.seen → step settings s = .finalize → cleanup settings s w.platform = (.error e, pl) →
      Takes settings w (.cleanUp s (.error e)) { w with platform := pl }
  | letGo {w : World} {s : Snapshot} {before after : List Snapshot}
      {r : Except Error (Object s.of.kind)} {c : Cluster} : w.cleaned = before ++ s :: after →
      ClusterM.replace ((s.of.lifecycle settings).unguarded s.object) w.platform.cluster = (r, c) →
      Takes settings w (.letGo s) { w with
        platform := { w.platform with cluster := c }
        cleaned := before ++ after }

/-- A sequence of turns, the latest first. -/
inductive Run (settings : ToolSettings) (w₀ : World) : List Turn → World → Prop
  | start : Run settings w₀ [] w₀
  | step {history : List Turn} {w w' : World} {turn : Turn} : Run settings w₀ history w →
      Takes settings w turn w' → Run settings w₀ (turn :: history) w'

/-- Stores keep to their keys and versions, others are only going to act, and nothing is
remembered. -/
structure Initial (w : World) : Prop where
  numbered : w.platform.cluster.Numbered
  tended : w.platform.Tended
  seen : w.seen = []
  cleaned : w.cleaned = []

/-- The turn ends the finalization of the snapshot. The cleanup of that call succeeded, in the same
turn or in an earlier one. -/
inductive Finalizes (settings : ToolSettings) (history : List Turn) (w : World) :
    Turn → Snapshot → Prop
  | drive {s : Snapshot} {pl : Platform} : step settings s = .finalize →
      cleanup settings s w.platform = (.ok (), pl) →
      Finalizes settings history w (.drive s (.ok .finalized)) s
  | letGo {s : Snapshot} : step settings s = .finalize → s ∈ w.cleaned →
      .cleanUp s (.ok ()) ∈ history → Finalizes settings history w (.letGo s) s

variable {w₀ w w' : World} {history : List Turn} {turn : Turn} {s : Snapshot}

/-- The invariant: what was seen is known to the stores, and what is about to be let go was cleaned
up. -/
structure Inv (settings : ToolSettings) (history : List Turn) (w : World) : Prop where
  numbered : w.platform.cluster.Numbered
  tended : w.platform.Tended
  known : ∀ s ∈ w.seen, s.Known w.platform.cluster
  cleaned : ∀ s ∈ w.cleaned, s ∈ w.seen ∧ step settings s = .finalize ∧
    .cleanUp s (.ok ()) ∈ history

theorem Initial.inv (h : Initial w) : Inv settings [] w where
  numbered := h.numbered
  tended := h.tended
  known s hs := by simp [h.seen] at hs
  cleaned s hs := by simp [h.cleaned] at hs

theorem Inv.hooks (h : Inv settings history w) (hs : s ∈ w.seen) :
    Hooks (s.of.lifecycle settings) s.object := by
  obtain ⟨key, hkey⟩ := (h.known s hs).filed
  exact PolicyOperator.hooks settings s.of hkey

/-- A cleanup leaves managed objects alone, however it ends. -/
theorem Inv.unmoved_cleanup (h : Inv settings history w) (hs : s ∈ w.seen)
    {r : Except Error Unit} {pl : Platform} (hc : cleanup settings s w.platform = (r, pl)) :
    Platform.Unmoved w.platform pl := by
  have hu := (h.hooks hs).cleanup.state w.platform
  rwa [show (s.of.lifecycle settings).cleanup s.object w.platform = (r, pl) from hc] at hu

/-! ## One turn -/

/-- Taking the finalizer away, wherever the cluster has got to since the snapshot. -/
theorem sparesBut_of_unguard {c c' : Cluster} {l : Lifecycle s.of.kind}
    {r : Except Error (Object s.of.kind)} (hknown : s.Known c)
    (h : ClusterM.replace (l.unguarded s.object) c = (r, c')) :
    Spares c c' ∨ SparesBut s c c' ∧ ∃ o, r = .ok o := by
  have hends := ends_unguard (l := l) hknown
  cases r with
  | ok o => exact .inr ⟨hends.ok h, o, rfl⟩
  | error e =>
    rw [hends.error h]
    exact .inl (Std.Refl.refl (r := Spares) c)

/-- A drive keeps everything that carries its finalizer, but for what it finalizes. -/
theorem Inv.drive (h : Inv settings history w) (hs : s ∈ w.seen)
    {answer : Except Error Transition} {pl : Platform}
    (hd : (s.of.lifecycle settings).drive s.object w.platform = (answer, pl)) :
    pl.Tended ∧ (Spares w.platform.cluster pl.cluster ∨
      SparesBut s w.platform.cluster pl.cluster ∧
        Finalizes settings history w (.drive s answer) s) := by
  by_cases hstep : step settings s = .finalize
  · rcases hc : cleanup settings s w.platform with ⟨e | u, pl₁⟩
    · rw [(h.hooks hs).drive_of_cleanup_error (.inl hstep) hc] at hd
      cases hd
      exact (h.unmoved_cleanup hs hc).spares h.tended |>.imp_right .inl
    · have hunmoved := h.unmoved_cleanup hs hc
      obtain ⟨htended, hspares⟩ := hunmoved.spares h.tended
      rcases hr : ClusterM.replace ((s.of.lifecycle settings).unguarded s.object) pl₁.cluster
        with ⟨r, c⟩
      rw [drive_of_cleanup_ok hstep hc hr] at hd
      cases hd
      refine ⟨htended, ?_⟩
      obtain hkept | ⟨hbut, o, rfl⟩ :=
        sparesBut_of_unguard ((h.known s hs).advances hspares.advances) hr
      · exact .inl (IsTrans.trans _ _ _ hspares hkept)
      · exact .inr ⟨hunmoved.2.sparesBut hbut, .drive hstep hc⟩
  · have hspares := ((h.hooks hs).spares_drive hstep).state w.platform h.tended
    rw [hd] at hspares
    exact hspares.imp_right .inl

/-- Every turn keeps everything that carries its finalizer, but for what it finalizes. -/
theorem Inv.takes (h : Inv settings history w) (ht : Takes settings w turn w') :
    w'.platform.Tended ∧ (Spares w.platform.cluster w'.platform.cluster ∨
      ∃ s, SparesBut s w.platform.cluster w'.platform.cluster ∧
        Finalizes settings history w turn s) := by
  cases ht with
  | act hact => exact ⟨h.tended, .inl hact.spares⟩
  | elsewhere hunmoved htended => exact ⟨htended, .inl hunmoved.spares⟩
  | drive hs hd => exact (h.drive hs hd).imp_right (.imp_right fun hbut => ⟨_, hbut⟩)
  | cleanedUp hs _ hc | cleanUpFailed hs _ hc =>
    exact (h.unmoved_cleanup hs hc).spares h.tended |>.imp_right .inl
  | @letGo s _ _ _ _ hcleaned hr =>
    have hmem : s ∈ w.cleaned := by simp [hcleaned]
    obtain ⟨hs, hstep, hup⟩ := h.cleaned s hmem
    refine ⟨h.tended, (sparesBut_of_unguard (h.known s hs) hr).imp_right fun hbut => ?_⟩
    exact ⟨s, hbut.1, .letGo hstep hmem hup⟩

theorem Inv.advances (h : Inv settings history w) (ht : Takes settings w turn w') :
    Advances w.platform.cluster w'.platform.cluster := by
  obtain ⟨-, hspares | ⟨s, hbut, -⟩⟩ := h.takes ht
  · exact hspares.advances
  · exact hbut.advances

/-- Every turn keeps the invariant. -/
theorem Inv.after (h : Inv settings history w) (ht : Takes settings w turn w') :
    Inv settings (turn :: history) w' := by
  have hadvances := h.advances ht
  have known : ∀ s ∈ w.seen, s.Known w'.platform.cluster := fun s hs =>
    (h.known s hs).advances hadvances
  have cleaned : ∀ s ∈ w.cleaned, s ∈ w.seen ∧ step settings s = .finalize ∧
      .cleanUp s (.ok ()) ∈ turn :: history := fun s hs =>
    have ⟨hseen, hstep, hup⟩ := h.cleaned s hs
    ⟨hseen, hstep, List.mem_cons_of_mem _ hup⟩
  refine ⟨h.numbered.advances hadvances, (h.takes ht).1, ?_, ?_⟩
  · cases ht with
    | act hact =>
      intro s hs
      obtain hs | hs := List.mem_append.1 hs
      · exact hact.known h.numbered (Option.mem_toList.1 hs)
      · exact known s hs
    | _ => exact known
  · cases ht with
    | act =>
      intro s hs
      obtain ⟨hseen, hrest⟩ := cleaned s hs
      exact ⟨List.mem_append_right _ hseen, hrest⟩
    | cleanedUp hseen hstep =>
      intro s hs
      obtain rfl | hs := List.mem_cons.1 hs
      · exact ⟨hseen, hstep, List.mem_cons_self⟩
      · exact cleaned s hs
    | @letGo _ before after _ _ hcleaned =>
      intro s hs
      refine cleaned s ?_
      rw [hcleaned]
      exact List.mem_append.2 ((List.mem_append.1 hs).imp_right (List.mem_cons_of_mem _))
    | _ => exact cleaned

/-! ## Every run -/

theorem Run.inv (h : Run settings w₀ history w) (hstart : Initial w₀) : Inv settings history w := by
  induction h with
  | start => exact hstart.inv
  | step _ ht ih => exact ih.after ht

/-- An object that carries its finalizer is kept and goes on carrying it, unless the turn ends the
finalization of a snapshot that is the object as it is stored, and the cleanup of that very call
succeeded. A call whose cleanup fails leaves all managed objects as they were, and nothing of it
remains to be done. -/
theorem kept_or_finalized (hstart : Initial w₀) (hrun : Run settings w₀ history w)
    (hturn : Takes settings w turn w') :
    (∀ (m : Managed) key o, (w.platform.cluster.store m.kind).objects.get? key = some o →
        m.finalizer ∈ o.metadata.guards →
        Kept m key o w'.platform.cluster ∨ Finalizes settings history w turn ⟨m, o⟩) ∧
      (∀ s answer e pl, turn = .drive s answer →
        step settings s = .finalize ∨ step settings s = .disable →
        cleanup settings s w.platform = (.error e, pl) →
        answer = .error e ∧ Unmoved w.platform.cluster w'.platform.cluster) ∧
      ∀ s e, turn = .cleanUp s (.error e) →
        Unmoved w.platform.cluster w'.platform.cluster ∧ w'.cleaned = w.cleaned := by
  have hinv := hrun.inv hstart
  refine ⟨fun m key o ho hf => ?_, fun s answer e pl hdrive hstep hc => ?_, fun s e hup => ?_⟩
  · obtain ⟨-, hspares | ⟨s, hbut, hfinalizes⟩⟩ := hinv.takes hturn
    · exact .inl ((hspares m).kept key o ho hf)
    · refine (hbut.kept m key o ho hf).imp_right ?_
      rintro rfl
      exact hfinalizes
  · subst hdrive
    cases hturn with
    | drive hs hd =>
      rw [(hinv.hooks hs).drive_of_cleanup_error hstep hc] at hd
      cases hd
      exact ⟨rfl, (hinv.unmoved_cleanup hs hc).2⟩
  · subst hup
    cases hturn with
    | cleanUpFailed hs _ hc => exact ⟨(hinv.unmoved_cleanup hs hc).2, rfl⟩

/-! ## A small run -/

namespace Sample

def key : Key := ⟨"shop", "shells"⟩

def policy : Policy where
  metadata := {
    name := some "shells"
    ns := some "shop"
    finalizers := some [PolicyLifecycle.finalizer] }
  spec := { type := "falco", enabled := true }

def created : Cluster := (ClusterM.create policy {}).2

/-- The cluster with the policy marked for deletion. -/
def marked : Cluster := (ClusterM.delete .policy key.ns key.name created).2

def snapshot : Snapshot := ⟨.policy, (marked.policies.objects.get? key).getD policy⟩

end Sample

/-- A deletion that is read, cleaned up and written in three turns. -/
theorem kept_or_finalized_sample : ∃ history w w',
    Run {} {} history w ∧ Takes {} w (.letGo Sample.snapshot) w' ∧
      (w'.platform.cluster.store .policy).objects.get? Sample.key = none ∧
      Finalizes {} history w (.letGo Sample.snapshot) Sample.snapshot := by
  have hstart : Initial {} := by
    refine ⟨fun m => ?_, fun _ _ h => ?_, rfl, rfl⟩
    · cases m <;> exact Store.numbered_empty
    · cases h
  have hempty : Run {} {} [] {} := .start
  have hread := ((hempty.step (.act (.create {} .policy Sample.policy))).step
    (.act (.delete Sample.created .policy Sample.key))).step
    (.act (.read Sample.marked .policy Sample.key Sample.snapshot.object rfl))
  have hrun := hread.step (.cleanedUp List.mem_cons_self rfl rfl)
  have letGo : ∀ {history : List Turn} {w : World}, Run {} {} history w →
      w.cleaned = [Sample.snapshot] → ∃ w', Takes {} w (.letGo Sample.snapshot) w' ∧
        w'.platform.cluster = (ClusterM.replace (Lifecycle.policy.unguarded
          Sample.snapshot.object) w.platform.cluster).2 := fun _ hcleaned =>
    ⟨_, @Takes.letGo _ _ Sample.snapshot [] [] _ _ hcleaned rfl, rfl⟩
  obtain ⟨w', hturn, hw'⟩ := letGo hrun rfl
  have hgone : (w'.platform.cluster.store .policy).objects.get? Sample.key = none := by
    rw [hw']
    rfl
  refine ⟨_, _, _, hrun, hturn, hgone, ?_⟩
  exact ((kept_or_finalized hstart hrun hturn).1 .policy Sample.key Sample.snapshot.object rfl
    (by decide)).resolve_left fun ⟨_, ho, _⟩ => by cases hgone.symm.trans ho

end PolicyOperator.Finalizers
