import PolicyOperator.Proofs.Lifecycle.Shown

/-!
# The two healths of a tool

The status of a tool says twice how the tool is: `healthy` is a field, and one of its conditions is
`Ready`. They are not written alike. A sync and a disabling set both, and a drive that fails only
turns the condition (`failedStatus`). So they tell two stories of a run (`Tells`):

* `healthy` is what the last sync or disabling found, whatever failed since (`works`),
* `Ready` is true if that was good and no failure was noted since (`failed`).

Hence a tool that is ready is healthy, and the converse holds exactly in the runs in which no
failure was noted after a sync that found the workload ready (`healthy_iff_ready_iff`). An edit that
makes the spec invalid is enough for one (`healthy_but_not_ready`).
-/

namespace PolicyOperator.ToolLifecycle.Health

open Platform

/-! ## Runs -/

/-- A drive of a tool, its answer, and the tool that was stored after it. -/
structure Drive where
  tool : Tool
  answer : Except Error Transition
  after : Option Tool

/-- What a drive noted on the status. -/
inductive Note where
  | synced (healthy : Bool)
  | disabled
  | failed
  deriving DecidableEq, Repr

/-- A drive that synced is to look again unless the workload was ready. One that failed noted that
if the status changed. -/
def Drive.note (d : Drive) : Option Note :=
  match d.answer with
  | .ok (.synced again) => some (.synced again.isNone)
  | .ok .disabled => some .disabled
  | .ok _ => none
  | .error _ =>
    if d.after.any fun t =>
      t.status.map ToolStatus.wholeSeconds ≠ d.tool.status.map ToolStatus.wholeSeconds
    then some .failed
    else none

/-- The last sync or disabling found the workload ready. -/
def works : List Drive → Bool
  | [] => false
  | d :: earlier =>
    match d.note with
    | some (.synced healthy) => healthy
    | some .disabled => false
    | some .failed | none => works earlier

/-- A failure was noted, and the tool neither synced nor disabled since. -/
def failed : List Drive → Bool
  | [] => false
  | d :: earlier =>
    match d.note with
    | some (.synced _) | some .disabled => false
    | some .failed => true
    | none => failed earlier

/-- Edits and drives of the tool under a key, and what happens elsewhere: to workloads, to the time,
to the failures that are switched on and off, to all but the status of the tool. The history holds
the drives, the latest first. -/
inductive Run (settings : ToolSettings) (key : Key) (pl₀ : Platform) : List Drive → Platform → Prop
  | start : Run settings key pl₀ [] pl₀
  | edit {history : List Drive} {pl : Platform} (t : Tool) : Run settings key pl₀ history pl →
      Run settings key pl₀ history { pl with cluster := (ClusterM.replace t pl.cluster).2 }
  | drive {history : List Drive} {pl : Platform} {t : Tool} : Run settings key pl₀ history pl →
      pl.cluster.tools.objects.get? key = some t →
      Run settings key pl₀
        (⟨t, ((Lifecycle.tool settings).drive t pl).1,
          ((Lifecycle.tool settings).drive t pl).2.cluster.tools.objects.get? key⟩ :: history)
        ((Lifecycle.tool settings).drive t pl).2
  | elsewhere {history : List Drive} {pl pl' : Platform} : Run settings key pl₀ history pl →
      pl'.SparesStatus key → Cluster.StatusKept key pl.cluster pl'.cluster →
      Run settings key pl₀ history pl'

section
variable {settings : ToolSettings} {key : Key} {history : List Drive} {d : Drive} {t : Tool}
  {status status' : Option ToolStatus} {answer : Except Error Transition} {pl pl₀ : Platform}

/-- The story that a status tells of a run. -/
structure Tells (history : List Drive) (status : Option ToolStatus) : Prop where
  healthy : (status.getD {}).healthy = works history
  ready : Condition.isTrue (status.getD {}).conditions Condition.ready =
    (works history && !failed history)
  sole : Condition.Sole Condition.ready (status.getD {}).conditions

/-- Fractions of a second are not part of the story. -/
theorem tells_wholeSeconds :
    Tells history (status.map ToolStatus.wholeSeconds) ↔ Tells history status := by
  cases status with
  | none => rfl
  | some s =>
    have hsole : Condition.Sole Condition.ready (s.conditions.map Condition.wholeSeconds) ↔
        Condition.Sole Condition.ready s.conditions := Condition.sole_map_wholeSeconds
    have hready : Condition.isTrue (s.conditions.map Condition.wholeSeconds) Condition.ready =
        Condition.isTrue s.conditions Condition.ready := Condition.isTrue_map_wholeSeconds
    exact ⟨fun h => ⟨h.healthy, hready ▸ h.ready, hsole.1 h.sole⟩,
      fun h => ⟨h.healthy, hready.trans h.ready, hsole.2 h.sole⟩⟩

theorem Tells.congr (h : Tells history status)
    (he : status.map ToolStatus.wholeSeconds = status'.map ToolStatus.wholeSeconds) :
    Tells history status' :=
  tells_wholeSeconds.1 (he ▸ tells_wholeSeconds.2 h)

/-- A drive that notes nothing leaves the story as it is. -/
theorem Tells.silent (h : Tells history status) (hnote : d.note = none) :
    Tells (d :: history) status where
  healthy := by rw [works, hnote, h.healthy]
  ready := by rw [works, failed, hnote, h.ready]
  sole := h.sole

/-- A finding on the tool is what the condition says then. -/
theorem Tells.record (h : Tells history d.tool.status) (healthy : Bool) (reason message : String)
    (now : Instant) :
    let conditions := Condition.record (finding d.tool healthy reason message) now
      (d.tool.status.getD {}).conditions
    Condition.isTrue conditions Condition.ready = healthy ∧ Condition.Sole Condition.ready conditions :=
  have hsole : Condition.Sole (finding d.tool healthy reason message).type
      (d.tool.status.getD {}).conditions := h.sole
  ⟨Condition.isTrue_record hsole now, Condition.sole_record hsole now⟩

/-- A failure turns the condition and nothing else. -/
theorem Tells.failed (h : Tells history d.tool.status) (hnote : d.note = some .failed)
    (reason : String) (e : Error) (now : Instant) :
    Tells (d :: history) (some (failedStatus d.tool reason e now)) where
  healthy := by rw [works, hnote]; exact h.healthy
  ready := by
    rw [works, Health.failed, hnote, Bool.not_true, Bool.and_false]
    exact (h.record false reason e.message now).1
  sole := (h.record false reason e.message now).2

/-- A sync sets both. -/
theorem Tells.synced (h : Tells history d.tool.status) {healthy : Bool}
    (hnote : d.note = some (.synced healthy)) (version : Option String) (now : Instant) :
    Tells (d :: history) (some (syncedStatus d.tool healthy version now)) where
  healthy := by rw [works, hnote]; rfl
  ready := by
    rw [works, Health.failed, hnote, Bool.not_false, Bool.and_true]
    cases healthy with
    | false => exact (h.record false _ _ now).1
    | true => exact (h.record true _ _ now).1
  sole := by
    cases healthy with
    | false => exact (h.record false _ _ now).2
    | true => exact (h.record true _ _ now).2

/-- Disabling sets both. -/
theorem Tells.disabled (h : Tells history d.tool.status) (hnote : d.note = some .disabled)
    (now : Instant) : Tells (d :: history) (some (disabledStatus d.tool now)) where
  healthy := by rw [works, hnote]; rfl
  ready := by
    rw [works, Health.failed, hnote]
    exact (h.record false _ _ now).1
  sole := (h.record false _ _ now).2

/-- An error notes nothing while the tool shows the status with which it was read. -/
theorem note_of_unchanged {e : Error} (h : Stands key t.status pl) :
    Drive.note ⟨t, .error e, pl.cluster.tools.objects.get? key⟩ = none := by
  have hsame : ∀ t', pl.cluster.tools.objects.get? key = some t' →
      t'.status.map ToolStatus.wholeSeconds = t.status.map ToolStatus.wholeSeconds :=
    fun t' ht' => (h.2 t' ht').2
  simp only [Drive.note]
  cases hafter : pl.cluster.tools.objects.get? key with
  | none => rfl
  | some t' => simp [hsame t' hafter]

/-- The tool shows the status with which it was read, unless an error was noted. -/
theorem note_or_unchanged {e : Error} {status : Option ToolStatus} (h : Stands key status pl) :
    Drive.note ⟨t, .error e, pl.cluster.tools.objects.get? key⟩ = some .failed ∨
      Stands key t.status pl := by
  simp only [Drive.note]
  cases hafter : pl.cluster.tools.objects.get? key with
  | none => exact .inr ⟨h.1, fun t' ht' => absurd ht' (by simp [hafter])⟩
  | some t' =>
    by_cases hsame : t'.status.map ToolStatus.wholeSeconds = t.status.map ToolStatus.wholeSeconds
    · exact .inr ⟨h.1, h.2.congr ((h.2 t' hafter).2.symm.trans hsame)⟩
    · exact .inl (by simp [hsame])

/-- Whatever status a drive tells, it goes on with the story that the tool told as it was read. -/
theorem Tells.drive (h : Tells history t.status) (hshown : Shown key t answer pl) :
    ∃ status, Stands key status pl ∧
      Tells (⟨t, answer, pl.cluster.tools.objects.get? key⟩ :: history) status := by
  obtain ⟨status, htold, hstands⟩ := hshown
  cases htold with
  | silent hdisabled hsynced =>
    refine ⟨t.status, hstands, h.silent ?_⟩
    cases answer with
    | error e => exact note_of_unchanged hstands
    | ok transition =>
      cases transition with
      | synced again => exact absurd rfl (hsynced again)
      | disabled => exact absurd rfl hdisabled
      | finalized | released | finalizerAdded | ownerLinked => rfl
  | failed reason now =>
    obtain hnote | hsame := note_or_unchanged (t := t) hstands
    · exact ⟨_, hstands, Tells.failed h hnote reason _ now⟩
    · exact ⟨t.status, hsame, h.silent (note_of_unchanged hsame)⟩
  | disabled now => exact ⟨_, hstands, Tells.disabled h rfl now⟩
  | synced version now hagain => exact ⟨_, hstands, Tells.synced h (by rw [← hagain]; rfl) version now⟩

/-- The tool tells the story of the run. -/
theorem Run.stands (hrun : Run settings key pl₀ history pl)
    (hstart : Stands key none pl₀) : ∃ status, Stands key status pl ∧ Tells history status := by
  induction hrun with
  | start => exact ⟨none, hstart, rfl, rfl, .nil⟩
  | edit t _ ih =>
    obtain ⟨status, hstands, htells⟩ := ih
    exact ⟨status, ⟨hstands.1, (ClusterM.statusKept_replace key t).state _ _ hstands.2⟩, htells⟩
  | elsewhere _ hspares hkept ih =>
    obtain ⟨status, hstands, htells⟩ := ih
    exact ⟨status, ⟨hspares, hkept _ hstands.2⟩, htells⟩
  | @drive history pl t _ ht ih =>
    obtain ⟨status, hstands, htells⟩ := ih
    obtain ⟨hkey, hstatus⟩ := hstands.2 t ht
    exact (htells.congr hstatus.symm).drive
      (shown_drive settings hkey ⟨hstands.1, hstands.2.congr hstatus.symm⟩)

/-- In every state that a run reaches from a tool without a status, the tool is healthy if it is
ready; and if it is healthy it is ready, unless a failure was noted since a sync found the workload
ready. -/
theorem healthy_iff_ready_iff {s : ToolStatus} (hspares : pl₀.SparesStatus key)
    (hnew : pl₀.cluster.Shows key none) (hrun : Run settings key pl₀ history pl)
    (ht : pl.cluster.tools.objects.get? key = some t) (hs : t.status = some s) :
    (Condition.isTrue s.conditions Condition.ready = true → s.healthy = true) ∧
      ((s.healthy = true ↔ Condition.isTrue s.conditions Condition.ready = true) ↔
        ¬ (works history = true ∧ failed history = true)) := by
  obtain ⟨status, hstands, htells⟩ := hrun.stands ⟨hspares, hnew⟩
  have htold := htells.congr (hstands.2 t ht).2.symm
  rw [hs] at htold
  have hhealthy : s.healthy = works history := htold.healthy
  have hready : Condition.isTrue s.conditions Condition.ready = (works history && !failed history) :=
    htold.ready
  rw [hhealthy, hready]
  cases works history <;> cases failed history <;> simp

end

/-! ## A tool whose workload is ready -/

namespace Sample

/-- Waits for no workload. -/
def settings : ToolSettings := { pollTimeout := .ofSeconds 0 }

def tool : Tool where
  metadata := { name := some "falco", ns := some "shop" }
  spec := { type := "falco", enabled := true }

def key : Key := ⟨"shop", "falco"⟩

def workload : DaemonSet where
  metadata := { name := some "falco", ns := some "falco" }
  spec := none
  status := some { desiredNumberScheduled := 2, numberReady := 2 }

def start : Platform := { cluster := (ClusterM.create tool {}).2 }

/-- The tool as it is stored. -/
def stored (pl : Platform) : Tool := (pl.cluster.tools.objects.get? key).getD tool

/-- The platform after the stored tool was driven. -/
def driven (pl : Platform) : Platform := ((Lifecycle.tool settings).drive (stored pl) pl).2

/-- That drive. -/
def drive (pl : Platform) : Drive :=
  ⟨stored pl, ((Lifecycle.tool settings).drive (stored pl) pl).1,
    (driven pl).cluster.tools.objects.get? key⟩

/-- The tool has its finalizer, and its workload got ready. -/
def prepared : Platform :=
  { driven start with cluster := (ClusterM.create workload (driven start).cluster).2 }

def deployed : Platform := driven prepared

/-- Upgrades fail from now on, or work again. -/
def upgradesFail (pl : Platform) (fail : Bool) : Platform :=
  { pl with book := { pl.book with failing := if fail then [.upgrade] else [] } }

/-- The platform after a drive that could not upgrade. -/
def broken : Platform := driven (upgradesFail deployed true)

/-- The platform after one that could. -/
def recovered : Platform := driven (upgradesFail broken false)

def history : List Drive :=
  [drive (upgradesFail broken false), drive (upgradesFail deployed true), drive prepared,
    drive start]

/-- An edit with values that no chart takes. -/
def edit : Tool :=
  { stored deployed with
    spec := { tool.spec with values := some (.arr [.str "not", .str "a", .str "mapping"]) } }

def edited : Platform :=
  { deployed with cluster := (ClusterM.replace edit deployed.cluster).2 }

theorem stands_start : Stands key none start := by
  refine ⟨fun _ _ h => (nomatch h), fun t ht => ?_⟩
  obtain rfl : Store.created tool ⟨0, 0⟩ 1 = t := Option.some.inj ht
  exact ⟨rfl, rfl⟩

theorem run_deployed : Run settings key start [drive prepared, drive start] deployed := by
  have hguarded : Run settings key start [drive start] (driven start) :=
    .drive (t := stored start) .start rfl
  have hprepared : Run settings key start [drive start] prepared :=
    hguarded.elsewhere (fun _ _ h => (nomatch h)) (Cluster.statusKept_of_same rfl)
  exact .drive (t := stored prepared) hprepared rfl

theorem run_recovered : Run settings key start history recovered := by
  have hspares : ∀ {pl : Platform}, pl.agenda.isEmpty → pl.SparesStatus key := fun h _ _ he => by
    rw [List.isEmpty_iff.1 h] at he
    cases he
  have hbroken : Run settings key start [drive (upgradesFail deployed true), drive prepared,
      drive start] broken :=
    .drive (t := stored (upgradesFail deployed true))
      (run_deployed.elsewhere (hspares rfl) (Cluster.statusKept_of_same rfl)) rfl
  have hstored : broken.cluster.tools.objects.get? key = some (stored broken) := by decide +kernel
  exact .drive (t := stored (upgradesFail broken false))
    (hbroken.elsewhere (hspares (by decide +kernel)) (Cluster.statusKept_of_same rfl)) hstored

/-- The status as it is stored. -/
def status (pl : Platform) : ToolStatus := (stored pl).status.getD {}

end Sample

open Health.Sample

/-- The tool is healthy and ready again after an upgrade that failed. -/
theorem healthy_iff_ready_sample :
    Run settings key start history recovered ∧
      recovered.cluster.tools.objects.get? key = some (stored recovered) ∧
      (stored recovered).status = some (status recovered) ∧
      ((status recovered).healthy = true ↔
        Condition.isTrue (status recovered).conditions Condition.ready = true) := by
  have hstored : recovered.cluster.tools.objects.get? key = some (stored recovered) := by
    decide +kernel
  have hstatus : (stored recovered).status = some (status recovered) := by decide +kernel
  have hfailed : failed history = false := by decide +kernel
  refine ⟨run_recovered, hstored, hstatus, ?_⟩
  have hiff := (healthy_iff_ready_iff stands_start.1 stands_start.2 run_recovered hstored hstatus).2
  exact hiff.2 (by simp [hfailed])

/-- After an edit that makes it invalid the tool goes on being healthy and active, while it is not
ready. -/
theorem healthy_but_not_ready :
    Stands key none start ∧
      Run settings key start [drive edited, drive prepared, drive start] (driven edited) ∧
      (driven edited).cluster.tools.objects.get? key = some (stored (driven edited)) ∧
      (stored (driven edited)).status = some (status (driven edited)) ∧
      (status (driven edited)).healthy = true ∧
      Condition.isTrue (status (driven edited)).conditions Condition.ready = false ∧
      ((Lifecycle.tool settings).observe (stored (driven edited))).state = .active := by
  have hedited : Run settings key start [drive prepared, drive start] edited :=
    run_deployed.edit edit
  have hstored : edited.cluster.tools.objects.get? key = some (stored edited) := by decide +kernel
  refine ⟨stands_start, .drive (t := stored edited) hedited hstored, ?_, ?_, ?_, ?_, ?_⟩ <;>
    decide +kernel

end PolicyOperator.ToolLifecycle.Health
