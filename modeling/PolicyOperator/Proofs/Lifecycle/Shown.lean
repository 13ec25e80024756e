import PolicyOperator.Proofs.Condition
import PolicyOperator.Proofs.Lifecycle.Hooks

/-!
# The status that a tool shows

A run edits a tool or drives it, and only the publishing of a drive gives the tool another status.
What a drive published is read off its answer (`Told`), and it is computed from the status with
which the tool was read, whatever became of the tool in the meantime.

* `Cluster.Shows key status`: the tool under the key shows the status. Edits keep it
  (`ClusterM.statusKept_replace`), a status write replaces it (`ClusterM.shows_replaceStatus`).
* `Platform.Stands key status`: besides, nothing that is to come changes that, so charts and waiting
  keep it (`ToolLifecycle.stands_of_keeps`).
* `ToolLifecycle.shown_drive`: after a drive the tool shows what the drive told.
-/

namespace PolicyOperator

/-! ## What a stored tool shows -/

namespace Cluster

/-- If a tool is stored under the key, it is filed rightly and has the status, at whole seconds. -/
def Shows (key : Key) (status : Option ToolStatus) (c : Cluster) : Prop :=
  ∀ t, c.tools.objects.get? key = some t →
    t.key = .ok key ∧ t.status.map ToolStatus.wholeSeconds = status.map ToolStatus.wholeSeconds

/-- No tool appears under the key, and whatever status the one there shows, it goes on showing. -/
def StatusKept (key : Key) (c c' : Cluster) : Prop := ∀ status, c.Shows key status → c'.Shows key status

instance (key : Key) : IsPreorder Cluster (StatusKept key) where
  refl _ _ h := h
  trans _ _ _ h h' _ hs := h' _ (h _ hs)

variable {key : Key} {c c' : Cluster} {status status' : Option ToolStatus}

/-- Whatever leaves the stored tools alone keeps their status. -/
theorem statusKept_of_same (h : c'.tools.objects = c.tools.objects) : StatusKept key c c' :=
  fun _ hs t ht => hs t (h ▸ ht)

theorem Unmoved.statusKept (h : Unmoved c c') : StatusKept key c c' :=
  statusKept_of_same (h .tool).1

theorem Shows.congr (h : c.Shows key status)
    (he : status.map ToolStatus.wholeSeconds = status'.map ToolStatus.wholeSeconds) :
    c.Shows key status' := fun t ht => ⟨(h t ht).1, (h t ht).2.trans he⟩

end Cluster

open Cluster

theorem ToolStatus.wholeSeconds_stored (status : Option ToolStatus) :
    (status.map ResourceKind.tool.statusWholeSeconds).map wholeSeconds = status.map wholeSeconds := by
  cases status with
  | none => rfl
  | some s => exact congrArg some s.wholeSeconds_wholeSeconds

/-- An edit of a tool keeps its status, whatever status it comes with. -/
theorem ClusterM.statusKept_replace (key : Key) (o : Tool) :
    Keeps (StatusKept key) (ClusterM.replace o) := fun c => by
  refine ends_ofStore.2 ⟨fun o' s h status hs t ht => ?_,
    fun _ _ => Std.Refl.refl (r := StatusKept key) c⟩
  obtain ⟨-, key', current, hkey', hcurrent, -, ho', -⟩ := Store.replace_eq_ok_iff.1 h
  change s.objects.get? key = some t at ht
  rw [Store.get?_replace h hkey'] at ht
  split at ht
  · next heq =>
    subst heq
    obtain rfl := Store.eq_of_remaining ht
    obtain ⟨-, hstatus⟩ := hs current hcurrent
    rw [ho']
    refine ⟨(Object.key_congr rfl rfl).trans hkey', ?_⟩
    rw [Store.status_replacement, ToolStatus.wholeSeconds_stored, hstatus]
  · exact hs t ht

/-- A status that is written is shown; a refused write changes nothing. -/
theorem ClusterM.shows_replaceStatus {key : Key} {t : Tool} {c : Cluster} (hkey : t.key = .ok key)
    (hs : c.Shows key t.status) (status : ToolStatus) :
    Ends (ClusterM.replaceStatus { t with status := some status }) c
      (fun _ => Shows key (some status)) fun _ c' => c' = c := by
  refine ends_ofStore.2 ⟨fun o' s h t' ht' => ?_, fun _ _ => rfl⟩
  obtain ⟨-, key', current, hkey', hcurrent, -, ho', -⟩ := Store.replaceStatus_eq_ok_iff.1 h
  have htkey : t.key = .ok key' := (Object.key_congr rfl rfl).trans hkey'
  obtain rfl : key = key' := by simpa [hkey] using htkey
  change s.objects.get? key = some t' at ht'
  rw [Store.get?_replaceStatus h hkey', if_pos rfl] at ht'
  obtain rfl := Option.some.inj ht'
  obtain ⟨hfiled, -⟩ := hs current hcurrent
  rw [ho']
  exact ⟨(Object.key_congr rfl rfl).trans hfiled, ToolStatus.wholeSeconds_stored (some status)⟩

/-! ## Waiting and the charts -/

namespace Platform

/-- What is to come on the platform keeps the status that a tool shows. -/
def SparesStatus (key : Key) (pl : Platform) : Prop :=
  ∀ due f, (due, OutsideEvent.change f) ∈ pl.agenda → ∀ c, Cluster.StatusKept key c (f c)

/-- The status that a tool shows is kept, and will be. -/
def StatusKept (key : Key) (pl pl' : Platform) : Prop :=
  pl.SparesStatus key → pl'.SparesStatus key ∧ Cluster.StatusKept key pl.cluster pl'.cluster

variable {key : Key} {pl pl' : Platform}

instance : IsPreorder Platform (StatusKept key) where
  refl pl hs := ⟨hs, Std.Refl.refl (r := Cluster.StatusKept key) pl.cluster⟩
  trans _ _ _ h h' hs :=
    have ⟨hs₁, hk₁⟩ := h hs
    have ⟨hs₂, hk₂⟩ := h' hs₁
    ⟨hs₂, IsTrans.trans _ _ _ hk₁ hk₂⟩

theorem Unmoved.statusKept (h : Unmoved pl pl') : StatusKept key pl pl' := fun hs =>
  ⟨fun due f he => hs due f (h.1 ▸ he), h.2.statusKept⟩

theorem statusKept_happen {e : OutsideEvent}
    (he : ∀ f, e = .change f → ∀ c, Cluster.StatusKept key c (f c)) :
    StatusKept key pl (pl.happen e) := fun hs => by
  cases e with
  | cancel => exact ⟨hs, Std.Refl.refl (r := Cluster.StatusKept key) pl.cluster⟩
  | change f => exact ⟨hs, he f rfl pl.cluster⟩

theorem statusKept_passUntil (pl : Platform) (reading : Duration) :
    StatusKept key pl (pl.passUntil reading) := fun hs => by
  obtain ⟨waiting, hwaiting, hpass⟩ := follows_passUntil (fun _ _ => statusKept_happen) pl reading
    fun e he f hf => hs e.1 f (hf ▸ he)
  exact hpass fun due f he => hs due f (hwaiting _ he)

/-- A tool under the key shows the status, and nothing to come changes that. -/
def Stands (key : Key) (status : Option ToolStatus) (pl : Platform) : Prop :=
  pl.SparesStatus key ∧ pl.cluster.Shows key status

theorem Stands.kept {status : Option ToolStatus} (h : Stands key status pl)
    (hk : StatusKept key pl pl') : Stands key status pl' :=
  have ⟨hs, hc⟩ := hk h.1
  ⟨hs, hc status h.2⟩

end Platform

namespace ToolLifecycle

open Platform PlatformM

variable {settings : ToolSettings} {t : Tool} {key : Key} {pl : Platform}

theorem statusKept_of_unmoved {α : Type} {x : PlatformM α} (hx : Keeps Platform.Unmoved x) :
    Keeps (Platform.StatusKept key) x :=
  hx.mono fun _ _ h => h.statusKept

theorem statusKept_waitHealthy (settings : ToolSettings) (t : Tool) :
    Keeps (Platform.StatusKept key) (Package.waitHealthy settings t) :=
  Package.keeps_waitHealthy (statusKept_of_unmoved (Package.unmoved_checkHealth t))
    (keeps_pause statusKept_passUntil)

theorem statusKept_replace (o : Tool) :
    Keeps (Platform.StatusKept key) (discard (onCluster (ClusterM.replace o))) :=
  (keeps_onCluster (ClusterM.statusKept_replace key o) fun _ _ h hs => ⟨hs, h⟩).discard

theorem stands_of_keeps {α : Type} {x : PlatformM α} {status : Option ToolStatus}
    (hx : Keeps (Platform.StatusKept key) x) (h : Stands key status pl) :
    Ends x pl (fun _ => Stands key status) fun _ => Stands key status :=
  (hx pl).mono (fun _ _ => h.kept) fun _ _ => h.kept

/-! ## What a drive tells -/

/-- The status that a tool shows after a drive that gave the answer. -/
inductive Told (t : Tool) : Except Error Transition → Option ToolStatus → Prop
  /-- Nothing was published. -/
  | silent {answer : Except Error Transition} : answer ≠ .ok .disabled →
      (∀ again, answer ≠ .ok (.synced again)) → Told t answer t.status
  | failed {e : Error} (reason : String) (now : Instant) :
      Told t (.error e) (some (failedStatus t reason e now))
  | disabled (now : Instant) : Told t (.ok .disabled) (some (disabledStatus t now))
  | synced {healthy : Bool} {again : Option Duration} (version : Option String) (now : Instant) :
      again.isNone = healthy →
      Told t (.ok (.synced again)) (some (syncedStatus t healthy version now))

/-- A drive told the status that the tool shows. -/
def Shown (key : Key) (t : Tool) (answer : Except Error Transition) (pl : Platform) : Prop :=
  ∃ status, Told t answer status ∧ Stands key status pl

theorem shown_of_error {e : Error} (h : Stands key t.status pl) : Shown key t (.error e) pl :=
  ⟨t.status, .silent nofun nofun, h⟩

/-- Publishing shows the status, or leaves the one that was read. -/
theorem stands_publish (hkey : t.key = .ok key) (status : ToolStatus)
    (h : Stands key t.status pl) :
    Ends (publish t status) pl (fun _ => Stands key (some status)) fun _ => Stands key t.status := by
  unfold publish
  split
  · next hsame => exact hsame ▸ h
  · refine ends_discard.2 (ends_onCluster.2 ?_)
    refine (ClusterM.shows_replaceStatus hkey h.2 status).mono (fun _ c hc => ⟨h.1, hc⟩)
      fun _ c hc => ?_
    subst hc
    exact h

theorem shown_failure (hkey : t.key = .ok key) (h : Stands key t.status pl) (reason : String)
    (e : Error) {done : Option Duration → Platform → Prop} :
    Ends (do recordFailure t reason e; throw e) pl done fun e' => Shown key t (.error e') := by
  unfold recordFailure
  simp only [ends_bind, ends_get, ends_discard, ends_attempt, ends_throw]
  exact (stands_publish hkey _ h).mono (fun _ _ h' => ⟨_, .failed reason _, h'⟩)
    fun _ _ h' => shown_of_error h'

theorem shown_disable (hkey : t.key = .ok key) (h : Stands key t.status pl) :
    Ends (disable t) pl (fun _ => Shown key t (.ok .disabled)) fun e => Shown key t (.error e) := by
  unfold disable
  refine ends_bind.2 ((stands_of_keeps (statusKept_of_unmoved (unmoved_cleanup t)) h).mono
    (fun _ pl₁ h₁ => ?_) fun _ _ h₁ => shown_of_error h₁)
  exact ends_bind.2 (ends_get.2 ((stands_publish hkey _ h₁).mono (fun _ _ h' => ⟨_, .disabled _, h'⟩)
    fun _ _ h' => shown_of_error h'))

theorem shown_sync (settings : ToolSettings) (hkey : t.key = .ok key) (h : Stands key t.status pl) :
    Ends (sync settings t) pl (fun again => Shown key t (.ok (.synced again)))
      fun e => Shown key t (.error e) := by
  unfold sync
  split
  · exact shown_failure hkey h _ _
  · refine ends_bind.2 (ends_attempt.2 ?_)
    refine (stands_of_keeps (statusKept_of_unmoved (Package.unmoved_ensureInstalled settings t))
      h).mono (fun _ pl₁ h₁ => ?_) fun _ pl₁ h₁ => shown_failure hkey h₁ _ _
    refine ends_bind.2 ((stands_of_keeps (statusKept_waitHealthy settings t) h₁).mono
      (fun healthy pl₂ h₂ => ?_) fun _ _ h₂ => shown_of_error h₂)
    refine ends_bind.2 (ends_attempt.2 ((stands_of_keeps
      (statusKept_of_unmoved (Package.unmoved_releaseVersion t)) h₂).mono
      (fun version pl₃ h₃ => ?_) fun _ pl₃ h₃ => ?_))
    all_goals
      refine ends_bind.2 (ends_get.2 (ends_bind.2 ((stands_publish hkey _ h₃).mono
        (fun _ pl₄ h₄ => ends_pure.2 ⟨_, .synced _ _ ?_, h₄⟩) fun _ _ h₄ => shown_of_error h₄)))
      cases healthy <;> rfl

/-- Every drive tells the status that the tool shows after it. -/
theorem shown_drive (settings : ToolSettings) (hkey : t.key = .ok key)
    (h : Stands key t.status pl) :
    Shown key t ((Lifecycle.tool settings).drive t pl).1 ((Lifecycle.tool settings).drive t pl).2 := by
  have hsilent : ∀ {answer : Except Error Transition} {pl' : Platform}, answer ≠ .ok .disabled →
      (∀ again, answer ≠ .ok (.synced again)) → Stands key t.status pl' → Shown key t answer pl' :=
    fun hd hs h' => ⟨t.status, .silent hd hs, h'⟩
  refine Ends.run ?_
  unfold Lifecycle.drive
  split
  · refine ends_bind.2 ((stands_of_keeps (statusKept_of_unmoved (unmoved_cleanup t)) h).mono
      (fun _ pl₁ h₁ => ?_) fun _ _ h₁ => shown_of_error h₁)
    exact ends_bind.2 ((stands_of_keeps (statusKept_replace _) h₁).mono
      (fun _ _ h₂ => hsilent nofun nofun h₂) fun _ _ h₂ => shown_of_error h₂)
  · exact hsilent nofun nofun h
  · exact ends_bind.2 ((stands_of_keeps (statusKept_replace _) h).mono
      (fun _ _ h₁ => hsilent nofun nofun h₁) fun _ _ h₁ => shown_of_error h₁)
  · refine ends_bind.2 (ends_pure.2 (ends_bind.2 ?_))
    exact (stands_of_keeps (statusKept_replace _) h).mono
      (fun _ _ h₁ => hsilent nofun nofun h₁) fun _ _ h₁ => shown_of_error h₁
  · exact ends_bind.2 (shown_disable hkey h)
  · exact ends_bind.2 (shown_sync settings hkey h)

end ToolLifecycle

end PolicyOperator
