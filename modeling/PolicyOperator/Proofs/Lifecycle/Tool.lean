import PolicyOperator.Proofs.Release.Package

/-!
# What driving a tool does to releases

A drive installs the release of a valid tool that is up for a sync (`ToolLifecycle.installs`), or
removes that of one that is deleted or disabled (`ToolLifecycle.removes`), or does neither.
`Worked` lists what may come of that on any platform, and `worked_drive` says that nothing else
does: apart from the install or the removal a drive only browses.

On a quiet platform the install and the removal get through, and all other releases are left alone
(`shifted_drive`). Which release it is follows from the type and the namespace that the tool
declares when it is driven.
-/

namespace PolicyOperator.ToolLifecycle

open Platform PlatformM

variable {settings : ToolSettings} {t : Tool} {pl pl' : Platform}

/-- The step that a tool is up for. -/
def step (t : Tool) : Step := ((Lifecycle.tool {}).observe t).step

theorem step_observe (settings : ToolSettings) (t : Tool) :
    ((Lifecycle.tool settings).observe t).step = step t := rfl

/-- Where a drive of the tool installs or upgrades a release. -/
def installs (t : Tool) : Option Key :=
  match step t, Package.validate t with
  | .sync, .ok _ => Package.releasePlace t
  | _, _ => none

/-- Where a drive of the tool removes the release if there is one. -/
def removes (t : Tool) : Option Key :=
  match step t with
  | .finalize | .disable => Package.releasePlace t
  | _ => none

theorem installs_of_valid (hstep : step t = .sync) {kind : ToolKind}
    (hvalid : Package.validate t = .ok kind) :
    installs t = Package.releasePlace t ∧ removes t = none := by
  simp [installs, removes, hstep, hvalid]

theorem removes_of_step (hstep : step t = .finalize ∨ step t = .disable) :
    removes t = Package.releasePlace t ∧ installs t = none := by
  obtain hstep | hstep := hstep <;> simp [installs, removes, hstep]

/-! ## The hooks -/

theorem browsed_publish (status : ToolStatus) : Keeps Browsed (publish t status) :=
  keeps_publish (browsed_onCluster _)

/-- A failure is noted on the status, and that is all. -/
theorem ends_failure (reason : String) (e : Error) (pl : Platform)
    {done : Option Duration → Platform → Prop} :
    Ends (do recordFailure t reason e; throw e) pl done fun _ => Browsed pl :=
  ends_bind.2 ((keeps_recordFailure browsed_publish pl).mono (fun _ _ h => h) fun _ _ h => h)

/-- A cleanup only fails when the removal of the release is barred. -/
theorem ends_cleanup_call (t : Tool) (pl : Platform) :
    Ends (cleanup t) pl (fun _ => Package.Uninstalled t pl)
      fun e pl' => ∃ place, Package.releasePlace t = some place ∧
        Barred (.about .uninstall place) pl e pl' := by
  unfold cleanup
  rw [ends_bind, ends_attempt]
  refine (Package.ends_ensureUninstalled_call t pl).mono (fun _ _ h => h) fun e pl' h => ?_
  obtain ⟨place, hplace, hbarred⟩ | ⟨hterminal, h⟩ := h
  · simp only [hbarred.curable, Bool.false_eq_true, if_false, ends_throw]
    exact ⟨place, hplace, hbarred⟩
  · simp only [hterminal, if_true, ends_pure]
    exact .inr h

/-- A valid tool has a profile. -/
theorem profile_of_validate {kind : ToolKind} (h : Package.validate t = .ok kind) :
    ∃ p ns, Package.profile t = .ok (p, ns) := by
  obtain ⟨kind', hkind, -⟩ := bind_eq_ok_iff.1 h
  exact ⟨_, _, by rw [Package.profile, hkind]; rfl⟩

/-! ## The drive -/

/-- What a drive of a tool did, by what came of its release. -/
inductive Worked (settings : ToolSettings) (t : Tool) (pl : Platform) :
    Except Error Transition → Platform → Prop
  /-- Nothing was to be installed or removed. -/
  | idle {answer : Except Error Transition} {pl' : Platform} :
      installs t = none → removes t = none → (∀ d, answer ≠ .ok (.synced d)) →
      answer ≠ .ok .disabled ∧ answer ≠ .ok .finalized → Browsed pl pl' →
      Worked settings t pl answer pl'
  /-- The release could not be installed. -/
  | failed {kind : ToolKind} {e e' : Error} {pl₁ pl' : Platform} :
      step t = .sync → Package.validate t = .ok kind →
      Package.ensureInstalled settings t pl = (.error e, pl₁) → Browsed pl₁ pl' →
      Worked settings t pl (.error e') pl'
  /-- The release was installed or upgraded. -/
  | installed {kind : ToolKind} {outcome : Package.Outcome} {answer : Except Error Transition}
      {pl₁ pl' : Platform} : step t = .sync → Package.validate t = .ok kind →
      Package.ensureInstalled settings t pl = (.ok outcome, pl₁) →
      answer ≠ .ok .disabled ∧ answer ≠ .ok .finalized → Browsed pl₁ pl' →
      Worked settings t pl answer pl'
  /-- The release could not be removed. -/
  | barred {place : Key} {e : Error} {pl' : Platform} : step t = .finalize ∨ step t = .disable →
      Package.releasePlace t = some place → Barred (.about .uninstall place) pl e pl' →
      Worked settings t pl (.error e) pl'
  /-- The release was removed. -/
  | removed {answer : Except Error Transition} {pl₁ pl' : Platform} :
      step t = .finalize ∨ step t = .disable → Package.Uninstalled t pl pl₁ →
      (∀ d, answer ≠ .ok (.synced d)) → Browsed pl₁ pl' → Worked settings t pl answer pl'

theorem worked_sync (settings : ToolSettings) (hstep : step t = .sync) (pl : Platform) :
    Ends (sync settings t) pl (fun d => Worked settings t pl (.ok (.synced d)))
      fun e => Worked settings t pl (.error e) := by
  unfold sync
  split
  · next e hinvalid =>
    have hinstalls : installs t = none := by simp [installs, hstep, hinvalid]
    have hremoves : removes t = none := by simp [removes, hstep]
    exact (ends_failure _ e pl).mono (fun _ _ h => h)
      fun _ _ h => .idle hinstalls hremoves nofun ⟨nofun, nofun⟩ h
  · next kind hvalid =>
    rw [ends_bind, ends_attempt]
    refine ends_of (fun outcome pl₁ hinstall => ?_) fun e pl₁ hinstall => ?_
    · have hafter : Keeps Browsed (do
          let healthy ← Package.waitHealthy settings t
          let version ← attempt (Package.releaseVersion t)
          let now := (← get).cluster.clock
          publish t (syncedStatus t healthy version.toOption.join now)
          return if healthy then none else some settings.pollTimeout) :=
        (Package.browsed_waitHealthy settings t).bind fun _ =>
          (keeps_attempt (Package.browsed_releaseVersion t)).bind fun _ => Keeps.get.bind fun _ =>
            (browsed_publish _).bind fun _ => .pure _
      exact (hafter pl₁).mono
        (fun _ _ h => .installed hstep hvalid hinstall ⟨nofun, nofun⟩ h)
        fun _ _ h => .installed hstep hvalid hinstall ⟨nofun, nofun⟩ h
    · exact (ends_failure _ e pl₁).mono (fun _ _ h => h)
        fun _ _ h => .failed hstep hvalid hinstall h

/-- Every drive is one of these. -/
theorem worked_drive (settings : ToolSettings) (t : Tool) (pl : Platform) :
    Worked settings t pl ((Lifecycle.tool settings).drive t pl).1
      ((Lifecycle.tool settings).drive t pl).2 := by
  have hwrite : ∀ q : Tool, Keeps Browsed (discard (onCluster (ClusterM.replace q))) :=
    fun q => (browsed_onCluster _).discard
  have hidle : ∀ {answer : Except Error Transition} {pl' : Platform},
      step t = .release ∨ step t = .guard ∨ step t = .link → (∀ d, answer ≠ .ok (.synced d)) →
      answer ≠ .ok .disabled ∧ answer ≠ .ok .finalized → Browsed pl pl' →
      Worked settings t pl answer pl' := fun hstep =>
    .idle (by obtain h | h | h := hstep <;> simp [installs, h])
      (by obtain h | h | h := hstep <;> simp [removes, h])
  refine Ends.run ?_
  unfold Lifecycle.drive
  rw [step_observe]
  cases hstep : step t with
  | finalize =>
    refine ends_bind.2 ((ends_cleanup_call t pl).mono (fun _ pl₁ hgone => ?_)
      fun _ _ ⟨_, hplace, h⟩ => .barred (.inl hstep) hplace h)
    exact ends_bind.2 ((hwrite _ pl₁).mono (fun _ _ h => .removed (.inl hstep) hgone nofun h)
      fun _ _ h => .removed (.inl hstep) hgone nofun h)
  | release => exact hidle (.inl hstep) nofun ⟨nofun, nofun⟩ (Std.Refl.refl pl)
  | guard =>
    exact ends_bind.2 ((hwrite _ pl).mono
      (fun _ _ h => hidle (.inr (.inl hstep)) nofun ⟨nofun, nofun⟩ h)
      fun _ _ h => hidle (.inr (.inl hstep)) nofun ⟨nofun, nofun⟩ h)
  | link =>
    refine ends_bind.2 (ends_pure.2 (ends_bind.2 ?_))
    exact (hwrite _ pl).mono (fun _ _ h => hidle (.inr (.inr hstep)) nofun ⟨nofun, nofun⟩ h)
      fun _ _ h => hidle (.inr (.inr hstep)) nofun ⟨nofun, nofun⟩ h
  | disable =>
    refine ends_bind.2 (ends_bind.2 ((ends_cleanup_call t pl).mono (fun _ pl₁ hgone => ?_)
      fun _ _ ⟨_, hplace, h⟩ => .barred (.inr hstep) hplace h))
    exact ((Keeps.get.bind fun _ => browsed_publish _) pl₁).mono
      (fun _ _ h => .removed (.inr hstep) hgone nofun h)
      fun _ _ h => .removed (.inr hstep) hgone nofun h
  | sync => exact ends_bind.2 (worked_sync settings hstep pl)

/-- On a quiet platform a drive does to releases what the tool as it is driven asks for, whatever it
returns. -/
theorem shifted_drive (settings : ToolSettings) (t : Tool) (hq : pl.Quiet) :
    Shifted (installs t) (removes t) pl ((Lifecycle.tool settings).drive t pl).2 := by
  have hworked := worked_drive settings t pl
  generalize ((Lifecycle.tool settings).drive t pl).1 = answer at hworked
  generalize ((Lifecycle.tool settings).drive t pl).2 = pl' at hworked ⊢
  cases hworked with
  | idle hinstalls hremoves _ _ h =>
    rw [hinstalls, hremoves]
    exact h.shifted hq
  | failed _ hvalid hinstall _ =>
    obtain ⟨p, ns, hprofile⟩ := profile_of_validate hvalid
    exact ((Package.ends_ensureInstalled settings hq hprofile).error hinstall).elim
  | installed hstep hvalid hinstall _ h =>
    obtain ⟨p, ns, hprofile⟩ := profile_of_validate hvalid
    rw [(installs_of_valid hstep hvalid).1, (installs_of_valid hstep hvalid).2]
    exact ((Package.ends_ensureInstalled settings hq hprofile).ok hinstall).browsed h
  | barred _ _ h => exact absurd h.cause (hq.unblocked _)
  | removed hstep hgone _ h =>
    rw [(removes_of_step hstep).1, (removes_of_step hstep).2]
    exact (hgone.shifted hq).browsed h

end PolicyOperator.ToolLifecycle
