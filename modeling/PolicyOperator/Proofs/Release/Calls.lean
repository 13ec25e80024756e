import PolicyOperator.Proofs.Lifecycle.Policy

/-!
# What is asked of charts

The book notes every call. `Called made pl pl'`: between two platforms charts were asked for `made`.
On any platform

* a call that does not get under way is `Barred`, by a token or by a switch, and changes no release
  (`ends_enter_call`),
* what only looks at charts keeps `Browsed`: no call was for a change, and releases are as they
  were,
* an install, an upgrade or a removal is `Handled`: at most one call was for a change, and it was
  due.

An install is `Due` only where there is no release, an upgrade only of a release that no unfinished
operation locks. On a platform that is `Quiet` nothing is barred and no release is locked, and all
of this keeps it quiet.
-/

namespace PolicyOperator

/-- A call for a chart operation. -/
structure ChartCall where
  operation : ChartOperation
  target : String
  deriving DecidableEq

theorem Release.isPending_of_deployed {r : Release} (h : r.status = "deployed") :
    r.isPending = false := by
  rw [isPending, h]
  decide +kernel

namespace ReleaseBook

/-- A release is there once it is deployed, and all others are as they were. -/
theorem get?_deploy (b : ReleaseBook) (r : ReleaseRequest) :
    (∃ release : Release, release.status = "deployed" ∧
        (b.deploy r).releases.get? ⟨r.ns, r.release⟩ = some (release, r.values)) ∧
      ∀ place, place ≠ ⟨r.ns, r.release⟩ →
        (b.deploy r).releases.get? place = b.releases.get? place := by
  have hget := SortedMap.get?_insert b.releases (⟨r.ns, r.release⟩ : Key)
  exact ⟨⟨_, rfl, (hget _ _).trans (if_pos rfl)⟩, fun place hne => (hget _ _).trans (if_neg hne)⟩

theorem releases_deploy_congr {b b' : ReleaseBook} (h : b'.releases = b.releases)
    (r : ReleaseRequest) : (b'.deploy r).releases = (b.deploy r).releases := by
  simp only [deploy, get?, h]

end ReleaseBook

namespace ChartCall

/-- A call that is about the release at a place. -/
def about (operation : ChartOperation) (place : Key) : ChartCall :=
  ⟨operation, place.ns ++ "/" ++ place.name⟩

/-- The call as the book notes it. -/
def line (c : ChartCall) : String := c.operation.name ++ " " ++ c.target

/-- The call asks for a change of a release. -/
def changes (c : ChartCall) : Bool :=
  match c.operation with
  | .install | .upgrade | .uninstall => true
  | .repo | .list => false

theorem filter_changes {made : List ChartCall} (h : ∀ c ∈ made, c.changes = false) :
    made.filter changes = [] :=
  List.filter_eq_nil_iff.2 fun c hc => by simp [h c hc]

/-- A change of the release at a place that may be asked for. -/
inductive Due (place : Key) (releases : SortedMap Key (Release × Json)) : ChartCall → Prop
  | install : releases.get? place = none → Due place releases (about .install place)
  | upgrade {r : Release} {values : Json} : releases.get? place = some (r, values) →
      "pending-".isPrefixOf r.status = false → r.status ≠ "uninstalling" →
      Due place releases (about .upgrade place)
  | uninstall : Due place releases (about .uninstall place)

end ChartCall

namespace Platform

variable {pl pl' pl'' : Platform} {made made' : List ChartCall} {c : ChartCall}
  {due : ChartCall → Prop} {releases : SortedMap Key (Release × Json)}

/-- Charts were asked for `made`, in this order. -/
def Called (made : List ChartCall) (pl pl' : Platform) : Prop :=
  pl'.book.calls = pl.book.calls ++ made.map ChartCall.line

theorem Called.none (h : pl'.book.calls = pl.book.calls) : Called [] pl pl' := by
  simpa [Called] using h

theorem Called.trans (h : Called made pl pl') (h' : Called made' pl' pl'') :
    Called (made ++ made') pl pl'' := by
  unfold Called at *
  rw [h', h, List.map_append, List.append_assoc]

/-- The platform once a call has been noted. -/
def noted (pl : Platform) (c : ChartCall) : Platform :=
  { pl with book := pl.book.note c.operation c.target }

@[simp] theorem releases_noted (pl : Platform) (c : ChartCall) :
    (pl.noted c).book.releases = pl.book.releases := rfl

/-- The platform once a call has been noted and a release deployed. -/
def deployed (pl : Platform) (c : ChartCall) (r : ReleaseRequest) : Platform :=
  { pl.noted c with book := (pl.noted c).book.deploy r }

/-- The platform once a removal of a release has been asked for, and the release is not there. -/
def uninstalled (pl : Platform) (place : Key) : Platform :=
  { pl.noted (.about .uninstall place) with
    book := (pl.noted (.about .uninstall place)).book.remove place.ns place.name }

theorem called_noted (pl : Platform) (c : ChartCall) : Called [c] pl (pl.noted c) := rfl

/-! ## Quiet platforms -/

/-- Nothing gets in the way of chart operations. -/
structure Quiet (pl : Platform) : Prop where
  running : pl.cancelled = false
  uninterrupted : ∀ e ∈ pl.agenda, e.2.isCancel = false
  working : pl.book.failing = []
  unlocked : ∀ place r values, pl.book.releases.get? place = some (r, values) →
    r.isPending = false

/-- The platform stays quiet, with the same releases. -/
def Steady (pl pl' : Platform) : Prop :=
  pl.Quiet → pl'.Quiet ∧ pl'.book.releases = pl.book.releases

instance : IsPreorder Platform Steady where
  refl _ hq := ⟨hq, rfl⟩
  trans _ _ _ h h' hq :=
    have ⟨hq', hsame⟩ := h hq
    have ⟨hq'', hsame'⟩ := h' hq'
    ⟨hq'', hsame'.trans hsame⟩

/-- Quietness is about the token, the agenda and the book. -/
theorem Quiet.of_same (hq : pl.Quiet) (hcancelled : pl'.cancelled = pl.cancelled)
    (hagenda : pl'.agenda = pl.agenda) (hfailing : pl'.book.failing = pl.book.failing)
    (hreleases : pl'.book.releases = pl.book.releases) : pl'.Quiet :=
  ⟨hcancelled ▸ hq.running, hagenda ▸ hq.uninterrupted, hfailing ▸ hq.working,
    hreleases ▸ hq.unlocked⟩

theorem Steady.of_same (hcancelled : pl'.cancelled = pl.cancelled)
    (hagenda : pl'.agenda = pl.agenda) (hfailing : pl'.book.failing = pl.book.failing)
    (hreleases : pl'.book.releases = pl.book.releases) : Steady pl pl' := fun hq =>
  ⟨hq.of_same hcancelled hagenda hfailing hreleases, hreleases⟩

theorem Quiet.noted (hq : pl.Quiet) (c : ChartCall) : (pl.noted c).Quiet :=
  hq.of_same rfl rfl rfl rfl

/-- A release that was deployed is not locked. -/
theorem Quiet.deployed (hq : pl.Quiet) (c : ChartCall) (r : ReleaseRequest) :
    (pl.deployed c r).Quiet := by
  refine ⟨hq.running, hq.uninterrupted, hq.working, fun place release values h => ?_⟩
  simp only [Platform.deployed, ReleaseBook.deploy, releases_noted, SortedMap.get?_insert] at h
  split at h
  · cases h
    exact Release.isPending_of_deployed rfl
  · exact hq.unlocked place release values h

theorem Quiet.uninstalled (hq : pl.Quiet) (place : Key) : (pl.uninstalled place).Quiet := by
  refine ⟨hq.running, hq.uninterrupted, hq.working, fun place' release values h => ?_⟩
  simp only [Platform.uninstalled, ReleaseBook.remove, releases_noted, SortedMap.get?_erase] at h
  split at h
  · cases h
  · exact hq.unlocked place' release values h

theorem steady_happen (pl : Platform) {e : OutsideEvent} (he : e.isCancel = false) :
    Steady pl (pl.happen e) := by
  cases e with
  | cancel => cases he
  | change f => exact .of_same rfl rfl rfl rfl

theorem steady_passUntil (pl : Platform) (reading : Duration) :
    Steady pl (pl.passUntil reading) := fun hq => by
  obtain ⟨waiting, hwaiting, hpass⟩ :=
    follows_passUntil (fun pl _ => steady_happen pl) pl reading hq.uninterrupted
  exact hpass
    ⟨hq.running, fun e he => hq.uninterrupted e (hwaiting e he), hq.working, hq.unlocked⟩

/-! ## Calls for no change -/

/-- Charts were asked for no change of a release. Nobody takes back that the operator is to stop. -/
structure Browsed (pl pl' : Platform) : Prop where
  releases : pl'.book.releases = pl.book.releases
  cancelled : pl.cancelled = true → pl'.cancelled = true
  steady : Steady pl pl'
  called : ∃ made, Called made pl pl' ∧ ∀ c ∈ made, c.changes = false

instance : IsPreorder Platform Browsed where
  refl pl := ⟨rfl, id, Std.Refl.refl (r := Steady) pl, [], .none rfl, nofun⟩
  trans _ _ _ h h' := by
    obtain ⟨made, hcalled, hmade⟩ := h.called
    obtain ⟨made', hcalled', hmade'⟩ := h'.called
    refine ⟨h'.releases.trans h.releases, fun hc => h'.cancelled (h.cancelled hc),
      IsTrans.trans _ _ _ h.steady h'.steady, made ++ made', hcalled.trans hcalled',
      fun c hc => ?_⟩
    exact (List.mem_append.1 hc).elim (hmade c) (hmade' c)

theorem Browsed.of_same (hbook : pl'.book = pl.book)
    (hcancelled : pl.cancelled = true → pl'.cancelled = true) (hsteady : Steady pl pl') :
    Browsed pl pl' :=
  ⟨by rw [hbook], hcancelled, hsteady, [], .none (by rw [hbook]), nofun⟩

theorem browsed_cluster (pl : Platform) (c : Cluster) : Browsed pl { pl with cluster := c } :=
  .of_same rfl id (.of_same rfl rfl rfl rfl)

theorem browsed_noted (pl : Platform) (hc : c.changes = false) : Browsed pl (pl.noted c) :=
  ⟨rfl, id, .of_same rfl rfl rfl rfl, [c], called_noted pl c, by simpa using hc⟩

/-- Events that are due may tell the operator to stop, and are no chart operations. -/
theorem browsed_passUntil (pl : Platform) (reading : Duration) :
    Browsed pl (pl.passUntil reading) := by
  have hkept : (pl.passUntil reading).book = pl.book ∧
      (pl.cancelled = true → (pl.passUntil reading).cancelled = true) := by
    unfold passUntil
    refine List.foldlRecOn (motive := fun pl' : Platform => pl'.book = pl.book ∧
      (pl.cancelled = true → pl'.cancelled = true)) _ _ ⟨rfl, id⟩ fun pl' h e _ => ?_
    cases e.2 with
    | cancel => exact ⟨h.1, fun _ => rfl⟩
    | change f => exact h
  exact .of_same hkept.1 hkept.2 (steady_passUntil pl reading)

/-! ## Calls for one change -/

/-- Charts were asked for at most one change, one that was due, and have `releases` now. -/
structure Handled (due : ChartCall → Prop) (releases : SortedMap Key (Release × Json))
    (pl pl' : Platform) : Prop where
  releases : pl'.book.releases = releases
  quiet : pl.Quiet → pl'.Quiet
  called : ∃ made, Called made pl pl' ∧ (made.filter ChartCall.changes).length ≤ 1 ∧
    ∀ c ∈ made, c.changes = true → due c

theorem Browsed.handled (h : Browsed pl pl') : Handled due pl.book.releases pl pl' := by
  obtain ⟨made, hcalled, hmade⟩ := h.called
  refine ⟨h.releases, fun hq => (h.steady hq).1, made, hcalled, ?_, fun c hc hchanges => ?_⟩
  · rw [ChartCall.filter_changes hmade]
    exact Nat.zero_le 1
  · rw [hmade c hc] at hchanges
    cases hchanges

theorem handled_noted (pl : Platform) (hdue : due c) :
    Handled due pl.book.releases pl (pl.noted c) := by
  refine ⟨rfl, fun hq => hq.noted c, [c], called_noted pl c, List.length_filter_le _ _,
    fun c' hc _ => ?_⟩
  rw [List.mem_singleton.1 hc]
  exact hdue

theorem Handled.after (h : Handled due releases pl' pl'') (hb : Browsed pl pl') :
    Handled due releases pl pl'' := by
  obtain ⟨made, hcalled, hmade⟩ := hb.called
  obtain ⟨made', hcalled', hone, hdue⟩ := h.called
  refine ⟨h.releases, fun hq => h.quiet (hb.steady hq).1, made ++ made', hcalled.trans hcalled', ?_,
    fun c hc hchanges => ?_⟩
  · rwa [List.filter_append, ChartCall.filter_changes hmade]
  · obtain hc | hc := List.mem_append.1 hc
    · rw [hmade c hc] at hchanges
      cases hchanges
    · exact hdue c hc hchanges

theorem Handled.browsed (h : Handled due releases pl pl') (hb : Browsed pl' pl'') :
    Handled due releases pl pl'' := by
  obtain ⟨made, hcalled, hone, hdue⟩ := h.called
  obtain ⟨made', hcalled', hmade⟩ := hb.called
  refine ⟨hb.releases.trans h.releases, fun hq => (hb.steady (h.quiet hq)).1, made ++ made',
    hcalled.trans hcalled', ?_, fun c hc hchanges => ?_⟩
  · rwa [List.filter_append, ChartCall.filter_changes hmade, List.append_nil]
  · obtain hc | hc := List.mem_append.1 hc
    · exact hdue c hc hchanges
    · rw [hmade c hc] at hchanges
      cases hchanges

/-- What becomes of the releases once the call has been noted. -/
theorem Handled.changed (h : Handled due releases pl pl')
    (hcalls : pl''.book.calls = pl'.book.calls) (hquiet : pl.Quiet → pl''.Quiet) :
    Handled due pl''.book.releases pl pl'' := by
  obtain ⟨made, hcalled, hmade⟩ := h.called
  exact ⟨rfl, hquiet, made, hcalls.trans hcalled, hmade⟩

/-- The operator has been told to stop, or the operation is made to fail. -/
def Blocks (pl : Platform) (o : ChartOperation) : Prop :=
  pl.cancelled = true ∨ o ∈ pl.book.failing

theorem Quiet.unblocked (hq : pl.Quiet) (o : ChartOperation) : ¬ pl.Blocks o := by
  simp [Blocks, hq.running, hq.working]

/-- A call did not get under way. -/
structure Barred (c : ChartCall) (pl : Platform) (e : Error) (pl' : Platform) : Prop where
  cause : pl.Blocks c.operation
  platform : pl' = pl ∨ pl' = pl.noted c
  curable : e.isTerminal = false
  other : e.isNotFound = false

theorem Barred.same {e : Error} (h : Barred c pl e pl') :
    pl'.book.releases = pl.book.releases := by
  obtain rfl | rfl := h.platform <;> rfl

theorem Barred.handled {e : Error} (h : Barred c pl e pl') (hdue : due c) :
    Handled due pl.book.releases pl pl' := by
  obtain rfl | rfl := h.platform
  · exact Browsed.handled (Std.Refl.refl pl')
  · exact handled_noted pl hdue

theorem Barred.browsed {e : Error} (h : Barred c pl e pl') (hc : c.changes = false) :
    Browsed pl pl' := by
  obtain rfl | rfl := h.platform
  · exact Std.Refl.refl pl'
  · exact browsed_noted pl hc

end Platform

/-! ## The cluster and the timer -/

namespace PlatformM

open Platform

theorem browsed_onCluster (x : ClusterM α) : Keeps Browsed (onCluster x) := fun pl =>
  ends_onCluster.2 (ends_true.mono (fun _ _ _ => browsed_cluster pl _)
    fun _ _ _ => browsed_cluster pl _)

theorem ends_ensureNamespace (ns : String) (pl : Platform) :
    Ends (onCluster (ClusterM.ensureNamespace ns)) pl (fun _ => Browsed pl) fun _ _ => False :=
  ends_onCluster.2 (ends_modify.2 (browsed_cluster pl _))

theorem browsed_pause (operation : String) (d : Duration) : Keeps Browsed (pause operation d) :=
  keeps_pause browsed_passUntil operation d

end PlatformM

/-! ## Chart operations -/

namespace Charts

open Platform

/-- Every operation begins with a note, and then gets under way unless it is barred. -/
theorem ends_enter_call (c : ChartCall) (pl : Platform) :
    Ends (enter c.operation c.target) pl
      (fun _ pl' => ¬ pl.Blocks c.operation ∧ pl' = pl.noted c) (Barred c pl) := by
  unfold enter
  rw [ends_bind, ends_get]
  split
  · next hcancelled => exact ⟨.inl hcancelled, .inl rfl, rfl, rfl⟩
  · next hrunning =>
    simp only [ends_bind, ends_modify, ends_get]
    split
    · next hfailing => exact ⟨.inr (List.contains_iff_mem.1 hfailing), .inr rfl, rfl, rfl⟩
    · next hworking =>
      exact ⟨fun h => h.elim hrunning fun h => hworking (List.contains_iff_mem.2 h), rfl⟩

theorem ends_ensureRepository_call (r : ChartRepository) (pl : Platform) :
    Ends (ensureRepository r) pl (fun _ => Browsed pl) (Barred ⟨.repo, r.name⟩ pl) := by
  unfold ensureRepository
  rw [ends_bind]
  refine (ends_enter_call ⟨.repo, r.name⟩ pl).mono (fun _ pl' ⟨_, h⟩ => ?_) fun _ _ h => h
  subst h
  have hnoted : Browsed pl (pl.noted ⟨.repo, r.name⟩) := browsed_noted pl rfl
  rw [ends_modify]
  split
  · exact hnoted
  · exact IsTrans.trans _ _ _ hnoted ⟨rfl, id, .of_same rfl rfl rfl rfl, [], .none rfl, nofun⟩

/-- Looking up a release finds what is there. -/
theorem ends_release_call (ns name : String) (pl : Platform) :
    Ends (release ns name) pl (fun found pl' => found = pl.book.get? ns name ∧ Browsed pl pl')
      (Barred (.about .list ⟨ns, name⟩) pl) := by
  unfold release
  rw [ends_bind]
  refine (ends_enter_call (.about .list ⟨ns, name⟩) pl).mono (fun _ pl' ⟨_, h⟩ => ?_)
    fun _ _ h => h
  subst h
  exact ⟨rfl, browsed_noted pl rfl⟩

theorem browsed_release (ns name : String) : Keeps Browsed (release ns name) := fun pl =>
  (ends_release_call ns name pl).mono (fun _ _ h => h.2) fun _ _ h => h.browsed rfl

/-- An install or an upgrade deploys its release unless it is barred. -/
theorem ends_deploy_call (c : ChartCall) (r : ReleaseRequest) (pl : Platform) :
    Ends (do enter c.operation c.target; modify fun pl => { pl with book := pl.book.deploy r }) pl
      (fun _ pl' => ¬ pl.Blocks c.operation ∧ pl' = pl.deployed c r) (Barred c pl) := by
  rw [ends_bind]
  exact (ends_enter_call c pl).mono (fun _ _ ⟨hfree, h⟩ => ⟨hfree, by rw [h]; rfl⟩)
    fun _ _ h => h

/-- A removal that is not barred leaves no release, and says so if there was none. -/
theorem ends_uninstall_call (place : Key) (pl : Platform) :
    Ends (uninstall place.ns place.name) pl
      (fun _ pl' => ¬ pl.Blocks .uninstall ∧ pl' = pl.uninstalled place)
      fun e pl' => Barred (.about .uninstall place) pl e pl' ∨
        e = .releaseNotFound place.name ∧ ¬ pl.Blocks .uninstall ∧ pl' = pl.uninstalled place := by
  unfold uninstall
  rw [ends_bind]
  refine (ends_enter_call (.about .uninstall place) pl).mono (fun _ pl' ⟨hfree, h⟩ => ?_)
    fun _ _ h => .inl h
  subst h
  rw [ends_bind, ends_get]
  split
  · next hnone =>
    -- Removing what is not there leaves the releases as they are.
    refine .inr ⟨rfl, hfree, ?_⟩
    have hsame : pl.book.releases.erase place = pl.book.releases := SortedMap.ext_get? fun key => by
      rw [SortedMap.get?_erase]
      split
      · next he =>
        rw [he]
        exact (Option.map_eq_none_iff.1 hnone).symm
      · rfl
    simp only [uninstalled, ReleaseBook.remove, releases_noted, hsame]
    rfl
  · exact ⟨hfree, rfl⟩

end Charts

/-! ## Packages -/

namespace Package

open Platform PlatformM

variable {t : Tool} {pl : Platform}

/-- Where the release of a tool is kept. -/
def releasePlace (t : Tool) : Option Key :=
  match profile t with
  | .ok (profile, ns) => some ⟨ns, profile.release⟩
  | .error _ => none

/-- A change that may be asked for on behalf of a tool. -/
def Due (t : Tool) (pl : Platform) (c : ChartCall) : Prop :=
  ∃ place, releasePlace t = some place ∧ c.Due place pl.book.releases

theorem browsed_waitHealthy (settings : ToolSettings) (t : Tool) :
    Keeps Browsed (waitHealthy settings t) :=
  keeps_waitHealthy ((Keeps.liftM _).bind fun _ => Keeps.get.bind fun _ => .pure _) browsed_pause

theorem browsed_releaseVersion (t : Tool) : Keeps Browsed (releaseVersion t) :=
  (Keeps.liftM _).bind fun _ => (Charts.browsed_release _ _).bind fun _ => .pure _

theorem releasePlace_of_profile {p : Profile} {ns : String} (h : profile t = .ok (p, ns)) :
    releasePlace t = some ⟨ns, p.release⟩ := by
  rw [releasePlace, h]

/-- A barred call changes nothing, whether it is for a change or not. -/
theorem handled_of_barred {c : ChartCall} {e : Error} {pl₁ pl' : Platform}
    (hb : Browsed pl pl₁) (h : Barred c pl₁ e pl') (hc : c.changes = false ∨ Due t pl c) :
    Handled (Due t pl) pl.book.releases pl pl' ∧ ¬ pl.Quiet := by
  refine ⟨?_, fun hq => (hb.steady hq).1.unblocked _ h.cause⟩
  obtain hc | hdue := hc
  · exact Browsed.handled (IsTrans.trans _ _ _ hb (h.browsed hc))
  · rw [← hb.releases]
    exact (h.handled hdue).after hb

/-- An install or upgrade that is due either deploys the release or changes none. -/
theorem ends_deploy_due {c : ChartCall} {r : ReleaseRequest} {pl₁ : Platform}
    (hb : Browsed pl pl₁) (hdue : Due t pl c) :
    Ends (do Charts.enter c.operation c.target
             modify fun pl => { pl with book := pl.book.deploy r }) pl₁
      (fun _ pl' => pl.cancelled = false ∧ Handled (Due t pl) (pl.book.deploy r).releases pl pl')
      fun _ pl' => Handled (Due t pl) pl.book.releases pl pl' ∧ ¬ pl.Quiet := by
  refine (Charts.ends_deploy_call c r pl₁).mono (fun _ pl' ⟨hfree, h⟩ => ⟨?_, ?_⟩)
    fun _ _ h => handled_of_barred hb h (.inr hdue)
  · exact Bool.eq_false_iff.2 fun hc => hfree (.inl (hb.cancelled hc))
  · subst h
    have hreleases : (pl₁.deployed c r).book.releases = (pl.book.deploy r).releases :=
      ReleaseBook.releases_deploy_congr hb.releases r
    rw [← hreleases]
    exact ((handled_noted pl₁ hdue).after hb).changed rfl fun hq => (hb.steady hq).1.deployed c r

/-- Whatever gets in its way, installing a tool either deploys its release or changes none. On a
quiet platform only its type can get in its way. -/
theorem ends_ensureInstalled_call (settings : ToolSettings) (t : Tool) (pl : Platform) :
    Ends (ensureInstalled settings t) pl
      (fun _ pl' => pl.cancelled = false ∧ ∃ p ns, profile t = .ok (p, ns) ∧
        Handled (Due t pl) (pl.book.deploy (request settings p ns t)).releases pl pl')
      fun _ pl' => Handled (Due t pl) pl.book.releases pl pl' ∧
        (pl.Quiet → ∃ e, profile t = .error e) := by
  have hquiet : ∀ {pl'}, Handled (Due t pl) pl.book.releases pl pl' ∧ ¬ pl.Quiet →
      Handled (Due t pl) pl.book.releases pl pl' ∧ (pl.Quiet → ∃ e, profile t = .error e) :=
    fun h => ⟨h.1, fun hq => absurd hq h.2⟩
  unfold ensureInstalled
  rw [ends_bind, ends_liftM]
  split
  · next found hprofile =>
    obtain ⟨p, ns⟩ := found
    have hplace := releasePlace_of_profile hprofile
    simp only [ends_bind]
    refine (ends_ensureNamespace ns pl).mono (fun _ pl₁ h₁ => ?_) fun _ _ h => h.elim
    refine (Charts.ends_ensureRepository_call _ pl₁).mono (fun _ pl₂ h₂ => ?_)
      fun _ _ h => hquiet (handled_of_barred h₁ h (.inl rfl))
    have h₁₂ : Browsed pl pl₂ := IsTrans.trans _ _ _ h₁ h₂
    refine (Charts.ends_release_call ns p.release pl₂).mono (fun found pl₃ h => ?_)
      fun _ _ h => hquiet (handled_of_barred h₁₂ h (.inl rfl))
    obtain ⟨hfound, h₃⟩ := h
    have hb : Browsed pl pl₃ := IsTrans.trans _ _ _ h₁₂ h₃
    rw [ReleaseBook.get?, h₁₂.releases] at hfound
    split
    · next existing =>
      obtain ⟨⟨r, values⟩, hget, rfl⟩ := Option.map_eq_some_iff.1 hfound.symm
      split
      · next hlocked =>
        refine hquiet ⟨hb.handled, fun hq => ?_⟩
        rw [hq.unlocked _ r values hget] at hlocked
        cases hlocked
      · next hunlocked =>
        have hstatus : "pending-".isPrefixOf r.status = false ∧ r.status ≠ "uninstalling" := by
          simpa [Release.isPending] using hunlocked
        have hdue : Due t pl (.about .upgrade ⟨ns, p.release⟩) :=
          ⟨_, hplace, .upgrade hget hstatus.1 hstatus.2⟩
        refine ends_bind.2 ((ends_deploy_due hb hdue).mono (fun _ _ h => ?_) fun _ _ => hquiet)
        exact ⟨h.1, p, ns, hprofile, h.2⟩
    · have hdue : Due t pl (.about .install ⟨ns, p.release⟩) :=
        ⟨_, hplace, .install (Option.map_eq_none_iff.1 hfound.symm)⟩
      refine ends_bind.2 ((ends_deploy_due hb hdue).mono (fun _ _ h => ?_) fun _ _ => hquiet)
      exact ⟨h.1, p, ns, hprofile, h.2⟩
  · next e hprofile => exact ⟨Browsed.handled (Std.Refl.refl pl), fun _ => ⟨e, hprofile⟩⟩

/-- The release of the tool is gone. A tool of an unknown type has none. -/
def Uninstalled (t : Tool) (pl pl' : Platform) : Prop :=
  (∃ place, releasePlace t = some place ∧ ¬ pl.Blocks .uninstall ∧ pl' = pl.uninstalled place) ∨
    releasePlace t = none ∧ pl' = pl

/-- A removal fails when it is barred, or the type is not known. -/
theorem ends_ensureUninstalled_call (t : Tool) (pl : Platform) :
    Ends (ensureUninstalled t) pl (fun _ => Uninstalled t pl)
      fun e pl' => (∃ place, releasePlace t = some place ∧
          Barred (.about .uninstall place) pl e pl') ∨
        e.isTerminal = true ∧ releasePlace t = none ∧ pl' = pl := by
  unfold ensureUninstalled
  rw [ends_bind, ends_liftM]
  split
  · next found hprofile =>
    obtain ⟨p, ns⟩ := found
    have hplace := releasePlace_of_profile hprofile
    rw [ends_bind, ends_attempt]
    refine (Charts.ends_uninstall_call ⟨ns, p.release⟩ pl).mono
      (fun _ _ h => .inl ⟨_, hplace, h⟩) fun e pl' h => ?_
    obtain hbarred | ⟨rfl, hfree, h⟩ := h
    · cases e with
      | releaseNotFound name => cases hbarred.other
      | _ => exact .inl ⟨_, hplace, hbarred⟩
    · exact .inl ⟨_, hplace, hfree, h⟩
  · next e hprofile =>
    refine .inr ⟨?_, by rw [releasePlace, hprofile], rfl⟩
    unfold profile at hprofile
    cases hkind : t.spec.kind with
    | ok kind => rw [hkind] at hprofile; cases hprofile
    | error e' =>
      rw [hkind] at hprofile
      cases hprofile
      exact PolicyLifecycle.isTerminal_of_ofName hkind

end Package

end PolicyOperator
