import PolicyOperator.Proofs.Lifecycle.Tool

/-!
# Releases that a tool leaves behind

A run edits one tool, drives it as it is stored, and does elsewhere what does not concern releases.
`installed history` are the places where a drive of the history put a release, `left history` those
where none took it away again. On a quiet platform these are the places, of the first, where a release
is in the end (`Run.inv`).

A drive that finalizes or disables the tool removes the release that the type and the namespace
declared at that time stand for. So it leaves none behind exactly if all that was left until then is
there (`no_release_left_iff`). A tool whose namespace was edited since its release was installed leaves
it (`release_left_after_deletion`).
-/

namespace PolicyOperator.ToolLifecycle.Releases

open Platform Package

/-! ## Runs -/

/-- A drive of a tool and what it returned. -/
structure Drive where
  tool : Tool
  answer : Except Error Transition

/-- A user writes a tool. -/
inductive Edit (c : Cluster) : Cluster → Prop
  | create (t : Tool) : Edit c (ClusterM.create t c).2
  | replace (t : Tool) : Edit c (ClusterM.replace t c).2
  | delete (key : Key) : Edit c (ClusterM.delete .tool key.ns key.name c).2

/-- Edits, drives of the stored tool, and events that neither concern releases nor get in the way of
them. The history holds the drives, the latest first. -/
inductive Run (settings : ToolSettings) (key : Key) (pl₀ : Platform) : List Drive → Platform → Prop
  | start : Run settings key pl₀ [] pl₀
  | edit {history : List Drive} {pl : Platform} {c : Cluster} : Run settings key pl₀ history pl →
      Edit pl.cluster c → Run settings key pl₀ history { pl with cluster := c }
  | drive {history : List Drive} {pl : Platform} {t : Tool} : Run settings key pl₀ history pl →
      (pl.cluster.store .tool).objects.get? key = some t →
      Run settings key pl₀ (⟨t, ((Lifecycle.tool settings).drive t pl).1⟩ :: history)
        ((Lifecycle.tool settings).drive t pl).2
  | outside {history : List Drive} {pl pl' : Platform} : Run settings key pl₀ history pl →
      pl'.Quiet → pl'.book.releases = pl.book.releases → Run settings key pl₀ history pl'

section

variable {settings : ToolSettings} {key place : Key} {pl pl₀ : Platform} {t : Tool}
  {history : List Drive}

/-- Some drive installed or upgraded a release there. -/
def installed (history : List Drive) (place : Key) : Prop :=
  ∃ d ∈ history, installs d.tool = some place

/-- Some drive installed or upgraded a release there, and none has removed it since. -/
def left : List Drive → Key → Prop
  | [], _ => False
  | d :: earlier, place =>
    installs d.tool = some place ∨ left earlier place ∧ removes d.tool ≠ some place

theorem installed_of_left (h : left history place) : installed history place := by
  induction history with
  | nil => exact h.elim
  | cons d earlier ih =>
    obtain h | ⟨h, -⟩ := h
    · exact ⟨d, List.mem_cons_self, h⟩
    · obtain ⟨d', hd', h'⟩ := ih h
      exact ⟨d', List.mem_cons_of_mem _ hd', h'⟩

/-! ## The invariant -/

/-- The drive removes the release of the tool and installs none. -/
def Removing (t : Tool) : Prop := removes t = releasePlace t ∧ installs t = none

/-- Where a release was installed there is one if it is left, and a drive that finalized or disabled
the tool removed its release. -/
structure Inv (history : List Drive) (pl : Platform) : Prop where
  quiet : pl.Quiet
  present_iff : ∀ place, installed history place → (Present place pl ↔ left history place)
  removing : ∀ d ∈ history, d.answer = .ok .finalized ∨ d.answer = .ok .disabled → Removing d.tool

/-- Only the steps that remove the release finalize or disable the tool. -/
theorem removing_of_answer
    (h : ((Lifecycle.tool settings).drive t pl).1 = .ok .finalized ∨
      ((Lifecycle.tool settings).drive t pl).1 = .ok .disabled) : Removing t := by
  have hworked := worked_drive settings t pl
  generalize ((Lifecycle.tool settings).drive t pl).1 = answer at h hworked
  cases hworked with
  | idle _ _ _ hremoved | installed _ _ _ hremoved => exact (h.elim hremoved.2 hremoved.1).elim
  | failed | barred => simp at h
  | removed hstep => exact removes_of_step hstep

theorem Run.inv (h : Run settings key pl₀ history pl) (hstart : pl₀.Quiet) :
    Inv history pl := by
  induction h with
  | start => exact ⟨hstart, fun _ ⟨_, hd, _⟩ => (nomatch hd), fun _ hd => (nomatch hd)⟩
  | edit _ _ ih =>
    exact ⟨ih.quiet.of_same rfl rfl rfl rfl, ih.present_iff, ih.removing⟩
  | outside _ hq hsame ih =>
    exact ⟨hq, fun place hplace => (Present.congr hsame).trans (ih.present_iff place hplace),
      ih.removing⟩
  | @drive history pl t _ _ ih =>
    have hshifted := shifted_drive settings t ih.quiet
    refine ⟨hshifted.quiet, fun place hplace => ?_, fun d hd hanswer => ?_⟩
    · rw [hshifted.present_iff, left]
      by_cases hinstalls : installs t = some place
      · simp [hinstalls]
      · obtain ⟨d, hd, hinstalled⟩ := hplace
        obtain rfl | hd := List.mem_cons.1 hd
        · exact absurd hinstalled hinstalls
        · rw [ih.present_iff place ⟨d, hd, hinstalled⟩]
    · obtain rfl | hd := List.mem_cons.1 hd
      · exact removing_of_answer hanswer
      · exact ih.removing d hd hanswer

/-- After the tool was finalized or disabled no release that an earlier drive installed is there,
exactly if those that were left until then are where the tool now declares its own. -/
theorem no_release_left_iff {answer : Transition} (hstart : pl₀.Quiet)
    (hrun : Run settings key pl₀ (⟨t, .ok answer⟩ :: history) pl)
    (hanswer : answer = .finalized ∨ answer = .disabled) :
    (∀ place, installed history place → ¬ Present place pl) ↔
      ∀ place, left history place → releasePlace t = some place := by
  have hinv := hrun.inv hstart
  obtain ⟨hremoves, hinstalls⟩ := hinv.removing ⟨t, .ok answer⟩ List.mem_cons_self
    (by simpa using hanswer)
  have hpresent : ∀ place, installed history place →
      (Present place pl ↔ left history place ∧ releasePlace t ≠ some place) := by
    rintro place ⟨d, hd, hinstalled⟩
    rw [hinv.present_iff place ⟨d, List.mem_cons_of_mem _ hd, hinstalled⟩, left, hinstalls,
      hremoves]
    simp
  constructor
  · intro hnone place hleft
    have hplace := installed_of_left hleft
    have hgone := hnone place hplace
    rw [hpresent place hplace] at hgone
    exact Decidable.not_not.1 fun hne => hgone ⟨hleft, hne⟩
  · intro hleft place hplace
    rw [hpresent place hplace]
    exact fun ⟨h, hne⟩ => hne (hleft place h)

end

/-! ## A tool with a release -/

namespace Sample

/-- Waits for no workload. -/
def settings : ToolSettings := { pollTimeout := .ofSeconds 0 }

def tool : Tool where
  metadata := { name := some "falco", ns := some "ops" }
  spec := { type := "falco", enabled := true }

def key : Key := ⟨"ops", "falco"⟩

def start : Platform := { cluster := (ClusterM.create tool {}).2 }

/-- The tool as it is stored. -/
def stored (pl : Platform) : Tool := (pl.cluster.tools.objects.get? key).getD tool

/-- The platform after the stored tool was driven. -/
def driven (pl : Platform) : Platform := ((Lifecycle.tool settings).drive (stored pl) pl).2

def guarded : Platform := driven start

def deployed : Platform := driven guarded

/-- The drives that lead there. -/
def history : List Drive :=
  [⟨stored guarded, .ok (.synced (some (.ofSeconds 0)))⟩, ⟨stored start, .ok .finalizerAdded⟩]

/-- The platform after the tool was deleted. -/
def deleted (pl : Platform) : Platform :=
  { pl with cluster := (ClusterM.delete .tool key.ns key.name pl.cluster).2 }

/-- The tool with another namespace for its release. -/
def move : Tool := { stored deployed with spec := { tool.spec with ns := some "security" } }

def moved : Platform := { deployed with cluster := (ClusterM.replace move deployed.cluster).2 }

/-- Where the release was installed. -/
def release : Key := ⟨"falco", "falco"⟩

theorem quiet_start : start.Quiet := ⟨rfl, fun _ h => (nomatch h), rfl, fun _ _ _ h => (nomatch h)⟩

theorem run_deployed : Run settings key start history deployed := by
  have hguarded : Run settings key start [⟨stored start, .ok .finalizerAdded⟩] guarded :=
    .drive (t := stored start) .start rfl
  exact .drive (t := stored guarded) hguarded rfl

theorem installed_history : installed history release := ⟨_, List.mem_cons_self, rfl⟩

end Sample

open Releases.Sample

/-- A tool that keeps its namespace is deleted without a trace. -/
theorem no_release_left_sample :
    Run settings key start (⟨stored (deleted deployed), .ok .finalized⟩ :: history)
        (driven (deleted deployed)) ∧
      installed history release ∧
      ∀ place, installed history place → ¬ Present place (driven (deleted deployed)) := by
  have hrun : Run settings key start (⟨stored (deleted deployed), .ok .finalized⟩ :: history)
      (driven (deleted deployed)) := .drive (run_deployed.edit (.delete key)) rfl
  refine ⟨hrun, installed_history, (no_release_left_iff quiet_start hrun (.inl rfl)).2 ?_⟩
  rintro place (h | ⟨h | ⟨h, -⟩, -⟩)
  · exact h
  · cases h
  · exact h.elim

/-- A tool whose release was to be moved is finalized and gone, and the release stays where it was. -/
theorem release_left_after_deletion :
    start.Quiet ∧
      Run settings key start (⟨stored (deleted moved), .ok .finalized⟩ :: history)
        (driven (deleted moved)) ∧
      (driven (deleted moved)).cluster.tools.objects.get? key = none ∧
      installed history release ∧ Present release (driven (deleted moved)) := by
  have hmoved : Run settings key start history moved := run_deployed.edit (.replace move)
  exact ⟨quiet_start, .drive (hmoved.edit (.delete key)) rfl, rfl, installed_history, rfl⟩

end PolicyOperator.ToolLifecycle.Releases
