import PolicyOperator.Proofs.Release.Calls

/-!
# Releases on a quiet platform

When nothing gets in the way of charts, installing a tool leaves its release in the book and
removing it leaves none (`ends_ensureInstalled`, `Uninstalled.shifted`), and no other release comes
or goes (`Shifted`). What only looks at charts keeps that (`Shifted.browsed`).
-/

namespace PolicyOperator

namespace Platform

variable {pl pl' pl'' : Platform} {place : Key} {added removed : Option Key}
  {due : ChartCall → Prop}

/-- There is a release at a place. -/
def Present (place : Key) (pl : Platform) : Prop := (pl.book.releases.get? place).isSome

/-- The platform is quiet. Compared to another one, it has a release at the place that was added, if
any, and none at the place that was cleared. -/
structure Shifted (added removed : Option Key) (pl pl' : Platform) : Prop where
  quiet : pl'.Quiet
  present_iff : ∀ place,
    Present place pl' ↔ added = some place ∨ Present place pl ∧ removed ≠ some place

theorem Present.congr (h : pl'.book.releases = pl.book.releases) :
    Present place pl' ↔ Present place pl := by
  rw [Present, Present, h]

theorem Browsed.shifted (h : Browsed pl pl') (hq : pl.Quiet) : Shifted none none pl pl' :=
  ⟨(h.steady hq).1, fun place => by simp [Present.congr h.releases]⟩

theorem Shifted.browsed (h : Shifted added removed pl pl') (hb : Browsed pl' pl'') :
    Shifted added removed pl pl'' :=
  ⟨(hb.steady h.quiet).1, fun place => (Present.congr hb.releases).trans (h.present_iff place)⟩

/-- The release that a change deployed is there. -/
theorem Handled.shifted {r : ReleaseRequest}
    (h : Handled due (pl.book.deploy r).releases pl pl') (hq : pl.Quiet) :
    Shifted (some ⟨r.ns, r.release⟩) none pl pl' := by
  refine ⟨h.quiet hq, fun place => ?_⟩
  rw [Present, h.releases]
  obtain ⟨⟨release, -, hget⟩, hothers⟩ := pl.book.get?_deploy r
  by_cases he : place = ⟨r.ns, r.release⟩
  · simp [he, hget]
  · simp [hothers place he, Present, Ne.symm he]

end Platform

/-! ## Packages -/

namespace Package

open Platform PlatformM

variable {pl pl' : Platform} {t : Tool}

/-- On a quiet platform the release of a tool of a known type is installed or upgraded. -/
theorem ends_ensureInstalled (settings : ToolSettings) (hq : pl.Quiet) {p : Profile} {ns : String}
    (hprofile : profile t = .ok (p, ns)) :
    Ends (ensureInstalled settings t) pl (fun _ => Shifted (releasePlace t) none pl)
      fun _ _ => False := by
  refine (ends_ensureInstalled_call settings t pl).mono (fun _ pl' h => ?_) fun _ _ h => ?_
  · obtain ⟨-, p', ns', hprofile', hhandled⟩ := h
    rw [releasePlace_of_profile hprofile']
    exact hhandled.shifted hq
  · obtain ⟨e, he⟩ := h.2 hq
    cases hprofile.symm.trans he

/-- On a quiet platform a removal clears the place of the tool's release. -/
theorem Uninstalled.shifted (h : Uninstalled t pl pl') (hq : pl.Quiet) :
    Shifted none (releasePlace t) pl pl' := by
  obtain ⟨place, hplace, -, rfl⟩ | ⟨hnone, rfl⟩ := h
  · refine ⟨hq.uninstalled place, fun place' => ?_⟩
    rw [hplace, Present, Platform.uninstalled, ReleaseBook.remove, SortedMap.get?_erase]
    by_cases he : place' = place
    · simp [he]
    · simp [he, Present, Ne.symm he]
  · rw [hnone]
    exact (Std.Refl.refl (r := Browsed) pl').shifted hq

end Package

end PolicyOperator
