import PolicyOperator.Proofs.Cluster.Reached
import PolicyOperator.Proofs.Policies.Runs
import PolicyOperator.Proofs.Reports.Published
import PolicyOperator.Proofs.Reports.Reviewed

/-!
# The pace of drawn evidence

Evidence for a report is drawn anew when the refresh interval has passed, or when the report was
edited. The time of a draw is stored at whole seconds, while it is compared with a clock that has
fractions of them. So the interval counts from the second in which a draw lies.

* A call writes exactly if evidence is due and can be written (`called_handleFalco`, `draws_iff`).
* A run of calls (`Calls`) leaves a report that shows its last draw (`Shown`). So the next call
  writes exactly when the interval has passed since the second of that draw began
  (`Shown.draws_iff_spaced`), which may be less than a second early and is never late.
* The next draw is exactly on time if and only if the last one fell on a whole second
  (`Shown.onTime_iff`).
* The first call after an edit writes unless the status already names the generation that the edit
  makes (`Edited.draws_iff`). A status that was written in the run never does, nor does one that
  names no generation to come (`Edits.draws`).

`paced_of_calls` sums this up, and `out_of_pace` shows an early draw and an edit without one. The
clock is the one of the operator, which shows no leap seconds (`Instant.Regular`).
-/

namespace PolicyOperator

namespace Instant

variable {t now : Instant}

/-- Nanoseconds since 1 January 1970, leap seconds aside. -/
def ticks (t : Instant) : Int := t.seconds * perSecond + t.nanosecond

/-- The instant lies in no leap second. -/
def Regular (t : Instant) : Prop := t.nanosecond < perSecond

instance : Decidable t.Regular := inferInstanceAs (Decidable (_ < _))

/-- When the second of an instant began. -/
def start (t : Instant) : Int := t.seconds * perSecond

theorem start_le_ticks (t : Instant) : t.start ≤ t.ticks := by
  unfold start ticks
  omega

theorem Regular.ticks_lt (ht : t.Regular) : t.ticks < t.start + perSecond := by
  unfold Regular at ht
  unfold start ticks
  omega

theorem ticks_eq_start_iff : t.ticks = t.start ↔ t.nanosecond = 0 := by
  unfold start ticks
  omega

theorem since?_self (t : Instant) : t.since? t = some ⟨0⟩ := by
  simp [since?]

/-- How long ago an instant was that is kept at whole seconds. -/
theorem since?_wholeSeconds (ht : t.Regular) :
    now.since? t.wholeSeconds =
      if t.start ≤ now.ticks then some ⟨(now.ticks - t.start).toNat⟩ else none := by
  have hwhole : t.wholeSeconds = ⟨t.seconds, 0⟩ := by
    rw [wholeSeconds, Nat.div_eq_of_lt ht, Nat.zero_mul]
  have hleap : ¬ (perSecond ≤ 0 ∧ t.seconds < now.seconds) := fun h => absurd h.1 (by decide)
  have hage : (now.seconds - t.seconds + 0) * perSecond + now.nanosecond - (0 : Nat) =
      now.ticks - t.start := by
    unfold start ticks
    rw [Int.add_zero, Int.sub_mul]
    omega
  rw [hwhole]
  simp only [since?, if_neg hleap, hage, Int.sub_nonneg]

end Instant

namespace ReportHandler

open Cluster

variable {refresh : Duration} {r r' : PolicyReport} {p : Policy} {spec : FalcoSpec} {key : Key}
  {pl pl' pl'' : Platform} {t now : Instant}

/-! ## Fresh evidence -/

/-- The interval has passed. -/
def Apart (refresh : Duration) (earlier now : Instant) : Prop :=
  earlier.ticks + refresh.nanoseconds ≤ now.ticks

instance : Decidable (Apart refresh t now) := inferInstanceAs (Decidable (_ ≤ _))

/-- The interval has passed since the second began in which the earlier instant lies. -/
def Spaced (refresh : Duration) (earlier now : Instant) : Prop :=
  earlier.start + refresh.nanoseconds ≤ now.ticks

theorem Apart.spaced (h : Apart refresh t now) : Spaced refresh t now := by
  have hstart := t.start_le_ticks
  unfold Apart at h
  unfold Spaced
  omega

/-- Less than a second may be missing. -/
theorem Spaced.nearly (h : Spaced refresh t now) (ht : t.Regular) :
    t.ticks + refresh.nanoseconds < now.ticks + Instant.perSecond := by
  have hlt := ht.ticks_lt
  unfold Spaced at h
  omega

theorem Spaced.mono (h : Spaced refresh t now) {later : Instant} (hle : now.ticks ≤ later.ticks) :
    Spaced refresh t later := by
  unfold Spaced at *
  omega

/-- The report shows evidence for its generation that was drawn at an instant. -/
def Evident (t : Instant) (r : PolicyReport) : Prop :=
  ∃ s, r.status = some s ∧ s.phase = .completed ∧
    s.observedGeneration = r.metadata.generation ∧ s.refreshedAt = some t.wholeSeconds

theorem isFresh_eq_false_iff (h : Evident t r) (ht : t.Regular) (hle : t.ticks ≤ now.ticks) :
    isFresh refresh now r = false ↔ Spaced refresh t now := by
  obtain ⟨s, hs, hphase, hobserved, hat⟩ := h
  have hstart : t.start ≤ now.ticks := Int.le_trans t.start_le_ticks hle
  unfold isFresh Spaced
  rw [hs]
  simp [hphase, hobserved, hat, Instant.since?_wholeSeconds ht, if_pos hstart]
  omega

/-- The evidence that would be drawn now is not there yet, unless it was drawn just now. -/
theorem not_shows_of_stale (hrefresh : 0 < refresh.nanoseconds)
    (h : isFresh refresh now r = false) (spec : FalcoSpec) (findings : Nat)
    (pods : List PodDetail) : ¬ Shows r (drawnStatus r spec findings pods now) := by
  intro hshows
  obtain ⟨s, hs, heq⟩ := Option.map_eq_some_iff.1 hshows
  have hphase : s.phase = .completed := congrArg ReportStatus.phase heq
  have hobserved : s.observedGeneration = r.metadata.generation :=
    congrArg ReportStatus.observedGeneration heq
  have hat : s.refreshedAt = some now := congrArg ReportStatus.refreshedAt heq
  unfold isFresh at h
  rw [hs] at h
  simp [hphase, hobserved, hat, Instant.since?_self] at h
  omega

/-! ## Calls -/

/-- A call finds that evidence is due, and can write. -/
structure Drawable (refresh : Duration) (r : PolicyReport) (p : Policy) (pl : Platform) : Prop where
  typed : ∃ spec, p.spec.typed = .ok (.falco spec)
  stale : isFresh refresh pl.cluster.clock r = false
  working : (pl.cluster.store .policyReport).failing = false

/-- What a call comes to. -/
inductive Called (refresh : Duration) (r : PolicyReport) (p : Policy) (key : Key) (pl : Platform) :
    Platform → Prop
  | idle {pl' : Platform} : pl'.cluster = pl.cluster → ¬ Drawable refresh r p pl →
      Called refresh r p key pl pl'
  | drawn {pl' : Platform} {r' : PolicyReport} : Drawable refresh r p pl →
      (pl'.cluster.store .policyReport).writes = (pl.cluster.store .policyReport).writes + 1 →
      Filed key (some r') pl.cluster pl'.cluster → r'.key = .ok key →
      Evident pl.cluster.clock r' → Called refresh r p key pl pl'

theorem Called.clock (h : Called refresh r p key pl pl') :
    pl'.cluster.clock = pl.cluster.clock := by
  cases h with
  | idle hsame => rw [hsame]
  | drawn _ _ hfiled => exact hfiled.confined.clock

theorem called_handleFalco (hrefresh : 0 < refresh.nanoseconds) (hkey : r.key = .ok key)
    (hstored : (pl.cluster.store .policyReport).objects.get? key = some r) (p : Policy) :
    Called refresh r p key pl (handleFalco refresh r p pl).2 := by
  refine Ends.state ?_
  unfold handleFalco
  rw [ends_bind, ends_liftM]
  rcases htyped : p.spec.typed with e | part
  · exact .idle rfl fun h => nomatch htyped.symm.trans h.typed.choose_spec
  cases part with
  | trivy | litmus => exact .idle rfl fun h => nomatch htyped.symm.trans h.typed.choose_spec
  | falco spec =>
    simp only [ends_bind, ends_get]
    split
    · next hfresh => exact .idle rfl fun h => absurd hfresh (by simp [h.stale])
    · next hstale =>
      have hstale : isFresh refresh pl.cluster.clock r = false := by simpa using hstale
      rw [ends_bind]
      refine (ends_draw pl).mono (fun drawn pl₁ hdraw => ?_) fun _ _ h => h.elim
      obtain ⟨findings, pods⟩ := drawn
      dsimp only
      -- drawing leaves the cluster alone, so the status is published to the stored report
      rw [ends_discard, PlatformM.ends_onCluster, hdraw]
      refine (ends_publish_of_not_shows
        (not_shows_of_stale hrefresh hstale spec findings pods) hkey hstored).mono
        (fun _ c' h => ?_) fun _ c' h => ?_
      · obtain ⟨version, hfiled⟩ := h.filed
        exact .drawn ⟨⟨spec, htyped⟩, hstale, h.working⟩ h.writes hfiled
          ((Object.key_congr rfl rfl).trans hkey) ⟨_, rfl, rfl, rfl, rfl⟩
      · exact .idle h.2 fun hdue => absurd h.1 (by simp [hdue.working])

/-- A call writes the status. -/
def Draws (refresh : Duration) (r : PolicyReport) (p : Policy) (pl : Platform) : Prop :=
  ((handleFalco refresh r p pl).2.cluster.store .policyReport).writes =
    (pl.cluster.store .policyReport).writes + 1

instance : Decidable (Draws refresh r p pl) := inferInstanceAs (Decidable (_ = _))

theorem draws_iff (hrefresh : 0 < refresh.nanoseconds) (hkey : r.key = .ok key)
    (hstored : (pl.cluster.store .policyReport).objects.get? key = some r) :
    Draws refresh r p pl ↔ Drawable refresh r p pl := by
  unfold Draws
  cases called_handleFalco hrefresh hkey hstored p with
  | idle hsame hidle =>
    rw [hsame]
    exact iff_of_false (by omega) hidle
  | drawn hdrawable hwrites => exact iff_of_true hwrites hdrawable

/-! ## Runs -/

/-- Others leave the report alone, and time goes on. -/
structure Aside (key : Key) (pl pl' : Platform) : Prop where
  report : (pl'.cluster.store .policyReport).objects.get? key =
    (pl.cluster.store .policyReport).objects.get? key
  clock : pl.cluster.clock.ticks ≤ pl'.cluster.clock.ticks

/-- A run of calls, each with the report as it is stored then. Between them others leave it alone.
The times of the writes are listed, the last one first. -/
inductive Calls (refresh : Duration) (key : Key) (pl : Platform) : List Instant → Platform → Prop
  | start : Calls refresh key pl [] pl
  | call {times : List Instant} {pl' : Platform} {r : PolicyReport} (p : Policy) :
      Calls refresh key pl times pl' → pl'.cluster.clock.Regular →
      (pl'.cluster.store .policyReport).objects.get? key = some r →
      Calls refresh key pl
        (if Draws refresh r p pl' then pl'.cluster.clock :: times else times)
        (handleFalco refresh r p pl').2
  | aside {times : List Instant} {pl' pl'' : Platform} : Calls refresh key pl times pl' →
      Aside key pl' pl'' → Calls refresh key pl times pl''

theorem Calls.draw {times : List Instant} (h : Calls refresh key pl times pl')
    (hregular : pl'.cluster.clock.Regular)
    (hstored : (pl'.cluster.store .policyReport).objects.get? key = some r)
    (hdraws : Draws refresh r p pl') :
    Calls refresh key pl (pl'.cluster.clock :: times) (handleFalco refresh r p pl').2 := by
  have hcall := h.call p hregular hstored
  rwa [if_pos hdraws] at hcall

/-- What the report shows in a run: what was drawn last, if anything was. -/
structure Shown (refresh : Duration) (key : Key) (times : List Instant) (pl : Platform) : Prop where
  filed : ∀ r, (pl.cluster.store .policyReport).objects.get? key = some r → r.key = .ok key
  regular : ∀ t ∈ times, t.Regular
  latest : ∀ t, times.head? = some t → t.ticks ≤ pl.cluster.clock.ticks ∧
    ∃ r, (pl.cluster.store .policyReport).objects.get? key = some r ∧ Evident t r
  spaced : times.Pairwise fun later earlier => Spaced refresh earlier later

theorem Shown.aside {times : List Instant} (h : Shown refresh key times pl)
    (haside : Aside key pl pl') : Shown refresh key times pl' := by
  refine ⟨fun r hget => h.filed r (haside.report.symm.trans hget), h.regular, fun t ht => ?_,
    h.spaced⟩
  obtain ⟨hle, r, hget, hevident⟩ := h.latest t ht
  exact ⟨Int.le_trans hle haside.clock, r, haside.report.trans hget, hevident⟩

/-- What a call does after a write. -/
theorem Shown.draws_iff_spaced {times : List Instant} (h : Shown refresh key (t :: times) pl)
    (hrefresh : 0 < refresh.nanoseconds)
    (hstored : (pl.cluster.store .policyReport).objects.get? key = some r)
    (htyped : p.spec.typed = .ok (.falco spec))
    (hworking : (pl.cluster.store .policyReport).failing = false) :
    Draws refresh r p pl ↔ Spaced refresh t pl.cluster.clock := by
  obtain ⟨hle, r', hget, hevident⟩ := h.latest t rfl
  obtain rfl := Option.some.inj (hstored.symm.trans hget)
  have hfresh : isFresh refresh pl.cluster.clock r = false ↔ Spaced refresh t pl.cluster.clock :=
    isFresh_eq_false_iff hevident (h.regular t List.mem_cons_self) hle
  rw [draws_iff hrefresh (h.filed r hstored) hstored, ← hfresh]
  exact ⟨fun hdrawable => hdrawable.stale, fun hstale => ⟨⟨spec, htyped⟩, hstale, hworking⟩⟩

/-- The next write is spaced from all earlier ones. -/
theorem Shown.spaced_cons {times : List Instant} (h : Shown refresh key times pl)
    (hstored : (pl.cluster.store .policyReport).objects.get? key = some r)
    (hstale : isFresh refresh pl.cluster.clock r = false) :
    (pl.cluster.clock :: times).Pairwise fun later earlier => Spaced refresh earlier later := by
  refine List.pairwise_cons.2 ⟨?_, h.spaced⟩
  cases times with
  | nil => exact nofun
  | cons t rest =>
    obtain ⟨hle, r', hget, hevident⟩ := h.latest t rfl
    obtain rfl := Option.some.inj (hstored.symm.trans hget)
    have hregular := h.regular t List.mem_cons_self
    -- the writes before the last one lie further back
    refine List.forall_mem_cons.2 ⟨(isFresh_eq_false_iff hevident hregular hle).1 hstale,
      fun earlier hmem => ?_⟩
    exact ((List.pairwise_cons.1 h.spaced).1 earlier hmem).mono hle

theorem Shown.call {times : List Instant} (h : Shown refresh key times pl)
    (hrefresh : 0 < refresh.nanoseconds) (hregular : pl.cluster.clock.Regular)
    (hstored : (pl.cluster.store .policyReport).objects.get? key = some r) (p : Policy) :
    Shown refresh key (if Draws refresh r p pl then pl.cluster.clock :: times else times)
      (handleFalco refresh r p pl).2 := by
  have hkey := h.filed r hstored
  have hdraws := draws_iff (p := p) hrefresh hkey hstored
  have hcalled := called_handleFalco hrefresh hkey hstored p
  generalize (handleFalco refresh r p pl).2 = pl' at hcalled
  cases hcalled with
  | idle hsame hidle =>
    rw [if_neg (mt hdraws.1 hidle)]
    exact h.aside ⟨by rw [hsame], Int.le_of_eq (by rw [hsame])⟩
  | @drawn r' hdrawable _ hfiled hkey' hevident =>
    rw [if_pos (hdraws.2 hdrawable)]
    refine ⟨fun r'' hget => ?_, List.forall_mem_cons.2 ⟨hregular, h.regular⟩, fun t ht => ?_,
      h.spaced_cons hstored hdrawable.stale⟩
    · obtain rfl := Option.some.inj (hfiled.self.symm.trans hget)
      exact hkey'
    · obtain rfl := Option.some.inj ht
      exact ⟨Int.le_of_eq (by rw [hfiled.confined.clock]), r', hfiled.self, hevident⟩

theorem Calls.shown {times : List Instant} (h : Calls refresh key pl times pl')
    (hrefresh : 0 < refresh.nanoseconds)
    (hfiled : ∀ r, (pl.cluster.store .policyReport).objects.get? key = some r → r.key = .ok key) :
    Shown refresh key times pl' := by
  induction h with
  | start => exact ⟨hfiled, nofun, nofun, .nil⟩
  | call p _ hregular hstored ih => exact ih.call hrefresh hregular hstored p
  | aside _ haside ih => exact ih.aside haside

/-! ## Whole seconds -/

/-- After a write at an instant, the next one comes exactly when the interval has passed, whenever
calls are made. -/
def OnTime (refresh : Duration) (key : Key) (t : Instant) (pl : Platform) : Prop :=
  ∀ (pl' : Platform) (r : PolicyReport) (p : Policy) (spec : FalcoSpec), Aside key pl pl' →
    pl'.cluster.clock.Regular → (pl'.cluster.store .policyReport).objects.get? key = some r →
    p.spec.typed = .ok (.falco spec) → (pl'.cluster.store .policyReport).failing = false →
    (Draws refresh r p pl' ↔ Apart refresh t pl'.cluster.clock)

/-- The instant at some nanosecond. -/
def atTick (n : Int) : Instant := ⟨n / Instant.perSecond, (n % Instant.perSecond).toNat⟩

theorem ticks_atTick (n : Int) : (atTick n).ticks = n := by
  unfold atTick Instant.ticks
  have hpos : (0 : Int) < Instant.perSecond := by decide
  have hnonneg := Int.emod_nonneg n (Int.ne_of_gt hpos)
  rw [Int.toNat_of_nonneg hnonneg, Int.mul_comm, Int.mul_ediv_add_emod]

theorem regular_atTick (n : Int) : (atTick n).Regular := by
  have hpos : (0 : Int) < Instant.perSecond := by decide
  have hnonneg := Int.emod_nonneg n (Int.ne_of_gt hpos)
  exact (Int.toNat_lt hnonneg).2 (Int.emod_lt_of_pos n hpos)

/-- Only times at whole seconds are stored as they are. -/
theorem Shown.onTime_iff {times : List Instant} (h : Shown refresh key (t :: times) pl)
    (hclock : pl.cluster.clock = t) (hrefresh : 0 < refresh.nanoseconds)
    (htyped : p.spec.typed = .ok (.falco spec)) : OnTime refresh key t pl ↔ t.nanosecond = 0 := by
  constructor
  · intro hontime
    -- the first instant at which a call writes, and writes work then
    let n := max t.ticks (t.start + refresh.nanoseconds)
    let pl' : Platform := { pl with cluster := { pl.cluster with
      clock := atTick n
      reports := { pl.cluster.reports with failing := false } } }
    have hn : pl'.cluster.clock.ticks = n := ticks_atTick n
    have haside : Aside key pl pl' := ⟨rfl, by rw [hn, hclock]; exact Int.le_max_left ..⟩
    obtain ⟨-, r, hget, -⟩ := h.latest t rfl
    have hdraws : Draws refresh r p pl' :=
      ((h.aside haside).draws_iff_spaced hrefresh hget htyped rfl).2 (by
        unfold Spaced
        rw [hn]
        exact Int.le_max_right ..)
    have hapart := (hontime pl' r p spec haside (regular_atTick n) hget htyped rfl).1 hdraws
    have hstart := t.start_le_ticks
    rw [← Instant.ticks_eq_start_iff]
    unfold Apart at hapart
    rw [hn] at hapart
    omega
  · intro hzero pl' r p spec haside _ hget htyped hworking
    have hticks := Instant.ticks_eq_start_iff.2 hzero
    rw [(h.aside haside).draws_iff_spaced hrefresh hget htyped hworking, Spaced, Apart, hticks]

/-! ## Edits -/

/-- Somebody replaces the report by one with another spec, and time goes on. -/
structure Edited (key : Key) (r r' : PolicyReport) (pl pl' : Platform) : Prop where
  before : (pl.cluster.store .policyReport).objects.get? key = some r
  replaced : ∃ o s, (pl.cluster.store .policyReport).replace o = .ok (r', s) ∧ o.key = .ok key ∧
    ResourceKind.sameSpec .policyReport r.spec o.spec = false
  after : (pl'.cluster.store .policyReport).objects.get? key = some r'
  clock : pl.cluster.clock.ticks ≤ pl'.cluster.clock.ticks

/-- The status names the generation that the next edit makes, with evidence that is fresh. -/
def Ahead (refresh : Duration) (now : Instant) (r : PolicyReport) : Prop :=
  ∃ s, r.status = some s ∧ s.phase = .completed ∧
    s.observedGeneration = some (r.metadata.generation.getD 1 + 1) ∧
    ∃ t age, s.refreshedAt = some t ∧ now.since? t.wholeSeconds = some age ∧
      age.nanoseconds < refresh.nanoseconds

theorem Edited.replacement (h : Edited key r r' pl pl') :
    r'.key = .ok key ∧ r'.status = r.status.map ReportStatus.wholeSeconds ∧
      r'.metadata.generation = some (r.metadata.generation.getD 1 + 1) := by
  obtain ⟨o, s, hreplace, hkey, hspec⟩ := h.replaced
  obtain ⟨-, key', current, hkey', hcurrent, -, rfl, -⟩ := Store.replace_eq_ok_iff.1 hreplace
  obtain rfl : key' = key := by simpa [hkey] using hkey'.symm
  obtain rfl := Option.some.inj (h.before.symm.trans hcurrent)
  refine ⟨(Object.key_congr rfl rfl).trans hkey, rfl, ?_⟩
  rw [Store.generation_replacement, ResourceKind.sameSpec_specWholeSeconds, hspec]
  rfl

theorem Edited.isFresh_iff (h : Edited key r r' pl pl') :
    isFresh refresh now r' = true ↔ Ahead refresh now r := by
  obtain ⟨-, hstatus, hgeneration⟩ := h.replacement
  unfold isFresh Ahead
  rw [hstatus, hgeneration]
  cases r.status with
  | none => simp
  | some s =>
    obtain ⟨phase, summary, details, observed, refreshed⟩ := s
    cases refreshed with
    | none => simp [ReportStatus.wholeSeconds]
    | some t =>
      cases hage : now.since? t.wholeSeconds <;> simp [ReportStatus.wholeSeconds, hage, and_assoc]

/-- The first call after an edit writes, unless the status was ahead. -/
theorem Edited.draws_iff (h : Edited key r r' pl pl') (hrefresh : 0 < refresh.nanoseconds)
    (htyped : p.spec.typed = .ok (.falco spec))
    (hworking : (pl'.cluster.store .policyReport).failing = false) :
    Draws refresh r' p pl' ↔ ¬ Ahead refresh pl'.cluster.clock r := by
  rw [ReportHandler.draws_iff hrefresh h.replacement.1 h.after, ← h.isFresh_iff,
    Bool.not_eq_true]
  exact ⟨fun hdrawable => hdrawable.stale, fun hstale => ⟨⟨spec, htyped⟩, hstale, hworking⟩⟩

/-- The status names no generation that the report has not reached. -/
def Behind (r : PolicyReport) : Prop :=
  ∀ s g, r.status = some s → s.observedGeneration = some g → g ≤ r.metadata.generation.getD 1

theorem Behind.not_ahead (h : Behind r) : ¬ Ahead refresh now r := by
  rintro ⟨s, hs, -, hobserved, -⟩
  have hle := h s _ hs hobserved
  omega

theorem Evident.behind (h : Evident t r) : Behind r := by
  obtain ⟨s, hs, -, hobserved, -⟩ := h
  intro s' g hs' hg
  obtain rfl := Option.some.inj (hs.symm.trans hs')
  simp [← hobserved, hg]

theorem Edited.behind (h : Edited key r r' pl pl') (hbehind : Behind r) : Behind r' := by
  obtain ⟨-, hstatus, hgeneration⟩ := h.replacement
  intro s g hs hg
  obtain ⟨before, hbefore, rfl⟩ := Option.map_eq_some_iff.1 (hstatus.symm.trans hs)
  have hle := hbehind before g hbefore hg
  rw [hgeneration, Option.getD_some]
  omega

/-- Some edits, one at least, after which the report is this one. -/
inductive Edits (key : Key) (pl : Platform) : PolicyReport → Platform → Prop
  | first {r r' : PolicyReport} {pl' : Platform} : Edited key r r' pl pl' → Edits key pl r' pl'
  | next {r r' : PolicyReport} {pl' pl'' : Platform} : Edits key pl r pl' →
      Edited key r r' pl' pl'' → Edits key pl r' pl''

/-- The status falls behind with every edit, so it was before the last one. -/
theorem Edits.last (h : Edits key pl r' pl')
    (hbehind : ∀ r, (pl.cluster.store .policyReport).objects.get? key = some r → Behind r) :
    ∃ r pl₁, Edited key r r' pl₁ pl' ∧ Behind r := by
  induction h with
  | first hedited => exact ⟨_, _, hedited, hbehind _ hedited.before⟩
  | next _ hedited ih =>
    obtain ⟨_, _, hlast, hbefore⟩ := ih
    exact ⟨_, _, hedited, hlast.behind hbefore⟩

theorem Edits.draws (h : Edits key pl r' pl')
    (hbehind : ∀ r, (pl.cluster.store .policyReport).objects.get? key = some r → Behind r)
    (hrefresh : 0 < refresh.nanoseconds) (htyped : p.spec.typed = .ok (.falco spec))
    (hworking : (pl'.cluster.store .policyReport).failing = false) : Draws refresh r' p pl' := by
  obtain ⟨r, _, hedited, hbefore⟩ := h.last hbehind
  exact (hedited.draws_iff hrefresh htyped hworking).2 hbefore.not_ahead

/-- As long as nothing is written, the report is the one at the start. -/
theorem Calls.unchanged {times : List Instant} (h : Calls refresh key pl times pl')
    (hrefresh : 0 < refresh.nanoseconds)
    (hfiled : ∀ r, (pl.cluster.store .policyReport).objects.get? key = some r → r.key = .ok key)
    (hnone : times = []) : (pl'.cluster.store .policyReport).objects.get? key =
      (pl.cluster.store .policyReport).objects.get? key := by
  induction h with
  | start => rfl
  | @call times pl' r p hbefore _ hstored ih =>
    have hkey := (hbefore.shown hrefresh hfiled).filed r hstored
    have hdraws := ReportHandler.draws_iff (p := p) hrefresh hkey hstored
    split at hnone
    · cases hnone
    · next hidle =>
      cases called_handleFalco hrefresh hkey hstored p with
      | idle hsame => rw [hsame, ih hnone]
      | drawn hdrawable => exact absurd (hdraws.2 hdrawable) hidle
  | aside _ haside ih => rw [haside.report, ih hnone]

/-- A write puts the status right. -/
theorem Calls.behind {times : List Instant} (h : Calls refresh key pl times pl')
    (hrefresh : 0 < refresh.nanoseconds)
    (hfiled : ∀ r, (pl.cluster.store .policyReport).objects.get? key = some r → r.key = .ok key)
    (hbehind : times ≠ [] ∨
      ∀ r, (pl.cluster.store .policyReport).objects.get? key = some r → Behind r)
    (hget : (pl'.cluster.store .policyReport).objects.get? key = some r) : Behind r := by
  cases times with
  | nil =>
    rw [h.unchanged hrefresh hfiled rfl] at hget
    exact hbehind.resolve_left (fun hne => hne rfl) r hget
  | cons t rest =>
    obtain ⟨-, r', hget', hevident⟩ := (h.shown hrefresh hfiled).latest t rfl
    obtain rfl := Option.some.inj (hget.symm.trans hget')
    exact hevident.behind

/-! ## The law -/

/-- The pace of the writes of a run, and of those that may come next. -/
structure Paced (refresh : Duration) (key : Key) (pl : Platform) (times : List Instant)
    (pl' : Platform) : Prop where
  /-- Of two writes the later one comes when the interval has passed since the second began in which
  the earlier one lies. So less than a second is missing. -/
  spaced : times.Pairwise fun later earlier => Spaced refresh earlier later ∧
    earlier.ticks + refresh.nanoseconds < later.ticks + Instant.perSecond
  /-- A call writes exactly then, and in particular once the interval has passed. -/
  next : ∀ t r p spec, times.head? = some t →
    (pl'.cluster.store .policyReport).objects.get? key = some r →
    p.spec.typed = .ok (.falco spec) → (pl'.cluster.store .policyReport).failing = false →
    (Draws refresh r p pl' ↔ Spaced refresh t pl'.cluster.clock) ∧
      (Apart refresh t pl'.cluster.clock → Draws refresh r p pl')
  /-- The interval is kept exactly after the writes that fall on a whole second. -/
  whole : ∀ r p, (pl'.cluster.store .policyReport).objects.get? key = some r →
    pl'.cluster.clock.Regular → Draws refresh r p pl' →
    (OnTime refresh key pl'.cluster.clock (handleFalco refresh r p pl').2 ↔
      pl'.cluster.clock.nanosecond = 0)
  /-- The first call after an edit writes unless the status was ahead of the report. -/
  edited : ∀ r r' pl'' p spec, Edited key r r' pl' pl'' → p.spec.typed = .ok (.falco spec) →
    (pl''.cluster.store .policyReport).failing = false →
    (Draws refresh r' p pl'' ↔ ¬ Ahead refresh pl''.cluster.clock r)
  /-- It never is ahead after a write, nor if it was behind at the start. -/
  behind : (times ≠ [] ∨
      ∀ r, (pl.cluster.store .policyReport).objects.get? key = some r → Behind r) →
    ∀ r' pl'' p spec, Edits key pl' r' pl'' → p.spec.typed = .ok (.falco spec) →
    (pl''.cluster.store .policyReport).failing = false → Draws refresh r' p pl''

/-- Evidence is drawn once in an interval that is counted from whole seconds. -/
theorem paced_of_calls {times : List Instant} (hc : pl.cluster.Reached)
    (hrefresh : 0 < refresh.nanoseconds) (h : Calls refresh key pl times pl') :
    Paced refresh key pl times pl' := by
  have hfiled := hc.filed .policyReport key
  have hshown := h.shown hrefresh hfiled
  refine ⟨?_, fun t r p spec hhead hget htyped hworking => ?_, fun r p hget hregular hdraws => ?_,
    fun r r' pl'' p spec hedited htyped hworking => hedited.draws_iff hrefresh htyped hworking,
    fun hbehind r' pl'' p spec hedits htyped hworking => hedits.draws
      (fun r => h.behind hrefresh hfiled hbehind) hrefresh htyped hworking⟩
  · exact hshown.spaced.imp_of_mem fun _ hmem hspaced =>
      ⟨hspaced, hspaced.nearly (hshown.regular _ hmem)⟩
  · obtain ⟨rest, rfl⟩ : ∃ rest, times = t :: rest := List.head?_eq_some_iff.1 hhead
    have hdraws := hshown.draws_iff_spaced (p := p) hrefresh hget htyped hworking
    exact ⟨hdraws, fun hapart => hdraws.2 hapart.spaced⟩
  · have hdrawable := (ReportHandler.draws_iff hrefresh (hshown.filed r hget) hget).1 hdraws
    obtain ⟨spec, htyped⟩ := hdrawable.typed
    have hafter := hshown.call hrefresh hregular hget p
    rw [if_pos hdraws] at hafter
    exact hafter.onTime_iff
      (called_handleFalco hrefresh (hshown.filed r hget) hget p).clock hrefresh htyped

namespace Paced.Sample

def minute : Duration := .ofSeconds 60

def reportKey : Key := ⟨"shop", "falco-report-shells"⟩

def policy : Policy := PolicyOperator.Sample.policy

/-- The platform at another time. -/
def clocked (now : Instant) (pl : Platform) : Platform :=
  { pl with cluster := { pl.cluster with clock := now } }

/-- The platform after a write by somebody. -/
def wrote (x : ClusterM α) (pl : Platform) : Platform := { pl with cluster := (x pl.cluster).2 }

/-- The report as it is stored. -/
def stored (pl : Platform) : PolicyReport :=
  (pl.cluster.reports.objects.get? reportKey).getD (Artifact.report policy .falco)

/-- The platform after a call. -/
def called (pl : Platform) : Platform := (handleFalco minute (stored pl) policy pl).2

/-- The report is new, and it is almost eleven seconds past midnight. -/
def start : Platform :=
  clocked ⟨10, 900000000⟩ (wrote (ClusterM.create (Artifact.report policy .falco)) {})

/-- A minute after the second in which the report was written. -/
def minuteAfter : Platform := clocked ⟨70, 0⟩ (called start)

/-- The report for another generation of the policy. -/
def edit (generation : Int) (r : PolicyReport) : PolicyReport :=
  { r with spec := { r.spec with policyRef := { r.spec.policyRef with generation := generation } } }

/-- The platform after the report was edited. -/
def edited (generation : Int) (pl : Platform) : Platform :=
  wrote (ClusterM.replace (edit generation (stored pl))) pl

/-- The report was written at its second generation, deleted, and created again from a copy. -/
def restored : Platform :=
  let before := called (edited 2 (called start))
  wrote (ClusterM.create (stored before))
    (wrote (ClusterM.delete .policyReport reportKey.ns reportKey.name) before)

theorem reached_start : start.cluster.Reached :=
  reached_empty.later ((ClusterM.later_create (Artifact.report policy .falco)).state {})

theorem calls_once : Calls minute reportKey start [⟨10, 900000000⟩] minuteAfter :=
  (Calls.start.draw (r := stored start) (p := policy) (by decide) (by decide +kernel)
    (by decide +kernel)).aside ⟨rfl, by decide +kernel⟩

theorem get?_minuteAfter :
    minuteAfter.cluster.reports.objects.get? reportKey = some (stored minuteAfter) := by
  decide +kernel

theorem draws_minuteAfter : Draws minute (stored minuteAfter) policy minuteAfter := by
  decide +kernel

end Paced.Sample

open Paced.Sample in
/-- The report was written at second 10.9 and is written again at second 70. The write after that
will be on time. -/
theorem paced_sample :
    Paced minute reportKey start [⟨10, 900000000⟩] minuteAfter ∧
      OnTime minute reportKey ⟨70, 0⟩ (called minuteAfter) := by
  have hpaced := paced_of_calls reached_start (by decide) calls_once
  have hontime := hpaced.whole (stored minuteAfter) policy get?_minuteAfter (by decide)
    draws_minuteAfter
  exact ⟨hpaced, hontime.2 rfl⟩

open Paced.Sample in
/-- The write at second 70 is early. And a report whose status is ahead of it, for it was created
from a copy, is not written after an edit. -/
theorem out_of_pace :
    start.cluster.Reached ∧
      Calls minute reportKey start [⟨70, 0⟩, ⟨10, 900000000⟩] (called minuteAfter) ∧
      ¬ Apart minute ⟨10, 900000000⟩ ⟨70, 0⟩ ∧
      Edited reportKey (stored restored) (stored (edited 3 restored)) restored
        (edited 3 restored) ∧
      (edited 3 restored).cluster.reports.failing = false ∧
      ¬ Draws minute (stored (edited 3 restored)) policy (edited 3 restored) := by
  have hreplaced : restored.cluster.reports.replace (edit 3 (stored restored)) =
      .ok (stored (edited 3 restored), (edited 3 restored).cluster.reports) := rfl
  have hedited : Edited reportKey (stored restored) (stored (edited 3 restored)) restored
      (edited 3 restored) :=
    ⟨by decide +kernel, ⟨_, _, hreplaced, rfl, rfl⟩, by decide +kernel, by decide +kernel⟩
  have htwice := calls_once.draw (by decide) get?_minuteAfter draws_minuteAfter
  exact ⟨reached_start, htwice, by decide, hedited, rfl, by decide +kernel⟩

end ReportHandler

end PolicyOperator
