import Mathlib.Algebra.Order.Floor.Div
import Mathlib.Data.List.TakeWhile
import PolicyOperator.Proofs.Computation
import PolicyOperator.Release.Package

/-!
# Bounded polling

A poll probes at once, after every interval, and a last time when the ceiling is reached. Probes
take no time, so probe `k` is `due` at a time that is known beforehand, and `last` numbers the last.

* On a platform that stops nobody before then (`Platform.StopsAt`) a poll gets to a probe at its
  time as long as the probes before were not ready (`run_until`). This is the only induction: a step
  of it is one round (`untilReady_due`) with a pause that takes its time (`pause_of_before`).
* The first probe with another answer, or the last, settles the poll (`SettledBy`, `run_settled`).
* A pause that the token interrupts ends the poll as well (`pause_of_after`, `pause_of_cancelled`),
  and then the probes that were due by then have been made (`lt_succ_iff_due_le`, `CutShort`).

`ends_poll` puts these together. That more probes are allowed than `maxProbes` makes no difference.
Waiting for a tool is such a poll (`Package.waitHealthy_eq_poll`). Only if there is no interval the
tool is watched instead: each pause takes an event from the agenda or ends the time, so the rounds
that are allowed suffice (`Package.ends_watchHealth`, `Package.ends_waitHealthy`).
-/

namespace PolicyOperator

/-! ## Being told to stop -/

namespace Platform

variable {pl : Platform} {stop : Option Nat} {reading : Duration}

/-- The operator has not been told to stop, and it is going to be at the readings of the timer that
`stop` gives: one or none. -/
structure StopsAt (stop : Option Nat) (pl : Platform) : Prop where
  running : pl.cancelled = false
  due_iff : ∀ r, (∃ e ∈ pl.agenda, e.2.isCancel = true ∧ e.1.nanoseconds = r) ↔ stop = some r

/-- The platform on which the operator is told to stop after some time, at once unless the time is
positive. -/
def stoppedAfter (pl : Platform) (time : Int) : Platform :=
  if time ≤ 0 then pl.happen .cancel
  else pl.schedule ⟨pl.elapsed.nanoseconds + time.toNat⟩ .cancel

@[simp] theorem nanoseconds_readingAfter (pl : Platform) (d : Duration) :
    (pl.readingAfter d).nanoseconds = pl.elapsed.nanoseconds + d.nanoseconds := rfl

/-- Events change neither the timer nor the agenda. -/
theorem foldl_happen (events : List (Duration × OutsideEvent)) (pl : Platform) :
    (events.foldl (fun pl e => pl.happen e.2) pl).elapsed = pl.elapsed ∧
      (events.foldl (fun pl e => pl.happen e.2) pl).agenda = pl.agenda ∧
      ((∀ e ∈ events, e.2.isCancel = false) →
        (events.foldl (fun pl e => pl.happen e.2) pl).cancelled = pl.cancelled) := by
  induction events generalizing pl with
  | nil => exact ⟨rfl, rfl, fun _ => rfl⟩
  | cons e events ih =>
    obtain ⟨helapsed, hagenda, hcancelled⟩ := ih (pl.happen e.2)
    rw [List.foldl_cons, helapsed, hagenda]
    obtain ⟨due, event⟩ := e
    cases event with
    | change f => exact ⟨rfl, rfl, fun h => hcancelled fun e he => h e (List.mem_cons_of_mem _ he)⟩
    | cancel => exact ⟨rfl, rfl, fun h => nomatch h _ List.mem_cons_self⟩

@[simp] theorem elapsed_passUntil (pl : Platform) (reading : Duration) :
    (pl.passUntil reading).elapsed = reading := by
  unfold passUntil
  rw [List.span_eq_takeWhile_dropWhile]
  exact (foldl_happen _ _).1

theorem agenda_passUntil (pl : Platform) (reading : Duration) :
    (pl.passUntil reading).agenda =
      pl.agenda.dropWhile fun e => e.1.nanoseconds ≤ reading.nanoseconds := by
  unfold passUntil
  rw [List.span_eq_takeWhile_dropWhile]
  exact (foldl_happen _ _).2.1

theorem due_of_mem_takeWhile {agenda : List (Duration × OutsideEvent)}
    {e : Duration × OutsideEvent}
    (h : e ∈ agenda.takeWhile fun e => decide (e.1.nanoseconds ≤ reading.nanoseconds)) :
    e ∈ agenda ∧ e.1.nanoseconds ≤ reading.nanoseconds :=
  ⟨(List.takeWhile_prefix _).subset h, by simpa using List.mem_takeWhile_imp h⟩

/-- What is going to stop the operator later stays on the agenda. -/
theorem StopsAt.passUntil (h : pl.StopsAt stop)
    (hlater : ∀ r, stop = some r → reading.nanoseconds < r) :
    (pl.passUntil reading).StopsAt stop := by
  have hdue : ∀ e ∈ pl.agenda.takeWhile fun e => decide (e.1.nanoseconds ≤ reading.nanoseconds),
      e.2.isCancel = false := by
    intro e he
    obtain ⟨hmem, hle⟩ := due_of_mem_takeWhile he
    refine Bool.of_not_eq_true fun hcancel => ?_
    have hlt := hlater _ ((h.due_iff _).1 ⟨e, hmem, hcancel, rfl⟩)
    omega
  constructor
  case running =>
    unfold Platform.passUntil
    rw [List.span_eq_takeWhile_dropWhile]
    exact ((foldl_happen _ _).2.2 hdue).trans h.running
  case due_iff =>
    intro r
    rw [agenda_passUntil]
    constructor
    · rintro ⟨e, he, hcancel, hr⟩
      exact (h.due_iff r).1 ⟨e, (List.dropWhile_suffix _).subset he, hcancel, hr⟩
    · intro hstop
      obtain ⟨e, he, hcancel, hr⟩ := (h.due_iff r).2 hstop
      rw [← List.takeWhile_append_dropWhile
        (p := fun e => decide (e.1.nanoseconds ≤ reading.nanoseconds)) (l := pl.agenda),
        List.mem_append] at he
      rcases he with he | he
      · exact absurd hcancel (by simp [hdue e he])
      · exact ⟨e, he, hcancel, hr⟩

theorem StopsAt.schedule (h : pl.StopsAt none) (due : Duration) :
    (pl.schedule due .cancel).StopsAt (some due.nanoseconds) := by
  have hnone : ∀ e ∈ pl.agenda, e.2.isCancel = false := fun e he =>
    Bool.of_not_eq_true fun hcancel => nomatch (h.due_iff _).1 ⟨e, he, hcancel, rfl⟩
  refine ⟨h.running, fun r => ?_⟩
  simp only [Platform.schedule, List.span_eq_takeWhile_dropWhile, List.mem_append, List.mem_cons]
  constructor
  · rintro ⟨e, he | rfl | he, hcancel, hr⟩
    · exact absurd hcancel (by simp [hnone e ((List.takeWhile_prefix _).subset he)])
    · exact congrArg some hr
    · exact absurd hcancel (by simp [hnone e ((List.dropWhile_suffix _).subset he)])
  · intro hr
    exact ⟨(due, .cancel), .inr (.inl rfl), rfl, Option.some.inj hr⟩

end Platform

namespace PlatformM

open Platform

variable {pl : Platform} {stop : Option Nat} {operation : String} {d : Duration}

/-- A pause of an operator that is going on looks whether it ends before its time. -/
theorem pause_of_running (h : pl.cancelled = false) :
    pause operation d pl = match pl.cancelBefore? (pl.readingAfter d) with
      | some due => (.error (.cancelled operation), pl.passUntil due)
      | none => (.ok (), pl.passUntil (pl.readingAfter d)) := by
  have hget : (get : PlatformM Platform) pl = (.ok pl, pl) := rfl
  simp only [pause, run_bind_of_ok hget, h, Bool.false_eq_true, if_false]
  cases pl.cancelBefore? (pl.readingAfter d) <;> rfl

/-- A pause that ends before the operator is told to stop takes its time. -/
theorem pause_of_before (h : pl.StopsAt stop)
    (hbefore : ∀ r, stop = some r → pl.elapsed.nanoseconds + d.nanoseconds < r) :
    pause operation d pl = (.ok (), pl.passUntil (pl.readingAfter d)) := by
  have hnone : pl.cancelBefore? (pl.readingAfter d) = none := by
    rw [cancelBefore?, Option.map_eq_none_iff, List.find?_eq_none]
    intro e he
    simp only [Bool.and_eq_true, decide_eq_true_eq, not_and, not_lt]
    intro hcancel
    exact (hbefore _ ((h.due_iff _).1 ⟨e, he, hcancel, rfl⟩)).le
  rw [pause_of_running h.running, hnone]

/-- A pause during which the operator is told to stop ends right then. -/
theorem pause_of_after {r : Nat} (h : pl.StopsAt (some r))
    (hafter : r < pl.elapsed.nanoseconds + d.nanoseconds) :
    pause operation d pl = (.error (.cancelled operation), pl.passUntil ⟨r⟩) := by
  have hsome : pl.cancelBefore? (pl.readingAfter d) = some ⟨r⟩ := by
    obtain ⟨e, he, hcancel, hr⟩ := (h.due_iff r).2 rfl
    rcases hfind : pl.agenda.find? fun e =>
        e.2.isCancel && e.1.nanoseconds < (pl.readingAfter d).nanoseconds with _ | e'
    · rw [List.find?_eq_none] at hfind
      have hlate := hfind e he
      rw [hcancel, Bool.true_and, decide_eq_true_eq, nanoseconds_readingAfter] at hlate
      omega
    · have hfirst := List.find?_some hfind
      rw [Bool.and_eq_true] at hfirst
      have hr' := Option.some.inj
        ((h.due_iff _).1 ⟨e', List.mem_of_find?_eq_some hfind, hfirst.1, rfl⟩)
      rw [cancelBefore?, hfind, Option.map_some, hr']
  rw [pause_of_running h.running, hsome]

theorem pause_of_cancelled (h : pl.cancelled = true) :
    pause operation d pl = (.error (.cancelled operation), pl) := by
  have hget : (get : PlatformM Platform) pl = (.ok pl, pl) := rfl
  simp only [pause, run_bind_of_ok hget, h, if_true]
  rfl

/-- A pause takes its time, or is ended by the token. -/
theorem ends_pause (operation : String) (d : Duration) (pl : Platform) :
    Ends (pause operation d) pl (fun _ pl' => pl' = pl.passUntil (pl.readingAfter d))
      fun e _ => e = .cancelled operation := by
  unfold Ends
  rcases hcancelled : pl.cancelled with _ | _
  · rw [pause_of_running hcancelled]
    cases pl.cancelBefore? (pl.readingAfter d) <;> rfl
  · rw [pause_of_cancelled hcancelled]

end PlatformM

namespace Poll

open Platform

/-! ## Times -/

section
variable {interval ceiling : Duration} {k l : Nat}

/-- The number of the last probe. -/
def last (interval ceiling : Duration) : Nat := ceiling.nanoseconds ⌈/⌉ interval.nanoseconds

/-- When probe `k` is made, from the beginning. -/
def due (interval ceiling : Duration) (k : Nat) : Nat :=
  min (k * interval.nanoseconds) ceiling.nanoseconds

theorem maxProbes_eq (h : 0 < interval.nanoseconds) (ceiling : Duration) (patience : Nat) :
    maxProbes interval ceiling patience = last interval ceiling + 1 := by
  rw [maxProbes, if_neg (by omega), last, Nat.ceilDiv_eq_add_pred_div]
  congr 2
  omega

@[simp] theorem due_zero (interval ceiling : Duration) : due interval ceiling 0 = 0 := by
  simp [due]

theorem due_le (interval ceiling : Duration) (k : Nat) :
    due interval ceiling k ≤ ceiling.nanoseconds :=
  min_le_right _ _

theorem due_mono (interval ceiling : Duration) (h : k ≤ l) :
    due interval ceiling k ≤ due interval ceiling l :=
  min_le_min_right _ (Nat.mul_le_mul_right _ h)

theorem due_le_succ (interval ceiling : Duration) (k : Nat) :
    due interval ceiling k ≤ due interval ceiling (k + 1) :=
  due_mono _ _ k.le_succ

/-- Time remains after every probe but the last. -/
theorem due_lt_iff (h : 0 < interval.nanoseconds) (ceiling : Duration) :
    due interval ceiling k < ceiling.nanoseconds ↔ k < last interval ceiling := by
  have hreach : last interval ceiling ≤ k ↔ ceiling.nanoseconds ≤ k * interval.nanoseconds := by
    rw [last, ceilDiv_le_iff_le_smul h, smul_eq_mul, Nat.mul_comm]
  rw [due]
  omega

theorem due_last (h : 0 < interval.nanoseconds) :
    due interval ceiling (last interval ceiling) = ceiling.nanoseconds :=
  (due_le _ _ _).antisymm (not_lt.1 fun hlt => absurd ((due_lt_iff h ceiling).1 hlt) (lt_irrefl _))

/-- The pause after probe `k`: the interval, or less before the last probe. -/
def gap (interval ceiling : Duration) (k : Nat) : Duration :=
  ⟨min interval.nanoseconds (ceiling.nanoseconds - due interval ceiling k)⟩

theorem due_pos (h : 0 < interval.nanoseconds) (hk : 0 < k) (hlast : k ≤ last interval ceiling) :
    0 < due interval ceiling k := by
  have hceiling := (due_lt_iff (k := 0) h ceiling).2 (hk.trans_le hlast)
  exact lt_min (Nat.mul_pos hk h) (by omega)

theorem due_succ (interval ceiling : Duration) (k : Nat) :
    due interval ceiling (k + 1) =
      due interval ceiling k + (gap interval ceiling k).nanoseconds := by
  simp only [gap, due, Nat.succ_mul]
  omega

end

/-- A round of the poll, with the time that remains at a probe. -/
theorem untilReady_due {m : Type → Type} [Monad m] (probe : m Bool) (pause : Duration → m Unit)
    (interval ceiling : Duration) (n k : Nat) :
    untilReady probe pause interval (n + 1) ⟨ceiling.nanoseconds - due interval ceiling k⟩ =
      (do
        if ← probe then
          return true
        else if ceiling.nanoseconds - due interval ceiling k = 0 then
          return false
        else do
          pause (gap interval ceiling k)
          untilReady probe pause interval n
            ⟨ceiling.nanoseconds - due interval ceiling (k + 1)⟩) := by
  rw [untilReady, due_succ, Nat.sub_add_eq]
  rfl

/-! ## Runs -/

/-- A platform, and how often has been probed. -/
structure Session where
  platform : Platform
  probes : Nat := 0

abbrev SessionM := ExceptT Error (StateM Session)

section
variable (answers : Nat → Except Error Bool) (interval ceiling : Duration)

/-- A probe that takes no time. Probe `k` has answer `k`. -/
def ask : SessionM Bool := fun s => (answers s.probes, { s with probes := s.probes + 1 })

/-- A pause between two probes. -/
def wait (d : Duration) : SessionM Unit := fun s =>
  let (result, pl) := PlatformM.pause "readiness poll" d s.platform
  (result, { s with platform := pl })

theorem run_wait {d : Duration} {result : Except Error Unit} {pl q : Platform} {k : Nat}
    (h : PlatformM.pause "readiness poll" d pl = (result, q)) :
    wait d ⟨pl, k⟩ = (result, ⟨q, k⟩) := by
  rw [wait, h]

/-- What a poll answered, how long it took, and how often it probed. -/
structure Report where
  answer : Except Error Bool
  time : Int
  probes : Nat

/-- Polls with so many probes allowed. -/
def poll (allowed : Nat) (pl : Platform) : Report :=
  let (answer, s) := untilReady (ask answers) wait interval allowed ceiling ⟨pl, 0⟩
  { answer
    time := s.platform.elapsed.nanoseconds - pl.elapsed.nanoseconds
    probes := s.probes }

/-- How a poll that runs to its end ends: with the first answer that is not `false`, or by giving up
at the ceiling. -/
inductive Outcome : Report → Prop where
  | answered {k : Nat} (hk : k ≤ last interval ceiling) (hfalse : ∀ i < k, answers i = .ok false)
      (h : answers k ≠ .ok false) : Outcome ⟨answers k, due interval ceiling k, k + 1⟩
  | timedOut (hfalse : ∀ i ≤ last interval ceiling, answers i = .ok false) :
      Outcome ⟨.ok false, ceiling.nanoseconds, last interval ceiling + 1⟩

/-- What becomes of a report when the poll is told to stop at some time. A result that is due by
then stands; otherwise the poll ends at that time, with the probes done that were due by then. -/
structure CutShort (time : Int) (report stopped : Report) : Prop where
  stands : report.time ≤ time → stopped = report
  ends : time < report.time →
    ∃ n, stopped = ⟨.error (.cancelled "readiness poll"), time, n⟩ ∧
      ∀ k ≤ last interval ceiling, k < n ↔ (due interval ceiling k : Int) ≤ time

/-- The poll ends with probe `k`. -/
structure SettledBy (k : Nat) : Prop where
  le_last : k ≤ last interval ceiling
  before : ∀ i < k, answers i = .ok false
  ends : answers k ≠ .ok false ∨ k = last interval ceiling

theorem exists_settledBy : ∃ k, SettledBy answers interval ceiling k := by
  classical
  by_cases h : ∃ k, k ≤ last interval ceiling ∧ answers k ≠ .ok false
  · refine ⟨Nat.find h, (Nat.find_spec h).1, fun i hi => ?_, .inl (Nat.find_spec h).2⟩
    have hle := (Nat.find_spec h).1
    exact not_not.1 fun hne => Nat.find_min h hi ⟨by omega, hne⟩
  · refine ⟨_, le_refl _, fun i hi => not_not.1 fun hne => h ⟨i, hi.le, hne⟩, .inr rfl⟩

end

variable {answers : Nat → Except Error Bool} {interval ceiling : Duration} {pl : Platform}
  {stop : Option Nat} {k n : Nat}

theorem SettledBy.outcome (hinterval : 0 < interval.nanoseconds)
    (h : SettledBy answers interval ceiling k) :
    Outcome answers interval ceiling ⟨answers k, due interval ceiling k, k + 1⟩ := by
  by_cases hanswer : answers k = .ok false
  · obtain rfl : k = last interval ceiling := h.ends.resolve_left (not_not.2 hanswer)
    rw [hanswer, due_last hinterval]
    refine .timedOut fun i hi => ?_
    rcases hi.lt_or_eq with hlt | rfl
    · exact h.before i hlt
    · exact hanswer
  · exact .answered h.le_last h.before hanswer

/-- A probe whose answer is not `false`, or one for which no time remains, ends the poll. -/
theorem run_settled (h : SettledBy answers interval ceiling k)
    (hinterval : 0 < interval.nanoseconds) :
    untilReady (ask answers) wait interval (n + 1) ⟨ceiling.nanoseconds - due interval ceiling k⟩
      ⟨pl, k⟩ = (answers k, ⟨pl, k + 1⟩) := by
  have hask : ask answers ⟨pl, k⟩ = (answers k, ⟨pl, k + 1⟩) := rfl
  rw [untilReady_due]
  rcases hanswer : answers k with e | _ | _
  case error => rw [run_bind_of_error (hask.trans (by rw [hanswer]))]
  case ok.true => rw [run_bind_of_ok (hask.trans (by rw [hanswer]))]; rfl
  case ok.false =>
    obtain rfl : k = last interval ceiling := h.ends.resolve_left (not_not.2 hanswer)
    rw [run_bind_of_ok (hask.trans (by rw [hanswer])), due_last hinterval, Nat.sub_self]
    rfl

/-- Before a probe that is not the last, the poll pauses. -/
theorem run_waiting (hanswer : answers k = .ok false) (hk : k < last interval ceiling)
    (hinterval : 0 < interval.nanoseconds) :
    untilReady (ask answers) wait interval (n + 1) ⟨ceiling.nanoseconds - due interval ceiling k⟩
      ⟨pl, k⟩ =
    (do wait (gap interval ceiling k)
        untilReady (ask answers) wait interval n
          ⟨ceiling.nanoseconds - due interval ceiling (k + 1)⟩ : SessionM Bool) ⟨pl, k + 1⟩ := by
  have hask : ask answers ⟨pl, k⟩ = (.ok false, ⟨pl, k + 1⟩) := by rw [← hanswer]; rfl
  have hlt := (due_lt_iff hinterval ceiling).2 hk
  rw [untilReady_due, run_bind_of_ok hask, if_neg Bool.false_ne_true, if_neg (by omega)]

/-- As long as the probes are not ready and nobody stops it, the poll gets to the next probe at its
time. -/
theorem run_until (h : pl.StopsAt stop) (hinterval : 0 < interval.nanoseconds)
    (hk : k ≤ last interval ceiling) (hfalse : ∀ i < k, answers i = .ok false)
    (hlater : ∀ r, stop = some r → pl.elapsed.nanoseconds + due interval ceiling k < r) :
    ∃ q : Platform, q.StopsAt stop ∧
      q.elapsed.nanoseconds = pl.elapsed.nanoseconds + due interval ceiling k ∧
      ∀ n, untilReady (ask answers) wait interval (n + k) ceiling ⟨pl, 0⟩ =
        untilReady (ask answers) wait interval n
          ⟨ceiling.nanoseconds - due interval ceiling k⟩ ⟨q, k⟩ := by
  induction k with
  | zero => exact ⟨pl, h, by simp, fun n => by simp⟩
  | succ k ih =>
    have hsucc := due_succ interval ceiling k
    have hmono := due_le_succ interval ceiling k
    obtain ⟨q, hq, hreading, hrun⟩ := ih (by omega) (fun i hi => hfalse i (by omega))
      fun r hr => by have := hlater r hr; omega
    -- the pause up to the next probe is over before the operator is told to stop
    have hbefore : ∀ r, stop = some r →
        q.elapsed.nanoseconds + (gap interval ceiling k).nanoseconds < r := by
      intro r hr
      have := hlater r hr
      omega
    have hpause : PlatformM.pause "readiness poll" (gap interval ceiling k) q =
        (.ok (), q.passUntil (q.readingAfter (gap interval ceiling k))) :=
      PlatformM.pause_of_before hq hbefore
    refine ⟨q.passUntil (q.readingAfter (gap interval ceiling k)), hq.passUntil hbefore, ?_,
      fun n => ?_⟩
    · rw [elapsed_passUntil, nanoseconds_readingAfter, hreading, hsucc, Nat.add_assoc]
    · rw [← Nat.succ_add_eq_add_succ, hrun, run_waiting (hfalse k (by omega)) hk hinterval,
        run_bind_of_ok (run_wait hpause)]

/-- A probe that is not ready, followed by a pause that the token interrupts, ends the poll. -/
theorem run_interrupted {q : Platform} {e : Error} (hanswer : answers k = .ok false)
    (hk : k < last interval ceiling) (hinterval : 0 < interval.nanoseconds)
    (hpause : PlatformM.pause "readiness poll" (gap interval ceiling k) pl = (.error e, q)) :
    untilReady (ask answers) wait interval (n + 1) ⟨ceiling.nanoseconds - due interval ceiling k⟩
      ⟨pl, k⟩ = (.error e, ⟨q, k + 1⟩) := by
  rw [run_waiting hanswer hk hinterval, run_bind_of_error (run_wait hpause)]

/-! ## Reports -/

theorem poll_of_run {allowed : Nat} {answer : Except Error Bool} {q : Platform}
    (h : untilReady (ask answers) wait interval allowed ceiling ⟨pl, 0⟩ = (answer, ⟨q, k⟩))
    {time : Nat} (htime : q.elapsed.nanoseconds = pl.elapsed.nanoseconds + time) :
    poll answers interval ceiling allowed pl = ⟨answer, time, k⟩ := by
  simp only [poll, h, htime, Report.mk.injEq, true_and, and_true]
  omega

/-- A poll that nobody stops by then ends with the probe that settles it. -/
theorem poll_of_settledBy {allowed : Nat} (h : SettledBy answers interval ceiling k)
    (hinterval : 0 < interval.nanoseconds) (hallowed : last interval ceiling < allowed)
    (hpl : pl.StopsAt stop)
    (hlater : ∀ r, stop = some r → pl.elapsed.nanoseconds + due interval ceiling k < r) :
    poll answers interval ceiling allowed pl =
      ⟨answers k, due interval ceiling k, k + 1⟩ := by
  obtain ⟨q, -, hreading, hrun⟩ := run_until hpl hinterval h.le_last h.before hlater
  obtain ⟨n, rfl⟩ : ∃ n, allowed = n + 1 + k := ⟨allowed - k - 1, by have := h.le_last; omega⟩
  exact poll_of_run ((hrun _).trans (run_settled h hinterval)) hreading

/-- A poll that is settled by its first probe ends at once, on any platform. -/
theorem poll_of_settledBy_zero {allowed : Nat} (h : SettledBy answers interval ceiling 0)
    (hinterval : 0 < interval.nanoseconds) (hallowed : 0 < allowed) :
    poll answers interval ceiling allowed pl = ⟨answers 0, 0, 1⟩ := by
  obtain ⟨n, rfl⟩ : ∃ n, allowed = n + 1 := ⟨allowed - 1, by omega⟩
  have hrun : untilReady (ask answers) wait interval (n + 1)
      ⟨ceiling.nanoseconds - due interval ceiling 0⟩ ⟨pl, 0⟩ = _ := run_settled h hinterval
  rw [due_zero, Nat.sub_zero] at hrun
  exact poll_of_run hrun rfl

/-- A poll that is told to stop between two probes ends then. -/
theorem poll_of_interrupted {allowed time : Nat} (h : SettledBy answers interval ceiling n)
    (hinterval : 0 < interval.nanoseconds) (hallowed : last interval ceiling < allowed)
    (hpl : pl.StopsAt (some (pl.elapsed.nanoseconds + time))) (hk : k < n)
    (hafter : due interval ceiling k < time) (hbefore : time < due interval ceiling (k + 1)) :
    poll answers interval ceiling allowed pl =
      ⟨.error (.cancelled "readiness poll"), time, k + 1⟩ := by
  have hlast := h.le_last
  obtain ⟨q, hq, hreading, hrun⟩ := run_until hpl hinterval (hk.le.trans hlast)
    (fun i hi => h.before i (hi.trans hk)) fun r hr => by
      rw [← Option.some.inj hr]
      omega
  have hpause : PlatformM.pause "readiness poll" (gap interval ceiling k) q =
      (.error (.cancelled "readiness poll"), q.passUntil ⟨pl.elapsed.nanoseconds + time⟩) :=
    PlatformM.pause_of_after hq (by have := due_succ interval ceiling k; omega)
  obtain ⟨m, rfl⟩ : ∃ m, allowed = m + 1 + k := ⟨allowed - k - 1, by omega⟩
  exact poll_of_run
    ((hrun _).trans (run_interrupted (h.before k hk) (by omega) hinterval hpause))
    (congrArg _ (elapsed_passUntil _ _))

/-- A poll that is told to stop before its first probe does that probe. -/
theorem poll_of_cancelled {allowed : Nat} (h : SettledBy answers interval ceiling n)
    (hinterval : 0 < interval.nanoseconds) (hallowed : 0 < allowed) (hn : 0 < n)
    (hpl : pl.cancelled = true) :
    poll answers interval ceiling allowed pl = ⟨.error (.cancelled "readiness poll"), 0, 1⟩ := by
  obtain ⟨m, rfl⟩ : ∃ m, allowed = m + 1 := ⟨allowed - 1, by omega⟩
  have hrun := run_interrupted (n := m) (h.before 0 hn) (hn.trans_le h.le_last) hinterval
    (PlatformM.pause_of_cancelled hpl)
  rw [due_zero, Nat.sub_zero] at hrun
  exact poll_of_run hrun rfl

theorem exists_due_le_lt {time : Nat} (h : time < due interval ceiling n) :
    ∃ k < n, due interval ceiling k ≤ time ∧ time < due interval ceiling (k + 1) := by
  induction n with
  | zero => simp at h
  | succ n ih =>
    rcases lt_or_ge time (due interval ceiling n) with hlt | hle
    · obtain ⟨k, hk, hdue⟩ := ih hlt
      exact ⟨k, by omega, hdue⟩
    · exact ⟨n, by omega, hle, h⟩

/-- The probes that are due by some time are those up to the last of them. -/
theorem lt_succ_iff_due_le {time i : Nat} (hle : due interval ceiling k ≤ time)
    (hlt : time < due interval ceiling (k + 1)) : i < k + 1 ↔ due interval ceiling i ≤ time := by
  constructor
  · intro hi
    exact (due_mono _ _ (by omega)).trans hle
  · intro hi
    refine not_le.1 fun hk => ?_
    have := due_mono interval ceiling hk
    omega

theorem Outcome.probes_le {report : Report} (h : Outcome answers interval ceiling report) :
    report.probes ≤ last interval ceiling + 1 := by
  cases h with
  | answered hk => exact Nat.succ_le_succ hk
  | timedOut => exact le_rfl

/-- Before the poll begins the first probe alone is due. -/
theorem cutShort_of_cancelled {allowed : Nat} (h : SettledBy answers interval ceiling k)
    (hinterval : 0 < interval.nanoseconds) (hallowed : 0 < allowed) (hpl : pl.cancelled = true) :
    CutShort interval ceiling 0 ⟨answers k, due interval ceiling k, k + 1⟩
      (poll answers interval ceiling allowed pl) := by
  rcases k.eq_zero_or_pos with rfl | hk
  · rw [due_zero]
    exact ⟨fun _ => poll_of_settledBy_zero h hinterval hallowed, fun hlt => absurd hlt (by simp)⟩
  · have hdue := due_pos hinterval hk h.le_last
    refine ⟨fun hle => ?_, fun _ =>
      ⟨1, poll_of_cancelled h hinterval hallowed hk hpl, fun i hi => ?_⟩⟩
    · dsimp only at hle
      omega
    · rcases i.eq_zero_or_pos with rfl | hipos
      · simp
      · have := due_pos hinterval hipos hi
        omega

theorem cutShort_of_stopsAt {allowed time : Nat} (h : SettledBy answers interval ceiling k)
    (hinterval : 0 < interval.nanoseconds) (hallowed : last interval ceiling < allowed)
    (hpl : pl.StopsAt (some (pl.elapsed.nanoseconds + time)))
    (hne : ∀ i ≤ last interval ceiling, time ≠ due interval ceiling i) :
    CutShort interval ceiling time ⟨answers k, due interval ceiling k, k + 1⟩
      (poll answers interval ceiling allowed pl) := by
  constructor
  case stands =>
    intro hle
    have hlt : due interval ceiling k < time :=
      (Int.ofNat_le.1 hle).lt_of_ne (hne k h.le_last).symm
    refine poll_of_settledBy h hinterval hallowed hpl fun r hr => ?_
    rw [← Option.some.inj hr]
    omega
  case ends =>
    intro hlt
    obtain ⟨m, hm, hle, hnext⟩ := exists_due_le_lt (Int.ofNat_lt.1 hlt)
    have hafter : due interval ceiling m < time :=
      hle.lt_of_ne (hne m (hm.le.trans h.le_last)).symm
    refine ⟨m + 1, poll_of_interrupted h hinterval hallowed hpl hm hafter hnext, fun i _ => ?_⟩
    rw [Int.ofNat_le]
    exact lt_succ_iff_due_le hle hnext

/-- A poll probes at most once more than the ceiling has intervals, the last one begun included. It
has the first answer that is not `false`, at the time of that probe, or `false` at the ceiling. At
a time when no probe is due it can be cut short. -/
theorem ends_poll (answers : Nat → Except Error Bool) {interval ceiling : Duration} {pl : Platform}
    {allowed patience : Nat} (hinterval : 0 < interval.nanoseconds)
    (hallowed : maxProbes interval ceiling patience ≤ allowed) (hpl : pl.StopsAt none) :
    Outcome answers interval ceiling (poll answers interval ceiling allowed pl) ∧
      (poll answers interval ceiling allowed pl).probes ≤ last interval ceiling + 1 ∧
      ∀ c : Int, (c ≤ 0 ∨ ∀ k ≤ last interval ceiling, c ≠ due interval ceiling k) →
        CutShort interval ceiling (max c 0) (poll answers interval ceiling allowed pl)
          (poll answers interval ceiling allowed (pl.stoppedAfter c)) := by
  rw [maxProbes_eq hinterval] at hallowed
  obtain ⟨k, hk⟩ := exists_settledBy answers interval ceiling
  rw [poll_of_settledBy hk hinterval hallowed hpl nofun]
  refine ⟨hk.outcome hinterval, (hk.outcome hinterval).probes_le, fun c hc => ?_⟩
  rcases le_or_gt c 0 with hnonpos | hpos
  · -- told to stop before it began
    rw [max_eq_right hnonpos, stoppedAfter, if_pos hnonpos]
    exact cutShort_of_cancelled hk hinterval (by omega) rfl
  · -- told to stop later, between two probes
    obtain ⟨time, rfl⟩ := Int.eq_ofNat_of_zero_le hpos.le
    have hne : ∀ i ≤ last interval ceiling, time ≠ due interval ceiling i := fun i hi heq =>
      hc.resolve_left (by omega) i hi (congrArg _ heq)
    rw [max_eq_left hpos.le, stoppedAfter, if_neg (by omega), Int.toNat_natCast]
    exact cutShort_of_stopsAt hk hinterval hallowed (hpl.schedule _) hne

namespace Sample

/-- A workload that is ready when it is probed for the third time. -/
def onThird (k : Nat) : Except Error Bool := .ok (decide (2 ≤ k))

end Sample

/-- Probes every 5 with a ceiling of 12: the third succeeds, unless the token fires at 7. -/
theorem ends_poll_sample :
    maxProbes ⟨5⟩ ⟨12⟩ 1 = 4 ∧ poll Sample.onThird ⟨5⟩ ⟨12⟩ 4 {} = ⟨.ok true, 10, 3⟩ ∧
      ∃ n, poll Sample.onThird ⟨5⟩ ⟨12⟩ 4 (stoppedAfter {} 7) =
          ⟨.error (.cancelled "readiness poll"), 7, n⟩ ∧
        ∀ k ≤ last ⟨5⟩ ⟨12⟩, k < n ↔ (due ⟨5⟩ ⟨12⟩ k : Int) ≤ 7 := by
  have hpoll : poll Sample.onThird ⟨5⟩ ⟨12⟩ 4 {} = ⟨.ok true, 10, 3⟩ := by rfl
  have hends := ends_poll Sample.onThird (show 0 < (⟨5⟩ : Duration).nanoseconds by decide)
    (show maxProbes ⟨5⟩ ⟨12⟩ 1 ≤ 4 by decide) (show StopsAt none {} from ⟨rfl, fun r => by simp⟩)
  refine ⟨by decide, hpoll, ?_⟩
  rw [hpoll] at hends
  refine (hends.2.2 7 (.inr fun k hk => ?_)).ends (by decide)
  have : k ≤ 3 := hk
  simp only [due]
  omega

/-! ## Probes of a platform -/

/-- The platform when probe `k` is made, if the poll gets there. -/
def visited (interval ceiling : Duration) (pl : Platform) : Nat → Platform
  | 0 => pl
  | k + 1 =>
    (PlatformM.pause "readiness poll" (gap interval ceiling k) (visited interval ceiling pl k)).2

/-- Probing a platform, which a probe leaves as it is, has the answers of the platforms on the
way. -/
theorem run_of_visited {probe : PlatformM Bool} (hprobe : ∀ pl, (probe pl).2 = pl)
    (hanswers : ∀ k, answers k = (probe (visited interval ceiling pl k)).1) (n k : Nat) :
    untilReady probe (PlatformM.pause "readiness poll") interval n
        ⟨ceiling.nanoseconds - due interval ceiling k⟩ (visited interval ceiling pl k) =
      let (answer, s) := untilReady (ask answers) wait interval n
        ⟨ceiling.nanoseconds - due interval ceiling k⟩ ⟨visited interval ceiling pl k, k⟩
      (answer, s.platform) := by
  induction n generalizing k with
  | zero => rfl
  | succ n ih =>
    have hask : ask answers ⟨visited interval ceiling pl k, k⟩ =
      (answers k, ⟨visited interval ceiling pl k, k + 1⟩) := rfl
    have hran : probe (visited interval ceiling pl k) =
        (answers k, visited interval ceiling pl k) :=
      Prod.ext (hanswers k).symm (hprobe _)
    rw [untilReady_due, untilReady_due]
    rcases hanswer : answers k with e | _ | _
    case error =>
      rw [hanswer] at hask hran
      rw [run_bind_of_error hask, run_bind_of_error hran]
    case ok.true =>
      rw [hanswer] at hask hran
      rw [run_bind_of_ok hask, run_bind_of_ok hran]
      rfl
    case ok.false =>
      rw [hanswer] at hask hran
      rw [run_bind_of_ok hask, run_bind_of_ok hran, if_neg Bool.false_ne_true,
        if_neg Bool.false_ne_true]
      by_cases hrest : ceiling.nanoseconds - due interval ceiling k = 0
      · rw [if_pos hrest, if_pos hrest]
        rfl
      · rw [if_neg hrest, if_neg hrest]
        rcases hpause : PlatformM.pause "readiness poll" (gap interval ceiling k)
          (visited interval ceiling pl k) with ⟨e | u, q⟩
        · rw [run_bind_of_error hpause, run_bind_of_error (run_wait hpause)]
        · have hnext : visited interval ceiling pl (k + 1) = q := congrArg Prod.snd hpause
          rw [run_bind_of_ok hpause, run_bind_of_ok (run_wait hpause), ← hnext]
          exact ih (k + 1)

end Poll

namespace Package

variable {settings : ToolSettings} {t : Tool} {pl : Platform}

theorem ends_checkHealth (t : Tool) (pl : Platform) :
    Ends (checkHealth t) pl (fun ready pl' => pl' = pl ∧ (checkHealth t pl).1 = .ok ready)
      fun e pl' => pl' = pl ∧ (checkHealth t pl).1 = .error e := by
  have hstate : (checkHealth t pl).2 = pl := by
    unfold checkHealth
    rcases profile t <;> rfl
  refine ends_of (fun ready pl' h => ?_) fun e pl' h => ?_
  all_goals
    rw [h] at hstate ⊢
    exact ⟨hstate, rfl⟩

/-! ## Waiting for a tool -/

/-- The health of a tool at the probes of a poll. -/
def healthAt (settings : ToolSettings) (t : Tool) (pl : Platform) (k : Nat) : Except Error Bool :=
  (checkHealth t (Poll.visited settings.pollInterval settings.pollTimeout pl k)).1

/-- With an interval, waiting for a tool is a poll of its health, and ends as one does. -/
theorem waitHealthy_eq_poll (hinterval : 0 < settings.pollInterval.nanoseconds) :
    (waitHealthy settings t pl).1 =
        (Poll.poll (healthAt settings t pl) settings.pollInterval settings.pollTimeout
          (Poll.maxProbes settings.pollInterval settings.pollTimeout 1) pl).answer ∧
      ((waitHealthy settings t pl).2.elapsed.nanoseconds : Int) - pl.elapsed.nanoseconds =
        (Poll.poll (healthAt settings t pl) settings.pollInterval settings.pollTimeout
          (Poll.maxProbes settings.pollInterval settings.pollTimeout 1) pl).time := by
  have hcheck : ∀ pl, (checkHealth t pl).2 = pl := fun pl =>
    ((ends_checkHealth t pl).mono (fun _ _ h => h.1) fun _ _ h => h.1).state (P := (· = pl))
  have hanswers : ∀ k, healthAt settings t pl k =
      (checkHealth t (Poll.visited settings.pollInterval settings.pollTimeout pl k)).1 :=
    fun _ => rfl
  have hrun := Poll.run_of_visited hcheck hanswers
    (Poll.maxProbes settings.pollInterval settings.pollTimeout 1) 0
  rw [Poll.due_zero, Nat.sub_zero] at hrun
  unfold waitHealthy
  rw [if_neg (by omega)]
  exact ⟨congrArg Prod.fst hrun,
    congrArg (fun run => (run.2.elapsed.nanoseconds : Int) - pl.elapsed.nanoseconds) hrun⟩

/-- A pause up to the next event takes one from the agenda, unless no time remains after it. -/
theorem length_agenda_passUntil_untilNext {remaining : Duration}
    (h : (pl.untilNext remaining).nanoseconds < remaining.nanoseconds) :
    (pl.passUntil (pl.readingAfter (pl.untilNext remaining))).agenda.length < pl.agenda.length := by
  rw [Platform.agenda_passUntil]
  rcases hagenda : pl.agenda with _ | ⟨⟨due, event⟩, rest⟩
  · simp [Platform.untilNext, hagenda] at h
  · have hdue : due.nanoseconds ≤
        (pl.readingAfter (pl.untilNext remaining)).nanoseconds := by
      simp only [Platform.untilNext, hagenda, Platform.nanoseconds_readingAfter] at h ⊢
      omega
    rw [List.dropWhile_cons_of_pos (by exact decide_eq_true hdue)]
    exact Nat.lt_succ_of_le (List.dropWhile_suffix _).length_le

theorem untilNext_le (pl : Platform) (remaining : Duration) :
    (pl.untilNext remaining).nanoseconds ≤ remaining.nanoseconds := by
  unfold Platform.untilNext
  split
  · exact le_rfl
  · exact min_le_right _ _

/-- Watching a tool ends as soon as it is healthy, or at the end of the time. A probe after each
event and one at the end are enough, so it is never given up earlier. -/
theorem ends_watchHealth {probes : Nat} {remaining : Duration}
    (hprobes : pl.agenda.length + 2 ≤ probes ∨ remaining.nanoseconds = 0 ∧ 0 < probes) :
    Ends (watchHealth t probes remaining) pl
      (fun ready pl' => (checkHealth t pl').1 = .ok ready ∧ (ready = false →
        pl'.elapsed.nanoseconds = pl.elapsed.nanoseconds + remaining.nanoseconds))
      fun e pl' => (checkHealth t pl').1 = .error e ∨ e = .cancelled "readiness poll" := by
  induction probes generalizing remaining pl with
  | zero => omega
  | succ probes ih =>
    unfold watchHealth
    refine ends_bind.2 ((ends_checkHealth t pl).mono ?_ fun e pl' h => ?_)
    · rintro (_ | _) pl' ⟨rfl, hhealth⟩
      · rw [if_neg Bool.false_ne_true]
        split
        · next hover => exact ⟨hhealth, fun _ => by rw [hover]; rfl⟩
        · next hover =>
          refine ends_bind.2 (ends_get.2 (ends_bind.2 ((PlatformM.ends_pause _ _ pl').mono ?_
            fun _ _ h => .inr h)))
          rintro _ _ rfl
          have hle := untilNext_le pl' remaining
          refine (ih ?_).mono (fun ready pl'' h => ⟨h.1, fun hready => ?_⟩) fun _ _ h => h
          · by_cases hend : (pl'.untilNext remaining).nanoseconds < remaining.nanoseconds
            · have hevent := length_agenda_passUntil_untilNext hend
              omega
            · dsimp only
              omega
          · rw [h.2 hready, Platform.elapsed_passUntil, Platform.nanoseconds_readingAfter]
            dsimp only
            omega
      · exact ⟨hhealth, nofun⟩
    · obtain ⟨rfl, hhealth⟩ := h
      exact .inl hhealth

/-- Without an interval a tool is watched all the time. -/
theorem ends_waitHealthy (hinterval : settings.pollInterval.nanoseconds = 0) :
    Ends (waitHealthy settings t) pl
      (fun ready pl' => (checkHealth t pl').1 = .ok ready ∧ (ready = false →
        pl'.elapsed.nanoseconds = pl.elapsed.nanoseconds + settings.pollTimeout.nanoseconds))
      fun e pl' => (checkHealth t pl').1 = .error e ∨ e = .cancelled "readiness poll" := by
  unfold waitHealthy
  rw [if_pos hinterval]
  exact ends_bind.2 (ends_get.2 (ends_watchHealth (.inl le_rfl)))

end Package

end PolicyOperator
