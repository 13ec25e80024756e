import PolicyOperator.Proofs.Cluster.Writes
import PolicyOperator.Report.Handler

/-!
# Publishing a status

A status is written unless it is there already, where the signs of zeros in the details do not
count. Details made of whole numbers and texts are `Exact`: no other value is equal to them, with
signs or without (`exact_object`, `exact_arr`). So a status with such details is not written exactly
if it is there, and `Posted` says what the report is then (`ends_publish`). Of any status, what is
written is told by `Shows` (`publish_of_shows`, `ends_publish_of_not_shows`).
-/

namespace PolicyOperator

/-! ## Exact values -/

namespace Json

/-- No other value is the same but for signs of zeros. -/
def Exact (j : Json) : Prop := ∀ j', j'.unsignedZeros = j.unsignedZeros → j' = j

variable {items : List Json} {members : List (String × Json)}

theorem exact_int (n : Int) : Exact (.int n) := fun j h => by
  cases j <;> simp_all [unsignedZeros]

theorem exact_str (s : String) : Exact (.str s) := fun j h => by
  cases j <;> simp_all [unsignedZeros]

theorem unsignedZeroItems_eq_map (items : List Json) :
    unsignedZeroItems items = items.map unsignedZeros := by
  induction items with
  | nil => rfl
  | cons j rest ih => rw [unsignedZeroItems, ih, List.map_cons]

theorem unsignedZeroMembers_eq_map (members : List (String × Json)) :
    unsignedZeroMembers members = members.map fun e => (e.1, e.2.unsignedZeros) := by
  induction members with
  | nil => rfl
  | cons e rest ih => rw [unsignedZeroMembers, ih, List.map_cons]

/-- Lists with one image are the same if no entry shares its image with another. -/
theorem eq_of_map_eq_map {f : α → β} {l l' : List α} (h : ∀ x ∈ l, ∀ y, f y = f x → y = x)
    (hmap : l'.map f = l.map f) : l' = l := by
  induction l generalizing l' with
  | nil => exact List.map_eq_nil_iff.1 hmap
  | cons x rest ih =>
    obtain ⟨y, rest', rfl, hy, hrest⟩ := List.map_eq_cons_iff.1 hmap
    rw [h x List.mem_cons_self y hy, ih (fun x hx => h x (List.mem_cons_of_mem _ hx)) hrest]

theorem exact_arr (h : ∀ j ∈ items, j.Exact) : Exact (.arr items) := by
  intro j' heq
  cases j' with
  | arr items' =>
    simp only [unsignedZeros, Json.arr.injEq, unsignedZeroItems_eq_map] at heq
    rw [eq_of_map_eq_map h heq]
  | null | bool | int | real | str | obj => simp [unsignedZeros] at heq

theorem exact_obj (h : ∀ e ∈ members, e.2.Exact) : Exact (.obj members) := by
  intro j' heq
  cases j' with
  | obj members' =>
    simp only [unsignedZeros, Json.obj.injEq, unsignedZeroMembers_eq_map] at heq
    rw [eq_of_map_eq_map (fun e he e' hsame => ?_) heq]
    obtain ⟨hkey, hvalue⟩ := Prod.mk.inj hsame
    exact Prod.ext hkey (h e he e'.2 hvalue)
  | null | bool | int | real | str | arr => simp [unsignedZeros] at heq

theorem exact_object (h : ∀ e ∈ members, e.2.Exact) : (object members).Exact :=
  exact_obj fun e he => h e (Entries.mem_of_mem_ofList he)

theorem exact_record {members : List (String × Option Json)}
    (h : ∀ e ∈ members, ∀ j, e.2 = some j → j.Exact) : (record members).Exact := by
  refine exact_object ?_
  induction members with
  | nil => exact nofun
  | cons e rest ih =>
    have hrest := ih fun e he => h e (List.mem_cons_of_mem _ he)
    obtain ⟨key, _ | value⟩ := e
    · exact hrest
    · exact List.forall_mem_cons.2 ⟨h (key, some value) List.mem_cons_self value rfl, hrest⟩

end Json

theorem ReportStatus.eq_of_exact {s status : ReportStatus}
    (hexact : ∀ j, status.details = some j → j.Exact)
    (h : s.unsignedZeros = status.unsignedZeros) : s = status := by
  have hdetails : s.details.map Json.unsignedZeros = status.details.map Json.unsignedZeros :=
    congrArg ReportStatus.details h
  have hsame : s.details = status.details := by
    generalize s.details = x at hdetails
    cases hstatus : status.details with
    | none => rw [hstatus] at hdetails; simpa using hdetails
    | some j =>
      rw [hstatus] at hdetails
      obtain ⟨j', rfl, hj'⟩ := Option.map_eq_some_iff.1 hdetails
      rw [hexact j hstatus j' hj']
  obtain ⟨phase, summary, details, observed, refreshed⟩ := s
  obtain ⟨phase', summary', details', observed', refreshed'⟩ := status
  simp only [ReportStatus.unsignedZeros, ReportStatus.mk.injEq] at h hsame ⊢
  exact ⟨h.1, h.2.1, hsame, h.2.2.2⟩

namespace ReportHandler

open Cluster

variable {r : PolicyReport} {status : ReportStatus} {key : Key} {c : Cluster}

/-- The report has a status already, up to the signs of zeros. -/
def Shows (r : PolicyReport) (status : ReportStatus) : Prop :=
  r.status.map ReportStatus.unsignedZeros = some status.unsignedZeros

theorem publish_of_shows (h : Shows r status) (c : Cluster) :
    publish r status c = (.ok false, c) := by
  unfold publish
  rw [if_pos (show r.status.map ReportStatus.unsignedZeros = some status.unsignedZeros from h)]
  rfl

/-- The report with a status was written, as one write. -/
structure Written (r : PolicyReport) (status : ReportStatus) (key : Key) (c c' : Cluster) :
    Prop where
  working : (c.store .policyReport).failing = false
  writes : (c'.store .policyReport).writes = (c.store .policyReport).writes + 1
  filed : ∃ version,
    Filed key (some (Store.withStatus r { r with status := some status } version)) c c'

theorem ends_publish_of_not_shows (h : ¬ Shows r status) (hkey : r.key = .ok key)
    (hstored : (c.store .policyReport).objects.get? key = some r) :
    Ends (publish r status) c (fun _ => Written r status key c)
      fun _ c' => (c.store .policyReport).failing = true ∧ c' = c := by
  have hstatus : Object.key { r with status := some status } = .ok key :=
    (Object.key_congr rfl rfl).trans hkey
  unfold publish
  rw [if_neg (show ¬ r.status.map ReportStatus.unsignedZeros = some status.unsignedZeros from h),
    ends_bind, ends_discard]
  refine ClusterM.ends_ofStore.2 ⟨fun o s hs => ?_, fun e he => ⟨?_, rfl⟩⟩
  · obtain ⟨hworking, key', current, hkey', hcurrent, -, rfl, hwritten⟩ :=
      Store.replaceStatus_eq_ok_iff.1 hs
    obtain rfl : key' = key := by simpa [hkey'] using hstatus
    obtain rfl : current = r := by simpa [hcurrent] using hstored
    refine ⟨hworking, by rw [store_setStore, hwritten]; rfl, (c.store .policyReport).nextVersion,
      confined_setStore (by simp) (by rw [hwritten]; rfl), fun key'' => ?_⟩
    rw [store_setStore]
    exact Store.get?_replaceStatus hs hstatus key''
  · exact ClusterM.failing_of_error he fun hworking =>
      ⟨_, Store.replaceStatus_eq_ok_iff.2
        ⟨hworking, key, r, hstatus, hstored, fun _ hv => hv, rfl, rfl⟩⟩

/-- What becomes of a report, and of the answer that follows, when a status is published. -/
inductive Posted (r : PolicyReport) (status : ReportStatus) (key : Key) (c : Cluster)
    (answer : Except Failure α) : Except Failure α → Cluster → Prop
  | unchanged : r.status = some status → Posted r status key c answer answer c
  | written {c' : Cluster} (version : Nat) : r.status ≠ some status →
      (c.store .policyReport).failing = false →
      Filed key (some (Store.withStatus r { r with status := some status } version)) c c' →
      Posted r status key c answer answer c'
  | refused (e : Error) : r.status ≠ some status → (c.store .policyReport).failing = true →
      Posted r status key c answer (.error (.error e)) c

/-- If the stored status cannot differ from the new one in signs of zeros alone, it is written
unless it is the same. -/
theorem ends_publish (hkey : r.key = .ok key)
    (hstored : (c.store .policyReport).objects.get? key = some r)
    (hexact : ∀ s, r.status = some s → s.unsignedZeros = status.unsignedZeros → s = status)
    (answer : Except Failure α) :
    Ends (publish r status) c (fun _ c' => Posted r status key c answer answer c')
      fun e c' => Posted r status key c answer (.error (.error e)) c' := by
  by_cases hsame : r.status = some status
  · have hshows : Shows r status := by rw [Shows, hsame, Option.map_some]
    rw [Ends, publish_of_shows hshows]
    exact .unchanged hsame
  · have hother : ¬ Shows r status := by
      intro h
      obtain ⟨s, hs, heq⟩ := Option.map_eq_some_iff.1 h
      exact hsame (hexact s hs heq ▸ hs)
    refine (ends_publish_of_not_shows hother hkey hstored).mono (fun _ c' h => ?_) fun e c' h => ?_
    · obtain ⟨version, hfiled⟩ := h.filed
      exact .written version hsame h.working hfiled
    · obtain ⟨hfailing, rfl⟩ := h
      exact .refused e hsame hfailing

end ReportHandler

end PolicyOperator
