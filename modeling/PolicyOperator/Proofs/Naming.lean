import PolicyOperator.Engine.Scans
import PolicyOperator.Proofs.Lifecycle.Policy

/-!
# Names tell apart

A name is put together with dashes from parts that may hold dashes themselves.

* A generation that is not negative has no dash in it (`dash_notMem_generation`), so the last dash
  of a job's name parts it from the scan: `Naming.scanJob_inj`.
* Each kind begins with a letter of its own: `Naming.report_inj`.

So jobs of other generations and scans are never expected (`job_mem_expectedJobs_iff`), and a report
belongs to one policy and one kind (`key_report_inj`).
-/

namespace PolicyOperator

namespace Naming

/-- Where the last dash of a text is can be told. -/
theorem last_dash_inj {cs cs' ds ds' : List Char} (hds : '-' ∉ ds) (hds' : '-' ∉ ds')
    (h : cs ++ '-' :: ds = cs' ++ '-' :: ds') : cs = cs' ∧ ds = ds' := by
  rcases List.append_eq_append_iff.1 h with ⟨as, rfl, hrest⟩ | ⟨as, rfl, hrest⟩
  · cases as with
    | nil => exact ⟨(List.append_nil _).symm, (List.cons.inj hrest).2⟩
    | cons a as =>
      have hmem : '-' ∈ ds := by
        rw [(List.cons.inj hrest).2]
        simp
      exact absurd hmem hds
  · cases as with
    | nil => exact ⟨List.append_nil _, (List.cons.inj hrest).2.symm⟩
    | cons a as =>
      have hmem : '-' ∈ ds' := by
        rw [(List.cons.inj hrest).2]
        simp
      exact absurd hmem hds'

theorem toList_generation (n : Nat) : (toString (n : Int)).toList = Nat.toDigits 10 n :=
  Nat.toList_repr

theorem dash_notMem_generation {g : Int} (hg : 0 ≤ g) : '-' ∉ (toString g).toList := by
  obtain ⟨n, rfl⟩ := Int.eq_ofNat_of_zero_le hg
  intro hmem
  rw [toList_generation] at hmem
  have hdigit : '-'.isDigit := Nat.isDigit_of_mem_toDigits (by omega) (by omega) hmem
  exact absurd hdigit (by decide)

/-- Digits say their number. -/
theorem generation_inj {g g' : Int} (hg : 0 ≤ g) (hg' : 0 ≤ g')
    (h : (toString g).toList = (toString g').toList) : g = g' := by
  obtain ⟨n, rfl⟩ := Int.eq_ofNat_of_zero_le hg
  obtain ⟨n', rfl⟩ := Int.eq_ofNat_of_zero_le hg'
  rw [toList_generation, toList_generation] at h
  have hvalue : n = n' := calc
    n = Nat.ofDigitChars 10 (Nat.toDigits 10 n) 0 := Nat.ofDigitChars_ten_toDigits.symm
    _ = Nat.ofDigitChars 10 (Nat.toDigits 10 n') 0 := by rw [h]
    _ = n' := Nat.ofDigitChars_ten_toDigits
  rw [hvalue]

theorem toList_scanJob (policy scan : String) (g : Int) : (scanJob policy scan g).toList =
    ("eirenyx-trivy-" ++ policy ++ "-" ++ scan).toList ++ '-' :: (toString g).toList := by
  unfold scanJob
  simp

/-- The last dash is the one before the generation. With a negative generation it would be the sign,
and the dash before it could belong to the scan. -/
theorem scanJob_inj {policy scan scan' : String} {g g' : Int} (hg : 0 ≤ g) (hg' : 0 ≤ g') :
    scanJob policy scan g = scanJob policy scan' g' ↔ scan = scan' ∧ g = g' := by
  constructor
  · intro h
    have hchars := congrArg String.toList h
    rw [toList_scanJob, toList_scanJob] at hchars
    obtain ⟨hscan, hgeneration⟩ :=
      last_dash_inj (dash_notMem_generation hg) (dash_notMem_generation hg') hchars
    refine ⟨?_, generation_inj hg hg' hgeneration⟩
    exact (String.append_right_inj _).1 (String.toList_injective hscan)
  · rintro ⟨rfl, rfl⟩
    rfl

theorem report_inj {kind kind' : ToolKind} {policy policy' : String} :
    report kind policy = report kind' policy' ↔ kind = kind' ∧ policy = policy' := by
  constructor
  · intro h
    have hchars := congrArg String.toList h
    simp only [report, String.toList_append] at hchars
    have hkind : kind = kind' := by
      cases kind <;> cases kind' <;> simp [ToolKind.name] at hchars ⊢
    subst hkind
    rw [List.append_cancel_left_eq] at hchars
    exact ⟨rfl, String.toList_injective hchars⟩
  · rintro ⟨rfl, rfl⟩
    rfl

/-! ## Jobs and reports -/

/-- The job that a scan has at some generation of a policy is expected at another one exactly if the
generations are the same and a scan of that name is still declared. -/
theorem job_mem_expectedJobs_iff {p old : Policy} (spec : TrivySpec) (scan : Scan)
    (hname : old.displayName = p.displayName) (hold : 0 ≤ Artifact.generation old)
    (hp : 0 ≤ Artifact.generation p) :
    (Engine.Scans.job old scan).displayName ∈ spec.expectedJobs p ↔
      Artifact.generation old = Artifact.generation p ∧ scan.name ∈ spec.scans.map Scan.name := by
  have hjob : (Engine.Scans.job old scan).displayName =
      scanJob p.displayName scan.name (Artifact.generation old) := by
    rw [← hname]
    rfl
  rw [hjob, TrivySpec.expectedJobs, List.mem_map, List.mem_map]
  constructor
  · rintro ⟨declared, hdeclared, hsame⟩
    obtain ⟨hscan, hgeneration⟩ := (scanJob_inj hp hold).1 hsame
    exact ⟨hgeneration.symm, declared, hdeclared, hscan⟩
  · rintro ⟨hgeneration, declared, hdeclared, hscan⟩
    exact ⟨declared, hdeclared, (scanJob_inj hp hold).2 ⟨hscan, hgeneration.symm⟩⟩

theorem key_report_inj {p p' : Policy} {key key' : Key} (hkey : p.key = .ok key)
    (hkey' : p'.key = .ok key') (kind kind' : ToolKind) :
    (Artifact.report p kind).key = (Artifact.report p' kind').key ↔ kind = kind' ∧ key = key' := by
  rw [PolicyLifecycle.key_report kind hkey, PolicyLifecycle.key_report kind' hkey',
    Except.ok.injEq, Key.mk.injEq, report_inj, Object.displayName_of_key hkey,
    Object.displayName_of_key hkey']
  obtain ⟨ns, name⟩ := key
  obtain ⟨ns', name'⟩ := key'
  rw [Key.mk.injEq]
  constructor
  · rintro ⟨rfl, rfl, rfl⟩
    exact ⟨rfl, rfl, rfl⟩
  · rintro ⟨rfl, rfl, rfl⟩
    exact ⟨rfl, rfl, rfl⟩

/-- Within a policy the name of a job says its scan and its generation, so no job of another one is
expected. The name of a report says its policy and its kind, so no two share a report. -/
theorem unambiguous :
    (∀ (policy scan scan' : String) (g g' : Int), 0 ≤ g → 0 ≤ g' →
      (scanJob policy scan g = scanJob policy scan' g' ↔ scan = scan' ∧ g = g')) ∧
    (∀ (p old : Policy) (spec : TrivySpec) (scan : Scan), old.displayName = p.displayName →
      0 ≤ Artifact.generation old → 0 ≤ Artifact.generation p →
      ((Engine.Scans.job old scan).displayName ∈ spec.expectedJobs p ↔
        Artifact.generation old = Artifact.generation p ∧
          scan.name ∈ spec.scans.map Scan.name)) ∧
    (∀ (kind kind' : ToolKind) (policy policy' : String),
      report kind policy = report kind' policy' ↔ kind = kind' ∧ policy = policy') ∧
    ∀ (p p' : Policy) (key key' : Key) (kind kind' : ToolKind), p.key = .ok key →
      p'.key = .ok key' →
      ((Artifact.report p kind).key = (Artifact.report p' kind').key ↔
        kind = kind' ∧ key = key') := by
  refine ⟨?scans, ?jobs, ?names, ?reports⟩
  case scans =>
    intro policy scan scan' g g' hg hg'
    exact scanJob_inj hg hg'
  case jobs =>
    intro p old spec scan hname hold hp
    exact job_mem_expectedJobs_iff spec scan hname hold hp
  case names =>
    intro kind kind' policy policy'
    exact report_inj
  case reports =>
    intro p p' key key' kind kind' hkey hkey'
    exact key_report_inj hkey hkey' kind kind'

namespace Sample

def scan (name : String) : Scan where
  name := name
  image := "web:1"

/-- A policy at a generation. The name of one of its scans ends like a generation. -/
def policy (generation : Int) : Policy where
  metadata := { name := some "images", ns := some "shop", generation := some generation }
  spec := { type := "trivy", trivy := some { scans := [scan "web", scan "web-1"] } }

end Sample

open Sample in
theorem unambiguous_sample :
    scanJob "images" "web-1" 2 ≠ scanJob "images" "web" 12 ∧
      (Engine.Scans.job (policy 1) (scan "web")).displayName ∉
        ({ scans := [scan "web", scan "web-1"] } : TrivySpec).expectedJobs (policy 12) ∧
      report .trivy "report-images" ≠ report .trivy "images" ∧
      (Artifact.report (policy 1) .trivy).key ≠ (Artifact.report (policy 1) .litmus).key := by
  obtain ⟨hscans, hjobs, hnames, hreports⟩ := unambiguous
  refine ⟨fun h => ?_, fun h => ?_, fun h => ?_, fun h => ?_⟩
  · have hsame := (hscans "images" "web-1" "web" 2 12 (by decide) (by decide)).1 h
    exact absurd hsame.1 (by decide)
  · have hsame := (hjobs (policy 12) (policy 1) _ (scan "web") rfl (by decide) (by decide)).1 h
    exact absurd hsame.1 (by decide)
  · have hsame := (hnames .trivy .trivy "report-images" "images").1 h
    exact absurd hsame.2 (by decide)
  · have hsame := (hreports (policy 1) (policy 1) ⟨"shop", "images"⟩ ⟨"shop", "images"⟩ .trivy
      .litmus rfl rfl).1 h
    exact absurd hsame.1 (by decide)

end Naming

end PolicyOperator
