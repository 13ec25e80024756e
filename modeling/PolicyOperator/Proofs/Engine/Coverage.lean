import Mathlib.Data.List.Dedup
import PolicyOperator.Proofs.Engine.Jobs

/-!
# A job for every scan

Where no job was, a reconciliation leaves the job of the first scan of each name and no other
(`fresh_of_tidied`). A validation asks for names and not for names that differ, so there is a job
for every scan exactly if they do (`covers_iff_nodup`); of two scans with one name the second is
never run (`scan_left_out`).
-/

namespace PolicyOperator.Engine.Scans

open Cluster

variable {p : Policy} {pk : Key} {spec : TrivySpec} {ns : String} {scans : List Scan} {scan : Scan}
  {c c' : Cluster} {j : Job}

/-- The jobs of a namespace. -/
def jobsIn (ns : String) (c : Cluster) : List Job := (c.store .job).list (some ns) ∅

/-- The command lines of a job's containers. -/
def commands (j : Job) : List (Option (List String)) :=
  match j.spec.bind fun spec => spec.template.spec with
  | some pod => pod.containers.map Container.command
  | none => []

/-- There are as many jobs in a namespace as scans, and each scan has a job with its command. -/
structure Covers (ns : String) (scans : List Scan) (c : Cluster) : Prop where
  count : (jobsIn ns c).length = scans.length
  runs : ∀ scan ∈ scans, ∃ j ∈ jobsIn ns c, commands j = [some scan.command]

/-! ## Names -/

theorem scanJob_injective (policy : String) (generation : Int) :
    Function.Injective fun scan => Naming.scanJob policy scan generation := fun scan scan' h => by
  have hname : Naming.scanJob policy scan generation = Naming.scanJob policy scan' generation := h
  unfold Naming.scanJob at hname
  simpa using hname

theorem expectedJobs_eq_map (p : Policy) (spec : TrivySpec) : spec.expectedJobs p =
    (spec.scans.map Scan.name).map fun scan =>
      Naming.scanJob p.displayName scan (Artifact.generation p) := by
  rw [TrivySpec.expectedJobs, List.map_map]
  rfl

theorem nodup_expectedJobs_iff :
    (spec.expectedJobs p).Nodup ↔ (spec.scans.map Scan.name).Nodup := by
  rw [expectedJobs_eq_map, List.nodup_map_iff (scanJob_injective _ _)]

/-- If names differ, a scan is the first one with its job. -/
theorem find?_jobName (hnames : (spec.scans.map Scan.name).Nodup) (hscan : scan ∈ spec.scans) :
    spec.scans.find? (fun s => TrivySpec.jobName p s = TrivySpec.jobName p scan) = some scan := by
  obtain ⟨first, hfirst⟩ := Option.isSome_iff_exists.1
    ((List.find?_isSome (p := fun s => TrivySpec.jobName p s = TrivySpec.jobName p scan)).2
      ⟨scan, hscan, by simp⟩)
  have hjob : TrivySpec.jobName p first = TrivySpec.jobName p scan := by
    simpa using List.find?_some hfirst
  have hname : first.name = scan.name := scanJob_injective _ _ hjob
  rw [hfirst, List.inj_on_of_nodup_map hnames (List.mem_of_find?_eq_some hfirst) hscan hname]

/-! ## Jobs -/

theorem mem_jobsIn_iff :
    j ∈ jobsIn ns c ↔ ∃ name, (c.store .job).objects.get? ⟨ns, name⟩ = some j :=
  Store.mem_list_namespace_iff

/-- The jobs of a namespace where there was none are those of the first scans of each name. -/
structure Fresh (p : Policy) (spec : TrivySpec) (ns : String) (c c' : Cluster) : Prop where
  made : ∀ name j, (c'.store .job).objects.get? ⟨ns, name⟩ = some j →
    ∃ scan version, spec.scans.find? (fun scan => TrivySpec.jobName p scan = name) = some scan ∧
      j = Store.created (job p scan) c.clock version
  present : ∀ name ∈ spec.expectedJobs p, ((c'.store .job).objects.get? ⟨ns, name⟩).isSome

theorem fresh_of_tidied (h : Tidied p spec c c') (hfree : jobsIn p.metadata.nsOrEmpty c = []) :
    Fresh p spec p.metadata.nsOrEmpty c c' := by
  have hnone : ∀ name, (c.store .job).objects.get? ⟨p.metadata.nsOrEmpty, name⟩ = none := by
    intro name
    refine Option.eq_none_iff_forall_ne_some.2 fun j hget => ?_
    exact List.ne_nil_of_mem (mem_jobsIn_iff.2 ⟨name, hget⟩) hfree
  refine ⟨fun name j hget => ?_, h.present⟩
  by_cases hname : name ∈ spec.expectedJobs p
  · exact h.made name hname j (hnone name) hget
  · have hold : ¬ Outdated p spec c ⟨p.metadata.nsOrEmpty, name⟩ := by
      rintro ⟨j', hget', -⟩
      cases (hnone name).symm.trans hget'
    rw [h.others ⟨p.metadata.nsOrEmpty, name⟩ (fun _ => hname) hold, hnone name] at hget
    cases hget

theorem Fresh.mem_names_iff (h : Fresh p spec ns c c') (hc' : (c'.store .job).Filed)
    {name : String} :
    name ∈ (jobsIn ns c').map Object.displayName ↔ name ∈ (spec.expectedJobs p).dedup := by
  rw [List.mem_dedup, List.mem_map]
  constructor
  · rintro ⟨j, hj, rfl⟩
    obtain ⟨name, hget⟩ := mem_jobsIn_iff.1 hj
    obtain ⟨scan, -, hfirst, -⟩ := h.made name j hget
    have hname : TrivySpec.jobName p scan = name := by simpa using List.find?_some hfirst
    rw [Object.displayName_of_key (hc' _ j hget)]
    exact List.mem_map.2 ⟨scan, List.mem_of_find?_eq_some hfirst, hname⟩
  · intro hname
    obtain ⟨j, hget⟩ := Option.isSome_iff_exists.1 (h.present name hname)
    exact ⟨j, mem_jobsIn_iff.2 ⟨name, hget⟩, Object.displayName_of_key (hc' _ j hget)⟩

/-- There is one job for each name. -/
theorem Fresh.length_jobsIn (h : Fresh p spec ns c c') (hc' : (c'.store .job).Filed) :
    (jobsIn ns c').length = (spec.expectedJobs p).dedup.length := by
  have hnodup : ((jobsIn ns c').map Object.displayName).Nodup := by
    refine List.pairwise_map.2 ((Store.pairwise_list hc').imp fun {a b} hlt heq => ?_)
    have hsame : compare b.displayName b.displayName = .eq := Std.ReflCmp.compare_self
    rw [heq, hsame] at hlt
    cases hlt
  have hperm := (List.perm_ext_iff_of_nodup hnodup (List.nodup_dedup _)).2
    fun name => h.mem_names_iff hc'
  rw [← List.length_map, hperm.length_eq]

theorem Fresh.covers_iff (h : Fresh p spec ns c c') (hc' : (c'.store .job).Filed) :
    Covers ns spec.scans c' ↔ (spec.scans.map Scan.name).Nodup := by
  have hlength : (spec.expectedJobs p).length = spec.scans.length := List.length_map _
  constructor
  · intro hcovers
    have hcount := (h.length_jobsIn hc').symm.trans (hcovers.count.trans hlength.symm)
    rw [← nodup_expectedJobs_iff (p := p), ← List.dedup_eq_self]
    exact (List.dedup_sublist _).eq_of_length hcount
  · intro hnames
    refine ⟨?_, fun scan hscan => ?_⟩
    · rw [h.length_jobsIn hc', List.dedup_eq_self.2 (nodup_expectedJobs_iff.2 hnames), hlength]
    · obtain ⟨j, hget⟩ := Option.isSome_iff_exists.1
        (h.present (TrivySpec.jobName p scan) (List.mem_map_of_mem hscan))
      obtain ⟨first, version, hfirst, rfl⟩ := h.made _ j hget
      rw [find?_jobName hnames hscan] at hfirst
      obtain rfl := Option.some.inj hfirst
      exact ⟨_, mem_jobsIn_iff.2 ⟨_, hget⟩, rfl⟩

/-! ## Reconciliation -/

/-- A policy with scans in a namespace without jobs: after its reconciliation every scan has a job
exactly if no two scans have the same name, valid or not. -/
theorem covers_iff_nodup (hc : c.Reached) (hstored : (c.store .policy).objects.get? pk = some p)
    (hspec : specOf p = .ok spec) (hfree : jobsIn pk.ns c = []) :
    Ends (reconcile p) c
      (fun _ c' => Covers pk.ns spec.scans c' ↔ (spec.scans.map Scan.name).Nodup)
      fun _ _ => (c.store .job).failing = true := by
  have hkey : p.key = .ok pk := hc.filed .policy pk p hstored
  have hns : p.metadata.nsOrEmpty = pk.ns := Object.nsOrEmpty_of_key hkey
  have htidied : Ends (reconcile p) c (fun _ c' => Tidied p spec c c') fun _ _ => True :=
    (ends_reconcile_faithful Access.faithful_direct (hc.filed .job)
      (section_of_specOf hspec)).mono (fun _ _ h => h) fun _ _ _ => trivial
  have hlater : Keeps Later (reconcile p) := later_reconcile p .trivy
  refine (hlater.ends (htidied.and (ends_reconcile hkey hspec c))).mono (fun _ c' h => ?_)
    fun _ _ h => h.1.2.1
  obtain ⟨⟨htidied, -⟩, hlater⟩ := h
  have hfiled : (c'.store .job).Filed := (hc.later hlater).filed .job
  rw [← hns] at hfree ⊢
  exact (fresh_of_tidied htidied hfree).covers_iff hfiled

namespace Coverage.Sample

/-- Two scans of different images; the second has a name of one's choice. -/
def scanned (second : String) : TrivySpec where
  scans := [⟨"web", "web:1", none, false, [], none⟩, ⟨second, "web:2", none, false, [], none⟩]

/-- The policy as it is stored first. -/
def policy (second : String) : Policy := Store.created {
  metadata := { name := some "images", ns := some "shop" }
  spec := { type := "trivy", trivy := some (scanned second) } } ⟨0, 0⟩ 1

def start (second : String) : Cluster := (ClusterM.create (policy second) {}).2

def after (second : String) : Cluster := (reconcile (policy second) (start second)).2

theorem reached_start (second : String) : (start second).Reached :=
  reached_empty.later ((ClusterM.later_create _).state {})

end Coverage.Sample

open Coverage.Sample in
theorem covers_sample :
    (start "api").Reached ∧
      ((start "api").store .policy).objects.get? ⟨"shop", "images"⟩ = some (policy "api") ∧
      validate (policy "api") = .ok () ∧ specOf (policy "api") = .ok (scanned "api") ∧
      jobsIn "shop" (start "api") = [] ∧
      reconcile (policy "api") (start "api") = (.ok (), after "api") ∧
      Covers "shop" (scanned "api").scans (after "api") := by
  have hstored : ((start "api").store .policy).objects.get? ⟨"shop", "images"⟩ =
      some (policy "api") := rfl
  have hspec : specOf (policy "api") = .ok (scanned "api") := rfl
  have hfree : jobsIn "shop" (start "api") = [] := rfl
  have hrun : reconcile (policy "api") (start "api") = (.ok (), after "api") := rfl
  have hcovers := (covers_iff_nodup (p := policy "api") (reached_start "api") hstored hspec
    hfree).ok hrun
  exact ⟨reached_start "api", hstored, rfl, hspec, hfree, hrun, hcovers.2 (by decide)⟩

open Coverage.Sample in
/-- Of two scans with one name the second has no job, and nothing says so. -/
theorem scan_left_out :
    (start "web").Reached ∧
      ((start "web").store .policy).objects.get? ⟨"shop", "images"⟩ = some (policy "web") ∧
      validate (policy "web") = .ok () ∧ jobsIn "shop" (start "web") = [] ∧
      reconcile (policy "web") (start "web") = (.ok (), after "web") ∧
      (jobsIn "shop" (after "web")).map commands = [[some ["trivy", "image", "web:1"]]] ∧
      (scanned "web").scans.map Scan.command =
        [["trivy", "image", "web:1"], ["trivy", "image", "web:2"]] ∧
      ¬ Covers "shop" (scanned "web").scans (after "web") := by
  have hjobs : (jobsIn "shop" (after "web")).map commands =
      [[some ["trivy", "image", "web:1"]]] := rfl
  refine ⟨reached_start "web", rfl, rfl, rfl, rfl, hjobs, rfl, fun hcovers => ?_⟩
  have hone := congrArg List.length hjobs
  rw [List.length_map, hcovers.count] at hone
  cases hone

end PolicyOperator.Engine.Scans
