import PolicyOperator.Proofs.Wire.Values
import PolicyOperator.Resource.Object

/-!
# Records that come back

`X.trips` for every type `X` of records on the wire: what is in range is written by `X.toJson` and
read by `X.ofJson?` as it was, up to fractions of a second. Each is shown field by field: each field
of the record that is written is read by the lemma for its kind (`Trips.required`,
`Trips.optional`, …). What is left to check is that the writer puts the field under the key that the
reader takes it from, and leaves it out only when the reader has the same default.

`X.Readable` says what is in range, where that is not every record of the type: whole numbers fit
their words, instants have a date, free-form values are there. It speaks of the record alone, not of
what a reader makes of it. The readers do not read anything else.
-/

namespace PolicyOperator

open Draft

namespace Trips

variable {α : Type} {read : Draft → Option α} {row : Row} {key : String} {j : Json}

/-- A list that is left out when empty. -/
theorem unlessEmpty {ok : List α → Prop} {write : List α → Json} {norm : List α → List α}
    (t : Trips ok (listOf? read) write norm) (l : List α) (hl : ok l) (hnorm : norm [] = [])
    (hj : j.field? key = if l.isEmpty then none else some (write l)) :
    j.row.defaulted key [] (listOf? read) = some (norm l) :=
  t.skipped l hl List.isEmpty_iff.1 hnorm hj

theorem textsUnlessEmpty (l : List String) (hj : j.field? key = Json.textsUnlessEmpty l) :
    j.row.defaulted key [] (listOf? text?) = some l :=
  texts.unlessEmpty l trivial rfl hj

theorem textUnlessEmpty (s : String) (hj : j.field? key = Json.textUnlessEmpty s) :
    j.row.defaulted key "" text? = some s := by
  have hskip : j.field? key = if decide (s = "") then none else some (.str s) := by
    simp [hj, Json.textUnlessEmpty]
  exact text.skipped s trivial of_decide_eq_true rfl hskip

end Trips

/-- What a reader of a record reads, it reads field by field. -/
theorem Draft.read_eq_some_iff {α β : Type} {x : Option α} {f : α → Option β} {b : β} :
    (x >>= f) = some b ↔ ∃ a, x = some a ∧ f a = some b :=
  Option.bind_eq_some_iff

/-! ## Metadata -/

theorem OwnerReference.trips : TripsAny OwnerReference.ofJson? OwnerReference.toJson id := by
  refine .of_back (fun r => ?_) fun _ => Json.noConfusion
  simp only [ofJson?, ↓read_eq_some_iff]
  refine ⟨_, members?_record _, _, Trips.text.lenient r.apiVersion trivial ?_,
    _, Trips.text.lenient r.kind trivial ?_, _, Trips.text.lenient r.name trivial ?_,
    _, Trips.text.lenient r.uid trivial ?_, _, Trips.bool.optionalAny r.controller ?_,
    _, Trips.bool.optionalAny r.blockOwnerDeletion ?_, ?_⟩
  all_goals simp

structure ManagedFields.Readable (f : ManagedFields) : Prop where
  fieldsV1 : ∀ j ∈ f.fieldsV1, j.IsPayload
  time : ∀ t ∈ f.time, t.Writable

theorem ManagedFields.trips :
    Trips ManagedFields.Readable ManagedFields.ofJson? ManagedFields.toJson
      ManagedFields.wholeSeconds where
  back {f} h := by
    simp only [ofJson?, ↓read_eq_some_iff]
    refine ⟨_, members?_record _, _, Trips.text.optionalAny f.manager ?_,
      _, Trips.text.optionalAny f.operation ?_, _, Trips.text.optionalAny f.apiVersion ?_,
      _, Trips.text.optionalAny f.fieldsType ?_, _, Trips.value.optional f.fieldsV1 h.fieldsV1 ?_,
      _, Trips.text.optionalAny f.subresource ?_, _, Trips.instant.optional f.time h.time ?_, ?_⟩
    all_goals simp [wholeSeconds]
  same _ := by simp [toJson, wholeSeconds, Function.comp_def, Trips.instant.same]
  solid _ := Json.noConfusion
  ranged _ h := by
    simp only [ofJson?, ↓read_eq_some_iff, Option.pure_def, Option.some.injEq] at h
    obtain ⟨row, -, manager, -, operation, -, apiVersion, -, fieldsType, -, fieldsV1, hfieldsV1,
      subresource, -, time, htime, rfl⟩ := h
    exact ⟨Trips.value.ranged_of_optional hfieldsV1, Trips.instant.ranged_of_optional htime⟩

structure Metadata.Readable (m : Metadata) : Prop where
  generation : ∀ n ∈ m.generation, FitsInt64 n
  creationTimestamp : ∀ t ∈ m.creationTimestamp, t.Writable
  deletionTimestamp : ∀ t ∈ m.deletionTimestamp, t.Writable
  deletionGracePeriodSeconds : ∀ n ∈ m.deletionGracePeriodSeconds, FitsInt64 n
  managedFields : ∀ l ∈ m.managedFields, ∀ f ∈ l, f.Readable

theorem Metadata.trips :
    Trips Metadata.Readable Metadata.ofJson? Metadata.toJson Metadata.wholeSeconds where
  back {m} h := by
    simp only [ofJson?, ↓read_eq_some_iff]
    refine ⟨_, members?_record _, _, Trips.text.optionalAny m.name ?_,
      _, Trips.text.optionalAny m.ns ?_, _, Trips.textMap.optionalAny m.labels ?_,
      _, Trips.textMap.optionalAny m.annotations ?_, _, Trips.texts.optionalAny m.finalizers ?_,
      _, OwnerReference.trips.listAny.optionalAny m.ownerReferences ?_,
      _, Trips.text.optionalAny m.uid ?_, _, Trips.text.optionalAny m.resourceVersion ?_,
      _, Trips.int64.optional m.generation h.generation ?_,
      _, Trips.instant.optional m.creationTimestamp h.creationTimestamp ?_,
      _, Trips.instant.optional m.deletionTimestamp h.deletionTimestamp ?_,
      _, Trips.int64.optional m.deletionGracePeriodSeconds h.deletionGracePeriodSeconds ?_,
      _, Trips.text.optionalAny m.generateName ?_, _, Trips.text.optionalAny m.selfLink ?_,
      _, (ManagedFields.trips.list rfl).optional m.managedFields h.managedFields ?_, ?_⟩
    all_goals simp [wholeSeconds]
  same _ := by
    simp [toJson, wholeSeconds, Function.comp_def, Trips.instant.same, ManagedFields.trips.same]
  solid _ := Json.noConfusion
  ranged _ h := by
    simp only [ofJson?, ↓read_eq_some_iff, Option.pure_def, Option.some.injEq] at h
    obtain ⟨row, -, name, -, ns, -, labels, -, annotations, -, finalizers, -, owners, -, uid, -,
      resourceVersion, -, generation, hgeneration, created, hcreated, deleted, hdeleted, grace,
      hgrace, generateName, -, selfLink, -, managed, hmanaged, rfl⟩ := h
    exact ⟨Trips.int64.ranged_of_optional hgeneration, Trips.instant.ranged_of_optional hcreated,
      Trips.instant.ranged_of_optional hdeleted, Trips.int64.ranged_of_optional hgrace,
      (ManagedFields.trips.list rfl).ranged_of_optional hmanaged⟩

structure Condition.Readable (c : Condition) : Prop where
  observedGeneration : ∀ n ∈ c.observedGeneration, FitsInt64 n
  lastTransitionTime : c.lastTransitionTime.Writable

theorem Condition.trips :
    Trips Condition.Readable Condition.ofJson? Condition.toJson Condition.wholeSeconds where
  back {c} h := by
    simp only [ofJson?, ↓read_eq_some_iff]
    refine ⟨_, members?_record _, _, Trips.text.lenient c.type trivial ?_,
      _, Trips.text.lenient c.status trivial ?_, _, Trips.text.lenient c.reason trivial ?_,
      _, Trips.text.lenient c.message trivial ?_,
      _, Trips.int64.optional c.observedGeneration h.observedGeneration ?_,
      _, Trips.instant.required c.lastTransitionTime h.lastTransitionTime ?_, ?_⟩
    all_goals simp [wholeSeconds]
  same _ := by simp [toJson, wholeSeconds, Trips.instant.same]
  solid _ := Json.noConfusion
  ranged _ h := by
    simp only [ofJson?, ↓read_eq_some_iff, Option.pure_def, Option.some.injEq] at h
    obtain ⟨row, -, type, -, status, -, reason, -, message, -, observed, hobserved, time, htime,
      rfl⟩ := h
    exact ⟨Trips.int64.ranged_of_optional hobserved, Trips.instant.ranged_of_required rfl htime⟩

/-! ## Tools -/

structure ToolSpec.Readable (s : ToolSpec) : Prop where
  values : ∀ j ∈ s.values, j.IsPayload

theorem ToolSpec.trips : Trips ToolSpec.Readable ToolSpec.ofJson? ToolSpec.toJson id where
  back {s} h := by
    simp only [ofJson?, ↓read_eq_some_iff]
    refine ⟨_, row?_record _ _, _, Trips.text.required s.type trivial ?_,
      _, Trips.bool.defaulted s.enabled trivial ?_, _, Trips.text.optionalAny s.ns ?_,
      _, Trips.value.optional s.values h.values ?_, ?_⟩
    all_goals simp
  same _ := rfl
  solid _ := Json.noConfusion
  ranged _ h := by
    simp only [ofJson?, ↓read_eq_some_iff, Option.pure_def, Option.some.injEq] at h
    obtain ⟨row, -, type, -, enabled, -, ns, -, values, hvalues, rfl⟩ := h
    exact ⟨Trips.value.ranged_of_optional hvalues⟩

structure ToolStatus.Readable (s : ToolStatus) : Prop where
  conditions : ∀ c ∈ s.conditions, c.Readable

theorem ToolStatus.trips :
    Trips ToolStatus.Readable ToolStatus.ofJson? ToolStatus.toJson ToolStatus.wholeSeconds where
  back {s} h := by
    simp only [ofJson?, ↓read_eq_some_iff]
    refine ⟨_, row?_record _ _, _, Trips.bool.defaulted s.installed trivial ?_,
      _, Trips.bool.defaulted s.healthy trivial ?_, _, Trips.text.optionalAny s.version ?_,
      _, (Condition.trips.list rfl).unlessEmpty s.conditions h.conditions rfl ?_, ?_⟩
    all_goals simp [wholeSeconds]
  same _ := by simp [toJson, wholeSeconds, Function.comp_def, Condition.trips.same]
  solid _ := Json.noConfusion
  ranged _ h := by
    simp only [ofJson?, ↓read_eq_some_iff, Option.pure_def, Option.some.injEq] at h
    obtain ⟨row, -, installed, -, healthy, -, version, -, conditions, hconditions, rfl⟩ := h
    exact ⟨(Condition.trips.list rfl).ranged_of_defaulted rfl (List.forall_mem_nil _) hconditions⟩

/-! ## Policies -/

theorem Target.trips : TripsAny Target.ofJson? Target.toJson id := by
  refine .of_back (fun t => ?_) fun _ => Json.noConfusion
  simp only [ofJson?, ↓read_eq_some_iff]
  refine ⟨_, row?_record _ _, _, Trips.textsUnlessEmpty t.namespaces ?_,
    _, Trips.textsUnlessEmpty t.nodes ?_, ?_⟩
  all_goals simp

theorem Rule.trips : TripsAny Rule.ofJson? Rule.toJson id := by
  refine .of_back (fun r => ?_) fun _ => Json.noConfusion
  simp only [ofJson?, ↓read_eq_some_iff]
  refine ⟨_, row?_record _ _, _, Trips.text.required r.name trivial ?_,
    _, Trips.text.required r.condition trivial ?_, _, Trips.text.required r.output trivial ?_,
    _, Trips.text.required r.priority trivial ?_, _, Trips.textsUnlessEmpty r.tags ?_, ?_⟩
  all_goals simp

theorem RuleSelector.trips : TripsAny RuleSelector.ofJson? RuleSelector.toJson id := by
  refine .of_back (fun s => ?_) fun _ => Json.noConfusion
  simp only [ofJson?, ↓read_eq_some_iff]
  refine ⟨_, row?_record _ _, _, Trips.textsUnlessEmpty s.tags ?_,
    _, Trips.textsUnlessEmpty s.priorities ?_, ?_⟩
  all_goals simp

theorem RuleReference.trips : TripsAny RuleReference.ofJson? RuleReference.toJson id := by
  refine .of_back (fun r => ?_) fun _ => Json.noConfusion
  simp only [ofJson?, ↓read_eq_some_iff]
  refine ⟨_, row?_record _ _, _, Trips.text.required r.name trivial ?_, ?_⟩
  all_goals simp

theorem Observation.trips : TripsAny Observation.ofJson? Observation.toJson id := by
  refine .of_back (fun o => ?_) fun _ => Json.noConfusion
  simp only [ofJson?, ↓read_eq_some_iff]
  refine ⟨_, row?_record _ _, _, RuleReference.trips.optionalAny o.rule ?_,
    _, RuleSelector.trips.optionalAny o.selector ?_, ?_⟩
  all_goals simp

theorem Reporting.trips : TripsAny Reporting.ofJson? Reporting.toJson id := by
  refine .of_back (fun r => ?_) fun _ => Json.noConfusion
  simp only [ofJson?, ↓read_eq_some_iff]
  refine ⟨_, row?_record _ _, _, Trips.bool.defaulted r.create trivial ?_,
    _, Trips.text.optionalAny r.severity ?_, _, Trips.text.optionalAny r.aggregationWindow ?_, ?_⟩
  all_goals simp

theorem FalcoSpec.trips : TripsAny FalcoSpec.ofJson? FalcoSpec.toJson id := by
  refine .of_back (fun s => ?_) fun _ => Json.noConfusion
  simp only [ofJson?, ↓read_eq_some_iff]
  refine ⟨_, row?_record _ _, _, Rule.trips.listAny.defaulted s.rules trivial ?_,
    _, Observation.trips.optionalAny s.observe ?_, _, Reporting.trips.optionalAny s.report ?_, ?_⟩
  all_goals simp

structure Scan.Readable (s : Scan) : Prop where
  exitCode : ∀ n ∈ s.exitCode, FitsInt32 n

theorem Scan.trips : Trips Scan.Readable Scan.ofJson? Scan.toJson id where
  back {s} h := by
    simp only [ofJson?, ↓read_eq_some_iff]
    refine ⟨_, row?_record _ _, _, Trips.text.required s.name trivial ?_,
      _, Trips.text.required s.image trivial ?_, _, Trips.text.optionalAny s.severity ?_,
      _, Trips.bool.defaulted s.ignoreUnfixed trivial ?_,
      _, Trips.textsUnlessEmpty s.vulnerabilityTypes ?_,
      _, Trips.int32.optional s.exitCode h.exitCode ?_, ?_⟩
    all_goals simp
  same _ := rfl
  solid _ := Json.noConfusion
  ranged _ h := by
    simp only [ofJson?, ↓read_eq_some_iff, Option.pure_def, Option.some.injEq] at h
    obtain ⟨row, -, name, -, image, -, severity, -, ignore, -, types, -, exitCode, hexitCode,
      rfl⟩ := h
    exact ⟨Trips.int32.ranged_of_optional hexitCode⟩

structure TrivySpec.Readable (s : TrivySpec) : Prop where
  scans : ∀ scan ∈ s.scans, scan.Readable

theorem TrivySpec.trips : Trips TrivySpec.Readable TrivySpec.ofJson? TrivySpec.toJson id where
  back {s} h := by
    simp only [ofJson?, ↓read_eq_some_iff]
    refine ⟨_, row?_record _ _, _, (Scan.trips.listId rfl).defaulted s.scans h.scans ?_, ?_⟩
    all_goals simp
  same _ := rfl
  solid _ := Json.noConfusion
  ranged _ h := by
    simp only [ofJson?, ↓read_eq_some_iff, Option.pure_def, Option.some.injEq] at h
    obtain ⟨row, -, scans, hscans, rfl⟩ := h
    exact ⟨(Scan.trips.listId rfl).ranged_of_defaulted rfl (List.forall_mem_nil _) hscans⟩

theorem AppInfo.trips : TripsAny AppInfo.ofJson? AppInfo.toJson id := by
  refine .of_back (fun i => ?_) fun _ => Json.noConfusion
  simp only [ofJson?, ↓read_eq_some_iff]
  refine ⟨_, row?_record _ _, _, Trips.text.defaulted i.ns trivial ?_,
    _, Trips.text.defaulted i.label trivial ?_, _, Trips.text.defaulted i.kind trivial ?_, ?_⟩
  all_goals simp

theorem ExpectedResult.trips : TripsAny ExpectedResult.ofJson? ExpectedResult.toJson id := by
  refine .of_back (fun r => ?_) fun _ => Json.noConfusion
  simp only [ofJson?, ↓read_eq_some_iff]
  refine ⟨_, row?_record _ _, _, Trips.text.optionalAny r.verdict ?_,
    _, Trips.bool.optionalAny r.failOnChaosError ?_, ?_⟩
  all_goals simp

theorem Experiment.trips : TripsAny Experiment.ofJson? Experiment.toJson id := by
  refine .of_back (fun e => ?_) fun _ => Json.noConfusion
  simp only [ofJson?, ↓read_eq_some_iff]
  refine ⟨_, row?_record _ _, _, Trips.text.required e.name trivial ?_,
    _, Trips.text.required e.experimentRef trivial ?_, _, Trips.text.optionalAny e.engineRef ?_,
    _, Trips.text.optionalAny e.targetNamespace ?_,
    _, AppInfo.trips.required e.appInfo trivial ?_, _, Trips.text.optionalAny e.mode ?_,
    _, Trips.text.optionalAny e.duration ?_,
    _, Trips.textMap.skipped e.parameters trivial SortedMap.eq_empty_of_isEmpty rfl ?_,
    _, ExpectedResult.trips.optionalAny e.expectedResult ?_, ?_⟩
  all_goals simp

theorem LitmusSpec.trips : TripsAny LitmusSpec.ofJson? LitmusSpec.toJson id := by
  refine .of_back (fun s => ?_) fun _ => Json.noConfusion
  simp only [ofJson?, ↓read_eq_some_iff]
  refine ⟨_, row?_record _ _, _, Experiment.trips.listAny.defaulted s.experiments trivial ?_,
    ?_⟩
  all_goals simp

structure PolicySpec.Readable (s : PolicySpec) : Prop where
  trivy : ∀ t ∈ s.trivy, t.Readable

theorem PolicySpec.trips : Trips PolicySpec.Readable PolicySpec.ofJson? PolicySpec.toJson id where
  back {s} h := by
    simp only [ofJson?, ↓read_eq_some_iff]
    refine ⟨_, row?_record _ _, _, Trips.text.required s.type trivial ?_,
      _, Trips.bool.defaulted s.enabled trivial ?_, _, Target.trips.defaulted s.target trivial ?_,
      _, FalcoSpec.trips.optionalAny s.falco ?_, _, TrivySpec.trips.optional s.trivy h.trivy ?_,
      _, LitmusSpec.trips.optionalAny s.litmus ?_, ?_⟩
    all_goals simp
  same _ := rfl
  solid _ := Json.noConfusion
  ranged _ h := by
    simp only [ofJson?, ↓read_eq_some_iff, Option.pure_def, Option.some.injEq] at h
    obtain ⟨row, -, type, -, enabled, -, target, -, falco, -, trivy, htrivy, litmus, -, rfl⟩ := h
    exact ⟨TrivySpec.trips.ranged_of_optional htrivy⟩

theorem PolicyPhase.trips :
    TripsAny (fun d => d.word?.bind PolicyPhase.ofName?) (fun a : PolicyPhase => .str a.name) id :=
  Trips.named fun a => by cases a <;> rfl

structure PolicyStatus.Readable (s : PolicyStatus) : Prop where
  conditions : ∀ c ∈ s.conditions, c.Readable
  observedGeneration : ∀ n ∈ s.observedGeneration, FitsInt64 n

theorem PolicyStatus.trips :
    Trips PolicyStatus.Readable PolicyStatus.ofJson? PolicyStatus.toJson
      PolicyStatus.wholeSeconds where
  back {s} h := by
    simp only [ofJson?, ↓read_eq_some_iff]
    refine ⟨_, row?_record _ _, _, PolicyPhase.trips.optionalAny s.phase ?_,
      _, (Condition.trips.list rfl).unlessEmpty s.conditions h.conditions rfl ?_,
      _, Trips.text.optionalAny s.lastReport ?_,
      _, Trips.int64.optional s.observedGeneration h.observedGeneration ?_, ?_⟩
    all_goals simp [wholeSeconds]
  same _ := by simp [toJson, wholeSeconds, Function.comp_def, Condition.trips.same]
  solid _ := Json.noConfusion
  ranged _ h := by
    simp only [ofJson?, ↓read_eq_some_iff, Option.pure_def, Option.some.injEq] at h
    obtain ⟨row, -, phase, -, conditions, hconditions, report, -, observed, hobserved, rfl⟩ := h
    exact ⟨(Condition.trips.list rfl).ranged_of_defaulted rfl (List.forall_mem_nil _) hconditions,
      Trips.int64.ranged_of_optional hobserved⟩

/-! ## Reports -/

structure PolicyRef.Readable (r : PolicyRef) : Prop where
  generation : FitsInt64 r.generation

theorem PolicyRef.trips : Trips PolicyRef.Readable PolicyRef.ofJson? PolicyRef.toJson id where
  back {r} h := by
    simp only [ofJson?, ↓read_eq_some_iff]
    refine ⟨_, row?_record _ _, _, Trips.text.required r.name trivial ?_,
      _, Trips.int64.defaulted r.generation h.generation ?_, ?_⟩
    all_goals simp
  same _ := rfl
  solid _ := Json.noConfusion
  ranged _ h := by
    simp only [ofJson?, ↓read_eq_some_iff, Option.pure_def, Option.some.injEq] at h
    obtain ⟨row, -, name, -, generation, hgeneration, rfl⟩ := h
    exact ⟨Trips.int64.ranged_of_defaulted rfl (by decide) hgeneration⟩

structure ReportSpec.Readable (s : ReportSpec) : Prop where
  policyRef : s.policyRef.Readable

theorem ReportSpec.trips : Trips ReportSpec.Readable ReportSpec.ofJson? ReportSpec.toJson id where
  back {s} h := by
    simp only [ofJson?, ↓read_eq_some_iff]
    refine ⟨_, row?_record _ _, _, PolicyRef.trips.required s.policyRef h.policyRef ?_,
      _, Trips.text.required s.type trivial ?_, ?_⟩
    all_goals simp
  same _ := rfl
  solid _ := Json.noConfusion
  ranged _ h := by
    simp only [ofJson?, ↓read_eq_some_iff, Option.pure_def, Option.some.injEq] at h
    obtain ⟨row, -, policyRef, hpolicyRef, type, -, rfl⟩ := h
    exact ⟨PolicyRef.trips.ranged_of_required rfl hpolicyRef⟩

theorem Verdict.trips :
    TripsAny (fun d => d.word?.bind Verdict.ofName?) (fun a : Verdict => .str a.name) id :=
  Trips.named fun a => by cases a <;> rfl

theorem ReportSummary.trips : TripsAny ReportSummary.ofJson? ReportSummary.toJson id := by
  refine .of_back (fun s => ?_) fun _ => Json.noConfusion
  simp only [ofJson?, ↓read_eq_some_iff]
  refine ⟨_, row?_record _ _, _, Verdict.trips.defaulted s.verdict trivial ?_,
    _, Trips.word.defaulted s.totalChecks trivial ?_, _, Trips.word.defaulted s.passed trivial ?_,
    _, Trips.word.defaulted s.failed trivial ?_, ?_⟩
  all_goals simp

theorem ReportPhase.trips :
    TripsAny (fun d => d.word?.bind ReportPhase.ofName?) (fun a : ReportPhase => .str a.name) id :=
  Trips.named fun a => by cases a <;> rfl

structure ReportStatus.Readable (s : ReportStatus) : Prop where
  details : ∀ j ∈ s.details, j.IsPayload
  observedGeneration : ∀ n ∈ s.observedGeneration, FitsInt64 n
  refreshedAt : ∀ t ∈ s.refreshedAt, t.Writable

theorem ReportStatus.trips :
    Trips ReportStatus.Readable ReportStatus.ofJson? ReportStatus.toJson
      ReportStatus.wholeSeconds where
  back {s} h := by
    simp only [ofJson?, ↓read_eq_some_iff]
    refine ⟨_, row?_record _ _, _, ReportPhase.trips.defaulted s.phase trivial ?_,
      _, ReportSummary.trips.defaulted s.summary trivial ?_,
      _, Trips.value.optional s.details h.details ?_,
      _, Trips.int64.optional s.observedGeneration h.observedGeneration ?_,
      _, Trips.instant.optional s.refreshedAt h.refreshedAt ?_, ?_⟩
    all_goals simp [wholeSeconds]
  same _ := by simp [toJson, wholeSeconds, Function.comp_def, Trips.instant.same]
  solid _ := Json.noConfusion
  ranged _ h := by
    simp only [ofJson?, ↓read_eq_some_iff, Option.pure_def, Option.some.injEq] at h
    obtain ⟨row, -, phase, -, summary, -, details, hdetails, observed, hobserved, refreshed,
      hrefreshed, rfl⟩ := h
    exact ⟨Trips.value.ranged_of_optional hdetails, Trips.int64.ranged_of_optional hobserved,
      Trips.instant.ranged_of_optional hrefreshed⟩

/-! ## Chaos engines -/

theorem EngineTarget.trips : TripsAny EngineTarget.ofJson? EngineTarget.toJson id := by
  refine .of_back (fun t => ?_) fun _ => Json.noConfusion
  simp only [ofJson?, ↓read_eq_some_iff]
  refine ⟨_, row?_record _ _, _, Trips.textUnlessEmpty t.ns ?_,
    _, Trips.textUnlessEmpty t.label ?_, _, Trips.textUnlessEmpty t.kind ?_, ?_⟩
  all_goals simp

theorem EnvEntry.trips : TripsAny EnvEntry.ofJson? EnvEntry.toJson id := by
  refine .of_back (fun e => ?_) fun _ => Json.noConfusion
  simp only [ofJson?, ↓read_eq_some_iff]
  refine ⟨_, row?_record _ _, _, Trips.text.required e.name trivial ?_,
    _, Trips.text.required e.value trivial ?_, ?_⟩
  all_goals simp

/-- The environment, one object deep. -/
theorem EngineExperiment.trips_components : TripsAny EngineExperiment.envOfComponents?
    (fun env => .record [
      ("env", if env.isEmpty then none else some (.arr (env.map EnvEntry.toJson)))]) id := by
  refine .of_back (fun env => ?_) fun _ => Json.noConfusion
  simp only [envOfComponents?, ↓read_eq_some_iff]
  refine ⟨_, row?_record _ _, EnvEntry.trips.listAny.unlessEmpty env trivial rfl ?_⟩
  simp

/-- The environment, two objects deep. -/
theorem EngineExperiment.trips_spec : TripsAny EngineExperiment.envOfSpec?
    (fun env => .record [("components", some (.record [
      ("env", if env.isEmpty then none else some (.arr (env.map EnvEntry.toJson)))]))]) id := by
  refine .of_back (fun env => ?_) fun _ => Json.noConfusion
  simp only [envOfSpec?, ↓read_eq_some_iff]
  refine ⟨_, row?_record _ _, trips_components.defaulted env trivial ?_⟩
  simp

theorem EngineExperiment.trips : TripsAny EngineExperiment.ofJson? EngineExperiment.toJson id := by
  refine .of_back (fun e => ?_) fun _ => Json.noConfusion
  simp only [ofJson?, ↓read_eq_some_iff]
  refine ⟨_, row?_record _ _, _, Trips.text.required e.name trivial ?_,
    _, trips_spec.defaulted e.env trivial ?_, ?_⟩
  all_goals simp

theorem EngineState.trips :
    TripsAny (fun d => d.word?.bind EngineState.ofName?) (fun a : EngineState => .str a.name) id :=
  Trips.named fun a => by cases a <;> rfl

theorem ChaosEngineSpec.trips : TripsAny ChaosEngineSpec.ofJson? ChaosEngineSpec.toJson id := by
  refine .of_back (fun s => ?_) fun _ => Json.noConfusion
  simp only [ofJson?, ↓read_eq_some_iff]
  refine ⟨_, row?_record _ _, _, EngineTarget.trips.defaulted s.appinfo trivial ?_,
    _, EngineState.trips.required s.engineState trivial ?_,
    _, EngineExperiment.trips.listAny.defaulted s.experiments trivial ?_, ?_⟩
  all_goals simp

theorem ExperimentOutcome.trips :
    TripsAny ExperimentOutcome.ofJson? ExperimentOutcome.toJson id := by
  refine .of_back (fun o => ?_) fun _ => Json.noConfusion
  simp only [ofJson?, ↓read_eq_some_iff]
  refine ⟨_, row?_record _ _, _, Trips.text.required o.name trivial ?_,
    _, Trips.text.defaulted o.status trivial ?_, _, Trips.text.defaulted o.verdict trivial ?_, ?_⟩
  all_goals simp

theorem ChaosEngineStatus.trips :
    TripsAny ChaosEngineStatus.ofJson? ChaosEngineStatus.toJson id := by
  refine .of_back (fun s => ?_) fun _ => Json.noConfusion
  simp only [ofJson?, ↓read_eq_some_iff]
  refine ⟨_, row?_record _ _, _, Trips.text.optionalAny s.engineStatus ?_,
    _, ExperimentOutcome.trips.listAny.unlessEmpty s.experiments trivial rfl ?_, ?_⟩
  all_goals simp

/-! ## Vulnerability reports -/

theorem SeverityCounts.trips : TripsAny SeverityCounts.ofJson? SeverityCounts.toJson id := by
  refine .of_back (fun c => ?_) fun _ => Json.noConfusion
  simp only [ofJson?, ↓read_eq_some_iff]
  refine ⟨_, row?_record _ _, _, Trips.word.defaulted c.critical trivial ?_,
    _, Trips.word.defaulted c.high trivial ?_, _, Trips.word.defaulted c.medium trivial ?_,
    _, Trips.word.defaulted c.low trivial ?_, _, Trips.word.defaulted c.unknown trivial ?_, ?_⟩
  all_goals simp

theorem Vulnerability.trips :
    TripsAny Vulnerability.ofJson? Vulnerability.toJson (fun v => v) := by
  refine .of_back (fun v => ?_) fun _ => Json.noConfusion
  simp only [ofJson?, ↓read_eq_some_iff]
  refine ⟨_, row?_record _ _, _, Trips.text.defaulted v.id trivial ?_,
    _, Trips.text.defaulted v.severity trivial ?_, _, Trips.text.optionalAny v.resource ?_,
    _, Trips.text.optionalAny v.installedVersion ?_, _, Trips.text.optionalAny v.fixedVersion ?_,
    _, Trips.text.optionalAny v.title ?_, ?_⟩
  all_goals simp

theorem ScanResult.trips : TripsAny ScanResult.ofJson? ScanResult.toJson id := by
  refine .of_back (fun r => ?_) fun _ => Json.noConfusion
  simp only [ofJson?, ↓read_eq_some_iff]
  refine ⟨_, row?_record _ _, _, SeverityCounts.trips.defaulted r.summary trivial ?_,
    _, Vulnerability.trips.listAny.defaulted r.vulnerabilities trivial ?_, ?_⟩
  all_goals simp

/-! ## Workloads -/

theorem Container.trips : TripsAny Container.ofJson? Container.toJson id := by
  refine .of_back (fun c => ?_) fun _ => Json.noConfusion
  simp only [ofJson?, ↓read_eq_some_iff]
  refine ⟨_, members?_record _, _, Trips.text.lenient c.name trivial ?_,
    _, Trips.text.optionalAny c.image ?_, _, Trips.texts.optionalAny c.command ?_,
    _, Trips.texts.optionalAny c.args ?_, ?_⟩
  all_goals simp

theorem PodSpec.trips : TripsAny PodSpec.ofJson? PodSpec.toJson id := by
  refine .of_back (fun s => ?_) fun _ => Json.noConfusion
  simp only [ofJson?, ↓read_eq_some_iff]
  refine ⟨_, members?_record _, _, Container.trips.listAny.lenient s.containers trivial ?_,
    _, Trips.text.optionalAny s.restartPolicy ?_, _, Trips.text.optionalAny s.nodeName ?_, ?_⟩
  all_goals simp

theorem PodStatus.trips : TripsAny PodStatus.ofJson? PodStatus.toJson id := by
  refine .of_back (fun s => ?_) fun _ => Json.noConfusion
  simp only [ofJson?, ↓read_eq_some_iff]
  refine ⟨_, members?_record _, _, Trips.text.optionalAny s.phase ?_, ?_⟩
  all_goals simp

structure PodTemplate.Readable (t : PodTemplate) : Prop where
  metadata : ∀ m ∈ t.metadata, m.Readable

theorem PodTemplate.readable_empty : ({} : PodTemplate).Readable where
  metadata _ h := by cases h

theorem PodTemplate.trips :
    Trips PodTemplate.Readable PodTemplate.ofJson? PodTemplate.toJson PodTemplate.wholeSeconds where
  back {t} h := by
    simp only [ofJson?, ↓read_eq_some_iff]
    refine ⟨_, members?_record _, _, Metadata.trips.optional t.metadata h.metadata ?_,
      _, PodSpec.trips.optionalAny t.spec ?_, ?_⟩
    all_goals simp [wholeSeconds]
  same _ := by simp [toJson, wholeSeconds, Function.comp_def, Metadata.trips.same]
  solid _ := Json.noConfusion
  ranged _ h := by
    simp only [ofJson?, ↓read_eq_some_iff, Option.pure_def, Option.some.injEq] at h
    obtain ⟨row, -, metadata, hmetadata, spec, -, rfl⟩ := h
    exact ⟨Metadata.trips.ranged_of_optional hmetadata⟩

structure JobSpec.Readable (s : JobSpec) : Prop where
  backoffLimit : ∀ n ∈ s.backoffLimit, FitsInt32 n
  ttlSecondsAfterFinished : ∀ n ∈ s.ttlSecondsAfterFinished, FitsInt32 n
  template : s.template.Readable

theorem JobSpec.trips :
    Trips JobSpec.Readable JobSpec.ofJson? JobSpec.toJson JobSpec.wholeSeconds where
  back {s} h := by
    simp only [ofJson?, ↓read_eq_some_iff]
    refine ⟨_, members?_record _, _, Trips.int32.optional s.backoffLimit h.backoffLimit ?_,
      _, Trips.int32.optional s.ttlSecondsAfterFinished h.ttlSecondsAfterFinished ?_,
      _, PodTemplate.trips.lenient s.template h.template ?_, ?_⟩
    all_goals simp [wholeSeconds]
  same _ := by simp [toJson, wholeSeconds, PodTemplate.trips.same]
  solid _ := Json.noConfusion
  ranged _ h := by
    simp only [ofJson?, ↓read_eq_some_iff, Option.pure_def, Option.some.injEq] at h
    obtain ⟨row, -, limit, hlimit, ttl, httl, template, htemplate, rfl⟩ := h
    exact ⟨Trips.int32.ranged_of_optional hlimit, Trips.int32.ranged_of_optional httl,
      PodTemplate.trips.ranged_of_lenient PodTemplate.readable_empty htemplate⟩

structure JobStatus.Readable (s : JobStatus) : Prop where
  active : ∀ n ∈ s.active, FitsInt32 n
  failed : ∀ n ∈ s.failed, FitsInt32 n
  succeeded : ∀ n ∈ s.succeeded, FitsInt32 n

theorem JobStatus.trips : Trips JobStatus.Readable JobStatus.ofJson? JobStatus.toJson id where
  back {s} h := by
    simp only [ofJson?, ↓read_eq_some_iff]
    refine ⟨_, members?_record _, _, Trips.int32.optional s.active h.active ?_,
      _, Trips.int32.optional s.failed h.failed ?_,
      _, Trips.int32.optional s.succeeded h.succeeded ?_, ?_⟩
    all_goals simp
  same _ := rfl
  solid _ := Json.noConfusion
  ranged _ h := by
    simp only [ofJson?, ↓read_eq_some_iff, Option.pure_def, Option.some.injEq] at h
    obtain ⟨row, -, active, hactive, failed, hfailed, succeeded, hsucceeded, rfl⟩ := h
    exact ⟨Trips.int32.ranged_of_optional hactive, Trips.int32.ranged_of_optional hfailed,
      Trips.int32.ranged_of_optional hsucceeded⟩

structure DaemonSetStatus.Readable (s : DaemonSetStatus) : Prop where
  currentNumberScheduled : FitsInt32 s.currentNumberScheduled
  desiredNumberScheduled : FitsInt32 s.desiredNumberScheduled
  numberMisscheduled : FitsInt32 s.numberMisscheduled
  numberReady : FitsInt32 s.numberReady
  numberAvailable : ∀ n ∈ s.numberAvailable, FitsInt32 n
  numberUnavailable : ∀ n ∈ s.numberUnavailable, FitsInt32 n
  updatedNumberScheduled : ∀ n ∈ s.updatedNumberScheduled, FitsInt32 n
  observedGeneration : ∀ n ∈ s.observedGeneration, FitsInt64 n

theorem DaemonSetStatus.trips :
    Trips DaemonSetStatus.Readable DaemonSetStatus.ofJson? DaemonSetStatus.toJson id where
  back {s} h := by
    simp only [ofJson?, ↓read_eq_some_iff]
    refine ⟨_, members?_record _,
      _, Trips.int32.lenient s.currentNumberScheduled h.currentNumberScheduled ?_,
      _, Trips.int32.lenient s.desiredNumberScheduled h.desiredNumberScheduled ?_,
      _, Trips.int32.lenient s.numberMisscheduled h.numberMisscheduled ?_,
      _, Trips.int32.lenient s.numberReady h.numberReady ?_,
      _, Trips.int32.optional s.numberAvailable h.numberAvailable ?_,
      _, Trips.int32.optional s.numberUnavailable h.numberUnavailable ?_,
      _, Trips.int32.optional s.updatedNumberScheduled h.updatedNumberScheduled ?_,
      _, Trips.int64.optional s.observedGeneration h.observedGeneration ?_, ?_⟩
    all_goals simp
  same _ := rfl
  solid _ := Json.noConfusion
  ranged _ h := by
    simp only [ofJson?, ↓read_eq_some_iff, Option.pure_def, Option.some.injEq] at h
    obtain ⟨row, -, current, hcurrent, desired, hdesired, misscheduled, hmisscheduled, ready,
      hready, available, havailable, unavailable, hunavailable, updated, hupdated, observed,
      hobserved, rfl⟩ := h
    exact ⟨Trips.int32.ranged_of_lenient (by decide) hcurrent,
      Trips.int32.ranged_of_lenient (by decide) hdesired,
      Trips.int32.ranged_of_lenient (by decide) hmisscheduled,
      Trips.int32.ranged_of_lenient (by decide) hready, Trips.int32.ranged_of_optional havailable,
      Trips.int32.ranged_of_optional hunavailable, Trips.int32.ranged_of_optional hupdated,
      Trips.int64.ranged_of_optional hobserved⟩

theorem WorkloadSpec.trips_matchLabels : TripsAny WorkloadSpec.matchLabelsOf?
    (fun labels => .record [("matchLabels", labels.map Json.ofTextMap)]) id := by
  refine .of_back (fun labels => ?_) fun _ => Json.noConfusion
  simp only [matchLabelsOf?, ↓read_eq_some_iff]
  refine ⟨_, members?_record _, ?_⟩
  rw [Trips.textMap.optionalAny labels (by simp)]
  simp

structure WorkloadSpec.Readable (s : WorkloadSpec) : Prop where
  replicas : ∀ n ∈ s.replicas, FitsInt32 n
  template : s.template.Readable

/-- There is one pod per node. -/
structure WorkloadSpec.ReadableDaemon (s : WorkloadSpec) : Prop where
  replicas : s.replicas = none
  template : s.template.Readable

/-- Where there is one pod per node, a count of replicas is not read. -/
theorem WorkloadSpec.ofDaemonJson?_toJson {s : WorkloadSpec} (h : s.template.Readable) :
    ofDaemonJson? s.toJson = some { s with replicas := none }.wholeSeconds := by
  simp only [ofDaemonJson?, ↓read_eq_some_iff]
  refine ⟨_, members?_record _, _, trips_matchLabels.lenient s.matchLabels trivial ?_,
    _, PodTemplate.trips.lenient s.template h ?_, ?_⟩
  all_goals simp [wholeSeconds]

theorem WorkloadSpec.ranged_of_ofDaemonJson? {d : Draft} {s : WorkloadSpec}
    (h : ofDaemonJson? d = some s) : s.ReadableDaemon := by
  simp only [ofDaemonJson?, ↓read_eq_some_iff, Option.pure_def, Option.some.injEq] at h
  obtain ⟨row, -, labels, -, template, htemplate, rfl⟩ := h
  exact ⟨rfl, PodTemplate.trips.ranged_of_lenient PodTemplate.readable_empty htemplate⟩

theorem WorkloadSpec.trips_daemon :
    Trips WorkloadSpec.ReadableDaemon WorkloadSpec.ofDaemonJson? WorkloadSpec.toJson
      WorkloadSpec.wholeSeconds where
  back {s} h := by
    have hnone : { s with replicas := none } = s := by rw [← h.replicas]
    rw [ofDaemonJson?_toJson h.template, hnone]
  same _ := by simp [toJson, wholeSeconds, PodTemplate.trips.same]
  solid _ := Json.noConfusion
  ranged _ h := ranged_of_ofDaemonJson? h

theorem WorkloadSpec.trips :
    Trips WorkloadSpec.Readable WorkloadSpec.ofJson? WorkloadSpec.toJson
      WorkloadSpec.wholeSeconds where
  back {s} h := by
    simp only [ofJson?, ↓read_eq_some_iff]
    refine ⟨_, members?_record _, _, ofDaemonJson?_toJson h.template,
      _, Trips.int32.optional s.replicas h.replicas ?_, ?_⟩
    all_goals simp [wholeSeconds]
  same _ := trips_daemon.same _
  solid _ := Json.noConfusion
  ranged _ h := by
    simp only [ofJson?, ↓read_eq_some_iff, Option.pure_def, Option.some.injEq] at h
    obtain ⟨row, -, s, hs, replicas, hreplicas, rfl⟩ := h
    exact ⟨Trips.int32.ranged_of_optional hreplicas, (ranged_of_ofDaemonJson? hs).template⟩

structure DeploymentCondition.Readable (c : DeploymentCondition) : Prop where
  lastTransitionTime : ∀ t ∈ c.lastTransitionTime, t.Writable
  lastUpdateTime : ∀ t ∈ c.lastUpdateTime, t.Writable

theorem DeploymentCondition.trips :
    Trips DeploymentCondition.Readable DeploymentCondition.ofJson? DeploymentCondition.toJson
      DeploymentCondition.wholeSeconds where
  back {c} h := by
    simp only [ofJson?, ↓read_eq_some_iff]
    refine ⟨_, members?_record _, _, Trips.text.lenient c.type trivial ?_,
      _, Trips.text.lenient c.status trivial ?_, _, Trips.text.optionalAny c.reason ?_,
      _, Trips.text.optionalAny c.message ?_,
      _, Trips.instant.optional c.lastTransitionTime h.lastTransitionTime ?_,
      _, Trips.instant.optional c.lastUpdateTime h.lastUpdateTime ?_, ?_⟩
    all_goals simp [wholeSeconds]
  same _ := by simp [toJson, wholeSeconds, Function.comp_def, Trips.instant.same]
  solid _ := Json.noConfusion
  ranged _ h := by
    simp only [ofJson?, ↓read_eq_some_iff, Option.pure_def, Option.some.injEq] at h
    obtain ⟨row, -, type, -, status, -, reason, -, message, -, transition, htransition, update,
      hupdate, rfl⟩ := h
    exact ⟨Trips.instant.ranged_of_optional htransition, Trips.instant.ranged_of_optional hupdate⟩

structure DeploymentStatus.Readable (s : DeploymentStatus) : Prop where
  observedGeneration : ∀ n ∈ s.observedGeneration, FitsInt64 n
  conditions : ∀ l ∈ s.conditions, ∀ c ∈ l, c.Readable
  replicas : ∀ n ∈ s.replicas, FitsInt32 n
  readyReplicas : ∀ n ∈ s.readyReplicas, FitsInt32 n
  availableReplicas : ∀ n ∈ s.availableReplicas, FitsInt32 n
  unavailableReplicas : ∀ n ∈ s.unavailableReplicas, FitsInt32 n
  updatedReplicas : ∀ n ∈ s.updatedReplicas, FitsInt32 n

theorem DeploymentStatus.trips :
    Trips DeploymentStatus.Readable DeploymentStatus.ofJson? DeploymentStatus.toJson
      DeploymentStatus.wholeSeconds where
  back {s} h := by
    simp only [ofJson?, ↓read_eq_some_iff]
    refine ⟨_, members?_record _,
      _, Trips.int64.optional s.observedGeneration h.observedGeneration ?_,
      _, (DeploymentCondition.trips.list rfl).optional s.conditions h.conditions ?_,
      _, Trips.int32.optional s.replicas h.replicas ?_,
      _, Trips.int32.optional s.readyReplicas h.readyReplicas ?_,
      _, Trips.int32.optional s.availableReplicas h.availableReplicas ?_,
      _, Trips.int32.optional s.unavailableReplicas h.unavailableReplicas ?_,
      _, Trips.int32.optional s.updatedReplicas h.updatedReplicas ?_, ?_⟩
    all_goals simp [wholeSeconds]
  same _ := by simp [toJson, wholeSeconds, Function.comp_def, DeploymentCondition.trips.same]
  solid _ := Json.noConfusion
  ranged _ h := by
    simp only [ofJson?, ↓read_eq_some_iff, Option.pure_def, Option.some.injEq] at h
    obtain ⟨row, -, observed, hobserved, conditions, hconditions, replicas, hreplicas, ready,
      hready, available, havailable, unavailable, hunavailable, updated, hupdated, rfl⟩ := h
    exact ⟨Trips.int64.ranged_of_optional hobserved,
      (DeploymentCondition.trips.list rfl).ranged_of_optional hconditions,
      Trips.int32.ranged_of_optional hreplicas, Trips.int32.ranged_of_optional hready,
      Trips.int32.ranged_of_optional havailable, Trips.int32.ranged_of_optional hunavailable,
      Trips.int32.ranged_of_optional hupdated⟩

end PolicyOperator
