import PolicyOperator.Proofs.Wire.Records

/-!
# Objects that come back

`Object.Readable.ofJson?_toJson`: an object of any kind is read back from its wire form as it was,
up to fractions of a second, which that form does not hold (`Object.toJson_wholeSeconds`). It takes
that each part of the object is in range (`Object.Readable`), and nothing else is ever read
(`Object.readable_of_ofJson?`).

A status may be put in place on the wire, and what is read then is the object with that status, as
the writes of the store have it (`Object.Readable.ofJson?_withFieldOf`).
-/

namespace PolicyOperator

open Draft

variable {k : ResourceKind} {row : Row} {j : Json} {o : Object k}

/-! ## Specs and statuses -/

namespace ResourceKind

def SpecReadable : (k : ResourceKind) → k.Spec → Prop
  | .tool, s => ToolSpec.Readable s
  | .policy, s => PolicySpec.Readable s
  | .policyReport, s => ReportSpec.Readable s
  | .configMap, _ => True
  | .job, s => ∀ spec ∈ s, JobSpec.Readable spec
  | .chaosEngine, _ => True
  | .vulnerabilityReport, _ => True
  | .pod, _ => True
  | .daemonSet, s => ∀ spec ∈ s, WorkloadSpec.ReadableDaemon spec
  | .deployment, s => ∀ spec ∈ s, WorkloadSpec.Readable spec

def StatusReadable : (k : ResourceKind) → k.Status → Prop
  | .tool, s => ToolStatus.Readable s
  | .policy, s => PolicyStatus.Readable s
  | .policyReport, s => ReportStatus.Readable s
  | .configMap, _ => True
  | .job, s => JobStatus.Readable s
  | .chaosEngine, _ => True
  | .vulnerabilityReport, _ => True
  | .pod, _ => True
  | .daemonSet, s => DaemonSetStatus.Readable s
  | .deployment, s => DeploymentStatus.Readable s

theorem specOfRow?_row {spec : k.Spec} (h : k.SpecReadable spec)
    (hj : j.field? k.specKey = k.specToJson? spec) :
    k.specOfRow? j.row = some (k.specWholeSeconds spec) := by
  cases k with
  | tool => exact ToolSpec.trips.required spec h hj
  | policy => exact PolicySpec.trips.required spec h hj
  | policyReport => exact ReportSpec.trips.required spec h hj
  | configMap =>
    have hdata := Trips.textMap.optionalAny spec hj
    rwa [Option.map_id] at hdata
  | job => exact JobSpec.trips.optional spec h hj
  | chaosEngine => exact ChaosEngineSpec.trips.required spec trivial hj
  | vulnerabilityReport => exact ScanResult.trips.defaulted spec trivial hj
  | pod =>
    have hspec := PodSpec.trips.optionalAny spec hj
    rwa [Option.map_id] at hspec
  | daemonSet => exact WorkloadSpec.trips_daemon.optional spec h hj
  | deployment => exact WorkloadSpec.trips.optional spec h hj

theorem specReadable_of_specOfRow? {spec : k.Spec} (h : k.specOfRow? row = some spec) :
    k.SpecReadable spec := by
  cases k with
  | tool => exact ToolSpec.trips.ranged_of_required rfl h
  | policy => exact PolicySpec.trips.ranged_of_required rfl h
  | policyReport => exact ReportSpec.trips.ranged_of_required rfl h
  | job => exact JobSpec.trips.ranged_of_optional h
  | daemonSet => exact WorkloadSpec.trips_daemon.ranged_of_optional h
  | deployment => exact WorkloadSpec.trips.ranged_of_optional h
  | configMap | chaosEngine | vulnerabilityReport | pod => trivial

theorem statusOfRow?_row {status : Option k.Status} (h : ∀ s ∈ status, k.StatusReadable s)
    (hj : j.field? "status" = status.map k.statusToJson) :
    k.statusOfRow? j.row = some (status.map k.statusWholeSeconds) := by
  cases k with
  | tool => exact ToolStatus.trips.optional status h hj
  | policy => exact PolicyStatus.trips.optional status h hj
  | policyReport => exact ReportStatus.trips.optional status h hj
  | configMap | vulnerabilityReport =>
    rcases status with _ | s
    · rfl
    · exact s.elim
  | job => exact JobStatus.trips.optional status h hj
  | chaosEngine => exact ChaosEngineStatus.trips.optional status h hj
  | pod => exact PodStatus.trips.optional status h hj
  | daemonSet => exact DaemonSetStatus.trips.optional status h hj
  | deployment => exact DeploymentStatus.trips.optional status h hj

theorem statusReadable_of_statusOfRow? {status : Option k.Status}
    (h : k.statusOfRow? row = some status) : ∀ s ∈ status, k.StatusReadable s := by
  cases k with
  | tool => exact ToolStatus.trips.ranged_of_optional h
  | policy => exact PolicyStatus.trips.ranged_of_optional h
  | policyReport => exact ReportStatus.trips.ranged_of_optional h
  | job => exact JobStatus.trips.ranged_of_optional h
  | daemonSet => exact DaemonSetStatus.trips.ranged_of_optional h
  | deployment => exact DeploymentStatus.trips.ranged_of_optional h
  | configMap | chaosEngine | vulnerabilityReport | pod => exact fun _ _ => trivial

/-- Fractions of a second are not written. -/
theorem specToJson?_specWholeSeconds (k : ResourceKind) (spec : k.Spec) :
    k.specToJson? (k.specWholeSeconds spec) = k.specToJson? spec := by
  cases k with
  | job => simp [specToJson?, specWholeSeconds, Function.comp_def, JobSpec.trips.same]
  | daemonSet | deployment =>
    simp [specToJson?, specWholeSeconds, Function.comp_def, WorkloadSpec.trips.same]
  | _ => rfl

theorem statusToJson_statusWholeSeconds (k : ResourceKind) (status : k.Status) :
    k.statusToJson (k.statusWholeSeconds status) = k.statusToJson status := by
  cases k with
  | tool => exact ToolStatus.trips.same status
  | policy => exact PolicyStatus.trips.same status
  | policyReport => exact ReportStatus.trips.same status
  | deployment => exact DeploymentStatus.trips.same status
  | _ => rfl

end ResourceKind

/-- The metadata that stand for missing ones. -/
theorem Metadata.readable_empty : ({} : Metadata).Readable := ⟨nofun, nofun, nofun, nofun, nofun⟩

namespace Object

/-- Each part of the object is in range. -/
structure Readable (o : Object k) : Prop where
  metadata : o.metadata.Readable
  spec : k.SpecReadable o.spec
  status : ∀ s ∈ o.status, k.StatusReadable s

theorem readable_of_ofJson? {d : Draft} (h : ofJson? k d = some o) : o.Readable := by
  unfold ofJson? at h
  split at h
  · simp only [↓read_eq_some_iff, Option.pure_def, Option.some.injEq] at h
    obtain ⟨row, -, -, -, metadata, hmetadata, spec, hspec, status, hstatus, rfl⟩ := h
    exact ⟨Metadata.trips.ranged_of_lenient Metadata.readable_empty hmetadata,
      ResourceKind.specReadable_of_specOfRow? hspec,
      ResourceKind.statusReadable_of_statusOfRow? hstatus⟩
  · simp only [↓read_eq_some_iff, Option.pure_def, Option.some.injEq] at h
    obtain ⟨row, -, -, -, metadata, hmetadata, spec, hspec, status, hstatus, rfl⟩ := h
    exact ⟨Metadata.trips.ranged_of_required rfl hmetadata,
      ResourceKind.specReadable_of_specOfRow? hspec,
      ResourceKind.statusReadable_of_statusOfRow? hstatus⟩

/-- How an object of one of the operator's own kinds was read. -/
theorem row_of_ofJson? {d : Draft} (hown : k.isBuiltIn = false) (h : ofJson? k d = some o) :
    ∃ row, d.row? (["metadata", k.specKey] ++
        if k = .vulnerabilityReport then [] else ["status"]) = some row ∧
      k.specOfRow? row = some o.spec ∧ k.statusOfRow? row = some o.status := by
  unfold ofJson? at h
  rw [if_neg (by simp [hown])] at h
  simp only [↓read_eq_some_iff, Option.pure_def, Option.some.injEq] at h
  obtain ⟨row, hrow, -, -, metadata, -, spec, hspec, status, hstatus, rfl⟩ := h
  exact ⟨row, hrow, hspec, hstatus⟩

theorem toJson_wholeSeconds (o : Object k) : o.wholeSeconds.toJson = o.toJson := by
  simp [toJson, wholeSeconds, Metadata.trips.same, Function.comp_def,
    ResourceKind.specToJson?_specWholeSeconds, ResourceKind.statusToJson_statusWholeSeconds]

theorem field?_metadata (o : Object k) : o.toJson.field? "metadata" = some o.metadata.toJson := by
  cases k <;> simp [toJson, ResourceKind.specKey]

theorem field?_spec (o : Object k) : o.toJson.field? k.specKey = k.specToJson? o.spec := by
  cases k <;> simp [toJson, ResourceKind.specKey]

theorem field?_status (o : Object k) :
    o.toJson.field? "status" = o.status.map k.statusToJson := by
  cases k <;> simp [toJson, ResourceKind.specKey]

/-- An object's own tags fit. -/
theorem tagFits_toJson (o : Object k) (h : k.isTagged) :
    tagFits o.toJson.row "apiVersion" k.apiVersion ∧ tagFits o.toJson.row "kind" k.name := by
  have hversion : o.toJson.field? "apiVersion" = some (.str k.apiVersion) := by
    cases k <;> simpa [toJson, ResourceKind.specKey] using h
  have hkind : o.toJson.field? "kind" = some (.str k.name) := by
    cases k <;> simpa [toJson, ResourceKind.specKey] using h
  simp [tagFits, Json.given_row, hversion, hkind, ofJson, text?]

theorem Readable.ofJson?_toJson (h : o.Readable) : ofJson? k o.toJson = some o.wholeSeconds := by
  have hspec := ResourceKind.specOfRow?_row h.spec o.field?_spec
  have hstatus := ResourceKind.statusOfRow?_row h.status o.field?_status
  have hmembers : (Draft.ofJson o.toJson).members? = some o.toJson.row := members?_record _
  have hrow : ∀ keys, (Draft.ofJson o.toJson).row? keys = some o.toJson.row :=
    fun keys => row?_record keys _
  unfold ofJson?
  split
  · next hbuiltIn =>
    have htags := o.tagFits_toJson (by cases k <;> first | rfl | cases hbuiltIn)
    have hlenient : o.toJson.row.lenient "metadata" {} Metadata.ofJson? =
        some o.metadata.wholeSeconds :=
      Metadata.trips.lenient o.metadata h.metadata o.field?_metadata
    simp only [↓read_eq_some_iff]
    exact ⟨_, hmembers, (), by simpa using htags, _, hlenient, _, hspec, _, hstatus, rfl⟩
  · have hrequired : o.toJson.row.required "metadata" Metadata.ofJson? =
        some o.metadata.wholeSeconds :=
      Metadata.trips.required o.metadata h.metadata o.field?_metadata
    simp only [↓read_eq_some_iff]
    exact ⟨_, hrow _, (), rfl, _, hrequired, _, hspec, _, hstatus, rfl⟩

end Object

/-! ## A status from elsewhere -/

namespace Json

/-- The object with the member that another object has under a key, or without one. -/
def withFieldOf (j : Json) (key : String) (source : Json) : Json :=
  match source.field? key with
  | some v => j.setField key v
  | none => j.eraseField key

theorem withFieldOf_record {members members' : List (String × Option Json)} {key : String}
    {source : Json} (hkey : source.field? key = lastMember key members')
    (hrest : ∀ key', key' ≠ key → lastMember key' members = lastMember key' members') :
    (record members).withFieldOf key source = record members' := by
  have hget (key' : String) (ms : List (String × Option Json)) :
      Entries.get? key' (Entries.ofList (presentMembers ms)) = lastMember key' ms :=
    field?_record key' ms
  have hordered (ms : List (String × Option Json)) :
      Entries.Ordered (Entries.ofList (presentMembers ms)) := Entries.ordered_ofList _
  unfold withFieldOf
  cases hsource : source.field? key with
  | none =>
    refine congrArg Json.obj (Entries.ext (hordered _).erase (hordered _) fun key' => ?_)
    by_cases h : key' = key
    · rw [h, Entries.get?_erase_self, hget, ← hkey, hsource]
    · rw [Entries.get?_erase_of_ne h, hget, hget, hrest key' h]
  | some v =>
    refine congrArg Json.obj (Entries.ext (hordered _).insert (hordered _) fun key' => ?_)
    by_cases h : key' = key
    · rw [h, Entries.get?_insert_self, hget, ← hkey, hsource]
    · rw [Entries.get?_insert_of_ne h, hget, hget, hrest key' h]

end Json

namespace Object

/-- Taking the status of another object over on the wire is taking it over. -/
theorem toJson_withFieldOf (o source : Object k) :
    o.toJson.withFieldOf "status" source.toJson = { o with status := source.status }.toJson := by
  refine Json.withFieldOf_record ?_ fun key hkey => ?_
  · rw [field?_status, ← Json.field?_record]
    exact ({ o with status := source.status } : Object k).field?_status.symm
  · simp [hkey]

theorem Readable.ofJson?_withFieldOf {source : Object k} (h : o.Readable) (hs : source.Readable) :
    ofJson? k (o.toJson.withFieldOf "status" source.toJson) =
      some { o with status := source.status }.wholeSeconds := by
  rw [toJson_withFieldOf]
  exact Readable.ofJson?_toJson ⟨h.metadata, h.spec, hs.status⟩

end Object

end PolicyOperator
