import PolicyOperator.Proofs.Wire.Objects

/-!
# Wire forms are canonical

`Object.wire_canonical`: every object in range is read back from its wire form as it was, up to
fractions of a second, so the form holds all of its fields (`Readable.ofJson?_toJson`). What was
read as an object of any kind, from whatever form, is in range (`readable_of_ofJson?`). So it has
one form, and the free-form payload of a tool or a report stands in that form as it was given
(`payload?_of_ofJson?`, `Readable.payload?_toJson`).

`ResourceKind.payload?` says where the payload stands on the wire. A record may be given as the list
of its fields (`Json.part?`), and null stands for no payload. Of a settled value, whose objects hold
no key twice, each part is settled, and its row gives the parts (`Draft.given_of_row?`).
-/

namespace PolicyOperator

open Draft

variable {k : ResourceKind} {row : Row} {j : Json} {o : Object k}

/-! ## Free-form payloads -/

namespace Json

/-- The value for a field of a record, which is given as an object or as the list of its fields. -/
def part? (keys : List String) (key : String) : Json → Option Json
  | .obj members => Entries.get? key members
  | .arr items => items[keys.idxOf key]?
  | _ => none

end Json

namespace ResourceKind

/-- The free-form part of an object on the wire. Null stands for none. -/
def payload? (k : ResourceKind) (j : Json) : Option Json :=
  let part? :=
    match k with
    | .tool => (j.part? ["metadata", "spec", "status"] "spec").bind
        (Json.part? ["type", "enabled", "namespace", "values"] "values")
    | .policyReport => (j.part? ["metadata", "spec", "status"] "status").bind
        (Json.part? ["phase", "summary", "details", "observedGeneration", "refreshedAt"] "details")
    | _ => none
  part?.filter fun v => !v.isNull

end ResourceKind

theorem Json.filter_not_isNull {v? : Option Json} (h : ∀ v, v? = some v → v ≠ .null) :
    v?.filter (fun v => !v.isNull) = v? := by
  cases v? with
  | none => rfl
  | some v =>
    have hnull := h v rfl
    cases v <;> first | rfl | exact absurd rfl hnull

namespace Draft

theorem ofItems_eq_map (items : List Json) : ofItems items = items.map ofJson := by
  induction items with
  | nil => rfl
  | cons item rest ih => simp [ofItems, ih]

theorem Settled.part? {j v : Json} {keys : List String} {key : String} (h : Settled j)
    (hv : j.part? keys key = some v) : Settled v := by
  cases j with
  | obj members =>
    simp only [Settled] at h
    exact settledMembers_iff.1 h.2 _ (Entries.mem_of_get? hv)
  | arr items => exact settledItems_iff.1 h _ (List.mem_of_getElem? hv)
  | _ => cases hv

/-- Of the fields that a list gives in order, each is given once at most. -/
theorem valuesOf_zip {keys : List String} (hkeys : keys.Nodup) {key : String} (hkey : key ∈ keys)
    (items : List Draft) :
    valuesOf (keys.zip items) key = (items[keys.idxOf key]?).toList := by
  induction keys generalizing items with
  | nil => cases hkey
  | cons k keys ih =>
    obtain ⟨hk, hkeys⟩ := List.nodup_cons.1 hkeys
    cases items with
    | nil => simp [valuesOf]
    | cons d items =>
      by_cases hhead : k = key
      · subst hhead
        have hnone : ∀ m ∈ keys.zip items, ¬ (m.1 == k) := by
          rintro ⟨k', d'⟩ hm heq
          obtain rfl : k' = k := by simpa using heq
          exact hk (List.of_mem_zip hm).1
        simp [valuesOf, List.filter_eq_nil_iff.2 hnone]
      · have hlater := ih hkeys ((List.mem_cons.1 hkey).resolve_left (Ne.symm hhead)) items
        simp only [valuesOf] at hlater ⊢
        simp [List.idxOf_cons_ne _ hhead, hhead, hlater]

/-- The row of a record holds its parts. -/
theorem given_of_row? {j : Json} {keys : List String} {row : Row} (hj : Settled j)
    (hkeys : keys.Nodup) (h : (ofJson j).row? keys = some row) {key : String} (hkey : key ∈ keys) :
    row.given key = ((j.part? keys key).map ofJson).toList := by
  cases j with
  | obj members =>
    rw [row?_ofJson hj.ordered] at h
    cases h
    rfl
  | arr items =>
    simp only [ofJson, row?] at h
    split at h
    · cases h
      simp [rowOfItems, valuesOf_zip hkeys hkey, ofItems_eq_map, Json.part?]
    · cases h
  | _ => cases h

namespace Row

variable {α : Type} {read : Draft → Option α} {key : String} {v? : Option Json}

theorem required_eq_some {a : α} (hrow : row.given key = (v?.map ofJson).toList)
    (h : row.required key read = some a) : ∃ v, v? = some v ∧ read (ofJson v) = some a := by
  cases v? with
  | none => simp [required, hrow] at h
  | some v =>
    refine ⟨v, rfl, ?_⟩
    cases hv : read (ofJson v) <;> simp [required, hrow, hv] at h ⊢
    exact h

theorem optional_eq_some {a : Option α} (hrow : row.given key = (v?.map ofJson).toList)
    (h : row.optional key read = some a) :
    (a = none ∧ ∀ v, v? = some v → v = .null) ∨
      ∃ v b, v? = some v ∧ v ≠ .null ∧ a = some b ∧ read (ofJson v) = some b := by
  cases v? with
  | none => exact .inl (by simpa [optional, hrow, eq_comm] using h)
  | some v =>
    by_cases hnull : v = .null
    · subst hnull
      exact .inl (by simpa [optional, hrow, ofJson, eq_comm] using h)
    · rw [optional_of_given (d := ofJson v) (by cases v <;> simp_all [ofJson]) hrow] at h
      obtain ⟨b, hb, rfl⟩ := Option.map_eq_some_iff.1 h
      exact .inr ⟨v, b, rfl, hnull, rfl, hb⟩

/-- A free-form value is read as it was given; null is none. -/
theorem optional_value {a : Option Json} (hrow : row.given key = (v?.map ofJson).toList)
    (hsettled : ∀ v, v? = some v → Settled v) (h : row.optional key value? = some a) :
    a = v?.filter fun v => !v.isNull := by
  obtain ⟨rfl, hnull⟩ | ⟨v, b, rfl, hnull, rfl, hb⟩ := optional_eq_some hrow h
  · cases v? with
    | none => rfl
    | some v =>
      rw [hnull v rfl]
      rfl
  · rw [value?_ofJson v (hsettled v rfl)] at hb
    cases hb
    exact (Json.filter_not_isNull fun w hw => by cases hw; exact hnull).symm

end Row

end Draft

namespace ToolSpec

theorem exists_values {d : Draft} {s : ToolSpec} (h : ofJson? d = some s) :
    ∃ row, d.row? ["type", "enabled", "namespace", "values"] = some row ∧
      row.optional "values" value? = some s.values := by
  simp only [ofJson?, ↓read_eq_some_iff, Option.pure_def, Option.some.injEq] at h
  obtain ⟨row, hrow, type, -, enabled, -, ns, -, values, hvalues, rfl⟩ := h
  exact ⟨row, hrow, hvalues⟩

theorem values_of_ofJson? {v : Json} {s : ToolSpec} (hv : Settled v) (h : ofJson? v = some s) :
    s.values = (v.part? ["type", "enabled", "namespace", "values"] "values").filter
      fun v => !v.isNull := by
  obtain ⟨row, hrow, hvalues⟩ := exists_values h
  exact Row.optional_value (given_of_row? hv (by decide) hrow (by decide))
    (fun w hw => hv.part? hw) hvalues

end ToolSpec

namespace ReportStatus

theorem exists_details {d : Draft} {s : ReportStatus} (h : ofJson? d = some s) :
    ∃ row, d.row? ["phase", "summary", "details", "observedGeneration", "refreshedAt"] = some row ∧
      row.optional "details" value? = some s.details := by
  simp only [ofJson?, ↓read_eq_some_iff, Option.pure_def, Option.some.injEq] at h
  obtain ⟨row, hrow, phase, -, summary, -, details, hdetails, observed, -, refreshed, -, rfl⟩ := h
  exact ⟨row, hrow, hdetails⟩

theorem details_of_ofJson? {v : Json} {s : ReportStatus} (hv : Settled v)
    (h : ofJson? v = some s) :
    s.details = (v.part? ["phase", "summary", "details", "observedGeneration", "refreshedAt"]
      "details").filter fun v => !v.isNull := by
  obtain ⟨row, hrow, hdetails⟩ := exists_details h
  exact Row.optional_value (given_of_row? hv (by decide) hrow (by decide))
    (fun w hw => hv.part? hw) hdetails

end ReportStatus

namespace Object

/-- The free-form part of an object. -/
def payload? : {k : ResourceKind} → Object k → Option Json
  | .tool, o => o.spec.values
  | .policyReport, o => o.status.bind ReportStatus.details
  | _, _ => none

/-- A free-form payload is read as it was given. -/
theorem payload?_of_ofJson? {j : Json} (hj : Settled j) (h : ofJson? k j = some o) :
    o.payload? = k.payload? j := by
  cases k with
  | tool =>
    obtain ⟨row, hrow, hspec, -⟩ := row_of_ofJson? rfl h
    have hrow : (ofJson j).row? ["metadata", "spec", "status"] = some row := hrow
    obtain ⟨v, hv, hread⟩ := Row.required_eq_some
      (given_of_row? hj (by decide) hrow (by decide)) hspec
    have hvalues := ToolSpec.values_of_ofJson? (hj.part? hv) hread
    simpa [payload?, ResourceKind.payload?, hv] using hvalues
  | policyReport =>
    obtain ⟨row, hrow, -, hstatus⟩ := row_of_ofJson? rfl h
    have hrow : (ofJson j).row? ["metadata", "spec", "status"] = some row := hrow
    obtain ⟨hnone, hnull⟩ | ⟨v, status, hv, -, hsome, hread⟩ := Row.optional_eq_some
      (given_of_row? hj (by decide) hrow (by decide)) hstatus
    · simp only [payload?, ResourceKind.payload?, hnone]
      cases hv : j.part? ["metadata", "spec", "status"] "status" with
      | none => rfl
      | some v =>
        rw [hnull v hv]
        rfl
    · have hdetails := ReportStatus.details_of_ofJson? (hj.part? hv) hread
      simpa [payload?, ResourceKind.payload?, hv, hsome] using hdetails
  | _ => rfl

/-- A free-form payload is never null. -/
theorem Readable.ne_null_of_payload? (h : o.Readable) {v : Json} (hv : o.payload? = some v) :
    v ≠ .null := by
  cases k with
  | tool =>
    have hspec : ToolSpec.Readable o.spec := h.spec
    exact (hspec.values v hv).ne_null
  | policyReport =>
    obtain ⟨status, hsome, hdetails⟩ := Option.bind_eq_some_iff.1 hv
    have hstatus : ReportStatus.Readable status := h.status status hsome
    exact (hstatus.details v hdetails).ne_null
  | _ => cases hv

/-- A free-form payload is written as it is. -/
theorem Readable.payload?_toJson (h : o.Readable) : k.payload? o.toJson = o.payload? := by
  have hsolid : o.payload?.filter (fun v => !v.isNull) = o.payload? :=
    Json.filter_not_isNull fun v hv => h.ne_null_of_payload? hv
  have hpart (keys : List String) (key : String) (members : List (String × Option Json)) :
      (Json.record members).part? keys key = Json.lastMember key members :=
    Json.field?_record key members
  have hobject (key : String) :
      o.toJson.part? ["metadata", "spec", "status"] key = o.toJson.field? key := rfl
  cases k with
  | tool =>
    have hspec : o.toJson.field? "spec" = some o.spec.toJson := field?_spec o
    rw [← hsolid, ResourceKind.payload?, hobject, hspec]
    simp [ToolSpec.toJson, hpart, payload?]
  | policyReport =>
    have hstatus : o.toJson.field? "status" = o.status.map ReportStatus.toJson := field?_status o
    rw [← hsolid, ResourceKind.payload?, hobject, hstatus]
    cases hs : o.status with
    | none => simp [payload?, hs]
    | some status => simp [ReportStatus.toJson, hpart, payload?, hs]
  | _ => rfl

/-! ## Wire forms are canonical -/

/-- No field is lost on the wire, and none comes in: every object whose numbers, times and payload
are in range is read back from its wire form as it was, without fractions of a second. Nothing else
is ever read. So what was read of a value is written in one form, which is read as the same object
and written as it is, and a free-form payload stands in it as it was given. The objects of the value
hold each key once, as those of every JSON value do. -/
theorem wire_canonical (k : ResourceKind) :
    (∀ o : Object k, o.Readable →
      ofJson? k o.toJson = some o.wholeSeconds ∧ k.payload? o.toJson = o.payload?) ∧
    ∀ (j : Json) (o : Object k), Settled j → ofJson? k j = some o →
      o.Readable ∧ ofJson? k o.toJson = some o.wholeSeconds ∧
        (ofJson? k o.toJson).map toJson = some o.toJson ∧
        o.payload? = k.payload? j ∧ k.payload? o.toJson = k.payload? j := by
  refine ⟨fun o ho => ⟨ho.ofJson?_toJson, ho.payload?_toJson⟩, fun j o hj h => ?_⟩
  have ho : o.Readable := readable_of_ofJson? h
  have hback : ofJson? k o.toJson = some o.wholeSeconds := ho.ofJson?_toJson
  have hpayload : o.payload? = k.payload? j := payload?_of_ofJson? hj h
  refine ⟨ho, hback, ?_, hpayload, ?_⟩
  · rw [hback, Option.map_some, toJson_wholeSeconds]
  · rw [ho.payload?_toJson, hpayload]

namespace Sample

/-- A tool on the wire: its spec is the list of its fields, its values hold nulls, and it was
created in the middle of a leap second. -/
def wireTool : Json := .object [
  ("metadata", .object [
    ("creationTimestamp", .str "2016-12-31T23:59:60.25Z"),
    ("labels", .object [("team", .str "red")]),
    ("name", .str "falco"),
    ("namespace", .str "security")]),
  ("spec", .arr [.str "falco", .bool true, .null, .object [
    ("driver", .null),
    ("tolerations", .arr [.null, .object [("key", .null)]])]]),
  ("status", .object [
    ("conditions", .arr [.object [
      ("lastTransitionTime", .str "2024-02-29T12:00:00.999+01:00"),
      ("type", .str "Ready")]]),
    ("installed", .bool true)])]

/-- The form in which that tool is written. -/
def wireToolWritten : Json := .object [
  ("apiVersion", .str "eirenyx.eirenyx/v1alpha1"),
  ("kind", .str "Tool"),
  ("metadata", .object [
    ("creationTimestamp", .str "2016-12-31T23:59:60Z"),
    ("labels", .object [("team", .str "red")]),
    ("name", .str "falco"),
    ("namespace", .str "security")]),
  ("spec", .object [
    ("enabled", .bool true),
    ("type", .str "falco"),
    ("values", .object [
      ("driver", .null),
      ("tolerations", .arr [.null, .object [("key", .null)]])])]),
  ("status", .object [
    ("conditions", .arr [.object [
      ("lastTransitionTime", .str "2024-02-29T11:00:00Z"),
      ("message", .str ""),
      ("reason", .str ""),
      ("status", .str ""),
      ("type", .str "Ready")]]),
    ("healthy", .bool false),
    ("installed", .bool true)])]

/-- A policy with all of its sections, and a condition that changed within a second. -/
def fullPolicy : Policy where
  metadata := { name := some "guard", ns := some "shop", generation := some 3 }
  spec := {
    type := "falco"
    enabled := true
    target := { namespaces := ["shop"] }
    falco := some {
      rules := [
        { name := "shell"
          condition := "spawned_process"
          output := "a shell was started"
          priority := "Warning"
          tags := ["host"] }]
      observe := some {
        rule := some { name := "Terminal shell in container" }
        selector := some { priorities := ["Critical"] } }
      report := some { create := true, aggregationWindow := some "5m" } }
    trivy := some {
      scans := [
        { name := "web"
          image := "web:1"
          severity := some "HIGH"
          ignoreUnfixed := true
          vulnerabilityTypes := ["os"]
          exitCode := some (-1) }] }
    litmus := some {
      experiments := [
        { name := "kill"
          experimentRef := "pod-delete"
          targetNamespace := some "prod"
          appInfo := { ns := "prod", label := "app=web", kind := "deployment" }
          duration := some "30s"
          parameters := SortedMap.empty.insert "FORCE" "true"
          expectedResult := some { failOnChaosError := some false } }] } }
  status := some {
    phase := some .active
    conditions := [⟨"Ready", "True", "Synced", "", some 3, ⟨1709204400, 999000000⟩⟩]
    observedGeneration := some 3 }

/-- The form in which that policy is written. -/
def fullPolicyWritten : Json := .object [
  ("apiVersion", .str "eirenyx.eirenyx/v1alpha1"),
  ("kind", .str "Policy"),
  ("metadata", .object [
    ("generation", .int 3),
    ("name", .str "guard"),
    ("namespace", .str "shop")]),
  ("spec", .object [
    ("enabled", .bool true),
    ("falco", .object [
      ("observe", .object [
        ("ruleRef", .object [("name", .str "Terminal shell in container")]),
        ("ruleSelector", .object [("priorities", .arr [.str "Critical"])])]),
      ("report", .object [
        ("aggregationWindow", .str "5m"),
        ("create", .bool true)]),
      ("rules", .arr [.object [
        ("condition", .str "spawned_process"),
        ("name", .str "shell"),
        ("output", .str "a shell was started"),
        ("priority", .str "Warning"),
        ("tags", .arr [.str "host"])]])]),
    ("litmus", .object [
      ("experiments", .arr [.object [
        ("appInfo", .object [
          ("appKind", .str "deployment"),
          ("appLabel", .str "app=web"),
          ("appNamespace", .str "prod")]),
        ("duration", .str "30s"),
        ("expectedResult", .object [("failOnChaosError", .bool false)]),
        ("experimentRef", .str "pod-delete"),
        ("name", .str "kill"),
        ("parameters", .object [("FORCE", .str "true")]),
        ("targetNamespace", .str "prod")]])]),
    ("target", .object [("namespaceSelector", .arr [.str "shop"])]),
    ("trivy", .object [
      ("scans", .arr [.object [
        ("exitCode", .int (-1)),
        ("ignoreUnfixed", .bool true),
        ("image", .str "web:1"),
        ("name", .str "web"),
        ("severity", .str "HIGH"),
        ("vulnerabilityTypes", .arr [.str "os"])]])]),
    ("type", .str "falco")]),
  ("status", .object [
    ("conditions", .arr [.object [
      ("lastTransitionTime", .str "2024-02-29T11:00:00Z"),
      ("message", .str ""),
      ("observedGeneration", .int 3),
      ("reason", .str "Synced"),
      ("status", .str "True"),
      ("type", .str "Ready")]]),
    ("observedGeneration", .int 3),
    ("phase", .str "Active")])]

theorem readable_fullPolicy : fullPolicy.Readable where
  metadata :=
    { Metadata.readable_empty with
      generation := by simp [fullPolicy, FitsInt64] }
  spec := by
    refine ⟨fun t ht => ⟨fun scan hscan => ⟨?_⟩⟩⟩
    cases ht
    obtain rfl := List.mem_singleton.1 hscan
    simp [FitsInt32]
  status s hs := by
    cases hs
    refine ⟨fun c hc => ?_, by simp [FitsInt64]⟩
    obtain rfl := List.mem_singleton.1 hc
    exact ⟨by simp [FitsInt64], by decide, by decide, by decide⟩

end Sample

open Sample in
/-- The policy comes back with each of its sections, and a tool that was read from another form is
written in one form and comes back from it. -/
theorem wire_canonical_sample :
    (fullPolicy.toJson = fullPolicyWritten ∧
      ofJson? .policy fullPolicyWritten = some fullPolicy.wholeSeconds) ∧
    ∃ o, Settled wireTool ∧ ofJson? .tool wireTool = some o ∧
      o.toJson = wireToolWritten ∧
      ofJson? .tool wireToolWritten = some o.wholeSeconds ∧
      (ofJson? .tool wireToolWritten).map toJson = some wireToolWritten ∧
      o.payload? = some (.object [
        ("driver", .null),
        ("tolerations", .arr [.null, .object [("key", .null)]])]) := by
  refine ⟨?_, ?_⟩
  · have hform : fullPolicy.toJson = fullPolicyWritten := by decide +kernel
    obtain ⟨hback, -⟩ := (wire_canonical .policy).1 fullPolicy readable_fullPolicy
    rw [hform] at hback
    exact ⟨hform, hback⟩
  · have hj : Settled wireTool := settled_of_value? (d := wireTool) (by decide +kernel)
    have hwritten : (ofJson? .tool wireTool).map toJson = some wireToolWritten := by decide +kernel
    obtain ⟨o, ho, hform⟩ := Option.map_eq_some_iff.1 hwritten
    obtain ⟨-, hback, hsame, hpayload, -⟩ := (wire_canonical .tool).2 wireTool o hj ho
    rw [hform] at hback hsame
    exact ⟨o, hj, ho, hform, hback, hsame, hpayload.trans (by decide +kernel)⟩

end Object

end PolicyOperator
