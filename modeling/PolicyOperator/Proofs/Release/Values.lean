import PolicyOperator.Proofs.Computation
import PolicyOperator.Release.Package

/-!
# Values that were laid over

What the merge of two values holds is said path by path, where a path is a list of keys. Either the
overlay has a value there (`get?_merge_of_some`), or it ends the path early with a value that is no
mapping (`get?_merge_of_cut`), or it says nothing about it (`get?_merge_of_silent`); there is no
fourth case (`silent_or_cut`). `LaidOver` puts the three together, and leaves no choice of what is
at a path (`LaidOver.get?_eq`).

Laying an overlay over once more changes nothing (`merge_merge`). That is a matter of whole values,
so it needs the keys of the overlay to be distinct, as those of every value that was read are
(`Draft.Settled`).
-/

namespace PolicyOperator

namespace Json

/-! ## Paths -/

/-- What a value holds where a path of keys leads. -/
def get? : Json → List String → Option Json
  | j, [] => some j
  | j, key :: path => (j.field? key).bind fun v => v.get? path

@[simp] theorem get?_nil (j : Json) : j.get? [] = some j := by
  simp [get?]

theorem get?_cons (j : Json) (key : String) (path : List String) :
    j.get? (key :: path) = (j.field? key).bind fun v => v.get? path := by
  simp [get?]

theorem get?_append (j : Json) (path rest : List String) :
    j.get? (path ++ rest) = (j.get? path).bind fun v => v.get? rest := by
  induction path generalizing j with
  | nil => simp
  | cons key path ih =>
    rw [List.cons_append, get?_cons, get?_cons, Option.bind_assoc]
    congr 1
    funext v
    exact ih v

theorem field?_of_not_isObject {j : Json} (h : j.isObject = false) (key : String) :
    j.field? key = none := by
  cases j <;> simp_all [isObject, field?]

theorem exists_obj_of_isObject {j : Json} (h : j.isObject = true) :
    ∃ members, j = .obj members := by
  cases j <;> simp_all [isObject]

/-- Only mappings hold something under a key. -/
theorem isObject_of_get? {j v : Json} {key : String} {path : List String}
    (h : j.get? (key :: path) = some v) : j.isObject = true := by
  cases hj : j.isObject with
  | true => rfl
  | false => simp [get?_cons, field?_of_not_isObject hj] at h

/-- The value says nothing about a path: it holds nothing there, and on the way it holds nothing but
mappings. -/
def Silent (j : Json) (path : List String) : Prop :=
  j.get? path = none ∧ ∀ way, way <+: path → ∀ v, j.get? way = some v → v.isObject = true

/-- A value holds something at a path, or is silent about it, or ends the path early with what is no
mapping. -/
theorem silent_or_cut (j : Json) (path : List String) :
    (∃ v, j.get? path = some v) ∨ j.Silent path ∨
      ∃ way rest v, path = way ++ rest ∧ rest ≠ [] ∧ j.get? way = some v ∧ v.isObject = false := by
  cases hpath : j.get? path with
  | some v => exact .inl ⟨v, rfl⟩
  | none =>
    by_cases hway : ∃ way v, way <+: path ∧ j.get? way = some v ∧ v.isObject = false
    · obtain ⟨way, v, ⟨rest, rfl⟩, hv, hleaf⟩ := hway
      refine .inr (.inr ⟨way, rest, v, rfl, ?_, hv, hleaf⟩)
      rintro rfl
      simp [hv] at hpath
    · refine .inr (.inl ⟨hpath, fun way hprefix v hv => ?_⟩)
      exact Bool.of_not_eq_false fun hleaf => hway ⟨way, v, hprefix, hv, hleaf⟩

/-! ## Merges at a path -/

variable {base overlay v w : Json} {path way rest : List String}

theorem merge_of_not_isObject (h : base.isObject = false ∨ overlay.isObject = false) :
    base.merge overlay = overlay := by
  cases base <;> cases overlay <;> simp_all [merge, isObject]

/-- One key further down a merge of mappings is again a merge, or what one of them holds alone. -/
theorem field?_merge (hb : base.isObject = true) (ho : overlay.isObject = true) (key : String) :
    (base.merge overlay).field? key =
      match base.field? key, overlay.field? key with
      | some v, some o => some (v.merge o)
      | some v, none => some v
      | none, o => o := by
  obtain ⟨members, rfl⟩ := exists_obj_of_isObject hb
  obtain ⟨top, rfl⟩ := exists_obj_of_isObject ho
  exact get?_mergeMembers key members top

/-- Where the overlay has a value the merge has that value, laid over what the base holds there. -/
theorem get?_merge_of_some (h : overlay.get? path = some v) :
    (base.merge overlay).get? path = some (((base.get? path).map (·.merge v)).getD v) := by
  induction path generalizing base overlay with
  | nil =>
    obtain rfl : overlay = v := by simpa using h
    simp
  | cons key path ih =>
    have ho : overlay.isObject = true := isObject_of_get? h
    cases hb : base.isObject with
    | false =>
      rw [merge_of_not_isObject (.inl hb), h, get?_cons, field?_of_not_isObject hb]
      rfl
    | true =>
      rw [get?_cons] at h
      obtain ⟨o, hkey, hpath⟩ := Option.bind_eq_some_iff.1 h
      rw [get?_cons, get?_cons, field?_merge hb ho, hkey]
      cases base.field? key with
      | none => simpa using hpath
      | some b => exact ih hpath

/-- A value that is no mapping ends every path that goes on. -/
theorem get?_merge_of_cut (h : overlay.get? way = some v) (hv : v.isObject = false)
    (hrest : rest ≠ []) : (base.merge overlay).get? (way ++ rest) = none := by
  have hleaf : ((base.get? way).map (·.merge v)).getD v = v := by
    cases base.get? way with
    | none => rfl
    | some w => exact merge_of_not_isObject (.inr hv)
  rw [get?_append, get?_merge_of_some h, hleaf, Option.bind_some]
  obtain ⟨key, rest, rfl⟩ := List.exists_cons_of_ne_nil hrest
  rw [get?_cons, field?_of_not_isObject hv, Option.bind_none]

theorem Silent.of_cons {key : String} {o : Json} (h : overlay.Silent (key :: path))
    (hkey : overlay.field? key = some o) : o.Silent path := by
  have hget : ∀ path, overlay.get? (key :: path) = o.get? path := fun path => by
    rw [get?_cons, hkey, Option.bind_some]
  refine ⟨hget path ▸ h.1, fun way hway v hv => ?_⟩
  exact h.2 (key :: way) (List.cons_prefix_cons.2 ⟨rfl, hway⟩) v (hget way ▸ hv)

/-- Where the overlay says nothing the base stays. -/
theorem get?_merge_of_silent (h : overlay.Silent path) :
    (base.merge overlay).get? path = base.get? path := by
  induction path generalizing base overlay with
  | nil => exact absurd h.1 (by simp)
  | cons key path ih =>
    have ho : overlay.isObject = true := h.2 [] (List.nil_prefix) overlay (get?_nil overlay)
    cases hb : base.isObject with
    | false =>
      rw [merge_of_not_isObject (.inl hb), h.1, get?_cons, field?_of_not_isObject hb]
      rfl
    | true =>
      rw [get?_cons, get?_cons, field?_merge hb ho]
      cases hkey : overlay.field? key with
      | none => cases base.field? key <;> rfl
      | some o =>
        have hsilent : o.Silent path := h.of_cons hkey
        cases base.field? key with
        | none => exact hsilent.1
        | some b => exact ih hsilent

/-- What lies at every path of a value that an overlay was laid over. -/
structure LaidOver (base overlay merged : Json) : Prop where
  /-- The overlay's value, if it is no mapping or the base has none there. -/
  taken : ∀ path v, overlay.get? path = some v →
    v.isObject = false ∨ (∀ w, base.get? path = some w → w.isObject = false) →
    merged.get? path = some v
  /-- The merge of both mappings. -/
  joined : ∀ path w v, base.get? path = some w → overlay.get? path = some v →
    w.isObject = true → v.isObject = true → merged.get? path = some (w.merge v)
  /-- Nothing, below a value of the overlay that is no mapping. -/
  dropped : ∀ way rest v, overlay.get? way = some v → v.isObject = false → rest ≠ [] →
    merged.get? (way ++ rest) = none
  /-- What the base holds, if anything. -/
  kept : ∀ path, overlay.Silent path → merged.get? path = base.get? path

theorem laidOver_merge (base overlay : Json) : LaidOver base overlay (base.merge overlay) where
  taken path v hv hshape := by
    rw [get?_merge_of_some hv]
    cases hw : base.get? path with
    | none => rfl
    | some w =>
      have hplain : w.isObject = false ∨ v.isObject = false := (hshape.imp_right (· w hw)).symm
      exact congrArg some (merge_of_not_isObject hplain)
  joined path w v hw hv _ _ := by
    rw [get?_merge_of_some hv, hw]
    rfl
  dropped _ _ _ hv hleaf hrest := get?_merge_of_cut hv hleaf hrest
  kept _ hsilent := get?_merge_of_silent hsilent

/-- The law leaves no choice: it says of every path what is there. -/
theorem LaidOver.get?_eq {merged : Json} (h : LaidOver base overlay merged) (path : List String) :
    merged.get? path = (base.merge overlay).get? path := by
  have hmerge := laidOver_merge base overlay
  rcases silent_or_cut overlay path with ⟨v, hv⟩ | hsilent | ⟨way, rest, v, rfl, hrest, hv, hleaf⟩
  · by_cases hboth : v.isObject = true ∧ ∃ w, base.get? path = some w ∧ w.isObject = true
    · obtain ⟨hmapping, w, hw, hmapping'⟩ := hboth
      rw [h.joined path w v hw hv hmapping' hmapping,
        hmerge.joined path w v hw hv hmapping' hmapping]
    · have hshape : v.isObject = false ∨ ∀ w, base.get? path = some w → w.isObject = false := by
        cases hmapping : v.isObject with
        | false => exact .inl rfl
        | true =>
          exact .inr fun w hw => Bool.of_not_eq_true fun hmapping' =>
            hboth ⟨hmapping, w, hw, hmapping'⟩
      rw [h.taken path v hv hshape, hmerge.taken path v hv hshape]
  · rw [h.kept path hsilent, hmerge.kept path hsilent]
  · rw [h.dropped way rest v hv hleaf hrest, hmerge.dropped way rest v hv hleaf hrest]

/-! ## Laying an overlay over again -/

/-- Every value is a mapping of smaller ones, or no mapping. -/
theorem induction_on_members {P : Json → Prop} (plain : ∀ j, j.isObject = false → P j)
    (obj : ∀ members : List (String × Json), (∀ e ∈ members, P e.2) → P (.obj members)) :
    ∀ j, P j
  | .obj members => obj members fun e (_ : e ∈ members) => induction_on_members plain obj e.2
  | .null => plain _ rfl
  | .bool _ => plain _ rfl
  | .int _ => plain _ rfl
  | .real _ => plain _ rfl
  | .str _ => plain _ rfl
  | .arr _ => plain _ rfl
termination_by j => sizeOf j
decreasing_by
  have hmem : sizeOf e < sizeOf members := List.sizeOf_lt_of_mem ‹_›
  have hvalue : sizeOf e = 1 + sizeOf e.1 + sizeOf e.2 := by
    cases e
    rfl
  simp only [Json.obj.sizeOf_spec]
  omega

theorem mem_addMissing {e : String × Json} {members top : List (String × Json)}
    (h : e ∈ addMissing members top) : e ∈ members ∨ e ∈ top := by
  induction top generalizing members with
  | nil => exact .inl h
  | cons t top ih =>
    rcases ih h with h | h
    · dsimp only at h
      split at h
      · exact .inl h
      · rcases Entries.fst_mem_of_mem_insert h with rfl | h
        · exact .inr List.mem_cons_self
        · exact .inl h
    · exact .inr (List.mem_cons_of_mem _ h)

/-- Nothing is missing where every key is there. -/
theorem addMissing_of_forall {members top : List (String × Json)}
    (h : ∀ e ∈ top, (Entries.get? e.1 members).isSome = true) :
    addMissing members top = members := by
  induction top with
  | nil => rfl
  | cons t top ih =>
    rw [addMissing, List.foldl_cons, if_pos (h t List.mem_cons_self)]
    exact ih fun e he => h e (List.mem_cons_of_mem _ he)

theorem mem_mergeShared {e : String × Json} {top : List (String × Json)} :
    ∀ {base : List (String × Json)}, e ∈ mergeShared top base →
      ∃ w, e.2 = mergeValue (Entries.get? e.1 top) w
  | [], h => by simp [mergeShared] at h
  | (k, w) :: rest, h => by
    rw [mergeShared, List.mem_cons] at h
    rcases h with rfl | h
    · exact ⟨w, rfl⟩
    · exact mem_mergeShared h

theorem mergeValue_none (v : Json) : mergeValue none v = v := by
  simp [mergeValue]

theorem mergeValue_some (o v : Json) : mergeValue (some o) v = v.merge o := by
  simp [mergeValue]

/-- Entries that already are as the overlay makes them stay. -/
theorem mergeShared_of_forall {top : List (String × Json)} :
    ∀ {members : List (String × Json)},
      (∀ e ∈ members, mergeValue (Entries.get? e.1 top) e.2 = e.2) →
      mergeShared top members = members
  | [], _ => by simp [mergeShared]
  | (k, w) :: rest, h => by
    have hrest := mergeShared_of_forall fun e he => h e (List.mem_cons_of_mem _ he)
    have hhead : mergeValue (Entries.get? k top) w = w := h (k, w) List.mem_cons_self
    simp [mergeShared, hhead, hrest]

/-- A mapping is settled by an overlay once each of its values is. -/
theorem merge_obj_eq_self {members top : List (String × Json)}
    (hvalues : ∀ e ∈ members, mergeValue (Entries.get? e.1 top) e.2 = e.2)
    (hkeys : ∀ e ∈ top, (Entries.get? e.1 members).isSome = true) :
    (Json.obj members).merge (.obj top) = .obj members := by
  rw [merge, mergeShared_of_forall hvalues, addMissing_of_forall hkeys]

theorem merge_merge (base : Json) {overlay : Json} (h : Draft.Settled overlay) :
    (base.merge overlay).merge overlay = base.merge overlay := by
  induction overlay using induction_on_members generalizing base with
  | plain overlay hleaf =>
    rw [merge_of_not_isObject (.inr hleaf), merge_of_not_isObject (.inr hleaf)]
  | obj top ih =>
    have hordered : Entries.Ordered top := h.ordered
    simp only [Draft.Settled] at h
    have again : ∀ e ∈ top, ∀ w : Json, (w.merge e.2).merge e.2 = w.merge e.2 := fun e he w =>
      ih e he w (Draft.settledMembers_iff.1 h.2 e he)
    -- laid over a value that is no mapping an overlay is the result
    have self : ∀ e ∈ top, e.2.merge e.2 = e.2 := fun e he => by
      simpa [merge] using again e he .null
    have filed : ∀ e ∈ top, Entries.get? e.1 top = some e.2 := fun e he =>
      Entries.get?_of_mem hordered he
    cases hb : base.isObject with
    | false =>
      rw [merge_of_not_isObject (.inl hb)]
      refine merge_obj_eq_self (fun e he => ?_) fun e he => ?_
      · rw [filed e he, mergeValue_some]
        exact self e he
      · rw [filed e he]
        rfl
    | true =>
      obtain ⟨members, rfl⟩ := exists_obj_of_isObject hb
      rw [merge]
      refine merge_obj_eq_self (fun e he => ?_) fun e he => ?_
      · rcases mem_addMissing he with he | he
        · obtain ⟨w, hw⟩ := mem_mergeShared he
          cases htop : Entries.get? e.1 top with
          | none => exact mergeValue_none e.2
          | some o =>
            rw [htop, mergeValue_some] at hw
            rw [mergeValue_some, hw]
            exact again (e.1, o) (Entries.mem_of_get? htop) w
        · rw [filed e he, mergeValue_some]
          exact self e he
      · rw [get?_addMissing, filed e he]
        simp

/-! ## Values of a tool -/

theorem mergedValues_of_null {members : List (String × Json)} {declared : Option Json}
    (h : ∀ d, declared = some d → d.isNull = true) :
    mergedValues (.obj members) declared = .obj members := by
  cases declared with
  | none => rfl
  | some d =>
    cases d with
    | null => rfl
    | _ => exact nomatch h _ rfl

theorem mergedValues_obj (members top : List (String × Json)) :
    mergedValues (.obj members) (some (.obj top)) = (Json.obj members).merge (.obj top) := by
  simp [mergedValues, isNull, merge]

/-- A mapping or null laid over a mapping makes a mapping that has all the keys of the baseline. -/
theorem field?_mergedValues {baseline : Json} {declared : Option Json}
    (hbaseline : baseline.isObject = true)
    (hdeclared : ∀ d, declared = some d → d.isNull = true ∨ d.isObject = true) :
    (mergedValues baseline declared).isObject = true ∧
      ∀ key, (baseline.field? key).isSome = true →
        ((mergedValues baseline declared).field? key).isSome = true := by
  obtain ⟨members, rfl⟩ := exists_obj_of_isObject hbaseline
  have hshape : (∀ d, declared = some d → d.isNull = true) ∨ ∃ top, declared = some (.obj top) := by
    cases declared with
    | none => exact .inl nofun
    | some d =>
      rcases hdeclared d rfl with hd | hd
      · exact .inl fun _ h => by cases h; exact hd
      · obtain ⟨top, rfl⟩ := exists_obj_of_isObject hd
        exact .inr ⟨top, rfl⟩
  rcases hshape with hnull | ⟨top, rfl⟩
  · rw [mergedValues_of_null hnull]
    exact ⟨rfl, fun _ h => h⟩
  · rw [mergedValues_obj]
    refine ⟨by simp [merge, isObject], fun key h => ?_⟩
    obtain ⟨v, hv⟩ := Option.isSome_iff_exists.1 h
    rw [field?_merge rfl rfl, hv]
    cases (Json.obj top).field? key <;> rfl

end Json

namespace Package

/-- A tool that makes sense declares no values, or null, or a mapping. -/
theorem isObject_of_validate {t : Tool} {kind : ToolKind} (h : validate t = .ok kind)
    {values : Json} (hvalues : t.spec.values = some values) :
    values.isNull = true ∨ values.isObject = true := by
  obtain ⟨_, -, h⟩ := bind_eq_ok_iff.1 h
  rw [hvalues] at h
  cases values with
  | null => exact .inl rfl
  | obj members => exact .inr rfl
  | _ => exact nomatch h

end Package

theorem Profile.isObject_baseline (kind : ToolKind) : (ofKind kind).baseline.isObject = true := by
  cases kind <;> rfl

namespace Json

/-- A merge holds at every path what it should, laying the same values over once more changes
nothing, and the values that a tool is installed with are a mapping with all the keys of its
baseline. -/
theorem lawful_merge :
    (∀ base overlay : Json, LaidOver base overlay (base.merge overlay)) ∧
    (∀ base overlay : Json, Draft.Settled overlay →
      (base.merge overlay).merge overlay = base.merge overlay) ∧
    ∀ (t : Tool) (declared kind : ToolKind), Package.validate t = .ok declared →
      (Package.values (.ofKind kind) t).isObject = true ∧
        ∀ key, ((Profile.ofKind kind).baseline.field? key).isSome = true →
          ((Package.values (.ofKind kind) t).field? key).isSome = true := by
  refine ⟨laidOver_merge, fun base overlay h => merge_merge base h, fun t declared kind h => ?_⟩
  exact field?_mergedValues (Profile.isObject_baseline kind) fun d hd =>
    Package.isObject_of_validate h hd

namespace Sample

/-- Another driver, and nothing in place of a flag. -/
def declared : Json := .obj [("driver", .obj [("kind", .str "kmod")]), ("tty", .null)]

def tool : Tool where
  metadata := { name := some "falco", ns := some "shop" }
  spec := { type := "falco", enabled := true, values := some declared }

/-- What the tool is installed with. -/
def values : Json := (Profile.ofKind .falco).baseline.merge declared

end Sample

open Sample in
theorem lawful_merge_sample :
    values.get? ["driver", "kind"] = some (.str "kmod") ∧ values.get? ["tty", "rows"] = none ∧
      values.merge declared = values ∧
      ((Package.values (.ofKind .falco) tool).field? "tty").isSome = true := by
  obtain ⟨hpaths, hagain, hkeys⟩ := lawful_merge
  have hlaid := hpaths (Profile.ofKind .falco).baseline declared
  have hsettled : Draft.Settled declared := by
    simp only [declared, Draft.Settled, Draft.SettledMembers, and_true]
    decide
  exact ⟨hlaid.taken ["driver", "kind"] (.str "kmod") (by rfl) (.inl rfl),
    hlaid.dropped ["tty"] ["rows"] .null (by rfl) rfl (by decide), hagain _ _ hsettled,
    (hkeys tool .falco .falco rfl).2 "tty" (by rfl)⟩

end Json

end PolicyOperator
