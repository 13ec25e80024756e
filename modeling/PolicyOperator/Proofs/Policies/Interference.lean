import PolicyOperator.Proofs.Artifact.Essence
import PolicyOperator.Proofs.Engine.Reconciled

/-!
# Policies beside each other

Two policies of one kind are reconciled one after the other, where nothing is stored at their places.
The order does not matter, and each policy gets its artifacts, exactly if no entry of the one has the
place of an entry of the other (`independent_iff`).

* What one policy supersedes is none of the other's (`Superseded.owner`), so the first reconciliation
  does not change what the second deletes (`Reconciled.superseded_iff`).
* Policies without a common place get what either of them gets alone (`Reconciled.together`). This is
  the same for both orders (`Together.symm`), up to what a store adds to every object
  (`Object.essence`, `Together.alike`).
* Policies with a common place cannot both be served there, as an object is tagged with one key only.

Rules of two policies never meet (`apart_rules`), and scans only within a namespace (`apart_scans`),
where their names join texts with dashes. A chaos engine may be filed outside its policy's namespace,
which its name does not tell, so engines of policies in different namespaces can meet
(`engine_taken_over`).
-/

namespace PolicyOperator

namespace Engine

open Cluster

variable {kind : ToolKind} {p q : Policy} {pk qk key : Key} {c c' c₁ c₂ d₁ d₂ : Cluster}

theorem essence_created (p : Policy) (e : Entry kind) (now : Instant) (version : Nat) :
    (Store.created (rendering kind p e) now version).essence = (rendering kind p e).essence := by
  cases kind <;> rfl

/-! ## What is superseded -/

theorem Superseded.congr
    (h : (c'.store kind.artifact).objects.get? key = (c.store kind.artifact).objects.get? key) :
    Superseded kind p c' key ↔ Superseded kind p c key := by
  cases kind with
  | trivy => exact exists_congr fun _ => and_congr_right fun _ => Scans.outdated_congr h
  | falco | litmus => exact Iff.rfl

/-- What is superseded is in the namespace of the policy and named after it. -/
theorem Superseded.owner (h : Superseded kind p c key) (hkey : p.key = .ok pk) :
    ∃ o, (c.store kind.artifact).objects.get? key = some o ∧ key.ns = pk.ns ∧
      o.metadata.labels.bind (·.get? Labels.policyName) = some pk.name := by
  cases kind with
  | trivy =>
    obtain ⟨spec, -, j, hget, hns, hlabels, -⟩ := h
    rw [Object.nsOrEmpty_of_key hkey] at hns
    rw [Object.displayName_of_key hkey] at hlabels
    exact ⟨j, hget, hns, (Labels.accepts_ofPolicyName_iff.1 hlabels).2⟩
  | falco | litmus => exact h.elim

/-- An object that keeps its labels is superseded for one policy only. -/
theorem Superseded.unique (h : Superseded kind p c key) (h' : Superseded kind q c' key)
    (hpk : p.key = .ok pk) (hqk : q.key = .ok qk)
    (hlabels : ∀ o', (c'.store kind.artifact).objects.get? key = some o' →
      ∃ o, (c.store kind.artifact).objects.get? key = some o ∧
        o'.metadata.labels = o.metadata.labels) : pk = qk := by
  obtain ⟨o, hget, hns, hname⟩ := h.owner hpk
  obtain ⟨o', hget', hns', hname'⟩ := h'.owner hqk
  obtain ⟨_, ho, hsame⟩ := hlabels o' hget'
  obtain rfl := Option.some.inj (hget.symm.trans ho)
  rw [hsame, hname] at hname'
  exact Key.ext (hns.symm.trans hns') (Option.some.inj hname')

/-- Nothing is stored at the places of the policy. -/
def Vacant (kind : ToolKind) (p : Policy) (c : Cluster) : Prop :=
  ∀ e ∈ entries kind p, (c.store kind.artifact).objects.get? (place kind p e) = none

theorem Superseded.place_ne (h : Superseded kind p c key) (hkey : p.key = .ok pk)
    (hvacant : Vacant kind q c) : ∀ e ∈ entries kind q, key ≠ place kind q e := by
  rintro e he rfl
  obtain ⟨o, hget, -⟩ := h.owner hkey
  rw [hvacant e he] at hget
  cases hget

/-! ## One policy after the other -/

namespace Reconciled

/-- What was made for a policy is not superseded for another. -/
theorem not_superseded (h : Reconciled kind p c c₁) (hpk : p.key = .ok pk) (hqk : q.key = .ok qk)
    (hne : pk ≠ qk) {e : Entry kind} (he : e ∈ entries kind p) :
    ¬ Superseded kind q c₁ (place kind p e) := by
  intro hs
  obtain ⟨v, hmade⟩ := h.made e he
  have htag := tagged_rendering hpk e
  obtain ⟨o, hget, hns, hname⟩ := hs.owner hqk
  obtain rfl := Option.some.inj (hmade.symm.trans hget)
  have hplace : (place kind p e).ns = pk.ns := by
    cases kind with
    | trivy => rw [place_trivy hpk]
    | falco | litmus => exact hs.elim
  exact hne (Key.ext (hplace.symm.trans hns) (Option.some.inj (htag.name.symm.trans hname)))

theorem not_superseded_twice (h : Reconciled kind p c c₁) (hpk : p.key = .ok pk)
    (hqk : q.key = .ok qk) (hne : pk ≠ qk) (hs : Superseded kind p c key) :
    ¬ Superseded kind q c₁ key := by
  intro hq
  have hw := h.swept key hs
  exact hne (hs.unique hq hpk hqk fun o' ho' => Store.Withdrawn.labels (ho' ▸ hw))

/-- The reconciliation of a policy does not change what is superseded for another. -/
theorem superseded_iff (h : Reconciled kind p c c₁) (hpk : p.key = .ok pk) (hqk : q.key = .ok qk)
    (hne : pk ≠ qk) (hvacant : Vacant kind p c) :
    Superseded kind q c₁ key ↔ Superseded kind q c key := by
  by_cases hplace : ∃ e ∈ entries kind p, key = place kind p e
  · obtain ⟨e, he, rfl⟩ := hplace
    exact iff_of_false (h.not_superseded hpk hqk hne he)
      fun hs => hs.place_ne hqk hvacant e he rfl
  have hplaces : ∀ e ∈ entries kind p, key ≠ place kind p e := fun e he hk => hplace ⟨e, he, hk⟩
  by_cases hs : Superseded kind p c key
  · exact iff_of_false (h.not_superseded_twice hpk hqk hne hs)
      fun hq => hne (hs.unique hq hpk hqk fun o ho => ⟨o, ho, rfl⟩)
  · exact Superseded.congr (h.others key hplaces hs)

end Reconciled

/-- What two policies are rendered to was created, and what is superseded for either deleted. -/
structure Together (kind : ToolKind) (p q : Policy) (c c' : Cluster) : Prop where
  confined : Confined [kind.artifact] c c'
  left : ∀ e ∈ entries kind p, ∃ v, (c'.store kind.artifact).objects.get? (place kind p e) =
    some (Store.created (rendering kind p e) c.clock v)
  right : ∀ e ∈ entries kind q, ∃ v, (c'.store kind.artifact).objects.get? (place kind q e) =
    some (Store.created (rendering kind q e) c.clock v)
  swept : ∀ key, Superseded kind p c key ∨ Superseded kind q c key →
    Store.Withdrawn ((c.store kind.artifact).objects.get? key)
      ((c'.store kind.artifact).objects.get? key)
  others : ∀ key, (∀ e ∈ entries kind p, key ≠ place kind p e) →
    (∀ e ∈ entries kind q, key ≠ place kind q e) → ¬ Superseded kind p c key →
    ¬ Superseded kind q c key →
    (c'.store kind.artifact).objects.get? key = (c.store kind.artifact).objects.get? key

theorem Together.symm (h : Together kind p q c c') : Together kind q p c c' :=
  ⟨h.confined, h.right, h.left, fun key hs => h.swept key hs.symm,
    fun key hq hp hsq hsp => h.others key hp hq hsp hsq⟩

/-- No entry of the one policy has the place of an entry of the other. -/
def Apart (kind : ToolKind) (p q : Policy) : Prop :=
  ∀ e ∈ entries kind p, ∀ e' ∈ entries kind q, place kind p e ≠ place kind q e'

theorem Apart.symm (h : Apart kind p q) : Apart kind q p := fun e he e' he' => (h e' he' e he).symm

/-- Nothing was made at the places of a policy that is apart. -/
theorem Reconciled.vacant (h : Reconciled kind p c c₁) (hpk : p.key = .ok pk)
    (hapart : Apart kind p q) (hvacant : Vacant kind q c) : Vacant kind q c₁ := by
  intro e he
  rw [h.others _ (fun e' he' => (hapart e' he' e he).symm) fun hs => hs.place_ne hpk hvacant e he rfl,
    hvacant e he]

theorem Reconciled.together (h : Reconciled kind p c c₁) (h' : Reconciled kind q c₁ c₂)
    (hpk : p.key = .ok pk) (hqk : q.key = .ok qk) (hne : pk ≠ qk) (hapart : Apart kind p q)
    (hp : Vacant kind p c) (hq : Vacant kind q c) : Together kind p q c c₂ := by
  have hsuperseded : ∀ key, Superseded kind q c₁ key ↔ Superseded kind q c key :=
    fun _ => h.superseded_iff hpk hqk hne hp
  constructor
  case confined => exact IsTrans.trans _ _ _ h.confined h'.confined
  case left =>
    intro e he
    obtain ⟨v, hv⟩ := h.made e he
    refine ⟨v, ?_⟩
    rw [h'.others _ (hapart e he) (h.not_superseded hpk hqk hne he), hv]
  case right =>
    intro e he
    rw [← h.confined.clock]
    exact h'.made e he
  case swept =>
    intro key hs
    by_cases hsp : Superseded kind p c key
    · rw [h'.others key (hsp.place_ne hpk hq) (h.not_superseded_twice hpk hqk hne hsp)]
      exact h.swept key hsp
    · have hsq := hs.resolve_left hsp
      rw [← h.others key (hsq.place_ne hqk hp) hsp]
      exact h'.swept key ((hsuperseded key).2 hsq)
  case others =>
    intro key hkp hkq hsp hsq
    rw [h'.others key hkq fun hs => hsq ((hsuperseded key).1 hs), h.others key hkp hsp]

/-! ## Policies that are apart -/

/-- The rules of different policies have different places. -/
theorem apart_rules (hpk : p.key = .ok pk) (hqk : q.key = .ok qk) (hne : pk ≠ qk) :
    Apart .falco p q := by
  intro e _ e' _ hplace
  rw [place_falco hpk, place_falco hqk] at hplace
  obtain ⟨hns, hname⟩ := Key.mk.inj hplace
  unfold Naming.ruleDocument at hname
  rw [String.append_right_inj] at hname
  exact hne (Key.ext hns hname)

/-- The scans of policies in different namespaces have different places. -/
theorem apart_scans (hpk : p.key = .ok pk) (hqk : q.key = .ok qk) (hne : pk.ns ≠ qk.ns) :
    Apart .trivy p q := by
  intro e _ e' _ hplace
  rw [place_trivy hpk, place_trivy hqk] at hplace
  exact hne (Key.mk.inj hplace).1

/-! ## The theorem -/

/-- The artifacts are the same, up to the marks that a store sets. -/
def SameArtifacts (c d : Cluster) : Prop :=
  ∀ (kind : ToolKind) key, ((c.store kind.artifact).objects.get? key).map Object.essence =
    ((d.store kind.artifact).objects.get? key).map Object.essence

/-- Every entry of the policy has the artifact that it is rendered to. -/
def Served (kind : ToolKind) (p : Policy) (pk : Key) (c : Cluster) : Prop :=
  ∀ e ∈ entries kind p, ∃ o, (c.store kind.artifact).objects.get? (place kind p e) = some o ∧
    Labels.Tagged o.metadata.labels pk ∧ o.essence = (rendering kind p e).essence

theorem Together.served (h : Together kind p q c c') (hpk : p.key = .ok pk) :
    Served kind p pk c' := by
  intro e he
  obtain ⟨v, hv⟩ := h.left e he
  exact ⟨_, hv, tagged_rendering hpk e, essence_created ..⟩

theorem Together.alike (h : Together kind p q c c₂) (h' : Together kind p q c d₂) :
    SameArtifacts c₂ d₂ := by
  intro kind' key
  by_cases hkind : kind' = kind
  case neg =>
    have hother : kind'.artifact ∉ [kind.artifact] := fun hmem =>
      hkind (ToolKind.artifact_injective (List.mem_singleton.1 hmem))
    rw [h.confined.store _ hother, h'.confined.store _ hother]
  subst hkind
  by_cases hp : ∃ e ∈ entries kind' p, key = place kind' p e
  · obtain ⟨e, he, rfl⟩ := hp
    obtain ⟨v, hv⟩ := h.left e he
    obtain ⟨w, hw⟩ := h'.left e he
    rw [hv, hw, Option.map_some, Option.map_some, essence_created, essence_created]
  by_cases hq : ∃ e ∈ entries kind' q, key = place kind' q e
  · obtain ⟨e, he, rfl⟩ := hq
    obtain ⟨v, hv⟩ := h.right e he
    obtain ⟨w, hw⟩ := h'.right e he
    rw [hv, hw, Option.map_some, Option.map_some, essence_created, essence_created]
  by_cases hs : Superseded kind' p c key ∨ Superseded kind' q c key
  · exact (h.swept key hs).essence_eq (h'.swept key hs)
  · have untouched := fun {d} (hd : Together kind' p q c d) =>
      hd.others key (fun e he hk => hp ⟨e, he, hk⟩) (fun e he hk => hq ⟨e, he, hk⟩)
        (fun h => hs (.inl h)) fun h => hs (.inr h)
    rw [untouched h, untouched h']

/-- Policies that are both served are apart. -/
theorem Served.apart (hp : Served kind p pk c) (hq : Served kind q qk c) (hne : pk ≠ qk) :
    Apart kind p q := by
  intro e he e' he' hplace
  obtain ⟨o, hget, htag, -⟩ := hp e he
  obtain ⟨o', hget', htag', -⟩ := hq e' he'
  rw [hplace, hget'] at hget
  obtain rfl := Option.some.inj hget
  exact hne (htag.unique htag')

/-- A reconciliation of a valid policy that succeeded, where its places were vacant. -/
theorem reconciled_of_run (hkey : p.key = .ok pk) (hvalid : validate kind p = .ok ())
    (hc : c.Reached) (hnames : ((entries kind p).map (entryName kind)).Nodup)
    (hvacant : Vacant kind p c) (hrun : reconcile kind p c = (.ok (), c')) :
    Reconciled kind p c c' :=
  (ends_reconcile_vacant hkey hvalid (hc.filed _) hnames hvacant).ok hrun

/-- Two stored policies of one kind, both valid and with names of their own for their entries, are
reconciled in both orders, where nothing is stored at their places. Both orders leave the same
artifacts, and every entry of both policies has its own, exactly if the policies are apart. -/
theorem independent_iff (hc : c.Reached)
    (hp : (c.store .policy).objects.get? pk = some p)
    (hq : (c.store .policy).objects.get? qk = some q) (hne : pk ≠ qk)
    (hvalidp : validate kind p = .ok ()) (hvalidq : validate kind q = .ok ())
    (hnamesp : ((entries kind p).map (entryName kind)).Nodup)
    (hnamesq : ((entries kind q).map (entryName kind)).Nodup)
    (hvacantp : Vacant kind p c) (hvacantq : Vacant kind q c)
    (hp₁ : reconcile kind p c = (.ok (), c₁)) (hq₂ : reconcile kind q c₁ = (.ok (), c₂))
    (hq₁ : reconcile kind q c = (.ok (), d₁)) (hp₂ : reconcile kind p d₁ = (.ok (), d₂)) :
    (SameArtifacts c₂ d₂ ∧ Served kind p pk c₂ ∧ Served kind q qk c₂) ↔ Apart kind p q := by
  have hpk := (hc.registered _ pk p hp).filed
  have hqk := (hc.registered _ qk q hq).filed
  refine ⟨fun h => h.2.1.apart h.2.2 hne, fun hapart => ?_⟩
  have hc₁ : c₁.Reached := by
    have hlater := (later_reconcile p kind).state c
    rw [hp₁] at hlater
    exact hc.later hlater
  have hd₁ : d₁.Reached := by
    have hlater := (later_reconcile q kind).state c
    rw [hq₁] at hlater
    exact hc.later hlater
  have first := reconciled_of_run hpk hvalidp hc hnamesp hvacantp hp₁
  have second := reconciled_of_run hqk hvalidq hc₁ hnamesq (first.vacant hpk hapart hvacantq) hq₂
  have first' := reconciled_of_run hqk hvalidq hc hnamesq hvacantq hq₁
  have second' := reconciled_of_run hpk hvalidp hd₁ hnamesp
    (first'.vacant hqk hapart.symm hvacantp) hp₂
  have together := first.together second hpk hqk hne hapart hvacantp hvacantq
  have together' := (first'.together second' hqk hpk hne.symm hapart.symm hvacantq hvacantp).symm
  exact ⟨together.alike together', together.served hpk, together.symm.served hqk⟩

namespace Sample

/-- A policy with one experiment, whose engine lives in another namespace. -/
def chaos (ns name : String) : Policy where
  metadata := { name := some name, ns := some ns }
  spec := {
    type := "litmus"
    enabled := true
    litmus := some { experiments := [{
      name := "kill"
      experimentRef := "pod-delete"
      targetNamespace := some "prod"
      appInfo := { ns := "prod", label := "app=web", kind := "deployment" } }] } }

def first : Key := ⟨"team-a", "chaos"⟩

/-- Has the name of the first. -/
def second : Key := ⟨"team-b", "chaos"⟩

def third : Key := ⟨"team-b", "latency"⟩

def start : Cluster :=
  (ClusterM.create (chaos third.ns third.name)
    (ClusterM.create (chaos second.ns second.name)
      (ClusterM.create (chaos first.ns first.name) {}).2).2).2

theorem reached_start : start.Reached := by
  have hcreate : ∀ (p : Policy) (c : Cluster), c.Reached → (ClusterM.create p c).2.Reached :=
    fun p c hc => hc.later ((ClusterM.later_create p).state c)
  exact hcreate _ _ (hcreate _ _ (hcreate _ _ Cluster.reached_empty))

/-- A policy as it is stored. -/
def stored (key : Key) : Policy := (start.policies.objects.get? key).getD (chaos key.ns key.name)

/-- The cluster after a policy was reconciled. -/
def after (key : Key) (c : Cluster) : Cluster := (reconcile .litmus (stored key) c).2

end Sample

open Sample

/-- Policies of different names keep out of each other's way. -/
theorem independent_sample :
    SameArtifacts (after third (after first start)) (after first (after third start)) ∧
      Served .litmus (stored first) first (after third (after first start)) ∧
      Served .litmus (stored third) third (after third (after first start)) := by
  refine (independent_iff reached_start rfl rfl (by decide) rfl rfl (by decide) (by decide)
    (fun e _ => rfl) (fun e _ => rfl) rfl rfl rfl rfl).2 ?_
  intro e he e' he'
  obtain rfl : e = _ := List.mem_singleton.1 he
  obtain rfl : e' = _ := List.mem_singleton.1 he'
  decide

/-- Two policies of one name run the same experiment on the same namespace. Both are reconciled
without an error, in both orders, and then no engine is tagged for the one that came first. -/
theorem engine_taken_over :
    reconcile .litmus (stored first) start = (.ok (), after first start) ∧
      reconcile .litmus (stored second) (after first start) =
        (.ok (), after second (after first start)) ∧
      reconcile .litmus (stored second) start = (.ok (), after second start) ∧
      reconcile .litmus (stored first) (after second start) =
        (.ok (), after first (after second start)) ∧
      (∀ key o, (after second (after first start)).chaosEngines.objects.get? key = some o →
        ¬ Labels.Tagged o.metadata.labels first) ∧
      (∀ key o, (after first (after second start)).chaosEngines.objects.get? key = some o →
        ¬ Labels.Tagged o.metadata.labels second) ∧
      ¬ SameArtifacts (after second (after first start)) (after first (after second start)) := by
  have hfirst : ∀ entry ∈ (after second (after first start)).chaosEngines.objects.entries,
      ¬ Labels.Tagged entry.2.metadata.labels first := by decide
  have hsecond : ∀ entry ∈ (after first (after second start)).chaosEngines.objects.entries,
      ¬ Labels.Tagged entry.2.metadata.labels second := by decide
  refine ⟨rfl, rfl, rfl, rfl, fun key o ho => hfirst (key, o) ((SortedMap.mem_entries_iff ..).2 ho),
    fun key o ho => hsecond (key, o) ((SortedMap.mem_entries_iff ..).2 ho), fun hsame => ?_⟩
  have hengine := congrArg (Option.map fun o => o.metadata.labels)
    (hsame .litmus ⟨"prod", "eirenyx-litmus-chaos-kill"⟩)
  revert hengine
  decide

end Engine

end PolicyOperator
