import PolicyOperator.Proofs.Artifact.Essence
import PolicyOperator.Proofs.Engine.Settled

/-!
# What an upsert does

`Artifact.Lawful`: the stored object has all that is desired (`Holds`), what was there before is
kept beside it (`Kept`), nothing else that is stored changes, nothing is written when the stored
object had it all, and the next upsert of the same object writes nothing.

* An object has all that is desired just when an upsert finds nothing to change about it
  (`holds_iff_current`). This takes that the desired object has labels and, if it is a config map,
  data: an upsert of an object without labels gives a stored object without labels an empty map of
  them.
* What a replacement keeps follows from what `Brings` says of the spec, since the store keeps the
  status and the identity (`Brings.kept_replacement`).

`lawful_upsert` states the law of config maps and of chaos engines, for all that may be desired of
them and from any state of the cluster. The objects that the engines ask for are of this form
(`lawful_configMap`, `lawful_chaosEngine`).
-/

namespace PolicyOperator

namespace Artifact

open Cluster

/-! ## Maps -/

/-- The first map has all that the second one has. -/
def Includes (m d : Option TextMap) : Prop :=
  ∀ name value, d.bind (·.get? name) = some value → m.bind (·.get? name) = some value

/-- Two maps agree on all names that `d` does not have. -/
def SameBeyond (d m m' : Option TextMap) : Prop :=
  ∀ name, d.bind (·.get? name) = none → m'.bind (·.get? name) = m.bind (·.get? name)

/-- Laying a map over another one. A missing map is an empty one that comes to be. -/
def laidOver (m d : Option TextMap) : Option TextMap :=
  some ((m.getD ∅).overlay (d.getD ∅))

theorem bind_get?_getD (m : Option TextMap) (name : String) :
    (m.getD ∅).get? name = m.bind (·.get? name) := by
  cases m <;> rfl

theorem get?_laidOver (m d : Option TextMap) (name : String) :
    (laidOver m d).bind (·.get? name) =
      (d.bind (·.get? name)).or (m.bind (·.get? name)) := by
  rw [laidOver, Option.bind_some, SortedMap.get?_overlay, bind_get?_getD, bind_get?_getD]

theorem includes_laidOver (m d : Option TextMap) : Includes (laidOver m d) d := by
  intro name value h
  rw [get?_laidOver, h, Option.some_or]

theorem sameBeyond_laidOver (m d : Option TextMap) : SameBeyond d m (laidOver m d) := by
  intro name h
  rw [get?_laidOver, h, Option.none_or]

/-- Where there is something to lay over, it changes nothing just when it is there already. -/
theorem laidOver_eq_iff {m d : Option TextMap} {name value : String}
    (hd : d.bind (·.get? name) = some value) : laidOver m d = m ↔ Includes m d := by
  constructor
  · intro h
    rw [← h]
    exact includes_laidOver m d
  · intro h
    cases m with
    | none => exact nomatch h name value hd
    | some m =>
      refine congrArg some (SortedMap.ext_get? fun name' => ?_)
      rw [Option.getD_some, SortedMap.get?_overlay, bind_get?_getD]
      cases hname : d.bind (·.get? name') with
      | none => rfl
      | some value' => exact (h name' value' hname).symm

/-! ## What is desired and what is kept -/

variable {k : ResourceKind} {c c' : Cluster} {key : Key} {desired o before : Object k}
  {apply : Object k → Object k} {f : k.Spec → k.Spec} {content : k.Spec → Prop}
  {beside : k.Spec → k.Spec → Prop}

/-- The object has the labels and the owners that are desired, and a spec with the content. -/
structure Holds (content : k.Spec → Prop) (desired o : Object k) : Prop where
  labels : Includes o.metadata.labels desired.metadata.labels
  owners : desired.metadata.owners ≠ [] → o.metadata.owners = desired.metadata.owners
  spec : content o.spec

/-- What an upsert leaves of the object that was there before. -/
structure Kept (beside : k.Spec → k.Spec → Prop) (desired before o : Object k) : Prop where
  labels : SameBeyond desired.metadata.labels before.metadata.labels o.metadata.labels
  owners : desired.metadata.owners = [] →
    o.metadata.ownerReferences = before.metadata.ownerReferences
  annotations : o.metadata.annotations = before.metadata.annotations
  finalizers : o.metadata.finalizers = before.metadata.finalizers
  uid : o.metadata.uid = before.metadata.uid
  creation : o.metadata.creationTimestamp = before.metadata.creationTimestamp
  deletion : o.metadata.deletionTimestamp = before.metadata.deletionTimestamp
  status : o.status = before.status
  spec : beside before.spec o.spec

/-- How the specs of a kind are brought up to date, and what is desired of them and kept. -/
structure Matches (f : k.Spec → k.Spec) (content : k.Spec → Prop)
    (beside : k.Spec → k.Spec → Prop) : Prop where
  content_iff : ∀ s, f s = s ↔ content s
  keeps : ∀ s, beside s (k.specWholeSeconds (f s))
  refl : ∀ s, beside s s
  status : ∀ x, k.statusWholeSeconds x = x

theorem owners_eq_of_ne_nil {m : Metadata} {owners : List OwnerReference} (h : owners ≠ []) :
    m.ownerReferences = some owners ↔ m.owners = owners := by
  unfold Metadata.owners
  cases m.ownerReferences with
  | none => simp [eq_comm, h]
  | some _ => simp

theorem holds_iff_current (hb : Brings desired apply f) (hf : Matches f content beside)
    {name value : String} (hlabels : desired.metadata.labels.bind (·.get? name) = some value) :
    Holds content desired o ↔ Current desired apply o := by
  rw [hb.current_iff, hf.content_iff]
  have howners : (desired.metadata.owners.isEmpty = false →
      o.metadata.ownerReferences = some desired.metadata.owners) ↔
      (desired.metadata.owners ≠ [] → o.metadata.owners = desired.metadata.owners) := by
    rw [List.isEmpty_eq_false_iff]
    exact forall_congr' fun h => owners_eq_of_ne_nil h
  rw [howners]
  exact ⟨fun h => ⟨(laidOver_eq_iff hlabels).2 h.labels, h.owners, h.spec⟩,
    fun h => ⟨(laidOver_eq_iff hlabels).1 h.1, h.2.1, h.2.2⟩⟩

theorem Brings.kept_replacement (hb : Brings desired apply f) (hf : Matches f content beside)
    (before : Object k) (version : Nat) :
    Kept beside desired before
      (Store.replacement before (merged before desired apply) version) := by
  have hm := hb.metadata_merged before
  constructor
  case labels =>
    rw [Store.labels_replacement, hm]
    exact sameBeyond_laidOver before.metadata.labels desired.metadata.labels
  case owners =>
    intro hnone
    show (merged before desired apply).metadata.ownerReferences = _
    rw [hm]
    simp [hnone]
  case annotations =>
    show (merged before desired apply).metadata.annotations = _
    rw [hm]
  case finalizers =>
    show (merged before desired apply).metadata.finalizers = _
    rw [hm]
  case uid => rfl
  case creation => rfl
  case deletion => rfl
  case status =>
    rw [Store.status_replacement, funext hf.status, Option.map_id']
  case spec =>
    rw [Store.spec_replacement, hb.spec_merged]
    exact hf.keeps before.spec

theorem Kept.refl (hf : Matches f content beside) : Kept beside desired before before where
  labels _ _ := rfl
  owners _ := rfl
  annotations := rfl
  finalizers := rfl
  uid := rfl
  creation := rfl
  deletion := rfl
  status := rfl
  spec := hf.refl before.spec

/-! ## The law -/

/-- What an upsert does to the key of the desired object. -/
structure Lawful (content : k.Spec → Prop) (beside : k.Spec → k.Spec → Prop) (desired : Object k)
    (apply : Object k → Object k) (key : Key) (c : Cluster) (change : Change) (c' : Cluster) :
    Prop where
  stored : ∃ o, Filed key (some o) c c' ∧ Holds content desired o ∧
    ∀ before, (c.store k).objects.get? key = some before → Kept beside desired before o
  created_iff : change = .created ↔ (c.store k).objects.get? key = none
  unchanged_iff : change = .unchanged ↔
    ∃ before, (c.store k).objects.get? key = some before ∧ Holds content desired before
  still : change = .unchanged → c' = c
  again : upsert desired apply c' = (.ok .unchanged, c')

/-- Where a current object is stored nothing is written. -/
theorem lawful_of_current (hb : Brings desired apply f) (hf : Matches f content beside)
    (hkey : desired.key = .ok key) {name value : String}
    (hlabels : desired.metadata.labels.bind (·.get? name) = some value)
    (hget : (c.store k).objects.get? key = some o) (hcurrent : Current desired apply o) :
    Lawful content beside desired apply key c .unchanged c := by
  have hholds := (holds_iff_current hb hf hlabels).2 hcurrent
  refine ⟨⟨o, Filed.rfl hget, hholds, fun before hbefore => ?_⟩, ?_, ?_, fun _ => rfl,
    upsert_of_current hkey hget hcurrent⟩
  · obtain rfl := Option.some.inj (hget.symm.trans hbefore)
    exact .refl hf
  · simp [hget]
  · exact ⟨fun _ => ⟨o, hget, hholds⟩, fun _ => rfl⟩

/-- Where none is stored, one is in the end. -/
theorem Upserted.lawful {change : Change} (h : Upserted desired apply key c change c')
    (hstale : ∀ o, (c.store k).objects.get? key = some o → ¬ Current desired apply o)
    (hb : Brings desired apply f) (hf : Matches f content beside) (hkey : desired.key = .ok key)
    (hc : (c.store k).All Object.Registered) {name value : String}
    (hlabels : desired.metadata.labels.bind (·.get? name) = some value) :
    Lawful content beside desired apply key c change c' := by
  have holds_iff : ∀ {o}, Holds content desired o ↔ Current desired apply o :=
    holds_iff_current hb hf hlabels
  have hnone : ¬ ∃ before, (c.store k).objects.get? key = some before ∧
      Holds content desired before :=
    fun ⟨before, hget, hholds⟩ => hstale before hget (holds_iff.1 hholds)
  cases h with
  | created v habsent hfiled =>
    have hcurrent := hb.current_created c.clock v
    refine ⟨⟨_, hfiled, holds_iff.2 hcurrent, fun before hget => ?_⟩, ?_, ?_, nofun,
      upsert_of_current hkey hfiled.self hcurrent⟩
    · simp [habsent] at hget
    · simp [habsent]
    · simp [hnone]
  | updated o v hget hfiled =>
    rw [hb.remaining (hc key o hget) v] at hfiled
    have hcurrent := hb.current_replacement o v
    refine ⟨⟨_, hfiled, holds_iff.2 hcurrent, fun before hbefore => ?_⟩, ?_, ?_, nofun,
      upsert_of_current hkey hfiled.self hcurrent⟩
    · obtain rfl := Option.some.inj (hget.symm.trans hbefore)
      exact hb.kept_replacement hf o v
    · simp [hget]
    · simp [hnone]
  | unchanged o hget hsame => exact absurd hsame (hstale o hget)

theorem ends_upsert_lawful (hb : Brings desired apply f) (hf : Matches f content beside)
    (hkey : desired.key = .ok key) (hc : (c.store k).All Object.Registered) {name value : String}
    (hlabels : desired.metadata.labels.bind (·.get? name) = some value) :
    Ends (upsert desired apply) c (Lawful content beside desired apply key c)
      fun _ c' => (c.store k).failing = true ∧ c' = c := by
  -- `Upserted.updated` does not say that the object was not current before
  by_cases h : ∃ o, (c.store k).objects.get? key = some o ∧ Current desired apply o
  · obtain ⟨o, hget, hcurrent⟩ := h
    have hrun := upsert_of_current hkey hget hcurrent
    refine ends_of (fun change c' hx => ?_) fun e c' hx => ?_
    · cases hrun.symm.trans hx
      exact lawful_of_current hb hf hkey hlabels hget hcurrent
    · cases hrun.symm.trans hx
  · refine (ends_upsert hkey hb.metadata fun o ho => (hc key o ho).filed).mono
      (fun change c' hupserted => ?_) fun _ _ h => h
    exact hupserted.lawful (fun o hget hcurrent => h ⟨o, hget, hcurrent⟩) hb hf hkey hc hlabels

end Artifact

/-! ## Config maps and chaos engines -/

namespace Engine

open Artifact

section

variable {c : Cluster} {p : Policy} {pk key : Key} {spec : FalcoSpec} {e : Experiment}
  {label value name document : String}

namespace Rules

theorem matches_addData {d : ConfigMap} (hdata : d.spec.bind (·.get? name) = some document) :
    Matches (k := .configMap) (fun s => laidOver s d.spec) (Includes · d.spec)
      (SameBeyond d.spec) where
  content_iff _ := laidOver_eq_iff hdata
  keeps s := sameBeyond_laidOver s d.spec
  refl _ _ _ := rfl
  status _ := rfl

theorem ends_upsert_addData {d : ConfigMap} (hkey : d.key = .ok key)
    (hlabel : d.metadata.labels.bind (·.get? label) = some value)
    (hdata : d.spec.bind (·.get? name) = some document)
    (hc : (c.store .configMap).All Object.Registered) :
    Ends (upsert d (addData d)) c
      (Lawful (Includes · d.spec) (SameBeyond d.spec) d (addData d) key c)
      fun _ c' => (c.store .configMap).failing = true ∧ c' = c := by
  obtain ⟨labels, hlabels, -⟩ := Option.bind_eq_some_iff.1 hlabel
  obtain ⟨data, hspec, -⟩ := Option.bind_eq_some_iff.1 hdata
  exact ends_upsert_lawful (brings_addData hlabels hspec) (matches_addData hdata) hkey hc hlabel

theorem get?_configMap (p : Policy) (spec : FalcoSpec) :
    (configMap p spec).spec.bind (·.get? Naming.rulesKey) =
      some (spec.document p.displayName p.spec.target) := by
  unfold configMap
  rw [Option.bind_some]
  exact get?_rulesKey _

/-- What the rules of a policy are upserted to. -/
theorem lawful_configMap (hkey : p.key = .ok pk)
    (hc : (c.store .configMap).All Object.Registered) :
    Ends (upsert (configMap p spec) (addData (configMap p spec))) c
      (Lawful (Includes · (configMap p spec).spec) (SameBeyond (configMap p spec).spec)
        (configMap p spec) (addData (configMap p spec)) ⟨pk.ns, Naming.ruleDocument pk.name⟩ c)
      fun _ c' => (c.store .configMap).failing = true ∧ c' = c :=
  ends_upsert_addData (key_configMap hkey) (tagged_configMap hkey).manager
    (get?_configMap p spec) hc

end Rules

namespace Experiments

theorem matches_spec (d : ChaosEngine) :
    Matches (k := .chaosEngine) (fun _ => d.spec) (· = d.spec) (fun _ _ => True) where
  content_iff _ := eq_comm
  keeps _ := trivial
  refl _ := trivial
  status _ := rfl

theorem ends_upsert_spec {d : ChaosEngine} (hkey : d.key = .ok key)
    (hlabel : d.metadata.labels.bind (·.get? label) = some value)
    (hc : (c.store .chaosEngine).All Object.Registered) :
    Ends (upsert d fun next => { next with spec := d.spec }) c
      (Lawful (· = d.spec) (fun _ _ => True) d (fun next => { next with spec := d.spec }) key c)
      fun _ c' => (c.store .chaosEngine).failing = true ∧ c' = c := by
  obtain ⟨labels, hlabels, -⟩ := Option.bind_eq_some_iff.1 hlabel
  exact ends_upsert_lawful (brings_spec hlabels) (matches_spec d) hkey hc hlabel

/-- What an experiment of a policy is upserted to. -/
theorem lawful_chaosEngine (hkey : p.key = .ok pk)
    (hc : (c.store .chaosEngine).All Object.Registered) :
    Ends (upsert (chaosEngine p e) fun next => { next with spec := (chaosEngine p e).spec }) c
      (Lawful (· = (chaosEngine p e).spec) (fun _ _ => True) (chaosEngine p e)
        (fun next => { next with spec := (chaosEngine p e).spec }) (place p e) c)
      fun _ c' => (c.store .chaosEngine).failing = true ∧ c' = c :=
  ends_upsert_spec (key_chaosEngine p e) (tagged_chaosEngine hkey e).manager hc

end Experiments

/-- An upsert does what it should, to config maps as the rules of a policy are written and to chaos
engines as its experiments are. It fails only while writes are made to fail. -/
theorem lawful_upsert (hc : c.Reached) :
    (∀ (d : ConfigMap) (key : Key), d.key = .ok key →
      (∃ label value, d.metadata.labels.bind (·.get? label) = some value) →
      (∃ document, d.spec.bind (·.get? Naming.rulesKey) = some document) →
      Ends (upsert d (Rules.addData d)) c
        (Lawful (Includes · d.spec) (SameBeyond d.spec) d (Rules.addData d) key c)
        fun _ c' => (c.store .configMap).failing = true ∧ c' = c) ∧
    ∀ (d : ChaosEngine) (key : Key), d.key = .ok key →
      (∃ label value, d.metadata.labels.bind (·.get? label) = some value) →
      Ends (upsert d fun next => { next with spec := d.spec }) c
        (Lawful (· = d.spec) (fun _ _ => True) d (fun next => { next with spec := d.spec }) key c)
        fun _ c' => (c.store .chaosEngine).failing = true ∧ c' = c :=
  ⟨fun _ _ hkey ⟨_, _, hlabel⟩ ⟨_, hdata⟩ =>
      Rules.ends_upsert_addData hkey hlabel hdata (hc.registered .configMap),
    fun _ _ hkey ⟨_, _, hlabel⟩ =>
      Experiments.ends_upsert_spec hkey hlabel (hc.registered .chaosEngine)⟩

end

namespace Upserts.Sample

def policy : Policy where
  metadata := { name := some "shells", ns := some "shop", uid := some "41" }
  spec := { type := "falco", enabled := true }

/-- What the policy asks for, with no rule. -/
def rules : ConfigMap := Rules.configMap policy { rules := [] }

def key : Key := ⟨"shop", Naming.ruleDocument "shells"⟩

/-- A config map of someone else's under the same key. -/
def foreign : ConfigMap where
  metadata := {
    name := some key.name
    ns := some key.ns
    labels := some (.ofList [("team", "shop")])
    finalizers := some ["shop/hold"] }
  spec := some (.ofList [("notes", "ours")])

def occupied : Cluster := (ClusterM.create foreign {}).2

theorem reached_occupied : occupied.Reached :=
  Cluster.reached_empty.later ((ClusterM.later_create foreign).state {})

end Upserts.Sample

open Upserts.Sample in
/-- The rules are added to what someone else has filed. -/
theorem lawful_upsert_sample :
    Ends (upsert rules (Rules.addData rules)) occupied
      (fun _ c' => ∃ o : ConfigMap, Cluster.Filed key (some o) occupied c' ∧
        Includes o.spec rules.spec ∧ o.metadata.labels.bind (·.get? "team") = some "shop" ∧
        o.metadata.finalizers = some ["shop/hold"])
      fun _ _ => False := by
  have hkey : policy.key = .ok ⟨"shop", "shells"⟩ := rfl
  have hlabel : rules.metadata.labels.bind (·.get? Labels.managedBy) = some Labels.manager :=
    (Rules.tagged_configMap hkey).manager
  have hdata : ∃ document, rules.spec.bind (·.get? Naming.rulesKey) = some document :=
    ⟨_, Rules.get?_configMap policy { rules := [] }⟩
  refine ((lawful_upsert reached_occupied).1 rules key rfl ⟨_, _, hlabel⟩ hdata).mono
    (fun _ c' h => ?_) fun _ _ h => nomatch h.1
  obtain ⟨o, hfiled, hholds, hkept⟩ := h.stored
  have hkept := hkept (Store.created foreign ⟨0, 0⟩ 1) rfl
  refine ⟨o, hfiled, hholds.spec, ?_, hkept.finalizers⟩
  rw [hkept.labels "team" (by decide)]
  rfl

end Engine

end PolicyOperator
