import PolicyOperator.Proofs.Lifecycle.Managed
import PolicyOperator.Proofs.Lifecycle.Policy

/-!
# Objects that are not valid

A sync begins with a check of the object, and an object that does not pass it is left at that: the
drive returns the error of the check, which is terminal, and writes nothing but the object's status
(`rejected_of_invalid`). The note on the status is a best effort. Whether it was written does not show in
the answer.

* `Terminal x`: whatever `x` fails with is terminal. The checks of both kinds are of this sort
  (`Package.terminal_validate`, `PolicyLifecycle.terminal_engineFor`).
* `Condition.Put c l l'`: the condition `c` stands where the first one of its type stood.
* `Posted o status c c'`: the status was written, or the write was refused.
-/

namespace PolicyOperator

/-! ## Terminal checks -/

section
variable {α β : Type} {x : Except Error α}

/-- Only an edit helps against what the check fails with. -/
def Terminal (x : Except Error α) : Prop := ∀ e, x = .error e → e.isTerminal = true

theorem terminal_ok (a : α) : Terminal (.ok a) := nofun

theorem terminal_throw {e : Error} (h : e.isTerminal = true) :
    Terminal (throw e : Except Error α) := by
  rintro _ ⟨⟩
  exact h

theorem Terminal.bind {f : α → Except Error β} (hx : Terminal x) (hf : ∀ a, Terminal (f a)) :
    Terminal (x >>= f) := by
  cases x with
  | error e =>
    intro e' he
    exact hx e' (by cases he; rfl)
  | ok a => exact hf a

/-- A check that fails when a condition holds, before all others. -/
theorem Terminal.unless {c : Prop} [Decidable c] {e : Error} {f : PUnit → Except Error β}
    (he : e.isTerminal = true) (hf : ∀ u, Terminal (f u)) :
    Terminal (if c then (throw e : Except Error PUnit) >>= f else f ⟨⟩) := by
  split
  · exact (terminal_throw he).bind hf
  · exact hf _

theorem Terminal.forM {f : α → Except Error PUnit} {l : List α} (hf : ∀ a, Terminal (f a)) :
    Terminal (l.forM f) := by
  induction l with
  | nil => exact terminal_ok _
  | cons a l ih => exact (hf a).bind fun _ => ih

end

theorem ToolKind.terminal_ofName (name : String) : Terminal (ofName name) :=
  fun _ h => PolicyLifecycle.isTerminal_of_ofName h

theorem Package.terminal_validate (t : Tool) : Terminal (validate t) := by
  refine (ToolKind.terminal_ofName _).bind fun kind => ?_
  split
  · exact .unless rfl fun _ => terminal_ok _
  · exact terminal_ok _

theorem PolicySpec.terminal_typed (s : PolicySpec) : Terminal s.typed := by
  refine (ToolKind.terminal_ofName _).bind fun kind => .unless rfl fun _ => ?_
  dsimp only
  split
  · exact terminal_ok _
  · exact terminal_throw rfl

namespace Engine

variable (p : Policy)

theorem Rules.terminal_specOf : Terminal (specOf p) :=
  p.spec.terminal_typed.bind fun part => by
    cases part with
    | falco => exact terminal_ok _
    | trivy | litmus => exact terminal_throw rfl

theorem Rules.terminal_validate : Terminal (Rules.validate p) := by
  refine (terminal_specOf p).bind fun spec => .unless rfl fun _ => .forM fun (rule, i) => ?_
  refine .forM fun (field, value) => ?_
  dsimp only
  split
  · exact terminal_throw rfl
  · exact terminal_ok _

theorem Scans.terminal_specOf : Terminal (specOf p) :=
  p.spec.terminal_typed.bind fun part => by
    cases part with
    | trivy => exact terminal_ok _
    | falco | litmus => exact terminal_throw rfl

theorem Scans.terminal_validate : Terminal (Scans.validate p) := by
  refine (terminal_specOf p).bind fun spec => .unless rfl fun _ => .forM fun (scan, i) => ?_
  dsimp only
  split
  · exact terminal_throw rfl
  · split
    · exact terminal_throw rfl
    · exact terminal_ok _

theorem Experiments.terminal_specOf : Terminal (specOf p) :=
  p.spec.terminal_typed.bind fun part => by
    cases part with
    | litmus => exact terminal_ok _
    | falco | trivy => exact terminal_throw rfl

theorem Experiments.terminal_validate : Terminal (Experiments.validate p) := by
  refine (terminal_specOf p).bind fun spec => .unless rfl fun _ => .forM fun (e, i) => ?_
  dsimp only
  split
  · exact terminal_throw rfl
  · split
    · exact terminal_throw rfl
    · split
      · exact terminal_throw rfl
      · exact terminal_ok _

theorem terminal_validate (kind : ToolKind) : Terminal (validate kind p) := by
  cases kind with
  | falco => exact Rules.terminal_validate p
  | trivy => exact Scans.terminal_validate p
  | litmus => exact Experiments.terminal_validate p

end Engine

/-! ## Conditions -/

namespace Condition

/-- The condition stands in the place of the first one of its type, or behind all when there was
none. The others are as they were. -/
def Put (c : Condition) (l l' : List Condition) : Prop :=
  ∃ before after, (∀ x ∈ before, x.type ≠ c.type) ∧ l' = before ++ c :: after ∧
    (l = before ∧ after = [] ∨ ∃ old, old.type = c.type ∧ l = before ++ old :: after)

theorem Put.wholeSeconds {c : Condition} {l l' : List Condition} (h : Put c l l') :
    Put c.wholeSeconds (l.map Condition.wholeSeconds) (l'.map Condition.wholeSeconds) := by
  obtain ⟨before, after, hother, rfl, h⟩ := h
  refine ⟨before.map Condition.wholeSeconds, after.map Condition.wholeSeconds, ?_, by simp, ?_⟩
  · intro x hx
    obtain ⟨y, hy, rfl⟩ := List.mem_map.1 hx
    exact hother y hy
  · obtain ⟨rfl, rfl⟩ | ⟨old, hold, rfl⟩ := h
    · exact .inl ⟨rfl, rfl⟩
    · exact .inr ⟨old.wholeSeconds, hold, by simp⟩

/-- What recording a finding puts where. -/
theorem put_record (f : Finding) (now : Instant) (l : List Condition) :
    ∃ t, Put (f.condition t) l (record f now l) := by
  induction l with
  | nil => exact ⟨now, [], [], nofun, rfl, .inl ⟨rfl, rfl⟩⟩
  | cons c rest ih =>
    by_cases htype : c.type = f.type
    · refine ⟨if c.status = f.status then c.lastTransitionTime else now, [], rest, nofun, ?_,
        .inr ⟨c, htype, rfl⟩⟩
      simp only [record, htype, if_true]
      rfl
    · obtain ⟨t, before, after, hother, hrecord, h⟩ := ih
      refine ⟨t, c :: before, after, ?_, ?_, ?_⟩
      · exact List.forall_mem_cons.2 ⟨htype, hother⟩
      · simp only [record, htype, if_false, hrecord, List.cons_append]
      · obtain ⟨rfl, hafter⟩ | ⟨old, hold, rfl⟩ := h
        · exact .inl ⟨rfl, hafter⟩
        · exact .inr ⟨old, hold, rfl⟩

/-- The conditions say why the object was rejected. Times are compared at whole seconds. -/
def Noted (e : Error) (l l' : List Condition) : Prop :=
  ∃ c, c.type = ready ∧ c.status = "False" ∧ c.reason = "ValidationFailed" ∧
    c.message = e.message ∧ Put c (l.map Condition.wholeSeconds) (l'.map Condition.wholeSeconds)

theorem noted_record {e : Error} {f : Finding} (htype : f.type = ready) (hhealthy : f.healthy = false)
    (hreason : f.reason = "ValidationFailed") (hmessage : f.message = e.message) (now : Instant)
    (l : List Condition) : Noted e l (record f now l) := by
  obtain ⟨t, hput⟩ := put_record f now l
  have hstatus : f.status = "False" := by rw [Finding.status, hhealthy]; rfl
  exact ⟨(f.condition t).wholeSeconds, htype, hstatus, hreason, hmessage, hput.wholeSeconds⟩

theorem Noted.wholeSeconds {e : Error} {l l' : List Condition} (h : Noted e l l') :
    Noted e l (l'.map Condition.wholeSeconds) := by
  simpa [Noted, Function.comp_def] using h

end Condition

/-! ## Noted rejections -/

/-- The status of a tool says why the tool was rejected, and is as it was otherwise. -/
structure ToolStatus.Noted (e : Error) (s s' : ToolStatus) : Prop where
  installed : s'.installed = s.installed
  healthy : s'.healthy = s.healthy
  version : s'.version = s.version
  conditions : Condition.Noted e s.conditions s'.conditions

/-- The status of a policy says that and why the policy was rejected, and is as it was otherwise. -/
structure PolicyStatus.Noted (e : Error) (s s' : PolicyStatus) : Prop where
  phase : s'.phase = some .invalid
  lastReport : s'.lastReport = s.lastReport
  observedGeneration : s'.observedGeneration = s.observedGeneration
  conditions : Condition.Noted e s.conditions s'.conditions

/-- The metadata without the version, at whole seconds. -/
def Metadata.unversioned (m : Metadata) : Metadata :=
  { m.wholeSeconds with resourceVersion := none }

namespace Managed

/-- The check that comes before all else in a sync fails. -/
def Rejects : (m : Managed) → Object m.kind → Error → Prop
  | .tool, t, e => Package.validate t = .error e
  | .policy, p, e => Engine.ofPolicy p = .error e ∨
      ∃ kind, Engine.ofPolicy p = .ok kind ∧ Engine.validate kind p = .error e

/-- A status that notes a rejection. An object without a status had an empty one. -/
def Notes : (m : Managed) → Error → Option m.kind.Status → m.kind.Status → Prop
  | .tool, e, s, s' => ToolStatus.Noted e (s.getD {}) s'
  | .policy, e, s, s' => PolicyStatus.Noted e (s.getD {}) s'

theorem Notes.wholeSeconds {m : Managed} {e : Error} {s : Option m.kind.Status} {s' : m.kind.Status}
    (h : m.Notes e s s') : m.Notes e s (m.kind.statusWholeSeconds s') := by
  cases m with
  | tool => exact ⟨h.installed, h.healthy, h.version, h.conditions.wholeSeconds⟩
  | policy => exact ⟨h.phase, h.lastReport, h.observedGeneration, h.conditions.wholeSeconds⟩

end Managed

/-- The same object, but for a status that notes its rejection. -/
structure Object.Noted {m : Managed} (e : Error) (o o' : Object m.kind) : Prop where
  spec : o'.spec = o.spec
  metadata : o'.metadata.unversioned = o.metadata.unversioned
  status : ∃ status, o'.status = some status ∧ m.Notes e o.status status

/-- What driving a rejected object comes to. -/
structure Rejected {m : Managed} (o : Object m.kind) (e : Error) (pl : Platform)
    (result : Except Error Transition × Platform) : Prop where
  answer : result.1 = .error e
  terminal : e.isTerminal = true
  /-- It is not tried again. -/
  final : e.requeueAfter = none
  /-- Nothing but the store of the object's kind is written: no other object, no namespace, and the
  charts are not called. -/
  elsewhere : result.2 =
    { pl with cluster := pl.cluster.setStore m.kind (result.2.cluster.store m.kind) }
  others : ∀ key, o.key ≠ .ok key →
    (result.2.cluster.store m.kind).objects.get? key =
      (pl.cluster.store m.kind).objects.get? key
  /-- The stored object notes the rejection, unless writes are made to fail. -/
  noted : ∀ key, o.key = .ok key → (pl.cluster.store m.kind).objects.get? key = some o →
    ∃ o', (result.2.cluster.store m.kind).objects.get? key = some o' ∧
      (o.Noted e o' ∨ (pl.cluster.store m.kind).failing = true ∧ o' = o)

/-! ## Writing a status -/

section
variable {k : ResourceKind}

/-- The status of an object was written, or the write was refused. -/
structure Posted (o : Object k) (status : k.Status) (c c' : Cluster) : Prop where
  elsewhere : c' = c.setStore k (c'.store k)
  others : ∀ key, o.key ≠ .ok key →
    (c'.store k).objects.get? key = (c.store k).objects.get? key
  driven : ∀ key, o.key = .ok key → (c.store k).objects.get? key = some o →
    (c.store k).failing = true ∧ (c'.store k).objects.get? key = some o ∨
    ∃ o' status', (c'.store k).objects.get? key = some o' ∧ o'.spec = k.specWholeSeconds o.spec ∧
      o'.metadata.unversioned = o.metadata.unversioned ∧ o'.status = some status' ∧
      (status' = status ∨ status' = k.statusWholeSeconds status)

theorem Cluster.setStore_store (c : Cluster) (k : ResourceKind) : c.setStore k (c.store k) = c := by
  cases k <;> rfl

theorem ClusterM.posted_replaceStatus (o : Object k) (status : k.Status) (c : Cluster) :
    Ends (replaceStatus { o with status := some status }) c (fun _ => Posted o status c)
      fun _ => Posted o status c := by
  refine ends_ofStore.2 ⟨fun o' s h => ?_, fun e h => ?_⟩
  · obtain ⟨-, key, current, hkey, hcurrent, -, ho', -⟩ := Store.replaceStatus_eq_ok_iff.1 h
    have hokey : o.key = .ok key := (Object.key_congr rfl rfl).trans hkey
    refine ⟨by rw [Cluster.store_setStore], fun key' hne => ?_, fun key' hkey' hstored => .inr ?_⟩
    · have hother : key' ≠ key := fun he => hne (he ▸ hokey)
      rw [Cluster.store_setStore, Store.get?_replaceStatus h hkey, if_neg hother]
    · obtain rfl : key = key' := by simpa [hokey] using hkey'
      obtain rfl : current = o := Option.some.inj (hcurrent.symm.trans hstored)
      refine ⟨o', _, ?_, by rw [ho']; rfl, ?_, by rw [ho']; rfl, .inr rfl⟩
      · rw [Cluster.store_setStore, Store.get?_replaceStatus h hkey, if_pos rfl]
      · rw [ho']
        simp [Store.withStatus, Object.wholeSeconds, Metadata.unversioned, Metadata.wholeSeconds,
          Function.comp_def]
  · refine ⟨(c.setStore_store k).symm, fun _ _ => rfl, fun key hkey hstored => .inl ⟨?_, hstored⟩⟩
    exact failing_of_error h fun hwritable => ⟨_, Store.replaceStatus_eq_ok_iff.2
      ⟨hwritable, key, o, (Object.key_congr rfl rfl).trans hkey, hstored, fun _ hv => hv, rfl, rfl⟩⟩

/-- The status is there already. -/
theorem Posted.same {o : Object k} {status : k.Status} (h : o.status = some status) (c : Cluster)
    (hspec : k.specWholeSeconds o.spec = o.spec) : Posted o status c c where
  elsewhere := (c.setStore_store k).symm
  others _ _ := rfl
  driven _ _ hstored := .inr ⟨o, status, hstored, hspec.symm, rfl, h, .inl rfl⟩

end

/-! ## Rejections -/

open PlatformM

/-- A sync that ends with the error of a check, and a status that notes it. -/
theorem rejected_of_posted {m : Managed} {l : Lifecycle m.kind} {o : Object m.kind} {e : Error}
    {pl : Platform} {status : m.kind.Status} (hstep : (l.observe o).step = .sync)
    (hterminal : e.isTerminal = true) (hnotes : m.Notes e o.status status)
    (hsync : Ends (l.sync o) pl (fun _ _ => False) fun e' pl' =>
      e' = e ∧ pl' = { pl with cluster := pl'.cluster } ∧ Posted o status pl.cluster pl'.cluster) :
    Rejected o e pl (l.drive o pl) := by
  have hdrive : Ends (l.drive o) pl (fun _ _ => False) fun e' pl' =>
      e' = e ∧ pl' = { pl with cluster := pl'.cluster } ∧
        Posted o status pl.cluster pl'.cluster := by
    unfold Lifecycle.drive
    rw [hstep]
    simpa only [ends_bind, ends_pure] using hsync
  rcases hresult : l.drive o pl with ⟨e' | transition, pl'⟩
  · obtain ⟨rfl, hrest, hposted⟩ := hdrive.error hresult
    refine ⟨rfl, hterminal, by rw [Error.requeueAfter, if_pos hterminal], ?_, hposted.others,
      fun key hkey hstored => ?_⟩
    · calc pl' = { pl with cluster := pl'.cluster } := hrest
        _ = { pl with cluster := pl.cluster.setStore m.kind (pl'.cluster.store m.kind) } := by
          rw [← hposted.elsewhere]
    · obtain ⟨hfailing, hsame⟩ | ⟨o', status', ho', hspec, hmetadata, hstatus, heq⟩ :=
        hposted.driven key hkey hstored
      · exact ⟨o, hsame, .inr ⟨hfailing, rfl⟩⟩
      · refine ⟨o', ho', .inl ⟨hspec.trans (m.specWholeSeconds _), hmetadata, status', hstatus, ?_⟩⟩
        obtain rfl | rfl := heq
        · exact hnotes
        · exact hnotes.wholeSeconds
  · exact (hdrive.ok hresult).elim

namespace ToolLifecycle

variable (t : Tool) (e : Error) (pl : Platform)

/-- The status of a rejected tool. -/
def rejectedStatus (now : Instant) : ToolStatus := failedStatus t "ValidationFailed" e now

theorem noted_rejectedStatus (now : Instant) :
    ToolStatus.Noted e (t.status.getD {}) (rejectedStatus t e now) where
  installed := rfl
  healthy := rfl
  version := rfl
  conditions := Condition.noted_record rfl rfl rfl rfl now _

theorem ends_rejected :
    Ends (recordFailure t "ValidationFailed" e) pl
      (fun _ pl' => pl' = { pl with cluster := pl'.cluster } ∧
        Posted t (rejectedStatus t e pl.cluster.clock) pl.cluster pl'.cluster)
      fun _ _ => False := by
  unfold recordFailure
  simp only [ends_bind, ends_get, ends_discard, ends_attempt]
  unfold publish
  split
  · next hsame => exact ⟨rfl, .same hsame _ rfl⟩
  · simp only [ends_discard, ends_onCluster]
    exact (ClusterM.posted_replaceStatus t _ pl.cluster).mono (fun _ _ h => ⟨trivial, h⟩)
      fun _ _ h => ⟨trivial, h⟩

theorem ends_sync_of_rejected {t : Tool} {e : Error} {pl : Platform} (settings : ToolSettings)
    (hrejects : Package.validate t = .error e) :
    Ends (sync settings t) pl (fun _ _ => False) fun e' pl' =>
      e' = e ∧ pl' = { pl with cluster := pl'.cluster } ∧
        Posted t (rejectedStatus t e pl.cluster.clock) pl.cluster pl'.cluster := by
  unfold sync
  rw [hrejects]
  simp only [ends_bind, ends_throw]
  exact (ends_rejected t e pl).mono (fun _ _ h => ⟨trivial, h⟩) fun _ _ h => h.elim

end ToolLifecycle

namespace PolicyLifecycle

variable (p : Policy) (e : Error) (pl : Platform)

/-- The status of a rejected policy. -/
def rejectedStatus (now : Instant) : PolicyStatus :=
  failedStatus p (some .invalid) "ValidationFailed" e now

theorem noted_rejectedStatus (now : Instant) :
    PolicyStatus.Noted e (p.status.getD {}) (rejectedStatus p e now) where
  phase := rfl
  lastReport := rfl
  observedGeneration := rfl
  conditions := Condition.noted_record rfl rfl rfl rfl now _

theorem ends_rejected :
    Ends (recordFailure p (some .invalid) "ValidationFailed" e) pl
      (fun _ pl' => pl' = { pl with cluster := pl'.cluster } ∧
        Posted p (rejectedStatus p e pl.cluster.clock) pl.cluster pl'.cluster)
      fun _ _ => False := by
  unfold recordFailure
  simp only [ends_bind, ends_get, ends_discard, ends_attempt, ends_onCluster]
  unfold publish
  split
  · next hsame => exact ⟨trivial, .same hsame _ rfl⟩
  · simp only [ends_discard]
    exact (ClusterM.posted_replaceStatus p _ pl.cluster).mono (fun _ _ h => ⟨trivial, h⟩)
      fun _ _ h => ⟨trivial, h⟩

theorem terminal_engineFor : Terminal (engineFor p) :=
  Terminal.bind (ToolKind.terminal_ofName p.spec.type) fun kind =>
    (Engine.terminal_validate p kind).bind fun _ => terminal_ok _

/-- The engine of a policy is not found, or does not accept the policy. -/
theorem engineFor_of_rejects {p : Policy} {e : Error} (h : Managed.Rejects .policy p e) :
    engineFor p = .error e := by
  unfold engineFor
  obtain h | ⟨kind, hkind, hvalid⟩ := h
  · rw [h]
    rfl
  · rw [hkind]
    show (Engine.validate kind p >>= fun _ => pure kind) = _
    rw [hvalid]
    rfl

theorem ends_sync_of_rejected {p : Policy} {e : Error} {pl : Platform}
    (hengine : engineFor p = .error e) :
    Ends (sync p) pl (fun _ _ => False) fun e' pl' =>
      e' = e ∧ pl' = { pl with cluster := pl'.cluster } ∧
        Posted p (rejectedStatus p e pl.cluster.clock) pl.cluster pl'.cluster := by
  unfold sync
  rw [hengine]
  simp only [ends_bind, ends_throw]
  exact (ends_rejected p e pl).mono (fun _ _ h => ⟨trivial, h⟩) fun _ _ h => h.elim

end PolicyLifecycle

/-- A managed object that is up for a sync and is not valid. -/
theorem rejected_of_invalid (settings : ToolSettings) {m : Managed} {o : Object m.kind} {e : Error}
    {pl : Platform} (hstep : ((m.lifecycle settings).observe o).step = .sync)
    (hrejects : m.Rejects o e) : Rejected o e pl ((m.lifecycle settings).drive o pl) := by
  cases m with
  | tool =>
    exact rejected_of_posted (m := .tool) hstep (Package.terminal_validate o e hrejects)
      (ToolLifecycle.noted_rejectedStatus o e pl.cluster.clock)
      (ToolLifecycle.ends_sync_of_rejected settings hrejects)
  | policy =>
    have hengine := PolicyLifecycle.engineFor_of_rejects hrejects
    exact rejected_of_posted (m := .policy) hstep (PolicyLifecycle.terminal_engineFor o e hengine)
      (PolicyLifecycle.noted_rejectedStatus o e pl.cluster.clock)
      (PolicyLifecycle.ends_sync_of_rejected hengine)

namespace Rejected

/-! ## A policy without a section and a tool with a text for values -/

def policy : Policy where
  metadata := {
    name := some "shells"
    ns := some "shop"
    finalizers := some [PolicyLifecycle.finalizer]
    ownerReferences := some [{ apiVersion := "", kind := "Tool", name := "falco", uid := "" }] }
  spec := { type := "falco", enabled := true }

def policyError : Error := .validation "spec.falco is required for type=falco"

def tool : Tool where
  metadata := {
    name := some "falco", ns := some "shop", finalizers := some [ToolLifecycle.finalizer] }
  spec := { type := "falco", enabled := true, values := some (.str "debug") }

def toolError : Error := .validation "tool values must be a mapping"

/-- Both are stored, and the statuses of tools cannot be written. -/
def platform : Platform where
  cluster := {
    tools := { objects := (∅ : SortedMap _ _).insert ⟨"shop", "falco"⟩ tool, failing := true }
    policies := { objects := (∅ : SortedMap _ _).insert ⟨"shop", "shells"⟩ policy } }

end Rejected

/-- Both are rejected, whether that can be noted or not. -/
theorem rejected_sample :
    ((Lifecycle.policy.observe Rejected.policy).step = .sync ∧
      ((Lifecycle.tool {}).observe Rejected.tool).step = .sync) ∧
    (Managed.Rejects .policy Rejected.policy Rejected.policyError ∧
      Managed.Rejects .tool Rejected.tool Rejected.toolError) ∧
    Rejected (m := .policy) Rejected.policy Rejected.policyError Rejected.platform
      (Lifecycle.policy.drive Rejected.policy Rejected.platform) ∧
    Rejected (m := .tool) Rejected.tool Rejected.toolError Rejected.platform
      ((Lifecycle.tool {}).drive Rejected.tool Rejected.platform) := by
  have hpolicy : Managed.Rejects .policy Rejected.policy Rejected.policyError :=
    .inr ⟨.falco, rfl, rfl⟩
  have htool : Managed.Rejects .tool Rejected.tool Rejected.toolError := rfl
  exact ⟨⟨rfl, rfl⟩, ⟨hpolicy, htool⟩, rejected_of_invalid (m := .policy) {} rfl hpolicy,
    rejected_of_invalid (m := .tool) {} rfl htool⟩

end PolicyOperator
