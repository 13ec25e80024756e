import PolicyOperator.Artifact

/-!
# Chaos engines of a policy

The litmus engine keeps one chaos engine per declared experiment. Engines may live outside the
policy's namespace, where an owner reference cannot reach, so labels alone tie them to the policy.
-/

namespace PolicyOperator

namespace Experiment

/-- A variable that is left out when its value is missing or empty. -/
def fixedEntry (name : String) : Option String → List EnvEntry
  | some value => if value = "" then [] else [⟨name, value⟩]
  | none => []

/-- The environment of an experiment: duration, mode, then the parameters in key order. -/
def env (e : Experiment) : List EnvEntry :=
  fixedEntry "TOTAL_CHAOS_DURATION" e.duration ++ fixedEntry "CHAOS_MODE" e.mode ++
    e.parameters.entries.map fun (name, value) => ⟨name, value⟩

/-- What the chaos operator is asked to do. -/
def engineSpec (e : Experiment) : ChaosEngineSpec where
  appinfo := { ns := e.appInfo.ns, label := e.appInfo.label, kind := e.appInfo.kind }
  engineState := .active
  experiments := [{ name := e.experimentRef, env := e.env }]

end Experiment

namespace Engine.Experiments

/-- The litmus section of a policy. -/
def specOf (p : Policy) : Except Error LitmusSpec := do
  match ← p.spec.typed with
  | .litmus spec => return spec
  | _ => throw (.validation "litmus engine received a non-litmus policy")

def validate (p : Policy) : Except Error Unit := do
  let spec ← specOf p
  if spec.experiments.isEmpty then
    throw (.validation "spec.litmus.experiments must contain at least one experiment")
  spec.experiments.zipIdx.forM fun (e, i) =>
    if e.name = "" then throw (.validation s!"litmus.experiments[{i}].name is required")
    else if e.experimentRef = "" then
      throw (.validation s!"litmus.experiments[{i}].experimentRef is required")
    else if e.appInfo.ns = "" ∨ e.appInfo.label = "" ∨ e.appInfo.kind = "" then
      throw (.validation s!"litmus.experiments[{i}].appInfo is incomplete")
    else pure ()

/-- The chaos engine of an experiment. -/
def chaosEngine (p : Policy) (e : Experiment) : ChaosEngine where
  metadata := {
    name := some (Naming.chaosEngine p.displayName e.name)
    ns := some (e.engineNamespace p.metadata.nsOrEmpty)
    labels := some (Artifact.labels p [(Labels.experimentName, e.name)]) }
  spec := e.engineSpec

end Engine.Experiments

namespace Access

variable [Monad m] (a : Access m)

/-- Brings an experiment's chaos engine up to date. -/
def ensureEngine (p : Policy) (e : Experiment) : m Unit := do
  let desired := Engine.Experiments.chaosEngine p e
  discard (a.upsert desired fun next => { next with spec := desired.spec })

/-- Stops at the first failure; the next time the whole list is gone through again. -/
def reconcileExperiments [MonadLiftT (Except Error) m] (p : Policy) : m Unit := do
  let spec ← Engine.Experiments.specOf p
  spec.experiments.forM (a.ensureEngine p)

end Access

namespace Engine.Experiments

/-- See `Access.ensureEngine`. -/
def ensureEngine (p : Policy) (e : Experiment) : ClusterM Unit := Access.direct.ensureEngine p e

/-- See `Access.reconcileExperiments`. -/
def reconcile (p : Policy) : ClusterM Unit := Access.direct.reconcileExperiments p

/-- Accepts the engines of a policy, in whatever namespace they are. -/
def selector (p : Policy) : Selector :=
  Labels.inNamespace (Labels.ofPolicyName p.displayName) p.metadata.nsOrEmpty

/-- Labels also find the engines of experiments that the policy declares no longer. -/
def cleanup (p : Policy) : ClusterM Unit := do
  (← ClusterM.list .chaosEngine none (selector p)).forM fun e =>
    discard (ClusterM.delete .chaosEngine e.metadata.nsOrEmpty e.displayName)
  discard (Artifact.deleteReports p)

end Engine.Experiments

end PolicyOperator
