import PolicyOperator.Cluster

/-!
# Sampled evidence

A report may show some pods drawn at random from the namespaces that hold neither system nor tool
workloads. The draws follow from a seed.
-/

namespace PolicyOperator

/-- A pod as evidence shows it. -/
structure PodDetail where
  podName : String
  ns : String
  containers : List String
  deriving DecidableEq, Repr

namespace PodDetail

def ofPod (p : Pod) : PodDetail where
  podName := p.displayName
  ns := p.metadata.nsOrEmpty
  containers := match p.spec with
    | some spec => spec.containers.map Container.name
    | none => []

def toJson (d : PodDetail) : Json := .object [
  ("containers", Json.ofTexts d.containers),
  ("namespace", .str d.ns),
  ("podName", .str d.podName)]

end PodDetail

/-- A source of random numbers. -/
structure Sampler where
  state : UInt64 := 0
  deriving DecidableEq, Repr

namespace Sampler

/-- A source that always draws the same for a seed. -/
def ofSeed (seed : Nat) : Sampler := ⟨UInt64.ofNat seed⟩

/-- Namespaces that no evidence is drawn from. -/
def excludedNamespaces : List String :=
  ["kube-system", "eirenyx-system", "falco", "litmus", "trivy-system"]

/-- Finding counts are below this. -/
def maxFindings : Nat := 5

/-- The next random word: the state moves on by a fixed step, and its bits are mixed. -/
def next (s : Sampler) : UInt64 × Sampler :=
  let state := s.state + 0x9E3779B97F4A7C15
  let a := (state ^^^ (state >>> 30)) * 0xBF58476D1CE4E5B9
  let b := (a ^^^ (a >>> 27)) * 0x94D049BB133111EB
  (b ^^^ (b >>> 31), ⟨state⟩)

/-- A random number below a bound; zero when there is none. -/
def below (s : Sampler) (bound : Nat) : Nat × Sampler :=
  let (word, s) := s.next
  (word.toNat % bound, s)

/-- A random count of findings. -/
def findingCount (s : Sampler) : Nat × Sampler := s.below maxFindings

/-- Up to `count` items at different places of a list, drawn one after the other. -/
def choose (s : Sampler) : (count : Nat) → List α → List α × Sampler
  | 0, _ => ([], s)
  | _, [] => ([], s)
  | count + 1, x :: xs =>
    let (i, s) := s.below (x :: xs).length
    let (rest, s) := s.choose count ((x :: xs).eraseIdx i)
    ((x :: xs)[i]?.toList ++ rest, s)

end Sampler

/-- The pods that evidence may show. -/
def Cluster.eligiblePods (c : Cluster) : List PodDetail :=
  ((c.pods.list none ∅).filter fun p =>
    !Sampler.excludedNamespaces.contains p.metadata.nsOrEmpty).map PodDetail.ofPod

end PolicyOperator
