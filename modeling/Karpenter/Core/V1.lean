import Mathlib.Data.List.AList

/-! The parts of the Kubernetes core `v1` API that the provisioning code reads. A Go
`map[string]string` is an association list with distinct keys; ranging over it visits the
entries in list order, which stands for Go's unspecified iteration order. -/

namespace Karpenter.V1

/-- A Go `map[string]string`. A `nil` map and an empty map read alike wherever this type
is used; the one field where the code tells them apart is an `Option StringMap`. -/
abbrev StringMap := AList fun _ : String => String

def labelHostname : String := "kubernetes.io/hostname"
def labelArchStable : String := "kubernetes.io/arch"
def labelOSStable : String := "kubernetes.io/os"
def labelTopologyZone : String := "topology.kubernetes.io/zone"
def labelInstanceTypeStable : String := "node.kubernetes.io/instance-type"

/-- `v1.NodeSelectorOperator`, one constructor per constant of the API. -/
inductive NodeSelectorOperator
  | opIn | opNotIn | opExists | opDoesNotExist | opGt | opLt
  deriving DecidableEq, Repr

structure NodeSelectorRequirement where
  key : String
  operator : NodeSelectorOperator
  values : List String
  deriving DecidableEq, Repr

/-- A node-selector term; its `MatchFields` are never read here. -/
structure NodeSelectorTerm where
  matchExpressions : List NodeSelectorRequirement
  deriving DecidableEq, Repr

/-- The API declares the weight an `int32`; the code only compares weights. -/
structure PreferredSchedulingTerm where
  weight : Int
  preference : NodeSelectorTerm
  deriving DecidableEq, Repr

structure NodeSelector where
  nodeSelectorTerms : List NodeSelectorTerm
  deriving DecidableEq, Repr

structure NodeAffinity where
  requiredDuringSchedulingIgnoredDuringExecution : Option NodeSelector
  preferredDuringSchedulingIgnoredDuringExecution : List PreferredSchedulingTerm
  deriving DecidableEq, Repr

/-- Pod affinity and anti-affinity are never read here. -/
structure Affinity where
  nodeAffinity : Option NodeAffinity
  deriving DecidableEq, Repr

structure Taint where
  key : String
  value : String
  effect : String
  deriving DecidableEq, Repr

/-- Operator and effect are Go strings; the empty string has a meaning of its own. -/
structure Toleration where
  key : String
  operator : String
  value : String
  effect : String
  deriving DecidableEq, Repr

structure PodSpec where
  nodeSelector : StringMap
  affinity : Option Affinity
  tolerations : List Toleration
  deriving DecidableEq

/-- A pod. The code reads its name only for a debug log line; it is kept so that two pods
with one spec stay two values, as two pointers do in Go. -/
structure Pod where
  name : String
  spec : PodSpec
  deriving DecidableEq

structure NodeCondition where
  type : String
  status : String
  deriving DecidableEq, Repr

/-- A node; a listing selects nodes by their labels, and the metrics read their conditions. -/
structure Node where
  name : String
  labels : StringMap
  conditions : List NodeCondition
  deriving DecidableEq

def nodeReady : String := "Ready"

/-- `(*Toleration).ToleratesTaint` of `k8s.io/api/core/v1`: an empty effect or key matches
any, an empty operator means `Equal`, and an unknown operator tolerates nothing. -/
def Toleration.toleratesTaint (t : Toleration) (taint : Taint) : Bool :=
  if t.effect ≠ "" ∧ t.effect ≠ taint.effect then false
  else if t.key ≠ "" ∧ t.key ≠ taint.key then false
  else match t.operator with
    | "" | "Equal" => t.value == taint.value
    | "Exists" => true
    | _ => false

/-- `labels.SelectorFromSet(selector).Matches(labels.Set(labels))`: every pair of the
selector is present, with the same value, in the labels. An empty selector matches all. -/
def selectorMatches (selector labels : StringMap) : Bool :=
  selector.entries.all fun e => labels.lookup e.1 == some e.2

/-- Whether labels meet a node-selector requirement, as the API defines its operators: `In`
and `NotIn` test the label's value against the values (`NotIn` also holds without the label),
`Exists` and `DoesNotExist` its presence, and `Gt` and `Lt` compare it, as an integer, with the
single value. The API's matching code is not part of this source. -/
def NodeSelectorRequirement.matches (r : NodeSelectorRequirement) (labels : StringMap) : Bool :=
  match r.operator, labels.lookup r.key, r.values with
  | .opIn, some value, values => values.contains value
  | .opNotIn, some value, values => !values.contains value
  | .opNotIn, none, _ => true
  | .opExists, some _, _ => true
  | .opDoesNotExist, none, _ => true
  | .opGt, some value, [bound] =>
    match value.toInt?, bound.toInt? with
    | some n, some b => b < n
    | _, _ => false
  | .opLt, some value, [bound] =>
    match value.toInt?, bound.toInt? with
    | some n, some b => n < b
    | _, _ => false
  | _, _, _ => false

/-- An `In` requirement with one value holds exactly when the label has that value. -/
@[simp] theorem NodeSelectorRequirement.matches_in_singleton (key value : String)
    (labels : StringMap) :
    (⟨key, .opIn, [value]⟩ : NodeSelectorRequirement).matches labels ↔
      labels.lookup key = some value := by
  unfold NodeSelectorRequirement.matches
  cases labels.lookup key <;> simp [eq_comm]

/-- The pod's preferred node-affinity terms; none without a node affinity. -/
def Pod.preferredTerms (pod : Pod) : List PreferredSchedulingTerm :=
  match pod.spec.affinity with
  | some ⟨some na⟩ => na.preferredDuringSchedulingIgnoredDuringExecution
  | _ => []

/-- The match expressions of the first required node-selector term, if there is one. -/
def NodeAffinity.firstRequiredRequirements (na : NodeAffinity) : List NodeSelectorRequirement :=
  match na.requiredDuringSchedulingIgnoredDuringExecution with
  | some ⟨term :: _⟩ => term.matchExpressions
  | _ => []

/-- The pod with its preferred terms replaced; a pod without a node affinity is unchanged. -/
def Pod.withPreferredTerms (pod : Pod) (terms : List PreferredSchedulingTerm) : Pod :=
  match pod.spec.affinity with
  | some ⟨some na⟩ =>
    let na := { na with preferredDuringSchedulingIgnoredDuringExecution := terms }
    { pod with spec := { pod.spec with affinity := some ⟨some na⟩ } }
  | _ => pod

theorem selectorMatches_iff (selector labels : StringMap) :
    selectorMatches selector labels = true ↔
      ∀ e ∈ selector.entries, labels.lookup e.1 = some e.2 := by
  simp [selectorMatches]

end Karpenter.V1
