import ToyScheduler.Go

namespace ToyScheduler.Objects

open ToyScheduler.Go

/-- A `resource.Quantity`, through the one method the scheduler calls on it,
`Value()`. API validation rejects negative container requests and negative
node allocatable amounts, so every quantity the scheduler reads is
non-negative. -/
structure Quantity where
  value : Int64
  value_nonneg : 0 ≤ value.val

structure ResourceRequirements where
  requests : GoMap Quantity

structure Container where
  resources : ResourceRequirements

structure PodSpec where
  nodeName : String
  schedulerName : String
  nodeSelector : GoMap String
  containers : List Container

structure PodStatus where
  phase : String

structure Pod where
  name : String
  /-- `Namespace`. -/
  ns : String
  uid : String
  spec : PodSpec
  status : PodStatus

structure NodeStatus where
  allocatable : GoMap Quantity

structure Node where
  name : String
  labels : GoMap String
  status : NodeStatus

structure ObjectReference where
  apiVersion : String := ""
  kind : String := ""
  name : String := ""
  ns : String := ""
  uid : String := ""
deriving DecidableEq

/-- `v1.Binding`: the binding's own name and namespace, and its target. -/
structure Binding where
  name : String
  ns : String
  target : ObjectReference
deriving DecidableEq

/-- `v1.Event`, without its two timestamps. -/
structure Event where
  count : Nat
  type : String
  reason : String
  message : String
  sourceComponent : String
  involvedObject : ObjectReference
  generateName : String
deriving DecidableEq

namespace Pod

/-- The API server names a pod by its namespace and name. -/
def key (pod : Pod) : String × String := (pod.ns, pod.name)

@[simp] theorem key_mk (name ns uid : String) (spec : PodSpec) (status : PodStatus) :
    (Pod.mk name ns uid spec status).key = (ns, name) := rfl

end Pod

/-- `labels.SelectorFromSet(set).Matches(labels)`: every key of `set` is a
label with the same value; the empty set selects everything. -/
def selectorMatches (set labels : GoMap String) : Bool :=
  set.entries.all fun e => labels.lookup e.1 == some e.2

theorem selectorMatches_iff (set labels : GoMap String) :
    selectorMatches set labels = true ↔
      ∀ k v, set.lookup k = some v → labels.lookup k = some v := by
  simp only [selectorMatches, List.all_eq_true, beq_iff_eq, GoMap.lookup_eq_some_iff]
  exact ⟨fun h k v hkv => h (k, v) hkv, fun h e he => h e.1 e.2 he⟩

end ToyScheduler.Objects
