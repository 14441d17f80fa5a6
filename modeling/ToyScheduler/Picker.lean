import ToyScheduler.Objects

/-!
`cmd/kube-scheduler/gpu_bestfit_picker.go`: the picker that places a pod on
the feasible node whose GPUs are already most requested (best fit).

The picker reaches the API server through `clientset`; here that is the
`GpuBestfitPicker` record: the pods the server holds, and which pod listings
fail. Go's map iteration order is an argument of every function that ranges
over a map. The lines a function writes to klog are computed by a definition
beside it, named after it with `Log`, from the same inputs.
-/

namespace ToyScheduler.Picker

open ToyScheduler.Go ToyScheduler.Objects

/-- A `GpuBestfitPicker`, as its `clientset` answers it: `pods` is the API
server's pod store and `listFails name` says whether the listing of the pods
on node `name` returns an error. -/
structure GpuBestfitPicker where
  pods : List Pod
  listFails : String → Bool

abbrev NodeToGpuResourceMap := GoMap Int64

def nvidiaGpu : String := "nvidia.com/gpu"

def getGpuRequest (resource : String) (requests : GoMap Quantity) : Int64 :=
  match requests.lookup resource with
  | none => 0
  | some quantity => quantity.value

def calculatePodGpuRequest (pod : Pod) : Int64 :=
  pod.spec.containers.foldl (fun podRequest container =>
    podRequest + getGpuRequest nvidiaGpu container.resources.requests) 0

/-- A line of klog output. `info` is `klog.Info` with its message;
`infoS` is `klog.InfoS` and `error` is `klog.Error` or `klog.ErrorS`, each with
its message and key/value pairs, values printed as Go prints them. The `err`
argument of the error calls is left out. -/
inductive LogEntry where
  | info (msg : String)
  | infoS (msg : String) (keysAndValues : List (String × String))
  | error (msg : String) (keysAndValues : List (String × String))
deriving DecidableEq

/-- A pod phase `calculateNodeGpuRequest` does not skip. -/
def isActivePhase (phase : String) : Bool := phase == "Pending" || phase == "Running"

namespace GpuBestfitPicker

/-- `clientset.CoreV1().Pods("").List` with the field selector
`spec.nodeName=<nodeName>`; `none` is the error. -/
def listPods (picker : GpuBestfitPicker) (nodeName : String) : Option (List Pod) :=
  if picker.listFails nodeName then none
  else some (picker.pods.filter fun pod => pod.spec.nodeName == nodeName)

/-- The loop of `calculateNodeGpuRequest`: finished pods are skipped. -/
def sumActiveGpuRequests (pods : List Pod) : Int64 :=
  pods.foldl (fun gpuRequested pod =>
    if pod.status.phase != "Pending" && pod.status.phase != "Running" then gpuRequested
    else gpuRequested + calculatePodGpuRequest pod) 0

/-- `calculateNodeGpuRequest`: a failed listing counts as no GPU in use. -/
def calculateNodeGpuRequest (picker : GpuBestfitPicker) (node : Node) : Int64 :=
  match picker.listPods node.name with
  | none => 0
  | some pods => sumActiveGpuRequests pods

/-- One iteration of the loop of `calculateNodesGpuState`. -/
def addNodeGpuState (picker : GpuBestfitPicker)
    (state : NodeToGpuResourceMap × NodeToGpuResourceMap) (node : Node) :
    NodeToGpuResourceMap × NodeToGpuResourceMap :=
  match node.status.allocatable.lookup nvidiaGpu with
  | none => (state.1.insert node.name 0, state.2.insert node.name 0)
  | some gpuAllocatable =>
      (state.1.insert node.name gpuAllocatable.value,
        state.2.insert node.name (picker.calculateNodeGpuRequest node))

def calculateNodesGpuState (picker : GpuBestfitPicker) (nodes : List Node) :
    NodeToGpuResourceMap × NodeToGpuResourceMap :=
  nodes.foldl picker.addNodeGpuState (GoMap.empty, GoMap.empty)

def calculateNodeGpuRequestLog (picker : GpuBestfitPicker) (node : Node) : List LogEntry :=
  match picker.listPods node.name with
  | none => [.error "failed to list pods of node" [("node", node.name)]]
  | some _ => []

/-- What one iteration of the loop of `calculateNodesGpuState` logs, reading
back the two map entries it has just written. -/
def addNodeGpuStateLog (picker : GpuBestfitPicker) (node : Node) : List LogEntry :=
  match node.status.allocatable.lookup nvidiaGpu with
  | none => []
  | some gpuAllocatable =>
      picker.calculateNodeGpuRequestLog node ++
        [.infoS "calculated node GPU" [("node", node.name),
          ("allocatable", toString gpuAllocatable.value),
          ("allocated", toString (picker.calculateNodeGpuRequest node))]]

def calculateNodesGpuStateLog (picker : GpuBestfitPicker) (nodes : List Node) : List LogEntry :=
  nodes.flatMap picker.addNodeGpuStateLog

end GpuBestfitPicker

/-- One iteration of the `range` loop of `SelectMostRequestedNodeForPod`:
`state` is `(selectedNode, maxNodeRequested)`, `entry` is `(node, gpu)`. -/
def selectStep (pod : Pod) (allocatable : NodeToGpuResourceMap)
    (state : String × Int64) (entry : String × Int64) : String × Int64 :=
  if entry.2 + calculatePodGpuRequest pod > allocatable.get entry.1 then state
  else if entry.2 > state.2 ∨ (entry.2 = 0 ∧ state.2 = 0) then entry
  else state

/-- `SelectMostRequestedNodeForPod`, its loop visiting `requested` in the
order `order` (the receiver is unused). -/
def selectMostRequestedNodeForPod (pod : Pod) (allocatable requested : NodeToGpuResourceMap)
    (order : requested.RangeOrder) : String :=
  (order.visits.foldl (selectStep pod allocatable) ("", 0)).1

def selectStepLog (pod : Pod) (allocatable : NodeToGpuResourceMap) (entry : String × Int64) :
    List LogEntry :=
  if entry.2 + calculatePodGpuRequest pod > allocatable.get entry.1 then
    [.infoS "node has insufficient GPU" [("node", entry.1),
      ("allocatable", toString (allocatable.get entry.1)), ("allocated", toString entry.2)]]
  else []

/-- What `SelectMostRequestedNodeForPod` logs: each node without room, in the
order of its loop, then the selected node. -/
def selectMostRequestedNodeForPodLog (pod : Pod) (allocatable requested : NodeToGpuResourceMap)
    (order : requested.RangeOrder) : List LogEntry :=
  order.visits.flatMap (selectStepLog pod allocatable) ++
    [.infoS "selected node" [("node", selectMostRequestedNodeForPod pod allocatable requested order)]]

/-- For every map, an order in which `range` visits it: Go's runtime picks one. -/
def RangeChoice : Type := (m : NodeToGpuResourceMap) → m.RangeOrder

/-- `Pick`, with its unused `ctx` and `args` left out. -/
def GpuBestfitPicker.pick (picker : GpuBestfitPicker) (order : RangeChoice) (pod : Pod)
    (nodes : List Node) : String :=
  let state := picker.calculateNodesGpuState nodes
  selectMostRequestedNodeForPod pod state.1 state.2 (order state.2)

/-- What `Pick` logs, in order: the lines of `calculateNodesGpuState`, then
those of `SelectMostRequestedNodeForPod`. -/
def GpuBestfitPicker.pickLog (picker : GpuBestfitPicker) (order : RangeChoice) (pod : Pod)
    (nodes : List Node) : List LogEntry :=
  let state := picker.calculateNodesGpuState nodes
  picker.calculateNodesGpuStateLog nodes ++
    selectMostRequestedNodeForPodLog pod state.1 state.2 (order state.2)

section GpuCluster

def oneGpu : Quantity := ⟨1, by decide⟩

def twoGpus : Quantity := ⟨2, by decide⟩

/-- `2^62` GPUs: twice that overflows `int64`. -/
def halfRangeGpus : Quantity := ⟨⟨2 ^ 62, by decide, by decide⟩, by decide⟩

def gpuResources (quantity : Quantity) : GoMap Quantity :=
  ⟨[(nvidiaGpu, quantity)], List.nodup_singleton _⟩

def gpuNode (quantity : Quantity) : Node := ⟨"gpu-node", GoMap.empty, ⟨gpuResources quantity⟩⟩

/-- A pod of the toy scheduler in namespace `default`, with one container
requesting `quantity` GPUs. -/
def gpuPod (name nodeName phase : String) (quantity : Quantity) : Pod :=
  ⟨name, "default", name, ⟨nodeName, "toyscheduler", GoMap.empty, [⟨⟨gpuResources quantity⟩⟩]⟩,
    ⟨phase⟩⟩

end GpuCluster

end ToyScheduler.Picker
