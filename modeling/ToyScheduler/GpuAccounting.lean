import ToyScheduler.SelectMostRequested

namespace ToyScheduler.GpuAccounting

open ToyScheduler.Go ToyScheduler.Objects ToyScheduler.Picker ToyScheduler.SelectMostRequested

/-- The exact GPU request of a pod: the sum over its containers of their
`nvidia.com/gpu` requests. -/
def podGpuRequest (pod : Pod) : Int :=
  (pod.spec.containers.map fun c => (getGpuRequest nvidiaGpu c.resources.requests).val).sum

/-- The GPUs `pod` holds on node `nodeName`: its request when it is bound
there and is Pending or Running. -/
def gpuHeldOn (nodeName : String) (pod : Pod) : Int :=
  if pod.spec.nodeName = nodeName ∧ isActivePhase pod.status.phase then podGpuRequest pod else 0

/-- The exact GPU request of the Pending or Running pods bound to `nodeName`. -/
def activeGpuRequest (pods : List Pod) (nodeName : String) : Int :=
  (pods.map (gpuHeldOn nodeName)).sum

/-- A node's allocatable GPU count, `0` when it has no `nvidia.com/gpu`. -/
def allocatableGpu (node : Node) : Int :=
  match node.status.allocatable.lookup nvidiaGpu with
  | none => 0
  | some gpuAllocatable => gpuAllocatable.value.val

theorem getGpuRequest_nonneg (resource : String) (requests : GoMap Quantity) :
    0 ≤ (getGpuRequest resource requests).val := by
  unfold getGpuRequest
  split
  · simp
  · next quantity _ => exact quantity.value_nonneg

theorem podGpuRequest_nonneg (pod : Pod) : 0 ≤ podGpuRequest pod :=
  List.sum_nonneg (by simp [getGpuRequest_nonneg])

theorem gpuHeldOn_nonneg (nodeName : String) (pod : Pod) : 0 ≤ gpuHeldOn nodeName pod := by
  unfold gpuHeldOn
  split
  · exact podGpuRequest_nonneg pod
  · exact le_rfl

theorem gpuHeldOn_le (nodeName : String) (pod : Pod) :
    gpuHeldOn nodeName pod ≤ podGpuRequest pod := by
  unfold gpuHeldOn
  split
  · exact le_rfl
  · exact podGpuRequest_nonneg pod

theorem activeGpuRequest_nonneg (pods : List Pod) (nodeName : String) :
    0 ≤ activeGpuRequest pods nodeName :=
  List.sum_nonneg (by simp [gpuHeldOn_nonneg])

theorem allocatableGpu_nonneg (node : Node) : 0 ≤ allocatableGpu node := by
  unfold allocatableGpu
  split
  · exact le_rfl
  · next quantity _ => exact quantity.value_nonneg

theorem allocatableGpu_lt (node : Node) : allocatableGpu node < 2 ^ 63 := by
  unfold allocatableGpu
  split
  · decide
  · next quantity _ => exact quantity.value.val_lt

theorem val_calculatePodGpuRequest (pod : Pod) :
    (calculatePodGpuRequest pod).val = wrap (podGpuRequest pod) := by
  simp [calculatePodGpuRequest, podGpuRequest, Int64.val_foldl_add]

private theorem skip_eq_not_isActivePhase (phase : String) :
    (phase != "Pending" && phase != "Running") = !isActivePhase phase := by
  simp only [isActivePhase, bne, Bool.not_or]

private theorem val_foldl_sumActive (pods : List Pod) (acc : Int64) :
    (pods.foldl (fun gpuRequested pod =>
      if pod.status.phase != "Pending" && pod.status.phase != "Running" then gpuRequested
      else gpuRequested + calculatePodGpuRequest pod) acc).val =
    wrap (acc.val + (pods.map fun pod =>
      if isActivePhase pod.status.phase then podGpuRequest pod else 0).sum) := by
  induction pods generalizing acc with
  | nil => simp
  | cons pod pods ih =>
      by_cases hactive : isActivePhase pod.status.phase
      · rw [List.foldl_cons, if_neg (by rw [skip_eq_not_isActivePhase, hactive]; decide), ih]
        simp only [List.map_cons, List.sum_cons, hactive, if_true, Int64.val_add,
          val_calculatePodGpuRequest]
        unfold wrap
        omega
      · rw [List.foldl_cons, if_pos (by simpa [skip_eq_not_isActivePhase] using hactive), ih]
        simp [hactive]

private theorem sum_filter_nodeName (pods : List Pod) (nodeName : String) :
    ((pods.filter fun pod => pod.spec.nodeName == nodeName).map fun pod =>
      if isActivePhase pod.status.phase then podGpuRequest pod else 0).sum =
    activeGpuRequest pods nodeName := by
  induction pods with
  | nil => rfl
  | cons pod pods ih =>
      by_cases hnode : pod.spec.nodeName = nodeName
      · rw [List.filter_cons_of_pos (by simp [hnode]), List.map_cons, List.sum_cons, ih]
        simp only [activeGpuRequest, List.map_cons, List.sum_cons, gpuHeldOn, hnode, true_and]
      · rw [List.filter_cons_of_neg (by simpa using hnode), ih]
        simp [activeGpuRequest, gpuHeldOn, hnode]

/-- On a successful listing, `calculateNodeGpuRequest` is the node's exact
active request wrapped to `int64`. -/
theorem val_calculateNodeGpuRequest (picker : GpuBestfitPicker) (node : Node)
    (hlist : picker.listFails node.name = false) :
    (picker.calculateNodeGpuRequest node).val = wrap (activeGpuRequest picker.pods node.name) := by
  simp only [GpuBestfitPicker.calculateNodeGpuRequest, GpuBestfitPicker.listPods, hlist,
    Bool.false_eq_true, if_false, GpuBestfitPicker.sumActiveGpuRequests, val_foldl_sumActive,
    sum_filter_nodeName, Int64.val_zero, Int.zero_add]

/-- What `calculateNodesGpuState` stores for `node` in `allocatable`. -/
def allocatableEntry (node : Node) : Int64 :=
  match node.status.allocatable.lookup nvidiaGpu with
  | none => 0
  | some gpuAllocatable => gpuAllocatable.value

/-- What `calculateNodesGpuState` stores for `node` in `requested`. -/
def requestedEntry (picker : GpuBestfitPicker) (node : Node) : Int64 :=
  match node.status.allocatable.lookup nvidiaGpu with
  | none => 0
  | some _ => picker.calculateNodeGpuRequest node

variable (picker : GpuBestfitPicker)

theorem addNodeGpuState_eq (state : NodeToGpuResourceMap × NodeToGpuResourceMap)
    (node : Node) :
    picker.addNodeGpuState state node =
      (state.1.insert node.name (allocatableEntry node),
        state.2.insert node.name (requestedEntry picker node)) := by
  unfold GpuBestfitPicker.addNodeGpuState allocatableEntry requestedEntry
  cases node.status.allocatable.lookup nvidiaGpu <;> rfl

private theorem foldl_addNodeGpuState (nodes : List Node)
    (state : NodeToGpuResourceMap × NodeToGpuResourceMap) :
    nodes.foldl picker.addNodeGpuState state =
      (nodes.foldl (fun m node => m.insert node.name (allocatableEntry node)) state.1,
        nodes.foldl (fun m node => m.insert node.name (requestedEntry picker node)) state.2) := by
  induction nodes generalizing state with
  | nil => rfl
  | cons node nodes ih => simp only [List.foldl_cons, ih, addNodeGpuState_eq]

theorem mem_keys_calculateNodesGpuState (nodes : List Node) (k : String) :
    k ∈ (picker.calculateNodesGpuState nodes).2.keys ↔ k ∈ nodes.map Node.name := by
  rw [GpuBestfitPicker.calculateNodesGpuState, foldl_addNodeGpuState, GoMap.mem_keys_foldl_insert]
  simp

theorem forall_mem_keys_calculateNodesGpuState (nodes : List Node) (P : String → Prop) :
    (∀ k ∈ (picker.calculateNodesGpuState nodes).2.keys, P k) ↔ ∀ node ∈ nodes, P node.name := by
  simp only [mem_keys_calculateNodesGpuState, List.forall_mem_map]

variable {picker} {nodes : List Node} {node : Node}

theorem get_calculateNodesGpuState_fst (hnodup : (nodes.map Node.name).Nodup)
    (hnode : node ∈ nodes) :
    (picker.calculateNodesGpuState nodes).1.get node.name = allocatableEntry node := by
  rw [GpuBestfitPicker.calculateNodesGpuState, foldl_addNodeGpuState, GoMap.get,
    GoMap.lookup_foldl_insert_of_mem Node.name allocatableEntry hnodup hnode]
  rfl

theorem get_calculateNodesGpuState_snd (hnodup : (nodes.map Node.name).Nodup)
    (hnode : node ∈ nodes) :
    (picker.calculateNodesGpuState nodes).2.get node.name = requestedEntry picker node := by
  rw [GpuBestfitPicker.calculateNodesGpuState, foldl_addNodeGpuState, GoMap.get,
    GoMap.lookup_foldl_insert_of_mem Node.name (requestedEntry picker) hnodup hnode]
  rfl

theorem val_allocatableEntry (node : Node) : (allocatableEntry node).val = allocatableGpu node := by
  unfold allocatableEntry allocatableGpu
  split <;> simp

theorem val_requestedEntry (hlist : picker.listFails node.name = false)
    (hwithin : activeGpuRequest picker.pods node.name ≤ allocatableGpu node) :
    (requestedEntry picker node).val = activeGpuRequest picker.pods node.name := by
  have hnonneg := activeGpuRequest_nonneg picker.pods node.name
  unfold requestedEntry
  cases hq : node.status.allocatable.lookup nvidiaGpu with
  | none =>
      simp only [allocatableGpu, hq] at hwithin
      dsimp only
      rw [Int64.val_zero]
      omega
  | some gpuAllocatable =>
      have hlt := gpuAllocatable.value.val_lt
      simp only [allocatableGpu, hq] at hwithin
      dsimp only
      rw [val_calculateNodeGpuRequest picker node hlist, wrap_of_le_of_lt (by omega) (by omega)]

theorem val_requestedEntry_mem
    (hwithin : activeGpuRequest picker.pods node.name ≤ allocatableGpu node) :
    0 ≤ (requestedEntry picker node).val ∧
      (requestedEntry picker node).val ≤ activeGpuRequest picker.pods node.name := by
  have hnonneg := activeGpuRequest_nonneg picker.pods node.name
  cases hlist : picker.listFails node.name
  · rw [val_requestedEntry hlist hwithin]
    exact ⟨hnonneg, le_rfl⟩
  · unfold requestedEntry
    split <;> simp [GpuBestfitPicker.calculateNodeGpuRequest, GpuBestfitPicker.listPods, hlist,
      hnonneg]

/-- Without a listing error and an overflow, the `int64` check of
`SelectMostRequestedNodeForPod` on `node` is the exact check. -/
theorem feasible_calculateNodesGpuState_iff {picker : GpuBestfitPicker} {pod : Pod}
    {nodes : List Node} (hnodup : (nodes.map Node.name).Nodup) {node : Node}
    (hnode : node ∈ nodes) (hlist : picker.listFails node.name = false)
    (hwithin : activeGpuRequest picker.pods node.name ≤ allocatableGpu node)
    (hfits : activeGpuRequest picker.pods node.name + podGpuRequest pod < 2 ^ 63) :
    Feasible pod (picker.calculateNodesGpuState nodes).1 (picker.calculateNodesGpuState nodes).2
        node.name ↔
      activeGpuRequest picker.pods node.name + podGpuRequest pod ≤ allocatableGpu node := by
  have hpod := podGpuRequest_nonneg pod
  have hactive := activeGpuRequest_nonneg picker.pods node.name
  simp only [Feasible, Fits, Int64.le_iff, Int64.val_add,
    get_calculateNodesGpuState_fst hnodup hnode,
    get_calculateNodesGpuState_snd hnodup hnode,
    val_allocatableEntry, val_requestedEntry hlist hwithin,
    val_calculatePodGpuRequest, wrap_add_wrap', wrap_of_le_of_lt (by omega) hfits]

/-- When the exact sum overflows `int64`, it wraps to a negative number and
the check of `SelectMostRequestedNodeForPod` passes for `node`, although the
node has no room. -/
theorem feasible_calculateNodesGpuState_of_overflow {picker : GpuBestfitPicker} {pod : Pod}
    {nodes : List Node} (hnodup : (nodes.map Node.name).Nodup) {node : Node}
    (hnode : node ∈ nodes) (hlist : picker.listFails node.name = false)
    (hwithin : activeGpuRequest picker.pods node.name ≤ allocatableGpu node)
    (hsmall : podGpuRequest pod < 2 ^ 63)
    (hover : 2 ^ 63 ≤ activeGpuRequest picker.pods node.name + podGpuRequest pod) :
    Feasible pod (picker.calculateNodesGpuState nodes).1 (picker.calculateNodesGpuState nodes).2
      node.name := by
  have hneg := wrap_neg_of_overflow hover (by have := allocatableGpu_lt node; omega)
  have hzero := allocatableGpu_nonneg node
  simp only [Feasible, Fits, Int64.le_iff, Int64.val_add,
    get_calculateNodesGpuState_fst hnodup hnode,
    get_calculateNodesGpuState_snd hnodup hnode,
    val_allocatableEntry, val_requestedEntry hlist hwithin,
    val_calculatePodGpuRequest, wrap_add_wrap']
  omega

section Check

variable {picker : GpuBestfitPicker} {pod : Pod} {nodes : List Node} {node : Node}

/-- A node with room for the pod in exact integers passes the check of
`SelectMostRequestedNodeForPod`, whether or not its listing succeeds: a
failed listing only makes it look emptier. -/
theorem feasible_calculateNodesGpuState_of_room (hnodup : (nodes.map Node.name).Nodup)
    (hnode : node ∈ nodes) (hwithin : activeGpuRequest picker.pods node.name ≤ allocatableGpu node)
    (hroom : activeGpuRequest picker.pods node.name + podGpuRequest pod ≤ allocatableGpu node) :
    Feasible pod (picker.calculateNodesGpuState nodes).1 (picker.calculateNodesGpuState nodes).2
      node.name := by
  obtain ⟨hlo, hhi⟩ := val_requestedEntry_mem hwithin
  have hpod := podGpuRequest_nonneg pod
  have hlt := allocatableGpu_lt node
  simp only [Feasible, Fits, Int64.le_iff, Int64.val_add,
    get_calculateNodesGpuState_fst hnodup hnode,
    get_calculateNodesGpuState_snd hnodup hnode,
    val_allocatableEntry, val_calculatePodGpuRequest, wrap_add_wrap']
  rw [wrap_of_le_of_lt (by omega) (by omega)]
  omega

/-- When the pod's own request wraps to a negative `int64`, every node within
its allocatable count passes the check of `SelectMostRequestedNodeForPod`,
whether or not its listing succeeds, though none has room for the pod. -/
theorem feasible_calculateNodesGpuState_of_pod_overflow (hnodup : (nodes.map Node.name).Nodup)
    (hnode : node ∈ nodes) (hwithin : activeGpuRequest picker.pods node.name ≤ allocatableGpu node)
    (hover : 2 ^ 63 ≤ podGpuRequest pod) (hbelow : podGpuRequest pod < 2 ^ 64) :
    Feasible pod (picker.calculateNodesGpuState nodes).1 (picker.calculateNodesGpuState nodes).2
      node.name := by
  obtain ⟨hlo, hhi⟩ := val_requestedEntry_mem hwithin
  have hneg := wrap_neg_of_overflow hover hbelow
  have hwrap := le_wrap (podGpuRequest pod)
  have hlt := allocatableGpu_lt node
  simp only [Feasible, Fits, Int64.le_iff, Int64.val_add,
    get_calculateNodesGpuState_fst hnodup hnode,
    get_calculateNodesGpuState_snd hnodup hnode,
    val_allocatableEntry, val_calculatePodGpuRequest]
  rw [wrap_of_le_of_lt (by omega) (by omega)]
  omega

end Check

theorem pick_eq_empty_or_mem (picker : GpuBestfitPicker) (order : RangeChoice)
    (pod : Pod) (nodes : List Node) :
    picker.pick order pod nodes = "" ∨ ∃ node ∈ nodes, node.name = picker.pick order pod nodes := by
  by_cases hne : picker.pick order pod nodes = ""
  · exact .inl hne
  · exact .inr (List.mem_map.mp ((mem_keys_calculateNodesGpuState picker nodes _).mp
      (feasible_of_selectMostRequestedNodeForPod_ne _ hne).1))

/-- The node `Pick` chooses has room for the pod in exact integers, provided
its own pod listing succeeded and the sum its check computes does not
overflow `int64`. -/
theorem pick_within_allocatable (picker : GpuBestfitPicker)
    (order : RangeChoice) (pod : Pod) (nodes : List Node)
    (hnodup : (nodes.map Node.name).Nodup)
    (hwithin : ∀ node ∈ nodes, activeGpuRequest picker.pods node.name ≤ allocatableGpu node)
    (hne : picker.pick order pod nodes ≠ "")
    (hlist : picker.listFails (picker.pick order pod nodes) = false)
    (hfits : activeGpuRequest picker.pods (picker.pick order pod nodes) + podGpuRequest pod
      < 2 ^ 63) :
    ∃ node ∈ nodes, node.name = picker.pick order pod nodes ∧
      activeGpuRequest picker.pods node.name + podGpuRequest pod ≤ allocatableGpu node := by
  obtain ⟨hkey, hfeas⟩ := feasible_of_selectMostRequestedNodeForPod_ne
    (order (picker.calculateNodesGpuState nodes).2) hne
  unfold GpuBestfitPicker.pick at hlist hfits ⊢
  generalize selectMostRequestedNodeForPod pod _ _ _ = r at hkey hfeas hlist hfits ⊢
  obtain ⟨node, hnode, rfl⟩ :=
    List.mem_map.mp ((mem_keys_calculateNodesGpuState picker nodes r).mp hkey)
  exact ⟨node, hnode, rfl,
    (feasible_calculateNodesGpuState_iff hnodup hnode hlist (hwithin node hnode) hfits).mp hfeas⟩

end ToyScheduler.GpuAccounting
