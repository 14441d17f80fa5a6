import ToyScheduler.Placement

namespace ToyScheduler.PickInputs

open ToyScheduler.Go ToyScheduler.Objects ToyScheduler.Picker ToyScheduler.SelectMostRequested
open ToyScheduler.GpuAccounting ToyScheduler.Placement

section Inputs

variable {p q : GpuBestfitPicker} {nodes : List Node}

theorem calculateNodesGpuState_congr
    (h : ∀ node ∈ nodes, p.calculateNodeGpuRequest node = q.calculateNodeGpuRequest node) :
    p.calculateNodesGpuState nodes = q.calculateNodesGpuState nodes :=
  List.foldl_ext _ _ _ fun state node hnode => by
    simp only [addNodeGpuState_eq, requestedEntry, h node hnode]

theorem calculateNodeGpuRequest_congr {node : Node}
    (hlist : p.listFails node.name = q.listFails node.name)
    (hactive : activeGpuRequest p.pods node.name = activeGpuRequest q.pods node.name) :
    p.calculateNodeGpuRequest node = q.calculateNodeGpuRequest node := by
  cases hfail : q.listFails node.name
  · exact Int64.ext (by rw [val_calculateNodeGpuRequest p node (hlist.trans hfail),
      val_calculateNodeGpuRequest q node hfail, hactive])
  · simp [GpuBestfitPicker.calculateNodeGpuRequest, GpuBestfitPicker.listPods, hfail, hlist]

/-- `Pick` reads the API server only through whether each listed node's pod
listing fails and the exact GPU request of the Pending and Running pods bound
to it: two stores that agree on these for every listed node get the same
answer, for every pod and map order. -/
theorem pick_eq_of_active_eq (order : RangeChoice) (pod : Pod)
    (h : ∀ node ∈ nodes, p.listFails node.name = q.listFails node.name ∧
      activeGpuRequest p.pods node.name = activeGpuRequest q.pods node.name) :
    p.pick order pod nodes = q.pick order pod nodes := by
  unfold GpuBestfitPicker.pick
  rw [calculateNodesGpuState_congr fun node hnode =>
    calculateNodeGpuRequest_congr (h node hnode).1 (h node hnode).2]

theorem pick_ignores_other_pods :
    let p : GpuBestfitPicker := ⟨[gpuPod "running" "gpu-node" "Running" oneGpu,
      gpuPod "done" "gpu-node" "Succeeded" twoGpus, gpuPod "elsewhere" "cpu-node" "Running" twoGpus,
      gpuPod "waiting" "" "Pending" twoGpus], fun _ => false⟩
    let q : GpuBestfitPicker := ⟨[gpuPod "running" "gpu-node" "Running" oneGpu], fun _ => false⟩
    let pod := gpuPod "trainer" "" "Pending" oneGpu
    (∀ node ∈ [gpuNode twoGpus], p.listFails node.name = q.listFails node.name ∧
        activeGpuRequest p.pods node.name = activeGpuRequest q.pods node.name) ∧
      p.pick (fun m => .stored m) pod [gpuNode twoGpus] =
        q.pick (fun m => .stored m) pod [gpuNode twoGpus] ∧
      q.pick (fun m => .stored m) pod [gpuNode twoGpus] = "gpu-node" :=
  ⟨by decide, pick_eq_of_active_eq _ _ (by decide), by decide⟩

end Inputs

variable (picker : GpuBestfitPicker)

/-- The picker whose listings all succeed, over the store without the pods
bound to a node whose listing fails in `picker`. -/
def withoutFailedNodes : GpuBestfitPicker :=
  ⟨picker.pods.filter fun pod => !picker.listFails pod.spec.nodeName, fun _ => false⟩

theorem calculateNodeGpuRequest_withoutFailedNodes (node : Node) :
    (withoutFailedNodes picker).calculateNodeGpuRequest node = picker.calculateNodeGpuRequest node := by
  simp only [GpuBestfitPicker.calculateNodeGpuRequest, GpuBestfitPicker.listPods, withoutFailedNodes, Bool.false_eq_true, if_false,
    List.filter_filter]
  cases hfail : picker.listFails node.name
  · rw [if_neg (by simp)]
    congr 2
    funext pod
    by_cases hname : pod.spec.nodeName = node.name <;> simp [hname, hfail]
  · rw [if_pos rfl, List.filter_eq_nil_iff.mpr fun pod _ => ?_]
    · rfl
    · by_cases hname : pod.spec.nodeName = node.name <;> simp [hname, hfail]

theorem calculateNodesGpuState_withoutFailedNodes (nodes : List Node) :
    (withoutFailedNodes picker).calculateNodesGpuState nodes = picker.calculateNodesGpuState nodes :=
  calculateNodesGpuState_congr fun node _ => calculateNodeGpuRequest_withoutFailedNodes picker node

/-- A failed listing makes its node look empty, and nothing else: `Pick`
returns what it would with every listing succeeding on the store without the
pods bound to the nodes whose listing failed, for every pod, node list and
map order. -/
theorem pick_withoutFailedNodes (order : RangeChoice) (pod : Pod) (nodes : List Node) :
    (withoutFailedNodes picker).pick order pod nodes = picker.pick order pod nodes := by
  unfold GpuBestfitPicker.pick
  rw [calculateNodesGpuState_withoutFailedNodes]

section NodeOrder

variable {picker : GpuBestfitPicker} {pod : Pod} {nodes nodes' : List Node}

theorem feasible_calculateNodesGpuState_perm (hperm : nodes.Perm nodes')
    (hnodup : (nodes.map Node.name).Nodup) {node : Node} (hnode : node ∈ nodes) :
    Feasible pod (picker.calculateNodesGpuState nodes).1 (picker.calculateNodesGpuState nodes).2
        node.name ↔
      Feasible pod (picker.calculateNodesGpuState nodes').1
        (picker.calculateNodesGpuState nodes').2 node.name := by
  have hnodup' := (hperm.map Node.name).nodup_iff.mp hnodup
  have hnode' := hperm.mem_iff.mp hnode
  simp only [Feasible, Fits, get_calculateNodesGpuState_fst hnodup hnode,
    get_calculateNodesGpuState_snd hnodup hnode, get_calculateNodesGpuState_fst hnodup' hnode',
    get_calculateNodesGpuState_snd hnodup' hnode']

/-- Neither the order in which the node lister returns the nodes nor Go's map
order changes whether `Pick` chooses a node, or how many GPUs the chosen node
already has, when every listing succeeds and every node is within its
allocatable count. -/
theorem pick_perm_nodes (order order' : RangeChoice) (hperm : nodes.Perm nodes')
    (hnodup : (nodes.map Node.name).Nodup) (hnames : ∀ node ∈ nodes, node.name ≠ "")
    (hlist : ∀ node ∈ nodes, picker.listFails node.name = false)
    (hwithin : ∀ node ∈ nodes, activeGpuRequest picker.pods node.name ≤ allocatableGpu node) :
    (picker.pick order pod nodes = "" ↔ picker.pick order' pod nodes' = "") ∧
      ∀ n ∈ nodes, ∀ n' ∈ nodes, n.name = picker.pick order pod nodes →
        n'.name = picker.pick order' pod nodes' →
          activeGpuRequest picker.pods n.name = activeGpuRequest picker.pods n'.name := by
  have hmem : ∀ node, node ∈ nodes' ↔ node ∈ nodes := fun _ => hperm.mem_iff.symm
  have hfeas : ∀ node ∈ nodes, (Feasible pod (picker.calculateNodesGpuState nodes).1
      (picker.calculateNodesGpuState nodes).2 node.name ↔
        Feasible pod (picker.calculateNodesGpuState nodes').1
          (picker.calculateNodesGpuState nodes').2 node.name) := fun node hnode =>
    feasible_calculateNodesGpuState_perm hperm hnodup hnode
  obtain ⟨hempty, hchosen⟩ := pick_mostActive order hnodup hnames hlist hwithin
  obtain ⟨hempty', hchosen'⟩ := pick_mostActive order' ((hperm.map Node.name).nodup_iff.mp hnodup)
    (fun n hn => hnames n ((hmem n).mp hn)) (fun n hn => hlist n ((hmem n).mp hn))
    (fun n hn => hwithin n ((hmem n).mp hn))
  refine ⟨hempty.trans (Iff.trans ?_ hempty'.symm), fun n hn n' hn' hname hname' => ?_⟩
  · exact ⟨fun hnone m hm => (not_congr (hfeas m ((hmem m).mp hm))).mp (hnone m ((hmem m).mp hm)),
      fun hnone m hm => (not_congr (hfeas m hm)).mpr (hnone m ((hmem m).mpr hm))⟩
  obtain ⟨c, hc, hcname, hcfeas, hcmax⟩ := hchosen (hname ▸ hnames n hn)
  obtain ⟨c', hc', hcname', hcfeas', hcmax'⟩ := hchosen' (hname' ▸ hnames n' hn')
  obtain rfl : c = n := List.inj_on_of_nodup_map hnodup hc hn (hcname.trans hname.symm)
  obtain rfl : c' = n' := List.inj_on_of_nodup_map hnodup ((hmem c').mp hc') hn'
    (hcname'.trans hname'.symm)
  exact le_antisymm (hcmax' c ((hmem c).mpr hc) ((hfeas c hc).mp hcfeas))
    (hcmax c' hn' ((hfeas c' hn').mpr hcfeas'))

theorem pick_same_for_reversed_nodes :
    let picker : GpuBestfitPicker := ⟨[gpuPod "running" "gpu-node" "Running" oneGpu], fun _ => false⟩
    let nodes : List Node := [gpuNode twoGpus, ⟨"spare-node", GoMap.empty, ⟨gpuResources twoGpus⟩⟩]
    let pod := gpuPod "trainer" "" "Pending" oneGpu
    (picker.pick (fun m => .stored m) pod nodes = "" ↔
        picker.pick (fun m => .stored m) pod nodes.reverse = "") ∧
      ∀ n ∈ nodes, ∀ n' ∈ nodes, n.name = picker.pick (fun m => .stored m) pod nodes →
        n'.name = picker.pick (fun m => .stored m) pod nodes.reverse →
          activeGpuRequest picker.pods n.name = activeGpuRequest picker.pods n'.name :=
  pick_perm_nodes _ _ (List.reverse_perm _).symm (by decide) (by decide) (fun _ _ => rfl)
    (by decide)

end NodeOrder

end ToyScheduler.PickInputs
