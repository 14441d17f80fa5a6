import ToyScheduler.Scheduler
import ToyScheduler.GpuAccounting

namespace ToyScheduler.Placement

open ToyScheduler.Go ToyScheduler.Objects ToyScheduler.Picker ToyScheduler.SelectMostRequested
open ToyScheduler.GpuAccounting ToyScheduler.Scheduler

/-- `node` has room for `request` more GPUs beside its Pending and Running
pods among `pods`. -/
def HasRoom (pods : List Pod) (request : Int) (node : Node) : Prop :=
  activeGpuRequest pods node.name + request ≤ allocatableGpu node

/-- Best-fit placement: `r` is `""` exactly when no node has room, and
otherwise names a node with room whose active request is the largest among
the nodes with room. -/
def BestFit (pods : List Pod) (request : Int) (nodes : List Node) (r : String) : Prop :=
  (r = "" ↔ ∀ node ∈ nodes, ¬ HasRoom pods request node) ∧
  (r ≠ "" → ∃ node ∈ nodes, node.name = r ∧ HasRoom pods request node ∧
    ∀ n ∈ nodes, HasRoom pods request n →
      activeGpuRequest pods n.name ≤ activeGpuRequest pods node.name)

instance (pods : List Pod) (request : Int) (node : Node) : Decidable (HasRoom pods request node) :=
  inferInstanceAs (Decidable (_ ≤ _))

section Pick

variable {picker : GpuBestfitPicker} {pod : Pod} {nodes : List Node}

theorem mostRequested_pick (order : RangeChoice)
    (hnodup : (nodes.map Node.name).Nodup) (hnames : ∀ node ∈ nodes, node.name ≠ "")
    (hwithin : ∀ node ∈ nodes, activeGpuRequest picker.pods node.name ≤ allocatableGpu node) :
    MostRequested pod (picker.calculateNodesGpuState nodes).1
      (picker.calculateNodesGpuState nodes).2 (picker.pick order pod nodes) :=
  have hkeys := forall_mem_keys_calculateNodesGpuState picker nodes
  mostRequested_of_selectInv _ (selectInv_visits _) ((hkeys _).mpr hnames)
    ((hkeys _).mpr fun n hn => by
      rw [get_calculateNodesGpuState_snd hnodup hn]
      exact (val_requestedEntry_mem (hwithin n hn)).1)

theorem pick_mostActive (order : RangeChoice)
    (hnodup : (nodes.map Node.name).Nodup) (hnames : ∀ node ∈ nodes, node.name ≠ "")
    (hlist : ∀ node ∈ nodes, picker.listFails node.name = false)
    (hwithin : ∀ node ∈ nodes, activeGpuRequest picker.pods node.name ≤ allocatableGpu node) :
    (picker.pick order pod nodes = "" ↔ ∀ node ∈ nodes, ¬ Feasible pod
        (picker.calculateNodesGpuState nodes).1 (picker.calculateNodesGpuState nodes).2
        node.name) ∧
      (picker.pick order pod nodes ≠ "" → ∃ chosen ∈ nodes,
        chosen.name = picker.pick order pod nodes ∧
        Feasible pod (picker.calculateNodesGpuState nodes).1
          (picker.calculateNodesGpuState nodes).2 chosen.name ∧
        ∀ n ∈ nodes, Feasible pod (picker.calculateNodesGpuState nodes).1
            (picker.calculateNodesGpuState nodes).2 n.name →
          activeGpuRequest picker.pods n.name ≤ activeGpuRequest picker.pods chosen.name) := by
  have hkeys := forall_mem_keys_calculateNodesGpuState picker nodes
  have hget : ∀ node ∈ nodes, ((picker.calculateNodesGpuState nodes).2.get node.name).val =
      activeGpuRequest picker.pods node.name := fun node hnode => by
    rw [get_calculateNodesGpuState_snd hnodup hnode,
      val_requestedEntry (hlist node hnode) (hwithin node hnode)]
  obtain ⟨hempty, hchosen⟩ := mostRequested_pick order hnodup hnames hwithin
  refine ⟨hempty.trans ((hkeys _).trans Iff.rfl), fun hne => ?_⟩
  obtain ⟨hk, hfeas, hmax⟩ := hchosen hne
  obtain ⟨chosen, hchosen, hname⟩ :=
    List.mem_map.mp ((mem_keys_calculateNodesGpuState picker nodes _).mp hk)
  refine ⟨chosen, hchosen, hname, hname ▸ hfeas, fun n hn hfeasn => ?_⟩
  have hle := (hkeys _).mp hmax n hn hfeasn
  rwa [Int64.le_iff, hget n hn, ← hname, hget chosen hchosen] at hle

/-- `Pick` is best fit in exact integers when every node's listing succeeds,
every node is within its allocatable count, and no check overflows. -/
theorem pick_bestFit (order : RangeChoice)
    (hnodup : (nodes.map Node.name).Nodup) (hnames : ∀ node ∈ nodes, node.name ≠ "")
    (hlist : ∀ node ∈ nodes, picker.listFails node.name = false)
    (hwithin : ∀ node ∈ nodes, activeGpuRequest picker.pods node.name ≤ allocatableGpu node)
    (hfits : ∀ node ∈ nodes, activeGpuRequest picker.pods node.name + podGpuRequest pod < 2 ^ 63) :
    BestFit picker.pods (podGpuRequest pod) nodes (picker.pick order pod nodes) := by
  have hroom : ∀ node ∈ nodes, (Feasible pod (picker.calculateNodesGpuState nodes).1
      (picker.calculateNodesGpuState nodes).2 node.name ↔
        HasRoom picker.pods (podGpuRequest pod) node) := fun node hnode =>
    feasible_calculateNodesGpuState_iff hnodup hnode (hlist node hnode) (hwithin node hnode)
      (hfits node hnode)
  obtain ⟨hempty, hchosen⟩ := pick_mostActive order hnodup hnames hlist hwithin
  refine ⟨hempty.trans (forall₂_congr fun node hnode => not_congr (hroom node hnode)),
    fun hne => ?_⟩
  obtain ⟨chosen, hmem, hname, hfeas, hmax⟩ := hchosen hne
  exact ⟨chosen, hmem, hname, (hroom chosen hmem).mp hfeas,
    fun n hn hhas => hmax n hn ((hroom n hn).mpr hhas)⟩

theorem pick_ne_empty_of_feasible (order : RangeChoice)
    (hnodup : (nodes.map Node.name).Nodup) (hnames : ∀ node ∈ nodes, node.name ≠ "")
    (hwithin : ∀ node ∈ nodes, activeGpuRequest picker.pods node.name ≤ allocatableGpu node)
    {node : Node} (hnode : node ∈ nodes)
    (hfeas : Feasible pod (picker.calculateNodesGpuState nodes).1
      (picker.calculateNodesGpuState nodes).2 node.name) :
    picker.pick order pod nodes ≠ "" := fun hempty =>
  (mostRequested_pick order hnodup hnames hwithin).1.mp hempty node.name
    ((mem_keys_calculateNodesGpuState picker nodes _).mpr (List.mem_map_of_mem _ hnode)) hfeas

/-- When the pod's containers ask for `2^63` GPUs or more in all (below
`2^64`), `calculatePodGpuRequest` wraps to a negative `int64` and the check
passes for every node: `Pick` returns a node whenever there is one, whatever
listings fail, and that node has no room for the pod. -/
theorem pick_without_room_of_pod_overflow (order : RangeChoice)
    (hnodup : (nodes.map Node.name).Nodup) (hnames : ∀ node ∈ nodes, node.name ≠ "")
    (hwithin : ∀ node ∈ nodes, activeGpuRequest picker.pods node.name ≤ allocatableGpu node)
    (hover : 2 ^ 63 ≤ podGpuRequest pod) (hbelow : podGpuRequest pod < 2 ^ 64)
    {node : Node} (hnode : node ∈ nodes) :
    ∃ chosen ∈ nodes, chosen.name = picker.pick order pod nodes ∧
      allocatableGpu chosen < activeGpuRequest picker.pods chosen.name + podGpuRequest pod := by
  have hne := pick_ne_empty_of_feasible order hnodup hnames hwithin hnode
    (feasible_calculateNodesGpuState_of_pod_overflow hnodup hnode (hwithin node hnode) hover hbelow)
  obtain ⟨chosen, hmem, hname⟩ := (pick_eq_empty_or_mem picker order pod nodes).resolve_left hne
  have hlt := allocatableGpu_lt chosen
  have hactive := activeGpuRequest_nonneg picker.pods chosen.name
  exact ⟨chosen, hmem, hname, by omega⟩

/-- A pod of two containers, each asking `2^62` GPUs: `2^63` in all. -/
def oversizedPod : Pod :=
  ⟨"oversized", "default", "oversized", ⟨"", "toyscheduler", GoMap.empty,
    [⟨⟨gpuResources halfRangeGpus⟩⟩, ⟨⟨gpuResources halfRangeGpus⟩⟩]⟩, ⟨"Pending"⟩⟩

theorem pick_places_oversized_pod :
    let picker : GpuBestfitPicker := ⟨[], fun _ => true⟩
    (∃ chosen ∈ [gpuNode twoGpus], chosen.name = picker.pick (fun m => .stored m) oversizedPod
        [gpuNode twoGpus] ∧
      allocatableGpu chosen < activeGpuRequest picker.pods chosen.name + podGpuRequest oversizedPod) ∧
      picker.pick (fun m => .stored m) oversizedPod [gpuNode twoGpus] = "gpu-node" :=
  ⟨pick_without_room_of_pod_overflow _ (by decide) (by decide) (by decide)
    (by decide) (by decide) (List.mem_singleton_self _), by decide⟩

/-- A node without `nvidia.com/gpu` among its allocatable resources is never
chosen for a pod that asks for GPUs, whether or not listings fail: the code
counts such a node as `0` allocatable and `0` requested without listing it. -/
theorem pick_ne_of_no_gpu (order : RangeChoice)
    (hnodup : (nodes.map Node.name).Nodup) {node : Node} (hnode : node ∈ nodes)
    (hname : node.name ≠ "") (hnogpu : node.status.allocatable.lookup nvidiaGpu = none)
    (hpos : 0 < podGpuRequest pod) (hsmall : podGpuRequest pod < 2 ^ 63) :
    picker.pick order pod nodes ≠ node.name := by
  intro hpick
  have hne : picker.pick order pod nodes ≠ "" := hpick ▸ hname
  have hfeas : Feasible pod (picker.calculateNodesGpuState nodes).1
      (picker.calculateNodesGpuState nodes).2 (picker.pick order pod nodes) :=
    (feasible_of_selectMostRequestedNodeForPod_ne _ hne).2
  rw [hpick] at hfeas
  simp only [Feasible, Fits, get_calculateNodesGpuState_fst hnodup hnode,
    get_calculateNodesGpuState_snd hnodup hnode,
    allocatableEntry, requestedEntry, hnogpu, Int64.le_iff,
    Int64.val_add, Int64.val_zero, val_calculatePodGpuRequest, wrap_add_wrap', zero_add,
    wrap_of_le_of_lt (by omega) hsmall] at hfeas
  omega

theorem pick_avoids_cpu_node :
    let picker : GpuBestfitPicker := ⟨[], fun _ => true⟩
    let cpuNode : Node := ⟨"cpu-node", GoMap.empty, ⟨GoMap.empty⟩⟩
    let pod := gpuPod "trainer" "" "Pending" oneGpu
    picker.pick (fun m => .stored m) pod [gpuNode twoGpus, cpuNode] ≠ cpuNode.name ∧
      picker.pick (fun m => .stored m) pod [gpuNode twoGpus, cpuNode] = "gpu-node" :=
  ⟨pick_ne_of_no_gpu _ (by decide) (by simp) (by decide) rfl (by decide)
    (by decide), by decide⟩

end Pick

variable {s s' : State}

section Placement

theorem selectedNode_mem {pod : Pod} {listFails : String → Bool} {order : RangeChoice}
    (hne : s.selectedNode pod listFails order ≠ "") :
    ∃ node ∈ s.cluster.nodes, node.name = s.selectedNode pod listFails order ∧
      ∀ k v, pod.spec.nodeSelector.lookup k = some v → node.labels.lookup k = some v := by
  rcases pick_eq_empty_or_mem (s.cluster.picker listFails) order pod
      (s.cluster.listNodes pod.spec.nodeSelector) with hempty | ⟨node, hnode, hname⟩
  · exact absurd hempty hne
  · obtain ⟨hmem, hmatch⟩ := (Cluster.mem_listNodes _ _ _).mp hnode
    exact ⟨node, hmem, hname, (selectorMatches_iff _ _).mp hmatch⟩

/-- What `Schedule` does to the stored pods: nothing, or it sets the node of
the pod with `pod`'s namespace and name, which had none, to a node of the
cluster whose labels carry every key and value of `pod`'s `nodeSelector`. -/
theorem schedule_binds_matching_node (pod : Pod) (listFails : String → Bool)
    (order : RangeChoice) (bindFails emitFails : Bool) :
    (s.schedule pod listFails order bindFails emitFails).cluster.pods = s.cluster.pods ∨
      ∃ node ∈ s.cluster.nodes,
        (∀ k v, pod.spec.nodeSelector.lookup k = some v → node.labels.lookup k = some v) ∧
        (∃ p ∈ s.cluster.pods, p.key = pod.key ∧ p.spec.nodeName = "") ∧
        (s.schedule pod listFails order bindFails emitFails).cluster.pods =
          s.cluster.pods.map fun p => if p.key = pod.key
            then { p with spec := { p.spec with nodeName := node.name } } else p := by
  obtain ⟨-, -, -, ⟨hpods, -⟩ | ⟨hne, hunbound, hpods, -⟩⟩ :=
    s.schedule_spec pod listFails order bindFails emitFails
  · exact .inl hpods
  · obtain ⟨node, hmem, hname, hmatch⟩ := selectedNode_mem hne
    exact .inr ⟨node, hmem, hmatch, hunbound, hname ▸ hpods⟩

theorem pods_schedule_of_selected (pod : Pod) (listFails : String → Bool)
    (order : RangeChoice) (emitFails : Bool) (hne : s.selectedNode pod listFails order ≠ "")
    (hunbound : ∃ p ∈ s.cluster.pods, p.key = pod.key ∧ p.spec.nodeName = "") :
    (s.schedule pod listFails order false emitFails).cluster.pods =
      s.cluster.pods.map fun p => if p.key = pod.key
        then { p with spec := { p.spec with nodeName := s.selectedNode pod listFails order } }
        else p := by
  obtain ⟨c, hbind⟩ := Option.isSome_iff_exists.mp
    (@Cluster.bind_isSome s.cluster (bindingFor pod (s.selectedNode pod listFails order))
      hne hunbound)
  rw [State.pods_schedule_of_bind_eq_some pod _ order false emitFails hbind]
  exact (Cluster.bind_eq_some hbind).2.2.2.2

/-- When every pod listing and the bind go through and no sum overflows
`int64`, `Schedule` binds the pod it holds to a best-fit node among those
matching its `nodeSelector`, and leaves the pods alone exactly when none of
them has room. -/
theorem schedule_bestFit (pod : Pod) (order : RangeChoice) (emitFails : Bool)
    (hnames : ∀ node ∈ s.cluster.nodes, node.name ≠ "")
    (hwithin : ∀ node ∈ s.cluster.nodes,
      activeGpuRequest s.cluster.pods node.name ≤ allocatableGpu node)
    (hfits : ∀ node ∈ s.cluster.nodes,
      activeGpuRequest s.cluster.pods node.name + podGpuRequest pod < 2 ^ 63)
    (hunbound : ∃ p ∈ s.cluster.pods, p.key = pod.key ∧ p.spec.nodeName = "") :
    BestFit s.cluster.pods (podGpuRequest pod) (s.cluster.listNodes pod.spec.nodeSelector)
        (s.selectedNode pod (fun _ => false) order) ∧
      (s.schedule pod (fun _ => false) order false emitFails).cluster.pods =
        if s.selectedNode pod (fun _ => false) order = "" then s.cluster.pods
        else s.cluster.pods.map fun p => if p.key = pod.key
          then { p with spec := { p.spec with nodeName := s.selectedNode pod (fun _ => false) order } }
          else p := by
  have hlisted : ∀ node ∈ s.cluster.listNodes pod.spec.nodeSelector, node ∈ s.cluster.nodes :=
    fun node hnode => ((Cluster.mem_listNodes _ _ _).mp hnode).1
  refine ⟨pick_bestFit order (s.cluster.nodup_listNodes _)
    (fun node hnode => hnames node (hlisted node hnode)) (fun _ _ => rfl)
    (fun node hnode => hwithin node (hlisted node hnode))
    (fun node hnode => hfits node (hlisted node hnode)), ?_⟩
  split_ifs with hempty
  · obtain ⟨-, -, -, ⟨hpods, -⟩ | ⟨hne, -⟩⟩ :=
      s.schedule_spec pod (fun _ => false) order false emitFails
    · exact hpods
    · exact absurd hempty hne
  · exact pods_schedule_of_selected pod _ order emitFails hempty hunbound

theorem schedule_packs_busier_node :
    let pod := gpuPod "trainer" "" "Pending" oneGpu
    let s : State :=
      ⟨⟨[gpuNode twoGpus, ⟨"spare-node", GoMap.empty, ⟨gpuResources twoGpus⟩⟩],
          [gpuPod "running" "gpu-node" "Running" oneGpu, pod], [], by decide,
          by show ([("default", "running"), ("default", "trainer")] : List (String × String)).Nodup
             decide⟩,
        [], some pod, []⟩
    (BestFit s.cluster.pods (podGpuRequest pod) (s.cluster.listNodes pod.spec.nodeSelector)
        (s.selectedNode pod (fun _ => false) (fun m => .stored m)) ∧
      (s.schedule pod (fun _ => false) (fun m => .stored m) false false).cluster.pods =
        if s.selectedNode pod (fun _ => false) (fun m => .stored m) = "" then s.cluster.pods
        else s.cluster.pods.map fun p => if p.key = pod.key
          then { p with spec := { p.spec with
            nodeName := s.selectedNode pod (fun _ => false) (fun m => .stored m) } }
          else p) ∧
      s.selectedNode pod (fun _ => false) (fun m => .stored m) = "gpu-node" :=
  ⟨schedule_bestFit _ _ _ (by decide) (by decide) (by decide) (by decide), by decide⟩

/-- `Schedule` never leaves a pod it could place: when a node the lister
returns for the pod's `nodeSelector` has room for it in exact integers, every
node is named and within its allocatable count, the stored pod has no node,
and the bind call goes through, the pod is bound, whatever pod listings fail
and whatever order `range` takes. -/
theorem schedule_binds_of_room (pod : Pod) (listFails : String → Bool)
    (order : RangeChoice) (emitFails : Bool) (hnames : ∀ node ∈ s.cluster.nodes, node.name ≠ "")
    (hwithin : ∀ node ∈ s.cluster.nodes,
      activeGpuRequest s.cluster.pods node.name ≤ allocatableGpu node)
    (hunbound : ∃ p ∈ s.cluster.pods, p.key = pod.key ∧ p.spec.nodeName = "") {node : Node}
    (hnode : node ∈ s.cluster.listNodes pod.spec.nodeSelector)
    (hroom : HasRoom s.cluster.pods (podGpuRequest pod) node) :
    s.selectedNode pod listFails order ≠ "" ∧
      (s.schedule pod listFails order false emitFails).cluster.pods =
        s.cluster.pods.map fun p => if p.key = pod.key
          then { p with spec := { p.spec with nodeName := s.selectedNode pod listFails order } }
          else p := by
  have hlisted : ∀ n ∈ s.cluster.listNodes pod.spec.nodeSelector, n ∈ s.cluster.nodes :=
    fun n hn => ((Cluster.mem_listNodes _ _ _).mp hn).1
  have hnodup := s.cluster.nodup_listNodes pod.spec.nodeSelector
  have hne : s.selectedNode pod listFails order ≠ "" :=
    pick_ne_empty_of_feasible order hnodup (fun n hn => hnames n (hlisted n hn))
      (fun n hn => hwithin n (hlisted n hn)) hnode
      (feasible_calculateNodesGpuState_of_room hnodup hnode (hwithin node (hlisted node hnode)) hroom)
  exact ⟨hne, pods_schedule_of_selected pod listFails order emitFails hne hunbound⟩

/-- `gpu-node` is full with a running two-GPU pod, `spare-node` is empty, and
`Schedule` holds a new one-GPU pod. -/
def fullNodeState : State :=
  ⟨⟨[gpuNode twoGpus, ⟨"spare-node", GoMap.empty, ⟨gpuResources twoGpus⟩⟩],
      [gpuPod "running" "gpu-node" "Running" twoGpus, gpuPod "trainer" "" "Pending" oneGpu], [],
      by decide,
      by show ([("default", "running"), ("default", "trainer")] : List (String × String)).Nodup
         decide⟩,
    [], some (gpuPod "trainer" "" "Pending" oneGpu), []⟩

theorem schedule_binds_despite_failed_listings :
    let pod := gpuPod "trainer" "" "Pending" oneGpu
    (fullNodeState.selectedNode pod (fun _ => true) (fun m => .stored m) ≠ "" ∧
      (fullNodeState.schedule pod (fun _ => true) (fun m => .stored m) false false).cluster.pods =
        fullNodeState.cluster.pods.map fun p => if p.key = pod.key
          then { p with spec := { p.spec with
            nodeName := fullNodeState.selectedNode pod (fun _ => true) (fun m => .stored m) } }
          else p) ∧
      fullNodeState.selectedNode pod (fun _ => true) (fun m => .stored m) = "spare-node" :=
  ⟨schedule_binds_of_room _ _ _ _ (by decide) (by decide) (by decide)
    (List.mem_filter.mpr ⟨List.mem_cons_of_mem _ (List.mem_singleton_self _), by decide⟩)
    (by decide), by decide⟩

theorem bound_schedule (pod : Pod) (listFails : String → Bool) (order : RangeChoice)
    (bindFails emitFails : Bool) {p : Pod} (hp : p ∈ s.cluster.pods)
    (hbound : p.spec.nodeName ≠ "") :
    ∃ p' ∈ (s.schedule pod listFails order bindFails emitFails).cluster.pods,
      p'.key = p.key ∧ p'.spec.nodeName = p.spec.nodeName := by
  obtain ⟨-, -, -, ⟨hpods, -⟩ | ⟨-, ⟨q, hq, hqkey, hqfree⟩, hpods, -⟩⟩ :=
    s.schedule_spec pod listFails order bindFails emitFails
  · exact ⟨p, hpods ▸ hp, rfl, rfl⟩
  · have hother : p.key ≠ pod.key := fun hk =>
      hbound (Cluster.eq_of_key_eq hq hp (hqkey.trans hk.symm) ▸ hqfree)
    exact ⟨p, hpods ▸ List.mem_map.mpr ⟨p, hp, if_neg hother⟩, rfl, rfl⟩

/-- A stale snapshot: `trainer` was queued with no node, then deleted and
created again already bound to `gpu-node`, and `Schedule` holds the snapshot. -/
def staleSnapshotState : State :=
  ⟨⟨[gpuNode twoGpus], [gpuPod "trainer" "gpu-node" "Running" oneGpu], [], by decide,
      List.nodup_singleton _⟩,
    [], some (gpuPod "trainer" "" "Pending" oneGpu), []⟩

/-- `Schedule` on the stale snapshot, every API call succeeding. -/
def staleSnapshotScheduled : State :=
  staleSnapshotState.schedule (gpuPod "trainer" "" "Pending" oneGpu) (fun _ => false)
    (fun m => .stored m) false false

end Placement

section Events

/-- The message of a `klog.Info` line of the log. -/
def infoMessage : LogEntry → Option String
  | .info msg => some msg
  | .infoS _ _ => none
  | .error _ _ => none

theorem filterMap_infoMessage_pickLog (picker : GpuBestfitPicker) (order : RangeChoice)
    (pod : Pod) (nodes : List Node) :
    (picker.pickLog order pod nodes).filterMap infoMessage = [] := by
  simp only [GpuBestfitPicker.pickLog, GpuBestfitPicker.calculateNodesGpuStateLog,
    selectMostRequestedNodeForPodLog, List.filterMap_append, List.filterMap_flatMap,
    List.flatMap_eq_nil_iff, List.append_eq_nil]
  refine ⟨fun node _ => ?_, fun entry _ => ?_, rfl⟩
  · unfold GpuBestfitPicker.addNodeGpuStateLog GpuBestfitPicker.calculateNodeGpuRequestLog
    split
    · rfl
    · split <;> rfl
  · unfold selectStepLog
    split <;> rfl

/-- The events in the store are the scheduler's `klog.Info` lines, message for
message and in order, and each is the `Scheduled` event of a bind to a named
node. -/
def EventsReportBinds (s : State) : Prop :=
  s.cluster.events.map Event.message = s.log.filterMap infoMessage ∧
    ∀ e ∈ s.cluster.events, ∃ pod node, node ≠ "" ∧ e = scheduledEvent (assignedMessage pod node) pod

private theorem eventsReportBinds_of_error (h : EventsReportBinds s)
    (hevents : s'.cluster.events = s.cluster.events) {lines : List LogEntry} {entry : LogEntry}
    (hlog : s'.log = s.log ++ lines ++ [entry]) (hlines : lines.filterMap infoMessage = [])
    (hentry : infoMessage entry = none) :
    EventsReportBinds s' := by
  rw [EventsReportBinds, hevents, hlog, List.filterMap_append, List.filterMap_append, hlines]
  simpa [hentry] using h

theorem eventsReportBinds_step (h : EventsReportBinds s) (hstep : Step s s') :
    EventsReportBinds s' := by
  obtain ⟨action, hact⟩ := hstep
  cases action with
  | podAdded pod =>
      obtain ⟨-, -, -, hevents, -, -, hlog⟩ := step_podAdded hact
      rw [EventsReportBinds, hevents, hlog]
      exact h
  | podDeleted key =>
      cases hact
      exact h
  | podPhaseChanged key phase =>
      cases hact
      exact h
  | receive =>
      obtain ⟨pod, rest, -, -, rfl⟩ := step_receive hact
      exact h
  | schedule listFails order bindFails emitFails =>
      obtain ⟨pod, -, rfl⟩ := step_schedule hact
      obtain ⟨-, -, -, ⟨-, hevents, hlog⟩ | ⟨hne, -, -, entry, hlog, ⟨hevents, rfl⟩ | ⟨hevents, rfl⟩⟩⟩ :=
        s.schedule_spec pod listFails order bindFails emitFails
      · exact eventsReportBinds_of_error h hevents hlog (filterMap_infoMessage_pickLog ..) rfl
      · exact eventsReportBinds_of_error h hevents hlog (filterMap_infoMessage_pickLog ..) rfl
      · rw [EventsReportBinds, hevents, hlog, List.map_append, List.filterMap_append,
          List.filterMap_append, h.1, State.pickLog, filterMap_infoMessage_pickLog, List.append_nil]
        refine ⟨rfl, fun e he => ?_⟩
        rcases List.mem_append.mp he with hold | hnew
        · exact h.2 e hold
        · exact ⟨pod, _, hne, List.mem_singleton.mp hnew⟩

/-- A pod asking one GPU is created on a cluster with a two-GPU node; the
scheduler receives it and places it, and every API call succeeds. -/
def placedPodRun : List Action :=
  [.podAdded (gpuPod "trainer" "" "Pending" oneGpu), .receive,
    .schedule (fun _ => false) (fun m => .stored m) false false]

end Events

end ToyScheduler.Placement
