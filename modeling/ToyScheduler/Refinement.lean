import ToyScheduler.PlacementModel
import ToyScheduler.Snapshots

/-!
The scheduler refines the placement model. Consider runs from a cluster with
no pods in which:
- pods are created with no node, never under the name of a waiting snapshot;
- phase changes never make a finished pod active again;
- every `Schedule` step sees the true GPU use of the node it picks: that
  node's listing succeeds, and its check does not overflow `int64`.

Along these runs every step is, on the stored pods, a step of the placement
model or none: `receive` and a failed bind leave the pods as they are, and a
bind the API server accepts is a placement. So along these runs no node is
oversubscribed, and every pod with a node is a pod of this scheduler on a
node matching its `nodeSelector`.
-/

namespace ToyScheduler.Refinement

open ToyScheduler.Go ToyScheduler.Objects ToyScheduler.Picker ToyScheduler.GpuAccounting
open ToyScheduler.Scheduler ToyScheduler.Placement ToyScheduler.Capacity ToyScheduler.PendingPods
open ToyScheduler.Snapshots ToyScheduler.PlacementModel

/-- The actions of the capacity law, now with pods created: a created pod has
no node yet, and is not created under the namespace and name of a waiting
snapshot. -/
def ArrivalAction (s : State) : Action → Prop
  | .podAdded pod =>
      pod.spec.nodeName = "" ∧ ∀ q ∈ s.podQueue ++ s.scheduling.toList, q.key ≠ pod.key
  | action => CapacityAction s action

/-- A step by an action `ArrivalAction` allows. -/
def ArrivalStep (s s' : State) : Prop :=
  ∃ action, ArrivalAction s action ∧ step s action = some s'

section Simulation

variable {s s' : State}

theorem snapshotsCurrent_arrivalStep (h : SnapshotsCurrent s) (hstep : ArrivalStep s s') :
    SnapshotsCurrent s' := by
  obtain ⟨action, hact, h'⟩ := hstep
  refine snapshotsCurrent_step h ?_ h'
  cases action
  case podAdded pod => exact hact.2
  all_goals trivial

/-- From a state whose snapshots are current and whose nodes are within their
allocatable counts, every step an arrival run allows is, on the stored pods,
a step of the placement model over the cluster's nodes, or no change. A bind
the API server accepts places the stored pod of the snapshot's name. That pod
names this scheduler and selects what the snapshot selects, since the
snapshot is current. The node `Pick` chose has room for it, since that
node's listing and check are exact. -/
theorem placementStep_of_arrivalStep (hcur : SnapshotsCurrent s)
    (hwithin : WithinAllocatable s.cluster) (hstep : ArrivalStep s s') :
    PlacementStep s.cluster.nodes s.cluster.pods s'.cluster.pods ∨
      s'.cluster.pods = s.cluster.pods := by
  obtain ⟨action, hact, h'⟩ := hstep
  cases action with
  | podAdded pod =>
      obtain ⟨hfresh, hpods, -⟩ := step_podAdded h'
      exact .inl (hpods ▸ .create pod hfresh hact.1)
  | podDeleted key =>
      cases h'
      exact .inl (.delete key)
  | podPhaseChanged key phase =>
      cases h'
      exact .inl (.setPhase key phase hact)
  | receive =>
      obtain ⟨pod, rest, -, -, rfl⟩ := step_receive h'
      exact .inr rfl
  | schedule listFails order bindFails emitFails =>
      obtain ⟨pod, hheld, rfl⟩ := step_schedule h'
      rcases hcur.schedule_pods hheld listFails order bindFails emitFails with
        hpods | ⟨hne, q, hq, hqkey, hunsched, hspec, hpods⟩
      · exact .inr hpods
      obtain ⟨hlist, hfits⟩ := hact pod hheld hne
      obtain ⟨chosen, hchosen, hchosenName, hroom⟩ := pick_within_allocatable
        (s.cluster.picker listFails) order pod (s.cluster.listNodes pod.spec.nodeSelector)
        (s.cluster.nodup_listNodes _)
        (fun node hnode => hwithin node ((Cluster.mem_listNodes _ _ _).mp hnode).1) hne hlist hfits
      obtain ⟨hmem, hmatch⟩ := (Cluster.mem_listNodes _ _ _).mp hchosen
      have hplace := PlacementStep.place q hq hunsched chosen hmem
        (by rw [hspec.2.1]; exact (selectorMatches_iff _ _).mp hmatch)
        (by rw [HasRoom, hspec.podGpuRequest_eq]; exact hroom)
      rw [hqkey, hchosenName] at hplace
      exact .inl (hpods ▸ hplace)

variable {nodes : List Node} {hnodes : (nodes.map Node.name).Nodup}

theorem arrivalRun_simulated (hnames : ∀ node ∈ nodes, node.name ≠ "")
    (hrun : Relation.ReflTransGen ArrivalStep (init nodes hnodes) s) :
    SnapshotsCurrent s ∧ s.cluster.nodes = nodes ∧
      Relation.ReflTransGen (PlacementStep nodes) [] s.cluster.pods := by
  induction hrun with
  | refl => exact ⟨snapshotsCurrent_init nodes hnodes, rfl, .refl⟩
  | tail _ hstep ih =>
      obtain ⟨hcur, hnodes', hplaced⟩ := ih
      have hwithin : WithinAllocatable _ := fun node hnode =>
        (placementSound_of_run hnodes hnames hplaced).within node (hnodes' ▸ hnode)
      refine ⟨snapshotsCurrent_arrivalStep hcur hstep, ?_, ?_⟩
      · obtain ⟨_, _, h'⟩ := hstep
        exact (nodes_step h').trans hnodes'
      · rcases placementStep_of_arrivalStep hcur hwithin hstep with hsim | hsim
        · exact hplaced.tail (hnodes' ▸ hsim)
        · exact hsim ▸ hplaced

end Simulation

variable {s : State} {nodes : List Node} {hnodes : (nodes.map Node.name).Nodup}

/-- From a cluster with no pods, along every run that creates pods with no
node (never under the name of a waiting snapshot), deletes them, changes
phases without making a finished pod active again, and schedules with a
successful listing of the picked node and no `int64` overflow in its check,
no node's Pending and Running pods request more GPUs than it can allocate. -/
theorem withinAllocatable_of_arrivalRun (hnames : ∀ node ∈ nodes, node.name ≠ "")
    (hrun : Relation.ReflTransGen ArrivalStep (init nodes hnodes) s) :
    WithinAllocatable s.cluster := by
  obtain ⟨-, hnodes', hplaced⟩ := arrivalRun_simulated hnames hrun
  exact fun node hnode => (placementSound_of_run hnodes hnames hplaced).within node (hnodes' ▸ hnode)

theorem heldTrainerState_arrivalRun :
    Relation.ReflTransGen ArrivalStep (init [gpuNode twoGpus] (by decide)) heldTrainerState :=
  heldTrainerState_reachable ⟨rfl, fun _ hq => by cases hq⟩ fun _ => trivial

theorem heldTrainer_arrivalStep : ArrivalStep heldTrainerState heldTrainerScheduled :=
  ⟨.schedule (fun _ => false) (fun m => .stored m) false false, fun pod hpod => by cases hpod; decide,
    rfl⟩

theorem within_after_trainer_placed :
    Relation.ReflTransGen ArrivalStep (init [gpuNode twoGpus] (by decide)) heldTrainerScheduled ∧
      WithinAllocatable heldTrainerScheduled.cluster ∧
      heldTrainerScheduled.log =
        [.infoS "calculated node GPU" [("node", "gpu-node"), ("allocatable", "2"), ("allocated", "0")],
          .infoS "selected node" [("node", "gpu-node")],
          .info "Successfully assigned default/trainer to gpu-node"] :=
  ⟨heldTrainerState_arrivalRun.tail heldTrainer_arrivalStep,
    withinAllocatable_of_arrivalRun (by decide) (heldTrainerState_arrivalRun.tail heldTrainer_arrivalStep),
    by decide⟩

/-- The placement model refines arrival runs from a cluster with no pods, the
stored pods being the mapping: the start has no pods, and every step an
arrival run takes from a state it reaches creates a pod with no node, deletes
one, changes a phase without making a finished pod active again, places a pod
of this scheduler with no node on a node with room that matches its
`nodeSelector`, or leaves the pods as they are. -/
theorem arrivalStep_refines_placement (hnames : ∀ node ∈ nodes, node.name ≠ "") :
    (init nodes hnodes).cluster.pods = [] ∧
      ∀ s s', Relation.ReflTransGen ArrivalStep (init nodes hnodes) s → ArrivalStep s s' →
        PlacementStep nodes s.cluster.pods s'.cluster.pods ∨ s'.cluster.pods = s.cluster.pods := by
  refine ⟨rfl, fun s s' hrun hstep => ?_⟩
  obtain ⟨hcur, hnodes', hplaced⟩ := arrivalRun_simulated hnames hrun
  have hwithin : WithinAllocatable s.cluster := fun node hnode =>
    (placementSound_of_run hnodes hnames hplaced).within node (hnodes' ▸ hnode)
  exact hnodes' ▸ placementStep_of_arrivalStep hcur hwithin hstep

theorem trainer_placement_refines :
    (init [gpuNode twoGpus] (by decide)).cluster.pods = [] ∧
      (PlacementStep [gpuNode twoGpus] heldTrainerState.cluster.pods
          heldTrainerScheduled.cluster.pods ∨
        heldTrainerScheduled.cluster.pods = heldTrainerState.cluster.pods) ∧
      heldTrainerScheduled.cluster.pods ≠ heldTrainerState.cluster.pods :=
  ⟨(arrivalStep_refines_placement (by decide)).1,
    (arrivalStep_refines_placement (by decide)).2 _ _ heldTrainerState_arrivalRun
      heldTrainer_arrivalStep,
    fun h => absurd (congrArg (List.map fun p => p.spec.nodeName) h) (by decide)⟩

/-- Along every arrival run from a cluster with no pods, every stored pod with
a node names this scheduler and sits on a node of the cluster whose labels
carry every key and value of its `nodeSelector`. -/
theorem placed_on_matching_node_of_arrivalRun (hnames : ∀ node ∈ nodes, node.name ≠ "")
    (hrun : Relation.ReflTransGen ArrivalStep (init nodes hnodes) s) {p : Pod}
    (hp : p ∈ s.cluster.pods) (hbound : p.spec.nodeName ≠ "") :
    p.spec.schedulerName = schedulerName ∧ ∃ node ∈ s.cluster.nodes, node.name = p.spec.nodeName ∧
      ∀ k v, p.spec.nodeSelector.lookup k = some v → node.labels.lookup k = some v := by
  obtain ⟨-, hnodes', hplaced⟩ := arrivalRun_simulated hnames hrun
  rw [hnodes']
  exact (placementSound_of_run hnodes hnames hplaced).placed p hp hbound

set_option maxRecDepth 1000 in
theorem placed_trainer_on_gpu_node :
    ∃ p ∈ heldTrainerScheduled.cluster.pods, p.spec.nodeName = "gpu-node" ∧
      p.spec.schedulerName = schedulerName ∧
      ∃ node ∈ heldTrainerScheduled.cluster.nodes, node.name = p.spec.nodeName ∧
        ∀ k v, p.spec.nodeSelector.lookup k = some v → node.labels.lookup k = some v := by
  obtain ⟨p, hp, hnode⟩ :
      ∃ p ∈ heldTrainerScheduled.cluster.pods, p.spec.nodeName = "gpu-node" := by decide
  exact ⟨p, hp, hnode, placed_on_matching_node_of_arrivalRun (by decide)
    (heldTrainerState_arrivalRun.tail heldTrainer_arrivalStep) hp (by rw [hnode]; decide)⟩

end ToyScheduler.Refinement
