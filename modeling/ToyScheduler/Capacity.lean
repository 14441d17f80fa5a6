import ToyScheduler.GpuAccounting
import ToyScheduler.Scheduler

/-!
GPU capacity over runs of the scheduler: no node's Pending and Running pods
request more GPUs than the node can allocate, counted in exact integers.

The law holds along runs in which every `Schedule` step sees the true GPU
use of the node it picks: the pod listing of that node succeeds, and the sum
`gpu + podRequest` that `SelectMostRequestedNodeForPod` checks for it fits
in `int64`. A failed listing counts the node as empty (`calculateNodeGpuRequest`
returns `0`), and then the node can be oversubscribed.
-/

namespace ToyScheduler.Capacity

open ToyScheduler.Go ToyScheduler.Objects ToyScheduler.Picker ToyScheduler.GpuAccounting
open ToyScheduler.Scheduler

/-- Every node's exact active GPU request is within its allocatable count. -/
def WithinAllocatable (c : Cluster) : Prop :=
  ∀ node ∈ c.nodes, activeGpuRequest c.pods node.name ≤ allocatableGpu node

/-- The pods waiting in `podQueue` or held by `Schedule` are the store's pods:
each requests what the stored pod of its namespace and name requests. -/
def QueueMatchesStore (s : State) : Prop :=
  ∀ q ∈ s.podQueue ++ s.scheduling.toList, ∀ p ∈ s.cluster.pods, p.key = q.key →
    podGpuRequest p = podGpuRequest q

instance (c : Cluster) : Decidable (WithinAllocatable c) :=
  inferInstanceAs (Decidable (∀ node ∈ c.nodes, _ ≤ _))

instance (s : State) : Decidable (QueueMatchesStore s) :=
  inferInstanceAs (Decidable (∀ q ∈ s.podQueue ++ s.scheduling.toList, ∀ p ∈ s.cluster.pods, _))

/-- The invariant of the capacity law. -/
structure GpuAccounted (s : State) : Prop where
  within : WithinAllocatable s.cluster
  queue_matches : QueueMatchesStore s

/-- The actions the capacity law covers: no pod is created, a phase change
never makes a finished pod active again, and a `Schedule` step that picks a
node does so with a successful listing of that node and without `int64`
overflow in its check. -/
def CapacityAction (s : State) : Action → Prop
  | .podAdded _ => False
  | .podDeleted _ => True
  | .podPhaseChanged key phase =>
      isActivePhase phase → ∀ p ∈ s.cluster.pods, p.key = key → isActivePhase p.status.phase
  | .receive => True
  | .schedule listFails order _ _ => ∀ pod ∈ s.scheduling,
      s.selectedNode pod listFails order ≠ "" →
        listFails (s.selectedNode pod listFails order) = false ∧
        activeGpuRequest s.cluster.pods (s.selectedNode pod listFails order) + podGpuRequest pod
          < 2 ^ 63

def CapacityStep (s s' : State) : Prop :=
  ∃ action, CapacityAction s action ∧ step s action = some s'

section Sums

variable {pods : List Pod} {nodeName : String}

theorem activeGpuRequest_filter_le (p : Pod → Bool) :
    activeGpuRequest (pods.filter p) nodeName ≤ activeGpuRequest pods nodeName :=
  List.Sublist.sum_le_sum ((List.filter_sublist _).map _)
    (by simp [gpuHeldOn_nonneg])

theorem activeGpuRequest_map_le {f : Pod → Pod}
    (h : ∀ p ∈ pods, gpuHeldOn nodeName (f p) ≤ gpuHeldOn nodeName p) :
    activeGpuRequest (pods.map f) nodeName ≤ activeGpuRequest pods nodeName := by
  simpa only [activeGpuRequest, List.map_map] using List.sum_le_sum h

theorem activeGpuRequest_map_le_add {f : Pod → Pod} {g : Pod → Int}
    (h : ∀ p ∈ pods, gpuHeldOn nodeName (f p) ≤ gpuHeldOn nodeName p + g p) :
    activeGpuRequest (pods.map f) nodeName ≤ activeGpuRequest pods nodeName + (pods.map g).sum := by
  simpa only [activeGpuRequest, List.map_map, List.sum_map_add] using List.sum_le_sum h

theorem sum_key_le {key : String × String} {g : Pod → Int} {bound : Int}
    (hnodup : (pods.map Pod.key).Nodup) (hbound : ∀ p ∈ pods, p.key = key → g p ≤ bound)
    (hzero : 0 ≤ bound) :
    (pods.map fun p => if p.key = key then g p else 0).sum ≤ bound := by
  induction pods with
  | nil => simpa using hzero
  | cons p pods ih =>
      rw [List.map_cons, List.nodup_cons] at hnodup
      rw [List.map_cons, List.sum_cons]
      by_cases hp : p.key = key
      · have hrest : (pods.map fun p => if p.key = key then g p else 0).sum = 0 :=
          List.sum_eq_zero (by
            simp only [List.mem_map]
            rintro _ ⟨p', hp', rfl⟩
            have : p'.key ≠ key := fun h => hnodup.1 (hp ▸ h ▸ List.mem_map_of_mem _ hp')
            simp [this])
        simpa [hp, hrest] using hbound p (by simp) hp
      · simpa [hp] using ih hnodup.2 fun p' hp' => hbound p' (by simp [hp'])

private theorem gpuHeldOn_assign_le (key : String × String) (node nodeName : String) (p : Pod) :
    gpuHeldOn nodeName (if p.key = key
        then { p with spec := { p.spec with nodeName := node } } else p) ≤
      gpuHeldOn nodeName p +
        (if nodeName = node ∧ p.key = key then podGpuRequest p else 0) := by
  split
  · next hkey =>
      have hheld := gpuHeldOn_nonneg nodeName p
      by_cases hnode : nodeName = node
      · simpa [hnode, hkey] using
          (gpuHeldOn_le node { p with spec := { p.spec with nodeName := node } }).trans
            (le_add_of_nonneg_left hheld)
      · simpa [gpuHeldOn, hnode, Ne.symm hnode] using hheld
  · simp [*]

theorem activeGpuRequest_assign_le (hnodup : (pods.map Pod.key).Nodup) {key : String × String}
    {node : String} {bound : Int} (hbound : ∀ p ∈ pods, p.key = key → podGpuRequest p ≤ bound)
    (hzero : 0 ≤ bound) :
    activeGpuRequest (pods.map fun p => if p.key = key
        then { p with spec := { p.spec with nodeName := node } } else p) nodeName ≤
      activeGpuRequest pods nodeName + if nodeName = node then bound else 0 := by
  refine (activeGpuRequest_map_le_add fun p _ => gpuHeldOn_assign_le key node nodeName p).trans
    (add_le_add_left ?_ _)
  split
  · next hn => simpa only [hn, true_and] using sum_key_le hnodup hbound hzero
  · next hn => simp [hn]

theorem activeGpuRequest_setPhase_le {key : String × String} {phase : String}
    (hexit : isActivePhase phase → ∀ p ∈ pods, p.key = key → isActivePhase p.status.phase) :
    activeGpuRequest (pods.map fun p =>
        if p.key = key then { p with status := { phase := phase } } else p) nodeName ≤
      activeGpuRequest pods nodeName := by
  refine activeGpuRequest_map_le fun p hp => ?_
  split
  · next hkey =>
      by_cases hactive : isActivePhase phase
      · simp [gpuHeldOn, hactive, hexit hactive p hp hkey, podGpuRequest]
      · simpa [gpuHeldOn, hactive] using gpuHeldOn_nonneg nodeName p
  · exact le_rfl

end Sums

section Preservation

variable {s s' : State}

private theorem queueMatchesStore_of (h : QueueMatchesStore s)
    (hpending : ∀ q ∈ s'.podQueue ++ s'.scheduling.toList, q ∈ s.podQueue ++ s.scheduling.toList)
    (hpods : ∀ p' ∈ s'.cluster.pods, ∃ p ∈ s.cluster.pods,
      p.key = p'.key ∧ podGpuRequest p = podGpuRequest p') :
    QueueMatchesStore s' := by
  intro q hq p' hp' hkey
  obtain ⟨p, hp, hk, hg⟩ := hpods p' hp'
  rw [← hg]
  exact h q (hpending q hq) p hp (hk.trans hkey)

private theorem exists_of_mem_map_update {pods : List Pod} {key : String × String}
    {f : Pod → Pod} (hf : ∀ p, (f p).key = p.key ∧ podGpuRequest (f p) = podGpuRequest p)
    {p' : Pod} (hp' : p' ∈ pods.map fun p => if p.key = key then f p else p) :
    ∃ p ∈ pods, p.key = p'.key ∧ podGpuRequest p = podGpuRequest p' := by
  obtain ⟨p, hp, rfl⟩ := List.mem_map.mp hp'
  refine ⟨p, hp, ?_⟩
  split
  · exact ⟨(hf p).1.symm, (hf p).2.symm⟩
  · exact ⟨rfl, rfl⟩

theorem gpuAccounted_podDeleted (hs : GpuAccounted s) (key : String × String) :
    GpuAccounted { s with cluster := s.cluster.delete key } :=
  ⟨fun node hnode => (activeGpuRequest_filter_le _).trans (hs.within node hnode),
    queueMatchesStore_of hs.queue_matches (fun _ hq => hq)
      fun p' hp' => ⟨p', (List.mem_filter.mp hp').1, rfl, rfl⟩⟩

theorem gpuAccounted_podPhaseChanged (hs : GpuAccounted s) {key : String × String}
    {phase : String}
    (hexit : isActivePhase phase → ∀ p ∈ s.cluster.pods, p.key = key →
      isActivePhase p.status.phase) :
    GpuAccounted { s with cluster := s.cluster.setPhase key phase } := by
  refine ⟨fun node hnode => (activeGpuRequest_setPhase_le hexit).trans (hs.within node hnode),
    queueMatchesStore_of hs.queue_matches (fun _ hq => hq)
      fun p' hp' => by
        simp only [Cluster.pods_setPhase] at hp'
        exact exists_of_mem_map_update (by exact fun _ => ⟨rfl, rfl⟩) hp'⟩

theorem gpuAccounted_receive (hs : GpuAccounted s) (h : step s .receive = some s') :
    GpuAccounted s' := by
  obtain ⟨pod, rest, hscheduling, hqueue, rfl⟩ := step_receive h
  refine ⟨hs.within, queueMatchesStore_of hs.queue_matches ?_ fun p' hp' => ⟨p', hp', rfl, rfl⟩⟩
  intro q hq
  simp only [hqueue, hscheduling, List.mem_append, List.mem_cons, Option.toList_some,
    Option.toList_none, List.mem_singleton, List.not_mem_nil] at hq ⊢
  tauto

theorem gpuAccounted_schedule (hs : GpuAccounted s) {listFails : String → Bool}
    {order : RangeChoice} {bindFails emitFails : Bool}
    (hcovered : CapacityAction s (.schedule listFails order bindFails emitFails))
    (h : step s (.schedule listFails order bindFails emitFails) = some s') :
    GpuAccounted s' := by
  obtain ⟨pod, hscheduling, rfl⟩ := step_schedule h
  obtain ⟨hqueue, hnone, hnodes, hcases⟩ := s.schedule_spec pod listFails order bindFails emitFails
  have hpending : ∀ q ∈ (s.schedule pod listFails order bindFails emitFails).podQueue ++
      (s.schedule pod listFails order bindFails emitFails).scheduling.toList,
      q ∈ s.podQueue ++ s.scheduling.toList := by
    intro q hq
    simp only [hqueue, hnone, Option.toList_none, List.append_nil] at hq
    exact List.mem_append_left _ hq
  rcases hcases with ⟨hpods, -⟩ | ⟨hne, -, hpods, -⟩
  · exact ⟨fun node hnode => hpods ▸ hs.within node (hnodes ▸ hnode),
      queueMatchesStore_of hs.queue_matches hpending fun p' hp' => ⟨p', hpods ▸ hp', rfl, rfl⟩⟩
  · refine ⟨?_, queueMatchesStore_of hs.queue_matches hpending fun p' hp' =>
      exists_of_mem_map_update (by exact fun _ => ⟨rfl, rfl⟩) (hpods ▸ hp')⟩
    obtain ⟨hlist, hfits⟩ := hcovered pod hscheduling hne
    have hlisted : ∀ node ∈ s.cluster.listNodes pod.spec.nodeSelector, node ∈ s.cluster.nodes :=
      fun node hnode => (List.mem_filter.mp hnode).1
    obtain ⟨chosen, hchosen, hname, hroom⟩ := pick_within_allocatable
      (s.cluster.picker listFails) order pod (s.cluster.listNodes pod.spec.nodeSelector)
      ((List.Sublist.map _ (List.filter_sublist _)).nodup s.cluster.nodes_nodup)
      (fun node hnode => hs.within node (hlisted node hnode)) hne hlist hfits
    intro node hnode
    rw [hnodes] at hnode
    rw [hpods]
    refine (activeGpuRequest_assign_le s.cluster.pods_nodup
      (fun p hp hkey => le_of_eq (hs.queue_matches pod (by simp [hscheduling]) p hp hkey))
      (podGpuRequest_nonneg pod)).trans ?_
    split
    · next hn =>
        obtain rfl : node = chosen := List.inj_on_of_nodup_map s.cluster.nodes_nodup hnode
          (hlisted chosen hchosen) (hn.trans hname.symm)
        exact hroom
    · simpa using hs.within node hnode

theorem gpuAccounted_step (hs : GpuAccounted s) (hstep : CapacityStep s s') : GpuAccounted s' := by
  obtain ⟨action, hcovered, h⟩ := hstep
  cases action with
  | podAdded pod => exact hcovered.elim
  | podDeleted key =>
      cases h
      exact gpuAccounted_podDeleted hs key
  | podPhaseChanged key phase =>
      cases h
      exact gpuAccounted_podPhaseChanged hs hcovered
  | receive => exact gpuAccounted_receive hs h
  | schedule listFails order bindFails emitFails => exact gpuAccounted_schedule hs hcovered h

end Preservation

/-- Along every run of covered actions that starts where the GPU accounting
holds, no node's Pending and Running pods request more GPUs than the node can
allocate. -/
theorem withinAllocatable_of_capacityRun {s₀ s : State} (h₀ : GpuAccounted s₀)
    (hrun : Relation.ReflTransGen CapacityStep s₀ s) : WithinAllocatable s.cluster := by
  have hs : GpuAccounted s := by
    induction hrun with
    | refl => exact h₀
    | tail _ hstep ih => exact gpuAccounted_step ih hstep
  exact hs.within

/-- `gpu-node` has two GPUs; a Running pod holds `held` of them and a pod
asking for one more waits in `podQueue`. -/
def gpuNodeState (held : Quantity) : State :=
  ⟨⟨[gpuNode twoGpus], [gpuPod "running" "gpu-node" "Running" held,
      gpuPod "pending" "" "Pending" oneGpu], [], by decide,
      by show ([("default", "running"), ("default", "pending")] : List (String × String)).Nodup
         decide⟩,
    [gpuPod "pending" "" "Pending" oneGpu], none, []⟩

/-- When the listing of a full node's pods fails, `calculateNodeGpuRequest`
counts the node as empty, `Pick` chooses it, and the binding oversubscribes
it: three GPUs requested on a node with two. -/
theorem oversubscribed_after_failed_listing :
    WithinAllocatable (gpuNodeState twoGpus).cluster ∧ QueueMatchesStore (gpuNodeState twoGpus) ∧
      ∃ s, run (gpuNodeState twoGpus)
          [.receive, .schedule (fun _ => true) (fun m => .stored m) false false] = some s ∧
        ¬ WithinAllocatable s.cluster :=
  ⟨by decide, by decide, _, rfl, by decide⟩

theorem withinAllocatable_after_covered_schedule :
    GpuAccounted (gpuNodeState oneGpu) ∧
      Relation.ReflTransGen CapacityStep (gpuNodeState oneGpu)
        (({ gpuNodeState oneGpu with
            podQueue := [], scheduling := some (gpuPod "pending" "" "Pending" oneGpu) } : State).schedule
          (gpuPod "pending" "" "Pending" oneGpu) (fun _ => false) (fun m => .stored m) false false) ∧
      WithinAllocatable
        (({ gpuNodeState oneGpu with
            podQueue := [], scheduling := some (gpuPod "pending" "" "Pending" oneGpu) } : State).schedule
          (gpuPod "pending" "" "Pending" oneGpu) (fun _ => false) (fun m => .stored m) false
            false).cluster := by
  have h₀ : GpuAccounted (gpuNodeState oneGpu) := ⟨by decide, by decide⟩
  have h₁ : CapacityStep (gpuNodeState oneGpu) { gpuNodeState oneGpu with
      podQueue := [], scheduling := some (gpuPod "pending" "" "Pending" oneGpu) } :=
    ⟨.receive, trivial, rfl⟩
  have hrun := (Relation.ReflTransGen.single h₁).tail
    ⟨.schedule (fun _ => false) (fun m => .stored m) false false,
      fun pod hpod => by cases hpod; decide, rfl⟩
  exact ⟨h₀, hrun, withinAllocatable_of_capacityRun h₀ hrun⟩

end ToyScheduler.Capacity
