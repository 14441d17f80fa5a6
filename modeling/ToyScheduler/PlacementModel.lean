import ToyScheduler.Capacity
import ToyScheduler.PendingPods
import ToyScheduler.Placement

/-!
What the scheduler is for, as a model of its own: the pods of a cluster whose
nodes are fixed, changed by the rest of the cluster (pods created with no
node, deleted, or changing phase without a finished pod becoming active
again) and by placements. A placement puts a pod that names this scheduler
and has no node on a node whose labels carry the pod's `nodeSelector` and
that has room for it, in exact integers.

In this model no node is ever oversubscribed, and every pod with a node is a
pod of this scheduler on a node that matches it. `Refinement` relates the
scheduler's runs to it.
-/

namespace ToyScheduler.PlacementModel

open ToyScheduler.Go ToyScheduler.Objects ToyScheduler.Picker ToyScheduler.GpuAccounting
open ToyScheduler.Scheduler ToyScheduler.Placement ToyScheduler.Capacity ToyScheduler.PendingPods

/-- One step of the placement model over the nodes `nodes`. -/
inductive PlacementStep (nodes : List Node) : List Pod → List Pod → Prop
  /-- A pod is created with no node, under a namespace and name not in use. -/
  | create {pods : List Pod} (pod : Pod) (hfresh : pod.key ∉ pods.map Pod.key)
      (hfree : pod.spec.nodeName = "") :
      PlacementStep nodes pods (pods ++ [pod])
  /-- The pod `key` is deleted. -/
  | delete {pods : List Pod} (key : String × String) :
      PlacementStep nodes pods (pods.filter (·.key != key))
  /-- The pod `key` changes phase; a finished pod does not become active again. -/
  | setPhase {pods : List Pod} (key : String × String) (phase : String)
      (hexit : isActivePhase phase → ∀ p ∈ pods, p.key = key → isActivePhase p.status.phase) :
      PlacementStep nodes pods (pods.map fun p =>
        if p.key = key then { p with status := { phase := phase } } else p)
  /-- A pod of this scheduler with no node is put on a node of `nodes` whose
  labels carry its `nodeSelector` and that has room for it. -/
  | place {pods : List Pod} (pod : Pod) (hpod : pod ∈ pods) (hunsched : Unscheduled pod)
      (node : Node) (hnode : node ∈ nodes)
      (hmatch : ∀ k v, pod.spec.nodeSelector.lookup k = some v → node.labels.lookup k = some v)
      (hroom : HasRoom pods (podGpuRequest pod) node) :
      PlacementStep nodes pods (pods.map fun p =>
        if p.key = pod.key then { p with spec := { p.spec with nodeName := node.name } } else p)

/-- What the placement model guarantees of its pods: unique namespaces and
names, no node oversubscribed, and every pod with a node a pod of this
scheduler on a node of `nodes` whose labels carry its `nodeSelector`. -/
structure PlacementSound (nodes : List Node) (pods : List Pod) : Prop where
  keys_nodup : (pods.map Pod.key).Nodup
  within : ∀ node ∈ nodes, activeGpuRequest pods node.name ≤ allocatableGpu node
  placed : ∀ p ∈ pods, p.spec.nodeName ≠ "" → p.spec.schedulerName = schedulerName ∧
    ∃ node ∈ nodes, node.name = p.spec.nodeName ∧
      ∀ k v, p.spec.nodeSelector.lookup k = some v → node.labels.lookup k = some v

theorem map_key_map_update {pods : List Pod} {key : String × String} {f : Pod → Pod}
    (hf : ∀ p, (f p).key = p.key) :
    (pods.map fun p => if p.key = key then f p else p).map Pod.key = pods.map Pod.key := by
  rw [List.map_map]
  refine List.map_congr_left fun p _ => ?_
  by_cases h : p.key = key <;> simp [h, hf]

section Soundness

variable {nodes : List Node} {pods pods' : List Pod}

theorem placementSound_create (h : PlacementSound nodes pods)
    (hnames : ∀ node ∈ nodes, node.name ≠ "") {pod : Pod} (hfresh : pod.key ∉ pods.map Pod.key)
    (hfree : pod.spec.nodeName = "") :
    PlacementSound nodes (pods ++ [pod]) := by
  refine ⟨?_, fun node hnode => ?_, fun p hp hbound => ?_⟩
  · rw [List.map_append, List.nodup_append]
    exact ⟨h.keys_nodup, List.nodup_singleton _, by simpa [List.disjoint_singleton] using hfresh⟩
  · have hheld : gpuHeldOn node.name pod = 0 := by
      simp [gpuHeldOn, hfree, Ne.symm (hnames node hnode)]
    simpa [activeGpuRequest, hheld] using h.within node hnode
  · rcases List.mem_append.mp hp with hp | hp
    · exact h.placed p hp hbound
    · obtain rfl := List.mem_singleton.mp hp
      exact absurd hfree hbound

theorem placementSound_delete (h : PlacementSound nodes pods) (key : String × String) :
    PlacementSound nodes (pods.filter (·.key != key)) :=
  ⟨(List.Sublist.map _ (List.filter_sublist _)).nodup h.keys_nodup,
    fun node hnode => (activeGpuRequest_filter_le _).trans (h.within node hnode),
    fun p hp => h.placed p (List.mem_filter.mp hp).1⟩

theorem placementSound_setPhase (h : PlacementSound nodes pods) {key : String × String}
    {phase : String}
    (hexit : isActivePhase phase → ∀ p ∈ pods, p.key = key → isActivePhase p.status.phase) :
    PlacementSound nodes (pods.map fun p =>
      if p.key = key then { p with status := { phase := phase } } else p) := by
  refine ⟨by rw [map_key_map_update]; exacts [h.keys_nodup, fun _ => rfl],
    fun node hnode => (activeGpuRequest_setPhase_le hexit).trans (h.within node hnode),
    fun p' hp' => ?_⟩
  obtain ⟨p, hp, rfl⟩ := List.mem_map.mp hp'
  split <;> exact h.placed p hp

/-- A placement keeps the model sound: the placed pod is the only pod of its
namespace and name, it adds its request to the one node it goes to, which had
room for it, and that node matches it. -/
theorem placementSound_place (h : PlacementSound nodes pods)
    (hnodes : (nodes.map Node.name).Nodup) {pod : Pod} (hpod : pod ∈ pods)
    (hunsched : Unscheduled pod) {node : Node} (hnode : node ∈ nodes)
    (hmatch : ∀ k v, pod.spec.nodeSelector.lookup k = some v → node.labels.lookup k = some v)
    (hroom : HasRoom pods (podGpuRequest pod) node) :
    PlacementSound nodes (pods.map fun p =>
      if p.key = pod.key then { p with spec := { p.spec with nodeName := node.name } } else p) := by
  have hsame : ∀ p ∈ pods, p.key = pod.key → p = pod :=
    fun p hp hkey => List.inj_on_of_nodup_map h.keys_nodup hp hpod hkey
  refine ⟨by rw [map_key_map_update]; exacts [h.keys_nodup, fun _ => rfl], fun n hn => ?_,
    fun p' hp' => ?_⟩
  · refine (activeGpuRequest_assign_le h.keys_nodup
      (fun p hp hkey => by rw [hsame p hp hkey]) (podGpuRequest_nonneg pod)).trans ?_
    split
    · next hname =>
        obtain rfl : n = node := List.inj_on_of_nodup_map hnodes hn hnode hname
        exact hroom
    · simpa using h.within n hn
  · obtain ⟨p, hp, rfl⟩ := List.mem_map.mp hp'
    split
    · next hkey =>
        obtain rfl := hsame p hp hkey
        exact fun _ => ⟨hunsched.2, node, hnode, rfl, hmatch⟩
    · exact h.placed p hp

theorem placementSound_step (hnodes : (nodes.map Node.name).Nodup)
    (hnames : ∀ node ∈ nodes, node.name ≠ "") (h : PlacementSound nodes pods)
    (hstep : PlacementStep nodes pods pods') : PlacementSound nodes pods' := by
  cases hstep with
  | create pod hfresh hfree => exact placementSound_create h hnames hfresh hfree
  | delete key => exact placementSound_delete h key
  | setPhase key phase hexit => exact placementSound_setPhase h hexit
  | place pod hpod hunsched node hnode hmatch hroom =>
      exact placementSound_place h hnodes hpod hunsched hnode hmatch hroom

/-- Every run of the placement model from no pods keeps it sound. -/
theorem placementSound_of_run (hnodes : (nodes.map Node.name).Nodup)
    (hnames : ∀ node ∈ nodes, node.name ≠ "")
    (hrun : Relation.ReflTransGen (PlacementStep nodes) [] pods) : PlacementSound nodes pods := by
  induction hrun with
  | refl =>
      exact ⟨List.nodup_nil, fun node _ => by simp [activeGpuRequest, allocatableGpu_nonneg],
        fun _ hp => by cases hp⟩
  | tail _ hstep ih => exact placementSound_step hnodes hnames ih hstep

end Soundness

end ToyScheduler.PlacementModel
