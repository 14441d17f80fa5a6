import ToyScheduler.PendingPods
import ToyScheduler.Placement

/-!
Stale snapshots. The informer sends `podQueue` the pod object it saw at
creation, and `Bind` names the pod only by namespace and name. When a pod is
deleted and another is created under the same name while the snapshot waits,
`Schedule` picks a node for the snapshot and binds the new pod: one that may
name another scheduler, ask for other GPUs, or select other nodes. `Emit`
then reports the bind under the old pod's UID.

When no pod is created under the name of a waiting snapshot, the stored pod
of that name is the pod the snapshot was taken from, up to its node and
phase. Then `Schedule` binds only pods this scheduler has to place, each to a
node matching its own `nodeSelector`, and the `Scheduled` event names the
pod it bound.
-/

namespace ToyScheduler.Snapshots

open ToyScheduler.Go ToyScheduler.Objects ToyScheduler.Picker ToyScheduler.GpuAccounting
open ToyScheduler.Scheduler ToyScheduler.PendingPods ToyScheduler.Placement

/-- `p` is the pod `q` was taken from, up to its node and phase: the two
agree on the scheduler they name, their `nodeSelector`, their containers and
their UID. -/
def SameObject (p q : Pod) : Prop :=
  p.spec.schedulerName = q.spec.schedulerName ∧ p.spec.nodeSelector = q.spec.nodeSelector ∧
    p.spec.containers = q.spec.containers ∧ p.uid = q.uid

theorem SameObject.podGpuRequest_eq {p q : Pod} (h : SameObject p q) :
    podGpuRequest p = podGpuRequest q := by
  simp only [podGpuRequest, h.2.2.1]

/-- Every snapshot waiting in `podQueue` or held by `Schedule` is of a pod
this scheduler has to place, and the stored pod of its namespace and name, if
there is one, is the pod it was taken from. -/
def SnapshotsCurrent (s : State) : Prop :=
  ∀ q ∈ s.podQueue ++ s.scheduling.toList, Unscheduled q ∧
    ∀ p ∈ s.cluster.pods, p.key = q.key → SameObject p q

/-- The creations this file allows: none under the namespace and name of a
waiting snapshot. -/
def CreatesFreshName (s : State) : Action → Prop
  | .podAdded pod => ∀ q ∈ s.podQueue ++ s.scheduling.toList, q.key ≠ pod.key
  | _ => True

def FreshStep (s s' : State) : Prop :=
  ∃ action, CreatesFreshName s action ∧ step s action = some s'

theorem snapshotsCurrent_init (nodes : List Node) (hnodes : (nodes.map Node.name).Nodup) :
    SnapshotsCurrent (init nodes hnodes) :=
  fun _ hq => by cases hq

section Preservation

variable {s s' : State}

private theorem snapshotsCurrent_of (h : SnapshotsCurrent s)
    (hpending : ∀ q ∈ s'.podQueue ++ s'.scheduling.toList, q ∈ s.podQueue ++ s.scheduling.toList)
    (hpods : ∀ p' ∈ s'.cluster.pods, ∃ p ∈ s.cluster.pods,
      p.key = p'.key ∧ ∀ q, SameObject p q → SameObject p' q) :
    SnapshotsCurrent s' := by
  intro q hq
  obtain ⟨hunsched, hsame⟩ := h q (hpending q hq)
  refine ⟨hunsched, fun p' hp' hkey => ?_⟩
  obtain ⟨p, hp, hk, hspec⟩ := hpods p' hp'
  exact hspec q (hsame p hp (hk.trans hkey))

theorem snapshotsCurrent_podAdded (h : SnapshotsCurrent s) {pod : Pod}
    (hfresh : ∀ q ∈ s.podQueue ++ s.scheduling.toList, q.key ≠ pod.key)
    (hstep : step s (.podAdded pod) = some s') : SnapshotsCurrent s' := by
  obtain ⟨hnew, hpods, -, -, hqueue, hscheduling, -⟩ := step_podAdded hstep
  intro q hq
  rw [hqueue, hscheduling] at hq
  rw [hpods]
  have hq' : q ∈ s.podQueue ++ s.scheduling.toList ∨ (q = pod ∧ Unscheduled pod) := by
    rcases List.mem_append.mp hq with hq | hq
    · exact (mem_addFunc.mp hq).imp (List.mem_append_left _) id
    · exact .inl (List.mem_append_right _ hq)
  rcases hq' with hold | ⟨rfl, hunsched⟩
  · obtain ⟨hunsched, hsame⟩ := h q hold
    refine ⟨hunsched, fun p hp hkey => ?_⟩
    rcases List.mem_append.mp hp with hp | hp
    · exact hsame p hp hkey
    · rw [List.mem_singleton.mp hp] at hkey
      exact absurd hkey.symm (hfresh q hold)
  · refine ⟨hunsched, fun p hp hkey => ?_⟩
    rcases List.mem_append.mp hp with hp | hp
    · exact absurd (hkey ▸ List.mem_map_of_mem Pod.key hp) hnew
    · rw [List.mem_singleton.mp hp]
      exact ⟨rfl, rfl, rfl, rfl⟩

theorem snapshotsCurrent_step (h : SnapshotsCurrent s) {action : Action}
    (hfresh : CreatesFreshName s action) (hstep : step s action = some s') :
    SnapshotsCurrent s' := by
  cases action with
  | podAdded pod => exact snapshotsCurrent_podAdded h hfresh hstep
  | podDeleted key =>
      cases hstep
      exact snapshotsCurrent_of h (fun _ hq => hq)
        fun p' hp' => ⟨p', (List.mem_filter.mp hp').1, rfl, fun _ hq => hq⟩
  | podPhaseChanged key phase =>
      cases hstep
      refine snapshotsCurrent_of h (fun _ hq => hq) fun p' hp' => ?_
      obtain ⟨p, hp, rfl⟩ := List.mem_map.mp (by simpa using hp')
      exact ⟨p, hp, by split <;> rfl, fun q hq => by split <;> exact hq⟩
  | receive =>
      obtain ⟨pod, rest, hscheduling, hqueue, rfl⟩ := step_receive hstep
      refine snapshotsCurrent_of h (fun q hq => ?_) fun p' hp' => ⟨p', hp', rfl, fun _ hq => hq⟩
      simp only [hqueue, hscheduling, List.mem_append, List.mem_cons, Option.toList_some,
        Option.toList_none, List.mem_singleton, List.not_mem_nil] at hq ⊢
      tauto
  | schedule listFails order bindFails emitFails =>
      obtain ⟨pod, -, rfl⟩ := step_schedule hstep
      obtain ⟨hqueue, hnone, -, hcases⟩ := s.schedule_spec pod listFails order bindFails emitFails
      refine snapshotsCurrent_of h (fun q hq => ?_) fun p' hp' => ?_
      · simp only [hqueue, hnone, Option.toList_none, List.append_nil] at hq
        exact List.mem_append_left _ hq
      · rcases hcases with ⟨hpods, -⟩ | ⟨-, -, hpods, -⟩
        · exact ⟨p', hpods ▸ hp', rfl, fun _ hq => hq⟩
        · obtain ⟨p, hp, rfl⟩ := List.mem_map.mp (hpods ▸ hp')
          exact ⟨p, hp, by split <;> rfl, fun q hq => by split <;> exact hq⟩

theorem snapshotsCurrent_of_freshRun {s₀ : State} (h₀ : SnapshotsCurrent s₀)
    (hrun : Relation.ReflTransGen FreshStep s₀ s) : SnapshotsCurrent s := by
  induction hrun with
  | refl => exact h₀
  | tail _ hstep ih =>
      obtain ⟨action, hfresh, h⟩ := hstep
      exact snapshotsCurrent_step ih hfresh h

/-- What a `Schedule` step does to the pods when the snapshots are current:
nothing, or it binds to the selected node the stored pod of the held
snapshot's name, a pod of this scheduler with no node that the snapshot was
taken from. -/
theorem SnapshotsCurrent.schedule_pods (h : SnapshotsCurrent s) {pod : Pod}
    (hheld : s.scheduling = some pod) (listFails : String → Bool) (order : RangeChoice)
    (bindFails emitFails : Bool) :
    (s.schedule pod listFails order bindFails emitFails).cluster.pods = s.cluster.pods ∨
      s.selectedNode pod listFails order ≠ "" ∧ ∃ q ∈ s.cluster.pods, q.key = pod.key ∧
        Unscheduled q ∧ SameObject q pod ∧
        (s.schedule pod listFails order bindFails emitFails).cluster.pods =
          s.cluster.pods.map fun p => if p.key = pod.key
            then { p with spec := { p.spec with nodeName := s.selectedNode pod listFails order } }
            else p := by
  obtain ⟨hunsched, hsame⟩ := h pod (by simp [hheld])
  obtain ⟨-, -, -, ⟨hpods, -⟩ | ⟨hne, ⟨q, hq, hqkey, hqfree⟩, hpods, -⟩⟩ :=
    s.schedule_spec pod listFails order bindFails emitFails
  · exact .inl hpods
  · have hspec := hsame q hq hqkey
    exact .inr ⟨hne, q, hq, hqkey, ⟨hqfree, hspec.1.trans hunsched.2⟩, hspec, hpods⟩

end Preservation

/-- Along every run from a cluster with no pods in which no pod is created
under the namespace and name of a waiting snapshot, a `Schedule` step binds
only pods this scheduler has to place: each pod whose node it changes named
`toyscheduler` and had no node, and gets a node of the cluster whose labels
carry every key and value of its own `nodeSelector`. -/
theorem schedule_binds_own_pods {nodes : List Node} {hnodes : (nodes.map Node.name).Nodup}
    {s s' : State} (hs : Relation.ReflTransGen FreshStep (init nodes hnodes) s)
    {listFails : String → Bool} {order : RangeChoice} {bindFails emitFails : Bool}
    (hstep : step s (.schedule listFails order bindFails emitFails) = some s') {p p' : Pod}
    (hp : p ∈ s.cluster.pods) (hp' : p' ∈ s'.cluster.pods) (hkey : p'.key = p.key)
    (hmoved : p'.spec.nodeName ≠ p.spec.nodeName) :
    Unscheduled p ∧ ∃ node ∈ s.cluster.nodes, node.name = p'.spec.nodeName ∧
      ∀ k v, p.spec.nodeSelector.lookup k = some v → node.labels.lookup k = some v := by
  have hcur := snapshotsCurrent_of_freshRun (snapshotsCurrent_init nodes hnodes) hs
  obtain ⟨pod, hheld, rfl⟩ := step_schedule hstep
  rcases hcur.schedule_pods hheld listFails order bindFails emitFails with
    hpods | ⟨hne, q, hq, hqkey, hunsched, hspec, hpods⟩
  · exact absurd (by rw [Cluster.eq_of_key_eq (hpods ▸ hp') hp hkey]) hmoved
  · obtain ⟨r, hr, rfl⟩ := List.mem_map.mp (hpods ▸ hp')
    have hrkey : r.key = p.key := by split at hkey <;> exact hkey
    obtain rfl := Cluster.eq_of_key_eq hr hp hrkey
    by_cases hk : r.key = pod.key
    · rw [if_pos hk]
      obtain rfl := Cluster.eq_of_key_eq hq hr (hqkey.trans hk.symm)
      obtain ⟨node, hnode, hnodename, hmatch⟩ := selectedNode_mem hne
      exact ⟨hunsched, node, hnode, hnodename, hspec.2.1 ▸ hmatch⟩
    · rw [if_neg hk] at hmoved
      exact absurd rfl hmoved

/-- A cluster with a two-GPU node, where `trainer`, asking one GPU, was
created and `Schedule` has received it. -/
def heldTrainerState : State :=
  ⟨⟨[gpuNode twoGpus], [gpuPod "trainer" "" "Pending" oneGpu], [], by decide,
      List.nodup_singleton _⟩,
    [], some (gpuPod "trainer" "" "Pending" oneGpu), []⟩

/-- `Schedule` on `heldTrainerState`, every API call succeeding. -/
def heldTrainerScheduled : State :=
  heldTrainerState.schedule (gpuPod "trainer" "" "Pending" oneGpu) (fun _ => false)
    (fun m => .stored m) false false

theorem heldTrainerState_reachable {P : State → Action → Prop}
    (hadd : P (init [gpuNode twoGpus] (by decide)) (.podAdded (gpuPod "trainer" "" "Pending" oneGpu)))
    (hreceive : ∀ s, P s .receive) :
    Relation.ReflTransGen (fun s s' => ∃ action, P s action ∧ step s action = some s')
      (init [gpuNode twoGpus] (by decide)) heldTrainerState := by
  have hcreate : step (init [gpuNode twoGpus] (by decide))
      (.podAdded (gpuPod "trainer" "" "Pending" oneGpu)) =
        some ⟨⟨[gpuNode twoGpus], [gpuPod "trainer" "" "Pending" oneGpu], [], by decide,
          List.nodup_singleton _⟩, [gpuPod "trainer" "" "Pending" oneGpu], none, []⟩ := rfl
  exact .head ⟨_, hadd, hcreate⟩ (.single ⟨_, hreceive _, rfl⟩)

set_option maxRecDepth 1000 in
theorem trainer_bound_by_own_scheduler :
    Relation.ReflTransGen FreshStep (init [gpuNode twoGpus] (by decide)) heldTrainerState ∧
      ∃ p' ∈ heldTrainerScheduled.cluster.pods, p'.key = ("default", "trainer") ∧
        p'.spec.nodeName = "gpu-node" ∧ Unscheduled (gpuPod "trainer" "" "Pending" oneGpu) ∧
        ∃ node ∈ heldTrainerState.cluster.nodes, node.name = p'.spec.nodeName ∧
          ∀ k v, (gpuPod "trainer" "" "Pending" oneGpu).spec.nodeSelector.lookup k = some v →
            node.labels.lookup k = some v := by
  have hrun : Relation.ReflTransGen FreshStep (init [gpuNode twoGpus] (by decide))
      heldTrainerState :=
    heldTrainerState_reachable (fun _ hq => by cases hq) fun _ => trivial
  obtain ⟨p', hp', hkey, hnode⟩ : ∃ p' ∈ heldTrainerScheduled.cluster.pods,
      p'.key = ("default", "trainer") ∧ p'.spec.nodeName = "gpu-node" := by decide
  exact ⟨hrun, p', hp', hkey, hnode, schedule_binds_own_pods hrun
    (show step heldTrainerState (.schedule (fun _ => false) (fun m => .stored m) false false) =
      some heldTrainerScheduled from rfl)
    (List.mem_singleton_self _) hp' hkey (by rw [hnode]; decide)⟩

/-- Along every run from a cluster with no pods in which no pod is created
under the namespace and name of a waiting snapshot, the `Scheduled` event a
`Schedule` step creates names, by namespace, name and UID, the stored pod the
step bound, which had no node before, and its message reports that pod's new
node. -/
theorem scheduledEvent_names_bound_pod {nodes : List Node} {hnodes : (nodes.map Node.name).Nodup}
    {s s' : State} (hs : Relation.ReflTransGen FreshStep (init nodes hnodes) s)
    {listFails : String → Bool} {order : RangeChoice} {bindFails emitFails : Bool}
    (hstep : step s (.schedule listFails order bindFails emitFails) = some s') {e : Event}
    (he : e ∈ s'.cluster.events) (hnew : e ∉ s.cluster.events) :
    ∃ p ∈ s'.cluster.pods, p.key = (e.involvedObject.ns, e.involvedObject.name) ∧
      p.uid = e.involvedObject.uid ∧ p.spec.nodeName ≠ "" ∧
      e.message = assignedMessage p p.spec.nodeName ∧
      ∃ p₀ ∈ s.cluster.pods, p₀.key = p.key ∧ p₀.spec.nodeName = "" := by
  have hcur := snapshotsCurrent_of_freshRun (snapshotsCurrent_init nodes hnodes) hs
  obtain ⟨pod, hheld, rfl⟩ := step_schedule hstep
  obtain ⟨-, hsame⟩ := hcur pod (by simp [hheld])
  obtain ⟨-, -, -, ⟨-, hevents, -⟩ |
      ⟨hne, ⟨q, hq, hqkey, hqfree⟩, hpods, -, -, ⟨hevents, -⟩ | ⟨hevents, -⟩⟩⟩ :=
    s.schedule_spec pod listFails order bindFails emitFails
  · exact absurd (hevents ▸ he) hnew
  · exact absurd (hevents ▸ he) hnew
  rw [hevents] at he
  obtain rfl := List.mem_singleton.mp ((List.mem_append.mp he).resolve_left hnew)
  obtain ⟨hns, hname⟩ := Prod.mk.inj_iff.mp hqkey
  refine ⟨_, hpods ▸ List.mem_map_of_mem _ hq, ?_⟩
  simp only [hqkey, if_true]
  exact ⟨hqkey, (hsame q hq hqkey).2.2.2, hne, by simp [scheduledEvent, assignedMessage, hns, hname],
    q, hq, rfl, hqfree⟩

set_option maxRecDepth 1000 in
theorem trainer_event_names_bound_pod :
    ∃ e ∈ heldTrainerScheduled.cluster.events, e ∉ heldTrainerState.cluster.events ∧
      e.message = "Successfully assigned default/trainer to gpu-node" ∧
      ∃ p ∈ heldTrainerScheduled.cluster.pods, p.key = (e.involvedObject.ns, e.involvedObject.name) ∧
        p.uid = e.involvedObject.uid ∧ p.spec.nodeName ≠ "" ∧
        e.message = assignedMessage p p.spec.nodeName ∧
        ∃ p₀ ∈ heldTrainerState.cluster.pods, p₀.key = p.key ∧ p₀.spec.nodeName = "" := by
  have hrun : Relation.ReflTransGen FreshStep (init [gpuNode twoGpus] (by decide))
      heldTrainerState :=
    heldTrainerState_reachable (fun _ hq => by cases hq) fun _ => trivial
  obtain ⟨e, he, hnew, hmsg⟩ : ∃ e ∈ heldTrainerScheduled.cluster.events,
      e ∉ heldTrainerState.cluster.events ∧
        e.message = "Successfully assigned default/trainer to gpu-node" := by decide
  exact ⟨e, he, hnew, hmsg, scheduledEvent_names_bound_pod hrun
    (show step heldTrainerState (.schedule (fun _ => false) (fun m => .stored m) false false) =
      some heldTrainerScheduled from rfl) he hnew⟩

end ToyScheduler.Snapshots
