import ToyScheduler.Scheduler

namespace ToyScheduler.PendingPods

open ToyScheduler.Go ToyScheduler.Objects ToyScheduler.Picker ToyScheduler.Scheduler

/-- A pod this scheduler has to place: it has no node and names this
scheduler. -/
def Unscheduled (pod : Pod) : Prop :=
  pod.spec.nodeName = "" ∧ pod.spec.schedulerName = schedulerName

instance (pod : Pod) : Decidable (Unscheduled pod) :=
  inferInstanceAs (Decidable (_ ∧ _))

/-- Every pod the scheduler has to place waits in `podQueue` or is the pod
the running `Schedule` holds. -/
def QueuedOrHeld (s : State) : Prop :=
  ∀ pod ∈ s.cluster.pods, Unscheduled pod →
    (∃ q ∈ s.podQueue, q.key = pod.key) ∨ ∃ q ∈ s.scheduling, q.key = pod.key

instance (s : State) : Decidable (QueuedOrHeld s) :=
  inferInstanceAs (Decidable (∀ pod ∈ s.cluster.pods, Unscheduled pod → _ ∨ _))

/-- `Schedule` logged that `Bind` failed for a pod of `pod`'s namespace and
name. -/
def BindFailureLogged (s : State) (pod : Pod) : Prop :=
  ∃ node, bindFailedEntry pod node ∈ s.log

/-- Every pod the scheduler has to place waits in `podQueue`, is the pod the
running `Schedule` holds, or was dropped by a `Schedule` whose `Bind` failed. -/
def QueuedHeldOrLogged (s : State) : Prop :=
  ∀ pod ∈ s.cluster.pods, Unscheduled pod →
    (∃ q ∈ s.podQueue, q.key = pod.key) ∨ (∃ q ∈ s.scheduling, q.key = pod.key) ∨
      BindFailureLogged s pod

theorem bindFailedEntry_congr {q pod : Pod} (hkey : q.key = pod.key) (node : String) :
    bindFailedEntry q node = bindFailedEntry pod node := by
  obtain ⟨hns, hname⟩ := Prod.ext_iff.mp hkey
  simp only [bindFailedEntry]
  rw [show q.name = pod.name from hname, show q.ns = pod.ns from hns]

section Preservation

variable {s s' : State}

private theorem queuedHeldOrLogged_of (h : QueuedHeldOrLogged s)
    (hpods : ∀ p' ∈ s'.cluster.pods, Unscheduled p' →
      ∃ p ∈ s.cluster.pods, p.key = p'.key ∧ Unscheduled p)
    (hqueue : ∀ q ∈ s.podQueue, q ∈ s'.podQueue ∨ q ∈ s'.scheduling)
    (hheld : ∀ q ∈ s.scheduling, q ∈ s'.podQueue ∨ q ∈ s'.scheduling ∨
      ∃ node, bindFailedEntry q node ∈ s'.log)
    (hlog : s.log ⊆ s'.log) : QueuedHeldOrLogged s' := by
  intro p' hp' hunsched
  obtain ⟨p, hp, hkey, hunsched₀⟩ := hpods p' hp' hunsched
  rcases h p hp hunsched₀ with ⟨q, hq, hqkey⟩ | ⟨q, hq, hqkey⟩ | ⟨node, hnode⟩
  · rcases hqueue q hq with hq' | hq'
    · exact .inl ⟨q, hq', hqkey.trans hkey⟩
    · exact .inr (.inl ⟨q, hq', hqkey.trans hkey⟩)
  · rcases hheld q hq with hq' | hq' | ⟨node, hnode⟩
    · exact .inl ⟨q, hq', hqkey.trans hkey⟩
    · exact .inr (.inl ⟨q, hq', hqkey.trans hkey⟩)
    · exact .inr (.inr ⟨node, bindFailedEntry_congr (hqkey.trans hkey) node ▸ hnode⟩)
  · exact .inr (.inr ⟨node, bindFailedEntry_congr hkey node ▸ hlog hnode⟩)

theorem mem_addFunc {podQueue : List Pod} {pod q : Pod} :
    q ∈ addFunc podQueue pod ↔ q ∈ podQueue ∨ (q = pod ∧ Unscheduled pod) := by
  unfold addFunc
  split
  · next hunsched => simp [Unscheduled, hunsched.1, hunsched.2]
  · next hsched => simp [Unscheduled, hsched]

theorem queuedHeldOrLogged_podAdded (h : QueuedHeldOrLogged s) {pod : Pod}
    (hstep : step s (.podAdded pod) = some s') : QueuedHeldOrLogged s' := by
  obtain ⟨-, hpods, -, -, hqueue, hscheduling, hlog⟩ := step_podAdded hstep
  intro p hp hunsched
  rw [hpods] at hp
  rcases List.mem_append.mp hp with hold | hnew
  · rw [hqueue, hscheduling]
    rcases h p hold hunsched with ⟨q, hq, hkey⟩ | hheld | ⟨node, hnode⟩
    · exact .inl ⟨q, mem_addFunc.mpr (.inl hq), hkey⟩
    · exact .inr (.inl hheld)
    · exact .inr (.inr ⟨node, hlog ▸ hnode⟩)
  · obtain rfl := List.mem_singleton.mp hnew
    exact .inl ⟨p, hqueue ▸ mem_addFunc.mpr (.inr ⟨rfl, hunsched⟩), rfl⟩

theorem queuedHeldOrLogged_podDeleted (h : QueuedHeldOrLogged s) (key : String × String) :
    QueuedHeldOrLogged { s with cluster := s.cluster.delete key } :=
  queuedHeldOrLogged_of h (fun p' hp' hunsched => ⟨p', (List.mem_filter.mp hp').1, rfl, hunsched⟩)
    (fun _ hq => .inl hq) (fun _ hq => .inr (.inl hq)) (List.Subset.refl _)

theorem queuedHeldOrLogged_podPhaseChanged (h : QueuedHeldOrLogged s) (key : String × String)
    (phase : String) :
    QueuedHeldOrLogged { s with cluster := s.cluster.setPhase key phase } := by
  refine queuedHeldOrLogged_of h (fun p' hp' hunsched => ?_)
    (fun _ hq => .inl hq) (fun _ hq => .inr (.inl hq)) (List.Subset.refl _)
  obtain ⟨p, hp, rfl⟩ := List.mem_map.mp (by simpa using hp')
  refine ⟨p, hp, by split <;> rfl, ?_⟩
  split at hunsched <;> exact hunsched

theorem queuedHeldOrLogged_receive (h : QueuedHeldOrLogged s) (hstep : step s .receive = some s') :
    QueuedHeldOrLogged s' := by
  obtain ⟨pod, rest, hscheduling, hqueue, rfl⟩ := step_receive hstep
  refine queuedHeldOrLogged_of h (fun p' hp' hunsched => ⟨p', hp', rfl, hunsched⟩) ?_ ?_
    (List.Subset.refl _)
  · intro q hq
    rw [hqueue] at hq
    rcases List.mem_cons.mp hq with rfl | hrest
    · exact .inr rfl
    · exact .inl hrest
  · intro q hq
    rw [hscheduling] at hq
    cases hq

theorem queuedHeldOrLogged_schedule (h : QueuedHeldOrLogged s) {listFails : String → Bool}
    {order : RangeChoice} {bindFails emitFails : Bool}
    (hstep : step s (.schedule listFails order bindFails emitFails) = some s') :
    QueuedHeldOrLogged s' := by
  obtain ⟨pod, hscheduling, rfl⟩ := step_schedule hstep
  obtain ⟨hqueue, hnone, -, hcases⟩ := s.schedule_spec pod listFails order bindFails emitFails
  rcases hcases with ⟨hpods, -, hlog⟩ | ⟨hne, -, hpods, entry, hlog, -⟩
  · refine queuedHeldOrLogged_of h (fun p' hp' hunsched => ⟨p', hpods ▸ hp', rfl, hunsched⟩)
      (fun q hq => .inl (hqueue ▸ hq))
      (fun q hq => .inr (.inr ⟨s.selectedNode pod listFails order, ?_⟩))
      (s.log_prefix_schedule pod listFails order bindFails emitFails).subset
    rw [hscheduling] at hq
    cases hq
    rw [hlog]
    exact List.mem_append_right _ (List.mem_singleton_self _)
  · intro p' hp' hunsched
    rw [hpods] at hp'
    obtain ⟨p, hp, rfl⟩ := List.mem_map.mp hp'
    by_cases hkey : p.key = pod.key
    · rw [if_pos hkey] at hunsched
      exact absurd hunsched.1 hne
    · rw [if_neg hkey] at hunsched ⊢
      unfold BindFailureLogged
      rw [hqueue, hnone]
      rcases h p hp hunsched with hqueued | ⟨q, hq, hqkey⟩ | ⟨node, hnode⟩
      · exact .inl hqueued
      · rw [hscheduling] at hq
        cases hq
        exact absurd hqkey.symm hkey
      · exact .inr (.inr ⟨node, hlog ▸ List.mem_append_left _ (List.mem_append_left _ hnode)⟩)

theorem queuedHeldOrLogged_step (h : QueuedHeldOrLogged s) (hstep : Step s s') :
    QueuedHeldOrLogged s' := by
  obtain ⟨action, hact⟩ := hstep
  cases action with
  | podAdded pod => exact queuedHeldOrLogged_podAdded h hact
  | podDeleted key =>
      cases hact
      exact queuedHeldOrLogged_podDeleted h key
  | podPhaseChanged key phase =>
      cases hact
      exact queuedHeldOrLogged_podPhaseChanged h key phase
  | receive => exact queuedHeldOrLogged_receive h hact
  | schedule listFails order bindFails emitFails => exact queuedHeldOrLogged_schedule h hact

end Preservation

/-- What a `Schedule` step from `s` to `s'` made of the pod `pod` it held: the
stored pod of its namespace and name now has a node, or the last line the step
logged is the failure of its `Bind`. -/
def BoundOrDropped (s s' : State) (pod : Pod) : Prop :=
  (∃ p ∈ s'.cluster.pods, p.key = pod.key ∧ p.spec.nodeName ≠ "") ∨
    ∃ lines node, s'.log = s.log ++ lines ++ [bindFailedEntry pod node]

theorem boundOrDropped_schedule (s : State) (pod : Pod) (listFails : String → Bool)
    (order : RangeChoice) (bindFails emitFails : Bool) :
    BoundOrDropped s (s.schedule pod listFails order bindFails emitFails) pod := by
  obtain ⟨-, -, -, ⟨-, -, hlog⟩ | ⟨hne, ⟨q, hq, hqkey, -⟩, hpods, -⟩⟩ :=
    s.schedule_spec pod listFails order bindFails emitFails
  · exact .inr ⟨_, _, hlog⟩
  · refine .inl ⟨_, hpods ▸ List.mem_map_of_mem _ hq, ?_⟩
    simp only [hqkey, if_true]
    exact ⟨hqkey, hne⟩

theorem mem_podQueue_step {s s' : State} {action : Action} (h : step s action = some s')
    {q : Pod} (hq : q ∈ s'.podQueue) : q ∈ s.podQueue ∨ action = .podAdded q := by
  cases action with
  | podAdded pod =>
      rcases mem_addFunc.mp ((step_podAdded h).2.2.2.2.1 ▸ hq) with hq | ⟨rfl, -⟩
      exacts [.inl hq, .inr rfl]
  | podDeleted key => cases h; exact .inl hq
  | podPhaseChanged key phase => cases h; exact .inl hq
  | receive =>
      obtain ⟨pod, rest, -, hqueue, rfl⟩ := step_receive h
      exact .inl (hqueue ▸ List.mem_cons_of_mem pod hq)
  | schedule listFails order bindFails emitFails =>
      obtain ⟨pod, -, rfl⟩ := step_schedule h
      exact .inl ((s.schedule_spec pod listFails order bindFails emitFails).1 ▸ hq)

/-- A pod asking two GPUs is created on a cluster whose only node has one; the
scheduler receives it, `Pick` finds no node and returns `""`, and `Bind`
fails. -/
def unplaceablePodRun : List Action :=
  [.podAdded (gpuPod "trainer" "" "Pending" twoGpus), .receive,
    .schedule (fun _ => false) (fun m => .stored m) false false]

end ToyScheduler.PendingPods
