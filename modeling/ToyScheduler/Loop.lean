import ToyScheduler.Capacity
import ToyScheduler.PendingPods
import ToyScheduler.Placement

namespace ToyScheduler.Loop

open ToyScheduler.Objects ToyScheduler.Picker ToyScheduler.Scheduler ToyScheduler.PendingPods
open ToyScheduler.Placement ToyScheduler.Capacity

/-- What the environment does during one call of `Schedule`: which pod
listings fail, the order of the `range` over `requested`, and whether the
`Bind` and `Emit` calls fail. -/
structure Round where
  listFails : String → Bool
  order : RangeChoice
  bindFails : Bool
  emitFails : Bool

/-- `Scheduler.Run`: `wait.Until(schd.Schedule, 0, quit)` calls `Schedule`
again and again. Here one call per round, with nothing else happening: each
call receives a pod from `podQueue` and schedules it. -/
def scheduleCalls : List Round → List Action
  | [] => []
  | round :: rounds =>
      .receive :: .schedule round.listFails round.order round.bindFails round.emitFails ::
        scheduleCalls rounds

/-- `pod` has been handled in `s`: the stored pod of its namespace and name
has a node, or a failed bind of it is logged. -/
def Handled (s : State) (pod : Pod) : Prop :=
  (∃ p ∈ s.cluster.pods, p.key = pod.key ∧ p.spec.nodeName ≠ "") ∨
    ∃ node, bindFailedEntry pod node ∈ s.log

section Handling

variable {s : State} (pod : Pod) (listFails : String → Bool) (order : RangeChoice)
  (bindFails emitFails : Bool)

theorem handled_schedule : Handled (s.schedule pod listFails order bindFails emitFails) pod := by
  rcases boundOrDropped_schedule s pod listFails order bindFails emitFails with
    hbound | ⟨_, node, hlog⟩
  · exact .inl hbound
  · exact .inr ⟨node, hlog ▸ List.mem_append_right _ (List.mem_singleton_self _)⟩

theorem Handled.schedule {q : Pod} (h : Handled s q) :
    Handled (s.schedule pod listFails order bindFails emitFails) q := by
  rcases h with ⟨p, hp, hpkey, hbound⟩ | ⟨node, hnode⟩
  · obtain ⟨p', hp', hkey, hnode⟩ := bound_schedule pod listFails order bindFails emitFails hp hbound
    exact .inl ⟨p', hp', hkey.trans hpkey, hnode ▸ hbound⟩
  · exact .inr ⟨node, (s.log_prefix_schedule pod listFails order bindFails emitFails).subset hnode⟩

end Handling

/-- From any state where `Schedule` holds no pod, calling it once per pod
waiting in `podQueue`, with nothing else happening and whatever the API calls
and Go's map order do, empties the queue. Each pod that was waiting is then
handled: the stored pod of its namespace and name has a node, or its failed
bind is logged. And every pod already handled stays handled. -/
theorem run_scheduleCalls (s : State) (hidle : s.scheduling = none) (rounds : List Round)
    (hlen : rounds.length = s.podQueue.length) :
    ∃ s', run s (scheduleCalls rounds) = some s' ∧ s'.podQueue = [] ∧ s'.scheduling = none ∧
      (∀ q ∈ s.podQueue, Handled s' q) ∧ ∀ q, Handled s q → Handled s' q := by
  induction rounds generalizing s with
  | nil =>
      have hqueue : s.podQueue = [] := List.length_eq_zero.mp hlen.symm
      exact ⟨s, rfl, hqueue, hidle, by simp [hqueue], fun _ h => h⟩
  | cons round rounds ih =>
      obtain ⟨pod, rest, hqueue⟩ : ∃ pod rest, s.podQueue = pod :: rest :=
        List.exists_cons_of_length_eq_add_one hlen.symm
      let held : State := { s with podQueue := rest, scheduling := some pod }
      have hcalls : run s (scheduleCalls (round :: rounds)) =
          run (held.schedule pod round.listFails round.order round.bindFails round.emitFails)
            (scheduleCalls rounds) := by
        have hreceive : step s .receive = some held := by simp [step, hidle, hqueue, held]
        simp only [scheduleCalls, run, hreceive, Option.some_bind]
        rfl
      have hspec := held.schedule_spec pod round.listFails round.order round.bindFails
        round.emitFails
      obtain ⟨s', hrun, hempty, hnone, hwaiting, hkeep⟩ :=
        ih (held.schedule pod round.listFails round.order round.bindFails round.emitFails)
          hspec.2.1 (by rw [hspec.1]; simpa [hqueue] using hlen)
      refine ⟨s', hcalls.trans hrun, hempty, hnone,
        fun q hq => ?_, fun q h => hkeep q ((show Handled held q from h).schedule ..)⟩
      rcases List.mem_cons.mp (hqueue ▸ hq) with rfl | hq
      · exact hkeep q (handled_schedule ..)
      · exact hwaiting q (by rw [hspec.1]; exact hq)

theorem run_one_call_binds_waiting_pod :
    ∃ s', run (gpuNodeState oneGpu) (scheduleCalls [⟨fun _ => false, fun m => .stored m, false, false⟩]) =
        some s' ∧ s'.podQueue = [] ∧ s'.scheduling = none ∧
      (∀ q ∈ (gpuNodeState oneGpu).podQueue, Handled s' q) ∧
      ∀ q, Handled (gpuNodeState oneGpu) q → Handled s' q :=
  run_scheduleCalls _ rfl _ rfl

end ToyScheduler.Loop
