import ToyScheduler.Picker

/-!
`cmd/kube-scheduler/sched.go`: the pod informer that feeds `podQueue`, and
the `Schedule` loop that takes a pod from it, picks a node, binds the pod and
emits an event.

The system is a state machine over `State`: the API server's store, the
channel `podQueue`, the pod the running `Schedule` call holds, and the
scheduler's log. Its actions are those of the scheduler (`receive`,
`schedule`) and of the rest of the cluster (pods created, deleted, or
changing phase); every choice the environment makes (which API calls fail,
Go's map order) is part of the action.
-/

namespace ToyScheduler.Scheduler

open ToyScheduler.Go ToyScheduler.Objects ToyScheduler.Picker

def schedulerName : String := "toyscheduler"

/-- The API server's store as the informers and `clientset` see it. Node
names and pod namespace/name pairs are unique. -/
structure Cluster where
  nodes : List Node
  pods : List Pod
  events : List Event
  nodes_nodup : (nodes.map Node.name).Nodup
  pods_nodup : (pods.map Pod.key).Nodup

namespace Cluster

/-- Creating `pod`; the API server refuses a namespace and name already in use. -/
def create (c : Cluster) (pod : Pod) : Option Cluster :=
  if h : pod.key ∈ c.pods.map Pod.key then none
  else some { c with
    pods := c.pods ++ [pod]
    pods_nodup := by
      rw [List.map_append, List.nodup_append]
      exact ⟨c.pods_nodup, List.nodup_singleton _, by simpa [List.disjoint_singleton] using h⟩ }

def delete (c : Cluster) (key : String × String) : Cluster :=
  { c with
    pods := c.pods.filter (·.key != key)
    pods_nodup := (List.Sublist.map _ (List.filter_sublist _)).nodup c.pods_nodup }

/-- Rewriting the pod `key` by `f`, which keeps its namespace and name. -/
def updatePod (c : Cluster) (key : String × String) (f : Pod → Pod)
    (hf : ∀ pod, (f pod).key = pod.key) : Cluster :=
  { c with
    pods := c.pods.map fun pod => if pod.key = key then f pod else pod
    pods_nodup := by
      rw [List.map_map]
      convert c.pods_nodup using 1
      refine List.map_congr_left fun pod _ => ?_
      by_cases h : pod.key = key <;> simp [h, hf] }

/-- The kubelet setting the phase of the pod `key`. -/
def setPhase (c : Cluster) (key : String × String) (phase : String) : Cluster :=
  c.updatePod key (fun pod => { pod with status := { phase := phase } }) fun _ => rfl

/-- The API server's handling of a posted `Binding`: refused when the target
names no node, when no pod has the binding's namespace and name, or when that
pod already has a node; otherwise the pod's `spec.nodeName` becomes the
target's name. -/
def bind (c : Cluster) (binding : Binding) : Option Cluster :=
  match c.pods.find? (·.key == (binding.ns, binding.name)) with
  | none => none
  | some pod =>
      if binding.target.name = "" ∨ pod.spec.nodeName ≠ "" then none
      else some (c.updatePod (binding.ns, binding.name)
        (fun pod => { pod with spec := { pod.spec with nodeName := binding.target.name } })
        fun _ => rfl)

def createEvent (c : Cluster) (event : Event) : Cluster :=
  { c with events := c.events ++ [event] }

/-- `nodeLister.List(labels.SelectorFromSet(selector))`. -/
def listNodes (c : Cluster) (selector : GoMap String) : List Node :=
  c.nodes.filter fun node => selectorMatches selector node.labels

/-- The `GpuBestfitPicker` as it sees the store `c`. -/
def picker (c : Cluster) (listFails : String → Bool) : GpuBestfitPicker := ⟨c.pods, listFails⟩

@[simp] theorem nodes_delete (c : Cluster) (key : String × String) :
    (c.delete key).nodes = c.nodes := rfl

@[simp] theorem pods_delete (c : Cluster) (key : String × String) :
    (c.delete key).pods = c.pods.filter (·.key != key) := rfl

@[simp] theorem events_delete (c : Cluster) (key : String × String) :
    (c.delete key).events = c.events := rfl

@[simp] theorem nodes_setPhase (c : Cluster) (key : String × String) (phase : String) :
    (c.setPhase key phase).nodes = c.nodes := rfl

@[simp] theorem pods_setPhase (c : Cluster) (key : String × String) (phase : String) :
    (c.setPhase key phase).pods =
      c.pods.map fun pod => if pod.key = key then { pod with status := { phase := phase } } else pod :=
  rfl

@[simp] theorem events_setPhase (c : Cluster) (key : String × String) (phase : String) :
    (c.setPhase key phase).events = c.events := rfl

theorem eq_of_key_eq {c : Cluster} {p q : Pod} (hp : p ∈ c.pods) (hq : q ∈ c.pods)
    (hkey : p.key = q.key) : p = q :=
  List.inj_on_of_nodup_map c.pods_nodup hp hq hkey

@[simp] theorem mem_listNodes (c : Cluster) (selector : GoMap String) (node : Node) :
    node ∈ c.listNodes selector ↔ node ∈ c.nodes ∧ selectorMatches selector node.labels = true :=
  List.mem_filter

theorem nodup_listNodes (c : Cluster) (selector : GoMap String) :
    ((c.listNodes selector).map Node.name).Nodup :=
  (List.Sublist.map _ (List.filter_sublist _)).nodup c.nodes_nodup

end Cluster

/-- The scheduler and the cluster around it: `podQueue` is the channel
`Scheduler.podQueue`, `scheduling` the pod the running `Schedule` call has
received from it, and `log` every line `Schedule` has written to klog, those
`Pick` writes included. The panic on a failed node listing is left out: the
informer's lister reads a local cache and does not fail here. -/
structure State where
  cluster : Cluster
  podQueue : List Pod
  scheduling : Option Pod
  log : List LogEntry

/-- The pod informer's `AddFunc`: a pod with no node that names this
scheduler is sent on `podQueue`. -/
def addFunc (podQueue : List Pod) (pod : Pod) : List Pod :=
  if pod.spec.nodeName = "" ∧ pod.spec.schedulerName = schedulerName then podQueue ++ [pod]
  else podQueue

/-- The `Binding` that `Scheduler.Bind` posts. -/
def bindingFor (pod : Pod) (node : String) : Binding :=
  { name := pod.name, ns := pod.ns, target := { apiVersion := "v1", kind := "Node", name := node } }

/-- `Scheduler.Bind`; `fails` is an error of the API call itself. -/
def bind (cluster : Cluster) (pod : Pod) (node : String) (fails : Bool) : Option Cluster :=
  if fails then none else cluster.bind (bindingFor pod node)

/-- The event `Scheduler.Emit` creates, without its timestamps. -/
def scheduledEvent (msg : String) (pod : Pod) : Event :=
  { count := 1, type := "Normal", reason := "Scheduled", message := msg,
    sourceComponent := schedulerName,
    involvedObject := { kind := "Pod", name := pod.name, ns := pod.ns, uid := pod.uid },
    generateName := pod.name ++ "-" }

/-- `Scheduler.Emit`; `fails` is an error of the API call. -/
def emit (cluster : Cluster) (msg : String) (pod : Pod) (fails : Bool) : Option Cluster :=
  if fails then none else some (cluster.createEvent (scheduledEvent msg pod))

/-- The log line of a failed `Bind`. -/
def bindFailedEntry (pod : Pod) (node : String) : LogEntry :=
  .error "failed to bind pod to node" [("pod", pod.name), ("node", node), ("namespace", pod.ns)]

/-- The message of a successful `Schedule`, also the event's message. -/
def assignedMessage (pod : Pod) (node : String) : String :=
  "Successfully assigned " ++ pod.ns ++ "/" ++ pod.name ++ " to " ++ node

def State.selectedNode (s : State) (pod : Pod) (listFails : String → Bool)
    (order : RangeChoice) : String :=
  (s.cluster.picker listFails).pick order pod (s.cluster.listNodes pod.spec.nodeSelector)

/-- The lines `Pick` logs while `Schedule` picks a node for `pod`. -/
def State.pickLog (s : State) (pod : Pod) (listFails : String → Bool) (order : RangeChoice) :
    List LogEntry :=
  (s.cluster.picker listFails).pickLog order pod (s.cluster.listNodes pod.spec.nodeSelector)

/-- `Scheduler.Schedule` after it has received `pod` from `podQueue`. -/
def State.schedule (s : State) (pod : Pod) (listFails : String → Bool) (order : RangeChoice)
    (bindFails emitFails : Bool) : State :=
  let selectedNode := s.selectedNode pod listFails order
  let log := s.log ++ s.pickLog pod listFails order
  match bind s.cluster pod selectedNode bindFails with
  | none => { s with scheduling := none, log := log ++ [bindFailedEntry pod selectedNode] }
  | some cluster =>
      let eventMessage := assignedMessage pod selectedNode
      match emit cluster eventMessage pod emitFails with
      | none =>
          { s with
            cluster := cluster
            scheduling := none
            log := log ++ [.error "failed to emit scheduled event" []] }
      | some cluster' =>
          { s with cluster := cluster', scheduling := none, log := log ++ [.info eventMessage] }

inductive Action where
  /-- A pod is created and the informer's `AddFunc` runs on it. -/
  | podAdded (pod : Pod)
  | podDeleted (key : String × String)
  | podPhaseChanged (key : String × String) (phase : String)
  /-- `pod := <-schd.podQueue`. -/
  | receive
  /-- The rest of `Schedule`, with the outcome of each API call it makes and
  Go's order for the `range` over `requested`. -/
  | schedule (listFails : String → Bool) (order : RangeChoice) (bindFails emitFails : Bool)

/-- One step of the system; `none` when the action cannot happen. -/
def step (s : State) : Action → Option State
  | .podAdded pod =>
      (s.cluster.create pod).map fun cluster =>
        { s with cluster := cluster, podQueue := addFunc s.podQueue pod }
  | .podDeleted key => some { s with cluster := s.cluster.delete key }
  | .podPhaseChanged key phase => some { s with cluster := s.cluster.setPhase key phase }
  | .receive =>
      match s.scheduling, s.podQueue with
      | none, pod :: rest => some { s with podQueue := rest, scheduling := some pod }
      | _, _ => none
  | .schedule listFails order bindFails emitFails =>
      s.scheduling.map fun pod => s.schedule pod listFails order bindFails emitFails

section Spec

variable {s s' : State}

/-- A binding the API server accepts names a node, is for a stored pod with
no node yet, and sets that pod's node and nothing else. -/
theorem Cluster.bind_eq_some {c c' : Cluster} {binding : Binding} (h : c.bind binding = some c') :
    binding.target.name ≠ "" ∧
      (∃ pod ∈ c.pods, pod.key = (binding.ns, binding.name) ∧ pod.spec.nodeName = "") ∧
      c'.nodes = c.nodes ∧ c'.events = c.events ∧
      c'.pods = c.pods.map fun pod => if pod.key = (binding.ns, binding.name)
        then { pod with spec := { pod.spec with nodeName := binding.target.name } } else pod := by
  unfold Cluster.bind at h
  split at h
  · cases h
  · next pod hfind =>
      split at h
      · cases h
      · next hname =>
          cases h
          refine ⟨fun h => hname (.inl h), ⟨pod, List.mem_of_find?_eq_some hfind, ?_, ?_⟩, rfl, rfl, rfl⟩
          · simpa using List.find?_some hfind
          · simpa using fun h => hname (.inr h)

theorem emit_eq_some {cluster c : Cluster} {msg : String} {pod : Pod} {fails : Bool}
    (h : emit cluster msg pod fails = some c) : c = cluster.createEvent (scheduledEvent msg pod) := by
  unfold emit at h
  split at h
  · cases h
  · exact (Option.some.inj h).symm

theorem Cluster.bind_isSome {c : Cluster} {binding : Binding} (hname : binding.target.name ≠ "")
    (hunbound : ∃ pod ∈ c.pods, pod.key = (binding.ns, binding.name) ∧ pod.spec.nodeName = "") :
    (c.bind binding).isSome := by
  obtain ⟨pod, hpod, hkey, hfree⟩ := hunbound
  unfold Cluster.bind
  cases hfind : c.pods.find? (·.key == (binding.ns, binding.name)) with
  | none => exact absurd (beq_iff_eq.mpr hkey) (List.find?_eq_none.mp hfind pod hpod)
  | some q =>
      have hqkey : q.key = (binding.ns, binding.name) := by simpa using List.find?_some hfind
      obtain rfl := Cluster.eq_of_key_eq (List.mem_of_find?_eq_some hfind) hpod (hqkey.trans hkey.symm)
      simp [hname, hfree]

/-- What `Schedule` does once it holds `pod`: it leaves `podQueue` and the
nodes alone, empties `scheduling`, and logs what `Pick` logs, then one line.
Either `Bind` failed, the pods and events are unchanged and that line is the
failure; or the selected node is not `""`, the stored pod of `pod`'s namespace
and name had no node and now has the selected one, and the line is an error if
`Emit` failed, and otherwise the event's message, after the event is created. -/
theorem State.schedule_spec (pod : Pod) (listFails : String → Bool) (order : RangeChoice)
    (bindFails emitFails : Bool) :
    (s.schedule pod listFails order bindFails emitFails).podQueue = s.podQueue ∧
    (s.schedule pod listFails order bindFails emitFails).scheduling = none ∧
    (s.schedule pod listFails order bindFails emitFails).cluster.nodes = s.cluster.nodes ∧
    (((s.schedule pod listFails order bindFails emitFails).cluster.pods = s.cluster.pods ∧
        (s.schedule pod listFails order bindFails emitFails).cluster.events = s.cluster.events ∧
        (s.schedule pod listFails order bindFails emitFails).log =
          s.log ++ s.pickLog pod listFails order ++
            [bindFailedEntry pod (s.selectedNode pod listFails order)]) ∨
      (s.selectedNode pod listFails order ≠ "" ∧
        (∃ p ∈ s.cluster.pods, p.key = pod.key ∧ p.spec.nodeName = "") ∧
        (s.schedule pod listFails order bindFails emitFails).cluster.pods =
          s.cluster.pods.map (fun p => if p.key = pod.key
            then { p with spec := { p.spec with nodeName := s.selectedNode pod listFails order } }
            else p) ∧
        ∃ entry, (s.schedule pod listFails order bindFails emitFails).log =
            s.log ++ s.pickLog pod listFails order ++ [entry] ∧
          ((s.schedule pod listFails order bindFails emitFails).cluster.events = s.cluster.events ∧
              entry = .error "failed to emit scheduled event" [] ∨
            (s.schedule pod listFails order bindFails emitFails).cluster.events =
                s.cluster.events ++
                  [scheduledEvent (assignedMessage pod (s.selectedNode pod listFails order)) pod] ∧
              entry = .info (assignedMessage pod (s.selectedNode pod listFails order))))) := by
  unfold State.schedule
  dsimp only
  generalize s.selectedNode pod listFails order = node
  split
  · exact ⟨rfl, rfl, rfl, .inl ⟨rfl, rfl, rfl⟩⟩
  · next cluster hbind =>
      unfold bind at hbind
      split at hbind
      · cases hbind
      · obtain ⟨hne, hunbound, hnodes, hevents, hpods⟩ := Cluster.bind_eq_some hbind
        split
        · exact ⟨rfl, rfl, hnodes, .inr ⟨hne, hunbound, hpods, _, rfl, .inl ⟨hevents, rfl⟩⟩⟩
        · next cluster' hemit =>
            obtain rfl := emit_eq_some hemit
            exact ⟨rfl, rfl, hnodes,
              .inr ⟨hne, hunbound, hpods, _, rfl, .inr ⟨by rw [← hevents]; rfl, rfl⟩⟩⟩

theorem State.log_prefix_schedule (pod : Pod) (listFails : String → Bool) (order : RangeChoice)
    (bindFails emitFails : Bool) : s.log <+: (s.schedule pod listFails order bindFails emitFails).log := by
  obtain ⟨-, -, -, ⟨-, -, hlog⟩ | ⟨-, -, -, _, hlog, -⟩⟩ :=
    s.schedule_spec pod listFails order bindFails emitFails <;>
  exact ⟨_, by rw [hlog, List.append_assoc]⟩

theorem State.pods_schedule_of_bind_eq_some (pod : Pod) (listFails : String → Bool)
    (order : RangeChoice) (bindFails emitFails : Bool) {c : Cluster}
    (hbind : bind s.cluster pod (s.selectedNode pod listFails order) bindFails = some c) :
    (s.schedule pod listFails order bindFails emitFails).cluster.pods = c.pods := by
  unfold State.schedule
  dsimp only
  rw [hbind]
  dsimp only
  split
  · rfl
  · next cluster' hemit =>
      obtain rfl := emit_eq_some hemit
      rfl

theorem step_podAdded {pod : Pod} (h : step s (.podAdded pod) = some s') :
    pod.key ∉ s.cluster.pods.map Pod.key ∧ s'.cluster.pods = s.cluster.pods ++ [pod] ∧
      s'.cluster.nodes = s.cluster.nodes ∧ s'.cluster.events = s.cluster.events ∧
      s'.podQueue = addFunc s.podQueue pod ∧ s'.scheduling = s.scheduling ∧ s'.log = s.log := by
  simp only [step, Option.map_eq_some'] at h
  obtain ⟨c, hc, rfl⟩ := h
  unfold Cluster.create at hc
  split at hc
  · cases hc
  · next hfresh =>
      cases hc
      exact ⟨hfresh, rfl, rfl, rfl, rfl, rfl, rfl⟩

theorem step_receive (h : step s .receive = some s') :
    ∃ pod rest, s.scheduling = none ∧ s.podQueue = pod :: rest ∧
      s' = { s with podQueue := rest, scheduling := some pod } := by
  simp only [step] at h
  split at h
  · next pod rest hscheduling hqueue =>
      cases h
      exact ⟨pod, rest, hscheduling, hqueue, rfl⟩
  · cases h

theorem step_schedule {listFails : String → Bool} {order : RangeChoice} {bindFails emitFails : Bool}
    (h : step s (.schedule listFails order bindFails emitFails) = some s') :
    ∃ pod, s.scheduling = some pod ∧ s' = s.schedule pod listFails order bindFails emitFails := by
  simp only [step, Option.map_eq_some'] at h
  obtain ⟨pod, hpod, rfl⟩ := h
  exact ⟨pod, hpod, rfl⟩

theorem nodes_step {action : Action} (h : step s action = some s') :
    s'.cluster.nodes = s.cluster.nodes := by
  cases action with
  | podAdded pod => exact (step_podAdded h).2.2.1
  | podDeleted key => cases h; rfl
  | podPhaseChanged key phase => cases h; rfl
  | receive =>
      obtain ⟨pod, rest, -, -, rfl⟩ := step_receive h
      rfl
  | schedule listFails order bindFails emitFails =>
      obtain ⟨pod, -, rfl⟩ := step_schedule h
      exact (s.schedule_spec pod listFails order bindFails emitFails).2.2.1

end Spec

def Step (s s' : State) : Prop := ∃ action, step s action = some s'

/-- The scheduler starting on a cluster with `nodes` and no pods yet: the
informer's initial listing delivers existing pods as `podAdded` actions. -/
def init (nodes : List Node) (hnodes : (nodes.map Node.name).Nodup) : State :=
  ⟨⟨nodes, [], [], hnodes, List.nodup_nil⟩, [], none, []⟩

/-- The actions taken one after another; `none` when one of them cannot happen. -/
def run (s : State) : List Action → Option State
  | [] => some s
  | action :: actions => (step s action).bind fun s' => run s' actions

theorem reflTransGen_of_run {s s' : State} (actions : List Action)
    (h : run s actions = some s') : Relation.ReflTransGen Step s s' := by
  induction actions generalizing s with
  | nil =>
      cases h
      exact .refl
  | cons action actions ih =>
      obtain ⟨s₁, hstep, hrest⟩ := Option.bind_eq_some.mp h
      exact .head ⟨action, hstep⟩ (ih hrest)

/-- The states the system reaches from `init`. -/
def Reachable (nodes : List Node) (hnodes : (nodes.map Node.name).Nodup) (s : State) : Prop :=
  Relation.ReflTransGen Step (init nodes hnodes) s

end ToyScheduler.Scheduler
