import MavlinkRouter.System.Custody
import MavlinkRouter.System.Lifecycle
import MavlinkRouter.System.Ordering
import MavlinkRouter.System.Shutdown

/-!
# The endpoints the router knows and the tasks that stand for them

In every interleaving of the whole program the events the router is sent are orderly: an id is
registered once and withdrawn at most once, after its registration. As long as the router
takes events, the ids registered and not withdrawn are those some task answers for.
-/

namespace MavlinkRouter

open Library (LeaseEntry Custody execute execute_induction execute_invariant)
open Library.LeaseEntry (Regular Live openedIn closedIn)

namespace RouterLoop

/-- The events sent so far: the ones the task has handled and the ones that wait. -/
def announced (loop : RouterLoop) : List EndpointEvent :=
  loop.handled.filterMap Input.event? ++ loop.events.items

variable {oneshot : List UInt8 → UInt64} {before after : RouterLoop} {action : Action}

/-- Only a sent event is announced. -/
theorem Moves.announced_eq (h : Moves oneshot before action after)
    (hevent : action.event? = none) : after.announced = before.announced := by
  have hgrown : after.announced = before.announced ++ action.event?.toList := h.events_eq
  rwa [hevent, Option.toList_none, List.append_nil] at hgrown

/-- The task never opens the event channel again. -/
theorem Moves.receiverOpen (h : Moves oneshot before action after) :
    after.events.receiverOpen = before.events.receiverOpen ∨
      after.events.receiverOpen = false := by
  cases h with
  | sentEvent hsend => exact .inl (Library.Channel.receiverOpen_of_trySend hsend)
  | tookEvent _ _ _ hrecv => exact .inl (Library.Channel.receiverOpen_of_tryRecv hrecv)
  | closed => exact .inr rfl
  | _ => exact .inl rfl

/-- A task that has not swept its registry takes events. -/
theorem Moves.takes_events (h : Moves oneshot before action after)
    (hbefore : before.phase.isRunning = true → before.events.receiverOpen = true)
    (hafter : after.phase.isRunning = true) : after.events.receiverOpen = true := by
  cases h with
  | sentEvent hsend => exact (Library.Channel.receiverOpen_of_trySend hsend).trans (hbefore hafter)
  | turned _ hrunning => exact hbefore hrunning
  | tookEvent _ hrunning _ hrecv =>
    exact (Library.Channel.receiverOpen_of_tryRecv hrecv).trans (hbefore hrunning)
  | tookFrame _ hphase => exact hbefore (hphase ▸ rfl)
  | swept => cases hafter
  | closed => cases hafter
  | _ => exact hbefore hafter

end RouterLoop

section Orderly

variable {inputs : List Input}

/-- The ids that a list of inputs registers are those its events open. -/
theorem openedIn_events (inputs : List Input) :
    openedIn ((inputs.filterMap Input.event?).map EndpointEvent.lease) =
      Monitor.addedIn inputs := by
  rw [openedIn, List.filterMap_map, List.filterMap_filterMap, Monitor.addedIn]
  refine List.filterMap_congr fun input _ => ?_
  cases input with
  | event event => cases event <;> rfl
  | _ => rfl

private theorem closedIn_events (inputs : List Input) :
    closedIn ((inputs.filterMap Input.event?).map EndpointEvent.lease) =
      Monitor.removedIn inputs := by
  rw [closedIn, List.filterMap_map, List.filterMap_filterMap, Monitor.removedIn]
  refine List.filterMap_congr fun input _ => ?_
  cases input with
  | event event => cases event <;> rfl
  | _ => rfl

/-- A regular log is an orderly sequence of inputs. -/
theorem orderly_of_regular
    (h : Regular ((inputs.filterMap Input.event?).map EndpointEvent.lease)) :
    Monitor.Orderly inputs where
  added := openedIn_events inputs ▸ h.nodup_openedIn
  removed := closedIn_events inputs ▸ h.nodup_closedIn
  order := by
    rintro before input later id rfl hremoved
    cases input with
    | event event =>
      have hlease : event.lease = .closed id := by
        cases event with
        | peerRemoved parentId childId reason =>
          cases hremoved
          rfl
        | _ => cases hremoved
      have hcons : (Input.event event :: later).filterMap Input.event? =
          event :: later.filterMap Input.event? := rfl
      rw [List.filterMap_append, hcons, List.map_append, List.map_cons, hlease] at h
      have hlive := (h _ _ _ rfl).1
      rwa [openedIn_events] at hlive
    | _ => cases hremoved

end Orderly

namespace TaskNet

variable {table : MsgTable} {format : AddrFormat} {oneshot : List UInt8 → UInt64}
  {net after : TaskNet} {wiring : RouterWiring} {specs : List EndpointSpec}
  {actions : List Action}

/-- The router sends nothing to itself. -/
theorem Action.sends_nothing {action : Action} {inner : RouterLoop.Action}
    (h : action.inner? = some inner) : inner.event? = none ∧ inner.frame? = none := by
  cases action <;> cases h <;> exact ⟨rfl, rfl⟩

/-- The ids the allocator has not given out. -/
def unissued (net : TaskNet) : Set EndpointId :=
  {id | net.next.toNat ≤ id.value.toNat}

/-- What the events so far say about ids. -/
def log (net : TaskNet) : List (LeaseEntry EndpointId) :=
  net.loop.announced.map EndpointEvent.lease

/-- The books of the whole program are in order. -/
structure Kept (net : TaskNet) : Prop where
  custody : Custody net.unissued net.loop.events.receiverOpen net.log (reservedBy net.tasks)
    (heldBy net.tasks)
  sound : ∀ task ∈ net.tasks, task.control.Sound

private theorem kept_start (wiring : RouterWiring) (specs : List EndpointSpec) :
    (start wiring specs).Kept where
  custody := .empty _ _
  sound := List.forall_mem_nil _

/-- What the router task does leaves the books alone. -/
theorem Kept.setLoop (h : net.Kept) {action : RouterLoop.Action} {loop : RouterLoop}
    (hmoves : RouterLoop.Moves oneshot net.loop action loop) (hevent : action.event? = none) :
    (net.setLoop loop).Kept where
  custody := by
    have hlog : (net.setLoop loop).log = net.log :=
      congrArg (List.map _) (hmoves.announced_eq hevent)
    rw [hlog]
    rcases hmoves.receiverOpen with hsame | hclosed
    · change Custody _ loop.events.receiverOpen _ _ _
      rw [hsame]
      exact h.custody
    · change Custody _ loop.events.receiverOpen _ _ _
      rw [hclosed]
      exact h.custody.stop
  sound := h.sound

/-- The next id is fresh until it is taken. -/
theorem mem_unissued_next (net : TaskNet) : (⟨net.next⟩ : EndpointId) ∈ net.unissued :=
  le_refl net.next.toNat

private theorem toNat_next_add_one (h : net.next.toNat + 1 < 2 ^ 64) :
    (net.next + 1).toNat = net.next.toNat + 1 := by
  rw [UInt64.toNat_add]
  exact Nat.mod_eq_of_lt h

/-- One task among the others. -/
theorem exists_others {tasks : List Task} {index : ℕ} {task : Task}
    (h : tasks[index]? = some task) :
    ∃ others, tasks.Perm (task :: others) ∧
      ∀ moved, (tasks.set index moved).Perm (moved :: others) := by
  obtain ⟨before, later, htasks, hset⟩ := exists_split h
  refine ⟨before ++ later, ?_, fun moved => ?_⟩
  · rw [htasks]
    exact List.perm_middle
  · rw [hset]
    exact List.perm_middle

/-- The books with one task in front. -/
theorem perm_tasks {tasks others : List Task} {task : Task} (h : tasks.Perm (task :: others)) :
    (reservedBy tasks).Perm (task.control.reserved ++ reservedBy others) ∧
      (heldBy tasks).Perm (task.control.held task.id ++ heldBy others) :=
  ⟨h.flatMap_right _, h.flatMap_right _⟩

/-- The books with the task that has moved in front. -/
theorem perm_commit {tasks others : List Task} {moved : Task} (spawned : List Task)
    (h : tasks.Perm (moved :: others)) :
    (reservedBy (tasks ++ spawned)).Perm
        (moved.control.reserved ++ reservedBy spawned ++ reservedBy others) ∧
      (heldBy (tasks ++ spawned)).Perm
        (moved.control.held moved.id ++ heldBy spawned ++ heldBy others) := by
  have hperm : (tasks ++ spawned).Perm (moved :: (spawned ++ others)) :=
    (h.append_right spawned).trans (List.perm_append_comm.cons moved)
  obtain ⟨hreserved, hheld⟩ := perm_tasks hperm
  have hsplit : reservedBy (spawned ++ others) = reservedBy spawned ++ reservedBy others :=
    List.flatMap_append
  have hsplit' : heldBy (spawned ++ others) = heldBy spawned ++ heldBy others :=
    List.flatMap_append
  rw [hsplit, ← List.append_assoc] at hreserved
  rw [hsplit', ← List.append_assoc] at hheld
  exact ⟨hreserved, hheld⟩

/-- What is announced after the channel has grown. -/
theorem announced_of_items (loop : RouterLoop) {sent : List EndpointEvent}
    (hhandled : loop.handled = net.loop.handled)
    (hitems : loop.events.items = net.loop.events.items ++ sent) :
    loop.announced = net.loop.announced ++ sent := by
  rw [RouterLoop.announced, RouterLoop.announced, hhandled, hitems, List.append_assoc]

/-- A turn changes its own task and adds those it spawns. -/
theorem mem_tasks_commit {index : ℕ} {task other : Task} {turn : Turn Control}
    (h : other ∈ (net.commit index task turn).tasks) :
    other ∈ net.tasks ∨ other = ⟨task.id, turn.control⟩ ∨ other ∈ turn.spawned := by
  rcases List.mem_append.mp h with hset | hspawned
  · exact (List.mem_or_eq_of_mem_set hset).imp_right .inl
  · exact .inr (.inr hspawned)

section Spawned

variable {spec : EndpointSpec} {specs : List EndpointSpec} {wiring : Wiring}

/-- Spawning announces the endpoint. -/
theorem announced_spawned
    (hevents : (net.wiring ⟨net.next⟩).events.trySend (spec.spawn ⟨net.next⟩).1 =
      .ok wiring.events) :
    (net.spawned spec specs (true, wiring)).loop.announced =
      net.loop.announced ++ [(spec.spawn ⟨net.next⟩).1] :=
  announced_of_items _ rfl (Library.Channel.items_of_trySend hevents)

/-- Spawning adds the endpoint's task. -/
theorem mem_tasks_spawned {task : Task}
    (h : task ∈ (net.spawned spec specs (true, wiring)).tasks) :
    task ∈ net.tasks ∨ task = (spec.spawn ⟨net.next⟩).2 :=
  (List.mem_append.mp h).imp_right List.mem_singleton.mp

/-- An endpoint whose event cannot be sent gets no task. -/
theorem tasks_spawned_false : (net.spawned spec specs (false, wiring)).tasks = net.tasks :=
  List.append_nil _

end Spawned

/-- The allocator counts the ids it gives out. -/
theorem next_commit (index : ℕ) (task : Task) {turn : Turn Control}
    (hallocated : turn.allocated ≤ 1) (hcount : net.next.toNat + 1 < 2 ^ 64) :
    (net.commit index task turn).next.toNat = net.next.toNat + turn.allocated := by
  change (net.next + UInt64.ofNat turn.allocated).toNat = _
  rcases Nat.le_one_iff_eq_zero_or_eq_one.mp hallocated with hzero | hone
  · rw [hzero]
    exact congrArg UInt64.toNat (UInt64.add_zero _)
  · rw [hone]
    exact toNat_next_add_one hcount

/-- The task of a peer is sound. -/
theorem sound_of_parent {control : Control} (h : control.parent?.isSome = true) :
    control.Sound := by
  cases control with
  | udps spec task => cases h
  | _ => trivial

/-- A turn of a task keeps the books. -/
theorem Kept.commit (h : net.Kept) {index : ℕ} {task : Task} {taskStep : TaskStep}
    {turn : Turn Control} (hcount : net.next.toNat + 1 < 2 ^ 64)
    (htask : net.tasks[index]? = some task)
    (hturn : task.control.step (net.env table format task.id) task.id (net.wiring task.portId)
      taskStep = some turn) : (net.commit index task turn).Kept := by
  have hsound := h.sound task (List.mem_of_getElem? htask)
  have haccounts := Control.step_accounts hsound hturn
  have hnext := next_commit index task haccounts.allocated_le hcount
  obtain ⟨others, hperm, hset⟩ := exists_others htask
  constructor
  case sound =>
    intro other hother
    rcases mem_tasks_commit hother with hold | rfl | hspawned
    · exact h.sound other hold
    · exact Control.step_sound hsound hturn
    · exact sound_of_parent (haccounts.spawnsPeers other hspawned)
  case custody =>
    obtain ⟨hreserved, hheld⟩ := perm_tasks hperm
    obtain ⟨hreserved', hheld'⟩ := perm_commit turn.spawned (hset ⟨task.id, turn.control⟩)
    have hbefore : Custody net.unissued (net.wiring task.portId).events.receiverOpen net.log
        ((Control.roster task.id).reserved task.control ++ reservedBy others)
        ((Control.roster task.id).held task.control ++ heldBy others) :=
      h.custody.perm hreserved hheld
    obtain ⟨sent, hitems, hafter⟩ := haccounts.custody hbefore
      (fun id hid => by
        have hle : (net.commit index task turn).next.toNat ≤ id.value.toNat := hid
        exact Nat.le_trans (hnext ▸ Nat.le_add_right _ _) hle)
      (fun hone => by
        refine ⟨net.mem_unissued_next, fun hid => ?_⟩
        have hle : (net.commit index task turn).next.toNat ≤ net.next.toNat := hid
        omega)
    have hannounced : (net.commit index task turn).loop.announced = net.loop.announced ++ sent :=
      announced_of_items _ rfl hitems
    rw [log, hannounced, List.map_append]
    exact hafter.perm hreserved'.symm hheld'.symm

/-- A configured endpoint is announced under its id and its task keeps it. -/
theorem spawn_books (spec : EndpointSpec) (id : EndpointId) :
    (spec.spawn id).1.lease = .opened id ∧ (spec.spawn id).2.control.reserved = [] ∧
      (spec.spawn id).2.control.held (spec.spawn id).2.id = [id] ∧
      (spec.spawn id).2.control.Sound := by
  unfold EndpointSpec.spawn
  cases spec.kind with
  | udpServer endpoint => exact ⟨rfl, rfl, rfl, List.nodup_nil, fun _ => rfl⟩
  | _ => exact ⟨rfl, rfl, rfl, trivial⟩

/-- The next endpoint is registered and spawned, or skipped. -/
theorem Kept.spawned (h : net.Kept) (hcount : net.next.toNat + 1 < 2 ^ 64) {spec : EndpointSpec}
    {specs : List EndpointSpec} {sent : Bool} {wiring : Wiring}
    (hsend : (net.wiring ⟨net.next⟩).sendEvent (spec.spawn ⟨net.next⟩).1 = some (sent, wiring)) :
    (net.spawned spec specs (sent, wiring)).Kept := by
  obtain ⟨hlease, hreserved, hheld, hsound⟩ := spawn_books spec ⟨net.next⟩
  have hnext := toNat_next_add_one hcount
  have htaken : Custody (net.spawned spec specs (sent, wiring)).unissued
      net.loop.events.receiverOpen net.log (⟨net.next⟩ :: reservedBy net.tasks)
      (heldBy net.tasks) := by
    refine h.custody.reserve net.mem_unissued_next (fun id hid => ?_) fun hid => ?_
    · have hle : (net.next + 1).toNat ≤ id.value.toNat := hid
      rw [hnext] at hle
      exact Nat.le_of_succ_le hle
    · have hle : (net.next + 1).toNat ≤ net.next.toNat := hid
      omega
  cases sent with
  | true =>
    obtain ⟨hevents, -⟩ := Wiring.sendEvent_true hsend
    have hlog : (net.spawned spec specs (true, wiring)).log = net.log ++ [.opened ⟨net.next⟩] := by
      rw [log, announced_spawned hevents, List.map_append, List.map_singleton, hlease, log]
    have hopen : wiring.events.receiverOpen = net.loop.events.receiverOpen :=
      Library.Channel.receiverOpen_of_trySend hevents
    constructor
    case custody =>
      rw [hlog]
      change Custody _ wiring.events.receiverOpen _ (reservedBy (net.tasks ++ [_]))
        (heldBy (net.tasks ++ [_]))
      rw [hopen]
      refine htaken.opened.perm (.of_eq ?_) ?_
      · simp [reservedBy, hreserved]
      · simpa [heldBy, hheld] using (List.perm_append_singleton _ _).symm
    case sound =>
      intro task htask
      rcases mem_tasks_spawned htask with hold | rfl
      · exact h.sound task hold
      · exact hsound
  | false =>
    obtain ⟨-, rfl⟩ := Wiring.sendEvent_false hsend
    constructor
    case custody =>
      rw [tasks_spawned_false]
      exact htaken.discard
    case sound =>
      rw [tasks_spawned_false]
      exact h.sound

/-- Every step keeps the books, as long as there are ids left. -/
theorem Kept.step (h : net.Kept) (hcount : net.next.toNat + 1 < 2 ^ 64) {action : Action}
    (hmoves : Moves table format oneshot net action after) :
    after.Kept ∧ after.next.toNat ≤ net.next.toNat + 1 := by
  cases hmoves with
  | looped hinner hloop =>
    have hevent := (Action.sends_nothing hinner).1
    exact ⟨h.setLoop (RouterLoop.step_moves hloop) hevent, Nat.le_succ _⟩
  | spawned _ hsend => exact ⟨h.spawned hcount hsend, (toNat_next_add_one hcount).le⟩
  | @turned index _ task turn htask hturn =>
    have hsound := h.sound task (List.mem_of_getElem? htask)
    have hallocated := (Control.step_accounts hsound hturn).allocated_le
    refine ⟨h.commit hcount htask hturn, ?_⟩
    rw [next_commit index task hallocated hcount]
    exact Nat.add_le_add_left hallocated _

/-- Induction along a run that is too short to wrap the allocator: a step may use that the books
are kept before and after it. -/
theorem kept_induction {motive : List Action → TaskNet → Prop}
    (hstart : motive [] (start wiring specs))
    (hstep : ∀ {done action before after},
      execute (step table format oneshot) (start wiring specs) (done ++ [action]) = some after →
      Moves table format oneshot before action after → before.Kept → after.Kept →
      motive done before → motive (done ++ [action]) after)
    (hrun : execute (step table format oneshot) (start wiring specs) actions = some net)
    (hcount : actions.length < 2 ^ 64) : net.Kept ∧ motive actions net := by
  suffices h : actions.length < 2 ^ 64 →
      (net.Kept ∧ motive actions net) ∧ net.next.toNat ≤ actions.length from (h hcount).1
  refine (execute_induction (motive := fun done reached =>
    execute (step table format oneshot) (start wiring specs) done = some reached ∧
      (done.length < 2 ^ 64 →
        (reached.Kept ∧ motive done reached) ∧ reached.next.toNat ≤ done.length)) ?_ ?_ hrun).2
  · exact ⟨rfl, fun _ => ⟨⟨kept_start wiring specs, hstart⟩, le_refl 0⟩⟩
  · rintro done before action after ⟨hreached, ih⟩ hnext
    have hreached' := Library.execute_snoc.mpr ⟨before, hreached, hnext⟩
    refine ⟨hreached', fun hlength => ?_⟩
    rw [List.length_append, List.length_singleton] at hlength ⊢
    obtain ⟨⟨hkept, hmotive⟩, hissued⟩ := ih (by omega)
    have hmoves := step_moves hnext
    obtain ⟨hkept', hissued'⟩ := hkept.step (by omega) hmoves
    exact ⟨⟨hkept', hstep hreached' hmoves hkept hkept' hmotive⟩, by omega⟩

/-- The books are kept along every run that is too short to wrap the allocator. -/
theorem kept_run
    (hrun : execute (step table format oneshot) (start wiring specs) actions = some net)
    (hcount : actions.length < 2 ^ 64) : net.Kept :=
  (kept_induction (motive := fun _ _ => True) trivial (fun _ _ _ _ _ => trivial) hrun hcount).1

/-- The inputs the router task has had, followed by those that wait for it. -/
def inputs (net : TaskNet) : List Input :=
  net.loop.handled ++ net.loop.events.items.map .event

/-- The inputs are the announced events. -/
theorem events_inputs (net : TaskNet) :
    net.inputs.filterMap Input.event? = net.loop.announced := by
  have hitems : (net.loop.events.items.map Input.event).filterMap Input.event? =
      net.loop.events.items := by
    rw [List.filterMap_map]
    exact List.filterMap_some
  rw [inputs, List.filterMap_append, hitems, RouterLoop.announced]

/-- Lifecycle: in every interleaving of the whole program each id is registered once and
withdrawn at most once, after its registration, as long as the 64-bit allocator has not
wrapped. -/
theorem lifecycle_orderly
    (hrun : execute (step table format oneshot) (start wiring specs) actions = some net)
    (hcount : actions.length < 2 ^ 64) : Monitor.Orderly net.inputs := by
  refine orderly_of_regular ?_
  rw [events_inputs]
  exact (kept_run hrun hcount).custody.regular

/-- A client connects, is announced, and leaves. -/
theorem lifecycle_orderly_client :
    let table : MsgTable := ⟨[], .nil⟩
    let format : AddrFormat := ⟨fun _ => "0.0.0.0", fun _ => "::"⟩
    let visit : Visit := .inOrder
    let first := start ⟨4, 4, .new 64, 0, 16⟩ [⟨.tcpServer ⟨.v4 0 5760, {}⟩, "gcs"⟩]
    let actions : List Action := [.spawn, .task 0 .check, .task 0 (.bind true), .task 0 .poll,
      .task 0 (.accept (some (.v4 1 5760))), .task 0 .announce, .poll visit 0, .poll visit 0,
      .task 1 (.session .poll), .task 1 (.session (.read .eof)), .task 1 .leave,
      .task 1 .drain, .task 1 .announce]
    ∃ net, execute (step table format fun _ => 0) first actions = some net ∧
      net.inputs.map Input.added? = [some ⟨0⟩, some ⟨1⟩, none] ∧
      net.inputs.map Input.removed? = [none, none, some ⟨1⟩] ∧ Monitor.Orderly net.inputs := by
  intro table format visit first actions
  have heval : ((execute (step table format fun _ => 0) first actions).map fun net =>
      (net.inputs.map Input.added?, net.inputs.map Input.removed?)) =
      some ([some ⟨0⟩, some ⟨1⟩, none], [none, none, some ⟨1⟩]) := by decide +kernel
  obtain ⟨net, hrun, hinputs⟩ := Option.map_eq_some_iff.mp heval
  obtain ⟨hadded, hremoved⟩ := Prod.mk.inj hinputs
  exact ⟨net, hrun, hadded, hremoved, lifecycle_orderly hrun (by decide)⟩

/-- The router as the handlers leave it, and the channels it listens to. -/
structure Follows (oneshot : List UInt8 → UInt64) (hub : Hub) (net : TaskNet) : Prop where
  router : net.loop.phase.isRunning = true →
    net.loop.router = (hub.run oneshot net.loop.handled).router
  events : net.loop.phase.isRunning = true → net.loop.events.receiverOpen = true

private theorem follows_start (wiring : RouterWiring) (specs : List EndpointSpec) :
    (start wiring specs).Follows oneshot
      (RouterLoop.startHub wiring fun _ => ⟨{}, .new defaultTxQueueFrames⟩) where
  router _ := rfl
  events _ := rfl

/-- Every step of the program is one the handlers of the router explain. -/
theorem Follows.step {hub : Hub} (h : net.Follows oneshot hub) {action : Action}
    (hmoves : Moves table format oneshot net action after) : after.Follows oneshot hub := by
  cases hmoves with
  | looped hinner hloop =>
    have hmoves := RouterLoop.step_moves hloop
    exact ⟨hmoves.router_eq h.router, hmoves.takes_events h.events⟩
  | spawned _ hsend =>
    refine ⟨h.router, fun hrunning => ?_⟩
    exact (Turn.sendEvent_cases hsend).1.events.trans (h.events hrunning)
  | turned htask hturn =>
    have hkeeps := (Control.step_lowers hturn).keeps
    exact ⟨h.router, fun hrunning => hkeeps.events.trans (h.events hrunning)⟩

/-- In every run of the program the router is where its handlers lead on the inputs it has had. -/
theorem follows_run
    (hrun : execute (step table format oneshot) (start wiring specs) actions = some net) :
    net.Follows oneshot
      (RouterLoop.startHub wiring fun _ => ⟨{}, .new defaultTxQueueFrames⟩) :=
  execute_invariant (motive := Follows oneshot _) (follows_start wiring specs)
    (fun h hstep => h.step (step_moves hstep)) hrun

/-- A running router task knows the endpoints whose registration it has handled, and no removal
since. -/
theorem lookup_isSome
    (hrun : execute (step table format oneshot) (start wiring specs) actions = some net)
    (hrunning : net.loop.phase.isRunning = true) (id : EndpointId) :
    (net.loop.router.routing.lookup id).isSome ↔ RegisteredIn id net.loop.handled := by
  rw [(follows_run hrun).router hrunning]
  exact Hub.lookup_run_isSome net.loop.handled id

/-- A task that has returned answers for its own id if its endpoint is a configured one, and
otherwise for nothing. -/
theorem held_of_returned {task : Task} (hsound : task.control.Sound)
    (hreturned : task.control.returned = true) :
    task.control.held task.id = if task.control.parent? = none then [task.id] else [] := by
  obtain ⟨id, control⟩ := task
  dsimp only at hsound hreturned ⊢
  cases control with
  | stream kind filters task => rfl
  | tcps spec task => rfl
  | tcpsChild parentId filters task =>
    cases task with
    | returned => rfl
    | _ => cases hreturned
  | udpc filters task => rfl
  | udps spec task =>
    obtain ⟨peers, phase⟩ := task
    cases phase with
    | returned =>
      have hempty : peers = [] := hsound.empty rfl
      subst hempty
      rfl
    | _ => cases hreturned
  | peerWriter parentId task => rfl

/-- No registration is left behind. In runs of fewer than 2^64 steps and until the final sweep,
once the router has handled every event sent to it, the endpoints it knows are those that exactly
one task answers for; when all endpoint tasks have returned, they are the configured ones. -/
theorem registry_matches_tasks
    (hrun : execute (step table format oneshot) (start wiring specs) actions = some net)
    (hcount : actions.length < 2 ^ 64) (hrunning : net.loop.phase.isRunning = true)
    (hdrained : net.loop.events.items = []) :
    (heldBy net.tasks).Nodup ∧
    (∀ id, (net.loop.router.routing.lookup id).isSome ↔
      ∃ task ∈ net.tasks, id ∈ task.control.held task.id) ∧
    ((∀ task ∈ net.tasks, task.control.returned = true) →
      ∀ id, (net.loop.router.routing.lookup id).isSome ↔
        ∃ task ∈ net.tasks, task.control.parent? = none ∧ task.id = id) := by
  have hkept := kept_run hrun hcount
  have hopen := (follows_run hrun).events hrunning
  have hcustody := hkept.custody
  rw [hopen] at hcustody
  have hinputs : net.inputs = net.loop.handled := by
    rw [inputs, hdrained, List.map_nil, List.append_nil]
  have horderly : Monitor.Orderly net.loop.handled := by
    refine orderly_of_regular ?_
    rw [← hinputs, events_inputs]
    exact hcustody.regular
  have hknown : ∀ id, (net.loop.router.routing.lookup id).isSome ↔ id ∈ heldBy net.tasks := by
    intro id
    rw [lookup_isSome hrun hrunning, horderly.registeredIn_iff, ← hcustody.live_iff, Live, log,
      ← events_inputs, openedIn_events, closedIn_events, hinputs]
  refine ⟨(List.nodup_append.mp hcustody.nodup).2.1, fun id => ?_, fun hreturned id => ?_⟩
  · rw [hknown, heldBy, List.mem_flatMap]
  · rw [hknown, heldBy, List.mem_flatMap]
    refine exists_congr fun task => and_congr_right fun htask => ?_
    rw [held_of_returned (hkept.sound task htask) (hreturned task htask)]
    split
    · rename_i hparent
      simp [hparent, eq_comm]
    · rename_i hparent
      simp [hparent]

/-- A client connects and stays; the router has handled both registrations. -/
theorem registry_matches_tasks_client :
    let table : MsgTable := ⟨[], .nil⟩
    let format : AddrFormat := ⟨fun _ => "0.0.0.0", fun _ => "::"⟩
    let visit : Visit := .inOrder
    let first := start ⟨4, 4, .new 64, 0, 16⟩ [⟨.tcpServer ⟨.v4 0 5760, {}⟩, "gcs"⟩]
    let actions : List Action := [.spawn, .task 0 .check, .task 0 (.bind true), .task 0 .poll,
      .task 0 (.accept (some (.v4 1 5760))), .task 0 .announce, .poll visit 0, .poll visit 0,
      .poll visit 0, .poll visit 0]
    ∃ net, execute (step table format fun _ => 0) first actions = some net ∧
      net.loop.phase.isRunning = true ∧ net.loop.events.items.length = 0 ∧
      heldBy net.tasks = [⟨0⟩, ⟨1⟩] ∧
      ∀ id, (net.loop.router.routing.lookup id).isSome ↔
        ∃ task ∈ net.tasks, id ∈ task.control.held task.id := by
  intro table format visit first actions
  have heval : ((execute (step table format fun _ => 0) first actions).map fun net =>
      (net.loop.phase.isRunning, net.loop.events.items.length, heldBy net.tasks)) =
      some (true, 0, [⟨0⟩, ⟨1⟩]) := by decide +kernel
  obtain ⟨net, hrun, hfacts⟩ := Option.map_eq_some_iff.mp heval
  obtain ⟨hrunning, hrest⟩ := Prod.mk.inj hfacts
  obtain ⟨hdrained, hheld⟩ := Prod.mk.inj hrest
  exact ⟨net, hrun, hrunning, hdrained, hheld,
    (registry_matches_tasks hrun (by decide) hrunning (List.length_eq_zero_iff.mp hdrained)).2.1⟩

end TaskNet

end MavlinkRouter
