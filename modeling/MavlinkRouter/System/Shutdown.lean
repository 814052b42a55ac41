import MavlinkRouter.Library.Progress
import MavlinkRouter.System.Weights

/-!
# Shutdown

Once the cancellation token has been cancelled, the router and all tasks return, in every fair
interleaving and from every state the system can be in. Every step lowers a rank: first what
the router and the tasks may still turn to, with the events they may still exchange, and then
the work they have to do in between. And until the end some actor can go on: the router never
waits, and when it has returned its channels are closed, so that no send waits any more and
children return before those that join them.
-/

namespace MavlinkRouter

open Library (execute)

/-- How far the router is from its end once the token has been cancelled. -/
def Phase.weight : Phase → ℕ
  | .pollCancel => 3
  | .pollEvents => 5
  | .pollFrames => 4
  | .draining => 2
  | .sweeping => 1
  | .stopped => 0

namespace RouterLoop

variable {oneshot : List UInt8 → UInt64} {loop after : RouterLoop} {visit : Visit} {now : Instant}

/-- When the router has returned, its channels are closed. -/
def Closes (loop : RouterLoop) : Prop :=
  loop.phase = .stopped →
    loop.frames.receiverOpen = false ∧ loop.events.receiverOpen = false

/-- Every poll of a cancelled router brings it closer to its end or takes an event. -/
theorem poll_lowers (hcancelled : loop.cancelled = true)
    (h : loop.poll oneshot visit now = some after) :
    after.phase.weight + after.events.items.length <
      loop.phase.weight + loop.events.items.length := by
  unfold poll at h
  split at h
  · rename_i hphase
    cases h
    simp [hphase, hcancelled, Phase.weight]
  · rename_i hphase
    split at h
    · rename_i event events hrecv
      cases h
      have hitems := congrArg List.length (Library.Channel.items_of_tryRecv hrecv)
      rw [List.length_cons] at hitems
      simp only [hphase, Phase.weight]
      omega
    · cases h
      simp [hphase, Phase.weight]
  · rename_i hphase
    split at h
    · cases h
      simp [hphase, Phase.weight, handle]
    · cases h
      simp [hphase, Phase.weight]
  · rename_i hphase
    split at h
    · rename_i event events hrecv
      cases h
      have hitems := congrArg List.length (Library.Channel.items_of_tryRecv hrecv)
      rw [List.length_cons] at hitems
      simp only [hphase, Phase.weight, handle]
      omega
    · cases h
      simp [hphase, Phase.weight]
  · rename_i hphase
    cases h
    simp [hphase, Phase.weight]
  · cases h

/-- The last poll closes the channels, and sends keep closed ones closed. -/
theorem Moves.closes {action : Action} (h : Moves oneshot loop action after)
    (hcloses : loop.Closes) : after.Closes := by
  intro hstopped
  cases h with
  | sentEvent hsend =>
    exact (hcloses hstopped).imp_right (Library.Channel.receiverOpen_of_trySend hsend).trans
  | sentFrame hsend =>
    exact (hcloses hstopped).imp_left (Library.Channel.receiverOpen_of_trySend hsend).trans
  | turned _ _ _ hopen => cases (congrArg Phase.isRunning hstopped).symm.trans hopen
  | tookEvent _ _ _ _ hopen => cases (congrArg Phase.isRunning hstopped).symm.trans hopen
  | tookFrame => cases hstopped
  | swept => cases hstopped
  | closed => exact ⟨rfl, rfl⟩
  | _ => exact hcloses hstopped

/-- A cancelled token stays so. -/
theorem Moves.stays_cancelled {action : Action} (h : Moves oneshot loop action after)
    (hcancelled : loop.cancelled = true) : after.cancelled = true := by
  cases h with
  | cancelled => rfl
  | _ => exact hcancelled

/-- The router can always go on until it has returned. -/
theorem poll_isSome (hrunning : loop.phase ≠ .stopped) :
    (loop.poll oneshot visit now).isSome = true := by
  unfold poll
  split
  · rfl
  · split <;> rfl
  · split <;> rfl
  · split <;> rfl
  · rfl
  · rename_i hphase
    exact absurd hphase hrunning

end RouterLoop

/-- What a task has to do before it turns to something new, and the frames it may drain. -/
def Task.charge (ports : Ports) (task : Task) : ℕ :=
  task.control.work + (ports task.portId).txQueue.frames.length

namespace TaskNet

variable {table : MsgTable} {format : AddrFormat} {oneshot : List UInt8 → UInt64}
  {net after : TaskNet}

/-- What may still be turned to. -/
def turns (net : TaskNet) : ℕ :=
  net.loop.phase.weight + net.loop.events.items.length + 6 * net.specs.length +
    totalWeight net.tasks

/-- What is to be done in between. An access of the router lengthens a queue by at most one. -/
def load (net : TaskNet) : ℕ :=
  (net.tasks.length + 1) * net.loop.pending.length +
    (net.tasks.map (Task.charge net.loop.ports)).sum

/-- The rank of a state. -/
def rank (net : TaskNet) : ℕ ×ₗ ℕ :=
  toLex (net.turns, net.load)

private theorem rank_lt_of_turns (h : after.turns < net.turns) : after.rank < net.rank :=
  Prod.Lex.toLex_lt_toLex.mpr (.inl h)

private theorem rank_lt_of_load (hturns : after.turns ≤ net.turns) (hload : after.load < net.load) :
    after.rank < net.rank := by
  rcases hturns.lt_or_eq with hlt | heq
  · exact rank_lt_of_turns hlt
  · exact Prod.Lex.toLex_lt_toLex.mpr (.inr ⟨heq, hload⟩)

private theorem totalWeight_append (tasks tasks' : List Task) :
    totalWeight (tasks ++ tasks') = totalWeight tasks + totalWeight tasks' := by
  simp [totalWeight]

/-- A task has changed its port, with no more frames in its queue than before. -/
theorem charge_update {ports : Ports} {id : EndpointId} {port : Port}
    (h : port.txQueue.frames.length ≤ (ports id).txQueue.frames.length) (task : Task) :
    task.charge (Function.update ports id port) ≤ task.charge ports := by
  unfold Task.charge
  by_cases hid : task.portId = id
  · subst hid
    rw [Function.update_self]
    omega
  · rw [Function.update_of_ne hid]

/-- One access of the router. -/
theorem charge_apply (ports : Ports) (effect : Effect) (task : Task) :
    task.charge (ports.apply effect) ≤ task.charge ports + 1 := by
  have haccess := ((ports effect.target).access_sublist effect.access).length_le
  have hpushed : effect.access.pushed?.toList.length ≤ 1 := by
    cases effect.access.pushed? <;> simp
  rw [List.length_append] at haccess
  unfold Task.charge Ports.apply
  by_cases hid : task.portId = effect.target
  · rw [hid, Function.update_self]
    omega
  · rw [Function.update_of_ne hid]
    omega

private theorem sum_charge_apply (ports : Ports) (effect : Effect) (tasks : List Task) :
    (tasks.map (Task.charge (ports.apply effect))).sum ≤
      (tasks.map (Task.charge ports)).sum + tasks.length := by
  induction tasks with
  | nil => exact le_rfl
  | cons task tasks ih =>
    have hcharge := charge_apply ports effect task
    simp only [List.map_cons, List.sum_cons, List.length_cons]
    omega

/-- Replace one task of a list. -/
theorem exists_split {tasks : List Task} {index : ℕ} {task : Task}
    (h : tasks[index]? = some task) :
    ∃ before later, tasks = before ++ task :: later ∧
      ∀ moved, tasks.set index moved = before ++ moved :: later := by
  obtain ⟨hlt, rfl⟩ := List.getElem?_eq_some_iff.mp h
  refine ⟨tasks.take index, tasks.drop (index + 1), ?_, fun moved => ?_⟩
  · rw [List.getElem_cons_drop, List.take_append_drop]
  · rw [List.set_eq_take_append_cons_drop, if_pos hlt]

/-- A step of a task lowers the rank. -/
theorem commit_lowers {index : ℕ} {task : Task} {turn : Turn Control}
    (hcancelled : net.loop.cancelled = true) (htask : net.tasks[index]? = some task)
    (hturn : turn.Lowers Control.gauge task.control (net.wiring task.portId)) :
    (net.commit index task turn).rank < net.rank := by
  obtain ⟨before, later, htasks, hset⟩ := exists_split htask
  rw [htasks] at hset
  rcases hturn.lowers hcancelled with hadvances | hworks
  · refine rank_lt_of_turns ?_
    have hlt : turn.control.weight + totalWeight turn.spawned +
        turn.wiring.events.items.length < task.control.weight + net.loop.events.items.length :=
      hadvances
    simp only [turns, commit, share, hset, htasks, totalWeight_append]
    simp only [totalWeight, List.map_cons, List.sum_cons] at hlt ⊢
    omega
  · have hevents : turn.wiring.events = net.loop.events := hworks.events
    have hweight : turn.control.weight ≤ task.control.weight := hworks.weight
    have hqueued : turn.wiring.port.txQueue.frames.length ≤
        (net.loop.ports task.portId).txQueue.frames.length := hworks.queued
    have hwork : turn.control.work + turn.wiring.port.txQueue.frames.length <
        task.control.work + (net.loop.ports task.portId).txQueue.frames.length := hworks.work
    have hport : (⟨task.id, turn.control⟩ : Task).portId = task.portId := by
      have hpeer : turn.control.peer? = task.control.peer? := hworks.peer
      simp only [Task.portId, hpeer]
    refine rank_lt_of_load ?_ ?_
    · simp only [turns, commit, share, hset, htasks, hworks.spawned, hevents, List.append_nil,
        totalWeight_append]
      simp only [totalWeight, List.map_cons, List.sum_cons]
      omega
    · have hothers : ∀ tasks : List Task,
          (tasks.map (Task.charge
            (Function.update net.loop.ports task.portId turn.wiring.port))).sum ≤
              (tasks.map (Task.charge net.loop.ports)).sum :=
        fun tasks => List.sum_le_sum fun other _ => charge_update hqueued other
      have hbefore := hothers before
      have hlater := hothers later
      have hmoved : Task.charge (Function.update net.loop.ports task.portId turn.wiring.port)
          ⟨task.id, turn.control⟩ < Task.charge net.loop.ports task := by
        unfold Task.charge
        rw [hport, Function.update_self]
        exact hwork
      simp only [load, commit, share, hset, htasks, hworks.spawned, List.append_nil,
        List.length_append, List.length_cons, List.map_append, List.map_cons, List.sum_append,
        List.sum_cons]
      omega

/-- An endpoint that has just been spawned. -/
theorem weight_spawn (spec : EndpointSpec) (id : EndpointId) :
    (spec.spawn id).2.control.weight ≤ 4 := by
  unfold EndpointSpec.spawn
  split <;>
    simp [Control.weight, StreamTask.weight, TcpServerTask.weight, UdpClientTask.weight,
      UdpClientTask.start, UdpClientPhase.weight, Intake.busy, Intake.new, Reader.new,
      UdpServerTask.weight, UdpServerTask.start]

/-- The step of the router loop that an action is. -/
def Action.inner? : Action → Option RouterLoop.Action
  | .poll visit now => some (.poll visit now)
  | .perform => some .perform
  | .statsTask update => some (.statsTask update)
  | .cancel => some .cancel
  | .spawn => none
  | .task _ _ => none

/-- What a step of the program is: a step of the router loop, the next endpoint spawned, or a
turn of a task. -/
inductive Moves (table : MsgTable) (format : AddrFormat) (oneshot : List UInt8 → UInt64)
    (net : TaskNet) : Action → TaskNet → Prop
  | looped {action : Action} {inner : RouterLoop.Action} {loop : RouterLoop}
      (hinner : action.inner? = some inner) (hloop : net.loop.step oneshot inner = some loop) :
    Moves table format oneshot net action (net.setLoop loop)
  | spawned {spec : EndpointSpec} {specs : List EndpointSpec} {sent : Bool} {wiring : Wiring}
      (hspecs : net.specs = spec :: specs)
      (hsend : (net.wiring ⟨net.next⟩).sendEvent (spec.spawn ⟨net.next⟩).1 =
        some (sent, wiring)) :
    Moves table format oneshot net .spawn (net.spawned spec specs (sent, wiring))
  | turned {index : ℕ} {taskStep : TaskStep} {task : Task} {turn : Turn Control}
      (htask : net.tasks[index]? = some task)
      (hturn : task.control.step (net.env table format task.id) task.id (net.wiring task.portId)
        taskStep = some turn) :
    Moves table format oneshot net (.task index taskStep) (net.commit index task turn)

/-- Every step is one of these. -/
theorem step_moves {action : Action} (h : net.step table format oneshot action = some after) :
    Moves table format oneshot net action after := by
  have hlooped : ∀ {inner : RouterLoop.Action}, action.inner? = some inner →
      (net.loop.step oneshot inner).map net.setLoop = some after →
        Moves table format oneshot net action after := by
    intro inner hinner hmap
    obtain ⟨loop, hloop, rfl⟩ := Option.map_eq_some_iff.mp hmap
    exact .looped hinner hloop
  cases action with
  | poll visit now => exact hlooped rfl h
  | perform => exact hlooped rfl h
  | statsTask update => exact hlooped rfl h
  | cancel => exact hlooped rfl h
  | spawn =>
    simp only [step] at h
    split at h
    · cases h
    · rename_i hspecs
      obtain ⟨⟨sent, wiring⟩, hsend, rfl⟩ := Option.map_eq_some_iff.mp h
      exact .spawned hspecs hsend
  | task index taskStep =>
    obtain ⟨task, htask, hmap⟩ := Option.bind_eq_some_iff.mp h
    obtain ⟨turn, hturn, rfl⟩ := Option.map_eq_some_iff.mp hmap
    exact .turned htask hturn

/-- The next endpoint is registered and spawned, or skipped. -/
theorem spawned_lowers {spec : EndpointSpec} {specs : List EndpointSpec} {sent : Bool}
    {wiring : Wiring} (hspecs : net.specs = spec :: specs)
    (hsend : (net.wiring ⟨net.next⟩).sendEvent (spec.spawn ⟨net.next⟩).1 = some (sent, wiring)) :
    (net.spawned spec specs (sent, wiring)).rank < net.rank := by
  have hlength : wiring.events.items.length ≤ net.loop.events.items.length + sent.toNat :=
    (Turn.sendEvent_cases hsend).2
  have hweight := weight_spawn spec ⟨net.next⟩
  refine rank_lt_of_turns ?_
  simp only [turns, spawned, share, hspecs, totalWeight_append, List.length_cons]
  cases sent with
  | true =>
    simp only [totalWeight, if_true, List.map_cons, List.map_nil, List.sum_cons, List.sum_nil,
      Bool.toNat_true] at hlength ⊢
    omega
  | false =>
    simp only [totalWeight, Bool.false_eq_true, if_false, List.map_nil, List.sum_nil,
      Bool.toNat_false] at hlength ⊢
    omega

/-- Every step of the router lowers the rank. -/
theorem looped_lowers {action : Action} {inner : RouterLoop.Action} {loop : RouterLoop}
    {actor : Actor} (hcancelled : net.loop.cancelled = true)
    (hactor : action.actor? = some actor) (hinner : action.inner? = some inner)
    (hloop : net.loop.step oneshot inner = some loop) : (net.setLoop loop).rank < net.rank := by
  cases action with
  | poll visit now =>
    cases hinner
    simp only [RouterLoop.step] at hloop
    split at hloop
    · have hlt := RouterLoop.poll_lowers hcancelled hloop
      refine rank_lt_of_turns ?_
      simp only [turns, setLoop]
      omega
    · cases hloop
  | perform =>
    cases hinner
    cases RouterLoop.step_moves hloop with
    | performed hpending =>
      rename_i effect pending
      have hsum := sum_charge_apply net.loop.ports effect net.tasks
      refine rank_lt_of_load le_rfl ?_
      simp only [load, setLoop, hpending, List.length_cons, Nat.mul_succ]
      omega
  | spawn => cases hinner
  | task index taskStep => cases hinner
  | statsTask update => cases hactor
  | cancel => cases hactor

/-- Every step of an actor lowers the rank. -/
theorem step_lowers {action : Action} {actor : Actor} (hcancelled : net.loop.cancelled = true)
    (hactor : action.actor? = some actor)
    (h : net.step table format oneshot action = some after) : after.rank < net.rank := by
  cases step_moves h with
  | looped hinner hloop => exact looped_lowers hcancelled hactor hinner hloop
  | spawned hspecs hsend => exact spawned_lowers hspecs hsend
  | turned htask hturn => exact commit_lowers hcancelled htask (Control.step_lowers hturn)

/-- Every step leaves the channels closed when the router has returned. -/
theorem closes_step {action : Action} (hcloses : net.loop.Closes)
    (h : net.step table format oneshot action = some after) : after.loop.Closes := by
  -- Sends keep open channels open and closed ones closed.
  have hkept : ∀ {id : EndpointId} {wiring : Wiring}, (net.wiring id).Keeps wiring →
      (net.share id wiring).Closes := by
    intro id wiring hkeeps hstopped
    obtain ⟨hframes, hevents⟩ := hcloses hstopped
    exact ⟨hkeeps.frames.trans hframes, hkeeps.events.trans hevents⟩
  cases step_moves h with
  | looped hinner hloop => exact (RouterLoop.step_moves hloop).closes hcloses
  | spawned hspecs hsend => exact hkept (Turn.sendEvent_cases hsend).1
  | turned htask hturn => exact hkept (Control.step_lowers hturn).keeps

/-- A cancelled token stays so. -/
theorem cancelled_step {action : Action} (hcancelled : net.loop.cancelled = true)
    (h : net.step table format oneshot action = some after) : after.loop.cancelled = true := by
  cases step_moves h with
  | looped hinner hloop => exact (RouterLoop.step_moves hloop).stays_cancelled hcancelled
  | spawned hspecs hsend => exact hcancelled
  | turned htask hturn => exact hcancelled

/-- The tasks of the system and what is around them. -/
def actors (table : MsgTable) (format : AddrFormat) (oneshot : List UInt8 → UInt64) :
    Library.Actors TaskNet Actor :=
  .ofStep (step table format oneshot) Action.actor?

/-- What holds from the cancellation on. -/
structure Cancelled (net : TaskNet) : Prop where
  cancelled : net.loop.cancelled = true
  closes : net.loop.Closes

/-- An actor that can go on whatever happens around it: the router until it returns, and then
everybody else who does not wait for children. -/
def Ready (net : TaskNet) : Actor → Prop
  | .router => net.loop.phase ≠ .stopped
  | .spawner => net.loop.phase = .stopped ∧ net.specs ≠ []
  | .task index => net.loop.phase = .stopped ∧ ∃ task, net.tasks[index]? = some task ∧
      task.control.returned = false ∧
      (task.control.joining = true → net.joined task.id = true)

/-- Children do not wait for children. -/
theorem joining_of_parent {control : Control} {id : EndpointId}
    (h : control.parent? = some id) : control.joining = false := by
  cases control with
  | stream kind filters task => rfl
  | tcps spec task => cases h
  | tcpsChild parentId filters task => rfl
  | udpc filters task => rfl
  | udps spec task => cases h
  | peerWriter parentId task => rfl

private theorem ready_task {task : Task} (hstopped : net.loop.phase = .stopped)
    (htask : task ∈ net.tasks) (hrunning : task.control.returned = false)
    (hjoined : task.control.joining = true → net.joined task.id = true) :
    ∃ actor, net.Ready actor := by
  obtain ⟨index, hindex⟩ := List.mem_iff_getElem?.mp htask
  exact ⟨.task index, hstopped, task, hindex, hrunning, hjoined⟩

/-- As long as not everybody has returned, somebody can go on. -/
theorem exists_ready (hrunning : ¬ net.Returned) : ∃ actor, net.Ready actor := by
  by_cases hstopped : net.loop.phase = .stopped
  · by_cases hspecs : net.specs = []
    · obtain ⟨task, htask, hreturned⟩ : ∃ task ∈ net.tasks, task.control.returned = false := by
        by_contra hnone
        push Not at hnone
        exact hrunning ⟨hstopped, hspecs, fun task htask =>
          Bool.eq_true_of_not_eq_false (hnone task htask)⟩
      by_cases hjoined : task.control.joining = true → net.joined task.id = true
      · exact ready_task hstopped htask hreturned hjoined
      · -- A listener waits for a child, and the child can go on.
        push Not at hjoined
        have hwaits : net.joined task.id = false := Bool.eq_false_of_not_eq_true hjoined.2
        obtain ⟨child, hchild, hparent⟩ := List.all_eq_false.mp hwaits
        simp only [Bool.or_eq_true, decide_eq_true_eq, not_or, not_not] at hparent
        refine ready_task hstopped hchild (Bool.eq_false_of_not_eq_true hparent.2) ?_
        intro hjoining
        cases (joining_of_parent hparent.1).symm.trans hjoining
    · exact ⟨.spawner, hstopped, hspecs⟩
  · exact ⟨.router, hstopped⟩

/-- Whoever is ready is enabled. -/
theorem enabled_of_ready {actor : Actor} (hcancelled : net.Cancelled) (h : net.Ready actor) :
    (actors table format oneshot).Enabled actor net := by
  suffices hstep : ∃ action, Action.actor? action = some actor ∧
      (net.step table format oneshot action).isSome = true by
    obtain ⟨action, hactor, hsome⟩ := hstep
    obtain ⟨next, hnext⟩ := Option.isSome_iff_exists.mp hsome
    exact ⟨next, action, hactor, hnext⟩
  cases actor with
  | router =>
    cases hpending : net.loop.pending with
    | nil =>
      refine ⟨.poll .inOrder 0, rfl, ?_⟩
      simp [step, RouterLoop.step, hpending, RouterLoop.poll_isSome h]
    | cons effect pending =>
      exact ⟨.perform, rfl, by simp [step, RouterLoop.step, hpending]⟩
  | spawner =>
    obtain ⟨hstopped, hspecs⟩ := h
    have hevents : (net.wiring ⟨net.next⟩).events.receiverOpen = false :=
      (hcancelled.closes hstopped).2
    cases hcons : net.specs with
    | nil => exact absurd hcons hspecs
    | cons spec specs =>
      exact ⟨.spawn, rfl, by simp [step, hcons, Turn.sendEvent_of_closed hevents]⟩
  | task index =>
    obtain ⟨hstopped, task, htask, hrunning, hjoined⟩ := h
    obtain ⟨hframes, hevents⟩ := hcancelled.closes hstopped
    obtain ⟨taskStep, hstep⟩ : ∃ taskStep,
        (task.control.step (net.env table format task.id) task.id (net.wiring task.portId)
          taskStep).isSome = true :=
      Control.exists_step hframes hevents hrunning hjoined
    exact ⟨.task index taskStep, rfl, by simp [step, htask, hstep]⟩

/-- When all have returned, nothing happens any more but around them. -/
theorem not_enabled_of_returned (hreturned : net.Returned) (hpending : net.loop.pending = [])
    (actor : Actor) : ¬ (actors table format oneshot).Enabled actor net := by
  obtain ⟨hstopped, hspecs, htasks⟩ := hreturned
  rintro ⟨next, action, hactor, hstep⟩
  cases action with
  | poll visit now =>
    simp [step, RouterLoop.step, RouterLoop.poll, hpending, hstopped] at hstep
  | perform => simp [step, RouterLoop.step, hpending] at hstep
  | spawn => simp [step, hspecs] at hstep
  | task index taskStep =>
    obtain ⟨task, htask, hturn⟩ := Option.bind_eq_some_iff.mp hstep
    have hreturned := htasks task (List.mem_of_getElem? htask)
    simp [Control.step_of_returned hreturned] at hturn
  | statsTask update => cases hactor
  | cancel => cases hactor

/-- Why the system comes to an end. -/
theorem terminates : (actors table format oneshot).Terminates Cancelled Returned rank
    (fun actor net => net.Ready actor) where
  good_acts := by
    rintro actor state next hgood ⟨action, -, hstep⟩
    exact ⟨cancelled_step hgood.cancelled hstep, closes_step hgood.closes hstep⟩
  good_around := by
    rintro state next hgood ⟨action, -, hstep⟩
    exact ⟨cancelled_step hgood.cancelled hstep, closes_step hgood.closes hstep⟩
  rank_acts := by
    rintro actor state next hgood ⟨action, hactor, hstep⟩
    exact step_lowers hgood.cancelled hactor hstep
  rank_around := by
    rintro state next ⟨action, hactor, hstep⟩
    cases action with
    | statsTask update => cases hstep; rfl
    | cancel => cases hstep; rfl
    | _ => cases hactor
  exists_ready := fun _ hrunning => exists_ready hrunning
  enabled := enabled_of_ready
  ready_around := by
    rintro actor state next hready ⟨action, hactor, hstep⟩
    cases action with
    | statsTask update => cases hstep; cases actor <;> exact hready
    | cancel => cases hstep; cases actor <;> exact hready
    | _ => cases hactor

/-- Shutdown: from every reachable state in which the token has been cancelled, every fair
interleaving leads to a state in which the router and all tasks have returned. -/
theorem eventually_returned {wiring : RouterWiring} {specs : List EndpointSpec}
    {actions : List Action}
    (hreached : execute (step table format oneshot) (start wiring specs) actions = some net)
    (hcancelled : net.loop.cancelled = true) {run : ℕ → TaskNet} (hstart : run 0 = net)
    (hrun : (actors table format oneshot).IsRun run)
    (hfair : (actors table format oneshot).Fair run) : ∃ n, (run n).Returned := by
  have hcloses : net.loop.Closes :=
    Library.execute_invariant (motive := fun net => net.loop.Closes) nofun closes_step hreached
  exact terminates.exists_final hrun hfair (hstart ▸ ⟨hcancelled, hcloses⟩)

/-- A listener waits for its client to return, which waits to tell the router that it leaves: the
channel is full until the router takes the registration of the client. -/
theorem eventually_returned_listener :
    let table : MsgTable := ⟨[], .nil⟩
    let format : AddrFormat := ⟨fun _ => "0.0.0.0", fun _ => "::"⟩
    let visit : Visit := .inOrder
    let first := start ⟨1, 1, .new 64, 0, 16⟩ [⟨.tcpServer ⟨.v4 0 5760, {}⟩, "gcs"⟩]
    let earlier : List Action := [.spawn, .task 0 .check, .task 0 (.bind true), .task 0 .poll,
      .task 0 (.accept (some (.v4 1 5760))), .poll visit 0, .poll visit 0, .task 0 .announce,
      .cancel, .task 0 .poll, .task 1 (.session .poll), .task 1 .leave, .task 1 .drain]
    let later : List Action := [.poll visit 0, .poll visit 0, .task 1 .announce, .task 0 .join,
      .task 0 .check, .poll visit 0, .perform, .poll visit 0, .perform, .poll visit 0]
    ∃ net, execute (step table format fun _ => 0) first earlier = some net ∧
      net.loop.cancelled = true ∧
      net.step table format (fun _ => 0) (.task 1 .announce) = none ∧
      net.step table format (fun _ => 0) (.task 0 .join) = none ∧
      ∃ n, (Library.Actors.replay (step table format fun _ => 0) net later n).Returned := by
  intro table format visit first earlier later
  have heval : ((execute (step table format fun _ => 0) first earlier).bind fun net =>
      (execute (step table format fun _ => 0) net later).map fun final =>
        (final.loop.phase, [net.loop.cancelled,
          (net.step table format (fun _ => 0) (.task 1 .announce)).isNone,
          (net.step table format (fun _ => 0) (.task 0 .join)).isNone, final.specs.isEmpty,
          final.tasks.all (·.control.returned), final.loop.pending.isEmpty])) =
      some (.stopped, List.replicate 6 true) := by
    decide +kernel
  obtain ⟨net, hreached, hfinal⟩ := Option.bind_eq_some_iff.mp heval
  obtain ⟨final, hlater, hfacts⟩ := Option.map_eq_some_iff.mp hfinal
  simp only [List.replicate, Prod.mk.injEq, List.cons.injEq, Option.isNone_iff_eq_none,
    List.isEmpty_iff, List.all_eq_true] at hfacts
  obtain ⟨hstopped, hcancelled, hfull, hchild, hspecs, htasks, hpending, -⟩ := hfacts
  exact ⟨net, hreached, hcancelled, hfull, hchild,
    eventually_returned hreached hcancelled rfl (Library.Actors.isRun_replay hlater)
      (Library.Actors.fair_replay hlater
        (not_enabled_of_returned ⟨hstopped, hspecs, htasks⟩ hpending))⟩

end TaskNet

end MavlinkRouter
