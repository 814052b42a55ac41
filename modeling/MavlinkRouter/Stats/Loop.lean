import MavlinkRouter.Library.Execution
import MavlinkRouter.Library.Window
import MavlinkRouter.Stats.Task

/-!
# The loop of the stats task

The function `run` of `src/stats.rs`. Every round of the loop ends with an empty queue, so
the lines of an interval tick meet an empty queue. All of them are queued before the first
one is written, and the queue keeps the last ones that fit.
-/

namespace MavlinkRouter.Stats

/-- What the writer answers to a line, after the lines it has written. -/
abbrev Writer := List StatsLine → StatsLine → WriteOutcome

/-- The writer takes every line. -/
def Writer.Reliable (writer : Writer) : Prop :=
  ∀ written line, writer written line = .written

/-- Where the task is: in the main loop, in the drain after it, or at its end. -/
inductive Phase where
  | serving
  | finalizing
  | finished
  deriving DecidableEq, Repr

/-- The task and the lines it has written. -/
structure Loop where
  phase : Phase
  task : Task
  written : List StatsLine

namespace Loop

variable {cfg : StatsRunConfig} {writer : Writer} {loop after : Loop}

def start : Loop where
  phase := .serving
  task := .new
  written := []

/-- One round of `drain_queue` on a line taken from the queue. -/
def writeLine (writer : Writer) (loop : Loop) (entry : QueueEntry) : Loop :=
  if loop.task.brokenPipeWarned then loop
  else
    match writer loop.written entry.line with
    | .written => { loop with written := loop.written ++ [entry.line] }
    | .brokenPipe => { loop with task.brokenPipeWarned := true }
    | .failed => loop

/-- Write the queued lines until the queue is empty. -/
def drainQueue (writer : Writer) (loop : Loop) : Loop :=
  { loop.task.queue.foldl (writeLine writer) loop with task.queue := [] }

/-- What wakes the task up. -/
inductive Action where
  | tick (visit : Visit) (ports : Ports) (ts : String)
  | event (event : StatsEvent) (ports : Ports) (ts : String)
  | stop
  | deadline

/-- One round of the loop. -/
def step (cfg : StatsRunConfig) (writer : Writer) (loop : Loop) : Action → Option Loop
  | .tick visit ports ts =>
    if loop.phase = .serving ∧ cfg.enabled = true then
      some ({ loop with task := loop.task.emitIntervalLines cfg visit ports ts }.drainQueue writer)
    else none
  | .event event ports ts =>
    match loop.phase with
    | .serving =>
      some ({ loop with task := loop.task.handleEvent cfg ports ts event }.drainQueue writer)
    | .finalizing => some { loop with task := loop.task.handleEvent cfg ports ts event }
    | .finished => none
  | .stop => if loop.phase = .serving then some { loop with phase := .finalizing } else none
  | .deadline =>
    if loop.phase = .finalizing then some { loop.drainQueue writer with phase := .finished }
    else none

end Loop

/-- The interval line of one row of the mirror. -/
def rowLine (ports : Ports) (ts : String) (row : Σ _ : EndpointId, RegisteredEndpoint) :
    StatsLine :=
  buildLine row.2.name (ports row.1).stats ts row.2.routable

namespace Task

/-- Queueing a line keeps the last lines that fit. -/
theorem queue_enqueueRegular {queueCapacity : ℕ} {task : Task} (line : StatsLine)
    (hlength : task.queue.length ≤ queueCapacity) :
    (task.enqueueRegular queueCapacity line).queue =
      (task.queue ++ [QueueEntry.mk line false]).rtake queueCapacity := by
  have htotal : (task.queue ++ [QueueEntry.mk line false]).length =
      task.queue.length + 1 := List.length_append
  unfold enqueueRegular
  split
  · rename_i hzero
    subst hzero
    obtain hnil := List.length_eq_zero_iff.mp (Nat.le_zero.mp hlength)
    rw [drop, hnil]
    rfl
  · split
    · rename_i hpos hfull
      have hone : task.queue.length + 1 - queueCapacity = 1 := by omega
      have hne : task.queue ≠ [] := List.ne_nil_of_length_pos (by omega)
      rw [List.rtake, htotal, hone, List.drop_one, List.tail_append_of_ne_nil hne]
      rfl
    · rw [Library.rtake_of_length_le (by omega)]
      rfl

/-- The task after it has queued the lines of some rows. -/
def queueRows (cfg : StatsRunConfig) (ports : Ports) (ts : String) (task : Task)
    (rows : List (Σ _ : EndpointId, RegisteredEndpoint)) : Task :=
  rows.foldl (fun queued row => queued.enqueueRegular cfg.queueCapacity (rowLine ports ts row)) task

private theorem emitIntervalLines_eq (cfg : StatsRunConfig) (visit : Visit) (ports : Ports)
    (ts : String) (task : Task) :
    task.emitIntervalLines cfg visit ports ts =
      task.queueRows cfg ports ts (visit.order task.registry.entries) := rfl

/-- Of the lines of some rows the last ones that fit are left in the queue. -/
theorem queue_queueRows {cfg : StatsRunConfig} {task : Task} (ports : Ports) (ts : String)
    (rows : List (Σ _ : EndpointId, RegisteredEndpoint))
    (hlength : task.queue.length ≤ cfg.queueCapacity) :
    (task.queueRows cfg ports ts rows).queue =
      (task.queue ++ rows.map fun row =>
        QueueEntry.mk (rowLine ports ts row) false).rtake cfg.queueCapacity := by
  induction rows generalizing task with
  | nil =>
    rw [List.map_nil, List.append_nil, Library.rtake_of_length_le hlength]
    rfl
  | cons row rows ih =>
    have hqueue := queue_enqueueRegular (rowLine ports ts row) hlength
    have hfits : (task.enqueueRegular cfg.queueCapacity
        (rowLine ports ts row)).queue.length ≤ cfg.queueCapacity := by
      rw [hqueue, Library.length_rtake]
      exact min_le_left _ _
    refine (ih hfits).trans ?_
    rw [hqueue, Library.rtake_rtake_append, List.map_cons, List.append_assoc,
      List.singleton_append]

/-- A tick leaves the last lines that fit in the queue. -/
theorem queue_emitIntervalLines {cfg : StatsRunConfig} {task : Task} (visit : Visit)
    (ports : Ports) (ts : String) (hlength : task.queue.length ≤ cfg.queueCapacity) :
    (task.emitIntervalLines cfg visit ports ts).queue =
      (task.queue ++ (visit.order task.registry.entries).map fun row =>
        QueueEntry.mk (rowLine ports ts row) false).rtake cfg.queueCapacity := by
  rw [emitIntervalLines_eq]
  exact queue_queueRows ports ts _ hlength

/-- A tick gives no warning. -/
@[simp] theorem brokenPipeWarned_emitIntervalLines (cfg : StatsRunConfig) (visit : Visit)
    (ports : Ports) (ts : String) (task : Task) :
    (task.emitIntervalLines cfg visit ports ts).brokenPipeWarned = task.brokenPipeWarned := by
  unfold emitIntervalLines
  generalize visit.order task.registry.entries = rows
  induction rows generalizing task with
  | nil => rfl
  | cons row rows ih =>
    rw [List.foldl_cons, ih]
    unfold enqueueRegular
    split
    · rfl
    · split <;> rfl

/-- An event gives no warning. -/
theorem brokenPipeWarned_handleEvent (cfg : StatsRunConfig) (ports : Ports) (ts : String)
    (task : Task) (event : StatsEvent) :
    (task.handleEvent cfg ports ts event).brokenPipeWarned = task.brokenPipeWarned := by
  have hroom : ∀ task : Task, (task.makeRoom cfg.queueCapacity).brokenPipeWarned =
      task.brokenPipeWarned := by
    intro task
    unfold makeRoom
    split
    · split
      · rfl
      · split <;> rfl
    · rfl
  cases event with
  | register id name routable => rfl
  | finalize id =>
    rw [handleEvent]
    split
    · rfl
    · dsimp only
      split
      · unfold enqueueSynthetic
        split
        · rfl
        · exact hroom _
      · rfl

end Task

namespace Loop

variable {cfg : StatsRunConfig} {writer : Writer} {loop after : Loop}

/-- A reliable writer writes the whole queue. -/
theorem foldl_writeLine (hwriter : writer.Reliable) (queue : List QueueEntry)
    (hwarned : loop.task.brokenPipeWarned = false) :
    queue.foldl (writeLine writer) loop =
      { loop with written := loop.written ++ queue.map QueueEntry.line } := by
  induction queue generalizing loop with
  | nil => simp
  | cons entry queue ih =>
    have hround : loop.writeLine writer entry =
        { loop with written := loop.written ++ [entry.line] } := by
      rw [writeLine, hwarned, if_neg Bool.false_ne_true, hwriter]
    have hwarned' : (loop.writeLine writer entry).task.brokenPipeWarned = false := by
      rw [hround]
      exact hwarned
    rw [List.foldl_cons, ih hwarned', hround]
    simp

private theorem drainQueue_eq (hwriter : writer.Reliable)
    (hwarned : loop.task.brokenPipeWarned = false) :
    loop.drainQueue writer =
      { loop with
        task.queue := []
        written := loop.written ++ loop.task.queue.map QueueEntry.line } := by
  rw [drainQueue, foldl_writeLine hwriter _ hwarned]

/-- At the top of the main loop nothing is queued, and no write has failed. -/
structure Ready (loop : Loop) : Prop where
  queue : loop.phase = .serving → loop.task.queue = []
  warned : loop.task.brokenPipeWarned = false

/-- Every round ends with a drained queue. -/
theorem Ready.drained (hwriter : writer.Reliable)
    (hwarned : loop.task.brokenPipeWarned = false) : (loop.drainQueue writer).Ready := by
  rw [drainQueue_eq hwriter hwarned]
  exact ⟨fun _ => rfl, hwarned⟩

/-- One round of the loop leaves it ready for the next one. -/
theorem Ready.step (h : loop.Ready) (hwriter : writer.Reliable) {action : Action}
    (hstep : loop.step cfg writer action = some after) : after.Ready := by
  cases action with
  | tick visit ports ts =>
    obtain ⟨-, hafter⟩ := Option.ite_none_right_eq_some.mp hstep
    cases hafter
    refine .drained hwriter ?_
    rw [Task.brokenPipeWarned_emitIntervalLines]
    exact h.warned
  | event event ports ts =>
    have hwarned : (loop.task.handleEvent cfg ports ts event).brokenPipeWarned = false := by
      rw [Task.brokenPipeWarned_handleEvent]
      exact h.warned
    simp only [Loop.step] at hstep
    split at hstep
    · cases hstep
      exact .drained hwriter hwarned
    · rename_i hphase
      cases hstep
      exact ⟨fun hserving => absurd (hphase.symm.trans hserving) (by decide), hwarned⟩
    · cases hstep
  | stop =>
    obtain ⟨-, hafter⟩ := Option.ite_none_right_eq_some.mp hstep
    cases hafter
    exact ⟨(fun hserving => nomatch hserving), h.warned⟩
  | deadline =>
    obtain ⟨-, hafter⟩ := Option.ite_none_right_eq_some.mp hstep
    cases hafter
    exact ⟨(fun hserving => nomatch hserving), (Ready.drained hwriter h.warned).warned⟩

/-- The loop is ready after every run. -/
theorem ready_of_execute {actions : List Action} (hwriter : writer.Reliable)
    (h : Library.execute (step cfg writer) start actions = some loop) : loop.Ready := by
  refine Library.execute_invariant ⟨fun _ => rfl, rfl⟩ ?_ h
  intro before action after hbefore hstep
  exact hbefore.step hwriter hstep

/-- The lifecycle event of a round. -/
def Action.event? : Action → Option StatsEvent
  | .tick _ _ _ => none
  | .event handled _ _ => some handled
  | .stop => none
  | .deadline => none

/-- Draining leaves the phase, the mirror and the count of dropped lines as they are. -/
theorem drainQueue_frame (writer : Writer) (loop : Loop) :
    (loop.drainQueue writer).phase = loop.phase ∧
      (loop.drainQueue writer).task.registry = loop.task.registry ∧
      (loop.drainQueue writer).task.totalDropped = loop.task.totalDropped := by
  have hround : ∀ (loop : Loop) entry, (loop.writeLine writer entry).phase = loop.phase ∧
      (loop.writeLine writer entry).task.registry = loop.task.registry ∧
      (loop.writeLine writer entry).task.totalDropped = loop.task.totalDropped := by
    intro loop entry
    unfold writeLine
    split
    · exact ⟨rfl, rfl, rfl⟩
    · split <;> exact ⟨rfl, rfl, rfl⟩
  change (loop.task.queue.foldl (writeLine writer) loop).phase = loop.phase ∧
    (loop.task.queue.foldl (writeLine writer) loop).task.registry = loop.task.registry ∧
    (loop.task.queue.foldl (writeLine writer) loop).task.totalDropped = loop.task.totalDropped
  generalize loop.task.queue = queue
  induction queue generalizing loop with
  | nil => exact ⟨rfl, rfl, rfl⟩
  | cons entry queue ih =>
    obtain ⟨hphase, hregistry, hdropped⟩ := hround loop entry
    obtain ⟨hphase', hregistry', hdropped'⟩ := ih (loop.writeLine writer entry)
    rw [List.foldl_cons]
    exact ⟨hphase'.trans hphase, hregistry'.trans hregistry, hdropped'.trans hdropped⟩

private theorem registry_drainQueue (writer : Writer) (loop : Loop) :
    (loop.drainQueue writer).task.registry = loop.task.registry :=
  (drainQueue_frame writer loop).2.1

/-- The mirror follows the events that were handled. -/
theorem registry_of_execute {actions : List Action}
    (h : Library.execute (step cfg writer) start actions = some loop) :
    loop.task.registry = replay (actions.filterMap Action.event?) := by
  refine Library.execute_induction (motive := fun actions loop =>
    loop.task.registry = replay (actions.filterMap Action.event?)) rfl ?_ h
  intro actions before action after hbefore hstep
  have hquiet : replay (actions.filterMap Action.event? ++ []) =
      replay (actions.filterMap Action.event?) := by
    rw [List.append_nil]
  rw [List.filterMap_append]
  cases action with
  | tick visit ports ts =>
    obtain ⟨-, hafter⟩ := Option.ite_none_right_eq_some.mp hstep
    cases hafter
    rw [registry_drainQueue, Task.registry_emitIntervalLines]
    exact hbefore.trans hquiet.symm
  | event event ports ts =>
    have hevents : [Action.event event ports ts].filterMap Action.event? = [event] := rfl
    have hhandled : (before.task.handleEvent cfg ports ts event).registry =
        replay (actions.filterMap Action.event? ++ [event]) := by
      rw [Task.registry_handleEvent, hbefore, replay_snoc]
    rw [hevents]
    simp only [step] at hstep
    split at hstep
    · cases hstep
      rw [registry_drainQueue]
      exact hhandled
    · cases hstep
      exact hhandled
    · cases hstep
  | stop =>
    obtain ⟨-, hafter⟩ := Option.ite_none_right_eq_some.mp hstep
    cases hafter
    exact hbefore.trans hquiet.symm
  | deadline =>
    obtain ⟨-, hafter⟩ := Option.ite_none_right_eq_some.mp hstep
    cases hafter
    rw [registry_drainQueue]
    exact hbefore.trans hquiet.symm

/-- The main loop takes every event. -/
theorem exists_execute_events (cfg : StatsRunConfig) (writer : Writer) (ports : Ports)
    (ts : String) (events : List StatsEvent) :
    ∃ loop, Library.execute (step cfg writer) start
      (events.map fun event => .event event ports ts) = some loop ∧ loop.phase = .serving := by
  induction events using List.reverseRecOn with
  | nil => exact ⟨start, rfl, rfl⟩
  | append_singleton events event ih =>
    obtain ⟨loop, hrun, hserving⟩ := ih
    rw [List.map_append]
    have hstep : loop.step cfg writer (.event event ports ts) =
        some ({ loop with
          task := loop.task.handleEvent cfg ports ts event }.drainQueue writer) := by
      simp only [step, hserving]
    refine ⟨_, Library.execute_snoc.mpr ⟨loop, hrun, hstep⟩, ?_⟩
    rw [(drainQueue_frame writer _).1]
    exact hserving

/-- A tick writes the last lines that fit in the queue. -/
theorem written_tick {visit : Visit} {ports : Ports} {ts : String} (h : loop.Ready)
    (hwriter : writer.Reliable) (htick : loop.step cfg writer (.tick visit ports ts) = some after) :
    after.written = loop.written ++
      ((visit.order loop.task.registry.entries).map (rowLine ports ts)).rtake
        cfg.queueCapacity := by
  obtain ⟨⟨hserving, -⟩, hafter⟩ := Option.ite_none_right_eq_some.mp htick
  have hempty := h.queue hserving
  have hqueue := Task.queue_emitIntervalLines visit ports ts
    (show loop.task.queue.length ≤ cfg.queueCapacity by rw [hempty]; exact Nat.zero_le _)
  have hwarned : (loop.task.emitIntervalLines cfg visit ports ts).brokenPipeWarned = false := by
    rw [Task.brokenPipeWarned_emitIntervalLines]
    exact h.warned
  cases hafter
  rw [drainQueue_eq hwriter hwarned]
  change loop.written ++ List.map _ (loop.task.emitIntervalLines cfg visit ports ts).queue = _
  rw [hqueue, hempty, List.nil_append, List.rtake, List.rtake, List.map_drop, List.map_map,
    List.length_map, List.length_map]
  rfl

/-- In production a tick writes exactly one line for every registered endpoint if and only if
there are at most `defaultStatsQueueLines` of them. -/
theorem tick_complete_iff {actions : List Action} {visit : Visit} {ports : Ports} {ts : String}
    (hwriter : writer.Reliable)
    (hrun : Library.execute (step ⟨true, defaultStatsQueueLines⟩ writer) start actions = some loop)
    (htick : loop.step ⟨true, defaultStatsQueueLines⟩ writer (.tick visit ports ts) =
      some after) :
    ∃ lines, after.written = loop.written ++ lines ∧
      (lines.Perm (loop.task.registry.entries.map (rowLine ports ts)) ↔
        loop.task.registry.entries.length ≤ defaultStatsQueueLines) := by
  have hperm := (visit.perm loop.task.registry.entries).map (rowLine ports ts)
  have hlength := hperm.length_eq
  rw [List.length_map, List.length_map] at hlength
  refine ⟨_, written_tick (ready_of_execute hwriter hrun) hwriter htick, ?_⟩
  constructor
  · intro hall
    have hsame := hall.length_eq
    rw [Library.length_rtake, List.length_map, List.length_map, hlength] at hsame
    exact hsame ▸ min_le_left _ _
  · intro hfits
    rw [Library.rtake_of_length_le]
    · exact hperm
    · rw [List.length_map, hlength]
      exact hfits

/-- Three endpoints and their lines. -/
theorem tick_complete_iff_vehicle :
    let writer : Writer := fun _ _ => .written
    let ports : Ports := fun _ => { stats := {}, txQueue := .new 8 }
    let register : EndpointId → String → Bool → Action := fun id name routable =>
      .event (.register id name routable) ports "t0"
    let actions : List Action := [register ⟨0⟩ "vehicle" true, register ⟨1⟩ "udps" false,
      register ⟨2⟩ "udps:peer" true]
    ∃ loop after, Library.execute (step ⟨true, defaultStatsQueueLines⟩ writer) start actions =
        some loop ∧
      loop.step ⟨true, defaultStatsQueueLines⟩ writer (.tick .inOrder ports "t1") = some after ∧
      ∃ lines, after.written = loop.written ++ lines ∧
        lines.Perm [rowLine ports "t1" ⟨⟨2⟩, "udps:peer", true⟩,
          rowLine ports "t1" ⟨⟨1⟩, "udps", false⟩, rowLine ports "t1" ⟨⟨0⟩, "vehicle", true⟩] := by
  intro writer ports register actions
  have hwriter : writer.Reliable := fun _ _ => rfl
  have hrun : Library.execute (step ⟨true, defaultStatsQueueLines⟩ writer) start actions =
      some _ := rfl
  refine ⟨_, _, hrun, rfl, ?_⟩
  obtain ⟨lines, hlines, hiff⟩ := tick_complete_iff hwriter hrun rfl
  exact ⟨lines, hlines, hiff.mpr (by decide)⟩

/-- A UDP server with a full table of peers is one endpoint too many. -/
theorem tick_loses_line :
    let writer : Writer := fun _ _ => .written
    let visit : Visit := .inOrder
    let ports : Ports := fun _ => { stats := {}, txQueue := .new 8 }
    let ids : List EndpointId := (List.range 257).map fun n => ⟨UInt64.ofNat n⟩
    let register : EndpointId → StatsEvent := fun id =>
      .register id ("udps-" ++ toString id.value.toNat) (id.value ≠ 0)
    let actions : List Action := (ids.map register).map fun event => .event event ports "t0"
    ∃ loop after, Library.execute (step ⟨true, defaultStatsQueueLines⟩ writer) start actions =
        some loop ∧
      loop.step ⟨true, defaultStatsQueueLines⟩ writer (.tick visit ports "t1") = some after ∧
      ∃ lines, after.written = loop.written ++ lines ∧
        loop.task.registry.entries.length = 257 ∧ lines.length = 256 := by
  intro writer visit ports ids register actions
  have hwriter : writer.Reliable := fun _ _ => rfl
  obtain ⟨loop, hrun, hserving⟩ := exists_execute_events ⟨true, defaultStatsQueueLines⟩ writer
    ports "t0" (ids.map register)
  have hids : ids.Nodup := by
    refine List.nodup_range.map_on ?_
    intro m hm n hn heq
    have hvalue := congrArg UInt64.toNat (congrArg EndpointId.value heq)
    rw [List.mem_range] at hm hn
    rwa [UInt64.toNat_ofNat_of_lt' (hm.trans (by decide)),
      UInt64.toNat_ofNat_of_lt' (hn.trans (by decide))] at hvalue
  have hregistry : loop.task.registry.entries.length = 257 := by
    have hevents : actions.filterMap Action.event? = ids.map register := by
      rw [List.filterMap_map]
      exact List.filterMap_some
    have hreplay := registry_of_execute hrun
    rw [hreplay, hevents, length_replay_register _ _ hids, List.length_map, List.length_range]
  obtain ⟨after, htick⟩ : ∃ after,
      loop.step ⟨true, defaultStatsQueueLines⟩ writer (.tick visit ports "t1") = some after :=
    ⟨_, if_pos ⟨hserving, rfl⟩⟩
  have hwritten := written_tick (ready_of_execute hwriter hrun) hwriter htick
  refine ⟨loop, after, hrun, htick, _, hwritten, hregistry, ?_⟩
  rw [Library.length_rtake, List.length_map]
  change min 256 loop.task.registry.entries.length = 256
  rw [hregistry]
  rfl

end Loop

end MavlinkRouter.Stats
