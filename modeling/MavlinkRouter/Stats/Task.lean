import MavlinkRouter.Mavlink.Framer
import MavlinkRouter.Router.Basic

/-!
# The stats task

The registry mirror of `src/stats.rs`, the queue of lines between the task and its writer,
and what the task does on a lifecycle event, on an interval tick and when it writes. A
handle to an endpoint's counters is the endpoint's id, and the clock's reading is an
argument.
-/

namespace MavlinkRouter

/-- The endpoint a lifecycle event is about. -/
def StatsEvent.id : StatsEvent → EndpointId
  | .register id _ _ => id
  | .finalize id => id

/-- Stable lowercase label for the `state` field. -/
def EndpointState.label : EndpointState → String
  | .reconnecting => "reconnecting"
  | .connected => "connected"
  | .idle => "idle"
  | .down => "down"
  | .unknown => "unknown"

namespace Stats

/-- One row of the registry mirror. -/
structure RegisteredEndpoint where
  name : String
  routable : Bool
  deriving DecidableEq, Repr

/-- One emitted line; parent listeners carry no frames and have no counters. -/
inductive StatsLine where
  | routable (ts endpoint state : String)
      (rxFrames txFrames rxBytes txBytes droppedTx crcErrors resyncBytes rxLostEst
        inFilterDrops outFilterDrops dedupDrops learnEntries : UInt64)
  | nonRoutable (ts endpoint state : String)
  deriving DecidableEq, Repr

/-- The name of the endpoint a line is about. -/
def StatsLine.endpoint : StatsLine → String
  | .routable _ endpoint _ _ _ _ _ _ _ _ _ _ _ _ _ => endpoint
  | .nonRoutable _ endpoint _ => endpoint

/-- The knobs of the task; the timer's ticks are steps of the model. -/
structure StatsRunConfig where
  enabled : Bool
  queueCapacity : ℕ
  deriving DecidableEq, Repr

/-- The queue depth in production. -/
def defaultStatsQueueLines : ℕ := 256

/-- A queued line; synthetic ones report the end of an endpoint. -/
structure QueueEntry where
  line : StatsLine
  synthetic : Bool
  deriving DecidableEq, Repr

def buildLine (name : String) (stats : EndpointStats) (ts : String) (routable : Bool) :
    StatsLine :=
  if routable then
    .routable ts name stats.state.label stats.rxFrames stats.txFrames stats.rxBytes stats.txBytes
      stats.droppedTx stats.crcErrors stats.resyncBytes stats.rxLostEst stats.inFilterDrops
      stats.outFilterDrops stats.dedupDrops stats.learnEntries
  else .nonRoutable ts name stats.state.label

/-- The registry mirror. -/
abbrev Registry := AList fun _ : EndpointId => RegisteredEndpoint

/-- An order in which the rows of the mirror may be visited. -/
abbrev Visit := Library.Traversal (Σ _ : EndpointId, RegisteredEndpoint)

/-- The state of the task. -/
structure Task where
  registry : Registry
  queue : List QueueEntry
  totalDropped : UInt64
  brokenPipeWarned : Bool

/-- What the writer answers to one line. -/
inductive WriteOutcome where
  | written
  | brokenPipe
  | failed
  deriving DecidableEq, Repr

namespace Task

def new : Task where
  registry := ∅
  queue := []
  totalDropped := 0
  brokenPipeWarned := false

/-- Count a line that is lost. -/
def drop (task : Task) (queue : List QueueEntry) : Task :=
  { task with queue := queue, totalDropped := saturatingAdd task.totalDropped 1 }

def pushBack (task : Task) (entry : QueueEntry) : Task :=
  { task with queue := task.queue ++ [entry] }

/-- Queue an interval line; a full queue gives up its oldest line. -/
def enqueueRegular (queueCapacity : ℕ) (line : StatsLine) (task : Task) : Task :=
  if queueCapacity = 0 then task.drop task.queue
  else if queueCapacity ≤ task.queue.length then
    (task.drop task.queue.tail).pushBack ⟨line, false⟩
  else task.pushBack ⟨line, false⟩

/-- Make room for a synthetic line: the oldest interval line goes, and only if there is
none the oldest line. -/
def makeRoom (queueCapacity : ℕ) (task : Task) : Task :=
  if queueCapacity ≤ task.queue.length then
    match task.queue.findIdx? fun entry => !entry.synthetic with
    | some pos => task.drop (task.queue.eraseIdx pos)
    | none =>
      match task.queue with
      | [] => task
      | _ :: rest => task.drop rest
  else task

/-- Queue the line that reports the end of an endpoint. -/
def enqueueSynthetic (queueCapacity : ℕ) (line : StatsLine) (task : Task) : Task :=
  if queueCapacity = 0 then task.drop task.queue
  else (task.makeRoom queueCapacity).pushBack ⟨line, true⟩

/-- Handle one lifecycle event. -/
def handleEvent (cfg : StatsRunConfig) (ports : Ports) (ts : String) (task : Task) :
    StatsEvent → Task
  | .register id name routable =>
    { task with registry := task.registry.insert id ⟨name, routable⟩ }
  | .finalize id =>
    match task.registry.lookup id with
    | none => task
    | some entry =>
      let removed := { task with registry := task.registry.erase id }
      if cfg.enabled then
        removed.enqueueSynthetic cfg.queueCapacity
          (buildLine entry.name (ports id).stats ts entry.routable)
      else removed

/-- Queue one line for every row of the mirror. -/
def emitIntervalLines (cfg : StatsRunConfig) (visit : Visit) (ports : Ports) (ts : String)
    (task : Task) : Task :=
  (visit.order task.registry.entries).foldl (fun emitted row =>
    emitted.enqueueRegular cfg.queueCapacity
      (buildLine row.2.name (ports row.1).stats ts row.2.routable)) task

/-- One round of `drain_queue`; once the pipe is broken lines are discarded. -/
def writeNext (task : Task) (outcome : WriteOutcome) : Option Task :=
  match task.queue with
  | [] => none
  | _ :: rest =>
    some { task with
      queue := rest
      brokenPipeWarned := if outcome = .brokenPipe then true else task.brokenPipeWarned }

@[simp] private theorem registry_pushBack (task : Task) (entry : QueueEntry) :
    (task.pushBack entry).registry = task.registry := rfl

@[simp] private theorem registry_drop (task : Task) (queue : List QueueEntry) :
    (task.drop queue).registry = task.registry := rfl

@[simp] private theorem registry_makeRoom (queueCapacity : ℕ) (task : Task) :
    (task.makeRoom queueCapacity).registry = task.registry := by
  unfold makeRoom
  split
  · split
    · rfl
    · split <;> rfl
  · rfl

@[simp] private theorem registry_enqueueSynthetic (queueCapacity : ℕ) (line : StatsLine)
    (task : Task) : (task.enqueueSynthetic queueCapacity line).registry = task.registry := by
  unfold enqueueSynthetic
  split <;> simp

@[simp] private theorem registry_enqueueRegular (queueCapacity : ℕ) (line : StatsLine)
    (task : Task) : (task.enqueueRegular queueCapacity line).registry = task.registry := by
  unfold enqueueRegular
  split
  · rfl
  · split <;> rfl

/-- A tick only queues lines. -/
theorem registry_emitIntervalLines (cfg : StatsRunConfig) (visit : Visit) (ports : Ports)
    (ts : String) (task : Task) :
    (task.emitIntervalLines cfg visit ports ts).registry = task.registry := by
  unfold emitIntervalLines
  generalize visit.order task.registry.entries = rows
  induction rows generalizing task with
  | nil => rfl
  | cons row rows ih => rw [List.foldl_cons, ih, registry_enqueueRegular]

/-- Writing keeps the mirror. -/
theorem registry_writeNext {task written : Task} {outcome : WriteOutcome}
    (h : task.writeNext outcome = some written) : written.registry = task.registry := by
  unfold writeNext at h
  split at h
  · cases h
  · cases h
    rfl

/-- Room is made by giving up at most one line, and only when there is none. -/
theorem queue_makeRoom (queueCapacity : ℕ) (task : Task) :
    (task.makeRoom queueCapacity).queue.Sublist task.queue ∧
      task.queue.length ≤ (task.makeRoom queueCapacity).queue.length + 1 ∧
      (task.queue.length < queueCapacity → task.makeRoom queueCapacity = task) := by
  unfold makeRoom
  split
  · rename_i hfull
    refine ⟨?_, ?_, fun hroom => absurd hroom (by omega)⟩
    · split
      · exact List.eraseIdx_sublist _ _
      · split
        · exact List.Sublist.refl _
        · rename_i hqueue
          rw [hqueue]
          exact List.sublist_cons_self _ _
    · split
      · rename_i pos hpos
        rw [drop, List.length_eraseIdx]
        split <;> omega
      · split
        · omega
        · rename_i hqueue
          rw [hqueue, List.length_cons]
          rfl
  · exact ⟨List.Sublist.refl _, Nat.le_succ _, fun _ => rfl⟩

/-- One synthetic line was queued, at the cost of at most one line and of none while there
was room. -/
def QueuedSynthetic (queueCapacity : ℕ) (line : StatsLine) (before after : List QueueEntry) :
    Prop :=
  ∃ kept, after = kept ++ [⟨line, true⟩] ∧ kept.Sublist before ∧
    before.length ≤ kept.length + 1 ∧ (before.length < queueCapacity → kept = before)

private theorem enqueueSynthetic_queues {queueCapacity : ℕ} (hcapacity : 0 < queueCapacity)
    (line : StatsLine) (task : Task) :
    QueuedSynthetic queueCapacity line task.queue
      (task.enqueueSynthetic queueCapacity line).queue := by
  obtain ⟨hkept, hlength, hroom⟩ := queue_makeRoom queueCapacity task
  rw [enqueueSynthetic, if_neg hcapacity.ne']
  refine ⟨(task.makeRoom queueCapacity).queue, rfl, hkept, hlength, ?_⟩
  intro hlt
  rw [hroom hlt]

/-- The end of a mirrored endpoint is reported by one synthetic line. -/
theorem handleEvent_finalize_queues {cfg : StatsRunConfig} {task : Task} {id : EndpointId}
    {entry : RegisteredEndpoint} (henabled : cfg.enabled = true)
    (hcapacity : 0 < cfg.queueCapacity) (hentry : task.registry.lookup id = some entry)
    (ports : Ports) (ts : String) :
    QueuedSynthetic cfg.queueCapacity (buildLine entry.name (ports id).stats ts entry.routable)
      task.queue (task.handleEvent cfg ports ts (.finalize id)).queue := by
  rw [handleEvent, hentry]
  simp only [henabled, if_true]
  exact enqueueSynthetic_queues hcapacity _ _

end Task

/-- What a lifecycle event does to the mirror. -/
def Registry.apply (registry : Registry) : StatsEvent → Registry
  | .register id name routable => registry.insert id ⟨name, routable⟩
  | .finalize id => registry.erase id

/-- The mirror after a sequence of lifecycle events. -/
def replay (events : List StatsEvent) : Registry :=
  events.foldl Registry.apply ∅

/-- One more event is applied last. -/
theorem replay_snoc (events : List StatsEvent) (event : StatsEvent) :
    replay (events ++ [event]) = (replay events).apply event := by
  rw [replay, List.foldl_append]
  rfl

/-- The task's mirror follows the events it handles, whatever lines it queues. -/
theorem Task.registry_handleEvent (cfg : StatsRunConfig) (ports : Ports) (ts : String)
    (task : Task) (event : StatsEvent) :
    (task.handleEvent cfg ports ts event).registry = task.registry.apply event := by
  cases event with
  | register id name routable => rfl
  | finalize id =>
    change (match task.registry.lookup id with
      | none => task
      | some entry => _ : Task).registry = task.registry.erase id
    split
    next hlookup =>
      have habsent : id ∉ task.registry.entries.keys := AList.lookup_eq_none.mp hlookup
      exact (AList.ext (List.kerase_of_notMem_keys habsent)).symm
    next entry hlookup =>
      dsimp only
      split
      · rw [registry_enqueueSynthetic]
      · rfl

/-- The events about one endpoint. -/
def eventsOf (id : EndpointId) (events : List StatsEvent) : List StatsEvent :=
  events.filter (·.id = id)

/-- The events of one list after another. -/
@[simp] theorem eventsOf_append (id : EndpointId) (events events' : List StatsEvent) :
    eventsOf id (events ++ events') = eventsOf id events ++ eventsOf id events' :=
  List.filter_append _ _

/-- An endpoint is in the mirror exactly if the last event about it registers it. -/
theorem lookup_replay_isSome (events : List StatsEvent) (id : EndpointId) :
    ((replay events).lookup id).isSome ↔
      ∃ name routable, (eventsOf id events).getLast? = some (.register id name routable) := by
  induction events using List.reverseRecOn with
  | nil => simp [replay, eventsOf]
  | append_singleton events event ih =>
    rw [replay_snoc, eventsOf_append]
    by_cases hid : event.id = id
    · have hself : eventsOf id [event] = [event] := by simp [eventsOf, hid]
      rw [hself, List.getLast?_append_of_ne_nil _ (by simp), List.getLast?_singleton]
      cases event with
      | register added name routable =>
        obtain rfl : added = id := hid
        simp [Registry.apply]
      | finalize removed =>
        obtain rfl : removed = id := hid
        simp [Registry.apply]
    · have hother : eventsOf id [event] = [] := by simp [eventsOf, hid]
      rw [hother, List.append_nil, ← ih]
      cases event with
      | register added name routable =>
        have hne : id ≠ added := Ne.symm hid
        rw [Registry.apply, AList.lookup_insert_ne hne]
      | finalize removed =>
        have hne : id ≠ removed := Ne.symm hid
        rw [Registry.apply, AList.lookup_erase_ne hne]

/-- Endpoints registered under distinct ids are all in the mirror. -/
theorem length_replay_register {ids : List EndpointId} (name : EndpointId → String)
    (routable : EndpointId → Bool) (hids : ids.Nodup) :
    (replay (ids.map fun id => .register id (name id) (routable id))).entries.length =
      ids.length := by
  induction ids using List.reverseRecOn with
  | nil => rfl
  | append_singleton ids id ih =>
    obtain ⟨hids, -, hdisjoint⟩ := List.nodup_append.mp hids
    have hnew : id ∉ ids := fun hmem => hdisjoint id hmem id (by simp) rfl
    rw [List.map_append, List.map_singleton, replay_snoc, Registry.apply,
      Library.length_insert, ih hids, List.length_append, List.length_singleton]
    rw [← Option.not_isSome_iff_eq_none, lookup_replay_isSome]
    rintro ⟨name', routable', hlast⟩
    have hmem := List.mem_filter.mp (List.mem_of_getLast? hlast)
    obtain ⟨other, hother, hregister⟩ := List.mem_map.mp hmem.1
    cases hregister
    exact hnew hother

end Stats

end MavlinkRouter
