import MavlinkRouter.Endpoint.Ports
import MavlinkRouter.Endpoint.SeqTracker
import MavlinkRouter.Mavlink.Framer

/-!
# Readers and writers

The two halves of an endpoint, one atomic step at a time: the reader that turns received
bytes into frames for the router, and the writer that takes frames from the transmit queue
and puts them on the wire. A stream session runs both halves in one task, and a datagram
listener the readers of all its peers; whatever such a task does, the halves can do when
they act independently.
-/

namespace MavlinkRouter

namespace EndpointStats

def addRxFrame (stats : EndpointStats) (bytes : ℕ) : EndpointStats :=
  { stats with
    rxFrames := stats.rxFrames + 1
    rxBytes := stats.rxBytes + UInt64.ofNat bytes }

def addTxFrame (stats : EndpointStats) (bytes : ℕ) : EndpointStats :=
  { stats with
    txFrames := stats.txFrames + 1
    txBytes := stats.txBytes + UInt64.ofNat bytes }

def storeState (stats : EndpointStats) (state : EndpointState) : EndpointStats :=
  { stats with state := state }

end EndpointStats

/-- `u64::saturating_sub`. -/
def saturatingSub (total last : UInt64) : UInt64 :=
  if last ≤ total then total - last else 0

/-- The framer totals that were last published. -/
structure FramerCounters where
  lastResyncTotal : UInt64 := 0
  lastCrcTotal : UInt64 := 0
  deriving DecidableEq, Repr

/-- Publish what the framer has counted since the last time. -/
def FramerCounters.sync (counters : FramerCounters) (framer : Framer) (stats : EndpointStats) :
    FramerCounters × EndpointStats :=
  ({ lastResyncTotal := framer.resyncBytes, lastCrcTotal := framer.crcErrors },
    { stats with
      resyncBytes :=
        stats.resyncBytes + saturatingSub framer.resyncBytes counters.lastResyncTotal
      crcErrors := stats.crcErrors + saturatingSub framer.crcErrors counters.lastCrcTotal })

/-- Where a reader stands: waiting for bytes, in the loop of `forward_inbound_frames`, waiting
there for room in the router's channel, or stopped because that channel is closed. -/
inductive ReaderPhase where
  | reading
  | forwarding (now : Instant)
  | sending (routerFrame : RouterFrame) (now : Instant)
  | stopped
  deriving DecidableEq, Repr

/-- The state of one read session. -/
structure Reader where
  framer : Framer
  framerCounters : FramerCounters
  seqTracker : SeqTracker
  phase : ReaderPhase

namespace Reader

/-- A new session starts with a fresh framer. -/
def new : Reader where
  framer := .new
  framerCounters := {}
  seqTracker := .new seqTrackerCapacity
  phase := .reading

def setPhase (reader : Reader) (phase : ReaderPhase) : Reader :=
  { reader with phase := phase }

/-- Bytes arrive. -/
def receive (reader : Reader) (data : List UInt8) (now : Instant) : Option Reader :=
  match reader.phase with
  | .reading =>
    some { reader with
      framer := reader.framer.extendFromSlice data
      phase := .forwarding now }
  | .forwarding _ => none
  | .sending _ _ => none
  | .stopped => none

/-- One round of `forward_inbound_frames`: take a frame from the framer, count it and let
the in-filter decide. The last component is the frame the framer emitted, its number
`index` among those of endpoint `id`. -/
def forward (table : MsgTable) (filters : Filters) (id : EndpointId) (index : ℕ) (reader : Reader)
    (stats : EndpointStats) : Option (Reader × EndpointStats × Option Bytes) :=
  match reader.phase with
  | .forwarding now =>
    match reader.framer.tryNextFrame table with
    | (none, framer) =>
      let (framerCounters, stats) := reader.framerCounters.sync framer stats
      some ({ reader with
        framer := framer
        framerCounters := framerCounters
        phase := .reading }, stats, none)
    | (some (header, data), framer) =>
      let (lost, seqTracker) := reader.seqTracker.observe header.source header.seq now
      let counted := stats.addRxFrame data.length
      let counted := { counted with rxLostEst := counted.rxLostEst + lost.toUInt64 }
      if filters.passesInFilter header.msgid header.source then
        some ({ reader with
          framer := framer
          seqTracker := seqTracker
          phase := .sending ⟨id, ⟨data, id, index⟩, header⟩ now }, counted,
          some ⟨data, id, index⟩)
      else
        some ({ reader with
          framer := framer
          seqTracker := seqTracker }, { counted with inFilterDrops := counted.inFilterDrops + 1 },
          some ⟨data, id, index⟩)
  | .reading => none
  | .sending _ _ => none
  | .stopped => none

/-- The frame a reader is about to send. -/
def frames (reader : Reader) : List Bytes :=
  match reader.phase with
  | .reading => []
  | .forwarding _ => []
  | .sending routerFrame _ => [routerFrame.frame]
  | .stopped => []

/-- What one round does: it may end the loop, or take one frame, which then waits to be sent
if it passes the filter. -/
theorem forward_cases {table : MsgTable} {filters : Filters} {id : EndpointId} {index : ℕ}
    {reader after : Reader} {stats stats' : EndpointStats} {emitted : Option Bytes}
    (h : reader.forward table filters id index stats = some (after, stats', emitted)) :
    reader.frames = [] ∧
      (emitted = none ∧ after.frames = [] ∨
        ∃ frame : Bytes, emitted = some frame ∧ frame.origin = id ∧ frame.index = index ∧
          (after.frames = [] ∨
            ∃ header now, after.phase = .sending ⟨id, frame, header⟩ now)) := by
  unfold forward at h
  split at h
  · rename_i now hphase
    have hnone : reader.frames = [] := by
      rw [frames, hphase]
    refine ⟨hnone, ?_⟩
    split at h
    · cases h
      exact .inl ⟨rfl, rfl⟩
    · rename_i header data framer hnext
      dsimp only at h
      split at h
      · cases h
        exact .inr ⟨⟨data, id, index⟩, rfl, rfl, rfl, .inr ⟨header, now, rfl⟩⟩
      · cases h
        refine .inr ⟨⟨data, id, index⟩, rfl, rfl, rfl, .inl ?_⟩
        rw [frames]
        simp only [hphase]
  · cases h
  · cases h
  · cases h

end Reader

/-- A frame on its way onto the wire: what has been written and what is left. -/
structure Write where
  frame : Bytes
  sent : List UInt8
  rest : List UInt8
  split : sent ++ rest = frame.data

/-- A frame that is completely on the wire. -/
structure Written where
  frame : Bytes
  bytes : List UInt8
  complete : bytes = frame.data

namespace Write

/-- Nothing has been written yet. -/
def start (frame : Bytes) : Write where
  frame := frame
  sent := []
  rest := frame.data
  split := List.nil_append frame.data

/-- The transport takes the next bytes. -/
def advance (write : Write) (count : ℕ) : Write where
  frame := write.frame
  sent := write.sent ++ write.rest.take count
  rest := write.rest.drop count
  split := by rw [List.append_assoc, List.take_append_drop, write.split]

/-- Nothing is left to write. -/
def finish (write : Write) (h : write.rest = []) : Written where
  frame := write.frame
  bytes := write.sent
  complete := by rw [← write.split, h, List.append_nil]

end Write

/-- Where a writer stands: waiting for a frame, writing one, or emptying its queue. -/
inductive Writer where
  | idle
  | writing (write : Write)
  | draining (count : ℕ)

/-- One step of a writer. Whether a failed write is counted as a dropped frame depends on
the kind of the endpoint. -/
inductive WriterStep where
  | pop
  | write (count : ℕ)
  | finish
  | fail (counted : Bool)
  | startDrain
  | drain
  deriving DecidableEq, Repr

namespace Writer

/-- `pop_or_wait` returns a frame. -/
def pop (port : Port) : Option (Writer × Port) :=
  match port.txQueue.pop with
  | (some frame, txQueue) => some (.writing (.start frame), { port with txQueue := txQueue })
  | (none, _) => none

/-- One round of `drain_and_discard`. -/
def drain (count : ℕ) (port : Port) : Writer × Port :=
  match port.txQueue.pop with
  | (some _, txQueue) => (.draining (count + 1), { port with txQueue := txQueue })
  | (none, _) =>
    (.idle, { port with stats.droppedTx := port.stats.droppedTx + UInt64.ofNat count })

/-- The end of a failed write. -/
def fail (counted : Bool) (port : Port) : Port :=
  if counted then { port with stats.droppedTx := port.stats.droppedTx + 1 } else port

/-- One step; the last component is a frame whose writing it completes. -/
def step (writer : Writer) (port : Port) : WriterStep → Option (Writer × Port × Option Written)
  | .pop =>
    match writer with
    | .idle => (pop port).map fun popped => (popped.1, popped.2, none)
    | .writing _ => none
    | .draining _ => none
  | .write count =>
    match writer with
    | .idle => none
    | .writing write => some (.writing (write.advance count), port, none)
    | .draining _ => none
  | .finish =>
    match writer with
    | .idle => none
    | .writing write =>
      if h : write.rest = [] then
        some (.idle, { port with stats := port.stats.addTxFrame write.frame.data.length },
          some (write.finish h))
      else none
    | .draining _ => none
  | .fail counted =>
    match writer with
    | .idle => none
    | .writing _ => some (.idle, fail counted port, none)
    | .draining _ => none
  | .startDrain =>
    match writer with
    | .idle => some (.draining 0, port, none)
    | .writing _ => none
    | .draining _ => none
  | .drain =>
    match writer with
    | .idle => none
    | .writing _ => none
    | .draining count => some ((drain count port).1, (drain count port).2, none)

/-- The frame a writer has taken from its queue. -/
def frames : Writer → List Bytes
  | .idle => []
  | .writing write => [write.frame]
  | .draining _ => []

/-- Everything a step can do. -/
inductive Moves (port : Port) : Writer → WriterStep → Writer → Port → Option Written → Prop
  | popped {frame : Bytes} {txQueue : TxQueue}
      (hpop : port.txQueue.pop = (some frame, txQueue)) :
    Moves port .idle .pop (.writing (.start frame)) { port with txQueue := txQueue } none
  | wrote (write : Write) (count : ℕ) :
    Moves port (.writing write) (.write count) (.writing (write.advance count)) port none
  | finished (write : Write) (hrest : write.rest = []) :
    Moves port (.writing write) .finish .idle
      { port with stats := port.stats.addTxFrame write.frame.data.length }
      (some (write.finish hrest))
  | failed (write : Write) (counted : Bool) :
    Moves port (.writing write) (.fail counted) .idle (fail counted port) none
  | startedDrain : Moves port .idle .startDrain (.draining 0) port none
  | discarded {frame : Bytes} {txQueue : TxQueue} (count : ℕ)
      (hpop : port.txQueue.pop = (some frame, txQueue)) :
    Moves port (.draining count) .drain (.draining (count + 1)) { port with txQueue := txQueue }
      none
  | emptied {txQueue : TxQueue} (count : ℕ) (hpop : port.txQueue.pop = (none, txQueue)) :
    Moves port (.draining count) .drain .idle
      { port with stats.droppedTx := port.stats.droppedTx + UInt64.ofNat count } none

/-- Every step is one of these. -/
theorem step_moves {writer after : Writer} {port port' : Port} {step : WriterStep}
    {written : Option Written} (h : writer.step port step = some (after, port', written)) :
    Moves port writer step after port' written := by
  cases step with
  | pop =>
    cases writer with
    | idle =>
      obtain ⟨popped, hpopped, hresult⟩ := Option.map_eq_some_iff.mp h
      cases hresult
      unfold pop at hpopped
      split at hpopped
      · rename_i hpop
        cases hpopped
        exact .popped hpop
      · cases hpopped
    | writing write => cases h
    | draining count => cases h
  | write count =>
    cases writer with
    | idle => cases h
    | writing write =>
      cases h
      exact .wrote write count
    | draining drained => cases h
  | finish =>
    cases writer with
    | idle => cases h
    | writing write =>
      simp only [Writer.step] at h
      split at h
      · rename_i hrest
        cases h
        exact .finished write hrest
      · cases h
    | draining count => cases h
  | fail counted =>
    cases writer with
    | idle => cases h
    | writing write =>
      cases h
      exact .failed write counted
    | draining count => cases h
  | startDrain =>
    cases writer with
    | idle =>
      cases h
      exact .startedDrain
    | writing write => cases h
    | draining count => cases h
  | drain =>
    cases writer with
    | idle => cases h
    | writing write => cases h
    | draining count =>
      cases h
      unfold drain
      split
      · rename_i hpop
        exact .discarded count hpop
      · rename_i hpop
        exact .emptied count hpop

/-- Popping takes the oldest frame and leaves the others in order. -/
theorem frames_of_pop {port : Port} {frame : Bytes} {txQueue : TxQueue}
    (h : port.txQueue.pop = (some frame, txQueue)) :
    port.txQueue.frames = frame :: txQueue.frames := by
  obtain ⟨hhead, rfl⟩ := Prod.mk.inj h
  exact (List.cons_head?_tail hhead).symm

private theorem frames_fail (counted : Bool) (port : Port) :
    (fail counted port).txQueue = port.txQueue := by
  unfold fail
  split <;> rfl

/-- A writer keeps the order of its queue: each step hands the oldest frame on or drops it. -/
theorem step_sublist {writer after : Writer} {port port' : Port} {step : WriterStep}
    {written : Option Written} (h : writer.step port step = some (after, port', written)) :
    (written.toList.map Written.frame ++ after.frames ++ port'.txQueue.frames).Sublist
      (writer.frames ++ port.txQueue.frames) := by
  cases step_moves h with
  | popped hpop =>
    rw [frames_of_pop hpop]
    exact List.Sublist.refl _
  | wrote write count => exact List.Sublist.refl _
  | finished write hrest => exact List.Sublist.refl _
  | failed write counted =>
    rw [frames_fail]
    exact List.sublist_append_right _ _
  | startedDrain => exact List.Sublist.refl _
  | discarded count hpop =>
    rw [frames_of_pop hpop]
    exact List.sublist_cons_self _ _
  | emptied count hpop => exact List.Sublist.refl _

end Writer

end MavlinkRouter
