import MavlinkRouter.Endpoint.Session
import MavlinkRouter.Library.Execution
import MavlinkRouter.Mavlink.Tiling

/-!
# Ingress

Whole reads: received bytes go through the framer, every emitted frame is counted, checked
for lost predecessors and filtered, and the framer's totals are published at the end. The
counters are shared with the router and with the writer of the endpoint, which leave those
of the reader alone, so they balance over any sequence of reads.
-/

namespace MavlinkRouter

/-- The counters that only the reader of an endpoint changes. -/
structure IngressCounters where
  rxFrames : UInt64
  rxBytes : UInt64
  rxLostEst : UInt64
  crcErrors : UInt64
  resyncBytes : UInt64
  inFilterDrops : UInt64
  deriving DecidableEq, Repr

namespace EndpointStats

def ingress (stats : EndpointStats) : IngressCounters where
  rxFrames := stats.rxFrames
  rxBytes := stats.rxBytes
  rxLostEst := stats.rxLostEst
  crcErrors := stats.crcErrors
  resyncBytes := stats.resyncBytes
  inFilterDrops := stats.inFilterDrops

def addRxLostEst (stats : EndpointStats) (lost : UInt32) : EndpointStats :=
  { stats with rxLostEst := stats.rxLostEst + lost.toUInt64 }

def addInFilterDrop (stats : EndpointStats) : EndpointStats :=
  { stats with inFilterDrops := stats.inFilterDrops + 1 }

end EndpointStats

/-- What a reader keeps between two reads; `emitted` numbers the frames of its framer. -/
structure Ingress where
  framer : Framer
  framerCounters : FramerCounters
  seqTracker : SeqTracker
  emitted : ℕ

/-- The outcome of `forward_inbound_frames`: whether it broke off because the router's
channel is closed, and the frames it sent. -/
structure Forwarded where
  isBreak : Bool
  sent : List RouterFrame
  ingress : Ingress
  stats : EndpointStats

namespace Ingress

/-- A reader at the start of its session. -/
def new : Ingress where
  framer := .new
  framerCounters := {}
  seqTracker := .new seqTrackerCapacity
  emitted := 0

/-- The reader after its framer has emitted a frame. -/
def take (ingress : Ingress) (framer : Framer) (header : ParsedHeader) (now : Instant) :
    Ingress where
  framer := framer
  framerCounters := ingress.framerCounters
  seqTracker := (ingress.seqTracker.observe header.source header.seq now).2
  emitted := ingress.emitted + 1

/-- The counters after its framer has emitted a frame. -/
def counted (ingress : Ingress) (header : ParsedHeader) (data : List UInt8) (now : Instant)
    (stats : EndpointStats) : EndpointStats :=
  (stats.addRxFrame data.length).addRxLostEst
    (ingress.seqTracker.observe header.source header.seq now).1

/-- The loop over the frames of the framer. -/
def forwardInboundFrames (table : MsgTable) (filters : Filters) (id : EndpointId)
    (now : Instant) (framesOpen : Bool) (ingress : Ingress) (stats : EndpointStats) : Forwarded :=
  match _hnext : ingress.framer.tryNextFrame table with
  | (none, framer) => ⟨false, [], { ingress with framer := framer }, stats⟩
  | (some (header, data), framer) =>
    if filters.passesInFilter header.msgid header.source then
      if framesOpen then
        let rest := forwardInboundFrames table filters id now framesOpen
          (ingress.take framer header now) (ingress.counted header data now stats)
        { rest with sent := ⟨id, ⟨data, id, ingress.emitted⟩, header⟩ :: rest.sent }
      else ⟨true, [], ingress.take framer header now, ingress.counted header data now stats⟩
    else
      forwardInboundFrames table filters id now framesOpen (ingress.take framer header now)
        (ingress.counted header data now stats).addInFilterDrop
termination_by ingress.framer.buf.length
decreasing_by
  · exact Framer.tryNextFrame_some_length _hnext
  · exact Framer.tryNextFrame_some_length _hnext

/-- Bytes arrive. -/
def receive (ingress : Ingress) (data : List UInt8) : Ingress :=
  { ingress with framer := ingress.framer.extendFromSlice data }

/-- Publish the framer's totals. -/
def publish (forwarded : Forwarded) : Forwarded :=
  let synced := forwarded.ingress.framerCounters.sync forwarded.ingress.framer forwarded.stats
  { forwarded with
    ingress := { forwarded.ingress with framerCounters := synced.1 }
    stats := synced.2 }

/-- One whole read. The totals are published unless the loop broke off. -/
def read (table : MsgTable) (filters : Filters) (id : EndpointId) (now : Instant)
    (framesOpen : Bool) (data : List UInt8) (ingress : Ingress) (stats : EndpointStats) :
    Forwarded :=
  let forwarded :=
    (ingress.receive data).forwardInboundFrames table filters id now framesOpen stats
  if forwarded.isBreak then forwarded else publish forwarded

end Ingress

/-- What a number of frames adds to the counters. -/
def EndpointStats.addFrames (stats : EndpointStats) (frames bytes : ℕ) (lost : UInt64)
    (drops : ℕ) : EndpointStats :=
  { stats with
    rxFrames := stats.rxFrames + UInt64.ofNat frames
    rxBytes := stats.rxBytes + UInt64.ofNat bytes
    rxLostEst := stats.rxLostEst + lost
    inFilterDrops := stats.inFilterDrops + UInt64.ofNat drops }

@[simp] private theorem EndpointStats.addFrames_zero (stats : EndpointStats) :
    stats.addFrames 0 0 0 0 = stats := by
  simp [addFrames]

private theorem EndpointStats.addFrames_addFrames (stats : EndpointStats)
    (frames bytes frames' bytes' : ℕ) (lost lost' : UInt64) (drops drops' : ℕ) :
    (stats.addFrames frames bytes lost drops).addFrames frames' bytes' lost' drops' =
      stats.addFrames (frames + frames') (bytes + bytes') (lost + lost') (drops + drops') := by
  simp [addFrames, UInt64.ofNat_add, UInt64.add_assoc]

/-- Outcomes that differ at most in counters of the router and of the writer. -/
structure Forwarded.Alike (forwarded forwarded' : Forwarded) : Prop where
  isBreak : forwarded.isBreak = forwarded'.isBreak
  sent : forwarded.sent = forwarded'.sent
  ingress : forwarded.ingress = forwarded'.ingress
  counters : forwarded.stats.ingress = forwarded'.stats.ingress

/-- Publishing the totals reads no other counters. -/
theorem Forwarded.Alike.publish {forwarded forwarded' : Forwarded}
    (h : forwarded.Alike forwarded') :
    (Ingress.publish forwarded).Alike (Ingress.publish forwarded') := by
  obtain ⟨hbreak, hsent, hingress, hcounters⟩ := h
  refine ⟨hbreak, hsent, ?_, ?_⟩
  · simp only [Ingress.publish, FramerCounters.sync, hingress]
  · simp only [EndpointStats.ingress, IngressCounters.mk.injEq] at hcounters
    simp only [Ingress.publish, FramerCounters.sync, EndpointStats.ingress, hingress, hcounters]

/-- What the outcome keeps to: the reader's own id in the frames, and the counters of the
reader. -/
structure Forwarded.Confined (id : EndpointId) (stats : EndpointStats) (forwarded : Forwarded) :
    Prop where
  endpointId : ∀ routerFrame ∈ forwarded.sent, routerFrame.endpointId = id
  state : forwarded.stats.state = stats.state
  txFrames : forwarded.stats.txFrames = stats.txFrames
  droppedTx : forwarded.stats.droppedTx = stats.droppedTx

/-- The losses that a tracker infers from a list of frames, and the tracker after them. -/
def SeqTracker.observeAll (now : Instant) :
    SeqTracker → List (ParsedHeader × List UInt8) → UInt64 × SeqTracker
  | tracker, [] => (0, tracker)
  | tracker, frame :: frames =>
    let observed := tracker.observe frame.1.source frame.1.seq now
    let rest := observeAll now observed.2 frames
    (observed.1.toUInt64 + rest.1, rest.2)

namespace Ingress

variable {table : MsgTable} {filters : Filters} {id : EndpointId} {now : Instant}

/-- Whether an emitted frame passes the in-filter. -/
def passes (filters : Filters) (frame : ParsedHeader × List UInt8) : Bool :=
  filters.passesInFilter frame.1.msgid frame.1.source

/-- The frames for the router among the emitted ones, which are numbered from `index` on. -/
def toRouter (filters : Filters) (id : EndpointId) :
    ℕ → List (ParsedHeader × List UInt8) → List RouterFrame
  | _, [] => []
  | index, frame :: frames =>
    if passes filters frame then
      ⟨id, ⟨frame.2, id, index⟩, frame.1⟩ :: toRouter filters id (index + 1) frames
    else toRouter filters id (index + 1) frames

/-- The number of bytes of the frames. -/
def byteCount (frames : List (ParsedHeader × List UInt8)) : ℕ :=
  (frames.map fun frame => frame.2.length).sum

/-- The number of frames that are filtered out. -/
def dropCount (filters : Filters) (frames : List (ParsedHeader × List UInt8)) : ℕ :=
  frames.countP fun frame => !passes filters frame

/-- What the loop makes of the frames that the framer emits, while the channel is open. -/
def forwarded (filters : Filters) (id : EndpointId) (now : Instant) (ingress : Ingress)
    (stats : EndpointStats) (frames : List (ParsedHeader × List UInt8)) (framer : Framer) :
    Forwarded where
  isBreak := false
  sent := toRouter filters id ingress.emitted frames
  ingress :=
    { framer := framer
      framerCounters := ingress.framerCounters
      seqTracker := (ingress.seqTracker.observeAll now frames).2
      emitted := ingress.emitted + frames.length }
  stats := stats.addFrames frames.length (byteCount frames)
    (ingress.seqTracker.observeAll now frames).1 (dropCount filters frames)

/-- A frame that passes is counted and sent. -/
theorem forwarded_cons_pass (ingress : Ingress) (stats : EndpointStats) (header : ParsedHeader)
    (data : List UInt8) (rest framer : Framer) (frames : List (ParsedHeader × List UInt8))
    (hpass : filters.passesInFilter header.msgid header.source = true) :
    forwarded filters id now ingress stats ((header, data) :: frames) framer =
      { forwarded filters id now (ingress.take rest header now)
          (ingress.counted header data now stats) frames framer with
        sent := ⟨id, ⟨data, id, ingress.emitted⟩, header⟩ ::
          (forwarded filters id now (ingress.take rest header now)
            (ingress.counted header data now stats) frames framer).sent } := by
  have hkept : dropCount filters ((header, data) :: frames) = 0 + dropCount filters frames := by
    rw [dropCount, List.countP_cons_of_neg (by simpa [passes] using hpass), Nat.zero_add]
    rfl
  have hcounted : ingress.counted header data now stats = stats.addFrames 1 data.length
      (ingress.seqTracker.observe header.source header.seq now).1.toUInt64 0 := by
    simp [counted, EndpointStats.addRxFrame, EndpointStats.addRxLostEst, EndpointStats.addFrames]
  have hpasses : passes filters (header, data) = true := hpass
  simp only [forwarded, toRouter, hpasses, if_true, hkept, hcounted,
    EndpointStats.addFrames_addFrames, take, SeqTracker.observeAll, byteCount, List.map_cons,
    List.sum_cons, List.length_cons, Nat.add_comm 1, Nat.add_assoc]

/-- A frame that is filtered out is only counted. -/
theorem forwarded_cons_drop (ingress : Ingress) (stats : EndpointStats) (header : ParsedHeader)
    (data : List UInt8) (rest framer : Framer) (frames : List (ParsedHeader × List UInt8))
    (hdrop : ¬ filters.passesInFilter header.msgid header.source = true) :
    forwarded filters id now ingress stats ((header, data) :: frames) framer =
      forwarded filters id now (ingress.take rest header now)
        (ingress.counted header data now stats).addInFilterDrop frames framer := by
  have hdropped : dropCount filters ((header, data) :: frames) = 1 + dropCount filters frames := by
    rw [dropCount, List.countP_cons_of_pos (by simpa [passes] using hdrop), Nat.add_comm]
    rfl
  have hcounted : (ingress.counted header data now stats).addInFilterDrop =
      stats.addFrames 1 data.length
        (ingress.seqTracker.observe header.source header.seq now).1.toUInt64 1 := by
    simp [counted, EndpointStats.addRxFrame, EndpointStats.addRxLostEst, EndpointStats.addFrames,
      EndpointStats.addInFilterDrop]
  have hpasses : ¬ passes filters (header, data) = true := hdrop
  simp only [forwarded, toRouter, hpasses, hdropped, hcounted,
    EndpointStats.addFrames_addFrames, take, SeqTracker.observeAll, byteCount, List.map_cons,
    List.sum_cons, List.length_cons, Nat.add_comm 1, Nat.add_assoc]
  simp

/-- With an open channel the loop drains the framer. -/
theorem forwardInboundFrames_eq (ingress : Ingress) (stats : EndpointStats) :
    ingress.forwardInboundFrames table filters id now true stats =
      forwarded filters id now ingress stats (ingress.framer.drain table).1
        (ingress.framer.drain table).2 := by
  generalize hopen : true = framesOpen
  fun_induction forwardInboundFrames table filters id now framesOpen ingress stats with
  | case1 ingress stats framer hnext =>
    rw [Framer.drain_of_none hnext]
    simp [forwarded, toRouter, SeqTracker.observeAll, byteCount, dropCount]
  | case2 ingress stats header data framer hnext hpass hframes rest ih =>
    rw [Framer.drain_of_some hnext, forwarded_cons_pass _ _ _ _ framer _ _ hpass]
    simp only [rest, ih]
    rfl
  | case3 ingress stats header data framer hnext hpass hframes => exact absurd hopen.symm hframes
  | case4 ingress stats header data framer hnext hdrop ih =>
    rw [Framer.drain_of_some hnext, forwarded_cons_drop _ _ _ _ framer _ _ hdrop, ih]
    rfl

/-- One whole read with an open channel. -/
theorem read_eq (data : List UInt8) (ingress : Ingress) (stats : EndpointStats) :
    ingress.read table filters id now true data stats =
      publish (forwarded filters id now ingress stats
        ((ingress.framer.extendFromSlice data).drain table).1
        ((ingress.framer.extendFromSlice data).drain table).2) := by
  rw [read, forwardInboundFrames_eq]
  rfl

private theorem ingress_counted (ingress : Ingress) (header : ParsedHeader) (data : List UInt8)
    {stats stats' : EndpointStats} (h : stats.ingress = stats'.ingress) :
    (ingress.counted header data now stats).ingress =
      (ingress.counted header data now stats').ingress := by
  simp only [EndpointStats.ingress, IngressCounters.mk.injEq] at h
  simp only [counted, EndpointStats.ingress, EndpointStats.addRxFrame, EndpointStats.addRxLostEst,
    h]

/-- The loop does not read the counters of the router and of the writer. -/
theorem forwardInboundFrames_alike (framesOpen : Bool) (ingress : Ingress)
    (stats : EndpointStats) :
    ∀ stats', stats.ingress = stats'.ingress →
      (ingress.forwardInboundFrames table filters id now framesOpen stats).Alike
        (ingress.forwardInboundFrames table filters id now framesOpen stats') := by
  fun_induction forwardInboundFrames table filters id now framesOpen ingress stats with
  | case1 ingress stats framer hnext =>
    intro stats' h
    rw [forwardInboundFrames.eq_def, hnext]
    exact ⟨rfl, rfl, rfl, h⟩
  | case2 ingress stats header data framer hnext hpass hframes rest ih =>
    intro stats' h
    have hrest := ih _ (ingress_counted ingress header data h)
    rw [forwardInboundFrames.eq_def _ _ _ _ _ _ stats', hnext]
    dsimp only
    rw [if_pos hpass, if_pos hframes]
    exact ⟨hrest.isBreak, congrArg (List.cons _) hrest.sent, hrest.ingress, hrest.counters⟩
  | case3 ingress stats header data framer hnext hpass hframes =>
    intro stats' h
    rw [forwardInboundFrames.eq_def, hnext]
    simp only [hpass, hframes, if_true]
    exact ⟨rfl, rfl, rfl, ingress_counted ingress header data h⟩
  | case4 ingress stats header data framer hnext hdrop ih =>
    intro stats' h
    have hcounted : (ingress.counted header data now stats).ingress = _ :=
      ingress_counted ingress header data h
    rw [forwardInboundFrames.eq_def _ _ _ _ _ _ stats', hnext]
    simp only [hdrop]
    apply ih
    simp only [EndpointStats.ingress, IngressCounters.mk.injEq] at hcounted
    simp only [EndpointStats.ingress, EndpointStats.addInFilterDrop, hcounted]

/-- A whole read does not read them either. -/
theorem read_alike (framesOpen : Bool) (data : List UInt8) (ingress : Ingress)
    {stats stats' : EndpointStats} (h : stats.ingress = stats'.ingress) :
    (ingress.read table filters id now framesOpen data stats).Alike
      (ingress.read table filters id now framesOpen data stats') := by
  have hloop : ((ingress.receive data).forwardInboundFrames table filters id now framesOpen
      stats).Alike _ := forwardInboundFrames_alike framesOpen (ingress.receive data) stats stats' h
  rw [read, read, ← hloop.isBreak]
  split
  · exact hloop
  · exact hloop.publish

/-- The loop sends under the reader's own id, stores no state and counts nothing for the
writer. -/
theorem confined_forwardInboundFrames (framesOpen : Bool) (ingress : Ingress)
    (stats : EndpointStats) :
    (ingress.forwardInboundFrames table filters id now framesOpen stats).Confined id stats := by
  fun_induction forwardInboundFrames table filters id now framesOpen ingress stats with
  | case1 ingress stats framer hnext => exact ⟨by simp, rfl, rfl, rfl⟩
  | case2 ingress stats header data framer hnext hpass hframes rest ih =>
    exact ⟨List.forall_mem_cons.mpr ⟨rfl, ih.endpointId⟩, ih.state, ih.txFrames, ih.droppedTx⟩
  | case3 ingress stats header data framer hnext hpass hframes => exact ⟨by simp, rfl, rfl, rfl⟩
  | case4 ingress stats header data framer hnext hdrop ih =>
    exact ⟨ih.endpointId, ih.state, ih.txFrames, ih.droppedTx⟩

/-- So does a whole read. -/
theorem confined_read (framesOpen : Bool) (data : List UInt8) (ingress : Ingress)
    (stats : EndpointStats) :
    (ingress.read table filters id now framesOpen data stats).Confined id stats := by
  have hloop : ((ingress.receive data).forwardInboundFrames table filters id now framesOpen
      stats).Confined id stats := confined_forwardInboundFrames framesOpen _ stats
  rw [read]
  split
  · exact hloop
  · exact ⟨hloop.endpointId, hloop.state, hloop.txFrames, hloop.droppedTx⟩

/-- The reader of the atomic steps at the same point. -/
def reader (ingress : Ingress) (phase : ReaderPhase) : Reader where
  framer := ingress.framer
  framerCounters := ingress.framerCounters
  seqTracker := ingress.seqTracker
  phase := phase

/-- The atomic rounds of a reader from the start of the loop to its end, each send accepted. -/
inductive Rounds (table : MsgTable) (filters : Filters) (id : EndpointId) :
    ℕ → Reader → EndpointStats → List RouterFrame → Reader → EndpointStats → Prop
  | ended {index : ℕ} {reader after : Reader} {stats stats' : EndpointStats}
      (hforward : reader.forward table filters id index stats = some (after, stats', none)) :
    Rounds table filters id index reader stats [] after stats'
  | dropped {index : ℕ} {reader next after : Reader} {stats stats' stats'' : EndpointStats}
      {frame : Bytes} {sent : List RouterFrame} {now : Instant}
      (hforward : reader.forward table filters id index stats = some (next, stats', some frame))
      (hphase : next.phase = .forwarding now)
      (hrest : Rounds table filters id (index + 1) next stats' sent after stats'') :
    Rounds table filters id index reader stats sent after stats''
  | accepted {index : ℕ} {reader next after : Reader} {stats stats' stats'' : EndpointStats}
      {frame : Bytes} {routerFrame : RouterFrame} {sent : List RouterFrame} {now : Instant}
      (hforward : reader.forward table filters id index stats = some (next, stats', some frame))
      (hphase : next.phase = .sending routerFrame now)
      (hrest : Rounds table filters id (index + 1) (next.setPhase (.forwarding now)) stats' sent
        after stats'') :
    Rounds table filters id index reader stats (routerFrame :: sent) after stats''

/-- The atomic rounds of a reader amount to the whole loop. -/
theorem rounds_forwardInboundFrames (ingress : Ingress) (stats : EndpointStats) :
    Rounds table filters id ingress.emitted (ingress.reader (.forwarding now)) stats
      (publish (ingress.forwardInboundFrames table filters id now true stats)).sent
      ((publish (ingress.forwardInboundFrames table filters id now true stats)).ingress.reader
        .reading)
      (publish (ingress.forwardInboundFrames table filters id now true stats)).stats := by
  generalize hopen : true = framesOpen
  fun_induction forwardInboundFrames table filters id now framesOpen ingress stats with
  | case1 ingress stats framer hnext =>
    apply Rounds.ended
    simp only [Reader.forward, reader, hnext, publish]
  | case2 ingress stats header data framer hnext hpass hframes rest ih =>
    have hforward : (ingress.reader (.forwarding now)).forward table filters id ingress.emitted
        stats = some ((ingress.take framer header now).reader
          (.sending ⟨id, ⟨data, id, ingress.emitted⟩, header⟩ now),
          ingress.counted header data now stats, some ⟨data, id, ingress.emitted⟩) := by
      simp only [Reader.forward, reader, hnext, hpass, if_true]
      rfl
    exact .accepted hforward rfl ih
  | case3 ingress stats header data framer hnext hpass hframes => exact absurd hopen.symm hframes
  | case4 ingress stats header data framer hnext hdrop ih =>
    have hforward : (ingress.reader (.forwarding now)).forward table filters id ingress.emitted
        stats = some ((ingress.take framer header now).reader (.forwarding now),
          (ingress.counted header data now stats).addInFilterDrop,
          some ⟨data, id, ingress.emitted⟩) := by
      simp only [Reader.forward, reader, hnext, hdrop]
      rfl
    exact .dropped hforward rfl ih

end Ingress

/-- The two halves of a session with what they share with the router, the bytes of each read
so far and the frames sent to the router. -/
structure Session where
  ingress : Ingress
  port : Port
  writer : Writer
  received : List (List UInt8)
  sent : List RouterFrame

namespace Session

/-- A step of the session, or of the router on the shared state. -/
inductive Action where
  | read (data : List UInt8) (now : Instant)
  | access (access : PortAccess)
  | write (step : WriterStep)

/-- A new session on an endpoint that may have had others. -/
def start (port : Port) : Session where
  ingress := .new
  port := port
  writer := .idle
  received := []
  sent := []

/-- A read has been handled. -/
def afterRead (session : Session) (data : List UInt8) (forwarded : Forwarded) : Session where
  ingress := forwarded.ingress
  port := ⟨forwarded.stats, session.port.txQueue⟩
  writer := session.writer
  received := session.received ++ [data]
  sent := session.sent ++ forwarded.sent

/-- A read is handled. -/
def handleRead (table : MsgTable) (filters : Filters) (id : EndpointId) (now : Instant)
    (framesOpen : Bool) (data : List UInt8) (session : Session) : Session :=
  session.afterRead data
    (session.ingress.read table filters id now framesOpen data session.port.stats)

/-- Replace the shared state. -/
def setPort (session : Session) (port : Port) : Session :=
  { session with port := port }

/-- The writer has moved on. -/
def afterWrite (session : Session) (writer : Writer) (port : Port) : Session :=
  { session with writer := writer, port := port }

/-- One step while the router's channel is open. -/
def step (table : MsgTable) (filters : Filters) (id : EndpointId) (session : Session) :
    Action → Option Session
  | .read data now => some (session.handleRead table filters id now true data)
  | .access access => some (session.setPort (session.port.access access))
  | .write writerStep =>
    (session.writer.step session.port writerStep).map fun result =>
      session.afterWrite result.1 result.2.1

end Session

/-- The router does not count for the reader. -/
theorem Port.ingress_access (port : Port) (access : PortAccess) :
    (port.access access).stats.ingress = port.stats.ingress := by
  cases access with
  | push frame =>
    simp only [Port.access, push]
    split <;> rfl
  | addOutFilterDrop => rfl
  | addDedupDrop => rfl
  | storeLearnEntries count => rfl
  | storeState state => rfl

/-- The writer does not count for the reader. -/
theorem Writer.ingress_step {writer after : Writer} {port port' : Port} {step : WriterStep}
    {written : Option Written} (h : writer.step port step = some (after, port', written)) :
    port'.stats.ingress = port.stats.ingress := by
  cases step_moves h with
  | popped hpop => rfl
  | wrote write count => rfl
  | finished write hrest => rfl
  | failed write counted => cases counted <;> rfl
  | startedDrain => rfl
  | discarded count hpop => rfl
  | emptied count hpop => rfl

/-- The totals of a framer only grow. -/
theorem Framer.totals_le_drain (table : MsgTable) (framer : Framer) :
    framer.resyncBytes ≤ (framer.drain table).2.resyncBytes ∧
      framer.crcErrors ≤ (framer.drain table).2.crcErrors := by
  obtain ⟨pieces, hscan, -, -⟩ := drain_scans table framer
  have hresync := framer.resyncBytes.toNat_lt
  have hcrc := framer.crcErrors.toNat_lt
  rw [hscan.resync, hscan.crc, UInt64.le_iff_toNat_le, UInt64.le_iff_toNat_le,
    toNat_saturatingAdd, toNat_saturatingAdd, u64Max]
  omega

/-- Publishing what was added since the last time brings the counter up to date. -/
theorem add_saturatingSub {start last total : UInt64} (h : last ≤ total) :
    start + last + saturatingSub total last = start + total := by
  rw [saturatingSub, if_pos h, UInt64.add_assoc, UInt64.add_comm last, UInt64.sub_add_cancel]

namespace Session

open Library (execute execute_invariant)

variable {table : MsgTable} {filters : Filters} {id : EndpointId}

/-- The frames that the framer of a session has emitted. -/
def emitted (table : MsgTable) (session : Session) : List (ParsedHeader × List UInt8) :=
  (Framer.feed table .new .afterEveryChunk session.received).1

/-- The reader and its counters in terms of the bytes received since the counters stood at
`initial`. -/
structure Follows (table : MsgTable) (filters : Filters) (id : EndpointId)
    (initial : IngressCounters) (session : Session) : Prop where
  framer : session.ingress.framer = (Framer.feed table .new .afterEveryChunk session.received).2
  published : session.ingress.framerCounters =
    ⟨session.ingress.framer.resyncBytes, session.ingress.framer.crcErrors⟩
  index : session.ingress.emitted = (session.emitted table).length
  sent : session.sent = Ingress.toRouter filters id 0 (session.emitted table)
  rxFrames : session.port.stats.ingress.rxFrames =
    initial.rxFrames + UInt64.ofNat (session.emitted table).length
  rxBytes : session.port.stats.ingress.rxBytes =
    initial.rxBytes + UInt64.ofNat (Ingress.byteCount (session.emitted table))
  inFilterDrops : session.port.stats.ingress.inFilterDrops =
    initial.inFilterDrops + UInt64.ofNat (Ingress.dropCount filters (session.emitted table))
  resyncBytes : session.port.stats.ingress.resyncBytes =
    initial.resyncBytes + session.ingress.framer.resyncBytes
  crcErrors : session.port.stats.ingress.crcErrors =
    initial.crcErrors + session.ingress.framer.crcErrors

private theorem follows_start (port : Port) :
    Follows table filters id port.stats.ingress (start port) := by
  constructor <;> first | rfl | exact (UInt64.add_zero _).symm

/-- What the other tasks do leaves the reader and its counters alone. -/
theorem Follows.setPort {initial : IngressCounters} {session : Session}
    (h : Follows table filters id initial session) {writer : Writer} {port : Port}
    (hport : port.stats.ingress = session.port.stats.ingress) :
    Follows table filters id initial (session.afterWrite writer port) where
  framer := h.framer
  published := h.published
  index := h.index
  sent := h.sent
  rxFrames := (congrArg _ hport).trans h.rxFrames
  rxBytes := (congrArg _ hport).trans h.rxBytes
  inFilterDrops := (congrArg _ hport).trans h.inFilterDrops
  resyncBytes := (congrArg _ hport).trans h.resyncBytes
  crcErrors := (congrArg _ hport).trans h.crcErrors

/-- The frames for the router are numbered through. -/
theorem toRouter_append (filters : Filters) (id : EndpointId) (index : ℕ)
    (frames frames' : List (ParsedHeader × List UInt8)) :
    Ingress.toRouter filters id index (frames ++ frames') =
      Ingress.toRouter filters id index frames ++
        Ingress.toRouter filters id (index + frames.length) frames' := by
  induction frames generalizing index with
  | nil => rfl
  | cons frame frames ih =>
    rw [List.cons_append, Ingress.toRouter, Ingress.toRouter, ih, List.length_cons,
      Nat.add_right_comm, Nat.add_assoc]
    split <;> rfl

private theorem byteCount_append (frames frames' : List (ParsedHeader × List UInt8)) :
    Ingress.byteCount (frames ++ frames') =
      Ingress.byteCount frames + Ingress.byteCount frames' := by
  rw [Ingress.byteCount, List.map_append, List.sum_append]
  rfl

private theorem dropCount_append (filters : Filters)
    (frames frames' : List (ParsedHeader × List UInt8)) :
    Ingress.dropCount filters (frames ++ frames') =
      Ingress.dropCount filters frames + Ingress.dropCount filters frames' :=
  List.countP_append

/-- A whole read. -/
theorem Follows.read {initial : IngressCounters} {session : Session}
    (h : Follows table filters id initial session) (data : List UInt8) (now : Instant) :
    Follows table filters id initial (session.handleRead table filters id now true data) := by
  obtain ⟨hresync, hcrc⟩ :=
    Framer.totals_le_drain table (session.ingress.framer.extendFromSlice data)
  have hfeed := Framer.feed_snoc table .new session.received data
  rw [← h.framer] at hfeed
  have hemitted : (session.handleRead table filters id now true data).emitted table =
      session.emitted table ++ ((session.ingress.framer.extendFromSlice data).drain table).1 := by
    simp only [emitted, handleRead, afterRead, hfeed]
  constructor
  case framer =>
    simp only [handleRead, afterRead, Ingress.read_eq, hfeed]
    rfl
  case published =>
    simp only [handleRead, afterRead, Ingress.read_eq]
    rfl
  case index =>
    rw [hemitted, List.length_append, ← h.index]
    simp only [handleRead, afterRead, Ingress.read_eq]
    rfl
  case sent =>
    rw [hemitted, toRouter_append, ← h.sent, Nat.zero_add, ← h.index]
    simp only [handleRead, afterRead, Ingress.read_eq]
    rfl
  case rxFrames =>
    rw [hemitted, List.length_append, UInt64.ofNat_add, ← UInt64.add_assoc, ← h.rxFrames]
    simp only [handleRead, afterRead, Ingress.read_eq]
    rfl
  case rxBytes =>
    rw [hemitted, byteCount_append, UInt64.ofNat_add, ← UInt64.add_assoc, ← h.rxBytes]
    simp only [handleRead, afterRead, Ingress.read_eq]
    rfl
  case inFilterDrops =>
    rw [hemitted, dropCount_append, UInt64.ofNat_add, ← UInt64.add_assoc, ← h.inFilterDrops]
    simp only [handleRead, afterRead, Ingress.read_eq]
    rfl
  case resyncBytes =>
    have hold := h.resyncBytes
    simp only [handleRead, afterRead, Ingress.read_eq, Ingress.publish, Ingress.forwarded,
      FramerCounters.sync, EndpointStats.ingress, EndpointStats.addFrames, h.published] at hold ⊢
    rw [hold]
    exact add_saturatingSub hresync
  case crcErrors =>
    have hold := h.crcErrors
    simp only [handleRead, afterRead, Ingress.read_eq, Ingress.publish, Ingress.forwarded,
      FramerCounters.sync, EndpointStats.ingress, EndpointStats.addFrames, h.published] at hold ⊢
    rw [hold]
    exact add_saturatingSub hcrc

/-- The reader follows the received bytes in every run of a session. -/
theorem follows {port : Port} {actions : List Action} {session : Session}
    (hrun : execute (step table filters id) (start port) actions = some session) :
    Follows table filters id port.stats.ingress session := by
  refine execute_invariant (follows_start port) ?_ hrun
  intro before action after ih hstep
  cases action with
  | read data now =>
    cases hstep
    exact ih.read data now
  | access access =>
    cases hstep
    exact ih.setPort (before.port.ingress_access access)
  | write writerStep =>
    obtain ⟨⟨writer, port', written⟩, hwriter, hafter⟩ := Option.map_eq_some_iff.mp hstep
    cases hafter
    exact ih.setPort (Writer.ingress_step hwriter)

/-- The increase of a counter, which may wrap. -/
def increase (initial now : UInt64) : ℕ :=
  (now - initial).toNat

private theorem increase_add_ofNat (initial : UInt64) {n : ℕ} (h : n < 2 ^ 64) :
    increase initial (initial + UInt64.ofNat n) = n := by
  rw [increase, UInt64.add_comm, UInt64.add_sub_cancel]
  exact UInt64.toNat_ofNat_of_lt' h

private theorem increase_add (initial total : UInt64) :
    increase initial (initial + total) = total.toNat := by
  rw [increase, UInt64.add_comm, UInt64.add_sub_cancel]

/-- The balance of a session: every received byte is in a counted frame, was resynchronised
over or is still buffered, every counted frame was sent or dropped by the filter, the framer's
totals are published, and exactly the frames that pass the filter were sent. -/
structure Balanced (table : MsgTable) (filters : Filters) (id : EndpointId)
    (initial : IngressCounters) (session : Session) : Prop where
  bytes : increase initial.rxBytes session.port.stats.rxBytes +
      increase initial.resyncBytes session.port.stats.resyncBytes +
      session.ingress.framer.buf.length = session.received.flatten.length
  frames : increase initial.rxFrames session.port.stats.rxFrames =
    session.sent.length + increase initial.inFilterDrops session.port.stats.inFilterDrops
  crcErrors : increase initial.crcErrors session.port.stats.crcErrors =
    session.ingress.framer.crcErrors.toNat
  resyncBytes : increase initial.resyncBytes session.port.stats.resyncBytes =
    session.ingress.framer.resyncBytes.toNat
  sender : ∀ routerFrame ∈ session.sent, routerFrame.endpointId = id
  sent : session.sent.map (fun routerFrame => (routerFrame.header, routerFrame.frame.data)) =
    (Framer.feed table .new .afterEveryChunk session.received).1.filter fun frame =>
      filters.passesInFilter frame.1.msgid frame.1.source

/-- The pieces of a stream cover the bytes of its frames and one byte for each discard. -/
theorem length_flatMap_symbols (pieces : List Piece) :
    (pieces.flatMap Library.Segment.symbols).length =
      Ingress.byteCount (Framer.emissions pieces) + Framer.discards pieces := by
  induction pieces with
  | nil => rfl
  | cons piece pieces ih =>
    rw [List.flatMap_cons, List.length_append, ih]
    cases piece with
    | discarded byte why =>
      simp only [Framer.emissions, Framer.discards, Library.Segment.symbols,
        List.length_singleton, List.filterMap_cons, Library.Segment.output?,
        List.countP_cons, Library.Segment.reason?, Option.isSome_some, if_true]
      omega
    | emitted frame header =>
      simp only [Framer.emissions, Framer.discards, Library.Segment.symbols,
        List.filterMap_cons, Library.Segment.output?, List.countP_cons,
        Library.Segment.reason?, Option.isSome_none, Ingress.byteCount, List.map_cons,
        List.sum_cons]
      simp only [Bool.false_eq_true, if_false]
      omega

/-- Every frame has at least one byte. -/
theorem length_le_byteCount {frames : List (ParsedHeader × List UInt8)}
    (h : ∀ frame ∈ frames, 0 < frame.2.length) : frames.length ≤ Ingress.byteCount frames := by
  induction frames with
  | nil => exact Nat.zero_le _
  | cons frame frames ih =>
    rw [List.forall_mem_cons] at h
    have hrest := ih h.2
    simp only [Ingress.byteCount, List.map_cons, List.sum_cons, List.length_cons] at hrest ⊢
    omega

private theorem map_toRouter (filters : Filters) (id : EndpointId) (index : ℕ)
    (frames : List (ParsedHeader × List UInt8)) :
    (Ingress.toRouter filters id index frames).map
        (fun routerFrame => (routerFrame.header, routerFrame.frame.data)) =
      frames.filter (Ingress.passes filters) := by
  induction frames generalizing index with
  | nil => rfl
  | cons frame frames ih =>
    rw [Ingress.toRouter, List.filter_cons]
    split
    · rw [List.map_cons, ih]
    · exact ih (index + 1)

private theorem sender_toRouter (filters : Filters) (id : EndpointId) (index : ℕ)
    (frames : List (ParsedHeader × List UInt8)) :
    ∀ routerFrame ∈ Ingress.toRouter filters id index frames, routerFrame.endpointId = id := by
  induction frames generalizing index with
  | nil => simp [Ingress.toRouter]
  | cons frame frames ih =>
    rw [Ingress.toRouter]
    split
    · rw [List.forall_mem_cons]
      exact ⟨rfl, ih (index + 1)⟩
    · exact ih (index + 1)

/-- A reader that follows the received bytes is balanced, as long as they can be counted. -/
theorem Follows.balanced {initial : IngressCounters} {session : Session}
    (h : Follows table filters id initial session)
    (hbytes : session.received.flatten.length < 2 ^ 64) :
    Balanced table filters id initial session := by
  obtain ⟨pieces, htiling⟩ := Framer.drain_tiling table session.received.flatten
  rw [← Framer.feed_new table .afterEveryChunk, ← h.framer] at htiling
  have hlength := congrArg List.length htiling.tiles
  rw [List.length_append, length_flatMap_symbols, ← htiling.frames_eq] at hlength
  change _ = Ingress.byteCount (session.emitted table) + _ + _ at hlength
  have hframes : (session.emitted table).length ≤ Ingress.byteCount (session.emitted table) := by
    apply length_le_byteCount
    intro frame hmem
    obtain ⟨stx, hcomplete, -⟩ := htiling.accepted frame.1 frame.2 hmem
    have hheader := Framer.headerLen_lt_announcedLen frame.2 stx
    rw [hcomplete.length]
    omega
  have hdrops := List.countP_le_length
    (p := fun frame => !Ingress.passes filters frame) (l := session.emitted table)
  have hresync : session.ingress.framer.resyncBytes.toNat = Framer.discards pieces := by
    rw [htiling.resync, u64Max]
    omega
  have hresyncBytes : increase initial.resyncBytes session.port.stats.resyncBytes =
      session.ingress.framer.resyncBytes.toNat := by
    have heq : session.port.stats.resyncBytes = _ := h.resyncBytes
    rw [heq, increase_add]
  constructor
  case bytes =>
    have hrxBytes : session.port.stats.rxBytes = _ := h.rxBytes
    rw [hrxBytes, increase_add_ofNat _ (by omega), hresyncBytes, hresync]
    omega
  case frames =>
    have hrxFrames : session.port.stats.rxFrames = _ := h.rxFrames
    have hfiltered : session.port.stats.inFilterDrops = _ := h.inFilterDrops
    have hsent : session.sent.length =
        ((session.emitted table).filter (Ingress.passes filters)).length := by
      rw [← map_toRouter filters id 0, List.length_map, ← h.sent]
    have hsplit := List.length_eq_countP_add_countP (Ingress.passes filters)
      (l := session.emitted table)
    rw [hrxFrames, hfiltered, increase_add_ofNat _ (by omega),
      increase_add_ofNat _ (by rw [Ingress.dropCount]; omega), hsent,
      ← List.countP_eq_length_filter]
    simpa [Ingress.dropCount] using hsplit
  case crcErrors =>
    have hcrcErrors : session.port.stats.crcErrors = _ := h.crcErrors
    rw [hcrcErrors, increase_add]
  case resyncBytes => exact hresyncBytes
  case sender =>
    rw [h.sent]
    exact sender_toRouter filters id 0 _
  case sent =>
    rw [h.sent, map_toRouter]
    rfl

end Session

end MavlinkRouter
