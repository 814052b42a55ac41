import MavlinkRouter.Endpoint.Session

/-!
# Egress

The transmit queue of an endpoint with its history: what the router has pushed, and what
became of every frame that left the queue. Frames leave it in the order in which they were
pushed, so the queue always holds the latest ones, and every frame that has left it was
evicted, drained, written, or lost in a failed write.
-/

namespace MavlinkRouter

/-- The number of frames a writer has drained without having counted them yet. -/
def Writer.pending : Writer → ℕ
  | .idle => 0
  | .writing _ => 0
  | .draining count => count

/-- The writer's half of an endpoint and its history. A failed write is `failed` if it was
counted as a dropped frame and `lost` if not. -/
structure Egress where
  port : Port
  writer : Writer
  pushes : List Bytes
  evicted : ℕ
  drained : ℕ
  sent : ℕ
  failed : ℕ
  lost : ℕ

namespace Egress

/-- An endpoint that nothing has been pushed to. -/
def start (capacity : ℕ) (state : EndpointState) : Egress where
  port := ⟨{ state := state }, .new capacity⟩
  writer := .idle
  pushes := []
  evicted := 0
  drained := 0
  sent := 0
  failed := 0
  lost := 0

/-- Whether an access pushes out the oldest frame. -/
def evicts (port : Port) : PortAccess → Bool
  | .push frame => (port.txQueue.forcePush frame).2.isSome
  | .addOutFilterDrop => false
  | .addDedupDrop => false
  | .storeLearnEntries _ => false
  | .storeState _ => false

/-- An access to the shared state. -/
def access (egress : Egress) (access : PortAccess) : Egress :=
  { egress with
    port := egress.port.access access
    pushes := egress.pushes ++ access.pushed?.toList
    evicted := egress.evicted + (evicts egress.port access).toNat }

/-- The history after a step of the writer. -/
def record (egress : Egress) (after : Writer) (port : Port) :
    WriterStep → Egress
  | .pop => { egress with writer := after, port := port }
  | .write _ => { egress with writer := after, port := port }
  | .finish => { egress with writer := after, port := port, sent := egress.sent + 1 }
  | .fail true => { egress with writer := after, port := port, failed := egress.failed + 1 }
  | .fail false => { egress with writer := after, port := port, lost := egress.lost + 1 }
  | .startDrain => { egress with writer := after, port := port }
  | .drain =>
    { egress with
      writer := after
      port := port
      drained := egress.drained + (after.pending - egress.writer.pending) }

/-- A step of the writer. -/
def write (egress : Egress) (step : WriterStep) : Option Egress :=
  (egress.writer.step egress.port step).map fun result => egress.record result.1 result.2.1 step

/-- `send_to` takes a whole frame at once. -/
def sendDatagram (egress : Egress) : Option Egress :=
  match egress.writer with
  | .idle => none
  | .writing write =>
    (egress.write (.write write.rest.length)).bind fun written => written.write .finish
  | .draining _ => none

/-- Replace the counters. -/
def setStats (egress : Egress) (stats : EndpointStats) : Egress :=
  { egress with port := ⟨stats, egress.port.txQueue⟩ }

/-- The number of frames that have left the queue. -/
def removed (egress : Egress) : ℕ :=
  egress.evicted + egress.drained + egress.sent + egress.failed + egress.lost +
    egress.writer.frames.length

/-- The queue holds the latest pushes, and the counters count what they are meant to. -/
structure Consistent (egress : Egress) : Prop where
  removed_le : egress.removed ≤ egress.pushes.length
  queue : egress.port.txQueue.frames = egress.pushes.drop egress.removed
  txFrames : egress.port.stats.txFrames = UInt64.ofNat egress.sent
  droppedTx : egress.port.stats.droppedTx + UInt64.ofNat egress.writer.pending =
    UInt64.ofNat (egress.evicted + egress.drained + egress.failed)

/-- The counts agree at the start. -/
theorem consistent_start (capacity : ℕ) (state : EndpointState) :
    Consistent (start capacity state) where
  removed_le := le_rfl
  queue := rfl
  txFrames := rfl
  droppedTx := rfl

variable {egress after : Egress}

/-- One more is counted. -/
theorem count_one {counter pending : UInt64} {count : ℕ}
    (h : counter + pending = UInt64.ofNat count) :
    counter + 1 + pending = UInt64.ofNat (count + 1) := by
  rw [UInt64.ofNat_add, ← h, UInt64.add_assoc, UInt64.add_comm 1, ← UInt64.add_assoc]
  rfl

/-- Every pushed frame has left the queue or is in it. -/
theorem Consistent.length_eq (h : Consistent egress) :
    egress.pushes.length = egress.removed + egress.port.txQueue.frames.length := by
  have hle := h.removed_le
  rw [h.queue, List.length_drop]
  omega

/-- The oldest queued frame is the first push that has not left the queue. -/
theorem Consistent.head (h : Consistent egress) {frame : Bytes} {rest : List Bytes}
    (hqueue : egress.port.txQueue.frames = frame :: rest) :
    egress.pushes[egress.removed]? = some frame ∧
      rest = egress.pushes.drop (egress.removed + 1) := by
  have hdrop := h.queue.symm.trans hqueue
  refine ⟨?_, ?_⟩
  · rw [← List.head?_drop, hdrop, List.head?_cons]
  · rw [← List.drop_drop, hdrop]
    rfl

/-- A push takes its place at the end of the queue. -/
theorem Consistent.push (h : Consistent egress) (frame : Bytes) :
    Consistent (egress.access (.push frame)) := by
  have hle := h.removed_le
  have hpushes : (egress.access (.push frame)).pushes = egress.pushes ++ [frame] := rfl
  have hwriter : (egress.access (.push frame)).writer = egress.writer := rfl
  have hport : (egress.access (.push frame)).port = egress.port.push frame := rfl
  rcases egress.port.txQueue.forcePush_cases frame with
    ⟨-, hnone, hpush⟩ | ⟨oldest, rest, hframes, -, hsome, hpush⟩
  · have hevicted : (egress.access (.push frame)).evicted = egress.evicted := by
      simp [Egress.access, evicts, hnone]
    have hremoved : (egress.access (.push frame)).removed = egress.removed := by
      rw [removed, hevicted]
      rfl
    constructor
    case removed_le =>
      rw [hremoved, hpushes, List.length_append]
      omega
    case queue =>
      rw [hremoved, hpushes, List.drop_append_of_le_length hle, ← h.queue]
      exact hpush
    case txFrames =>
      rw [hport, Port.txFrames_push]
      exact h.txFrames
    case droppedTx =>
      rw [hevicted, hwriter, hport, Port.droppedTx_push, hnone]
      exact h.droppedTx
  · obtain ⟨hhead, hrest⟩ := h.head hframes
    have hlt : egress.removed < egress.pushes.length := (List.getElem?_eq_some_iff.mp hhead).1
    have hevicted : (egress.access (.push frame)).evicted = egress.evicted + 1 := by
      simp [Egress.access, evicts, hsome]
    have hremoved : (egress.access (.push frame)).removed = egress.removed + 1 := by
      rw [removed, removed, hevicted, hwriter]
      simp only [Egress.access]
      omega
    constructor
    case removed_le =>
      rw [hremoved, hpushes, List.length_append]
      omega
    case queue =>
      rw [hremoved, hpushes, List.drop_append_of_le_length hlt, ← hrest]
      exact hpush
    case txFrames =>
      rw [hport, Port.txFrames_push]
      exact h.txFrames
    case droppedTx =>
      have hcount : egress.evicted + 1 + egress.drained + egress.failed =
          egress.evicted + egress.drained + egress.failed + 1 := by omega
      rw [hevicted, hwriter, hport, Port.droppedTx_push, hsome]
      exact (count_one h.droppedTx).trans (congrArg UInt64.ofNat hcount.symm)

/-- Other accesses leave the queue and the counters of the writer alone. -/
theorem Consistent.setPort (h : Consistent egress) {port : Port}
    (hqueue : port.txQueue = egress.port.txQueue)
    (htx : port.stats.txFrames = egress.port.stats.txFrames)
    (hdropped : port.stats.droppedTx = egress.port.stats.droppedTx) :
    Consistent { egress with port := port } where
  removed_le := h.removed_le
  queue := (congrArg TxQueue.frames hqueue).trans h.queue
  txFrames := htx.trans h.txFrames
  droppedTx := by
    rw [hdropped]
    exact h.droppedTx

private theorem access_of_not_pushed {access : PortAccess} (hpushed : access.pushed? = none) :
    egress.access access = { egress with port := egress.port.access access } := by
  cases access with
  | push frame => cases hpushed
  | addOutFilterDrop => simp [Egress.access, evicts, PortAccess.pushed?]
  | addDedupDrop => simp [Egress.access, evicts, PortAccess.pushed?]
  | storeLearnEntries count => simp [Egress.access, evicts, PortAccess.pushed?]
  | storeState state => simp [Egress.access, evicts, PortAccess.pushed?]

/-- Other tasks keep the counts consistent. -/
theorem Consistent.access (h : Consistent egress) (access : PortAccess) :
    Consistent (egress.access access) := by
  cases access with
  | push frame => exact h.push frame
  | addOutFilterDrop =>
    rw [access_of_not_pushed rfl]
    exact h.setPort rfl rfl rfl
  | addDedupDrop =>
    rw [access_of_not_pushed rfl]
    exact h.setPort rfl rfl rfl
  | storeLearnEntries count =>
    rw [access_of_not_pushed rfl]
    exact h.setPort rfl rfl rfl
  | storeState state =>
    rw [access_of_not_pushed rfl]
    exact h.setPort rfl rfl rfl

/-- A number of frames leave the queue, the oldest first. -/
theorem Consistent.advance (h : Consistent egress) (count : ℕ)
    (hpushes : after.pushes = egress.pushes)
    (hremoved : after.removed = egress.removed + count)
    (hqueue : after.port.txQueue.frames = egress.port.txQueue.frames.drop count)
    (hcount : count ≤ egress.port.txQueue.frames.length)
    (htx : after.port.stats.txFrames = UInt64.ofNat after.sent)
    (hdropped : after.port.stats.droppedTx + UInt64.ofNat after.writer.pending =
      UInt64.ofNat (after.evicted + after.drained + after.failed)) : Consistent after where
  removed_le := by
    rw [hpushes, hremoved, h.length_eq]
    omega
  queue := by rw [hqueue, h.queue, List.drop_drop, hremoved, hpushes]
  txFrames := htx
  droppedTx := hdropped

/-- What a step of the writer can do. -/
theorem write_moves {step : WriterStep} (h : egress.write step = some after) :
    ∃ writer port written, Writer.Moves egress.port egress.writer step writer port written ∧
      after = egress.record writer port step := by
  obtain ⟨⟨writer, port, written⟩, hwriter, hafter⟩ := Option.map_eq_some_iff.mp h
  exact ⟨writer, port, written, Writer.step_moves hwriter, hafter.symm⟩

/-- A step of the writer takes frames out of the queue in order and counts them. -/
theorem Consistent.write {step : WriterStep} (h : Consistent egress)
    (hstep : egress.write step = some after) : Consistent after := by
  obtain ⟨writer', port', written, hmoves, rfl⟩ := write_moves hstep
  have htx := h.txFrames
  have hdropped := h.droppedTx
  obtain ⟨port, writer, pushes, evicted, drained, sent, failed, lost⟩ := egress
  dsimp only at hmoves htx hdropped
  cases hmoves with
  | popped hpop =>
    have hframes := Writer.frames_of_pop hpop
    refine h.advance 1 rfl rfl ?_ ?_ htx hdropped
    · rw [hframes]
      rfl
    · rw [hframes, List.length_cons]
      omega
  | wrote write count => exact h.advance 0 rfl rfl rfl (Nat.zero_le _) htx hdropped
  | finished write hrest =>
    refine h.advance 0 rfl ?_ rfl (Nat.zero_le _) ?_ hdropped
    · simp only [removed, record, Writer.frames, List.length_nil, List.length_singleton]
      omega
    · change port.stats.txFrames + 1 = UInt64.ofNat (sent + 1)
      rw [htx, UInt64.ofNat_add]
      rfl
  | failed write counted =>
    cases counted with
    | false =>
      refine h.advance 0 rfl ?_ rfl (Nat.zero_le _) htx hdropped
      simp only [removed, record, Writer.frames, List.length_nil, List.length_singleton]
      omega
    | true =>
      refine h.advance 0 rfl ?_ rfl (Nat.zero_le _) htx (count_one hdropped)
      simp only [removed, record, Writer.frames, List.length_nil, List.length_singleton]
      omega
  | startedDrain => exact h.advance 0 rfl rfl rfl (Nat.zero_le _) htx hdropped
  | discarded count hpop =>
    have hframes := Writer.frames_of_pop hpop
    refine h.advance 1 rfl ?_ ?_ ?_ htx ?_
    · simp only [removed, record, Writer.frames, Writer.pending]
      omega
    · rw [hframes]
      rfl
    · rw [hframes, List.length_cons]
      omega
    · have hcount : evicted + (drained + (count + 1 - count)) + failed =
          evicted + drained + failed + 1 := by omega
      simp only [record, Writer.pending] at hdropped ⊢
      rw [UInt64.ofNat_add, ← UInt64.add_assoc, hdropped, hcount, ← UInt64.ofNat_add]
  | emptied count hpop =>
    refine h.advance 0 rfl ?_ rfl (Nat.zero_le _) htx ?_
    · simp only [removed, record, Writer.frames, Writer.pending]
      omega
    · simp only [record, Writer.pending, Nat.zero_sub, Nat.add_zero] at hdropped ⊢
      rw [hdropped]
      exact UInt64.add_zero _

/-- The writer pushes nothing. -/
theorem pushes_write {step : WriterStep} (h : egress.write step = some after) :
    after.pushes = egress.pushes := by
  obtain ⟨writer, port, written, -, rfl⟩ := write_moves h
  cases step with
  | fail counted => cases counted <;> rfl
  | _ => rfl

/-- Only a counted failure is recorded as one. -/
theorem failed_write {step : WriterStep} (h : egress.write step = some after)
    (hstep : step ≠ .fail true) : after.failed = egress.failed := by
  obtain ⟨writer, port, written, -, rfl⟩ := write_moves h
  cases step with
  | fail counted =>
    cases counted with
    | false => rfl
    | true => exact absurd rfl hstep
  | _ => rfl

/-- Pushes are never forgotten. -/
theorem pushes_access (egress : Egress) (access : PortAccess) :
    egress.pushes <+: (egress.access access).pushes :=
  List.prefix_append _ _

/-- Frames never come back to the queue. -/
theorem removed_le_access (egress : Egress) (access : PortAccess) :
    egress.removed ≤ (egress.access access).removed := by
  simp only [removed, Egress.access]
  omega

/-- Nothing comes back into the queue. -/
theorem removed_le_write {step : WriterStep} (h : egress.write step = some after) :
    egress.removed ≤ after.removed := by
  obtain ⟨writer', port', written, hmoves, rfl⟩ := write_moves h
  obtain ⟨port, writer, pushes, evicted, drained, sent, failed, lost⟩ := egress
  dsimp only at hmoves
  cases hmoves with
  | popped hpop => exact Nat.le_succ _
  | wrote write count => exact le_rfl
  | finished write hrest =>
    simp only [removed, record, Writer.frames, List.length_nil, List.length_singleton]
    omega
  | failed write counted =>
    cases counted <;>
      simp only [removed, record, Writer.frames, List.length_nil, List.length_singleton] <;> omega
  | startedDrain => exact le_rfl
  | discarded count hpop =>
    simp only [removed, record, Writer.frames, Writer.pending]
    omega
  | emptied count hpop =>
    simp only [removed, record, Writer.frames, Writer.pending]
    omega

/-- A popped frame is the first push that has not left the queue before. -/
theorem Consistent.pop (h : Consistent egress) (hpop : egress.write .pop = some after) :
    ∃ frame, after.writer.frames = [frame] ∧ egress.pushes[egress.removed]? = some frame ∧
      after.removed = egress.removed + 1 := by
  obtain ⟨writer', port', written, hmoves, rfl⟩ := write_moves hpop
  have hhead : ∀ {frame rest}, egress.port.txQueue.frames = frame :: rest →
      egress.pushes[egress.removed]? = some frame := fun hqueue => (h.head hqueue).1
  obtain ⟨port, writer, pushes, evicted, drained, sent, failed, lost⟩ := egress
  dsimp only at hmoves
  cases hmoves with
  | popped hframe => exact ⟨_, rfl, hhead (Writer.frames_of_pop hframe), rfl⟩

/-- When a drain is over, everything that was pushed has left the queue. -/
theorem Consistent.drained_all (h : Consistent egress) (hdrain : egress.write .drain = some after)
    (hidle : after.writer = .idle) : after.removed = after.pushes.length := by
  have hlength := (h.write hdrain).length_eq
  obtain ⟨writer', port', written, hmoves, rfl⟩ := write_moves hdrain
  obtain ⟨port, writer, pushes, evicted, drained, sent, failed, lost⟩ := egress
  dsimp only at hmoves
  cases hmoves with
  | discarded count hpop => cases hidle
  | emptied count hpop =>
    have hempty : port.txQueue.frames = [] := List.head?_eq_none_iff.mp (congrArg Prod.fst hpop)
    have hzero : port.txQueue.frames.length = 0 := by
      rw [hempty]
      rfl
    exact (hlength.trans (congrArg (Nat.add _) hzero)).symm

end Egress

end MavlinkRouter
