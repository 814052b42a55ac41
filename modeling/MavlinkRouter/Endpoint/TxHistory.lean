import MavlinkRouter.Endpoint.Ports

/-!
# The history of a transmit queue

A transmit queue under any sequence of its operations, with what has been pushed to it and what
has been removed from it. Frames are removed from the front only, so the removed frames and then
the queued ones are the pushed ones, in their order.
-/

namespace MavlinkRouter

namespace TxQueue

private theorem length_pop_lt {queue rest : TxQueue} {frame : Bytes}
    (h : queue.pop = (some frame, rest)) : rest.frames.length < queue.frames.length := by
  obtain ⟨hhead, rfl⟩ := Prod.mk.inj h
  obtain ⟨tail, hframes⟩ := List.head?_eq_some_iff.mp hhead
  change queue.frames.tail.length < _
  rw [hframes]
  exact Nat.lt_succ_self _

/-- The loop of `drain_and_discard`: take frames and count them until there is none. -/
def popAll (queue : TxQueue) (count : ℕ) : ℕ × TxQueue :=
  match _h : queue.pop with
  | (some _, rest) => rest.popAll (count + 1)
  | (none, rest) => (count, rest)
termination_by queue.frames.length
decreasing_by exact length_pop_lt _h

/-- The loop counts all the frames and leaves none. -/
theorem popAll_spec (queue : TxQueue) (count : ℕ) :
    (queue.popAll count).1 = count + queue.frames.length ∧ (queue.popAll count).2.frames = [] ∧
      (queue.popAll count).2.capacity = queue.capacity := by
  fun_induction popAll queue count with
  | case1 queue count frame rest hpop ih =>
    obtain ⟨hcount, hframes, hcapacity⟩ := ih
    obtain ⟨hhead, rfl⟩ := Prod.mk.inj hpop
    obtain ⟨tail, hqueue⟩ := List.head?_eq_some_iff.mp hhead
    refine ⟨?_, hframes, hcapacity⟩
    rw [hcount]
    change count + 1 + queue.frames.tail.length = _
    rw [hqueue, List.tail_cons, List.length_cons]
    omega
  | case2 queue count rest hpop =>
    obtain ⟨hhead, rfl⟩ := Prod.mk.inj hpop
    have hqueue : queue.frames = [] := List.head?_eq_none_iff.mp hhead
    refine ⟨?_, ?_, rfl⟩
    · change count = count + queue.frames.length
      rw [hqueue]
      rfl
    · change queue.frames.tail = []
      rw [hqueue]
      rfl

private theorem capacity_forcePush (queue : TxQueue) (frame : Bytes) :
    (queue.forcePush frame).1.capacity = queue.capacity := by
  unfold forcePush
  split <;> rfl

/-- What a push evicts. -/
theorem evicted_forcePush (queue : TxQueue) (frame : Bytes) :
    (queue.forcePush frame).2 =
      if queue.frames.length = queue.capacity then queue.frames.head? else none := by
  rcases queue.forcePush_cases frame with
    ⟨hroom, hnone, -⟩ | ⟨oldest, rest, hframes, hfull, hsome, -⟩
  · rw [hnone, if_neg hroom.ne]
  · rw [hsome, if_pos hfull, hframes]
    rfl

end TxQueue

namespace Port

/-- `TxQueue::pop`. -/
def pop (port : Port) : Option Bytes × Port :=
  (port.txQueue.pop.1, { port with txQueue := port.txQueue.pop.2 })

/-- `TxQueue::drain_and_discard`: drained frames count as dropped. -/
def drainAndDiscard (port : Port) : ℕ × Port :=
  let (count, txQueue) := port.txQueue.popAll 0
  (count,
    { txQueue := txQueue
      stats :=
        if 0 < count then
          { port.stats with droppedTx := port.stats.droppedTx + UInt64.ofNat count }
        else port.stats })

end Port

/-- The operations on a transmit queue. -/
inductive TxOp where
  | push (frame : Bytes)
  | pop
  | drainAndDiscard
  deriving DecidableEq, Repr

/-- How a frame leaves the queue. -/
inductive Removal where
  | popped
  | evicted
  | drained
  deriving DecidableEq, Repr

/-- A transmit queue and its history. -/
structure TxHistory where
  port : Port
  pushes : List Bytes
  removals : List (Removal × Bytes)

namespace TxHistory

def start (capacity : ℕ) : TxHistory where
  port := ⟨{}, .new capacity⟩
  pushes := []
  removals := []

/-- One operation. -/
def apply (history : TxHistory) : TxOp → TxHistory
  | .push frame =>
    { port := history.port.push frame
      pushes := history.pushes ++ [frame]
      removals := history.removals ++
        (history.port.txQueue.forcePush frame).2.toList.map (Prod.mk .evicted) }
  | .pop =>
    { history with
      port := history.port.pop.2
      removals := history.removals ++ history.port.pop.1.toList.map (Prod.mk .popped) }
  | .drainAndDiscard =>
    { history with
      port := history.port.drainAndDiscard.2
      removals := history.removals ++ history.port.txQueue.frames.map (Prod.mk .drained) }

/-- A new queue after a sequence of operations. -/
def run (capacity : ℕ) (ops : List TxOp) : TxHistory :=
  ops.foldl apply (start capacity)

/-- The frames that pops have returned, in their order. -/
def returned (history : TxHistory) : List Bytes :=
  (history.removals.filter (·.1 = .popped)).map Prod.snd

/-- The number of frames removed otherwise. -/
def droppedCount (history : TxHistory) : ℕ :=
  history.removals.countP (·.1 ≠ .popped)

/-- The removed frames and then the queued ones are the pushed ones, and the counter counts the
frames that no pop has returned. -/
structure Sound (capacity : ℕ) (history : TxHistory) : Prop where
  capacity : history.port.txQueue.capacity = max capacity 1
  split : history.pushes = history.removals.map Prod.snd ++ history.port.txQueue.frames
  dropped : history.port.stats.droppedTx = UInt64.ofNat history.droppedCount

variable {capacity : ℕ} {history : TxHistory}

private theorem sound_start (capacity : ℕ) : Sound capacity (start capacity) where
  capacity := rfl
  split := rfl
  dropped := rfl

/-- A push counts the frame it evicts. -/
private theorem Sound.push (h : Sound capacity history) (frame : Bytes) :
    Sound capacity (history.apply (.push frame)) := by
  have hdropped := history.port.droppedTx_push frame
  constructor
  case capacity => exact (TxQueue.capacity_forcePush _ _).trans h.capacity
  case split =>
    change history.pushes ++ [frame] =
      List.map _ (_ ++ _) ++ (history.port.txQueue.forcePush frame).1.frames
    rcases history.port.txQueue.forcePush_cases frame with
      ⟨-, hnone, hframes⟩ | ⟨oldest, rest, hqueue, -, hsome, hframes⟩
    · rw [hnone, hframes, h.split]
      simp
    · rw [hsome, hframes, h.split, hqueue]
      simp
  case dropped =>
    change (history.port.push frame).stats.droppedTx = UInt64.ofNat (List.countP _ (_ ++ _))
    rw [hdropped, List.countP_append, UInt64.ofNat_add, h.dropped]
    cases (history.port.txQueue.forcePush frame).2 with
    | none => simp [droppedCount]
    | some oldest => simp [droppedCount]

private theorem Sound.pop (h : Sound capacity history) : Sound capacity (history.apply .pop) := by
  constructor
  case capacity => exact h.capacity
  case split =>
    change history.pushes = List.map _ (_ ++ List.map _ history.port.txQueue.frames.head?.toList) ++
      history.port.txQueue.frames.tail
    rw [h.split]
    cases history.port.txQueue.frames with
    | nil => simp
    | cons oldest rest => simp
  case dropped =>
    change history.port.stats.droppedTx = UInt64.ofNat (List.countP _ (_ ++ _))
    rw [List.countP_append, UInt64.ofNat_add, h.dropped]
    cases history.port.pop.1 with
    | none => simp [droppedCount]
    | some frame => simp [droppedCount]

/-- A drain counts every frame it discards. -/
private theorem Sound.drainAndDiscard (h : Sound capacity history) :
    Sound capacity (history.apply .drainAndDiscard) := by
  obtain ⟨hcount, hframes, hcapacity⟩ := history.port.txQueue.popAll_spec 0
  rw [Nat.zero_add] at hcount
  constructor
  case capacity => exact hcapacity.trans h.capacity
  case split =>
    change history.pushes = List.map _ (_ ++ _) ++ (history.port.txQueue.popAll 0).2.frames
    rw [hframes, h.split]
    simp
  case dropped =>
    have hcounter : (history.apply .drainAndDiscard).port.stats.droppedTx =
        history.port.stats.droppedTx + UInt64.ofNat history.port.txQueue.frames.length := by
      rw [← hcount]
      change EndpointStats.droppedTx (if 0 < (history.port.txQueue.popAll 0).1 then _ else _) = _
      split
      · rfl
      · rename_i hzero
        rw [Nat.eq_zero_of_not_pos hzero]
        simp
    rw [hcounter, h.dropped, ← UInt64.ofNat_add]
    refine congrArg UInt64.ofNat ?_
    change _ = List.countP _ (_ ++ _)
    rw [List.countP_append, List.countP_map]
    refine congrArg (history.droppedCount + ·) (List.countP_eq_length.mpr ?_).symm
    exact fun frame _ => rfl

/-- One operation. -/
theorem Sound.apply (h : Sound capacity history) (op : TxOp) :
    Sound capacity (history.apply op) := by
  cases op with
  | push frame => exact h.push frame
  | pop => exact h.pop
  | drainAndDiscard => exact h.drainAndDiscard

/-- Any sequence of operations. -/
theorem sound_run (capacity : ℕ) (ops : List TxOp) : Sound capacity (run capacity ops) := by
  induction ops using List.reverseRecOn with
  | nil => exact sound_start capacity
  | append_singleton ops op ih =>
    rw [run, List.foldl_append]
    exact ih.apply op

/-- Every removed frame was returned by a pop or counted as dropped. -/
theorem length_removals (history : TxHistory) :
    history.removals.length = history.returned.length + history.droppedCount := by
  have hsplit := List.length_eq_countP_add_countP (fun removal : Removal × Bytes =>
    removal.1 = .popped) (l := history.removals)
  rw [returned, List.length_map, droppedCount, ← List.countP_eq_length_filter]
  simpa using hsplit

/-- For every capacity and every sequence of operations, the pushed frames are the removed ones
and then the queued ones, of which there are at most `max capacity 1`. A pop returns the oldest
queued frame, if there is one, and leaves the others; so pops return frames in the order of their
pushes, each push at most once. A drain returns the number of queued frames and leaves none. A
push evicts a frame only from a full queue, and then the oldest one. The counter is the number of
pushed frames that no pop has returned and that are not in the queue, as a `u64`. -/
theorem drop_oldest_queue (capacity : ℕ) (ops : List TxOp) :
    let history := run capacity ops
    let queue := history.port.txQueue
    history.pushes = history.removals.map Prod.snd ++ queue.frames ∧
      queue.frames.length ≤ max capacity 1 ∧
      history.port.pop.1 = queue.frames.head? ∧
      history.port.pop.2.txQueue.frames = queue.frames.tail ∧
      history.port.drainAndDiscard.1 = queue.frames.length ∧
      history.port.drainAndDiscard.2.txQueue.frames = [] ∧
      history.returned.Sublist history.pushes ∧
      (∀ frame, (queue.forcePush frame).2 =
        if queue.frames.length = max capacity 1 then queue.frames.head? else none) ∧
      history.returned.length + queue.frames.length ≤ history.pushes.length ∧
      history.port.stats.droppedTx.toNat =
        (history.pushes.length - (history.returned.length + queue.frames.length)) % 2 ^ 64 := by
  intro history queue
  have hsound : Sound capacity history := sound_run capacity ops
  have hlength : history.pushes.length =
      history.returned.length + history.droppedCount + queue.frames.length := by
    rw [hsound.split, List.length_append, List.length_map, length_removals]
  obtain ⟨hcount, hdrained, -⟩ := queue.popAll_spec 0
  rw [Nat.zero_add] at hcount
  refine ⟨hsound.split, hsound.capacity ▸ queue.length_le, rfl, rfl, hcount, hdrained, ?_, ?_,
    by omega, ?_⟩
  · rw [hsound.split]
    exact (List.filter_sublist.map _).trans (List.sublist_append_left _ _)
  · intro frame
    rw [TxQueue.evicted_forcePush, hsound.capacity]
  · have hdropped : history.pushes.length - (history.returned.length + queue.frames.length) =
        history.droppedCount := by omega
    rw [hdropped, hsound.dropped, UInt64.toNat_ofNat']

end TxHistory

end MavlinkRouter
