import MavlinkRouter.Endpoint.Filters
import MavlinkRouter.Library.Vec

/-!
# Endpoints as the router sees them

Identities, lifecycle events and frames on the reader-to-router channels, and the
state the router shares with an endpoint's reader and writer: its counters and its
transmit queue. Every endpoint id comes with one set of counters and one queue, so
the shared state is indexed by the id and the handles inside events are left out.
-/

namespace MavlinkRouter

/-- Process-wide identifier of a routing endpoint. The allocator never takes one back; its
counter wraps. -/
structure EndpointId where
  value : UInt64
  deriving DecidableEq, Repr

/-- A reference to an immutable frame body. The last two fields identify the buffer
(the framer of endpoint `origin` split it off as its frame number `index`); cloning
keeps them, and no function of the code reads them. -/
structure Bytes where
  data : List UInt8
  origin : EndpointId
  index : ℕ
  deriving DecidableEq, Repr

/-- One frame on the reader-to-router channel. -/
structure RouterFrame where
  endpointId : EndpointId
  frame : Bytes
  header : ParsedHeader
  deriving DecidableEq, Repr

/-- The policy of an endpoint that the router consults. -/
structure IdentityFlags where
  filters : Filters := {}
  sniffer : Bool := false
  group : Option String := none
  deriving DecidableEq, Repr

/-- What an endpoint contributes when it is a routing destination. -/
structure Routable where
  identity : IdentityFlags
  endpointName : String
  deriving DecidableEq, Repr

/-- Why a child endpoint was torn down. -/
inductive PeerRemovalReason where
  | idle
  | lruEvicted
  | disconnected
  | listenerShutdown
  deriving DecidableEq, Repr

/-- Lifecycle events on the endpoint-to-router channel. -/
inductive EndpointEvent where
  | endpointAdded (id : EndpointId) (name : String) (routable : Option Routable)
  | peerAdded (parentId childId : EndpointId) (name : String) (routable : Routable)
  | peerRemoved (parentId childId : EndpointId) (reason : PeerRemovalReason)
  deriving DecidableEq, Repr

/-- The id, name and payload an event registers. -/
def EndpointEvent.registration? : EndpointEvent → Option (EndpointId × String × Option Routable)
  | .endpointAdded id name routable => some (id, name, routable)
  | .peerAdded _ childId name routable => some (childId, name, some routable)
  | .peerRemoved _ _ _ => none

/-- The endpoint an event registers. -/
def EndpointEvent.added? (event : EndpointEvent) : Option EndpointId :=
  event.registration?.map Prod.fst

/-- The endpoint an event removes. -/
def EndpointEvent.removed? : EndpointEvent → Option EndpointId
  | .endpointAdded _ _ _ => none
  | .peerAdded _ _ _ _ => none
  | .peerRemoved _ childId _ => some childId

/-- User-visible health of an endpoint. -/
inductive EndpointState where
  | reconnecting
  | connected
  | idle
  | down
  | unknown
  deriving DecidableEq, Repr

/-- The state in which an endpoint ends. -/
def PeerRemovalReason.finalState : PeerRemovalReason → EndpointState
  | .idle => .idle
  | .lruEvicted => .down
  | .disconnected => .down
  | .listenerShutdown => .down

/-- The atomic counters of one endpoint; `fetch_add` wraps. -/
structure EndpointStats where
  rxFrames : UInt64 := 0
  txFrames : UInt64 := 0
  rxBytes : UInt64 := 0
  txBytes : UInt64 := 0
  droppedTx : UInt64 := 0
  crcErrors : UInt64 := 0
  resyncBytes : UInt64 := 0
  inFilterDrops : UInt64 := 0
  outFilterDrops : UInt64 := 0
  dedupDrops : UInt64 := 0
  rxLostEst : UInt64 := 0
  learnEntries : UInt64 := 0
  state : EndpointState := .reconnecting
  deriving DecidableEq, Repr

/-- A bounded router-to-writer queue, the oldest frame first. -/
structure TxQueue where
  frames : List Bytes
  capacity : ℕ
  capacity_pos : 0 < capacity
  length_le : frames.length ≤ capacity

/-- Depth of every writer queue. -/
def defaultTxQueueFrames : ℕ := 256

namespace TxQueue

/-- An empty queue; a capacity of 0 is raised to 1. -/
def new (capacity : ℕ) : TxQueue where
  frames := []
  capacity := max capacity 1
  capacity_pos := Library.clamp_pos capacity
  length_le := Library.nil_length_le_clamp capacity

/-- Insert a frame; a full queue gives up its oldest one. -/
def forcePush (queue : TxQueue) (frame : Bytes) : TxQueue × Option Bytes :=
  if h : queue.frames.length < queue.capacity then
    ({ queue with
        frames := queue.frames ++ [frame]
        length_le := by
          rw [List.length_append, List.length_singleton]
          exact h }, none)
  else
    ({ queue with
        frames := queue.frames.tail ++ [frame]
        length_le := by
          have hpos := queue.capacity_pos
          have hle := queue.length_le
          rw [List.length_append, List.length_tail, List.length_singleton]
          omega }, queue.frames.head?)

/-- Take the oldest frame. -/
def pop (queue : TxQueue) : Option Bytes × TxQueue :=
  (queue.frames.head?, { queue with
    frames := queue.frames.tail
    length_le := (List.length_tail.trans_le (Nat.sub_le _ _)).trans queue.length_le })

/-- A push appends the frame, and a full queue gives up its oldest one for it. -/
theorem forcePush_cases (queue : TxQueue) (frame : Bytes) :
    (queue.frames.length < queue.capacity ∧ (queue.forcePush frame).2 = none ∧
      (queue.forcePush frame).1.frames = queue.frames ++ [frame]) ∨
    ∃ oldest rest, queue.frames = oldest :: rest ∧ queue.frames.length = queue.capacity ∧
      (queue.forcePush frame).2 = some oldest ∧
      (queue.forcePush frame).1.frames = rest ++ [frame] := by
  unfold forcePush
  split
  · rename_i hroom
    exact .inl ⟨hroom, rfl, rfl⟩
  · rename_i hfull
    have hpos := queue.capacity_pos
    have hle := queue.length_le
    obtain ⟨oldest, rest, hframes⟩ :=
      List.exists_cons_of_length_pos (show 0 < queue.frames.length by omega)
    refine .inr ⟨oldest, rest, hframes, by omega, ?_, ?_⟩
    · change queue.frames.head? = some oldest
      rw [hframes]
      rfl
    · change queue.frames.tail ++ [frame] = rest ++ [frame]
      rw [hframes]
      rfl

/-- A push appends the frame and drops at most the oldest one. -/
theorem frames_forcePush (queue : TxQueue) (frame : Bytes) :
    ∃ dropped kept, queue.frames = dropped ++ kept ∧ dropped.length ≤ 1 ∧
      (queue.forcePush frame).1.frames = kept ++ [frame] := by
  rcases queue.forcePush_cases frame with ⟨-, -, hpush⟩ | ⟨oldest, rest, hframes, -, -, hpush⟩
  · exact ⟨[], queue.frames, rfl, Nat.zero_le 1, hpush⟩
  · exact ⟨[oldest], rest, hframes, le_rfl, hpush⟩

end TxQueue

/-- The state an endpoint shares with the router. -/
structure Port where
  stats : EndpointStats
  txQueue : TxQueue

/-- One atomic access of the router to the shared state of an endpoint. -/
inductive PortAccess where
  | push (frame : Bytes)
  | addOutFilterDrop
  | addDedupDrop
  | storeLearnEntries (count : ℕ)
  | storeState (state : EndpointState)
  deriving DecidableEq, Repr

namespace Port

/-- `TxQueue::push`: an evicted frame is counted on the queue's own endpoint. -/
def push (port : Port) (frame : Bytes) : Port :=
  let (txQueue, evicted) := port.txQueue.forcePush frame
  { txQueue := txQueue
    stats :=
      if evicted.isSome then { port.stats with droppedTx := port.stats.droppedTx + 1 }
      else port.stats }

/-- A push counts nothing but a dropped frame. -/
theorem outFilterDrops_push (port : Port) (frame : Bytes) :
    (port.push frame).stats.outFilterDrops = port.stats.outFilterDrops := by
  unfold push
  dsimp only
  split <;> rfl

/-- A push transmits nothing. -/
theorem txFrames_push (port : Port) (frame : Bytes) :
    (port.push frame).stats.txFrames = port.stats.txFrames := by
  unfold push
  dsimp only
  split <;> rfl

/-- A push counts the frame it evicts. -/
theorem droppedTx_push (port : Port) (frame : Bytes) :
    (port.push frame).stats.droppedTx =
      if (port.txQueue.forcePush frame).2.isSome then port.stats.droppedTx + 1
      else port.stats.droppedTx := by
  unfold push
  dsimp only
  split <;> rfl

/-- The effect of one access. -/
def access (port : Port) : PortAccess → Port
  | .push frame => port.push frame
  | .addOutFilterDrop =>
    { port with stats.outFilterDrops := port.stats.outFilterDrops + 1 }
  | .addDedupDrop => { port with stats.dedupDrops := port.stats.dedupDrops + 1 }
  | .storeLearnEntries count => { port with stats.learnEntries := UInt64.ofNat count }
  | .storeState state => { port with stats.state := state }

end Port

/-- An access together with the endpoint whose state it changes. -/
structure Effect where
  target : EndpointId
  access : PortAccess
  deriving DecidableEq, Repr

/-- The shared state of all endpoints. -/
abbrev Ports := EndpointId → Port

/-- Perform one access. -/
def Ports.apply (ports : Ports) (effect : Effect) : Ports :=
  Function.update ports effect.target ((ports effect.target).access effect.access)

/-- Perform accesses in order. -/
def Ports.applyAll (ports : Ports) (effects : List Effect) : Ports :=
  effects.foldl Ports.apply ports

/-- The accesses to one endpoint. -/
def accessesTo (id : EndpointId) (effects : List Effect) : List PortAccess :=
  (effects.filter fun effect => effect.target = id).map Effect.access

/-- The frame an access pushes. -/
def PortAccess.pushed? : PortAccess → Option Bytes
  | .push frame => some frame
  | .addOutFilterDrop => none
  | .addDedupDrop => none
  | .storeLearnEntries _ => none
  | .storeState _ => none

/-- The frames pushed to the queue of one endpoint, in order. -/
def pushesTo (id : EndpointId) (effects : List Effect) : List Bytes :=
  (accessesTo id effects).filterMap PortAccess.pushed?

/-- No effects, no accesses. -/
@[simp] theorem accessesTo_nil (id : EndpointId) : accessesTo id [] = [] := rfl

/-- The accesses of one list after another. -/
@[simp] theorem accessesTo_append (id : EndpointId) (effects effects' : List Effect) :
    accessesTo id (effects ++ effects') = accessesTo id effects ++ accessesTo id effects' := by
  simp [accessesTo]

/-- The accesses of one more effect. -/
theorem accessesTo_cons (id : EndpointId) (effect : Effect) (effects : List Effect) :
    accessesTo id (effect :: effects) =
      if effect.target = id then effect.access :: accessesTo id effects
      else accessesTo id effects := by
  unfold accessesTo
  by_cases h : effect.target = id <;> simp [h]

/-- Storing states pushes nothing. -/
theorem pushesTo_storeState {ι : Type*} (id : EndpointId) (targets : List ι)
    (target : ι → EndpointId) (state : EndpointState) :
    pushesTo id (targets.map fun entry => ⟨target entry, .storeState state⟩) = [] := by
  simp [pushesTo, accessesTo, List.filterMap_eq_nil_iff, PortAccess.pushed?]

/-- What happens to one endpoint depends on the accesses to it alone. -/
theorem Ports.applyAll_at (ports : Ports) (effects : List Effect) (id : EndpointId) :
    ports.applyAll effects id = (accessesTo id effects).foldl Port.access (ports id) := by
  induction effects generalizing ports with
  | nil => rfl
  | cons effect effects ih =>
    have hstep : ports.applyAll (effect :: effects) = (ports.apply effect).applyAll effects := rfl
    rw [hstep, ih, accessesTo_cons]
    by_cases h : effect.target = id
    · rw [if_pos h, List.foldl_cons, ← h, Ports.apply, Function.update_self]
    · rw [if_neg h, Ports.apply, Function.update_of_ne (Ne.symm h)]

/-- An access keeps the order of the queue: it drops the oldest frame or none and appends
what it pushes. -/
theorem Port.access_sublist (port : Port) (access : PortAccess) :
    (port.access access).txQueue.frames.Sublist
      (port.txQueue.frames ++ access.pushed?.toList) := by
  cases access with
  | push frame =>
    obtain ⟨dropped, kept, hframes, -, hpush⟩ := port.txQueue.frames_forcePush frame
    have hqueue : (port.access (.push frame)).txQueue.frames = kept ++ [frame] := hpush
    rw [hqueue, hframes, List.append_assoc]
    exact List.sublist_append_right dropped _
  | addOutFilterDrop => exact List.sublist_append_left _ _
  | addDedupDrop => exact List.sublist_append_left _ _
  | storeLearnEntries count => exact List.sublist_append_left _ _
  | storeState state => exact List.sublist_append_left _ _

/-- Performing one access moves what it pushes from the pending accesses to the queue. -/
theorem Ports.apply_sublist (ports : Ports) (effect : Effect) (pending : List Effect)
    (dest : EndpointId) :
    ((ports.apply effect dest).txQueue.frames ++ pushesTo dest pending).Sublist
      ((ports dest).txQueue.frames ++ pushesTo dest (effect :: pending)) := by
  unfold pushesTo
  rw [accessesTo_cons]
  by_cases htarget : effect.target = dest
  · subst htarget
    rw [if_pos rfl, Ports.apply, Function.update_self, List.filterMap_cons]
    have haccess := (ports effect.target).access_sublist effect.access
    cases hpushed : effect.access.pushed? with
    | none =>
      rw [hpushed, Option.toList_none, List.append_nil] at haccess
      exact haccess.append (List.Sublist.refl _)
    | some frame =>
      rw [hpushed, Option.toList_some] at haccess
      simpa using haccess.append (List.Sublist.refl _)
  · rw [if_neg htarget, Ports.apply, Function.update_of_ne (Ne.symm htarget)]

end MavlinkRouter
