import MavlinkRouter.Router.Learn

/-!
# Loss estimation

The per-source tracker of sequence numbers on each endpoint's reader, which infers lost
frames from the gap between two frames of one source.
-/

namespace MavlinkRouter

/-- The last frame seen from one source. -/
structure SeqEntry where
  node : NodeId
  lastSeq : UInt8
  lastSeen : Instant
  deriving DecidableEq, Repr

/-- A bounded table of the sources seen by one reader. -/
structure SeqTracker where
  entries : List SeqEntry
  capacity : ℕ
  threshold : UInt8
  capacity_pos : 0 < capacity
  length_le : entries.length ≤ capacity

/-- Gap from which on a source counts as restarted. -/
def defaultSeqGapThreshold : UInt8 := 64

/-- Number of sources each reader tracks. -/
def seqTrackerCapacity : ℕ := 32

namespace SeqTracker

/-- An empty tracker; a capacity of 0 is raised to 1. -/
def new (capacity : ℕ) : SeqTracker where
  entries := []
  capacity := max capacity 1
  threshold := defaultSeqGapThreshold
  capacity_pos := Library.clamp_pos capacity
  length_le := Library.nil_length_le_clamp capacity

/-- Whether an entry is for `node`. -/
def isFor (node : NodeId) (entry : SeqEntry) : Bool :=
  entry.node = node

/-- The tracker after the entry of a known source is set to its latest frame. -/
def update (tracker : SeqTracker) (node : NodeId) (seq : UInt8) (now : Instant) : SeqTracker :=
  { tracker with
    entries := tracker.entries.modify (tracker.entries.findIdx (isFor node)) fun entry =>
      { entry with lastSeq := seq, lastSeen := now }
    length_le := by
      rw [List.length_modify]
      exact tracker.length_le }

/-- The tracker after the first frame of a source; a full table gives up the source seen
longest ago. -/
def insert (tracker : SeqTracker) (node : NodeId) (seq : UInt8) (now : Instant) : SeqTracker :=
  { tracker with
    entries := Library.makeRoom SeqEntry.lastSeen tracker.capacity tracker.entries ++
      [⟨node, seq, now⟩]
    length_le := by
      rw [List.length_append, List.length_singleton]
      exact Library.length_makeRoom_lt SeqEntry.lastSeen tracker.capacity_pos tracker.length_le }

/-- Observe one frame; the result is the inferred number of lost frames. -/
def observe (tracker : SeqTracker) (node : NodeId) (seq : UInt8) (now : Instant) :
    UInt32 × SeqTracker :=
  match tracker.entries.find? (isFor node) with
  | some entry =>
    let gap := seq - entry.lastSeq - 1
    (if 0 < gap ∧ gap < tracker.threshold then gap.toUInt32 else 0, tracker.update node seq now)
  | none => (0, tracker.insert node seq now)

end SeqTracker

end MavlinkRouter
