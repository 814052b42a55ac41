import MavlinkRouter.Library.Recency
import MavlinkRouter.Library.Vec
import MavlinkRouter.Mavlink.Frame

/-!
# Learn tables

The per-endpoint table of source nodes with eviction of the one seen longest ago.
A table that is touched at strictly increasing times holds exactly the most recent
distinct nodes of its history.
-/

namespace MavlinkRouter

/-- A reading of the monotonic clock, in nanoseconds. -/
abbrev Instant := ℕ

/-- One learned source. -/
structure LearnEntry where
  node : NodeId
  lastSeen : Instant
  deriving Repr, DecidableEq

/-- Set the time of the first entry for `node`. -/
def refresh (node : NodeId) (now : Instant) : List LearnEntry → List LearnEntry
  | [] => []
  | entry :: entries =>
    if entry.node = node then { entry with lastSeen := now } :: entries
    else entry :: refresh node now entries

/-- Refreshing changes no node. -/
@[simp] theorem map_node_refresh (node : NodeId) (now : Instant) (entries : List LearnEntry) :
    (refresh node now entries).map LearnEntry.node = entries.map LearnEntry.node := by
  induction entries with
  | nil => rfl
  | cons entry entries ih =>
    unfold refresh
    split
    · rfl
    · rw [List.map_cons, ih, List.map_cons]

/-- Refreshing keeps the size. -/
@[simp] theorem length_refresh (node : NodeId) (now : Instant) (entries : List LearnEntry) :
    (refresh node now entries).length = entries.length := by
  have hlength := congrArg List.length (map_node_refresh node now entries)
  rwa [List.length_map, List.length_map] at hlength

/-- With distinct nodes, refreshing replaces the entry of `node`. -/
theorem refresh_perm {node : NodeId} {entries : List LearnEntry} (now : Instant)
    (hnodup : (entries.map LearnEntry.node).Nodup) (hmem : node ∈ entries.map LearnEntry.node) :
    (refresh node now entries).Perm
      (⟨node, now⟩ :: entries.filter fun entry => entry.node != node) := by
  induction entries with
  | nil => simp at hmem
  | cons entry entries ih =>
    rw [List.map_cons, List.nodup_cons] at hnodup
    unfold refresh
    split
    · rename_i hnode
      have hrest : ∀ other ∈ entries, (other.node != node) = true := by
        intro other hother
        rw [bne_iff_ne]
        rintro rfl
        exact hnodup.1 (hnode ▸ List.mem_map_of_mem hother)
      rw [List.filter_cons_of_neg (by simpa using hnode), List.filter_eq_self.mpr hrest, hnode]
    · rename_i hnode
      have hmem' : node ∈ entries.map LearnEntry.node :=
        (List.mem_cons.mp hmem).resolve_left (Ne.symm hnode)
      rw [List.filter_cons_of_pos (by simpa using hnode)]
      exact ((ih hnodup.2 hmem').cons entry).trans (.swap _ _ _)

/-- A bounded table of distinct learned sources. -/
structure LearnTable where
  entries : List LearnEntry
  capacity : ℕ
  capacity_pos : 0 < capacity
  length_le : entries.length ≤ capacity
  nodup : (entries.map LearnEntry.node).Nodup

namespace LearnTable

/-- The learned nodes. -/
def nodes (table : LearnTable) : List NodeId :=
  table.entries.map LearnEntry.node

/-- An empty table; a capacity of 0 is raised to 1. -/
def new (capacity : ℕ) : LearnTable where
  entries := []
  capacity := max capacity 1
  capacity_pos := Library.clamp_pos capacity
  length_le := Library.nil_length_le_clamp capacity
  nodup := List.nodup_nil

/-- The entry of `node`. -/
def find (table : LearnTable) (node : NodeId) : Option LearnEntry :=
  table.entries.find? fun entry => entry.node = node

/-- Whether `node` has been learned. -/
def contains (table : LearnTable) (node : NodeId) : Bool :=
  (table.find node).isSome

/-- Whether any component of system `sys` has been learned. -/
def containsSys (table : LearnTable) (sys : UInt8) : Bool :=
  table.entries.any fun entry => entry.node.sys = sys

/-- The number of learned nodes. -/
def len (table : LearnTable) : ℕ :=
  table.entries.length

/-- The entries left after the one with the least `last_seen` is swapped out. -/
def evictOldest (table : LearnTable) : List LearnEntry :=
  Library.evictMin LearnEntry.lastSeen table.entries

/-- The entries before a push: the oldest goes when the table is full. -/
def makeRoom (table : LearnTable) : List LearnEntry :=
  if table.capacity ≤ table.entries.length then table.evictOldest else table.entries

variable {table : LearnTable} {node : NodeId} {now : Instant}

/-- When the table contains a node. -/
theorem contains_iff :
    table.contains node = true ↔ node ∈ table.nodes := by
  simp [contains, find, nodes, List.find?_isSome]

/-- When the table contains a node of a system. -/
theorem containsSys_iff {sys : UInt8} :
    table.containsSys sys = true ↔ ∃ node ∈ table.nodes, node.sys = sys := by
  simp [containsSys, nodes]

/-- A full table gives up one entry with the least time. -/
theorem exists_oldest (hfull : table.capacity ≤ table.entries.length) :
    ∃ oldest, table.entries.Perm (oldest :: table.makeRoom) ∧
      ∀ entry ∈ table.entries, oldest.lastSeen ≤ entry.lastSeen := by
  have hne : table.entries ≠ [] := by
    intro hnil
    have hpos := table.capacity_pos
    rw [hnil, List.length_nil] at hfull
    omega
  rw [makeRoom, if_pos hfull]
  exact Library.exists_victim LearnEntry.lastSeen hne

/-- Making room only drops entries. -/
theorem exists_dropped (table : LearnTable) :
    ∃ dropped, table.entries.Perm (dropped ++ table.makeRoom) := by
  by_cases hfull : table.capacity ≤ table.entries.length
  · obtain ⟨oldest, hperm, -⟩ := exists_oldest hfull
    exact ⟨[oldest], hperm⟩
  · rw [makeRoom, if_neg hfull]
    exact ⟨[], .refl _⟩

private theorem makeRoom_subset (table : LearnTable) : table.makeRoom ⊆ table.entries := by
  obtain ⟨dropped, hperm⟩ := table.exists_dropped
  exact fun entry hentry => hperm.mem_iff.mpr (List.mem_append_right dropped hentry)

/-- Pushing a node that is not known keeps the nodes distinct. -/
theorem nodup_push (hnew : node ∉ table.nodes) (now : Instant) :
    ((table.makeRoom ++ [(⟨node, now⟩ : LearnEntry)]).map LearnEntry.node).Nodup := by
  obtain ⟨dropped, hperm⟩ := table.exists_dropped
  have hroom := ((hperm.map LearnEntry.node).nodup_iff.mp table.nodup)
  rw [List.map_append] at hroom
  have hnew' : node ∉ table.makeRoom.map LearnEntry.node := fun hmem =>
    hnew (List.map_subset _ table.makeRoom_subset hmem)
  rw [List.map_append, List.map_singleton, ← List.concat_eq_append]
  exact (List.nodup_append.mp hroom).2.1.concat hnew'

private theorem makeRoom_length_lt (table : LearnTable) : table.makeRoom.length < table.capacity :=
  Library.length_makeRoom_lt LearnEntry.lastSeen table.capacity_pos table.length_le

/-- Record a sighting; the flag says whether a new entry was made. -/
def touch (table : LearnTable) (node : NodeId) (now : Instant) : LearnTable × Bool :=
  if h : table.contains node then
    ({ table with
        entries := refresh node now table.entries
        length_le := by simpa using table.length_le
        nodup := by simpa using table.nodup }, false)
  else
    ({ table with
        entries := table.makeRoom ++ [⟨node, now⟩]
        length_le := by
          rw [List.length_append, List.length_singleton]
          exact table.makeRoom_length_lt
        nodup := nodup_push (fun hmem => h (contains_iff.mpr hmem)) now }, true)

/-- The capacity is fixed. -/
@[simp] theorem capacity_touch (table : LearnTable) (node : NodeId) (now : Instant) :
    (table.touch node now).1.capacity = table.capacity := by
  unfold touch
  split <;> rfl

/-- What a touch can do: a known node is refreshed, a new one is pushed after making room. -/
theorem touch_cases (table : LearnTable) (node : NodeId) (now : Instant) :
    (node ∈ table.nodes ∧ (table.touch node now).2 = false ∧
      (table.touch node now).1.entries.Perm
        (⟨node, now⟩ :: table.entries.filter fun entry => entry.node != node)) ∨
    (node ∉ table.nodes ∧ (table.touch node now).2 = true ∧
      (table.touch node now).1.entries = table.makeRoom ++ [⟨node, now⟩]) := by
  unfold touch
  split
  case isTrue hknown =>
    have hmem := contains_iff.mp hknown
    exact .inl ⟨hmem, rfl, refresh_perm now table.nodup hmem⟩
  case isFalse hnew => exact .inr ⟨fun hmem => hnew (contains_iff.mpr hmem), rfl, rfl⟩

/-- The touched node is known afterwards. -/
theorem mem_nodes_touch (table : LearnTable) (node : NodeId) (now : Instant) :
    node ∈ (table.touch node now).1.nodes := by
  rw [nodes]
  rcases table.touch_cases node now with ⟨-, -, hentries⟩ | ⟨-, -, hentries⟩
  · exact (hentries.map LearnEntry.node).mem_iff.mpr (by simp)
  · simp [hentries]

/-- The entries after a touch, apart from the one of the touched node, have been there before. -/
theorem mem_entries_touch {entry : LearnEntry} (h : entry ∈ (table.touch node now).1.entries) :
    entry = ⟨node, now⟩ ∨ entry ∈ table.entries ∧ entry.node ≠ node := by
  rcases table.touch_cases node now with ⟨-, -, hentries⟩ | ⟨hnew, -, hentries⟩
  · rcases List.mem_cons.mp (hentries.subset h) with hentry | hentry
    · exact .inl hentry
    · obtain ⟨hold, hne⟩ := List.mem_filter.mp hentry
      exact .inr ⟨hold, by simpa using hne⟩
  · rw [hentries] at h
    rcases List.mem_append.mp h with hentry | hentry
    · have hold := table.makeRoom_subset hentry
      refine .inr ⟨hold, ?_⟩
      rintro rfl
      exact hnew (List.mem_map_of_mem hold)
    · exact .inl (List.mem_singleton.mp hentry)

/-- Every stored time is the time of this touch or was stored before. -/
theorem lastSeen_touch {entry : LearnEntry} (h : entry ∈ (table.touch node now).1.entries) :
    entry.lastSeen = now ∨ entry ∈ table.entries := by
  rcases mem_entries_touch h with rfl | ⟨hold, -⟩
  · exact .inl rfl
  · exact .inr hold

/-- The table lists the most recent distinct nodes of a history: ordered by time, its
entries are the front of the recency list. -/
def Tracks (table : LearnTable) (history : List NodeId) : Prop :=
  ∃ ordered : List LearnEntry, ordered.Perm table.entries ∧
    ordered.map LearnEntry.node = (Library.recency history).take table.capacity ∧
    ordered.Pairwise fun newer older => older.lastSeen < newer.lastSeen

/-- A new table tracks no history. -/
theorem tracks_new (capacity : ℕ) : (new capacity).Tracks [] :=
  ⟨[], .nil, by simp, .nil⟩

/-- Membership in a tracking table, in terms of the history alone. -/
theorem Tracks.mem_nodes {history : List NodeId} (h : table.Tracks history) :
    node ∈ table.nodes ↔ Library.MostRecent table.capacity history node := by
  obtain ⟨ordered, hperm, hnodes, -⟩ := h
  rw [← Library.mem_take_recency, ← hnodes, nodes]
  exact (hperm.map LearnEntry.node).mem_iff.symm

/-- The entry that makes room is the last in order of time. -/
theorem makeRoom_perm_dropLast {ordered : List LearnEntry}
    (hfull : table.capacity ≤ table.entries.length) (hperm : ordered.Perm table.entries)
    (hsorted : ordered.Pairwise fun newer older => older.lastSeen < newer.lastSeen) :
    table.makeRoom.Perm ordered.dropLast := by
  obtain ⟨oldest, hroom, hleast⟩ := exists_oldest hfull
  have hmem : oldest ∈ ordered := hperm.mem_iff.mpr (hroom.mem_iff.mpr (by simp))
  have hne : ordered ≠ [] := List.ne_nil_of_mem hmem
  have hsplit := List.dropLast_append_getLast hne
  rw [← hsplit, List.pairwise_append] at hsorted
  rw [← hsplit, List.mem_append, List.mem_singleton] at hmem
  have holdest : oldest = ordered.getLast hne := by
    refine hmem.resolve_left fun hearlier => ?_
    have hlt : (ordered.getLast hne).lastSeen < oldest.lastSeen :=
      hsorted.2.2 oldest hearlier _ (List.mem_singleton_self _)
    have hle := hleast _ (hperm.mem_iff.mp (List.getLast_mem hne))
    exact absurd hlt (not_lt.mpr hle)
  have hordered : ordered.Perm (oldest :: ordered.dropLast) := by
    conv_lhs => rw [← hsplit, ← holdest]
    exact List.perm_append_singleton _ _
  exact (hroom.symm.trans (hperm.symm.trans hordered)).cons_inv

/-- One touch, later than everything stored, extends the history by its node. -/
theorem Tracks.touch {history : List NodeId} (h : table.Tracks history)
    (hlater : ∀ entry ∈ table.entries, entry.lastSeen < now) :
    (table.touch node now).1.Tracks (history ++ [node]) := by
  obtain ⟨ordered, hperm, hnodes, hsorted⟩ := h
  have hmem : node ∈ table.nodes ↔ node ∈ (Library.recency history).take table.capacity := by
    rw [← hnodes, nodes]
    exact (hperm.map LearnEntry.node).mem_iff.symm
  have hlater' : ∀ entry ∈ ordered, entry.lastSeen < now := fun entry hentry =>
    hlater entry (hperm.subset hentry)
  rcases table.touch_cases node now with ⟨hknown, -, hentries⟩ | ⟨hnew, -, hentries⟩
  · have hfront := hmem.mp hknown
    have hnodup : (ordered.map LearnEntry.node).Nodup := by
      rw [hnodes]
      exact (Library.recency_nodup history).sublist (List.take_sublist _ _)
    refine ⟨⟨node, now⟩ :: ordered.filter fun entry => entry.node != node, ?_, ?_, ?_⟩
    · exact ((hperm.filter _).cons _).trans hentries.symm
    · rw [capacity_touch, Library.take_recency_snoc_of_mem hfront, ← hnodes,
        hnodup.erase_eq_filter, List.map_cons, List.filter_map]
      rfl
    · rw [List.pairwise_cons]
      exact ⟨fun entry hentry => hlater' entry (List.mem_of_mem_filter hentry),
        hsorted.filter _⟩
  · have hfront := fun hx => hnew (hmem.mpr hx)
    have hlength : ordered.length = table.entries.length := hperm.length_eq
    have htake : ((Library.recency history).take table.capacity).length = ordered.length := by
      rw [← hnodes, List.length_map]
    by_cases hfull : table.capacity ≤ table.entries.length
    · refine ⟨⟨node, now⟩ :: ordered.dropLast, ?_, ?_, ?_⟩
      · rw [hentries]
        exact ((makeRoom_perm_dropLast hfull hperm hsorted).symm.cons _).trans
          (List.perm_append_singleton _ _).symm
      · rw [capacity_touch, Library.take_recency_snoc_of_notMem table.capacity_pos hfront,
          List.map_cons, List.map_dropLast, hnodes, List.dropLast_eq_take, List.take_take, htake]
        have hle := table.length_le
        rw [show min (ordered.length - 1) table.capacity = table.capacity - 1 by omega]
      · rw [List.pairwise_cons]
        exact ⟨fun entry hentry => hlater' entry (List.mem_of_mem_dropLast hentry),
          hsorted.sublist (List.dropLast_sublist _)⟩
    · refine ⟨⟨node, now⟩ :: ordered, ?_, ?_, ?_⟩
      · rw [hentries, makeRoom, if_neg hfull]
        exact (hperm.cons _).trans (List.perm_append_singleton _ _).symm
      · rw [List.length_take] at htake
        rw [capacity_touch, Library.take_recency_snoc_of_notMem table.capacity_pos hfront,
          List.map_cons, hnodes, List.take_of_length_le (by omega),
          List.take_of_length_le (by omega)]
      · rw [List.pairwise_cons]
        exact ⟨hlater', hsorted⟩

end LearnTable

end MavlinkRouter
