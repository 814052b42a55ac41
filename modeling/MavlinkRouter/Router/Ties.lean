import MavlinkRouter.Router.Learn

/-!
# Learn tables under clock ties

Under a coarse clock several nodes are touched at the same time, and then the table cannot tell
which of them it has seen last. It still has the times of the last touches, and a full table gives
up one node whose time is the least.
-/

namespace MavlinkRouter

/-- A sighting of a node. -/
structure Touch where
  node : NodeId
  now : Instant
  deriving DecidableEq, Repr

/-- When a node was last touched. -/
def lastTouch (touches : List Touch) (node : NodeId) : Option Instant :=
  (touches.reverse.find? fun touch => touch.node = node).map Touch.now

private theorem lastTouch_snoc (touches : List Touch) (touch : Touch) (node : NodeId) :
    lastTouch (touches ++ [touch]) node =
      if touch.node = node then some touch.now else lastTouch touches node := by
  rw [lastTouch, List.reverse_concat, List.find?_cons]
  by_cases hnode : touch.node = node
  · simp [hnode]
  · simp [hnode, lastTouch]

/-- The last touch of a node is one of the touches. -/
theorem exists_touch_of_lastTouch {touches : List Touch} {node : NodeId} {time : Instant}
    (h : lastTouch touches node = some time) : (⟨node, time⟩ : Touch) ∈ touches := by
  obtain ⟨touch, hfind, rfl⟩ := Option.map_eq_some_iff.mp h
  have hnode : touch.node = node := by simpa using List.find?_some hfind
  rw [← hnode]
  exact List.mem_reverse.mp (List.mem_of_find?_eq_some hfind)

namespace LearnTable

/-- A sequence of touches. -/
def run (table : LearnTable) (touches : List Touch) : LearnTable :=
  touches.foldl (fun table touch => (table.touch touch.node touch.now).1) table

private theorem run_snoc (table : LearnTable) (touches : List Touch) (touch : Touch) :
    table.run (touches ++ [touch]) = ((table.run touches).touch touch.node touch.now).1 := by
  rw [run, List.foldl_concat]
  rfl

@[simp] private theorem capacity_run (table : LearnTable) (touches : List Touch) :
    (table.run touches).capacity = table.capacity := by
  induction touches using List.reverseRecOn with
  | nil => rfl
  | append_singleton touches touch ih => rw [run_snoc, capacity_touch, ih]

section Step

variable {table : LearnTable} {node : NodeId} {now : Instant} {entry : LearnEntry}

/-- An entry is lost only if a new node arrives at a full table, and then it is the one that
makes room. -/
theorem lost_of_touch (hentry : entry ∈ table.entries)
    (hlost : entry.node ∉ (table.touch node now).1.nodes) :
    node ∉ table.nodes ∧ table.capacity ≤ table.entries.length ∧
      table.entries.Perm (entry :: table.makeRoom) ∧
      ∀ other ∈ table.entries, entry.lastSeen ≤ other.lastSeen := by
  rw [nodes] at hlost
  rcases table.touch_cases node now with ⟨-, -, hentries⟩ | ⟨hnew, -, hentries⟩
  · rw [(hentries.map LearnEntry.node).mem_iff, List.map_cons, List.mem_cons, not_or] at hlost
    have hkept : entry ∈ table.entries.filter fun other => other.node != node :=
      List.mem_filter.mpr ⟨hentry, bne_iff_ne.mpr hlost.1⟩
    exact absurd (List.mem_map_of_mem hkept) hlost.2
  · have hroom : entry ∉ table.makeRoom := by
      intro hmem
      refine hlost ?_
      rw [hentries, List.map_append]
      exact List.mem_append_left _ (List.mem_map_of_mem hmem)
    by_cases hfull : table.capacity ≤ table.entries.length
    · obtain ⟨oldest, hperm, hleast⟩ := exists_oldest hfull
      have holdest : entry = oldest :=
        (List.mem_cons.mp (hperm.subset hentry)).resolve_right hroom
      rw [holdest]
      exact ⟨hnew, hfull, hperm, hleast⟩
    · rw [makeRoom, if_neg hfull] at hroom
      exact absurd hentry hroom

/-- At most one node is lost. -/
theorem lost_subsingleton (table : LearnTable) (node : NodeId) (now : Instant) :
    {lost | lost ∈ table.nodes ∧ lost ∉ (table.touch node now).1.nodes}.Subsingleton := by
  rintro lost ⟨hmem, hlost⟩ lost' ⟨hmem', hlost'⟩
  obtain ⟨entry, hentry, rfl⟩ := List.mem_map.mp hmem
  obtain ⟨entry', hentry', rfl⟩ := List.mem_map.mp hmem'
  obtain ⟨-, -, hperm, -⟩ := lost_of_touch hentry hlost
  obtain ⟨-, -, hperm', -⟩ := lost_of_touch hentry' hlost'
  have hcons := Multiset.coe_eq_coe.mpr (hperm.symm.trans hperm')
  rw [← Multiset.cons_coe, ← Multiset.cons_coe] at hcons
  rw [(Multiset.cons_inj_left _).mp hcons]

end Step

/-- The stored times are those of the last touches. -/
def Dated (table : LearnTable) (touches : List Touch) : Prop :=
  ∀ entry ∈ table.entries, lastTouch touches entry.node = some entry.lastSeen

private theorem Dated.touch {table : LearnTable} {touches : List Touch} (h : table.Dated touches)
    (touch : Touch) : (table.touch touch.node touch.now).1.Dated (touches ++ [touch]) := by
  intro entry hentry
  rw [lastTouch_snoc]
  rcases mem_entries_touch hentry with rfl | ⟨hold, hne⟩
  · rw [if_pos rfl]
  · rw [if_neg hne.symm]
    exact h entry hold

private theorem dated_run (capacity : ℕ) (touches : List Touch) :
    ((new capacity).run touches).Dated touches := by
  induction touches using List.reverseRecOn with
  | nil => exact List.forall_mem_nil _
  | append_singleton touches touch ih =>
    rw [run_snoc]
    exact ih.touch touch

/-- In a run with times that never decrease, no entry is later than the next touch. -/
theorem lastSeen_le {capacity : ℕ} {touches later : List Touch} {touch : Touch}
    (htimes : ((touches ++ touch :: later).map Touch.now).Pairwise (· ≤ ·)) {entry : LearnEntry}
    (hentry : entry ∈ ((new capacity).run touches).entries) : entry.lastSeen ≤ touch.now := by
  have htouched := exists_touch_of_lastTouch (dated_run capacity touches entry hentry)
  rw [List.map_append, List.map_cons, List.pairwise_append] at htimes
  exact htimes.2.2 _ (List.mem_map_of_mem htouched) _ List.mem_cons_self

/-- In every sequence of touches at times that never decrease, the table holds no node twice and no
more nodes than it may, each with the time of its last touch, and answers for the nodes it holds.
Each touch reports whether its node is new, keeps it, and loses at most one node, only if a new node
arrives at a full table and never one that is later than a node that stays. -/
theorem learn_under_ties (capacity : ℕ) {touches : List Touch}
    (htimes : (touches.map Touch.now).Pairwise (· ≤ ·)) :
    let table := (new capacity).run touches
    (table.nodes.Nodup ∧ table.len ≤ max capacity 1 ∧
      (∀ entry ∈ table.entries, lastTouch touches entry.node = some entry.lastSeen) ∧
      (∀ node, table.contains node = true ↔ node ∈ table.nodes) ∧
      ∀ sys, table.containsSys sys = true ↔ ∃ node ∈ table.nodes, node.sys = sys) ∧
    ∀ earlier touch later, touches = earlier ++ touch :: later →
      let before := (new capacity).run earlier
      let after := (before.touch touch.node touch.now).1
      touch.node ∈ after.nodes ∧
      ((before.touch touch.node touch.now).2 = true ↔ touch.node ∉ before.nodes) ∧
      {lost | lost ∈ before.nodes ∧ lost ∉ after.nodes}.Subsingleton ∧
      ∀ lost ∈ before.entries, lost.node ∉ after.nodes →
        touch.node ∉ before.nodes ∧ before.len = max capacity 1 ∧
        ∀ kept ∈ after.entries, lost.lastSeen ≤ kept.lastSeen := by
  intro table
  have hcapacity : ∀ touches, ((new capacity).run touches).capacity = max capacity 1 :=
    capacity_run (new capacity)
  constructor
  · refine ⟨table.nodup, ?_, dated_run capacity touches, fun _ => contains_iff,
      fun _ => containsSys_iff⟩
    rw [← hcapacity touches]
    exact table.length_le
  · rintro earlier touch later rfl before after
    refine ⟨before.mem_nodes_touch touch.node touch.now, ?_,
      before.lost_subsingleton touch.node touch.now, ?_⟩
    · rcases before.touch_cases touch.node touch.now with ⟨hknown, hflag, -⟩ | ⟨hnew, hflag, -⟩
      · simp [hflag, hknown]
      · simp [hflag, hnew]
    · intro lost hmem hlost
      obtain ⟨hnew, hfull, -, hleast⟩ := lost_of_touch hmem hlost
      refine ⟨hnew, ?_, ?_⟩
      · rw [← hcapacity earlier]
        exact Nat.le_antisymm before.length_le hfull
      · intro kept hkept
        rcases mem_entries_touch hkept with rfl | ⟨hold, -⟩
        · exact lastSeen_le htimes hmem
        · exact hleast kept hold

/-- Four nodes at one time in a table for three: the first one goes, and the last one that was
there takes its place. -/
theorem learn_under_ties_four :
    let touches : List Touch := [⟨⟨1, 1⟩, 5⟩, ⟨⟨2, 1⟩, 5⟩, ⟨⟨3, 1⟩, 5⟩, ⟨⟨4, 1⟩, 5⟩]
    ((new 3).run touches).nodes = [⟨3, 1⟩, ⟨2, 1⟩, ⟨4, 1⟩] ∧ ((new 3).run touches).len ≤ 3 := by
  intro touches
  have htimes : (touches.map Touch.now).Pairwise (· ≤ ·) := by decide
  exact ⟨by decide +kernel, (learn_under_ties 3 htimes).1.2.1⟩

end LearnTable

end MavlinkRouter
