import Mathlib

/-!
# Depth-first search

The state of a depth-first search through a graph: the nodes it has visited, and among them those
it is still in the middle of. A node that is finished has only finished successors, so nothing
that is finished lies on a cycle, and once nothing is in progress the visited nodes are the ones
that can be reached.
-/

namespace Library

open Relation (ReflTransGen TransGen)

variable {α : Type*} {edge : α → α → Prop}

/-- No edge leaves the set. -/
def Closed (edge : α → α → Prop) (nodes : Set α) : Prop :=
  ∀ ⦃node next⦄, node ∈ nodes → edge node next → next ∈ nodes

/-- A closed set holds what can be reached from it. -/
theorem Closed.mem_of_reflTransGen {nodes : Set α} (h : Closed edge nodes) {node other : α}
    (hnode : node ∈ nodes) (hpath : ReflTransGen edge node other) : other ∈ nodes := by
  induction hpath with
  | refl => exact hnode
  | tail _ hlast ih => exact h ih hlast

/-- A node whose edges lead into a closed set that it is not in lies on no cycle. -/
theorem Closed.not_transGen_self {nodes : Set α} (h : Closed edge nodes) {node : α}
    (hnode : node ∉ nodes) (hnext : ∀ next, edge node next → next ∈ nodes) :
    ¬ TransGen edge node node := by
  intro hcycle
  obtain ⟨next, hedge, hback⟩ := TransGen.head'_iff.mp hcycle
  exact hnode (h.mem_of_reflTransGen (hnext next hedge) hback)

/-- The nodes that have been visited and those that are still being searched. -/
structure Search (α : Type*) where
  visited : Finset α
  inProgress : Finset α

namespace Search

/-- Nothing has been visited. -/
def start : Search α := ⟨∅, ∅⟩

/-- The nodes that have been searched to the end. -/
def finished (search : Search α) : Set α :=
  {node | node ∈ search.visited ∧ node ∉ search.inProgress}

/-- The invariant of a search from a root. -/
structure Sound (edge : α → α → Prop) (root : α) (search : Search α) : Prop where
  visited : search.inProgress ⊆ search.visited
  reached : ∀ node ∈ search.visited, ReflTransGen edge root node
  closed : Closed edge search.finished
  acyclic : ∀ node ∈ search.finished, ¬ TransGen edge node node

variable {search : Search α} {root node : α}

/-- A new search is sound. -/
theorem sound_start : Sound edge root start where
  visited := Finset.Subset.refl _
  reached := fun _ h => absurd h (Finset.notMem_empty _)
  closed := fun _ _ h => absurd h.1 (Finset.notMem_empty _)
  acyclic := fun _ h => absurd h.1 (Finset.notMem_empty _)

/-- When nothing is in progress, the search has visited what can be reached, and there is no
cycle in it. -/
theorem Sound.complete (h : Sound edge root search) (hprogress : search.inProgress = ∅)
    (hroot : root ∈ search.visited) :
    (∀ node, node ∈ search.visited ↔ ReflTransGen edge root node) ∧
      ∀ node, ReflTransGen edge root node → ¬ TransGen edge node node := by
  have hfinished : ∀ node ∈ search.visited, node ∈ search.finished := by
    intro node hnode
    refine ⟨hnode, ?_⟩
    rw [hprogress]
    exact Finset.notMem_empty node
  have hreach : ∀ node, ReflTransGen edge root node → node ∈ search.finished :=
    fun node hpath => h.closed.mem_of_reflTransGen (hfinished root hroot) hpath
  exact ⟨fun node => ⟨h.reached node, fun hpath => (hreach node hpath).1⟩,
    fun node hpath => h.acyclic node (hreach node hpath)⟩

variable [DecidableEq α]

def enter (search : Search α) (node : α) : Search α :=
  ⟨insert node search.visited, insert node search.inProgress⟩

def leave (search : Search α) (node : α) : Search α :=
  ⟨search.visited, search.inProgress.erase node⟩

/-- Entering a new node finishes nothing. -/
theorem finished_enter (hnew : node ∉ search.visited) :
    (search.enter node).finished = search.finished := by
  ext other
  simp only [finished, enter, Set.mem_ofPred_eq, Finset.mem_insert, not_or]
  constructor
  · rintro ⟨hvisited, hne, hprogress⟩
    exact ⟨hvisited.resolve_left hne, hprogress⟩
  · rintro ⟨hvisited, hprogress⟩
    refine ⟨.inr hvisited, ?_, hprogress⟩
    rintro rfl
    exact hnew hvisited

/-- Leaving a node finishes it. -/
theorem finished_leave (hvisited : node ∈ search.visited) :
    (search.leave node).finished = insert node search.finished := by
  ext other
  simp only [finished, leave, Set.mem_ofPred_eq, Finset.mem_erase, Set.mem_insert_iff, not_and]
  by_cases hother : other = node
  · simp [hother, hvisited]
  · simp [hother]

/-- Entering a reachable node. -/
theorem Sound.enter (h : Sound edge root search) (hnew : node ∉ search.visited)
    (hreached : ReflTransGen edge root node) : Sound edge root (search.enter node) where
  visited := Finset.insert_subset_insert node h.visited
  reached := by
    intro other hother
    rcases Finset.mem_insert.mp hother with rfl | hother
    · exact hreached
    · exact h.reached other hother
  closed := by
    rw [finished_enter hnew]
    exact h.closed
  acyclic := by
    rw [finished_enter hnew]
    exact h.acyclic

/-- A node is left when all its successors are finished. -/
theorem Sound.leave (h : Sound edge root search) (hnode : node ∈ search.inProgress)
    (hnext : ∀ next, edge node next → next ∈ search.finished) :
    Sound edge root (search.leave node) where
  visited := (Finset.erase_subset node _).trans h.visited
  reached := h.reached
  closed := by
    rw [finished_leave (h.visited hnode)]
    rintro other next (rfl | hother) hedge
    · exact .inr (hnext next hedge)
    · exact .inr (h.closed hother hedge)
  acyclic := by
    rw [finished_leave (h.visited hnode)]
    rintro other (rfl | hother)
    · exact h.closed.not_transGen_self (fun hfinished => hfinished.2 hnode) hnext
    · exact h.acyclic other hother

/-- The number of nodes that can be reached and have not been visited. -/
def remaining (reach : Finset α) (search : Search α) : ℕ :=
  (reach \ search.visited).card

/-- At most all nodes remain. -/
theorem remaining_le (reach : Finset α) (search : Search α) :
    search.remaining reach ≤ reach.card :=
  Finset.card_le_card Finset.sdiff_subset

/-- Entering a new node leaves fewer. -/
theorem remaining_enter {reach : Finset α} (hnode : node ∈ reach) (hnew : node ∉ search.visited) :
    (search.enter node).remaining reach < search.remaining reach := by
  refine Finset.card_lt_card ⟨?_, fun hsubset => ?_⟩
  · exact Finset.sdiff_subset_sdiff (Finset.Subset.refl _) (Finset.subset_insert _ _)
  · have hmem := hsubset (Finset.mem_sdiff.mpr ⟨hnode, hnew⟩)
    exact (Finset.mem_sdiff.mp hmem).2 (Finset.mem_insert_self _ _)

/-- A later search has no more nodes left. -/
theorem remaining_mono (reach : Finset α) {later : Search α}
    (h : search.visited ⊆ later.visited) : later.remaining reach ≤ search.remaining reach :=
  Finset.card_le_card (Finset.sdiff_subset_sdiff (Finset.Subset.refl _) h)

end Search

end Library
