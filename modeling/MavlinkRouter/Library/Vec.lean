import Mathlib

/-!
# Bounded unordered vectors

Removal by swapping with the last element, and eviction of the first element with
the least key, as used for small vectors whose order carries no meaning.
-/

namespace Library

variable {α : Type*}

/-- A capacity raised to at least one is positive. -/
theorem clamp_pos (capacity : ℕ) : 0 < max capacity 1 := by
  omega

/-- An empty vector fits into any such capacity. -/
theorem nil_length_le_clamp (capacity : ℕ) : ([] : List α).length ≤ max capacity 1 :=
  Nat.zero_le _

/-- Remove position `i` and put the last element in its place. -/
def swapRemove (l : List α) (i : ℕ) : List α :=
  match l.getLast? with
  | some last => (l.set i last).dropLast
  | none => l

/-- Up to order, swapping out is erasing. -/
theorem swapRemove_perm {l : List α} {i : ℕ} (h : i < l.length) :
    (swapRemove l i).Perm (l.eraseIdx i) := by
  induction l using List.reverseRecOn with
  | nil => simp at h
  | append_singleton l last _ =>
    have hswap : swapRemove (l ++ [last]) i = ((l ++ [last]).set i last).dropLast := by
      simp [swapRemove]
    rw [hswap]
    by_cases hi : i < l.length
    · rw [List.set_append_left _ _ hi, List.dropLast_concat, List.eraseIdx_append_of_lt_length hi]
      exact (List.set_perm_cons_eraseIdx hi last).trans (List.perm_append_singleton _ _).symm
    · obtain rfl : i = l.length := by simp at h; omega
      rw [List.eraseIdx_append_of_length_le (Nat.le_refl _)]
      simp

variable {β : Type*} [LinearOrder β]

/-- Position of the first element with the least key. -/
def minIndexBy (key : α → β) (l : List α) : Option ℕ :=
  (l.zipIdx.argmin fun entry => key entry.1).map Prod.snd

/-- Drop the first element with the least key. -/
def evictMin (key : α → β) (l : List α) : List α :=
  match minIndexBy key l with
  | some i => swapRemove l i
  | none => l

/-- A nonempty vector loses one element, and none of the others has a smaller key. -/
theorem exists_victim (key : α → β) {l : List α} (h : l ≠ []) :
    ∃ victim, l.Perm (victim :: evictMin key l) ∧ ∀ x ∈ l, key victim ≤ key x := by
  cases hmin : l.zipIdx.argmin fun entry => key entry.1 with
  | none => simp [List.argmin_eq_none] at hmin; exact absurd hmin h
  | some entry =>
    obtain ⟨victim, i⟩ := entry
    have hmem : (victim, i) ∈ l.zipIdx := List.argmin_mem hmin
    have hget := List.mk_mem_zipIdx_iff_getElem?.mp hmem
    obtain ⟨hi, hvictim⟩ := List.getElem?_eq_some_iff.mp hget
    have hevict : evictMin key l = swapRemove l i := by simp [evictMin, minIndexBy, hmin]
    refine ⟨victim, ?_, ?_⟩
    · rw [hevict, ← hvictim]
      exact (List.getElem_cons_eraseIdx_perm hi).symm.trans ((swapRemove_perm hi).symm.cons _)
    · intro x hx
      obtain ⟨j, hj, rfl⟩ := List.getElem_of_mem hx
      have hx' : (l[j], j) ∈ l.zipIdx :=
        List.mk_mem_zipIdx_iff_getElem?.mpr (List.getElem?_eq_getElem hj)
      exact List.le_of_mem_argmin (f := fun entry : α × ℕ => key entry.1) hx' hmin

/-- The vector before a push: a full one first gives up an element with the least key. -/
def makeRoom (key : α → β) (capacity : ℕ) (l : List α) : List α :=
  if capacity ≤ l.length then evictMin key l else l

/-- Nothing is removed while there is room. -/
theorem makeRoom_of_length_lt (key : α → β) {capacity : ℕ} {l : List α} (h : l.length < capacity) :
    makeRoom key capacity l = l :=
  if_neg (Nat.not_le.mpr h)

/-- After making room there is room. -/
theorem length_makeRoom_lt (key : α → β) {capacity : ℕ} {l : List α} (hpos : 0 < capacity)
    (hle : l.length ≤ capacity) : (makeRoom key capacity l).length < capacity := by
  unfold makeRoom
  split
  · rename_i hfull
    have hne : l ≠ [] := by
      rintro rfl
      rw [List.length_nil] at hfull
      omega
    obtain ⟨victim, hperm, -⟩ := exists_victim key hne
    have hlength := hperm.length_eq
    rw [List.length_cons] at hlength
    omega
  · omega

end Library
