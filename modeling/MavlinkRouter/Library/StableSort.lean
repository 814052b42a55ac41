import Mathlib

/-!
# Stable sorting by a decreasing key

A stable sort puts larger keys first and keeps the order of entries with equal keys. There is
only one list with these two properties, and insertion sort computes it.
-/

namespace Library

variable {α κ : Type*} [LinearOrder κ] {key : α → κ} {list sorted sorted' : List α}

/-- The entries of a list, larger keys first and equal keys in the order of the list. -/
structure IsStableSort (key : α → κ) (list sorted : List α) : Prop where
  ordered : sorted.Pairwise fun a b => key b ≤ key a
  stable : ∀ k, (sorted.filter fun a => key a = k) = list.filter fun a => key a = k

namespace IsStableSort

/-- Sorting keeps the number of occurrences of every entry. -/
theorem perm (h : IsStableSort key list sorted) : sorted.Perm list := by
  classical
  refine List.perm_iff_count.mpr fun a => ?_
  have hcount := congrArg (List.count a) (h.stable (key a))
  rwa [List.count_filter (by simp), List.count_filter (by simp)] at hcount

/-- The head has the largest key. -/
theorem key_le_head {a : α} (h : IsStableSort key list (a :: sorted)) {b : α} (hb : b ∈ list) :
    key b ≤ key a := by
  rcases List.mem_cons.mp (h.perm.mem_iff.mpr hb) with rfl | hmem
  · exact le_rfl
  · exact List.rel_of_pairwise_cons h.ordered hmem

/-- Two stable sorts of one list are equal. -/
theorem unique (h : IsStableSort key list sorted) (h' : IsStableSort key list sorted') :
    sorted = sorted' := by
  induction sorted generalizing list sorted' with
  | nil =>
    refine (List.eq_nil_iff_forall_not_mem.mpr fun a ha => ?_).symm
    exact List.not_mem_nil (h.perm.mem_iff.mpr (h'.perm.mem_iff.mp ha))
  | cons a sorted ih =>
    cases sorted' with
    | nil =>
      have hmem : a ∈ [] := h'.perm.mem_iff.mpr (h.perm.mem_iff.mp List.mem_cons_self)
      exact absurd hmem List.not_mem_nil
    | cons b sorted' =>
      have hkey : key b = key a := le_antisymm
        (h.key_le_head (h'.perm.mem_iff.mp List.mem_cons_self))
        (h'.key_le_head (h.perm.mem_iff.mp List.mem_cons_self))
      have hfilter : ∀ k, ((a :: sorted).filter fun c => key c = k) =
          (b :: sorted').filter fun c => key c = k := fun k => (h.stable k).trans (h'.stable k).symm
      -- The heads lead the same class of equal keys.
      have hhead : a = b := by
        have hclass := hfilter (key a)
        rw [List.filter_cons_of_pos (by simp), List.filter_cons_of_pos (by simp [hkey])] at hclass
        exact (List.cons.inj hclass).1
      subst hhead
      refine congrArg (List.cons a) (ih ⟨h.ordered.of_cons, fun _ => rfl⟩ ?_)
      refine ⟨h'.ordered.of_cons, fun k => ?_⟩
      have hclass := hfilter k
      by_cases hk : key a = k
      · rw [List.filter_cons_of_pos (by simp [hk]), List.filter_cons_of_pos (by simp [hk])]
          at hclass
        exact (List.cons.inj hclass).2.symm
      · rw [List.filter_cons_of_neg (by simp [hk]), List.filter_cons_of_neg (by simp [hk])]
          at hclass
        exact hclass.symm

/-- Only the order of entries with equal keys matters. -/
theorem congr {list' : List α} (h : IsStableSort key list sorted)
    (hlist : ∀ k, (list.filter fun a => key a = k) = list'.filter fun a => key a = k) :
    IsStableSort key list' sorted :=
  ⟨h.ordered, fun k => (h.stable k).trans (hlist k)⟩

/-- A copy of a list is sorted like the list. -/
theorem map {β : Type*} {copy : α → β} {key' : β → κ} (h : IsStableSort key list sorted)
    (hkey : ∀ a, key' (copy a) = key a) : IsStableSort key' (list.map copy) (sorted.map copy) := by
  refine ⟨List.pairwise_map.mpr (h.ordered.imp fun hle => ?_), fun k => ?_⟩
  · rwa [hkey, hkey]
  · have hcopy : ((fun b => decide (key' b = k)) ∘ copy) = fun a => decide (key a = k) := by
      funext a
      simp only [Function.comp_apply, hkey]
    rw [List.filter_map, List.filter_map, hcopy, h.stable]

end IsStableSort

/-- Insertion sort is stable. -/
theorem isStableSort_insertionSort (key : α → κ) (list : List α) :
    IsStableSort key list (list.insertionSort fun a b => key b ≤ key a) := by
  have htrans : IsTrans α fun a b => key b ≤ key a := ⟨fun _ _ _ hab hbc => hbc.trans hab⟩
  have htotal : Std.Total fun a b : α => key b ≤ key a := ⟨fun a b => le_total (key b) (key a)⟩
  refine ⟨List.pairwise_insertionSort _ list, fun k => ?_⟩
  have hclass : (list.filter fun a => key a = k).Pairwise fun a b => key b ≤ key a := by
    refine List.pairwise_of_forall_mem_list fun a ha b hb => ?_
    have hka : key a = k := by simpa using (List.mem_filter.mp ha).2
    have hkb : key b = k := by simpa using (List.mem_filter.mp hb).2
    exact (hkb.trans hka.symm).le
  -- A class of equal keys stays a sublist, and sorting adds nothing to it.
  have hsublist := (List.sublist_insertionSort hclass List.filter_sublist).filter
    fun a => decide (key a = k)
  rw [List.filter_filter] at hsublist
  simp only [Bool.and_self] at hsublist
  refine (hsublist.eq_of_length ?_).symm
  exact ((List.perm_insertionSort _ list).filter _).length_eq.symm

end Library
