import Mathlib

/-!
# Windows over a log with deadlines

Items enter a log one after the other, with deadlines that never decrease. A bounded
window over the log holds those of its last `n` items whose deadline is still ahead. A
queue maintains it by dropping expired items from its head, and its head once more when
it is full.
-/

namespace Library

variable {α : Type*} {deadline : α → ℕ}

/-- The items among the last `n` of the log that are live at `now`. -/
def liveWindow (deadline : α → ℕ) (n now : ℕ) (log : List α) : List α :=
  (log.rtake n).filter (now < deadline ·)

/-- The last items are a suffix. -/
theorem rtake_suffix (n : ℕ) (log : List α) : log.rtake n <:+ log :=
  List.drop_suffix _ _

/-- There are as many as asked for, or all. -/
theorem length_rtake (n : ℕ) (log : List α) : (log.rtake n).length = min n log.length := by
  rw [List.rtake, List.length_drop]
  omega

private theorem length_liveWindow_le (deadline : α → ℕ) (n now : ℕ) (log : List α) :
    (liveWindow deadline n now log).length ≤ n := by
  have hfilter := List.length_filter_le (now < deadline ·) (log.rtake n)
  rw [length_rtake] at hfilter
  exact hfilter.trans (min_le_left _ _)

/-- The live items keep their order. -/
theorem liveWindow_sublist (deadline : α → ℕ) (n now : ℕ) (log : List α) :
    (liveWindow deadline n now log).Sublist log :=
  List.filter_sublist.trans (rtake_suffix n log).sublist

/-- A log that fits is kept whole. -/
theorem rtake_of_length_le {n : ℕ} {log : List α} (h : log.length ≤ n) : log.rtake n = log := by
  rw [List.rtake, Nat.sub_eq_zero_of_le h, List.drop_zero]

/-- Keeping the last items in between changes nothing. -/
theorem rtake_rtake_append (n : ℕ) (log more : List α) :
    (log.rtake n ++ more).rtake n = (log ++ more).rtake n := by
  have hkept : log.rtake n ++ more = (log ++ more).drop (log.length - n) := by
    rw [List.rtake, List.drop_append_of_le_length (Nat.sub_le _ _)]
  have hlength := length_rtake n log
  rw [List.rtake, List.length_append, hlength, hkept, List.drop_drop, List.rtake,
    List.length_append]
  congr 1
  omega

/-- An item is in the window when fewer than `n` items followed it and it is live. -/
theorem mem_liveWindow {n now : ℕ} {log : List α} {x : α} :
    x ∈ liveWindow deadline n now log ↔
      ∃ older newer, log = older ++ x :: newer ∧ newer.length < n ∧ now < deadline x := by
  simp only [liveWindow, List.mem_filter, decide_eq_true_eq]
  constructor
  · rintro ⟨hmem, hlive⟩
    obtain ⟨front, newer, hsplit⟩ := List.append_of_mem hmem
    obtain ⟨older, holder⟩ := rtake_suffix n log
    have hlength := length_rtake n log
    rw [hsplit, List.length_append, List.length_cons] at hlength
    refine ⟨older ++ front, newer, ?_, by omega, hlive⟩
    rw [← holder, hsplit, List.append_assoc]
  · rintro ⟨older, newer, rfl, hlength, hlive⟩
    refine ⟨?_, hlive⟩
    rw [List.rtake, List.drop_append, List.mem_append]
    right
    have hzero : (older ++ x :: newer).length - n - older.length = 0 := by
      rw [List.length_append, List.length_cons]
      omega
    rw [hzero]
    exact List.mem_cons_self

/-- Dropping expired items from the head drops all of them. -/
theorem dropWhile_eq_filter_live {now : ℕ} {l : List α}
    (hsorted : l.Pairwise (deadline · ≤ deadline ·)) :
    l.dropWhile (deadline · ≤ now) = l.filter (now < deadline ·) := by
  induction l with
  | nil => rfl
  | cons front l ih =>
    rw [List.pairwise_cons] at hsorted
    by_cases hlive : now < deadline front
    · have hall : ∀ x ∈ front :: l, decide (now < deadline x) = true := by
        intro x hx
        rcases List.mem_cons.mp hx with rfl | hx
        · exact decide_eq_true hlive
        · exact decide_eq_true (hlive.trans_le (hsorted.1 x hx))
      rw [List.filter_eq_self.mpr hall, List.dropWhile_cons_of_neg (by simpa using hlive)]
    · rw [List.dropWhile_cons_of_pos (by simpa using hlive),
        List.filter_cons_of_neg (by simpa using hlive), ih hsorted.2]

/-- Time only takes items out of the window. -/
theorem filter_liveWindow {n last now : ℕ} (log : List α) (hlast : last ≤ now) :
    (liveWindow deadline n last log).filter (now < deadline ·) =
      liveWindow deadline n now log := by
  rw [liveWindow, List.filter_filter]
  apply List.filter_congr
  intro x _
  rw [Bool.eq_iff_iff, Bool.and_eq_true, decide_eq_true_iff, decide_eq_true_iff]
  constructor
  · exact fun h => h.1
  · exact fun h => ⟨h, hlast.trans_lt h⟩

/-- A log is no longer than the bound, or its last items have one more in front. -/
theorem rtake_succ_cases (n : ℕ) (log : List α) :
    (log.rtake (n + 1) = log.rtake n ∧ log.length ≤ n) ∨
      ∃ front, log.rtake (n + 1) = front :: log.rtake n := by
  by_cases hlength : log.length ≤ n
  · left
    refine ⟨?_, hlength⟩
    rw [List.rtake, List.rtake, Nat.sub_eq_zero_of_le hlength,
      Nat.sub_eq_zero_of_le (hlength.trans (Nat.le_succ n))]
  · right
    have hindex : log.length - (n + 1) < log.length := by omega
    refine ⟨log[log.length - (n + 1)], ?_⟩
    rw [List.rtake, List.rtake, List.drop_eq_getElem_cons hindex]
    congr 2
    omega

/-- The window after one more item: the head makes room only when every place is taken. -/
theorem liveWindow_snoc {n now : ℕ} {log : List α} {x : α}
    (hsorted : log.Pairwise (deadline · ≤ deadline ·)) (hlive : now < deadline x) :
    liveWindow deadline (n + 1) now (log ++ [x]) =
      (if n + 1 ≤ (liveWindow deadline (n + 1) now log).length then
        (liveWindow deadline (n + 1) now log).tail
      else liveWindow deadline (n + 1) now log) ++ [x] := by
  have hsnoc : liveWindow deadline (n + 1) now (log ++ [x]) =
      liveWindow deadline n now log ++ [x] := by
    rw [liveWindow, List.rtake_concat_succ, List.filter_append,
      List.filter_cons_of_pos (by simpa using hlive), List.filter_nil, liveWindow]
  rw [hsnoc]
  congr 1
  rcases rtake_succ_cases n log with ⟨heq, hlength⟩ | ⟨front, hcons⟩
  · have hshort := (liveWindow_sublist deadline (n + 1) now log).length_le
    rw [if_neg (by omega), liveWindow, liveWindow, heq]
  · have hwindow : liveWindow deadline (n + 1) now log =
        (front :: log.rtake n).filter (now < deadline ·) := by
      rw [liveWindow, hcons]
    by_cases hfront : now < deadline front
    · -- The oldest item has the earliest deadline, so while it lives the window is full.
      have hpair : (front :: log.rtake n).Pairwise (deadline · ≤ deadline ·) := by
        rw [← hcons]
        exact hsorted.sublist (rtake_suffix _ _).sublist
      have hrest : (log.rtake n).filter (now < deadline ·) = log.rtake n := by
        rw [List.filter_eq_self]
        intro y hy
        exact decide_eq_true (hfront.trans_le ((List.pairwise_cons.mp hpair).1 y hy))
      rw [List.filter_cons_of_pos (by simpa using hfront)] at hwindow
      have hfull : (front :: log.rtake n).length = n + 1 := by
        have hlength := length_rtake (n + 1) log
        have hlength' := length_rtake n log
        rw [hcons, List.length_cons] at hlength
        rw [List.length_cons]
        omega
      rw [if_pos, hwindow, List.tail_cons, liveWindow]
      rw [hwindow, hrest, hfull]
    · rw [List.filter_cons_of_neg (by simpa using hfront)] at hwindow
      have hshort := length_liveWindow_le deadline n now log
      rw [liveWindow] at hshort
      rw [if_neg (by rw [hwindow]; omega), hwindow, liveWindow]

end Library
