import Mathlib

/-!
# The most recent distinct elements of a history

A history lists sightings in chronological order. `MostRecent k` says directly which
elements are among the last `k` distinct ones; `recency` lists the distinct elements
from the most recent on, which is what a bounded table can maintain.
-/

namespace Library

variable {α : Type*} [DecidableEq α]

/-- Fewer than `k` distinct elements have been seen since `x` was last seen. -/
def MostRecent (k : ℕ) (history : List α) (x : α) : Prop :=
  ∃ older newer, history = older ++ x :: newer ∧ x ∉ newer ∧ newer.toFinset.card < k

/-- The distinct elements of a history, the most recent first. -/
def recency (history : List α) : List α :=
  history.foldl (fun recent x => x :: recent.erase x) []

@[simp] private theorem recency_nil : recency ([] : List α) = [] := rfl

@[simp] private theorem recency_snoc (history : List α) (x : α) :
    recency (history ++ [x]) = x :: (recency history).erase x := by
  simp [recency, List.foldl_append]

/-- Each element is listed once. -/
theorem recency_nodup (history : List α) : (recency history).Nodup := by
  induction history using List.reverseRecOn with
  | nil => exact List.nodup_nil
  | append_singleton history x ih =>
    rw [recency_snoc, List.nodup_cons]
    exact ⟨fun h => (ih.mem_erase_iff.mp h).1 rfl, ih.erase x⟩

@[simp] private theorem mem_recency {history : List α} {x : α} :
    x ∈ recency history ↔ x ∈ history := by
  induction history using List.reverseRecOn with
  | nil => simp
  | append_singleton history y ih =>
    rw [recency_snoc, List.mem_cons, (recency_nodup history).mem_erase_iff, ih]
    simp only [List.mem_append, List.mem_singleton]
    tauto

/-- Later sightings come before all earlier ones. -/
theorem recency_append (older newer : List α) :
    recency (older ++ newer) = recency newer ++ (recency older).filter (· ∉ newer) := by
  induction newer using List.reverseRecOn with
  | nil => simp
  | append_singleton newer y ih =>
    rw [← List.append_assoc, recency_snoc, recency_snoc, ih]
    by_cases hy : y ∈ newer
    · have hfilter : ∀ x, x ∉ newer ++ [y] ↔ x ∉ newer := by
        intro x
        simp only [List.mem_append, List.mem_singleton, not_or]
        constructor
        · exact fun h => h.1
        · rintro h
          exact ⟨h, fun hx => h (hx ▸ hy)⟩
      rw [List.erase_append_left _ (mem_recency.mpr hy), List.cons_append]
      simp only [hfilter]
    · have hnodup := (recency_nodup older).filter (· ∉ newer)
      rw [List.erase_append_right _ (mem_recency.not.mpr hy), List.cons_append,
        List.erase_of_not_mem (mem_recency.not.mpr hy), hnodup.erase_eq_filter,
        List.filter_filter]
      congr 2
      apply List.filter_congr
      intro x _
      rw [Bool.eq_iff_iff]
      simp [and_comm]

/-- The number of distinct elements of a history. -/
theorem length_recency (history : List α) :
    (recency history).length = history.toFinset.card := by
  have hset : (recency history).toFinset = history.toFinset := by
    ext x
    simp
  rw [← hset, List.toFinset_card_of_nodup (recency_nodup history)]

/-- Position of an element in the recency list: after everything seen since. -/
theorem recency_split (older : List α) {newer : List α} {x : α} (h : x ∉ newer) :
    ∃ rest, recency (older ++ x :: newer) = recency newer ++ x :: rest ∧ x ∉ rest := by
  have hcons : older ++ x :: newer = (older ++ [x]) ++ newer := by simp
  refine ⟨((recency older).erase x).filter (· ∉ newer), ?_, ?_⟩
  · rw [hcons, recency_append, recency_snoc, List.filter_cons_of_pos (by simpa using h)]
  · intro hx
    exact (recency_nodup older).not_mem_erase (List.mem_of_mem_filter hx)

/-- A front part of the recency list holds exactly the most recent elements. -/
theorem mem_take_recency {k : ℕ} {history : List α} {x : α} :
    x ∈ (recency history).take k ↔ MostRecent k history x := by
  constructor
  · intro h
    have hmem : x ∈ history.reverse := by simpa using mem_recency.mp (List.mem_of_mem_take h)
    obtain ⟨after, before, hreverse, hafter⟩ := List.eq_append_cons_of_mem hmem
    obtain ⟨older, newer, rfl, hnew⟩ : ∃ older newer, history = older ++ x :: newer ∧ x ∉ newer :=
      ⟨before.reverse, after.reverse, by simpa using congrArg List.reverse hreverse, by simpa⟩
    refine ⟨older, newer, rfl, hnew, ?_⟩
    obtain ⟨rest, hsplit, -⟩ := recency_split older hnew
    rw [← length_recency]
    by_contra hge
    rw [hsplit, List.take_append_of_le_length (by omega)] at h
    exact hnew (mem_recency.mp (List.mem_of_mem_take h))
  · rintro ⟨older, newer, rfl, hnew, hcard⟩
    obtain ⟨rest, hsplit, -⟩ := recency_split older hnew
    rw [← length_recency] at hcard
    rw [hsplit, List.take_append, List.mem_append]
    right
    rw [← Nat.sub_add_cancel (Nat.sub_pos_of_lt hcard), List.take_succ_cons]
    exact List.mem_cons_self

/-- Erasing from the front part or from the whole list is the same for its members. -/
theorem take_erase_of_mem {l : List α} {k : ℕ} {x : α} (h : x ∈ l.take (k + 1)) :
    (l.erase x).take k = (l.take (k + 1)).erase x := by
  induction l generalizing k with
  | nil => simp
  | cons y l ih =>
    by_cases hxy : y = x
    · simp [hxy]
    · rw [List.take_succ_cons, List.mem_cons] at h
      have htail : x ∈ l.take k := h.resolve_left (Ne.symm hxy)
      cases k with
      | zero => simp at htail
      | succ k =>
        rw [List.erase_cons_tail (by simpa using hxy), List.take_succ_cons, List.take_succ_cons,
          List.erase_cons_tail (by simpa using hxy), ih htail]

/-- Erasing an element beyond the front part leaves it alone. -/
theorem take_erase_of_notMem {l : List α} {k : ℕ} {x : α} (h : x ∉ l.take k) :
    (l.erase x).take k = l.take k := by
  induction l generalizing k with
  | nil => simp
  | cons y l ih =>
    cases k with
    | zero => simp
    | succ k =>
      rw [List.take_succ_cons, List.mem_cons, not_or] at h
      rw [List.erase_cons_tail (by simpa using Ne.symm h.1), List.take_succ_cons,
        List.take_succ_cons, ih h.2]

/-- A known element moves to the front. -/
theorem take_recency_snoc_of_mem {k : ℕ} {history : List α} {x : α}
    (h : x ∈ (recency history).take k) :
    (recency (history ++ [x])).take k = x :: ((recency history).take k).erase x := by
  cases k with
  | zero => simp at h
  | succ k => rw [recency_snoc, List.take_succ_cons, take_erase_of_mem h]

/-- A new element is put before the `k - 1` most recent ones. -/
theorem take_recency_snoc_of_notMem {k : ℕ} {history : List α} {x : α} (hk : 0 < k)
    (h : x ∉ (recency history).take k) :
    (recency (history ++ [x])).take k = x :: (recency history).take (k - 1) := by
  obtain ⟨k, rfl⟩ : ∃ j, k = j + 1 := ⟨k - 1, by omega⟩
  have hshort : x ∉ (recency history).take k := fun hx =>
    h (List.take_subset_take_left _ (Nat.le_succ k) hx)
  rw [recency_snoc, List.take_succ_cons, take_erase_of_notMem hshort, Nat.add_sub_cancel]

/-- The element seen last is the most recent one. -/
theorem mostRecent_snoc_self {k : ℕ} (hk : 0 < k) (history : List α) (x : α) :
    MostRecent k (history ++ [x]) x :=
  ⟨history, [], rfl, by simp, by simpa using hk⟩

section

variable {β γ : Type*}

/-- What `f` collects from the entries after the last one with property `p`. -/
def collectedSince (p : β → Bool) (f : β → Option γ) (entries : List β) : List γ :=
  (entries.rtakeWhile fun entry => !p entry).filterMap f

/-- What is collected with one more entry. -/
theorem collectedSince_snoc (p : β → Bool) (f : β → Option γ) (entries : List β) (entry : β) :
    collectedSince p f (entries ++ [entry]) =
      if p entry then [] else collectedSince p f entries ++ (f entry).toList := by
  unfold collectedSince
  rw [List.rtakeWhile_concat]
  by_cases hp : p entry = true
  · rw [if_neg (by simp [hp]), if_pos hp, List.filterMap_nil]
  · rw [if_pos (by simpa using hp), if_neg hp, List.filterMap_append]
    cases hf : f entry <;> simp [hf]

end

end Library
