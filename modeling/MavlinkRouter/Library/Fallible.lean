import Mathlib

/-!
# Computations that may fail

What is known when a composite computation succeeds, and induction along a loop that stops at
the first failure.
-/

namespace Library

variable {ε α β σ : Type*}

/-- A composite computation succeeds if its parts do. -/
theorem bind_eq_ok {first : Except ε α} {next : α → Except ε β} {result : β} :
    first.bind next = .ok result ↔ ∃ value, first = .ok value ∧ next value = .ok result := by
  cases first with
  | error error =>
    refine iff_of_false nofun ?_
    rintro ⟨value, ⟨⟩, -⟩
  | ok value =>
    constructor
    · exact fun h => ⟨value, rfl, h⟩
    · rintro ⟨_, ⟨⟩, h⟩
      exact h

/-- When a mapped result is a success. -/
theorem map_eq_ok {first : Except ε α} {f : α → β} {result : β} :
    first.map f = .ok result ↔ ∃ value, first = .ok value ∧ f value = result := by
  cases first with
  | error error =>
    refine iff_of_false (fun h => nomatch h) ?_
    rintro ⟨value, ⟨⟩, -⟩
  | ok value => simp [Except.map]

/-- Renaming errors keeps results. -/
theorem mapError_eq_ok {δ : Type*} {first : Except ε α} {f : ε → δ} {result : α} :
    first.mapError f = .ok result ↔ first = .ok result := by
  cases first <;> simp [Except.mapError]

/-- A loop goes on after a round that has succeeded. -/
theorem foldlM_cons_of_ok {step : σ → α → Except ε σ} {start next : σ} {item : α} {items : List α}
    (h : step start item = .ok next) :
    (item :: items).foldlM step start = items.foldlM step next := by
  rw [List.foldlM_cons, h]
  rfl

/-- A fold goes on where its first part ended. -/
theorem foldlM_append_of_ok {step : σ → α → Except ε σ} {start next : σ} {items more : List α}
    (h : items.foldlM step start = .ok next) :
    (items ++ more).foldlM step start = more.foldlM step next := by
  rw [List.foldlM_append, h]
  rfl

/-- The last round of a loop starts from what the others have computed. -/
theorem foldlM_snoc_eq_ok {step : σ → α → Except ε σ} {start state : σ} {items : List α}
    {item : α} :
    (items ++ [item]).foldlM step start = .ok state ↔
      ∃ before, items.foldlM step start = .ok before ∧ step before item = .ok state := by
  have hloop : (items ++ [item]).foldlM step start =
      (items.foldlM step start).bind fun before => step before item := by
    rw [List.foldlM_append]
    refine congrArg (Except.bind _) (funext fun before => ?_)
    rw [List.foldlM_cons]
    simp only [List.foldlM_nil, bind_pure]
  rw [hloop, bind_eq_ok]

/-- Induction along a loop that has succeeded. -/
theorem foldlM_induction {step : σ → α → Except ε σ} {start state : σ} {items : List α}
    {motive : List α → σ → Prop} (hstart : motive [] start)
    (hstep : ∀ {done before item after}, done ++ [item] <+: items → motive done before →
      step before item = .ok after → motive (done ++ [item]) after)
    (h : items.foldlM step start = .ok state) : motive items state := by
  induction items using List.reverseRecOn generalizing state with
  | nil =>
    cases h
    exact hstart
  | append_singleton items item ih =>
    obtain ⟨before, hbefore, hlast⟩ := foldlM_snoc_eq_ok.mp h
    refine hstep (List.prefix_refl _) (ih (fun hinit => hstep ?_) hbefore) hlast
    exact hinit.trans (List.prefix_append _ _)

/-- A loop that collects results succeeds if every round does. -/
theorem mapM_eq_ok {round : α → Except ε β} {items : List α} {results : List β} :
    items.mapM round = .ok results ↔
      List.Forall₂ (fun item result => round item = .ok result) items results := by
  induction items generalizing results with
  | nil =>
    rw [List.mapM_nil, List.forall₂_nil_left_iff]
    constructor
    · intro h
      cases h
      rfl
    · rintro rfl
      rfl
  | cons item items ih =>
    rw [List.mapM_cons, List.forall₂_cons_left_iff]
    constructor
    · intro h
      obtain ⟨first, hfirst, h⟩ := bind_eq_ok.mp h
      obtain ⟨rest, hrest, h⟩ := bind_eq_ok.mp h
      cases h
      exact ⟨first, rest, hfirst, ih.mp hrest, rfl⟩
    · rintro ⟨first, rest, hfirst, hrest, rfl⟩
      exact bind_eq_ok.mpr ⟨first, hfirst, bind_eq_ok.mpr ⟨rest, ih.mpr hrest, rfl⟩⟩

/-- What a loop has collected was collected in one of its rounds. -/
theorem exists_of_forall₂ {round : α → β → Prop} {items : List α} {results : List β}
    (h : List.Forall₂ round items results) {result : β} (hresult : result ∈ results) :
    ∃ item ∈ items, round item result := by
  induction h with
  | nil => cases hresult
  | cons hround _ ih =>
    rcases List.mem_cons.mp hresult with rfl | hresult
    · exact ⟨_, List.mem_cons_self, hround⟩
    · obtain ⟨item, hitem, hround⟩ := ih hresult
      exact ⟨item, List.mem_cons_of_mem _ hitem, hround⟩

/-- Where every item has at most one result, so does the list. -/
theorem forall₂_iff_map {round : α → β → Prop} {valid : α → Prop} {f : α → β} {items : List α}
    (h : ∀ item ∈ items, ∀ result, round item result ↔ valid item ∧ result = f item)
    {results : List β} :
    List.Forall₂ round items results ↔ (∀ item ∈ items, valid item) ∧ results = items.map f := by
  induction items generalizing results with
  | nil =>
    rw [List.forall₂_nil_left_iff, List.map_nil]
    exact (and_iff_right (List.forall_mem_nil _)).symm
  | cons item items ih =>
    obtain ⟨hitem, hitems⟩ := List.forall_mem_cons.mp h
    rw [List.forall₂_cons_left_iff, List.forall_mem_cons, List.map_cons]
    constructor
    · rintro ⟨result, rest, hresult, hrest, rfl⟩
      obtain ⟨hvalid, rfl⟩ := (hitem result).mp hresult
      obtain ⟨hall, rfl⟩ := (ih hitems).mp hrest
      exact ⟨⟨hvalid, hall⟩, rfl⟩
    · rintro ⟨⟨hvalid, hall⟩, rfl⟩
      exact ⟨f item, items.map f, (hitem _).mpr ⟨hvalid, rfl⟩, (ih hitems).mpr ⟨hall, rfl⟩, rfl⟩

/-- A loop of checks succeeds if every check does. -/
theorem forM_eq_ok {check : α → Except ε Unit} {items : List α} :
    items.forM check = .ok () ↔ ∀ item ∈ items, check item = .ok () := by
  induction items with
  | nil => exact iff_of_true rfl nofun
  | cons item items ih =>
    rw [List.forall_mem_cons, ← ih]
    constructor
    · intro h
      obtain ⟨⟨⟩, hfirst, hrest⟩ := bind_eq_ok.mp h
      exact ⟨hfirst, hrest⟩
    · rintro ⟨hfirst, hrest⟩
      exact bind_eq_ok.mpr ⟨(), hfirst, hrest⟩

end Library
