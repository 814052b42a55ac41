import Mathlib

/-!
# Leases

Identifiers are given out to keys: each is opened once, used while its key holds it, and
closed at most once. The log of what happened and the table of holders determine each
other, and three rules say how both change together.
-/

namespace Library

/-- What is recorded about an identifier. -/
inductive LeaseEntry (ι : Type*) where
  | opened (id : ι)
  | used (id : ι)
  | closed (id : ι)

namespace LeaseEntry

variable {ι : Type*}

def opened? : LeaseEntry ι → Option ι
  | .opened id => some id
  | .used _ => none
  | .closed _ => none

def closed? : LeaseEntry ι → Option ι
  | .opened _ => none
  | .used _ => none
  | .closed id => some id

/-- The opened identifiers, in order. -/
def openedIn (log : List (LeaseEntry ι)) : List ι :=
  log.filterMap opened?

/-- The closed identifiers, in order. -/
def closedIn (log : List (LeaseEntry ι)) : List ι :=
  log.filterMap closed?

/-- Opened and not closed. -/
def Live (log : List (LeaseEntry ι)) (id : ι) : Prop :=
  id ∈ openedIn log ∧ id ∉ closedIn log

/-- What may be recorded after a log: an identifier is opened if it is new, and used or closed
while it is live. -/
def Admissible (log : List (LeaseEntry ι)) : LeaseEntry ι → Prop
  | .opened id => id ∉ openedIn log
  | .used id => Live log id
  | .closed id => Live log id

/-- Every entry was admissible when it was recorded. -/
def Regular (log : List (LeaseEntry ι)) : Prop :=
  ∀ before entry after, log = before ++ entry :: after → Admissible before entry

/-- What is opened by one log after another. -/
@[simp] theorem openedIn_append (log log' : List (LeaseEntry ι)) :
    openedIn (log ++ log') = openedIn log ++ openedIn log' :=
  List.filterMap_append

@[simp] private theorem closedIn_append (log log' : List (LeaseEntry ι)) :
    closedIn (log ++ log') = closedIn log ++ closedIn log' :=
  List.filterMap_append

section Snoc

variable (log : List (LeaseEntry ι)) (id : ι)

/-- One more opening. -/
theorem openedIn_opened : openedIn (log ++ [opened id]) = openedIn log ++ [id] :=
  openedIn_append _ _

private theorem openedIn_used : openedIn (log ++ [used id]) = openedIn log :=
  (openedIn_append _ _).trans (List.append_nil _)

/-- Closing opens nothing. -/
theorem openedIn_closed : openedIn (log ++ [closed id]) = openedIn log :=
  (openedIn_append _ _).trans (List.append_nil _)

/-- Closing many opens nothing. -/
theorem openedIn_closedAll {α : Type*} (items : List α) (idOf : α → ι) :
    openedIn (log ++ items.map fun item => closed (idOf item)) = openedIn log := by
  have hnone : openedIn (items.map fun item => closed (idOf item)) = [] := by
    rw [openedIn, List.filterMap_map, List.filterMap_eq_nil_iff]
    exact fun _ _ => rfl
  rw [openedIn_append, hnone, List.append_nil]

/-- Opening closes nothing. -/
theorem closedIn_opened : closedIn (log ++ [opened id]) = closedIn log :=
  (closedIn_append _ _).trans (List.append_nil _)

private theorem closedIn_used : closedIn (log ++ [used id]) = closedIn log :=
  (closedIn_append _ _).trans (List.append_nil _)

/-- One more closing. -/
theorem closedIn_closed : closedIn (log ++ [closed id]) = closedIn log ++ [id] :=
  closedIn_append _ _

end Snoc

/-- The empty log is regular. -/
theorem regular_nil : Regular ([] : List (LeaseEntry ι)) := by
  intro before entry after hsplit
  simp at hsplit

/-- A regular log goes on with an admissible entry. -/
theorem Regular.snoc {log : List (LeaseEntry ι)} {entry : LeaseEntry ι} (h : Regular log)
    (hentry : Admissible log entry) : Regular (log ++ [entry]) := by
  intro before last after hsplit
  rcases List.eq_nil_or_concat after with rfl | ⟨rest, final, rfl⟩
  · obtain ⟨rfl, hlast⟩ := List.append_inj' hsplit rfl
    cases hlast
    exact hentry
  · rw [List.concat_eq_append, ← List.cons_append, ← List.append_assoc] at hsplit
    obtain ⟨hlog, -⟩ := List.append_inj' hsplit rfl
    exact h before last rest hlog

/-- A prefix of a regular log is regular. -/
theorem Regular.of_append {log log' : List (LeaseEntry ι)} (h : Regular (log ++ log')) :
    Regular log := by
  rintro before entry after rfl
  exact h before entry (after ++ log') (by simp)

private theorem Regular.last {log : List (LeaseEntry ι)} {entry : LeaseEntry ι}
    (h : Regular (log ++ [entry])) : Admissible log entry :=
  h log entry [] rfl

/-- No identifier is opened twice. -/
theorem Regular.nodup_openedIn {log : List (LeaseEntry ι)} (h : Regular log) :
    (openedIn log).Nodup := by
  induction log using List.reverseRecOn with
  | nil => exact List.nodup_nil
  | append_singleton log entry ih =>
    have hlast := h.last
    have hlog := ih h.of_append
    cases entry with
    | opened id =>
      rw [openedIn_opened, ← List.concat_eq_append]
      exact hlog.concat hlast
    | used id =>
      rw [openedIn_used]
      exact hlog
    | closed id =>
      rw [openedIn_closed]
      exact hlog

/-- No identifier is closed twice. -/
theorem Regular.nodup_closedIn {log : List (LeaseEntry ι)} (h : Regular log) :
    (closedIn log).Nodup := by
  induction log using List.reverseRecOn with
  | nil => exact List.nodup_nil
  | append_singleton log entry ih =>
    have hlast := h.last
    have hlog := ih h.of_append
    cases entry with
    | opened id =>
      rw [closedIn_opened]
      exact hlog
    | used id =>
      rw [closedIn_used]
      exact hlog
    | closed id =>
      rw [closedIn_closed, ← List.concat_eq_append]
      exact hlog.concat hlast.2

/-- What has been closed was opened before. -/
theorem Regular.mem_openedIn {log : List (LeaseEntry ι)} {id : ι} (h : Regular log)
    (hclosed : id ∈ closedIn log) : id ∈ openedIn log := by
  obtain ⟨entry, hmem, hentry⟩ := List.mem_filterMap.mp hclosed
  obtain ⟨before, after, hsplit⟩ := List.append_of_mem hmem
  have hadmissible := h before entry after hsplit
  cases entry with
  | opened other => cases hentry
  | used other => cases hentry
  | closed other =>
    cases hentry
    rw [hsplit, openedIn_append]
    exact List.mem_append_left _ hadmissible.1

end LeaseEntry

open LeaseEntry

variable {κ ι : Type*}

/-- The live identifiers of a regular log are those that keys hold, each by one key. -/
structure Leases (holder : κ → Option ι) (log : List (LeaseEntry ι)) : Prop where
  regular : Regular log
  live_iff : ∀ id, Live log id ↔ ∃ key, holder key = some id
  unique : ∀ {key key' id}, holder key = some id → holder key' = some id → key = key'

namespace Leases

variable {holder : κ → Option ι} {log : List (LeaseEntry ι)} {key : κ} {id : ι}

/-- Nothing is leased at the start. -/
theorem empty : Leases (fun _ : κ => none) ([] : List (LeaseEntry ι)) where
  regular := regular_nil
  live_iff := by simp [Live, openedIn]
  unique := by simp

/-- A held identifier is live. -/
theorem live (h : Leases holder log) (hheld : holder key = some id) : Live log id :=
  (h.live_iff id).mpr ⟨key, hheld⟩

/-- A new identifier is given to a key without one. -/
theorem opened [DecidableEq κ] (h : Leases holder log) (hnew : id ∉ openedIn log)
    (hfree : holder key = none) :
    Leases (Function.update holder key (some id)) (log ++ [LeaseEntry.opened id]) := by
  have hother : ∀ {other held}, holder other = some held → other ≠ key := by
    rintro other held hheld rfl
    exact absurd (hheld.symm.trans hfree) (Option.some_ne_none held)
  have hneverClosed : id ∉ closedIn log := fun hclosed => hnew (h.regular.mem_openedIn hclosed)
  refine ⟨h.regular.snoc hnew, ?_, ?_⟩
  · intro live
    rw [Live, openedIn_opened, closedIn_opened, List.mem_append, List.mem_singleton]
    constructor
    · rintro ⟨hmem | rfl, hnotClosed⟩
      · obtain ⟨holding, hheld⟩ := (h.live_iff live).mp ⟨hmem, hnotClosed⟩
        exact ⟨holding, (Function.update_of_ne (hother hheld) _ _).trans hheld⟩
      · exact ⟨key, Function.update_self _ _ _⟩
    · rintro ⟨holding, hheld⟩
      by_cases hkey : holding = key
      · subst hkey
        rw [Function.update_self] at hheld
        cases hheld
        exact ⟨.inr rfl, hneverClosed⟩
      · rw [Function.update_of_ne hkey] at hheld
        have hlive := h.live hheld
        exact ⟨.inl hlive.1, hlive.2⟩
  · intro first second live hfirst hsecond
    -- The new identifier was never live, so it is not held under another key.
    have hnotHeld : ∀ {other}, holder other ≠ some id := fun hheld => hnew (h.live hheld).1
    by_cases hkey : first = key
    · subst hkey
      rw [Function.update_self] at hfirst
      cases hfirst
      by_contra hne
      rw [Function.update_of_ne (Ne.symm hne)] at hsecond
      exact hnotHeld hsecond
    · rw [Function.update_of_ne hkey] at hfirst
      by_cases hkey' : second = key
      · subst hkey'
        rw [Function.update_self] at hsecond
        cases hsecond
        exact absurd hfirst hnotHeld
      · rw [Function.update_of_ne hkey'] at hsecond
        exact h.unique hfirst hsecond

/-- A held identifier is used. -/
theorem used (h : Leases holder log) (hheld : holder key = some id) :
    Leases holder (log ++ [LeaseEntry.used id]) := by
  refine ⟨h.regular.snoc (h.live hheld), ?_, h.unique⟩
  intro live
  rw [Live, openedIn_used, closedIn_used]
  exact h.live_iff live

/-- A held identifier is used any number of times. -/
theorem usedAll (h : Leases holder log) (hheld : holder key = some id) {uses : List ι}
    (huses : ∀ use ∈ uses, use = id) : Leases holder (log ++ uses.map .used) := by
  induction uses generalizing log with
  | nil => simpa using h
  | cons use uses ih =>
    obtain ⟨rfl, hrest⟩ := List.forall_mem_cons.mp huses
    have hnext := ih (h.used hheld) hrest
    rwa [List.append_assoc] at hnext

/-- A key gives its identifier up. -/
theorem closed [DecidableEq κ] (h : Leases holder log) (hheld : holder key = some id) :
    Leases (Function.update holder key none) (log ++ [LeaseEntry.closed id]) := by
  refine ⟨h.regular.snoc (h.live hheld), ?_, ?_⟩
  · intro live
    rw [Live, openedIn_closed, closedIn_closed, List.mem_append, List.mem_singleton, not_or,
      ← and_assoc]
    constructor
    · rintro ⟨hlive, hne⟩
      obtain ⟨holding, hholding⟩ := (h.live_iff live).mp hlive
      refine ⟨holding, (Function.update_of_ne ?_ _ _).trans hholding⟩
      rintro rfl
      exact hne (Option.some.inj (hholding.symm.trans hheld))
    · rintro ⟨holding, hholding⟩
      by_cases hkey : holding = key
      · subst hkey
        rw [Function.update_self] at hholding
        cases hholding
      · rw [Function.update_of_ne hkey] at hholding
        refine ⟨h.live hholding, ?_⟩
        rintro rfl
        exact hkey (h.unique hholding hheld)
  · intro first second live hfirst hsecond
    have hkept : ∀ {other}, Function.update holder key none other = some live →
        holder other = some live := by
      intro other hother
      by_cases hkey : other = key
      · subst hkey
        rw [Function.update_self] at hother
        cases hother
      · rwa [Function.update_of_ne hkey] at hother
    exact h.unique (hkept hfirst) (hkept hsecond)

/-- Several keys give their identifiers up, one after the other. -/
theorem closedAll [DecidableEq κ] {α : Type*} {key : α → κ} {id : α → ι} {items : List α}
    (h : Leases holder log) (hkeys : (items.map key).Nodup)
    (hheld : ∀ item ∈ items, holder (key item) = some (id item)) :
    Leases (fun other => if other ∈ items.map key then none else holder other)
      (log ++ items.map fun item => .closed (id item)) := by
  induction items generalizing holder log with
  | nil => simpa using h
  | cons item items ih =>
    obtain ⟨hitem, hrest⟩ := List.forall_mem_cons.mp hheld
    rw [List.map_cons, List.nodup_cons] at hkeys
    have hnext := ih (h.closed hitem) hkeys.2 (by
      intro later hmem
      rw [Function.update_of_ne, hrest later hmem]
      rintro hsame
      exact hkeys.1 (hsame ▸ List.mem_map_of_mem hmem))
    rw [List.append_assoc] at hnext
    have hholder : (fun other => if other ∈ items.map key then none
        else Function.update holder (key item) none other) =
        fun other => if other ∈ (item :: items).map key then none else holder other := by
      funext other
      by_cases hother : other = key item
      · simp [hother]
      · simp [hother, Function.update_of_ne]
    rwa [hholder] at hnext

end Leases

end Library
