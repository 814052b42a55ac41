import MavlinkRouter.Library.Lease

/-!
# Identifiers in custody

An allocator gives identifiers out. One that has been reserved is opened in a log or thrown
away; one that is open is held by somebody until it is closed in the log. While the log takes
entries, the identifiers held are exactly those that are open. Once it no longer does, what
its holders give up is lost.
-/

namespace Library

open LeaseEntry

variable {ι : Type*}

/-- The identifiers that are reserved and held, against the log of what was opened and closed.
Nothing `fresh` has left the allocator. -/
structure Custody (fresh : Set ι) (accepting : Bool) (log : List (LeaseEntry ι))
    (reserved held : List ι) : Prop where
  regular : Regular log
  once : (openedIn log ++ reserved).Nodup
  issued : ∀ id ∈ openedIn log ++ reserved, id ∉ fresh
  balance : ∃ lost, (accepting = true → lost = []) ∧
    (closedIn log ++ (held ++ lost)).Perm (openedIn log)

namespace Custody

variable {fresh fresh' : Set ι} {accepting : Bool} {log : List (LeaseEntry ι)}
  {reserved reserved' held held' : List ι} {id : ι}

/-- Nothing is held before the first entry. -/
theorem empty (fresh : Set ι) (accepting : Bool) : Custody fresh accepting [] [] [] where
  regular := regular_nil
  once := List.nodup_nil
  issued := List.forall_mem_nil _
  balance := ⟨[], fun _ => rfl, .refl _⟩

/-- The order of the books does not matter. -/
theorem perm (h : Custody fresh accepting log reserved held) (hreserved : reserved.Perm reserved')
    (hheld : held.Perm held') : Custody fresh accepting log reserved' held' where
  regular := h.regular
  once := (hreserved.append_left _).nodup_iff.mp h.once
  issued id hid := h.issued id ((hreserved.append_left _).mem_iff.mpr hid)
  balance := by
    obtain ⟨lost, hopen, hperm⟩ := h.balance
    exact ⟨lost, hopen, ((hheld.symm.append_right lost).append_left _).trans hperm⟩

/-- More may have left the allocator. -/
theorem mono (h : Custody fresh accepting log reserved held) (hless : fresh' ⊆ fresh) :
    Custody fresh' accepting log reserved held where
  regular := h.regular
  once := h.once
  issued id hid := fun hfresh => h.issued id hid (hless hfresh)
  balance := h.balance

/-- A log that stops taking entries. -/
theorem stop (h : Custody fresh accepting log reserved held) :
    Custody fresh false log reserved held where
  regular := h.regular
  once := h.once
  issued := h.issued
  balance := by
    obtain ⟨lost, -, hperm⟩ := h.balance
    exact ⟨lost, Bool.noConfusion, hperm⟩

/-- What is closed and what is held are different identifiers. -/
theorem nodup (h : Custody fresh accepting log reserved held) :
    (closedIn log ++ held).Nodup := by
  obtain ⟨lost, -, hperm⟩ := h.balance
  have hall := hperm.nodup_iff.mpr h.regular.nodup_openedIn
  rw [← List.append_assoc] at hall
  exact (List.nodup_append.mp hall).1

/-- Everything held is open. -/
theorem live (h : Custody fresh accepting log reserved held) (hid : id ∈ held) :
    Live log id := by
  obtain ⟨lost, -, hperm⟩ := h.balance
  refine ⟨hperm.mem_iff.mp ?_, fun hclosed => ?_⟩
  · exact List.mem_append_right _ (List.mem_append_left _ hid)
  · exact (List.nodup_append.mp h.nodup).2.2 id hclosed id hid rfl

/-- While the log takes entries, everything open is held. -/
theorem live_iff (h : Custody fresh true log reserved held) : Live log id ↔ id ∈ held := by
  refine ⟨fun hlive => ?_, h.live⟩
  obtain ⟨lost, hnone, hperm⟩ := h.balance
  rw [hnone rfl, List.append_nil] at hperm
  exact (List.mem_append.mp (hperm.mem_iff.mpr hlive.1)).resolve_left hlive.2

/-- An identifier that is opened in a log goes to its holder. -/
theorem balance_opened {opened closed lost : List ι} (h : (closed ++ (held ++ lost)).Perm opened)
    (id : ι) : (closed ++ (id :: held ++ lost)).Perm (opened ++ [id]) :=
  (List.perm_middle.trans (h.cons id)).trans (List.perm_append_singleton id opened).symm

/-- An identifier that a holder closes goes to the log. -/
theorem balance_closed {opened closed lost : List ι}
    (h : (closed ++ (id :: held ++ lost)).Perm opened) :
    (closed ++ [id] ++ (held ++ lost)).Perm opened := by
  rw [List.append_assoc]
  exact h

/-- A fresh identifier is reserved. -/
theorem reserve (h : Custody fresh accepting log reserved held) (hfresh : id ∈ fresh)
    (hless : fresh' ⊆ fresh) (hid : id ∉ fresh') :
    Custody fresh' accepting log (id :: reserved) held where
  regular := h.regular
  once := by
    refine List.nodup_middle.mpr (List.nodup_cons.mpr ⟨fun hmem => ?_, h.once⟩)
    exact h.issued id hmem hfresh
  issued other hother := by
    rcases List.mem_cons.mp (List.perm_middle.mem_iff.mp hother) with rfl | hold
    · exact hid
    · exact fun hother => h.issued other hold (hless hother)
  balance := h.balance

/-- A reserved identifier is opened and held from then on. -/
theorem opened (h : Custody fresh accepting log (id :: reserved) held) :
    Custody fresh accepting (log ++ [.opened id]) reserved (id :: held) where
  regular := by
    refine h.regular.snoc fun hmem => ?_
    exact (List.nodup_cons.mp (List.nodup_middle.mp h.once)).1 (List.mem_append_left _ hmem)
  once := by
    rw [openedIn_opened, List.append_assoc]
    exact h.once
  issued other hother := by
    rw [openedIn_opened, List.append_assoc] at hother
    exact h.issued other hother
  balance := by
    obtain ⟨lost, hopen, hperm⟩ := h.balance
    refine ⟨lost, hopen, ?_⟩
    rw [openedIn_opened, closedIn_opened]
    exact balance_opened hperm id

/-- A reserved identifier is thrown away. -/
theorem discard (h : Custody fresh accepting log (id :: reserved) held) :
    Custody fresh accepting log reserved held where
  regular := h.regular
  once := (List.nodup_cons.mp (List.nodup_middle.mp h.once)).2
  issued other hother :=
    h.issued other (List.perm_middle.mem_iff.mpr (List.mem_cons_of_mem _ hother))
  balance := h.balance

/-- A holder closes an identifier. -/
theorem closed (h : Custody fresh accepting log reserved (id :: held)) :
    Custody fresh accepting (log ++ [.closed id]) reserved held where
  regular := h.regular.snoc (h.live List.mem_cons_self)
  once := by
    rw [openedIn_closed]
    exact h.once
  issued other hother := by
    rw [openedIn_closed] at hother
    exact h.issued other hother
  balance := by
    obtain ⟨lost, hopen, hperm⟩ := h.balance
    refine ⟨lost, hopen, ?_⟩
    rw [openedIn_closed, closedIn_closed]
    exact balance_closed hperm

/-- A holder gives an identifier up and the log does not take it. -/
theorem abandon (h : Custody fresh false log reserved (id :: held)) :
    Custody fresh false log reserved held where
  regular := h.regular
  once := h.once
  issued := h.issued
  balance := by
    obtain ⟨lost, -, hperm⟩ := h.balance
    refine ⟨id :: lost, Bool.noConfusion, ?_⟩
    refine (List.Perm.append_left _ ?_).trans hperm
    exact List.perm_middle

end Custody

end Library
