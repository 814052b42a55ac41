import Mathlib

/-!
# Bounded FIFO channels

A channel with many senders and one receiver: items are received in the order in
which their sends completed, and a send completes only while there is room.
-/

namespace Library

variable {α : Type*}

/-- A bounded channel and the items in flight, the oldest first. -/
structure Channel (α : Type*) where
  items : List α
  capacity : ℕ
  receiverOpen : Bool
  length_le : items.length ≤ capacity

/-- Why a send that does not wait fails. -/
inductive TrySendError where
  | full
  | closed
  deriving DecidableEq, Repr

namespace Channel

/-- An empty channel. -/
def new (capacity : ℕ) : Channel α where
  items := []
  capacity := capacity
  receiverOpen := true
  length_le := Nat.zero_le capacity

/-- Send without waiting. -/
def trySend (channel : Channel α) (item : α) : Except TrySendError (Channel α) :=
  if channel.receiverOpen then
    if h : channel.items.length < channel.capacity then
      .ok { channel with
        items := channel.items ++ [item]
        length_le := by
          rw [List.length_append, List.length_singleton]
          exact h }
    else .error .full
  else .error .closed

/-- Take the oldest item, if there is one. -/
def tryRecv (channel : Channel α) : Option (α × Channel α) :=
  match h : channel.items with
  | [] => none
  | item :: items =>
    some (item, { channel with
      items := items
      length_le := by
        have hle := channel.length_le
        rw [h, List.length_cons] at hle
        omega })

/-- A completed send appends its item. -/
theorem items_of_trySend {channel channel' : Channel α} {item : α}
    (h : channel.trySend item = .ok channel') : channel'.items = channel.items ++ [item] := by
  unfold trySend at h
  split at h
  · split at h
    · cases h
      rfl
    · cases h
  · cases h

/-- What has been sent can be told from the channel afterwards. -/
theorem trySend_inj {channel channel' : Channel α} {item other : α}
    (h : channel.trySend item = .ok channel') (h' : channel.trySend other = .ok channel') :
    item = other := by
  have hitems := (items_of_trySend h).symm.trans (items_of_trySend h')
  exact List.singleton_inj.mp (List.append_cancel_left hitems)

/-- A send changes the channel. -/
theorem trySend_ne_self {channel : Channel α} {item : α} :
    channel.trySend item ≠ .ok channel := by
  intro h
  have hlength := congrArg List.length (items_of_trySend h)
  rw [List.length_append, List.length_singleton] at hlength
  omega

/-- Sending does not close the channel. -/
theorem receiverOpen_of_trySend {channel channel' : Channel α} {item : α}
    (h : channel.trySend item = .ok channel') : channel'.receiverOpen = channel.receiverOpen := by
  unfold trySend at h
  split at h
  · split at h
    · cases h
      rfl
    · cases h
  · cases h

/-- A send on an open channel can only fail for lack of room. -/
theorem trySend_ne_closed {channel : Channel α} (hopen : channel.receiverOpen = true) (item : α) :
    channel.trySend item ≠ .error .closed := by
  unfold trySend
  rw [if_pos hopen]
  split <;> simp

/-- Receiving does not close the channel. -/
theorem receiverOpen_of_tryRecv {channel channel' : Channel α} {item : α}
    (h : channel.tryRecv = some (item, channel')) :
    channel'.receiverOpen = channel.receiverOpen := by
  unfold tryRecv at h
  split at h
  · cases h
  · cases h
    rfl

/-- A receive takes the oldest item. -/
theorem items_of_tryRecv {channel channel' : Channel α} {item : α}
    (h : channel.tryRecv = some (item, channel')) : channel.items = item :: channel'.items := by
  unfold tryRecv at h
  split at h
  · cases h
  · rename_i hitems
    cases h
    exact hitems

/-- Nothing is received only from an empty channel. -/
theorem tryRecv_eq_none {channel : Channel α} : channel.tryRecv = none ↔ channel.items = [] := by
  unfold tryRecv
  split <;> rename_i hitems
  · simp [hitems]
  · simp [hitems]

end Channel

end Library
