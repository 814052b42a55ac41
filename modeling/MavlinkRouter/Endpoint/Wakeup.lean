import MavlinkRouter.Endpoint.TxHistory
import MavlinkRouter.Library.Execution

/-!
# Waking the writer

The wait of `TxQueue::pop_or_wait` against concurrent pushes. A push and a round of the wait are
two steps each, and between them anything may happen; the wait may also be dropped by the
`select!` around it. The writer is the only one that waits on its queue's `Notify`.
-/

namespace MavlinkRouter

/-- A `Notify` with at most one waiter: the stored permit, and whether a registered waiter has been
notified. -/
structure Notify where
  permit : Bool
  waiter : Option Bool
  deriving DecidableEq, Repr

namespace Notify

def new : Notify := ⟨false, none⟩

/-- Notify the waiter; the permit is stored if nobody waits. -/
def notifyOne (notify : Notify) : Notify :=
  match notify.waiter with
  | some false => { notify with waiter := some true }
  | some true => { notify with permit := true }
  | none => { notify with permit := true }

/-- The first poll of a wait: it takes the permit or registers. -/
def poll (notify : Notify) : Bool × Notify :=
  if notify.permit then (true, { notify with permit := false })
  else (false, { notify with waiter := some false })

/-- The waiter goes away; a notification it has not taken is passed on. -/
def dropWaiter (notify : Notify) : Notify :=
  match notify.waiter with
  | some true => ⟨true, none⟩
  | some false => { notify with waiter := none }
  | none => notify

/-- A notification is stored or has not been taken yet. -/
def pending (notify : Notify) : Bool :=
  notify.permit || notify.waiter = some true

/-- A notification is taken or stays pending. -/
theorem pending_notifyOne (notify : Notify) : notify.notifyOne.pending = true := by
  obtain ⟨permit, waiter⟩ := notify
  cases waiter with
  | none => rfl
  | some notified => cases notified <;> simp [notifyOne, pending]

private theorem isSome_waiter_notifyOne (notify : Notify) :
    notify.notifyOne.waiter.isSome = notify.waiter.isSome := by
  obtain ⟨permit, waiter⟩ := notify
  cases waiter with
  | none => rfl
  | some notified => cases notified <;> rfl

private theorem waiter_dropWaiter (notify : Notify) : notify.dropWaiter.waiter = none := by
  obtain ⟨permit, waiter⟩ := notify
  cases waiter with
  | none => rfl
  | some notified => cases notified <;> rfl

end Notify

/-- Where the writer is: outside `pop_or_wait`, before its `pop`, between the `pop` that found
nothing and the wait, or waiting. -/
inductive WaitPoint where
  | outside
  | popping
  | polling
  | parked
  deriving DecidableEq, Repr

/-- A queue, its writer, and the pushes that have inserted their frame and not notified yet. -/
structure Wakeup where
  port : Port
  notify : Notify
  point : WaitPoint
  inFlight : ℕ

namespace Wakeup

def start (capacity : ℕ) : Wakeup where
  port := ⟨{}, .new capacity⟩
  notify := .new
  point := .outside
  inFlight := 0

/-- The atomic steps of the pushes and of the writer. -/
inductive Action where
  | forcePush (frame : Bytes)
  | notifyOne
  | popOrWait
  | pop
  | poll
  | wake
  | cancel
  | drainAndDiscard
  deriving DecidableEq, Repr

/-- One atomic step. -/
def step (state : Wakeup) : Action → Option Wakeup
  | .forcePush frame =>
    some { state with port := state.port.push frame, inFlight := state.inFlight + 1 }
  | .notifyOne =>
    match state.inFlight with
    | 0 => none
    | inFlight + 1 =>
      some { state with notify := state.notify.notifyOne, inFlight := inFlight }
  | .popOrWait =>
    match state.point with
    | .outside => some { state with point := .popping }
    | _ => none
  | .pop =>
    match state.point with
    | .popping =>
      match state.port.pop with
      | (some _, port) => some { state with port := port, point := .outside }
      | (none, port) => some { state with port := port, point := .polling }
    | _ => none
  | .poll =>
    match state.point with
    | .polling =>
      match state.notify.poll with
      | (true, notify) => some { state with notify := notify, point := .popping }
      | (false, notify) => some { state with notify := notify, point := .parked }
    | _ => none
  | .wake =>
    match state.point, state.notify.waiter with
    | .parked, some true =>
      some { state with notify := { state.notify with waiter := none }, point := .popping }
    | _, _ => none
  | .cancel => some { state with notify := state.notify.dropWaiter, point := .outside }
  | .drainAndDiscard =>
    match state.point with
    | .outside => some { state with port := state.port.drainAndDiscard.2 }
    | _ => none

/-- Once the writer has found the queue empty, a frame in it has a push that is still going to
notify or a notification that the writer has not taken. -/
structure Sound (state : Wakeup) : Prop where
  waiter : state.notify.waiter.isSome → state.point = .parked
  covered : state.point = .polling ∨ state.point = .parked → state.port.txQueue.frames ≠ [] →
    0 < state.inFlight ∨ state.notify.pending = true

variable {state after : Wakeup}

private theorem sound_start (capacity : ℕ) : Sound (start capacity) where
  waiter := fun h => nomatch h
  covered := by rintro (h | h) <;> cases h

/-- The writer has yet to look into the queue. -/
theorem Sound.of_away (hpoint : state.point = .outside ∨ state.point = .popping)
    (hwaiter : state.notify.waiter = none) : Sound state where
  waiter := by
    rw [hwaiter]
    exact fun h => nomatch h
  covered := by
    rcases hpoint with hpoint | hpoint <;> rw [hpoint] <;> rintro (h | h) <;> cases h

/-- Away from the wait nobody is registered. -/
theorem Sound.waiter_eq_none (h : Sound state) (hpoint : state.point ≠ .parked) :
    state.notify.waiter = none :=
  Option.not_isSome_iff_eq_none.mp fun hsome => hpoint (h.waiter hsome)

/-- The writer has looked into the queue. -/
theorem Sound.pop (h : Sound state) (hstep : state.step .pop = some after) : Sound after := by
  cases hpoint : state.point with
  | popping =>
    have hwaiter := h.waiter_eq_none (by rw [hpoint]; decide)
    cases hframe : state.port.txQueue.frames with
    | nil =>
      have hpop : state.port.pop = (none, state.port.pop.2) :=
        Prod.ext (congrArg List.head? hframe) rfl
      simp only [step, hpoint] at hstep
      rw [hpop] at hstep
      cases hstep
      refine ⟨?_, fun _ hne => absurd ?_ hne⟩
      · rw [hwaiter]
        exact fun hsome => nomatch hsome
      · exact congrArg List.tail hframe
    | cons frame rest =>
      have hpop : state.port.pop = (some frame, state.port.pop.2) :=
        Prod.ext (congrArg List.head? hframe) rfl
      simp only [step, hpoint] at hstep
      rw [hpop] at hstep
      cases hstep
      exact .of_away (.inl rfl) hwaiter
  | outside => simp [step, hpoint] at hstep
  | polling => simp [step, hpoint] at hstep
  | parked => simp [step, hpoint] at hstep

/-- The writer takes the permit, or it waits and no permit is left. -/
theorem Sound.poll (h : Sound state) (hstep : state.step .poll = some after) : Sound after := by
  cases hpoint : state.point with
  | polling =>
    have hwaiter := h.waiter_eq_none (by rw [hpoint]; decide)
    cases hpermit : state.notify.permit with
    | true =>
      simp only [step, hpoint, Notify.poll, hpermit, if_true] at hstep
      cases hstep
      exact .of_away (.inr rfl) hwaiter
    | false =>
      simp only [step, hpoint, Notify.poll, hpermit, Bool.false_eq_true, if_false] at hstep
      cases hstep
      refine ⟨fun _ => rfl, fun _ hne => ?_⟩
      rcases h.covered (.inl hpoint) hne with hflight | hpending
      · exact .inl hflight
      · simp [Notify.pending, hpermit, hwaiter] at hpending
  | outside => simp [step, hpoint] at hstep
  | popping => simp [step, hpoint] at hstep
  | parked => simp [step, hpoint] at hstep

/-- One atomic step. -/
theorem Sound.step (h : Sound state) {action : Action} (hstep : state.step action = some after) :
    Sound after := by
  cases action with
  | forcePush frame =>
    cases hstep
    exact ⟨h.waiter, fun _ _ => .inl (Nat.succ_pos _)⟩
  | notifyOne =>
    cases hflight : state.inFlight with
    | zero => simp [Wakeup.step, hflight] at hstep
    | succ inFlight =>
      simp only [Wakeup.step, hflight, Option.some.injEq] at hstep
      subst hstep
      refine ⟨?_, fun _ _ => .inr (Notify.pending_notifyOne _)⟩
      rw [Notify.isSome_waiter_notifyOne]
      exact h.waiter
  | popOrWait =>
    cases hpoint : state.point with
    | outside =>
      simp only [Wakeup.step, hpoint, Option.some.injEq] at hstep
      subst hstep
      exact .of_away (.inr rfl) (h.waiter_eq_none (by rw [hpoint]; decide))
    | popping => simp [Wakeup.step, hpoint] at hstep
    | polling => simp [Wakeup.step, hpoint] at hstep
    | parked => simp [Wakeup.step, hpoint] at hstep
  | pop => exact h.pop hstep
  | poll => exact h.poll hstep
  | wake =>
    simp only [Wakeup.step] at hstep
    split at hstep
    · cases hstep
      exact .of_away (.inr rfl) rfl
    · cases hstep
  | cancel =>
    cases hstep
    exact .of_away (.inl rfl) (Notify.waiter_dropWaiter _)
  | drainAndDiscard =>
    cases hpoint : state.point with
    | outside =>
      simp only [Wakeup.step, hpoint, Option.some.injEq] at hstep
      subst hstep
      exact .of_away (.inl rfl) (h.waiter_eq_none (by rw [hpoint]; decide))
    | popping => simp [Wakeup.step, hpoint] at hstep
    | polling => simp [Wakeup.step, hpoint] at hstep
    | parked => simp [Wakeup.step, hpoint] at hstep

/-- In every interleaving of the steps of any number of pushes with those of the writer, whose
wait may be dropped and started again at any time: whenever the writer waits, no notification is
pending and no push is between its two steps, the queue is empty. -/
theorem no_lost_wakeup {capacity : ℕ} {actions : List Action}
    (hrun : Library.execute Wakeup.step (start capacity) actions = some state)
    (hparked : state.point = .parked) (hpending : state.notify.pending = false)
    (hpushes : state.inFlight = 0) : state.port.txQueue.frames = [] := by
  have hsound : Sound state := Library.execute_invariant (sound_start capacity)
    (fun hbefore hstep => hbefore.step hstep) hrun
  by_contra hne
  rcases hsound.covered (.inr hparked) hne with hflight | hnotified
  · omega
  · rw [hpending] at hnotified
    cases hnotified

/-- A push between the writer's look into the queue and its wait, a wait that is dropped after it
has been notified, and the same wait again. -/
theorem no_lost_wakeup_select :
    let frame : Bytes := ⟨[1], ⟨0⟩, 0⟩
    let actions : List Action :=
      [.popOrWait, .pop, .forcePush frame, .poll, .notifyOne, .cancel, .popOrWait, .pop,
        .popOrWait, .pop, .poll, .pop, .poll]
    ∃ state, Library.execute Wakeup.step (start 1) actions = some state ∧
      state.point = .parked ∧ state.port.txQueue.frames = [] := by
  intro frame actions
  have hrun : (Library.execute Wakeup.step (start 1) actions).map
      (fun state => (state.point, state.notify.pending, state.inFlight)) =
      some (.parked, false, 0) := by decide +kernel
  obtain ⟨state, hstate, hfacts⟩ := Option.map_eq_some_iff.mp hrun
  obtain ⟨hparked, hfacts⟩ := Prod.mk.inj hfacts
  obtain ⟨hpending, hpushes⟩ := Prod.mk.inj hfacts
  exact ⟨state, hstate, hparked, no_lost_wakeup hstate hparked hpending hpushes⟩

end Wakeup

end MavlinkRouter
