import MavlinkRouter.Endpoint.StreamClient
import MavlinkRouter.Library.Channel

/-!
# The session loop

The loop of `run_session`, one poll at a time. In every round it polls the cancellation token,
then the read branch and then the transmit queue, and what it finds ready first it handles to
the end before the next round. While it forwards what it has read it may wait for room in the
router's frame channel, and while it writes a frame it waits for the transport.
-/

namespace MavlinkRouter

/-- What a task shares with the others: the channels to the router, the state of its endpoint
and the cancellation token. -/
structure Wiring where
  frames : Library.Channel RouterFrame
  events : Library.Channel EndpointEvent
  port : Port
  cancelled : Bool

namespace Wiring

def setFrames (wiring : Wiring) (frames : Library.Channel RouterFrame) : Wiring :=
  { wiring with frames := frames }

def setPort (wiring : Wiring) (port : Port) : Wiring :=
  { wiring with port := port }

def setStats (wiring : Wiring) (stats : EndpointStats) : Wiring :=
  wiring.setPort ⟨stats, wiring.port.txQueue⟩

/-- The number of frames that wait to be written. -/
def queued (wiring : Wiring) : ℕ :=
  wiring.port.txQueue.frames.length

end Wiring

/-- The ingress context of an endpoint, with the message table of its router. -/
structure SessionCtx where
  endpointId : EndpointId
  filters : Filters
  table : MsgTable

/-- The reader of an endpoint; `emitted` numbers the frames of its framer. -/
structure Intake where
  reader : Reader
  emitted : ℕ

namespace Intake

def new : Intake where
  reader := .new
  emitted := 0

def setPhase (intake : Intake) (phase : ReaderPhase) : Intake :=
  { intake with reader := intake.reader.setPhase phase }

/-- The task is in `forward_inbound_frames`. -/
def busy (intake : Intake) : Bool :=
  match intake.reader.phase with
  | .reading => false
  | .forwarding _ => true
  | .sending _ _ => true
  | .stopped => false

/-- Bytes arrive, and the frames in them are forwarded. -/
def receive (intake : Intake) (data : List UInt8) (now : Instant) : Intake :=
  { intake with
    reader := { intake.reader with
      framer := intake.reader.framer.extendFromSlice data
      phase := .forwarding now } }

/-- One step of `forward_inbound_frames`: a frame is taken from the framer, or it is sent as
soon as there is room in the channel. The loop ends early if the channel is closed. -/
def advance (ctx : SessionCtx) (intake : Intake) (wiring : Wiring) : Option (Intake × Wiring) :=
  match intake.reader.phase with
  | .reading => none
  | .forwarding _ =>
    (intake.reader.forward ctx.table ctx.filters ctx.endpointId intake.emitted
      wiring.port.stats).map fun result =>
        (⟨result.1, intake.emitted + result.2.2.toList.length⟩, wiring.setStats result.2.1)
  | .sending routerFrame now =>
    match wiring.frames.trySend routerFrame with
    | .ok frames => some (intake.setPhase (.forwarding now), wiring.setFrames frames)
    | .error .full => none
    | .error .closed => some (intake.setPhase .stopped, wiring)
  | .stopped => none

end Intake

/-- Where a session stands when it is not forwarding frames: before a poll of its branches,
past the poll of the cancellation token, past the poll of the read branch, in
`write_outbound_frame`, or at its end. -/
inductive SessionPhase where
  | selecting
  | reading
  | polled
  | writing (write : Write)
  | ended (outcome : SessionOutcome)

/-- What a read returns. -/
inductive ReadResult where
  | received (data : List UInt8) (now : Instant)
  | eof
  | failed
  deriving DecidableEq, Repr

structure SessionLoop where
  phase : SessionPhase
  intake : Intake

/-- A step of a session, with what its transport answers. -/
inductive SessionStep where
  | poll
  | pending
  | read (result : ReadResult)
  | forward
  | pop
  | wait
  | write (count : ℕ)
  | finish
  | fail
  deriving DecidableEq, Repr

namespace SessionLoop

def start : SessionLoop where
  phase := .selecting
  intake := .new

def setPhase (session : SessionLoop) (phase : SessionPhase) : SessionLoop :=
  { session with phase := phase }

/-- The session goes on with what it has read, unless the router is gone. -/
def forwarded (session : SessionLoop) (intake : Intake) : SessionLoop where
  phase :=
    match intake.reader.phase with
    | .reading => session.phase
    | .forwarding _ => session.phase
    | .sending _ _ => session.phase
    | .stopped => .ended .terminated
  intake := intake

/-- One step. A session that forwards frames does nothing else. In the poll that finds the
read branch pending, `pop_or_wait` may look into the queue several times. -/
def step (ctx : SessionCtx) (session : SessionLoop) (wiring : Wiring) :
    SessionStep → Option (SessionLoop × Wiring)
  | .forward =>
    (session.intake.advance ctx wiring).map fun result => (session.forwarded result.1, result.2)
  | .poll =>
    match session.intake.busy, session.phase with
    | false, .selecting =>
      some (session.setPhase (if wiring.cancelled then .ended .terminated else .reading), wiring)
    | _, _ => none
  | .pending =>
    match session.intake.busy, session.phase with
    | false, .reading => some (session.setPhase .polled, wiring)
    | _, _ => none
  | .read result =>
    match session.intake.busy, session.phase with
    | false, .reading =>
      match result with
      | .received data now => some (⟨.selecting, session.intake.receive data now⟩, wiring)
      | .eof => some (session.setPhase (.ended .disconnected), wiring)
      | .failed => some (session.setPhase (.ended .disconnected), wiring)
    | _, _ => none
  | .pop =>
    match session.intake.busy, session.phase with
    | false, .polled =>
      match wiring.port.txQueue.pop with
      | (some frame, txQueue) =>
        some (session.setPhase (.writing (.start frame)),
          wiring.setPort { wiring.port with txQueue := txQueue })
      | (none, _) => none
    | _, _ => none
  | .wait =>
    match session.intake.busy, session.phase with
    | false, .polled => some (session.setPhase .selecting, wiring)
    | _, _ => none
  | .write count =>
    match session.intake.busy, session.phase with
    | false, .writing write =>
      if 0 < count ∧ count ≤ write.rest.length then
        some (session.setPhase (.writing (write.advance count)), wiring)
      else none
    | _, _ => none
  | .finish =>
    match session.intake.busy, session.phase with
    | false, .writing write =>
      if write.rest = [] then
        some (session.setPhase .selecting,
          wiring.setStats (wiring.port.stats.addTxFrame write.frame.data.length))
      else none
    | _, _ => none
  | .fail =>
    match session.intake.busy, session.phase with
    | false, .writing _ => some (session.setPhase (.ended .disconnected), wiring)
    | _, _ => none

/-- While it forwards frames, a session is where it was, or it ends. -/
theorem phase_forwarded (session : SessionLoop) (intake : Intake) :
    (session.forwarded intake).phase = session.phase ∨
      (session.forwarded intake).phase = .ended .terminated := by
  unfold forwarded
  split
  · exact .inl rfl
  · exact .inl rfl
  · exact .inl rfl
  · exact .inr rfl

/-- Everything a step can do. -/
inductive Moves (ctx : SessionCtx) (session : SessionLoop) (wiring : Wiring) :
    SessionStep → SessionLoop → Wiring → Prop
  | forwarded {intake : Intake} {wiring' : Wiring}
      (hadvance : session.intake.advance ctx wiring = some (intake, wiring')) :
    Moves ctx session wiring .forward (session.forwarded intake) wiring'
  | stopped (hbusy : session.intake.busy = false) (hphase : session.phase = .selecting)
      (hcancelled : wiring.cancelled = true) :
    Moves ctx session wiring .poll (session.setPhase (.ended .terminated)) wiring
  | polledCancel (hbusy : session.intake.busy = false) (hphase : session.phase = .selecting)
      (hcancelled : wiring.cancelled = false) :
    Moves ctx session wiring .poll (session.setPhase .reading) wiring
  | polledRead (hbusy : session.intake.busy = false) (hphase : session.phase = .reading) :
    Moves ctx session wiring .pending (session.setPhase .polled) wiring
  | received (data : List UInt8) (now : Instant) (hbusy : session.intake.busy = false)
      (hphase : session.phase = .reading) :
    Moves ctx session wiring (.read (.received data now))
      ⟨.selecting, session.intake.receive data now⟩ wiring
  | disconnected {step : SessionStep} (hbusy : session.intake.busy = false)
      (hphase : session.phase = .reading ∨ ∃ write, session.phase = .writing write) :
    Moves ctx session wiring step (session.setPhase (.ended .disconnected)) wiring
  | popped {frame : Bytes} {txQueue : TxQueue} (hbusy : session.intake.busy = false)
      (hphase : session.phase = .polled) (hpop : wiring.port.txQueue.pop = (some frame, txQueue)) :
    Moves ctx session wiring .pop (session.setPhase (.writing (.start frame)))
      (wiring.setPort { wiring.port with txQueue := txQueue })
  | waited (hbusy : session.intake.busy = false) (hphase : session.phase = .polled) :
    Moves ctx session wiring .wait (session.setPhase .selecting) wiring
  | wrote (write : Write) (count : ℕ) (hbusy : session.intake.busy = false)
      (hphase : session.phase = .writing write) (hcount : 0 < count)
      (hle : count ≤ write.rest.length) :
    Moves ctx session wiring (.write count) (session.setPhase (.writing (write.advance count)))
      wiring
  | finished (write : Write) (hbusy : session.intake.busy = false)
      (hphase : session.phase = .writing write) (hrest : write.rest = []) :
    Moves ctx session wiring .finish (session.setPhase .selecting)
      (wiring.setStats (wiring.port.stats.addTxFrame write.frame.data.length))

/-- Every step is one of these. -/
theorem step_moves {ctx : SessionCtx} {session after : SessionLoop} {wiring wiring' : Wiring}
    {step : SessionStep} (h : session.step ctx wiring step = some (after, wiring')) :
    Moves ctx session wiring step after wiring' := by
  cases step with
  | forward =>
    obtain ⟨result, hadvance, hresult⟩ := Option.map_eq_some_iff.mp h
    cases hresult
    exact .forwarded hadvance
  | poll =>
    simp only [SessionLoop.step] at h
    split at h
    · rename_i hbusy hphase
      cases h
      cases hcancelled : wiring.cancelled with
      | true => exact .stopped hbusy hphase hcancelled
      | false => exact .polledCancel hbusy hphase hcancelled
    · cases h
  | pending =>
    simp only [SessionLoop.step] at h
    split at h
    · rename_i hbusy hphase
      cases h
      exact .polledRead hbusy hphase
    · cases h
  | read result =>
    simp only [SessionLoop.step] at h
    split at h
    · rename_i hbusy hphase
      cases result with
      | received data now =>
        cases h
        exact .received data now hbusy hphase
      | eof =>
        cases h
        exact .disconnected hbusy (.inl hphase)
      | failed =>
        cases h
        exact .disconnected hbusy (.inl hphase)
    · cases h
  | pop =>
    simp only [SessionLoop.step] at h
    split at h
    · rename_i hbusy hphase
      split at h
      · rename_i hpop
        cases h
        exact .popped hbusy hphase hpop
      · cases h
    · cases h
  | wait =>
    simp only [SessionLoop.step] at h
    split at h
    · rename_i hbusy hphase
      cases h
      exact .waited hbusy hphase
    · cases h
  | write count =>
    simp only [SessionLoop.step] at h
    split at h
    · rename_i write hbusy hphase
      obtain ⟨⟨hcount, hle⟩, hresult⟩ := Option.ite_none_right_eq_some.mp h
      cases hresult
      exact .wrote write count hbusy hphase hcount hle
    · cases h
  | finish =>
    simp only [SessionLoop.step] at h
    split at h
    · rename_i write hbusy hphase
      obtain ⟨hrest, hresult⟩ := Option.ite_none_right_eq_some.mp h
      cases hresult
      exact .finished write hbusy hphase hrest
    · cases h
  | fail =>
    simp only [SessionLoop.step] at h
    split at h
    · rename_i write hbusy hphase
      cases h
      exact .disconnected hbusy (.inr ⟨write, hphase⟩)
    · cases h

end SessionLoop

end MavlinkRouter
