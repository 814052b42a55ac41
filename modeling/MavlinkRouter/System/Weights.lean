import MavlinkRouter.System.Tasks

/-!
# How far the tasks are from their ends

Once the cancellation token has been cancelled, every step of a task brings it closer to its
end. The weight of a task bounds the turns it can still take, with the events it may still
send and the tasks it may still spawn; between two turns it has some work to do, which no turn
makes endless. And a task that cannot go on waits for the router or for its children.
-/

namespace MavlinkRouter

/-- A task leaves the channels open or closed as they are. -/
structure Wiring.Keeps (before after : Wiring) : Prop where
  frames : after.frames.receiverOpen = before.frames.receiverOpen
  events : after.events.receiverOpen = before.events.receiverOpen

namespace Intake

/-- The bytes that are still to be searched for frames, and the frame to be sent. -/
def work (intake : Intake) : ℕ :=
  match intake.reader.phase with
  | .reading => 0
  | .forwarding _ => 2 * intake.reader.framer.buf.length + 1
  | .sending _ _ => 2 * intake.reader.framer.buf.length + 2
  | .stopped => 0

private theorem busy_receive (intake : Intake) (data : List UInt8) (now : Instant) :
    (intake.receive data now).busy = true := rfl

/-- A round of the loop either ends it or takes bytes from the framer. -/
theorem work_forward {table : MsgTable} {filters : Filters} {id : EndpointId} {index count : ℕ}
    {reader after : Reader} {stats stats' : EndpointStats} {emitted : Option Bytes}
    (h : reader.forward table filters id index stats = some (after, stats', emitted)) :
    (⟨after, count⟩ : Intake).work < (⟨reader, index⟩ : Intake).work := by
  unfold Reader.forward at h
  split at h
  · rename_i now hphase
    have hwork : (⟨reader, index⟩ : Intake).work = 2 * reader.framer.buf.length + 1 := by
      rw [work, hphase]
    split at h
    · cases h
      rw [hwork]
      exact Nat.succ_pos _
    · rename_i header data framer hnext
      have hlength := Framer.tryNextFrame_some_length hnext
      dsimp only at h
      split at h
      · cases h
        rw [hwork]
        change 2 * framer.buf.length + 2 < 2 * reader.framer.buf.length + 1
        omega
      · cases h
        rw [hwork]
        simp only [work, hphase]
        omega
  · cases h
  · cases h
  · cases h

private theorem busy_of_advance {ctx : SessionCtx} {intake : Intake} {wiring : Wiring}
    {result : Intake × Wiring} (h : intake.advance ctx wiring = some result) :
    intake.busy = true := by
  cases hphase : intake.reader.phase with
  | reading => simp [advance, hphase] at h
  | forwarding now => simp [busy, hphase]
  | sending routerFrame now => simp [busy, hphase]
  | stopped => simp [advance, hphase] at h

/-- Forwarding frames comes to an end, and touches neither the queue nor the event channel. -/
theorem advance_lowers {ctx : SessionCtx} {intake after : Intake} {wiring wiring' : Wiring}
    (h : intake.advance ctx wiring = some (after, wiring')) :
    after.work < intake.work ∧ wiring'.queued = wiring.queued ∧
      wiring'.events = wiring.events ∧ wiring.Keeps wiring' := by
  unfold advance at h
  split at h
  · cases h
  · obtain ⟨result, hforward, hresult⟩ := Option.map_eq_some_iff.mp h
    cases hresult
    exact ⟨work_forward hforward, rfl, rfl, ⟨rfl, rfl⟩⟩
  · rename_i routerFrame now hphase
    have hwork : intake.work = 2 * intake.reader.framer.buf.length + 2 := by
      rw [work, hphase]
    split at h
    · rename_i frames hsend
      cases h
      refine ⟨?_, rfl, rfl, ⟨Library.Channel.receiverOpen_of_trySend hsend, rfl⟩⟩
      rw [hwork]
      exact Nat.lt_succ_self _
    · cases h
    · cases h
      refine ⟨?_, rfl, rfl, ⟨rfl, rfl⟩⟩
      rw [hwork]
      exact Nat.succ_pos _
  · cases h

/-- A busy reader can go on if the frame channel is closed. -/
theorem advance_isSome {intake : Intake} {wiring : Wiring} (hbusy : intake.busy = true)
    (hclosed : wiring.frames.receiverOpen = false) (ctx : SessionCtx) :
    (intake.advance ctx wiring).isSome = true := by
  cases hphase : intake.reader.phase with
  | reading => simp [busy, hphase] at hbusy
  | forwarding now =>
    simp only [advance, hphase, Reader.forward]
    split
    · rfl
    · split <;> rfl
  | sending routerFrame now => simp [advance, hphase, Library.Channel.trySend, hclosed]
  | stopped => simp [busy, hphase] at hbusy

end Intake

namespace SessionPhase

/-- How far a session is from its end once it has been cancelled. -/
def weight : SessionPhase → ℕ
  | .selecting => 1
  | .reading => 4
  | .polled => 3
  | .writing _ => 2
  | .ended _ => 0

/-- The bytes that are still to be written. -/
def work : SessionPhase → ℕ
  | .writing write => write.rest.length
  | _ => 0

end SessionPhase

namespace SessionLoop

def weight (session : SessionLoop) : ℕ :=
  session.phase.weight + session.intake.busy.toNat

def work (session : SessionLoop) : ℕ :=
  session.phase.work + session.intake.work

private theorem weight_start : start.weight = 1 := rfl

variable {ctx : SessionCtx} {session after : SessionLoop} {wiring wiring' : Wiring}
  {step : SessionStep}

/-- Forwarding frames brings a session closer to its end. -/
theorem forwarded_lowers {intake : Intake}
    (hadvance : session.intake.advance ctx wiring = some (intake, wiring')) :
    (session.forwarded intake).weight ≤ session.weight ∧
      (session.forwarded intake).work < session.work := by
  have hbusy := Intake.busy_of_advance hadvance
  have hwork := (Intake.advance_lowers hadvance).1
  have hle := Bool.toNat_le intake.busy
  unfold weight SessionLoop.work
  rw [hbusy]
  rcases session.phase_forwarded intake with hphase | hphase
  · rw [hphase]
    exact ⟨Nat.add_le_add_left hle _, Nat.add_lt_add_left hwork _⟩
  · rw [hphase]
    exact ⟨Nat.add_le_add (Nat.zero_le _) hle, Nat.add_lt_add_of_le_of_lt (Nat.zero_le _) hwork⟩

/-- Every step of a cancelled session brings it closer to its end. -/
theorem step_lowers (h : session.step ctx wiring step = some (after, wiring')) :
    wiring.Keeps wiring' ∧ wiring'.events = wiring.events ∧ wiring'.queued ≤ wiring.queued ∧
      (wiring.cancelled = true →
        after.weight < session.weight ∨
          after.weight ≤ session.weight ∧ after.work < session.work) := by
  cases step_moves h with
  | forwarded hadvance =>
    obtain ⟨-, hqueued, hevents, hkeeps⟩ := Intake.advance_lowers hadvance
    exact ⟨hkeeps, hevents, hqueued.le, fun _ => .inr (forwarded_lowers hadvance)⟩
  | stopped hbusy hphase hcancelled =>
    refine ⟨⟨rfl, rfl⟩, rfl, le_rfl, fun _ => .inl ?_⟩
    simp [weight, setPhase, hphase, SessionPhase.weight]
  | polledCancel hbusy hphase hcancelled =>
    refine ⟨⟨rfl, rfl⟩, rfl, le_rfl, fun hcancelled' => ?_⟩
    cases hcancelled.symm.trans hcancelled'
  | polledRead hbusy hphase =>
    refine ⟨⟨rfl, rfl⟩, rfl, le_rfl, fun _ => .inl ?_⟩
    simp [weight, setPhase, hphase, SessionPhase.weight]
  | received data now hbusy hphase =>
    refine ⟨⟨rfl, rfl⟩, rfl, le_rfl, fun _ => .inl ?_⟩
    simp [weight, hphase, hbusy, SessionPhase.weight, Intake.busy_receive]
  | disconnected hbusy hphase =>
    refine ⟨⟨rfl, rfl⟩, rfl, le_rfl, fun _ => .inl ?_⟩
    rcases hphase with hphase | ⟨write, hphase⟩ <;>
      simp [weight, setPhase, hphase, SessionPhase.weight]
  | popped hbusy hphase hpop =>
    refine ⟨⟨rfl, rfl⟩, rfl, ?_, fun _ => .inl ?_⟩
    · rw [Wiring.queued, Wiring.queued, Writer.frames_of_pop hpop]
      exact Nat.le_succ _
    · simp [weight, setPhase, hphase, SessionPhase.weight]
  | waited hbusy hphase =>
    refine ⟨⟨rfl, rfl⟩, rfl, le_rfl, fun _ => .inl ?_⟩
    simp [weight, setPhase, hphase, SessionPhase.weight]
  | wrote write count hbusy hphase hcount hle =>
    refine ⟨⟨rfl, rfl⟩, rfl, le_rfl, fun _ => .inr ⟨?_, ?_⟩⟩
    · simp [weight, setPhase, hphase, SessionPhase.weight]
    · simp only [work, setPhase, hphase, SessionPhase.work, Write.advance, List.length_drop]
      omega
  | finished write hbusy hphase hrest =>
    refine ⟨⟨rfl, rfl⟩, rfl, le_rfl, fun _ => .inl ?_⟩
    simp [weight, setPhase, hphase, SessionPhase.weight]

/-- A session that has not ended can go on if the frame channel is closed. -/
theorem exists_step (session : SessionLoop) (hclosed : wiring.frames.receiverOpen = false)
    (ctx : SessionCtx) :
    (∃ outcome, session.phase = .ended outcome) ∨
      ∃ step, (session.step ctx wiring step).isSome = true := by
  cases hbusy : session.intake.busy with
  | true =>
    refine .inr ⟨.forward, ?_⟩
    simp [SessionLoop.step, Intake.advance_isSome hbusy hclosed ctx]
  | false =>
    cases hphase : session.phase with
    | selecting => exact .inr ⟨.poll, by simp [SessionLoop.step, hbusy, hphase]⟩
    | reading => exact .inr ⟨.pending, by simp [SessionLoop.step, hbusy, hphase]⟩
    | polled => exact .inr ⟨.wait, by simp [SessionLoop.step, hbusy, hphase]⟩
    | writing write => exact .inr ⟨.fail, by simp [SessionLoop.step, hbusy, hphase]⟩
    | ended outcome => exact .inl ⟨outcome, rfl⟩

end SessionLoop

namespace StreamTask

def weight : StreamTask → ℕ
  | .checking => 4
  | .opening => 10
  | .resolving => 6
  | .dialing _ => 4
  | .connecting _ => 10
  | .backingOff => 5
  | .resuming _ => 9
  | .session running => 7 + running.weight
  | .clearing _ => 6
  | .reopening => 5
  | .finishing _ => 3
  | .returned => 0

def work : StreamTask → ℕ
  | .session running => running.work
  | _ => 0

end StreamTask

namespace TcpsChild

def weight : TcpsChild → ℕ
  | .session running => 4 + running.weight
  | .finishing _ _ => 3
  | .leaving _ => 2
  | .returned => 0

def work : TcpsChild → ℕ
  | .session running => running.work
  | _ => 0

end TcpsChild

/-- A new client weighs 5, and it is announced. -/
def TcpServerTask.weight : TcpServerTask → ℕ
  | .checking => 1
  | .binding => 4
  | .backingOff => 2
  | .selecting => 3
  | .polled => 11
  | .retrying => 4
  | .announcing _ _ => 10
  | .joining => 2
  | .returned => 0

def UdpClientPhase.weight : UdpClientPhase → ℕ
  | .resolving => 2
  | .checking => 1
  | .binding => 3
  | .backingOff => 2
  | .selecting => 2
  | .polled => 5
  | .sending _ => 4
  | .refreshing _ => 3
  | .finishing _ => 1
  | .returned => 0

def UdpClientTask.weight (task : UdpClientTask) : ℕ :=
  task.phase.weight + task.intake.busy.toNat

namespace UdpServerTask

/-- Every peer weighs 3, since its removal is announced. -/
def weight (task : UdpServerTask) : ℕ :=
  match task.phase with
  | .checking => 1
  | .binding => 3 * task.peers.length + 4
  | .backingOff => 2
  | .selecting => 3 * task.peers.length + 3
  | .polled => 3 * task.peers.length + 12
  | .retrying => 3 * task.peers.length + 4
  | .reaping _ => 3 * task.peers.length + 4
  | .removing _ _ => 3 * task.peers.length + 6
  | .admitting _ _ => 3 * task.peers.length + 11
  | .evicting _ _ _ => 3 * task.peers.length + 11
  | .handling _ => 3 * task.peers.length + 7
  | .stopping => 3 * task.peers.length + 2
  | .joining => 1
  | .returned => 0

def work (task : UdpServerTask) : ℕ :=
  match task.phase with
  | .reaping expired => expired.length
  | .handling peer => peer.intake.work
  | _ => 0

end UdpServerTask

def PeerWriterTask.weight : PeerWriterTask → ℕ
  | .selecting => 2
  | .polled => 4
  | .sending _ => 3
  | .finishing _ => 1
  | .returned => 0

namespace Control

/-- How far a task is from its end once the token has been cancelled. -/
def weight : Control → ℕ
  | .stream _ _ task => task.weight
  | .tcps _ task => task.weight
  | .tcpsChild _ _ task => task.weight
  | .udpc _ task => task.weight
  | .udps _ task => task.weight
  | .peerWriter _ task => task.weight

/-- What a task has to do before it turns to something new. -/
def work : Control → ℕ
  | .stream _ _ task => task.work
  | .tcps _ _ => 0
  | .tcpsChild _ _ task => task.work
  | .udpc _ task => task.intake.work
  | .udps _ task => task.work
  | .peerWriter _ _ => 0

end Control

/-- What is measured of a task of one kind. -/
structure Gauge (κ : Type) where
  weight : κ → ℕ
  work : κ → ℕ
  peer? : κ → Option EndpointId

/-- The sum of the weights of tasks. -/
def totalWeight (tasks : List Task) : ℕ :=
  (tasks.map fun task => task.control.weight).sum

namespace Turn

variable {κ μ : Type} {gauge : Gauge κ} {before after : κ} {wiring wiring' : Wiring}
  {turn : Turn κ}

/-- A step that turns to something new, with everything it has set off. -/
def Advances (gauge : Gauge κ) (before : κ) (wiring : Wiring) (turn : Turn κ) : Prop :=
  gauge.weight turn.control + totalWeight turn.spawned + turn.wiring.events.items.length <
    gauge.weight before + wiring.events.items.length

/-- A step that does a part of the work, or takes a frame from the queue. -/
structure Works (gauge : Gauge κ) (before : κ) (wiring : Wiring) (turn : Turn κ) : Prop where
  spawned : turn.spawned = []
  events : turn.wiring.events = wiring.events
  weight : gauge.weight turn.control ≤ gauge.weight before
  queued : turn.wiring.queued ≤ wiring.queued
  work : gauge.work turn.control + turn.wiring.queued < gauge.work before + wiring.queued
  peer : gauge.peer? turn.control = gauge.peer? before

/-- A step brings a cancelled task closer to its end. -/
structure Lowers (gauge : Gauge κ) (before : κ) (wiring : Wiring) (turn : Turn κ) : Prop where
  keeps : wiring.Keeps turn.wiring
  lowers : wiring.cancelled = true →
    turn.Advances gauge before wiring ∨ turn.Works gauge before wiring

/-- A task that turns to something lighter. -/
theorem Lowers.move (hkeeps : wiring.Keeps wiring') (hevents : wiring'.events = wiring.events)
    (hweight : wiring.cancelled = true → gauge.weight after < gauge.weight before) :
    Lowers gauge before wiring (.move after wiring') := by
  refine ⟨hkeeps, fun hcancelled => .inl ?_⟩
  have hlt := hweight hcancelled
  change gauge.weight after + 0 + wiring'.events.items.length < _
  rw [hevents]
  omega

/-- The end of a wait. -/
theorem Lowers.wait {elapsed : Bool} {onElapsed onCancel : κ}
    (h : Turn.wait wiring elapsed onElapsed onCancel = some turn)
    (helapsed : gauge.weight onElapsed < gauge.weight before)
    (hcancel : gauge.weight onCancel < gauge.weight before) :
    Lowers gauge before wiring turn := by
  unfold Turn.wait at h
  split at h
  · cases h
    exact .move ⟨rfl, rfl⟩ rfl fun _ => helapsed
  · obtain ⟨-, hresult⟩ := Option.ite_none_right_eq_some.mp h
    cases hresult
    exact .move ⟨rfl, rfl⟩ rfl fun _ => hcancel

/-- One round of draining the queue. -/
theorem Lowers.drain {count : ℕ} {again : ℕ → κ} {done : κ} {state : Option EndpointState}
    (hagain : ∀ count, gauge.weight (again count) = gauge.weight before ∧
      gauge.work (again count) ≤ gauge.work before ∧ gauge.peer? (again count) = gauge.peer? before)
    (hdone : gauge.weight done < gauge.weight before) :
    Lowers gauge before wiring (.drain wiring count again done state) := by
  unfold Turn.drain Wiring.drain Writer.drain
  cases hpop : wiring.port.txQueue.pop with
  | mk popped txQueue =>
    cases popped with
    | none =>
      cases state with
      | none => exact .move ⟨rfl, rfl⟩ rfl fun _ => hdone
      | some state => exact .move ⟨rfl, rfl⟩ rfl fun _ => hdone
    | some frame =>
      obtain ⟨hweight, hwork, hpeer⟩ := hagain (count + 1)
      have hqueued : wiring.queued = txQueue.frames.length + 1 := by
        rw [Wiring.queued, Writer.frames_of_pop hpop, List.length_cons]
      refine ⟨⟨rfl, rfl⟩, fun _ => .inr ⟨rfl, rfl, hweight.le, ?_, ?_, hpeer⟩⟩
      · change txQueue.frames.length ≤ _
        omega
      · change gauge.work (again (count + 1)) + txQueue.frames.length < _
        omega

/-- A step of a session. -/
theorem Lowers.session {ctx : SessionCtx} {session next : SessionLoop} {step : SessionStep}
    {embed : SessionLoop → κ} {base : ℕ}
    (hstep : session.step ctx wiring step = some (next, wiring'))
    (hweight : ∀ session, gauge.weight (embed session) = base + session.weight)
    (hwork : ∀ session, gauge.work (embed session) = session.work)
    (hpeer : ∀ session session', gauge.peer? (embed session) = gauge.peer? (embed session')) :
    Lowers gauge (embed session) wiring (.move (embed next) wiring') := by
  obtain ⟨hkeeps, hevents, hqueued, hlowers⟩ := SessionLoop.step_lowers hstep
  refine ⟨hkeeps, fun hcancelled => ?_⟩
  rcases hlowers hcancelled with hlt | ⟨hle, hlt⟩
  · refine (Lowers.move hkeeps hevents fun _ => ?_).lowers hcancelled
    rw [hweight, hweight]
    omega
  · refine .inr ⟨rfl, hevents, ?_, hqueued, ?_, hpeer next session⟩
    · change gauge.weight (embed next) ≤ _
      rw [hweight, hweight]
      omega
    · change gauge.work (embed next) + wiring'.queued < _
      rw [hwork, hwork]
      omega

/-- A sent event is one more item in the channel. -/
theorem sendEvent_cases {event : EndpointEvent} {sent : Bool}
    (h : wiring.sendEvent event = some (sent, wiring')) :
    wiring.Keeps wiring' ∧
      wiring'.events.items.length ≤ wiring.events.items.length + sent.toNat := by
  unfold Wiring.sendEvent at h
  split at h
  · rename_i events hsend
    cases h
    refine ⟨⟨rfl, Library.Channel.receiverOpen_of_trySend hsend⟩, ?_⟩
    rw [Library.Channel.items_of_trySend hsend, List.length_append]
    rfl
  · cases h
  · cases h
    exact ⟨⟨rfl, rfl⟩, le_rfl⟩

/-- On a closed channel a send fails at once. -/
theorem sendEvent_of_closed (hclosed : wiring.events.receiverOpen = false)
    (event : EndpointEvent) : wiring.sendEvent event = some (false, wiring) := by
  simp [Wiring.sendEvent, Library.Channel.trySend, hclosed]

/-- A task that has announced something. -/
theorem Lowers.announce {event : EndpointEvent} {sent : Bool}
    (h : wiring.sendEvent event = some (sent, wiring')) (hwiring : turn.wiring = wiring')
    (hweight : gauge.weight turn.control + totalWeight turn.spawned + sent.toNat <
      gauge.weight before) : Lowers gauge before wiring turn := by
  obtain ⟨hkeeps, hlength⟩ := sendEvent_cases h
  subst hwiring
  refine ⟨hkeeps, fun _ => .inl ?_⟩
  unfold Advances
  omega

end Turn

variable {env : TaskEnv} {ctx : SessionCtx} {wiring : Wiring} {step : TaskStep}

namespace StreamTask

def gauge : Gauge StreamTask :=
  ⟨weight, work, fun _ => none⟩

private theorem afterSession_lowers {kind : DialKind} {session : SessionLoop}
    (outcome : SessionOutcome) :
    (afterSession kind wiring outcome).Lowers gauge (.session session) wiring := by
  cases outcome with
  | terminated =>
    refine .move ⟨rfl, rfl⟩ rfl fun _ => ?_
    simp only [gauge, weight]
    omega
  | disconnected =>
    cases kind with
    | serial =>
      refine .move ⟨rfl, rfl⟩ rfl fun _ => ?_
      simp only [gauge, weight]
      omega
    | tcpc =>
      refine .move ⟨rfl, rfl⟩ rfl fun _ => ?_
      simp only [gauge, weight]
      omega

/-- Every step of a `serial:` or `tcpc:` task. -/
theorem step_lowers {kind : DialKind} {task : StreamTask} {turn : Turn StreamTask}
    (h : task.step kind ctx wiring step = some turn) : turn.Lowers gauge task wiring := by
  unfold StreamTask.step at h
  split at h
  case h_1 =>
    split at h
    · cases h
      exact .move ⟨rfl, rfl⟩ rfl fun _ => by simp [gauge, weight]
    · rename_i hcancelled
      split at h
      · cases h
        exact .move ⟨rfl, rfl⟩ rfl fun hcancelled' => absurd hcancelled' hcancelled
      · cases h
        exact .move ⟨rfl, rfl⟩ rfl fun hcancelled' => absurd hcancelled' hcancelled
  case h_2 =>
    cases h
    refine .move ⟨rfl, rfl⟩ rfl fun _ => ?_
    split <;> simp [gauge, weight]
  case h_3 =>
    cases h
    refine .move ⟨rfl, rfl⟩ rfl fun _ => ?_
    split <;> simp [gauge, weight]
  case h_4 =>
    cases h
    refine .move ⟨rfl, rfl⟩ rfl fun hcancelled => ?_
    simp [hcancelled, gauge, weight]
  case h_5 =>
    split at h
    · cases h
      exact .move ⟨rfl, rfl⟩ rfl fun _ => by simp [gauge, weight]
    · cases h
      refine .move ⟨rfl, rfl⟩ rfl fun _ => ?_
      split <;> simp [gauge, weight]
  case h_6 =>
    cases h
    exact .move ⟨rfl, rfl⟩ rfl fun _ => by simp [gauge, weight]
  case h_7 => exact .wait h (by simp [gauge, weight]) (by simp [gauge, weight])
  case h_8 =>
    cases h
    exact .drain (fun _ => ⟨rfl, le_rfl, rfl⟩) (by simp [gauge, weight, SessionLoop.weight_start])
  case h_9 =>
    obtain ⟨result, hstep, hresult⟩ := Option.map_eq_some_iff.mp h
    cases hresult
    exact .session hstep (fun _ => rfl) (fun _ => rfl) fun _ _ => rfl
  case h_10 =>
    split at h
    · cases h
      exact afterSession_lowers _
    · cases h
  case h_11 =>
    cases h
    exact .drain (fun _ => ⟨rfl, le_rfl, rfl⟩) (by simp [gauge, weight])
  case h_12 => exact .wait h (by simp [gauge, weight]) (by simp [gauge, weight])
  case h_13 =>
    cases h
    exact .drain (fun _ => ⟨rfl, le_rfl, rfl⟩) (by simp [gauge, weight])
  case h_14 => cases h

/-- A task that has not returned can go on if the router's channels are closed. -/
theorem exists_step {kind : DialKind} {task : StreamTask}
    (hframes : wiring.frames.receiverOpen = false) (hrunning : task ≠ .returned) :
    ∃ step, (task.step kind ctx wiring step).isSome = true := by
  cases task with
  | checking =>
    refine ⟨.check, ?_⟩
    cases hcancelled : wiring.cancelled <;> cases kind <;> simp [StreamTask.step, hcancelled]
  | opening => exact ⟨.bind true, rfl⟩
  | resolving => exact ⟨.resolve 0, rfl⟩
  | dialing left => exact ⟨.poll, rfl⟩
  | connecting left => exact ⟨.idle, rfl⟩
  | backingOff => exact ⟨.wait true, rfl⟩
  | resuming count => exact ⟨.drain, rfl⟩
  | session running =>
    rcases running.exists_step hframes ctx with ⟨outcome, hended⟩ | ⟨step, hstep⟩
    · exact ⟨.leave, by simp [StreamTask.step, hended]⟩
    · exact ⟨.session step, by simp [StreamTask.step, hstep]⟩
  | clearing count => exact ⟨.drain, rfl⟩
  | reopening => exact ⟨.wait true, rfl⟩
  | finishing count => exact ⟨.drain, rfl⟩
  | returned => exact absurd rfl hrunning

end StreamTask

namespace TcpsChild

def gauge : Gauge TcpsChild :=
  ⟨weight, work, fun _ => none⟩

/-- Every step of the task of a client. -/
theorem step_lowers {parentId : EndpointId} {task : TcpsChild} {turn : Turn TcpsChild}
    (h : task.step parentId ctx wiring step = some turn) : turn.Lowers gauge task wiring := by
  unfold TcpsChild.step at h
  split at h
  case h_1 =>
    obtain ⟨result, hstep, hresult⟩ := Option.map_eq_some_iff.mp h
    cases hresult
    exact .session hstep (fun _ => rfl) (fun _ => rfl) fun _ _ => rfl
  case h_2 =>
    split at h
    · cases h
      refine .move ⟨rfl, rfl⟩ rfl fun _ => ?_
      simp only [gauge, weight]
      omega
    · cases h
  case h_3 =>
    cases h
    exact .drain (fun _ => ⟨rfl, le_rfl, rfl⟩) (by simp [gauge, weight])
  case h_4 =>
    obtain ⟨⟨sent, wiring'⟩, hsend, hresult⟩ := Option.map_eq_some_iff.mp h
    cases hresult
    exact .announce hsend rfl (by cases sent <;> simp [gauge, weight, totalWeight, Turn.move])
  case h_5 => cases h

/-- A task that has not returned can go on if the router's channels are closed. -/
theorem exists_step {parentId : EndpointId} {task : TcpsChild}
    (hframes : wiring.frames.receiverOpen = false) (hevents : wiring.events.receiverOpen = false)
    (hrunning : task ≠ .returned) :
    ∃ step, (task.step parentId ctx wiring step).isSome = true := by
  cases task with
  | session running =>
    rcases running.exists_step hframes ctx with ⟨outcome, hended⟩ | ⟨step, hstep⟩
    · exact ⟨.leave, by simp [TcpsChild.step, hended]⟩
    · exact ⟨.session step, by simp [TcpsChild.step, hstep]⟩
  | finishing outcome count => exact ⟨.drain, rfl⟩
  | leaving outcome =>
    exact ⟨.announce, by simp [TcpsChild.step, Turn.sendEvent_of_closed hevents]⟩
  | returned => exact absurd rfl hrunning

end TcpsChild

namespace TcpServerTask

def gauge : Gauge TcpServerTask :=
  ⟨weight, fun _ => 0, fun _ => none⟩

/-- Every step of a `tcps:` task. -/
theorem step_lowers {spec : TcpServerSpec} {task : TcpServerTask} {turn : Turn TcpServerTask}
    (h : task.step env spec wiring step = some turn) : turn.Lowers gauge task wiring := by
  unfold TcpServerTask.step at h
  split at h
  case h_1 =>
    cases h
    exact .move ⟨rfl, rfl⟩ rfl fun hcancelled => by simp [hcancelled, gauge, weight]
  case h_2 =>
    split at h
    · cases h
      exact .move ⟨rfl, rfl⟩ rfl fun _ => by decide
    · cases h
      exact .move ⟨rfl, rfl⟩ rfl fun _ => by decide
  case h_3 => exact .wait h (by decide) (by decide)
  case h_4 =>
    cases h
    exact .move ⟨rfl, rfl⟩ rfl fun hcancelled => by simp [hcancelled, gauge, weight]
  case h_5 =>
    cases h
    exact .move ⟨rfl, rfl⟩ rfl fun _ => by decide
  case h_6 =>
    cases h
    exact .move ⟨rfl, rfl⟩ rfl fun _ => by decide
  case h_7 =>
    cases h
    refine ⟨⟨rfl, rfl⟩, fun _ => .inl ?_⟩
    exact Nat.add_lt_add_right (show 10 < 11 by decide) wiring.events.items.length
  case h_8 => exact .wait h (by decide) (by decide)
  case h_9 =>
    obtain ⟨⟨sent, wiring'⟩, hsend, hresult⟩ := Option.map_eq_some_iff.mp h
    cases hresult
    refine .announce hsend rfl ?_
    cases sent <;>
      simp [gauge, weight, totalWeight, Turn.move, child, Control.weight, TcpsChild.weight,
        SessionLoop.weight_start]
  case h_10 =>
    obtain ⟨-, hresult⟩ := Option.ite_none_right_eq_some.mp h
    cases hresult
    exact .move ⟨rfl, rfl⟩ rfl fun _ => by decide
  case h_11 => cases h

/-- A task that has not returned can go on if the router's channels are closed and it does not
wait for its children. -/
theorem exists_step {spec : TcpServerSpec} {task : TcpServerTask}
    (hevents : wiring.events.receiverOpen = false) (hrunning : task ≠ .returned)
    (hjoined : task = .joining → env.joined = true) :
    ∃ step, (task.step env spec wiring step).isSome = true := by
  cases task with
  | checking => exact ⟨.check, rfl⟩
  | binding => exact ⟨.bind true, rfl⟩
  | backingOff => exact ⟨.wait true, rfl⟩
  | selecting => exact ⟨.poll, rfl⟩
  | polled => exact ⟨.idle, rfl⟩
  | retrying => exact ⟨.wait true, rfl⟩
  | announcing childId peerAddr =>
    exact ⟨.announce, by simp [TcpServerTask.step, Turn.sendEvent_of_closed hevents]⟩
  | joining => exact ⟨.join, by simp [TcpServerTask.step, hjoined rfl]⟩
  | returned => exact absurd rfl hrunning

end TcpServerTask

namespace UdpClientTask

def gauge : Gauge UdpClientTask :=
  ⟨weight, fun task => task.intake.work, fun _ => none⟩

/-- A change of phase. -/
theorem setPhase_lowers {task : UdpClientTask} {phase : UdpClientPhase} {wiring wiring' : Wiring}
    (hkeeps : wiring.Keeps wiring') (hevents : wiring'.events = wiring.events)
    (hweight : wiring.cancelled = true → phase.weight < task.phase.weight) :
    (Turn.move (task.setPhase phase) wiring').Lowers gauge task wiring :=
  .move hkeeps hevents fun hcancelled => Nat.add_lt_add_right (hweight hcancelled) _

/-- Every step of a `udpc:` task that is not forwarding frames. -/
theorem turn_lowers {task : UdpClientTask} {turn : Turn UdpClientTask}
    (hbusy : task.intake.busy = false) (h : task.turn wiring task.phase step = some turn) :
    turn.Lowers gauge task wiring := by
  obtain ⟨phase, intake⟩ := task
  dsimp only at h hbusy
  unfold UdpClientTask.turn at h
  split at h
  case h_1 =>
    cases h
    exact setPhase_lowers ⟨rfl, rfl⟩ rfl fun _ => by simp [UdpClientPhase.weight]
  case h_2 =>
    cases h
    refine setPhase_lowers ⟨rfl, rfl⟩ rfl fun hcancelled => ?_
    simp [hcancelled, UdpClientPhase.weight]
  case h_3 =>
    split at h
    · cases h
      exact setPhase_lowers ⟨rfl, rfl⟩ rfl fun _ => by simp [UdpClientPhase.weight]
    · cases h
      exact setPhase_lowers ⟨rfl, rfl⟩ rfl fun _ => by simp [UdpClientPhase.weight]
  case h_4 =>
    exact .wait h (by simp [gauge, weight, setPhase, UdpClientPhase.weight])
      (by simp [gauge, weight, setPhase, UdpClientPhase.weight])
  case h_5 =>
    cases h
    refine setPhase_lowers ⟨rfl, rfl⟩ rfl fun hcancelled => ?_
    simp [hcancelled, UdpClientPhase.weight]
  case h_6 =>
    cases h
    exact setPhase_lowers ⟨rfl, rfl⟩ rfl fun _ => by simp [UdpClientPhase.weight]
  case h_7 =>
    cases h
    exact setPhase_lowers ⟨rfl, rfl⟩ rfl fun _ => by simp [UdpClientPhase.weight]
  case h_8 =>
    cases h
    exact setPhase_lowers ⟨rfl, rfl⟩ rfl fun _ => by simp [UdpClientPhase.weight]
  case h_9 =>
    cases h
    refine .move ⟨rfl, rfl⟩ rfl fun _ => ?_
    simp [gauge, weight, hbusy, Intake.busy_receive, UdpClientPhase.weight]
  case h_10 =>
    split at h
    · cases h
      exact setPhase_lowers ⟨rfl, rfl⟩ rfl fun _ => by simp [UdpClientPhase.weight]
    · cases h
  case h_11 =>
    split at h
    · cases h
      exact setPhase_lowers ⟨rfl, rfl⟩ rfl fun _ => by simp [UdpClientPhase.weight]
    · cases h
      exact setPhase_lowers ⟨rfl, rfl⟩ rfl fun _ => by simp [UdpClientPhase.weight]
  case h_12 =>
    cases h
    refine setPhase_lowers ?_ ?_ fun _ => by simp [UdpClientPhase.weight]
    · split <;> exact ⟨rfl, rfl⟩
    · split <;> rfl
  case h_13 =>
    rename_i state _
    cases h
    cases state with
    | none => exact setPhase_lowers ⟨rfl, rfl⟩ rfl fun _ => by simp [UdpClientPhase.weight]
    | some state => exact setPhase_lowers ⟨rfl, rfl⟩ rfl fun _ => by simp [UdpClientPhase.weight]
  case h_14 =>
    cases h
    exact setPhase_lowers ⟨rfl, rfl⟩ rfl fun _ => by simp [UdpClientPhase.weight]
  case h_15 =>
    cases h
    exact .drain (fun _ => ⟨rfl, le_rfl, rfl⟩)
      (by simp [gauge, weight, setPhase, UdpClientPhase.weight])
  case h_16 => cases h

/-- What stays in the framer is no work. -/
theorem work_forwarded (task : UdpClientTask) (intake : Intake) :
    (task.forwarded intake).intake.work ≤ intake.work := by
  unfold forwarded
  dsimp only
  split
  · exact le_rfl
  · exact le_rfl
  · exact le_rfl
  · exact Nat.zero_le _

/-- Every step of a `udpc:` task. -/
theorem step_lowers {task : UdpClientTask} {turn : Turn UdpClientTask}
    (h : task.step ctx wiring step = some turn) :
    turn.Lowers gauge task wiring := by
  unfold UdpClientTask.step at h
  split at h
  · rename_i hbusy
    split at h
    · obtain ⟨⟨intake, wiring'⟩, hadvance, hresult⟩ := Option.map_eq_some_iff.mp h
      cases hresult
      obtain ⟨hwork, hqueued, hevents, hkeeps⟩ := Intake.advance_lowers hadvance
      have hrest : (task.forwarded intake).intake.work ≤ intake.work := work_forwarded task intake
      refine ⟨hkeeps, fun _ => .inr ⟨rfl, hevents, ?_, hqueued.le, ?_, rfl⟩⟩
      · change task.phase.weight + (task.forwarded intake).intake.busy.toNat ≤
          task.phase.weight + task.intake.busy.toNat
        rw [hbusy]
        exact Nat.add_le_add_left (Bool.toNat_le _) _
      · change (task.forwarded intake).intake.work + wiring'.queued < task.intake.work + _
        omega
    · cases h
  · rename_i hbusy
    exact turn_lowers (Bool.eq_false_of_not_eq_true hbusy) h

/-- A task that has not returned can go on if the router's channels are closed. -/
theorem exists_step {task : UdpClientTask} (hframes : wiring.frames.receiverOpen = false)
    (hrunning : task.phase = .returned → task.intake.busy = true) :
    ∃ step, (task.step ctx wiring step).isSome = true := by
  cases hbusy : task.intake.busy with
  | true =>
    refine ⟨.forward, ?_⟩
    simp [UdpClientTask.step, hbusy, Intake.advance_isSome hbusy hframes ctx]
  | false =>
    suffices h : ∃ step, (task.turn wiring task.phase step).isSome = true by
      obtain ⟨step, hstep⟩ := h
      exact ⟨step, by simpa [UdpClientTask.step, hbusy] using hstep⟩
    cases hphase : task.phase with
    | resolving => exact ⟨.resolve 0, rfl⟩
    | checking => exact ⟨.check, rfl⟩
    | binding => exact ⟨.bind true, rfl⟩
    | backingOff => exact ⟨.wait true, rfl⟩
    | selecting => exact ⟨.poll, rfl⟩
    | polled => exact ⟨.idle, rfl⟩
    | sending frame => exact ⟨.sent true, rfl⟩
    | refreshing state => exact ⟨.resolve 0, rfl⟩
    | finishing count => exact ⟨.drain, rfl⟩
    | returned => cases hbusy.symm.trans (hrunning hphase)

end UdpClientTask

namespace UdpServerTask

def gauge : Gauge UdpServerTask :=
  ⟨weight, work, fun task =>
    match task.phase with
    | .handling peer => some peer.childId
    | _ => none⟩

/-- A peer that is found is taken out of the table. -/
theorem length_without {task : UdpServerTask} {src : SocketAddr} {peer : Peer}
    (h : task.peer? src = some peer) : (task.without src).length < task.peers.length := by
  have hmem := List.mem_of_find?_eq_some h
  have hsrc := List.find?_some h
  refine List.length_filter_lt_length_iff_exists.mpr ⟨peer, hmem, ?_⟩
  simpa using hsrc

/-- The peer that is given up is one of the table. -/
theorem length_without_argmin {task : UdpServerTask} {visit : Library.Traversal Peer}
    {victim : Peer} (h : victim ∈ (visit.order task.peers).argmin Peer.lastSeen) :
    (task.without victim.src).length < task.peers.length := by
  have hmem := (visit.perm task.peers).mem_iff.mp (List.argmin_mem h)
  exact List.length_filter_lt_length_iff_exists.mpr ⟨victim, hmem, by simp⟩

/-- A new peer and its writer. -/
theorem weight_enroll (spec : UdpServerSpec) (childId : EndpointId) (datagram : Datagram)
    (wiring : Wiring) (task : UdpServerTask) :
    gauge.weight (task.enroll spec childId datagram wiring).control +
      totalWeight (task.enroll spec childId datagram wiring).spawned =
        3 * task.peers.length + 9 := rfl

/-- Making room makes the task lighter than the new peer makes it heavier. -/
theorem admitNewPeer_cases (spec : UdpServerSpec) (visit : Library.Traversal Peer)
    (childId : EndpointId) (datagram : Datagram) (wiring : Wiring) (task : UdpServerTask) :
    let turn := task.admitNewPeer spec visit childId datagram wiring
    turn.wiring = wiring ∧
      gauge.weight turn.control + totalWeight turn.spawned ≤ 3 * task.peers.length + 9 := by
  dsimp only
  unfold admitNewPeer
  split
  · split
    · exact ⟨rfl, (weight_enroll spec childId datagram wiring task).le⟩
    · rename_i victim hvictim
      have hlength := length_without_argmin hvictim
      refine ⟨rfl, ?_⟩
      change 3 * (task.without victim.src).length + 11 + 0 ≤ _
      omega
  · exact ⟨rfl, (weight_enroll spec childId datagram wiring task).le⟩

section Peers

variable (env : TaskEnv) (spec : UdpServerSpec) {task : UdpServerTask}
  {turn : Turn UdpServerTask} {visit : Library.Traversal Peer}

/-- A datagram takes its peer out of the table, or an id for a new one. -/
theorem receive_lowers {datagram : Datagram} (hphase : task.phase = .polled)
    (h : task.step env spec wiring .polled (.receive (some datagram)) = some turn) :
    turn.Lowers gauge task wiring := by
  simp only [step] at h
  split at h
  · rename_i peer hpeer
    cases h
    have hlength := length_without hpeer
    refine .move ⟨rfl, rfl⟩ rfl fun _ => ?_
    simp only [gauge, weight, hphase]
    omega
  · cases h
    refine ⟨⟨rfl, rfl⟩, fun _ => .inl ?_⟩
    simp [Turn.Advances, Turn.move, gauge, weight, setPhase, totalWeight, hphase]

/-- A silent peer leaves the table; an address that is not in it is skipped. -/
theorem remove_lowers {src : SocketAddr} {expired : List SocketAddr}
    (hphase : task.phase = .reaping (src :: expired))
    (h : task.step env spec wiring (.reaping (src :: expired)) .remove = some turn) :
    turn.Lowers gauge task wiring := by
  simp only [step] at h
  split at h
  · rename_i peer hpeer
    cases h
    have hlength := length_without hpeer
    refine ⟨⟨rfl, rfl⟩, fun _ => .inl ?_⟩
    simp only [Turn.Advances, Turn.move, gauge, weight, hphase, totalWeight, List.map_nil,
      List.sum_nil]
    omega
  · cases h
    refine ⟨⟨rfl, rfl⟩, fun _ => .inr ⟨rfl, rfl, ?_, le_rfl, ?_, ?_⟩⟩
    · simp [Turn.move, gauge, weight, setPhase, hphase]
    · simp [Turn.move, gauge, work, setPhase, hphase]
    · simp [Turn.move, gauge, setPhase, hphase]

/-- A new peer is enrolled once the router knows of it; the task of a router that is gone drops
the datagram. -/
theorem admitting_lowers {childId : EndpointId} {datagram : Datagram}
    (hphase : task.phase = .admitting childId datagram)
    (h : task.step env spec wiring (.admitting childId datagram) (.visit visit) = some turn) :
    turn.Lowers gauge task wiring := by
  obtain ⟨⟨sent, wiring'⟩, hsend, hresult⟩ := Option.map_eq_some_iff.mp h
  cases hresult
  cases sent with
  | true =>
    obtain ⟨hwiring, hweight⟩ := admitNewPeer_cases spec visit childId datagram wiring' task
    refine .announce hsend hwiring (Nat.lt_of_le_of_lt (Nat.add_le_add_right hweight _) ?_)
    simp [gauge, weight, hphase]
  | false =>
    refine .announce hsend rfl ?_
    simp [Turn.move, gauge, weight, setPhase, totalWeight, hphase]

/-- A stopping task tells the router of every peer it leaves. -/
theorem dismiss_lowers (hphase : task.phase = .stopping)
    (h : task.step env spec wiring .stopping (.visit visit) = some turn) :
    turn.Lowers gauge task wiring := by
  simp only [step] at h
  split at h
  · cases h
  · rename_i peer rest hpeers
    obtain ⟨⟨sent, wiring'⟩, hsend, hresult⟩ := Option.map_eq_some_iff.mp h
    cases hresult
    refine .announce hsend rfl ?_
    have hle := Bool.toNat_le sent
    have hlength := (visit.perm task.peers).length_eq
    simp only [Turn.move, gauge, weight, hphase, totalWeight, List.map_nil, List.sum_nil]
    simp only [hpeers, List.length_cons] at hlength
    omega

end Peers

/-- Every step of a `udps:` task. -/
theorem step_lowers {spec : UdpServerSpec} {task : UdpServerTask} {turn : Turn UdpServerTask}
    (h : task.step env spec wiring task.phase step = some turn) :
    turn.Lowers gauge task wiring := by
  -- One case for each line of the definition, in its order.
  obtain ⟨peers, phase⟩ := task
  dsimp only at h
  unfold UdpServerTask.step at h
  split at h
  case h_1 =>
    cases h
    refine .move ⟨rfl, rfl⟩ rfl fun hcancelled => ?_
    simp [hcancelled, gauge, weight, setPhase]
  case h_2 =>
    split at h
    · cases h
      exact .move ⟨rfl, rfl⟩ rfl fun _ => by simp [gauge, weight, setPhase]
    · cases h
      exact .move ⟨rfl, rfl⟩ rfl fun _ => by simp [gauge, weight, setPhase]
  case h_3 =>
    exact .wait h (by simp [gauge, weight, setPhase]) (by simp [gauge, weight, setPhase])
  case h_4 =>
    cases h
    refine .move ⟨rfl, rfl⟩ rfl fun hcancelled => ?_
    simp [hcancelled, gauge, weight, setPhase]
  case h_5 =>
    cases h
    exact .move ⟨rfl, rfl⟩ rfl fun _ => by simp [gauge, weight, setPhase]
  case h_6 =>
    cases h
    exact .move ⟨rfl, rfl⟩ rfl fun _ => by simp [gauge, weight, setPhase]
  case h_7 =>
    cases h
    exact .move ⟨rfl, rfl⟩ rfl fun _ => by simp [gauge, weight, setPhase]
  case h_8 => exact receive_lowers env spec rfl h
  case h_9 =>
    exact .wait h (by simp [gauge, weight, setPhase]) (by simp [gauge, weight, setPhase])
  case h_10 =>
    cases h
    exact .move ⟨rfl, rfl⟩ rfl fun _ => by simp [gauge, weight, setPhase]
  case h_11 => exact remove_lowers env spec rfl h
  case h_12 =>
    obtain ⟨⟨sent, wiring'⟩, hsend, hresult⟩ := Option.map_eq_some_iff.mp h
    cases hresult
    refine .announce hsend rfl ?_
    cases sent <;> simp [Turn.move, gauge, weight, setPhase, totalWeight]
  case h_13 => exact admitting_lowers env spec rfl h
  case h_14 =>
    obtain ⟨⟨sent, wiring'⟩, hsend, hresult⟩ := Option.map_eq_some_iff.mp h
    cases hresult
    refine .announce hsend rfl ?_
    rw [weight_enroll]
    exact Nat.lt_succ_of_le (Nat.add_le_add_left (Bool.toNat_le sent) _)
  case h_15 =>
    obtain ⟨⟨intake, wiring'⟩, hadvance, hresult⟩ := Option.map_eq_some_iff.mp h
    cases hresult
    obtain ⟨hwork, hqueued, hevents, hkeeps⟩ := Intake.advance_lowers hadvance
    refine ⟨hkeeps, fun _ => .inr ⟨rfl, hevents, le_rfl, hqueued.le, ?_, rfl⟩⟩
    change intake.work + wiring'.queued < _ + wiring.queued
    simp only [gauge, work]
    omega
  case h_16 =>
    split at h
    · cases h
    · cases h
      refine .move ⟨rfl, rfl⟩ rfl fun _ => ?_
      simp only [gauge, weight, List.length_cons]
      omega
  case h_17 => exact dismiss_lowers env spec rfl h
  case h_18 =>
    split at h
    · cases h
      exact .move ⟨rfl, rfl⟩ rfl fun _ => by simp [gauge, weight, setPhase]
    · cases h
  case h_19 =>
    obtain ⟨-, hresult⟩ := Option.ite_none_right_eq_some.mp h
    cases hresult
    exact .move ⟨rfl, rfl⟩ rfl fun _ => by simp [gauge, weight, setPhase]
  case h_20 => cases h

/-- A task that has not returned can go on if the router's channels are closed and it does not
wait for its children. -/
theorem exists_step {spec : UdpServerSpec} {task : UdpServerTask}
    (hframes : wiring.frames.receiverOpen = false) (hevents : wiring.events.receiverOpen = false)
    (hrunning : task.phase ≠ .returned) (hjoined : task.phase = .joining → env.joined = true) :
    ∃ step, (task.step env spec wiring task.phase step).isSome = true := by
  cases hphase : task.phase with
  | checking => exact ⟨.check, rfl⟩
  | binding => exact ⟨.bind true, rfl⟩
  | backingOff => exact ⟨.wait true, rfl⟩
  | selecting => exact ⟨.poll, rfl⟩
  | polled => exact ⟨.idle, rfl⟩
  | retrying => exact ⟨.wait true, rfl⟩
  | reaping expired =>
    refine ⟨.remove, ?_⟩
    cases expired with
    | nil => rfl
    | cons src expired => cases hpeer : task.peer? src <;> simp [UdpServerTask.step, hpeer]
  | removing childId expired =>
    exact ⟨.announce, by simp [UdpServerTask.step, Turn.sendEvent_of_closed hevents]⟩
  | admitting childId datagram =>
    exact ⟨.visit .inOrder, by simp [UdpServerTask.step, Turn.sendEvent_of_closed hevents]⟩
  | evicting victim childId datagram =>
    exact ⟨.announce, by simp [UdpServerTask.step, Turn.sendEvent_of_closed hevents]⟩
  | handling peer =>
    cases hbusy : peer.intake.busy with
    | true =>
      exact ⟨.forward, by simp [UdpServerTask.step, Intake.advance_isSome hbusy hframes]⟩
    | false => exact ⟨.leave, by simp [UdpServerTask.step, hbusy]⟩
  | stopping =>
    cases hpeers : task.peers with
    | nil => exact ⟨.leave, by simp [UdpServerTask.step, hpeers]⟩
    | cons peer peers =>
      refine ⟨.visit .inOrder, ?_⟩
      simp [UdpServerTask.step, Library.Traversal.inOrder, hpeers, Turn.sendEvent_of_closed hevents]
  | joining => exact ⟨.join, by simp [UdpServerTask.step, hjoined hphase]⟩
  | returned => exact absurd hphase hrunning

end UdpServerTask

namespace PeerWriterTask

def gauge : Gauge PeerWriterTask :=
  ⟨weight, fun _ => 0, fun _ => none⟩

/-- Every step of the writer of a peer. -/
theorem step_lowers {task : PeerWriterTask} {turn : Turn PeerWriterTask}
    (h : task.step env wiring step = some turn) :
    turn.Lowers gauge task wiring := by
  unfold PeerWriterTask.step at h
  split at h
  case h_1 =>
    cases h
    exact .move ⟨rfl, rfl⟩ rfl fun hcancelled => by simp [hcancelled, gauge, weight]
  case h_2 =>
    cases h
    exact .move ⟨rfl, rfl⟩ rfl fun _ => by decide
  case h_3 =>
    split at h
    · cases h
      exact .move ⟨rfl, rfl⟩ rfl fun _ => by simp [gauge, weight]
    · cases h
  case h_4 =>
    split at h
    · cases h
      exact .move ⟨rfl, rfl⟩ rfl fun _ => by simp [gauge, weight]
    · cases h
      exact .move ⟨rfl, rfl⟩ rfl fun _ => by simp [gauge, weight]
  case h_5 =>
    cases h
    exact .drain (fun _ => ⟨rfl, le_rfl, rfl⟩) (by simp [gauge, weight])
  case h_6 => cases h

/-- A writer that has not returned can go on. -/
theorem exists_step {task : PeerWriterTask} (hrunning : task ≠ .returned) :
    ∃ step, (task.step env wiring step).isSome = true := by
  cases task with
  | selecting => exact ⟨.poll, rfl⟩
  | polled => exact ⟨.idle, rfl⟩
  | sending frame => exact ⟨.sent true, rfl⟩
  | finishing count => exact ⟨.drain, rfl⟩
  | returned => exact absurd rfl hrunning

end PeerWriterTask

namespace Control

def gauge : Gauge Control :=
  ⟨weight, work, peer?⟩

variable {id : EndpointId} {control : Control}

/-- Tasks of one kind among the others. -/
theorem lowers_map {κ : Type} {kind : Gauge κ} {embed : κ → Control} {before : κ} {turn : Turn κ}
    (hweight : ∀ task, gauge.weight (embed task) = kind.weight task)
    (hwork : ∀ task, gauge.work (embed task) = kind.work task)
    (hpeer : ∀ task, gauge.peer? (embed task) = kind.peer? task)
    (h : turn.Lowers kind before wiring) : (turn.map embed).Lowers gauge (embed before) wiring := by
  refine ⟨h.keeps, fun hcancelled => ?_⟩
  rcases h.lowers hcancelled with hadvances | hworks
  · refine .inl ?_
    unfold Turn.Advances
    rw [show (turn.map embed).control = embed turn.control from rfl, hweight, hweight]
    exact hadvances
  · refine .inr ⟨hworks.spawned, hworks.events, ?_, hworks.queued, ?_, ?_⟩
    · rw [show (turn.map embed).control = embed turn.control from rfl, hweight, hweight]
      exact hworks.weight
    · rw [show (turn.map embed).control = embed turn.control from rfl, hwork, hwork]
      exact hworks.work
    · rw [show (turn.map embed).control = embed turn.control from rfl, hpeer, hpeer]
      exact hworks.peer

/-- Every step of a cancelled task brings it closer to its end. -/
theorem step_lowers {turn : Turn Control} (h : control.step env id wiring step = some turn) :
    turn.Lowers gauge control wiring := by
  unfold Control.step at h
  split at h
  · obtain ⟨turn, hstep, rfl⟩ := Option.map_eq_some_iff.mp h
    exact lowers_map (fun _ => rfl) (fun _ => rfl) (fun _ => rfl) (StreamTask.step_lowers hstep)
  · obtain ⟨turn, hstep, rfl⟩ := Option.map_eq_some_iff.mp h
    exact lowers_map (fun _ => rfl) (fun _ => rfl) (fun _ => rfl) (TcpServerTask.step_lowers hstep)
  · obtain ⟨turn, hstep, rfl⟩ := Option.map_eq_some_iff.mp h
    exact lowers_map (fun _ => rfl) (fun _ => rfl) (fun _ => rfl) (TcpsChild.step_lowers hstep)
  · obtain ⟨turn, hstep, rfl⟩ := Option.map_eq_some_iff.mp h
    exact lowers_map (fun _ => rfl) (fun _ => rfl) (fun _ => rfl) (UdpClientTask.step_lowers hstep)
  · obtain ⟨turn, hstep, rfl⟩ := Option.map_eq_some_iff.mp h
    refine lowers_map (fun _ => rfl) (fun _ => rfl) (fun task => ?_)
      (UdpServerTask.step_lowers hstep)
    obtain ⟨peers, phase⟩ := task
    cases phase <;> rfl
  · obtain ⟨turn, hstep, rfl⟩ := Option.map_eq_some_iff.mp h
    exact lowers_map (fun _ => rfl) (fun _ => rfl) (fun _ => rfl) (PeerWriterTask.step_lowers hstep)

/-- A task that has not returned can go on if the router's channels are closed and it does not
wait for its children. -/
theorem exists_step (hframes : wiring.frames.receiverOpen = false)
    (hevents : wiring.events.receiverOpen = false) (hrunning : control.returned = false)
    (hjoined : control.joining = true → env.joined = true) :
    ∃ step, (control.step env id wiring step).isSome = true := by
  unfold Control.step
  cases control with
  | stream kind filters task =>
    have htask : task ≠ .returned := by
      rintro rfl
      cases hrunning
    obtain ⟨step, hstep⟩ := StreamTask.exists_step hframes htask
    exact ⟨step, by simpa using hstep⟩
  | tcps spec task =>
    have htask : task ≠ .returned := by
      rintro rfl
      cases hrunning
    obtain ⟨step, hstep⟩ := TcpServerTask.exists_step hevents htask
      (by rintro rfl; exact hjoined rfl)
    exact ⟨step, by simpa using hstep⟩
  | tcpsChild parentId filters task =>
    have htask : task ≠ .returned := by
      rintro rfl
      cases hrunning
    obtain ⟨step, hstep⟩ := TcpsChild.exists_step hframes hevents htask
    exact ⟨step, by simpa using hstep⟩
  | udpc filters task =>
    have htask : task.phase = .returned → task.intake.busy = true := by
      obtain ⟨phase, intake⟩ := task
      rintro rfl
      simpa [returned] using hrunning
    obtain ⟨step, hstep⟩ := UdpClientTask.exists_step hframes htask
    exact ⟨step, by simpa using hstep⟩
  | udps spec task =>
    have htask : task.phase ≠ .returned := by
      obtain ⟨peers, phase⟩ := task
      rintro rfl
      cases hrunning
    obtain ⟨step, hstep⟩ := UdpServerTask.exists_step hframes hevents htask (by
      obtain ⟨peers, phase⟩ := task
      rintro rfl
      exact hjoined rfl)
    exact ⟨step, by simpa using hstep⟩
  | peerWriter parentId task =>
    have htask : task ≠ .returned := by
      rintro rfl
      cases hrunning
    obtain ⟨step, hstep⟩ := PeerWriterTask.exists_step htask
    exact ⟨step, by simpa using hstep⟩

/-- A task that has returned takes no step. -/
theorem step_of_returned (hreturned : control.returned = true) (step : TaskStep) :
    control.step env id wiring step = none := by
  unfold Control.step
  unfold returned at hreturned
  split at hreturned
  · simp [StreamTask.step]
  · simp [TcpServerTask.step]
  · simp [TcpsChild.step]
  · have hbusy := hreturned
    rw [Bool.not_eq_true'] at hbusy
    simp [UdpClientTask.step, UdpClientTask.turn, hbusy]
  · simp [UdpServerTask.step]
  · simp [PeerWriterTask.step]
  · cases hreturned

end Control

end MavlinkRouter
