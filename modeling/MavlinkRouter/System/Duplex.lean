import MavlinkRouter.Endpoint.SessionLoop
import MavlinkRouter.Mavlink.Tiling

/-!
# Two sessions over a pair of pipes

Two `run_session` loops joined by two byte pipes, one for each direction, as over a TCP
connection between two routers. A loop that writes a frame does not read, so the two could
wait for each other. But a loop takes a frame only after it has polled its incoming pipe and
found it empty, and it writes one frame before it polls again: of two loops that both write,
the one that polled last leaves the other with at most one frame for an empty pipe.
-/

namespace MavlinkRouter

/-- A byte pipe with the bytes in flight, the oldest first. -/
structure Pipe where
  bytes : List UInt8
  capacity : ℕ
  length_le : bytes.length ≤ capacity

namespace Pipe

def new (capacity : ℕ) : Pipe where
  bytes := []
  capacity := capacity
  length_le := Nat.zero_le capacity

/-- Write bytes for which there is room. -/
def put (pipe : Pipe) (data : List UInt8) : Option Pipe :=
  if h : (pipe.bytes ++ data).length ≤ pipe.capacity then
    some ⟨pipe.bytes ++ data, pipe.capacity, h⟩
  else none

/-- Read the oldest bytes. -/
def skip (pipe : Pipe) (count : ℕ) : Pipe where
  bytes := pipe.bytes.drop count
  capacity := pipe.capacity
  length_le := (List.drop_sublist count pipe.bytes).length_le.trans pipe.length_le

/-- Not a single byte can be written. -/
def Full (pipe : Pipe) : Prop :=
  pipe.bytes.length = pipe.capacity

private theorem put_eq_some {pipe filled : Pipe} {data : List UInt8}
    (h : pipe.put data = some filled) :
    filled.bytes = pipe.bytes ++ data ∧ filled.capacity = pipe.capacity := by
  unfold put at h
  split at h
  · cases h
    exact ⟨rfl, rfl⟩
  · cases h

end Pipe

/-- A frame body that some framer has handed out. The router pushes no others. -/
structure FramedBytes where
  frame : Bytes
  framed : ∃ table framer header rest,
    Framer.tryNextFrame table framer = (some (header, frame.data), rest)

private theorem FramedBytes.length_le (framed : FramedBytes) : framed.frame.data.length ≤ 280 := by
  obtain ⟨table, framer, header, rest, hnext⟩ := framed.framed
  exact Framer.length_le_of_acceptableFrame (Framer.acceptableFrame_of_tryNextFrame hnext)

namespace SessionLoop

/-- What a step does to the incoming and the outgoing pipe. The read branch is pending only if
the incoming pipe is empty, and bytes are read in the order in which they were written. -/
def transfer (session : SessionLoop) (incoming outgoing : Pipe) :
    SessionStep → Option (Pipe × Pipe)
  | .pending => if incoming.bytes = [] then some (incoming, outgoing) else none
  | .read (.received data _) =>
    if data ≠ [] ∧ data <+: incoming.bytes then some (incoming.skip data.length, outgoing)
    else none
  | .write count =>
    match session.phase with
    | .writing write => (outgoing.put (write.rest.take count)).map fun filled => (incoming, filled)
    | _ => none
  | _ => some (incoming, outgoing)

/-- The session is inside `write_outbound_frame`, and its pipe is full. -/
def Blocked (session : SessionLoop) (outgoing : Pipe) : Prop :=
  ∃ write, session.phase = .writing write ∧ write.rest ≠ [] ∧ outgoing.Full

/-- The session has polled its read branch and will not read before it has written. -/
def Past (session : SessionLoop) : Prop :=
  session.phase = .polled ∨ ∃ write, session.phase = .writing write

/-- No frame that is queued or being written is longer than the longest MAVLink frame. -/
structure Short (session : SessionLoop) (wiring : Wiring) : Prop where
  queued : ∀ frame ∈ wiring.port.txQueue.frames, frame.data.length ≤ 280
  writing : ∀ write, session.phase = .writing write → write.rest.length ≤ 280

/-- What is left to write and what the peer has not read make up at most one frame. -/
structure Bounded (session : SessionLoop) (outgoing : Pipe) : Prop where
  polled : session.phase = .polled → outgoing.bytes = []
  writing : ∀ write, session.phase = .writing write →
    outgoing.bytes.length + write.rest.length ≤ 280

section Step

variable {ctx : SessionCtx} {session after : SessionLoop} {wiring wiring' : Wiring}
  {incoming outgoing incoming' outgoing' : Pipe} {step : SessionStep}

/-- A bounded session finds room for what it writes. -/
theorem Bounded.not_blocked (h : session.Bounded outgoing) (hcapacity : 280 ≤ outgoing.capacity) :
    ¬ session.Blocked outgoing := by
  rintro ⟨write, hphase, hrest, hfull⟩
  have hlength := h.writing write hphase
  have hpos := List.length_pos_of_ne_nil hrest
  unfold Pipe.Full at hfull
  omega

/-- With an empty pipe, one short frame is all there can be. -/
theorem Short.bounded (h : session.Short wiring) (hempty : outgoing.bytes = []) :
    session.Bounded outgoing := by
  refine ⟨fun _ => hempty, fun write hwrite => ?_⟩
  rw [hempty]
  exact (Nat.zero_add write.rest.length).le.trans (h.writing write hwrite)

/-- Pipes keep their capacity. -/
theorem capacity_transfer
    (h : session.transfer incoming outgoing step = some (incoming', outgoing')) :
    incoming'.capacity = incoming.capacity ∧ outgoing'.capacity = outgoing.capacity := by
  unfold transfer at h
  split at h
  · obtain ⟨-, hresult⟩ := Option.ite_none_right_eq_some.mp h
    cases hresult
    exact ⟨rfl, rfl⟩
  · obtain ⟨-, hresult⟩ := Option.ite_none_right_eq_some.mp h
    cases hresult
    exact ⟨rfl, rfl⟩
  · split at h
    · obtain ⟨filled, hput, hresult⟩ := Option.map_eq_some_iff.mp h
      cases hresult
      exact ⟨rfl, (Pipe.put_eq_some hput).2⟩
    · cases h
  · cases h
    exact ⟨rfl, rfl⟩

/-- Forwarding leaves the queue alone. -/
theorem txQueue_advance {intake : Intake}
    (h : session.intake.advance ctx wiring = some (intake, wiring')) :
    wiring'.port.txQueue = wiring.port.txQueue := by
  unfold Intake.advance at h
  split at h
  · cases h
  · obtain ⟨result, -, hresult⟩ := Option.map_eq_some_iff.mp h
    cases hresult
    rfl
  · split at h
    · cases h
      rfl
    · cases h
    · cases h
      rfl
  · cases h

/-- Frames stay short. -/
theorem short_step (hshort : session.Short wiring)
    (h : session.step ctx wiring step = some (after, wiring')) : after.Short wiring' := by
  cases step_moves h with
  | forwarded hadvance =>
    rename_i intake
    refine ⟨txQueue_advance hadvance ▸ hshort.queued, fun write hwrite => ?_⟩
    rcases session.phase_forwarded intake with hphase | hphase
    · exact hshort.writing write (hphase ▸ hwrite)
    · cases hphase.symm.trans hwrite
  | stopped hbusy hphase hcancelled => exact ⟨hshort.queued, nofun⟩
  | polledCancel hbusy hphase hcancelled => exact ⟨hshort.queued, nofun⟩
  | polledRead hbusy hphase => exact ⟨hshort.queued, nofun⟩
  | received data now hbusy hphase => exact ⟨hshort.queued, nofun⟩
  | disconnected hbusy hphase => exact ⟨hshort.queued, nofun⟩
  | popped hbusy hphase hpop =>
    have hqueued := hshort.queued
    rw [Writer.frames_of_pop hpop] at hqueued
    refine ⟨fun frame hmem => hqueued frame (List.mem_cons_of_mem _ hmem), ?_⟩
    rintro write ⟨⟩
    exact hqueued _ List.mem_cons_self
  | waited hbusy hphase => exact ⟨hshort.queued, nofun⟩
  | wrote write count hbusy hphase hcount hle =>
    refine ⟨hshort.queued, ?_⟩
    rintro written ⟨⟩
    exact (List.drop_sublist count write.rest).length_le.trans (hshort.writing write hphase)
  | finished write hbusy hphase hrest => exact ⟨hshort.queued, nofun⟩

private theorem not_past (hpolled : session.phase ≠ .polled)
    (hwriting : ∀ write, session.phase ≠ .writing write) : ¬ session.Past := by
  rintro (hphase | ⟨write, hphase⟩)
  · exact hpolled hphase
  · exact hwriting write hphase

/-- A session past its poll has just found its incoming pipe empty, or it was past the poll
already, has read nothing since and is bounded if it was. -/
theorem past_step (hshort : session.Short wiring)
    (h : session.step ctx wiring step = some (after, wiring'))
    (htransfer : session.transfer incoming outgoing step = some (incoming', outgoing'))
    (hpast : after.Past) :
    incoming' = incoming ∧
      (incoming.bytes = [] ∨
        session.Past ∧ (session.Bounded outgoing → after.Bounded outgoing')) := by
  cases step_moves h with
  | forwarded hadvance =>
    rename_i intake
    cases htransfer
    rcases session.phase_forwarded intake with hphase | hphase
    · unfold Past at hpast
      rw [hphase] at hpast
      refine ⟨rfl, .inr ⟨hpast, fun hbounded => ⟨?_, ?_⟩⟩⟩
      · rw [hphase]
        exact hbounded.polled
      · rw [hphase]
        exact hbounded.writing
    · exact absurd hpast (not_past (hphase ▸ nofun) (hphase ▸ nofun))
  | stopped hbusy hphase hcancelled => exact absurd hpast (not_past nofun nofun)
  | polledCancel hbusy hphase hcancelled => exact absurd hpast (not_past nofun nofun)
  | polledRead hbusy hphase =>
    obtain ⟨hempty, hresult⟩ := Option.ite_none_right_eq_some.mp htransfer
    cases hresult
    exact ⟨rfl, .inl hempty⟩
  | received data now hbusy hphase => exact absurd hpast (not_past nofun nofun)
  | disconnected hbusy hphase => exact absurd hpast (not_past nofun nofun)
  | popped hbusy hphase hpop =>
    rename_i frame txQueue
    cases htransfer
    refine ⟨rfl, .inr ⟨.inl hphase, fun hbounded => ⟨nofun, ?_⟩⟩⟩
    rintro write ⟨⟩
    have hlength : frame.data.length ≤ 280 :=
      hshort.queued frame (Writer.frames_of_pop hpop ▸ List.mem_cons_self)
    rw [hbounded.polled hphase]
    exact (Nat.zero_add frame.data.length).le.trans hlength
  | waited hbusy hphase => exact absurd hpast (not_past nofun nofun)
  | wrote write count hbusy hphase hcount hle =>
    simp only [transfer, hphase] at htransfer
    obtain ⟨filled, hput, hresult⟩ := Option.map_eq_some_iff.mp htransfer
    cases hresult
    refine ⟨rfl, .inr ⟨.inr ⟨write, hphase⟩, fun hbounded => ⟨nofun, ?_⟩⟩⟩
    rintro written ⟨⟩
    -- Bytes move from the frame into the pipe, and their number stays the same.
    have hsplit := congrArg List.length (List.take_append_drop count write.rest)
    have hlength := hbounded.writing write hphase
    rw [List.length_append] at hsplit
    rw [(Pipe.put_eq_some hput).1, List.length_append]
    change _ + (write.rest.drop count).length ≤ 280
    omega
  | finished write hbusy hphase hrest => exact absurd hpast (not_past nofun nofun)

end Step

end SessionLoop

/-- The two ends of a connection. -/
inductive End where
  | client
  | server
  deriving DecidableEq, Repr

namespace End

def peer : End → End
  | .client => .server
  | .server => .client

private theorem peer_ne (side : End) : side.peer ≠ side := by
  cases side <;> exact nofun

private theorem eq_or_eq_peer (side other : End) : other = side ∨ other = side.peer := by
  cases side <;> cases other <;> decide

end End

/-- Two sessions with what each shares with its router, and the pipe each writes to. -/
structure Duplex where
  sessions : End → SessionLoop
  wirings : End → Wiring
  pipes : End → Pipe

namespace Duplex

/-- A step of a session, or of its router, which pushes to its queue, takes its frames and
may cancel it. -/
inductive Action where
  | session (side : End) (step : SessionStep)
  | push (side : End) (framed : FramedBytes)
  | receive (side : End)
  | cancel (side : End)

/-- What a new session shares with its router. -/
def wiring (stats : EndpointStats) (depth frameCapacity eventCapacity : ℕ) : Wiring where
  frames := .new frameCapacity
  events := .new eventCapacity
  port := ⟨stats, .new depth⟩
  cancelled := false

/-- Two new sessions over empty pipes. -/
def start (wirings : End → Wiring) (capacity : End → ℕ) : Duplex where
  sessions := fun _ => .start
  wirings := wirings
  pipes := fun side => .new (capacity side)

/-- Replace what a session shares with its router. -/
def setWiring (duplex : Duplex) (side : End) (wiring : Wiring) : Duplex :=
  { duplex with wirings := Function.update duplex.wirings side wiring }

/-- Replace a session and both pipes. -/
def setSession (duplex : Duplex) (side : End) (session : SessionLoop)
    (incoming outgoing : Pipe) : Duplex :=
  { duplex with
    sessions := Function.update duplex.sessions side session
    pipes := Function.update (Function.update duplex.pipes side.peer incoming) side outgoing }

/-- One step. -/
def step (ctx : End → SessionCtx) (duplex : Duplex) : Action → Option Duplex
  | .session side step =>
    ((duplex.sessions side).step (ctx side) (duplex.wirings side) step).bind fun result =>
      ((duplex.sessions side).transfer (duplex.pipes side.peer) (duplex.pipes side) step).map
        fun pipes => (duplex.setWiring side result.2).setSession side result.1 pipes.1 pipes.2
  | .push side framed =>
    some (duplex.setWiring side
      ((duplex.wirings side).setPort ((duplex.wirings side).port.push framed.frame)))
  | .receive side =>
    (duplex.wirings side).frames.tryRecv.map fun result =>
      duplex.setWiring side ((duplex.wirings side).setFrames result.2)
  | .cancel side => some (duplex.setWiring side { duplex.wirings side with cancelled := true })

/-- Both sessions are inside `write_outbound_frame`, and both pipes are full. -/
def Deadlocked (duplex : Duplex) : Prop :=
  ∀ side, (duplex.sessions side).Blocked (duplex.pipes side)

/-- What holds of every reachable pair of sessions: if both are past their polls, the one
whose peer polled last is bounded. -/
structure Safe (capacity : End → ℕ) (duplex : Duplex) : Prop where
  capacity : ∀ side, (duplex.pipes side).capacity = capacity side
  short : ∀ side, (duplex.sessions side).Short (duplex.wirings side)
  bounded : (∀ side, (duplex.sessions side).Past) →
    ∃ side, (duplex.sessions side).Bounded (duplex.pipes side)

private theorem safe_start {wirings : End → Wiring}
    (hempty : ∀ side, (wirings side).port.txQueue.frames = []) (capacity : End → ℕ) :
    Safe capacity (start wirings capacity) where
  capacity := fun side => rfl
  short := by
    intro side
    refine ⟨fun frame hmem => ?_, nofun⟩
    rw [show ((start wirings capacity).wirings side).port.txQueue.frames = [] from hempty side]
      at hmem
    cases hmem
  bounded := by
    intro hpast
    exact absurd (hpast .client) (SessionLoop.not_past nofun nofun)

section Step

variable {ctx : End → SessionCtx} {capacity : End → ℕ} {duplex after : Duplex} {side : End}

/-- What a session shares with its router may change as long as its frames stay short. -/
theorem Safe.setWiring (hsafe : Safe capacity duplex) {wiring : Wiring}
    (hshort : (duplex.sessions side).Short wiring) :
    Safe capacity (duplex.setWiring side wiring) := by
  refine ⟨hsafe.capacity, fun other => ?_, hsafe.bounded⟩
  by_cases hother : other = side
  · subst hother
    simpa [Duplex.setWiring] using hshort
  · simpa [Duplex.setWiring, Function.update_of_ne hother] using hsafe.short other

/-- Every step of a session keeps the pair safe. -/
theorem Safe.session (hsafe : Safe capacity duplex) {step : SessionStep}
    {session : SessionLoop} {wiring : Wiring} {incoming outgoing : Pipe}
    (hstep : (duplex.sessions side).step (ctx side) (duplex.wirings side) step =
      some (session, wiring))
    (htransfer : (duplex.sessions side).transfer (duplex.pipes side.peer) (duplex.pipes side) step =
      some (incoming, outgoing)) :
    Safe capacity ((duplex.setWiring side wiring).setSession side session incoming outgoing) := by
  have hne := side.peer_ne
  have hcapacity := SessionLoop.capacity_transfer htransfer
  refine ⟨fun other => ?capacity, fun other => ?short, fun hpast => ?bounded⟩
  case capacity =>
    rw [← hsafe.capacity other]
    rcases side.eq_or_eq_peer other with rfl | rfl
    · simpa [setSession] using hcapacity.2
    · simpa [setSession, Function.update_of_ne hne] using hcapacity.1
  case short =>
    rcases side.eq_or_eq_peer other with rfl | rfl
    · simpa [setSession, Duplex.setWiring] using
        SessionLoop.short_step (hsafe.short other) hstep
    · simpa [setSession, Duplex.setWiring, Function.update_of_ne hne] using hsafe.short side.peer
  case bounded =>
    have hpastSide : session.Past := by simpa [setSession] using hpast side
    have hpastPeer : (duplex.sessions side.peer).Past := by
      simpa [setSession, Duplex.setWiring, Function.update_of_ne hne] using hpast side.peer
    obtain ⟨rfl, hempty | ⟨hbefore, hkept⟩⟩ :=
      SessionLoop.past_step (hsafe.short side) hstep htransfer hpastSide
    · -- The acting session has just polled, so its peer writes to an empty pipe.
      refine ⟨side.peer, ?_⟩
      simpa [setSession, Duplex.setWiring, Function.update_of_ne hne] using
        (hsafe.short side.peer).bounded hempty
    · have hboth : ∀ other, (duplex.sessions other).Past := by
        intro other
        rcases side.eq_or_eq_peer other with rfl | rfl
        · exact hbefore
        · exact hpastPeer
      obtain ⟨other, hother⟩ := hsafe.bounded hboth
      refine ⟨other, ?_⟩
      rcases side.eq_or_eq_peer other with rfl | rfl
      · simpa [setSession] using hkept hother
      · simpa [setSession, Duplex.setWiring, Function.update_of_ne hne] using hother

/-- A pushed frame is short, and the queue keeps no others than it had. -/
theorem short_push {session : SessionLoop} {wiring : Wiring} (h : session.Short wiring)
    (framed : FramedBytes) : session.Short (wiring.setPort (wiring.port.push framed.frame)) := by
  refine ⟨fun frame hmem => ?_, h.writing⟩
  obtain ⟨evicted, kept, hqueued, -, hpush⟩ := wiring.port.txQueue.frames_forcePush framed.frame
  have hframes : (wiring.port.push framed.frame).txQueue.frames = kept ++ [framed.frame] := hpush
  rw [show (wiring.setPort (wiring.port.push framed.frame)).port.txQueue.frames =
    kept ++ [framed.frame] from hframes] at hmem
  rcases List.mem_append.mp hmem with hold | hnew
  · exact h.queued frame (hqueued ▸ List.mem_append_right evicted hold)
  · rw [List.mem_singleton.mp hnew]
    exact framed.length_le

/-- Every step keeps the pair safe. -/
theorem Safe.step {action : Action} (hsafe : Safe capacity duplex)
    (h : duplex.step ctx action = some after) : Safe capacity after := by
  cases action with
  | session side step =>
    obtain ⟨⟨session, wiring⟩, hstep, hpipes⟩ := Option.bind_eq_some_iff.mp h
    obtain ⟨⟨incoming, outgoing⟩, htransfer, rfl⟩ := Option.map_eq_some_iff.mp hpipes
    exact hsafe.session hstep htransfer
  | push side framed =>
    cases h
    exact hsafe.setWiring (short_push (hsafe.short side) framed)
  | receive side =>
    obtain ⟨result, -, rfl⟩ := Option.map_eq_some_iff.mp h
    exact hsafe.setWiring ⟨(hsafe.short side).queued, (hsafe.short side).writing⟩
  | cancel side =>
    cases h
    exact hsafe.setWiring ⟨(hsafe.short side).queued, (hsafe.short side).writing⟩

end Step

/-- No mutual write deadlock: whatever is pushed, and however polls, pops and partial writes
interleave, the two sessions are never both stuck in a write. -/
theorem not_deadlocked {ctx : End → SessionCtx} {stats : End → EndpointStats}
    {depth frameCapacity eventCapacity capacity : End → ℕ}
    (hcapacity : ∀ side, 280 ≤ capacity side) {actions : List Action} {duplex : Duplex}
    (hrun : Library.execute (step ctx)
      (start (fun side => wiring (stats side) (depth side) (frameCapacity side)
        (eventCapacity side)) capacity) actions = some duplex) :
    ¬ duplex.Deadlocked := by
  intro hblocked
  have hsafe : Safe capacity duplex :=
    Library.execute_invariant (safe_start (fun _ => rfl) capacity) Safe.step hrun
  have hpast : ∀ side, (duplex.sessions side).Past := by
    intro side
    obtain ⟨write, hwrite, -, -⟩ := hblocked side
    exact .inr ⟨write, hwrite⟩
  obtain ⟨side, hbounded⟩ := hsafe.bounded hpast
  refine hbounded.not_blocked ?_ (hblocked side)
  rw [hsafe.capacity side]
  exact hcapacity side

/-- An empty v1 frame. -/
def emptyFrame : FramedBytes where
  frame := ⟨[254, 0, 0, 1, 1, 0, 0, 0], ⟨0⟩, 0⟩
  framed := by
    refine ⟨⟨[], .nil⟩, Framer.new.extendFromSlice [254, 0, 0, 1, 1, 0, 0, 0], ?_⟩
    rw [Framer.tryNextFrame]
    exact ⟨_, _, rfl⟩

/-- Both sessions poll before either writes. -/
theorem not_deadlocked_crossing :
    ∃ duplex, Library.execute (step fun _ => ⟨⟨0⟩, {}, ⟨[], .nil⟩⟩)
        (start (fun _ => wiring {} defaultTxQueueFrames 1024 64) fun _ => 280)
        [.push .client emptyFrame, .push .server emptyFrame, .session .client .poll,
          .session .server .poll, .session .client .pending, .session .server .pending,
          .session .client .pop, .session .server .pop, .session .client (.write 5)] =
        some duplex ∧
      ¬ duplex.Deadlocked := by
  have hcapacity : ∀ side : End, 280 ≤ (fun _ : End => 280) side := fun _ => le_rfl
  refine Exists.imp (fun duplex hrun => ⟨hrun, not_deadlocked hcapacity hrun⟩)
    (Option.isSome_iff_exists.mp ?_)
  rfl

end Duplex

end MavlinkRouter
