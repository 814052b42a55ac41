import MavlinkRouter.Endpoint.Egress
import MavlinkRouter.Library.Execution

/-!
# Stream endpoints

The tasks of `serial:` and `tcpc:` endpoints, which connect again when a session has ended,
and of the clients of a `tcps:` endpoint, which have one session. The queue is drained when
a connection comes up and when the task ends, and a `serial:` endpoint drains it when the
connection is lost too. Meanwhile the router goes on pushing.
-/

namespace MavlinkRouter

open Library (execute execute_invariant)

/-- The endpoints that run sessions over a byte stream. -/
inductive StreamKind where
  | serial
  | tcpc
  | tcpsClient
  deriving DecidableEq, Repr

/-- Where the task stands: at the head of its loop, connecting, waiting after a failed
attempt, draining before a session, in a session, draining after one, waiting before it opens
the device again, draining before it ends, or at its end. -/
inductive StreamPhase where
  | checking
  | connecting
  | backingOff
  | resuming
  | session
  | clearing
  | reopening
  | finishing
  | done
  deriving DecidableEq, Repr

/-- How an attempt to connect ends. -/
inductive DialOutcome where
  | connected
  | cancelled
  | failed
  deriving DecidableEq, Repr

/-- How a session ends. -/
inductive SessionOutcome where
  | terminated
  | disconnected
  deriving DecidableEq, Repr

/-- A frame that a session has taken to write it, and its number among the pushes. -/
structure Transmission where
  session : ℕ
  number : ℕ
  frame : Bytes

/-- A stream endpoint. `connects` has for every connection the number of frames that had been
pushed when it came up. -/
structure StreamClient where
  egress : Egress
  phase : StreamPhase
  cancelled : Bool
  connects : List ℕ
  transmissions : List Transmission

namespace StreamClient

/-- A new endpoint. An accepted client is connected from the start. -/
def start (kind : StreamKind) (capacity : ℕ) : StreamClient :=
  match kind with
  | .serial => ⟨.start capacity .reconnecting, .checking, false, [], []⟩
  | .tcpc => ⟨.start capacity .reconnecting, .checking, false, [], []⟩
  | .tcpsClient => ⟨.start capacity .connected, .session, false, [0], []⟩

def setPhase (client : StreamClient) (phase : StreamPhase) : StreamClient :=
  { client with phase := phase }

def setEgress (client : StreamClient) (egress : Egress) : StreamClient :=
  { client with egress := egress }

def storeState (client : StreamClient) (state : EndpointState) : StreamClient :=
  client.setEgress (client.egress.access (.storeState state))

/-- `drain_and_discard` is called. -/
def drainIn (client : StreamClient) (phase : StreamPhase) : Option StreamClient :=
  (client.egress.write .startDrain).map fun egress => (client.setEgress egress).setPhase phase

/-- What follows a drain. -/
def afterDrain (client : StreamClient) : StreamClient :=
  match client.phase with
  | .resuming => (client.storeState .connected).setPhase .session
  | .clearing => (client.storeState .reconnecting).setPhase .reopening
  | .finishing => client.setPhase .done
  | .checking => client
  | .connecting => client
  | .backingOff => client
  | .session => client
  | .reopening => client
  | .done => client

/-- What follows a session. -/
def afterSession (kind : StreamKind) (client : StreamClient) :
    SessionOutcome → Option StreamClient
  | .terminated => client.drainIn .finishing
  | .disconnected =>
    match kind with
    | .serial => client.drainIn .clearing
    | .tcpc => some ((client.storeState .reconnecting).setPhase .checking)
    | .tcpsClient => client.drainIn .finishing

/-- A connection comes up. -/
def connect (client : StreamClient) : StreamClient :=
  { client with connects := client.connects ++ [client.egress.pushes.length] }

/-- The session has taken the oldest frame to write it. -/
def transmit (client : StreamClient) (egress : Egress) : StreamClient :=
  { client with
    egress := egress
    transmissions := client.transmissions ++ egress.writer.frames.map fun frame =>
      ⟨client.connects.length - 1, client.egress.removed, frame⟩ }

/-- A step of the task, of its transport, of the router or of the cancellation. A read ends the
session at the end of the stream, on an error, and when the router's channel is closed. -/
inductive Action where
  | access (access : PortAccess)
  | cancel
  | check
  | dial (outcome : DialOutcome)
  | wait
  | drain
  | pop
  | write (count : ℕ)
  | finishWrite
  | failWrite
  | endRead (outcome : SessionOutcome)
  | stop

/-- One step. -/
def step (kind : StreamKind) (client : StreamClient) : Action → Option StreamClient
  | .access access => some (client.setEgress (client.egress.access access))
  | .cancel => some { client with cancelled := true }
  | .check =>
    if client.phase = .checking then
      if client.cancelled then client.drainIn .finishing else some (client.setPhase .connecting)
    else none
  | .dial outcome =>
    if client.phase = .connecting then
      match outcome with
      | .connected => client.connect.drainIn .resuming
      | .cancelled => if client.cancelled then client.drainIn .finishing else none
      | .failed => some (client.setPhase .backingOff)
    else none
  | .wait =>
    match client.phase with
    | .backingOff =>
      if client.cancelled then client.drainIn .finishing else some (client.setPhase .checking)
    | .reopening => some (client.setPhase (if client.cancelled then .done else .checking))
    | .checking => none
    | .connecting => none
    | .resuming => none
    | .session => none
    | .clearing => none
    | .finishing => none
    | .done => none
  | .drain =>
    (client.egress.write .drain).map fun egress =>
      match egress.writer with
      | .idle => (client.setEgress egress).afterDrain
      | .writing _ => client.setEgress egress
      | .draining _ => client.setEgress egress
  | .pop =>
    if client.phase = .session then (client.egress.write .pop).map client.transmit else none
  | .write count => (client.egress.write (.write count)).map client.setEgress
  | .finishWrite => (client.egress.write .finish).map client.setEgress
  | .failWrite =>
    (client.egress.write (.fail false)).bind fun egress =>
      (client.setEgress egress).afterSession kind .disconnected
  | .endRead outcome =>
    if client.phase = .session ∧ client.egress.writer.frames = [] then
      client.afterSession kind outcome
    else none
  | .stop =>
    if client.phase = .session ∧ client.egress.writer.frames = [] ∧ client.cancelled = true then
      client.afterSession kind .terminated
    else none

/-- A failed write loses its frame. -/
def Action.losses : Action → ℕ
  | .access _ => 0
  | .cancel => 0
  | .check => 0
  | .dial _ => 0
  | .wait => 0
  | .drain => 0
  | .pop => 0
  | .write _ => 0
  | .finishWrite => 0
  | .failWrite => 1
  | .endRead _ => 0
  | .stop => 0

/-- What a step can do, and how many frames it loses. -/
inductive Moves (kind : StreamKind) (client : StreamClient) : ℕ → StreamClient → Prop where
  | accessed (access : PortAccess) :
    Moves kind client 0 (client.setEgress (client.egress.access access))
  | cancelled : Moves kind client 0 { client with cancelled := true }
  | moved {phase : StreamPhase} (hresuming : phase ≠ .resuming) (hsession : phase ≠ .session) :
    Moves kind client 0 (client.setPhase phase)
  | draining {phase : StreamPhase} {after : StreamClient} (hresuming : phase ≠ .resuming)
      (hsession : phase ≠ .session) (hdrain : client.drainIn phase = some after) :
    Moves kind client 0 after
  | connected {after : StreamClient} (hphase : client.phase = .connecting)
      (hdrain : client.connect.drainIn .resuming = some after) :
    Moves kind client 0 after
  | wrote {writerStep : WriterStep} {egress : Egress}
      (hwrite : client.egress.write writerStep = some egress)
      (hstep : ∀ counted, writerStep ≠ .fail counted) :
    Moves kind client 0 (client.setEgress egress)
  | drained {egress : Egress} (hwrite : client.egress.write .drain = some egress)
      (hidle : egress.writer = .idle) :
    Moves kind client 0 (client.setEgress egress).afterDrain
  | popped {egress : Egress} (hphase : client.phase = .session)
      (hpop : client.egress.write .pop = some egress) :
    Moves kind client 0 (client.transmit egress)
  | failed {egress : Egress} {after : StreamClient}
      (hwrite : client.egress.write (.fail false) = some egress)
      (hafter : (client.setEgress egress).afterSession kind .disconnected = some after) :
    Moves kind client 1 after
  | ended {outcome : SessionOutcome} {after : StreamClient} (hphase : client.phase = .session)
      (hafter : client.afterSession kind outcome = some after) :
    Moves kind client 0 after

variable {kind : StreamKind} {client after : StreamClient}

/-- Every step is a move. -/
theorem step_moves {action : Action} (h : client.step kind action = some after) :
    Moves kind client action.losses after := by
  cases action with
  | access access =>
    cases h
    exact .accessed access
  | cancel =>
    cases h
    exact .cancelled
  | check =>
    obtain ⟨-, h⟩ := Option.ite_none_right_eq_some.mp h
    split at h
    · exact .draining (by decide) (by decide) h
    · cases h
      exact .moved (by decide) (by decide)
  | dial outcome =>
    obtain ⟨hphase, h⟩ := Option.ite_none_right_eq_some.mp h
    cases outcome with
    | connected => exact .connected hphase h
    | cancelled =>
      obtain ⟨-, h⟩ := Option.ite_none_right_eq_some.mp h
      exact .draining (by decide) (by decide) h
    | failed =>
      cases h
      exact .moved (by decide) (by decide)
  | wait =>
    simp only [step] at h
    split at h
    case h_1 =>
      split at h
      · exact .draining (by decide) (by decide) h
      · cases h
        exact .moved (by decide) (by decide)
    case h_2 =>
      cases h
      refine .moved ?_ ?_
      · split <;> decide
      · split <;> decide
    all_goals cases h
  | drain =>
    obtain ⟨egress, hwrite, hafter⟩ := Option.map_eq_some_iff.mp h
    split at hafter
    case h_1 hidle =>
      cases hafter
      exact .drained hwrite hidle
    all_goals
      cases hafter
      exact .wrote hwrite (by rintro _ ⟨⟩)
  | pop =>
    obtain ⟨hphase, h⟩ := Option.ite_none_right_eq_some.mp h
    obtain ⟨egress, hpop, rfl⟩ := Option.map_eq_some_iff.mp h
    exact .popped hphase hpop
  | write count =>
    obtain ⟨egress, hwrite, rfl⟩ := Option.map_eq_some_iff.mp h
    exact .wrote hwrite (by rintro _ ⟨⟩)
  | finishWrite =>
    obtain ⟨egress, hwrite, rfl⟩ := Option.map_eq_some_iff.mp h
    exact .wrote hwrite (by rintro _ ⟨⟩)
  | failWrite =>
    obtain ⟨egress, hwrite, hafter⟩ := Option.bind_eq_some_iff.mp h
    exact .failed hwrite hafter
  | endRead outcome =>
    obtain ⟨hsession, hafter⟩ := Option.ite_none_right_eq_some.mp h
    exact .ended hsession.1 hafter
  | stop =>
    obtain ⟨hsession, hafter⟩ := Option.ite_none_right_eq_some.mp h
    exact .ended hsession.1 hafter

/-- What the sessions have taken so far, and what the queue can still hold of the time before
the current connection. -/
structure Current (client : StreamClient) : Prop where
  consistent : client.egress.Consistent
  failed : client.egress.failed = 0
  resuming : client.phase = .resuming →
    ∃ mark, client.connects.getLast? = some mark ∧ mark ≤ client.egress.pushes.length
  session : client.phase = .session →
    ∃ mark, client.connects.getLast? = some mark ∧ mark ≤ client.egress.removed
  transmitted : ∀ transmission ∈ client.transmissions,
    transmission.number < client.egress.removed ∧
      client.egress.pushes[transmission.number]? = some transmission.frame ∧
      ∃ mark, client.connects[transmission.session]? = some mark ∧ mark ≤ transmission.number
  ordered : client.transmissions.Pairwise (·.number < ·.number)

private theorem current_start (kind : StreamKind) (capacity : ℕ) :
    Current (start kind capacity) := by
  cases kind with
  | serial =>
    refine ⟨Egress.consistent_start _ _, rfl, ?_, ?_, ?_, List.Pairwise.nil⟩
    · rintro ⟨⟩
    · rintro ⟨⟩
    · rintro transmission ⟨⟩
  | tcpc =>
    refine ⟨Egress.consistent_start _ _, rfl, ?_, ?_, ?_, List.Pairwise.nil⟩
    · rintro ⟨⟩
    · rintro ⟨⟩
    · rintro transmission ⟨⟩
  | tcpsClient =>
    refine ⟨Egress.consistent_start _ _, rfl, ?_, ?_, ?_, List.Pairwise.nil⟩
    · rintro ⟨⟩
    · exact fun _ => ⟨0, rfl, Nat.zero_le _⟩
    · rintro transmission ⟨⟩

/-- The endpoint goes on outside a session, or in the one it is in. -/
theorem Current.proceed (h : Current client) (hconsistent : after.egress.Consistent)
    (hfailed : after.egress.failed = 0)
    (hpushes : client.egress.pushes <+: after.egress.pushes)
    (hremoved : client.egress.removed ≤ after.egress.removed)
    (hconnects : after.connects = client.connects)
    (htransmissions : after.transmissions = client.transmissions)
    (hresuming : after.phase = .resuming → client.phase = .resuming)
    (hsession : after.phase = .session → client.phase = .session) : Current after := by
  have hlength := hpushes.length_le
  refine ⟨hconsistent, hfailed, ?_, ?_, ?_, ?_⟩
  · intro hphase
    obtain ⟨mark, hmark, hle⟩ := h.resuming (hresuming hphase)
    exact ⟨mark, hconnects ▸ hmark, hle.trans hlength⟩
  · intro hphase
    obtain ⟨mark, hmark, hle⟩ := h.session (hsession hphase)
    exact ⟨mark, hconnects ▸ hmark, hle.trans hremoved⟩
  · intro transmission hmem
    rw [htransmissions] at hmem
    obtain ⟨hlt, hframe, hmark⟩ := h.transmitted transmission hmem
    refine ⟨hlt.trans_le hremoved, ?_, hconnects ▸ hmark⟩
    obtain ⟨rest, hrest⟩ := hpushes
    rw [← hrest, List.getElem?_append_left (hlt.trans_le h.consistent.removed_le)]
    exact hframe
  · rw [htransmissions]
    exact h.ordered

private theorem Current.setPhase (h : Current client) {phase : StreamPhase}
    (hresuming : phase ≠ .resuming) (hsession : phase ≠ .session) :
    Current (client.setPhase phase) :=
  h.proceed h.consistent h.failed (List.prefix_refl _) le_rfl rfl rfl
    (fun hphase => absurd hphase hresuming) (fun hphase => absurd hphase hsession)

private theorem Current.access (h : Current client) (access : PortAccess) :
    Current (client.setEgress (client.egress.access access)) :=
  h.proceed (h.consistent.access access) h.failed (client.egress.pushes_access access)
    (client.egress.removed_le_access access) rfl rfl id id

/-- A step of the writer that takes no frame out of the queue to write it. -/
theorem Current.write (h : Current client) {writerStep : WriterStep} {egress : Egress}
    (hwrite : client.egress.write writerStep = some egress) (hstep : writerStep ≠ .fail true) :
    Current (client.setEgress egress) :=
  h.proceed (h.consistent.write hwrite) ((Egress.failed_write hwrite hstep).trans h.failed)
    (Egress.pushes_write hwrite ▸ List.prefix_refl _) (Egress.removed_le_write hwrite) rfl rfl
    id id

private theorem Current.drainIn (h : Current client) {phase : StreamPhase}
    (hresuming : phase ≠ .resuming) (hsession : phase ≠ .session)
    (hdrain : client.drainIn phase = some after) : Current after := by
  obtain ⟨egress, hwrite, hafter⟩ := Option.map_eq_some_iff.mp hdrain
  cases hafter
  exact (h.write hwrite (by decide)).setPhase hresuming hsession

/-- A connection comes up, and the frames pushed so far are about to be drained. -/
theorem Current.connect (h : Current client)
    (hdrain : client.connect.drainIn .resuming = some after) : Current after := by
  obtain ⟨egress, hwrite, hafter⟩ := Option.map_eq_some_iff.mp hdrain
  cases hafter
  have hdraining := h.write hwrite (by decide)
  refine ⟨hdraining.consistent, hdraining.failed, ?_, ?_, ?_, hdraining.ordered⟩
  · intro _
    refine ⟨client.egress.pushes.length, List.getLast?_concat, ?_⟩
    exact (congrArg List.length (Egress.pushes_write hwrite)).symm.le
  · rintro ⟨⟩
  · intro transmission hmem
    obtain ⟨hlt, hframe, mark, hmark, hle⟩ := hdraining.transmitted transmission hmem
    refine ⟨hlt, hframe, mark, ?_, hle⟩
    have hindex : transmission.session < client.connects.length :=
      (List.getElem?_eq_some_iff.mp hmark).1
    exact (List.getElem?_append_left hindex).trans hmark

/-- A session begins when everything that was pushed before the connection has been
drained. -/
theorem Current.resume (h : Current client) (hphase : client.phase = .resuming)
    (hempty : client.egress.removed = client.egress.pushes.length) :
    Current (client.setPhase .session) := by
  refine ⟨h.consistent, h.failed, ?_, ?_, h.transmitted, h.ordered⟩
  · rintro ⟨⟩
  · intro _
    obtain ⟨mark, hmark, hle⟩ := h.resuming hphase
    exact ⟨mark, hmark, hle.trans hempty.ge⟩

/-- What follows a drain that has found the queue empty. -/
theorem Current.afterDrain (h : Current client)
    (hempty : client.egress.removed = client.egress.pushes.length) : Current client.afterDrain := by
  unfold StreamClient.afterDrain
  split
  case h_1 hphase => exact (h.resume hphase hempty).access _
  case h_2 => exact (h.access _).setPhase (by decide) (by decide)
  case h_3 => exact h.setPhase (by decide) (by decide)
  all_goals exact h

/-- A session takes a frame to write it. -/
theorem Current.transmit (h : Current client) (hphase : client.phase = .session)
    {egress : Egress} (hpop : client.egress.write .pop = some egress) :
    Current (client.transmit egress) := by
  have hpopped := h.write hpop (by decide)
  obtain ⟨frame, hframes, hframe, hremoved⟩ := h.consistent.pop hpop
  have hpushes := Egress.pushes_write hpop
  obtain ⟨mark, hmark, hle⟩ := h.session hphase
  have htransmissions : (client.transmit egress).transmissions = client.transmissions ++
      [⟨client.connects.length - 1, client.egress.removed, frame⟩] := by
    rw [StreamClient.transmit, hframes]
    rfl
  refine ⟨hpopped.consistent, hpopped.failed, hpopped.resuming, hpopped.session, ?_, ?_⟩
  · intro transmission hmem
    rw [htransmissions, List.mem_append, List.mem_singleton] at hmem
    rcases hmem with hmem | rfl
    · exact hpopped.transmitted transmission hmem
    · refine ⟨?_, ?_, mark, ?_, hle⟩
      · exact hremoved ▸ Nat.lt_succ_self _
      · exact hpushes.symm ▸ hframe
      · exact List.getLast?_eq_getElem?.symm.trans hmark
  · rw [htransmissions, List.pairwise_append]
    refine ⟨h.ordered, List.pairwise_singleton _ _, ?_⟩
    intro earlier hearlier later hlater
    rw [List.mem_singleton.mp hlater]
    exact (h.transmitted earlier hearlier).1

/-- What follows a session starts no other. -/
theorem Current.afterSession (h : Current client) {outcome : SessionOutcome}
    (hafter : client.afterSession kind outcome = some after) : Current after := by
  cases outcome with
  | terminated => exact h.drainIn (by decide) (by decide) hafter
  | disconnected =>
    cases kind with
    | serial => exact h.drainIn (by decide) (by decide) hafter
    | tcpc =>
      cases hafter
      exact (h.access _).setPhase (by decide) (by decide)
    | tcpsClient => exact h.drainIn (by decide) (by decide) hafter

/-- One step keeps account of what the sessions have taken. -/
private theorem Current.moves (h : Current client) {losses : ℕ}
    (hmoves : Moves kind client losses after) : Current after := by
  cases hmoves with
  | accessed access => exact h.access access
  | cancelled => exact h.proceed h.consistent h.failed (List.prefix_refl _) le_rfl rfl rfl id id
  | moved hresuming hsession => exact h.setPhase hresuming hsession
  | draining hresuming hsession hdrain => exact h.drainIn hresuming hsession hdrain
  | connected _ hdrain => exact h.connect hdrain
  | wrote hwrite hstep => exact h.write hwrite (hstep true)
  | drained hwrite hidle =>
    have hdrained := h.write hwrite (by decide)
    exact hdrained.afterDrain (h.consistent.drained_all hwrite hidle)
  | popped hphase hpop => exact h.transmit hphase hpop
  | failed hwrite hafter => exact (h.write hwrite (by decide)).afterSession hafter
  | ended _ hafter => exact h.afterSession hafter

private theorem current_execute {capacity : ℕ} {actions : List Action}
    (hrun : execute (step kind) (start kind capacity) actions = some client) : Current client :=
  execute_invariant (current_start kind capacity) (fun h hstep => h.moves (step_moves hstep)) hrun

/-- In every run, a frame that a session takes was pushed after its connection had come up, and
no later one is taken before it or is the same push. The drop counter, with what a drain has yet
to add to it, has counted the evicted and the drained frames one by one. -/
theorem no_stale_replay {capacity : ℕ} {actions : List Action}
    (hrun : execute (step kind) (start kind capacity) actions = some client) :
    (∀ transmission ∈ client.transmissions,
      client.egress.pushes[transmission.number]? = some transmission.frame ∧
        ∃ mark, client.connects[transmission.session]? = some mark ∧
          mark ≤ transmission.number) ∧
      client.transmissions.Pairwise (fun earlier later => earlier.number < later.number) ∧
      client.egress.port.stats.droppedTx + UInt64.ofNat client.egress.writer.pending =
        UInt64.ofNat (client.egress.evicted + client.egress.drained) := by
  have hcurrent := current_execute hrun
  refine ⟨fun transmission hmem => (hcurrent.transmitted transmission hmem).2,
    hcurrent.ordered, ?_⟩
  have hdropped := hcurrent.consistent.droppedTx
  rw [hcurrent.failed, Nat.add_zero] at hdropped
  exact hdropped

/-- The router pushes a frame. -/
def Action.push (index : ℕ) : Action :=
  .access (.push ⟨[0xFD], ⟨7⟩, index⟩)

/-- A link that flaps: frames are pushed while it is down, while the queue is being drained and
in the session, and the write of one of them fails. -/
def flap : List Action :=
  [.push 0, .check, .dial .failed, .wait, .check, .dial .connected, .push 1, .drain, .drain,
    .drain, .push 2, .push 3, .pop, .write 1, .finishWrite, .push 4, .push 5, .pop, .failWrite,
    .push 6, .check, .dial .connected, .drain, .drain, .drain, .push 7, .pop]

/-- A connection that is lost with frames in the queue. -/
theorem no_stale_replay_flap :
    ∃ client, execute (step .tcpc) (start .tcpc 2) flap = some client ∧
      client.connects = [1, 7] ∧ client.transmissions.map Transmission.number = [2, 4, 7] ∧
      client.transmissions.map Transmission.session = [0, 0, 1] ∧
      client.egress.evicted = 1 ∧ client.egress.drained = 4 ∧
      client.transmissions.Pairwise (fun earlier later => earlier.number < later.number) := by
  have hflap : (execute (step .tcpc) (start .tcpc 2) flap).map (fun client =>
      (client.connects, client.transmissions.map Transmission.number,
        client.transmissions.map Transmission.session, client.egress.evicted,
        client.egress.drained)) = some ([1, 7], [2, 4, 7], [0, 0, 1], 1, 4) := by
    decide +kernel
  obtain ⟨client, hrun, hsummary⟩ := Option.map_eq_some_iff.mp hflap
  simp only [Prod.mk.injEq] at hsummary
  obtain ⟨hconnects, hnumbers, hsessions, hevicted, hdrained⟩ := hsummary
  exact ⟨client, hrun, hconnects, hnumbers, hsessions, hevicted, hdrained,
    (no_stale_replay hrun).2.1⟩

end StreamClient

end MavlinkRouter
