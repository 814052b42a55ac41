import MavlinkRouter.Endpoint.StreamClient
import MavlinkRouter.Udp.Client

/-!
# Egress accounting

Every endpoint has a transmit queue that the router pushes to and one writer that empties it:
the sessions of a stream endpoint, the task of a `udpc:` endpoint, or the writer of a `udps:`
peer. A pushed frame is in the queue, or it has been sent, or it has been counted as dropped,
unless a write failed that nobody counted.
-/

namespace MavlinkRouter

open Library (execute execute_induction execute_snoc Along along_nil along_snoc)

namespace Egress

/-- From one state to a later one the counters have been kept up, and a number of frames have
been lost. -/
structure Evolves (before : Egress) (losses : ℕ) (after : Egress) : Prop where
  consistent : before.Consistent → after.Consistent
  lost : after.lost = before.lost + losses

variable {egress next after : Egress} {losses losses' : ℕ}

private theorem Evolves.refl (egress : Egress) : egress.Evolves 0 egress :=
  ⟨id, rfl⟩

private theorem Evolves.trans (h : egress.Evolves losses next) (h' : next.Evolves losses' after) :
    egress.Evolves (losses + losses') after where
  consistent := h'.consistent ∘ h.consistent
  lost := by
    rw [h'.lost, h.lost]
    omega

private theorem evolves_access (egress : Egress) (access : PortAccess) :
    egress.Evolves 0 (egress.access access) :=
  ⟨fun h => h.access access, rfl⟩

/-- The reader leaves the writer's counters alone. -/
theorem evolves_setStats {stats : EndpointStats}
    (htx : stats.txFrames = egress.port.stats.txFrames)
    (hdropped : stats.droppedTx = egress.port.stats.droppedTx) :
    egress.Evolves 0 (egress.setStats stats) :=
  ⟨fun h => h.setPort rfl htx hdropped, rfl⟩

end Egress

/-- The number of frames a writer has taken from its queue and counted nowhere yet. -/
def Writer.inFlight (writer : Writer) : ℕ :=
  writer.frames.length + writer.pending

/-- The frames that a step of a writer loses without counting them. -/
def WriterStep.losses : WriterStep → ℕ
  | .pop => 0
  | .write _ => 0
  | .finish => 0
  | .fail true => 0
  | .fail false => 1
  | .startDrain => 0
  | .drain => 0

private theorem WriterStep.losses_eq_zero {step : WriterStep}
    (h : ∀ counted, step ≠ .fail counted) : step.losses = 0 := by
  cases step with
  | fail counted => exact absurd rfl (h counted)
  | _ => rfl

namespace Egress

variable {egress after : Egress}

private theorem evolves_write {step : WriterStep} (h : egress.write step = some after) :
    egress.Evolves step.losses after where
  consistent hconsistent := hconsistent.write h
  lost := by
    obtain ⟨writer, port, written, -, rfl⟩ := write_moves h
    cases step with
    | fail counted => cases counted <;> rfl
    | _ => rfl

private theorem evolves_sendDatagram (h : egress.sendDatagram = some after) :
    egress.Evolves 0 after := by
  rw [sendDatagram] at h
  split at h
  · cases h
  · obtain ⟨written, hwrite, hfinish⟩ := Option.bind_eq_some_iff.mp h
    exact (evolves_write hwrite).trans (evolves_write hfinish)
  · cases h

end Egress

namespace StreamClient

variable {kind : StreamKind} {client after : StreamClient}

private theorem evolves_drainIn {phase : StreamPhase} (h : client.drainIn phase = some after) :
    client.egress.Evolves 0 after.egress := by
  obtain ⟨egress, hwrite, rfl⟩ := Option.map_eq_some_iff.mp h
  exact Egress.evolves_write hwrite

private theorem evolves_afterDrain (client : StreamClient) :
    client.egress.Evolves 0 client.afterDrain.egress := by
  unfold afterDrain
  split
  case h_1 => exact Egress.evolves_access _ _
  case h_2 => exact Egress.evolves_access _ _
  all_goals exact .refl _

private theorem evolves_afterSession {outcome : SessionOutcome}
    (h : client.afterSession kind outcome = some after) : client.egress.Evolves 0 after.egress := by
  cases outcome with
  | terminated => exact evolves_drainIn h
  | disconnected =>
    cases kind with
    | serial => exact evolves_drainIn h
    | tcpc =>
      cases h
      exact Egress.evolves_access _ _
    | tcpsClient => exact evolves_drainIn h

/-- A step of a stream task keeps the accounts. -/
private theorem evolves_moves {losses : ℕ} (h : Moves kind client losses after) :
    client.egress.Evolves losses after.egress := by
  cases h with
  | accessed access => exact Egress.evolves_access _ access
  | cancelled => exact .refl _
  | moved => exact .refl _
  | draining _ _ hdrain => exact evolves_drainIn hdrain
  | connected _ hdrain =>
    have hconnected : client.connect.egress.Evolves 0 after.egress := evolves_drainIn hdrain
    exact hconnected
  | wrote hwrite hstep =>
    have hwrote := Egress.evolves_write hwrite
    rwa [WriterStep.losses_eq_zero hstep] at hwrote
  | @drained egress hwrite =>
    have hdrained := Egress.evolves_write hwrite
    exact hdrained.trans (evolves_afterDrain (client.setEgress egress))
  | popped _ hpop => exact Egress.evolves_write hpop
  | failed hwrite hafter =>
    have hfailed := Egress.evolves_write hwrite
    exact hfailed.trans (evolves_afterSession hafter)
  | ended _ hafter => exact evolves_afterSession hafter

end StreamClient

namespace UdpClient

variable {table : MsgTable} {spec : UdpClientSpec} {client after : UdpClient}

/-- Whether the frame that is being sent reaches the network. -/
def Sends (client : UdpClient) (outcome : SendOutcome) : Prop :=
  client.dest.currentTarget ≠ none ∧ outcome = .sent

instance (client : UdpClient) (outcome : SendOutcome) : Decidable (client.Sends outcome) :=
  inferInstanceAs (Decidable (_ ∧ _))

/-- A frame that cannot be sent is lost. -/
def losses (client : UdpClient) : Action → ℕ
  | .access _ => 0
  | .cancel => 0
  | .closeFrames => 0
  | .resolve _ => 0
  | .bind _ => 0
  | .wait => 0
  | .tick _ _ => 0
  | .receive _ _ _ _ => 0
  | .pop => 0
  | .send outcome _ => if client.Sends outcome then 0 else 1
  | .stop => 0
  | .drain => 0

private theorem evolves_bind (bound : Bool) (client : UdpClient) :
    client.egress.Evolves 0 (client.bind bound).egress := by
  rw [bind]
  split
  · exact .refl _
  · split
    · exact Egress.evolves_access _ _
    · exact .refl _

private theorem evolves_ingest (src : SocketAddr) (data : List UInt8) (now : Instant)
    (client : UdpClient) :
    client.egress.Evolves 0 (client.ingest table spec src data now).egress := by
  refine Egress.evolves_setStats ?_ ?_
  · exact (Ingress.confined_read client.framesOpen data client.ingress _).txFrames
  · exact (Ingress.confined_read client.framesOpen data client.ingress _).droppedTx

/-- A datagram is accepted. -/
theorem evolves_accept (dest : Destination) (src : SocketAddr) (data : List UInt8)
    (now : Instant) (client : UdpClient) :
    client.egress.Evolves 0
      (((client.setDest dest).storeState .connected).ingest table spec src data now).egress := by
  have hstored := Egress.evolves_access client.egress (.storeState .connected)
  exact hstored.trans (evolves_ingest src data now ((client.setDest dest).storeState .connected))

private theorem evolves_handleInbound (src : SocketAddr) (data : List UInt8) (seen now : Instant)
    (client : UdpClient) :
    client.egress.Evolves 0 (client.handleInbound table spec src data seen now).egress := by
  rw [handleInbound]
  split
  · exact Egress.evolves_setStats rfl rfl
  · exact evolves_accept _ src data now client
  · exact evolves_accept _ src data now client

private theorem evolves_skipFrame {fresh : List IpAddr} (h : client.skipFrame fresh = some after) :
    client.egress.Evolves 1 after.egress := by
  obtain ⟨egress, hwrite, rfl⟩ := Option.map_eq_some_iff.mp h
  have hfailed := Egress.evolves_write hwrite
  dsimp only
  split
  · exact hfailed.trans (Egress.evolves_access egress _)
  · exact hfailed

/-- A send counts what it loses. -/
private theorem evolves_sendFrame {outcome : SendOutcome} {fresh : List IpAddr}
    (h : client.sendFrame outcome fresh = some after) :
    client.egress.Evolves (client.losses (.send outcome fresh)) after.egress := by
  rw [losses]
  unfold sendFrame at h
  split at h
  case h_1 htarget =>
    rw [if_neg (fun hsends => hsends.1 htarget)]
    exact evolves_skipFrame h
  case h_2 target htarget =>
    have hsome : client.dest.currentTarget ≠ none := by simp [htarget]
    cases outcome with
    | sent =>
      obtain ⟨egress, hsend, rfl⟩ := Option.map_eq_some_iff.mp h
      rw [if_pos ⟨hsome, rfl⟩]
      exact (Egress.evolves_sendDatagram hsend).trans (Egress.evolves_access egress _)
    | failed =>
      obtain ⟨egress, hwrite, rfl⟩ := Option.map_eq_some_iff.mp h
      rw [if_neg (fun hsends => nomatch hsends.2)]
      exact (Egress.evolves_write hwrite).trans (Egress.evolves_access egress _)

/-- A step of a `udpc:` task keeps the accounts. -/
private theorem evolves_step {action : Action} (h : client.step table spec action = some after) :
    client.egress.Evolves (client.losses action) after.egress := by
  cases action with
  | access access =>
    cases h
    exact Egress.evolves_access _ access
  | cancel =>
    cases h
    exact .refl _
  | closeFrames =>
    cases h
    exact .refl _
  | resolve fresh =>
    obtain ⟨-, h⟩ := Option.ite_none_right_eq_some.mp h
    cases h
    exact .refl _
  | bind bound =>
    obtain ⟨-, h⟩ := Option.ite_none_right_eq_some.mp h
    cases h
    exact evolves_bind bound client
  | wait =>
    obtain ⟨-, h⟩ := Option.ite_none_right_eq_some.mp h
    cases h
    exact .refl _
  | tick now fresh =>
    obtain ⟨-, h⟩ := Option.ite_none_right_eq_some.mp h
    cases h
    exact .refl _
  | receive src data seen now =>
    obtain ⟨-, h⟩ := Option.ite_none_right_eq_some.mp h
    cases h
    exact evolves_handleInbound src data seen now client
  | pop =>
    obtain ⟨-, h⟩ := Option.ite_none_right_eq_some.mp h
    obtain ⟨egress, hwrite, rfl⟩ := Option.map_eq_some_iff.mp h
    exact Egress.evolves_write hwrite
  | send outcome fresh => exact evolves_sendFrame h
  | stop =>
    obtain ⟨-, h⟩ := Option.ite_none_right_eq_some.mp h
    obtain ⟨egress, hwrite, rfl⟩ := Option.map_eq_some_iff.mp h
    exact Egress.evolves_write hwrite
  | drain =>
    obtain ⟨egress, hwrite, hafter⟩ := Option.map_eq_some_iff.mp h
    have hdrained := Egress.evolves_write hwrite
    split at hafter
    all_goals
      cases hafter
      exact hdrained

end UdpClient

/-- The writer of a `udps:` peer. -/
structure PeerWriter where
  egress : Egress
  cancelled : Bool
  done : Bool

namespace PeerWriter

/-- The writer of a peer that has just been admitted. -/
def start (capacity : ℕ) : PeerWriter where
  egress := .start capacity .connected
  cancelled := false
  done := false

def setEgress (writer : PeerWriter) (egress : Egress) : PeerWriter :=
  { writer with egress := egress }

/-- A step of `run_peer_writer`, or of the tasks around it. -/
inductive Action where
  | access (access : PortAccess)
  | cancel
  | pop
  | send (outcome : SendOutcome)
  | stop
  | drain

/-- One step. A failed send counts the frame as dropped. -/
def step (writer : PeerWriter) : Action → Option PeerWriter
  | .access access => some (writer.setEgress (writer.egress.access access))
  | .cancel => some { writer with cancelled := true }
  | .pop =>
    if writer.done = false then (writer.egress.write .pop).map writer.setEgress else none
  | .send outcome =>
    match outcome with
    | .sent => writer.egress.sendDatagram.map writer.setEgress
    | .failed => (writer.egress.write (.fail true)).map writer.setEgress
  | .stop =>
    if writer.done = false ∧ writer.cancelled = true then
      (writer.egress.write .startDrain).map writer.setEgress
    else none
  | .drain =>
    (writer.egress.write .drain).map fun egress =>
      match egress.writer with
      | .idle => ⟨egress, writer.cancelled, true⟩
      | .writing _ => writer.setEgress egress
      | .draining _ => writer.setEgress egress

variable {writer after : PeerWriter}

/-- A step of a peer's writer keeps the accounts. -/
private theorem evolves_step {action : Action} (h : writer.step action = some after) :
    writer.egress.Evolves 0 after.egress := by
  cases action with
  | access access =>
    cases h
    exact Egress.evolves_access _ access
  | cancel =>
    cases h
    exact .refl _
  | pop =>
    obtain ⟨-, h⟩ := Option.ite_none_right_eq_some.mp h
    obtain ⟨egress, hwrite, rfl⟩ := Option.map_eq_some_iff.mp h
    exact Egress.evolves_write hwrite
  | send outcome =>
    cases outcome with
    | sent =>
      obtain ⟨egress, hsend, rfl⟩ := Option.map_eq_some_iff.mp h
      exact Egress.evolves_sendDatagram hsend
    | failed =>
      obtain ⟨egress, hwrite, rfl⟩ := Option.map_eq_some_iff.mp h
      exact Egress.evolves_write hwrite
  | stop =>
    obtain ⟨-, h⟩ := Option.ite_none_right_eq_some.mp h
    obtain ⟨egress, hwrite, rfl⟩ := Option.map_eq_some_iff.mp h
    exact Egress.evolves_write hwrite
  | drain =>
    obtain ⟨egress, hwrite, hafter⟩ := Option.map_eq_some_iff.mp h
    have hdrained := Egress.evolves_write hwrite
    split at hafter
    all_goals
      cases hafter
      exact hdrained

end PeerWriter

/-- The endpoints that the router pushes frames to. -/
inductive Transmitter where
  | stream (kind : StreamKind) (client : StreamClient)
  | udpc (spec : UdpClientSpec) (client : UdpClient)
  | udpsPeer (writer : PeerWriter)

namespace Transmitter

/-- An endpoint that nothing has been pushed to. -/
inductive Starts : Transmitter → Prop where
  | stream (kind : StreamKind) (capacity : ℕ) : Starts (.stream kind (.start kind capacity))
  | udpc (spec : UdpClientSpec) (capacity : ℕ) : Starts (.udpc spec (.start spec capacity))
  | udpsPeer (capacity : ℕ) : Starts (.udpsPeer (.start capacity))

inductive Action where
  | stream (action : StreamClient.Action)
  | udpc (action : UdpClient.Action)
  | udpsPeer (action : PeerWriter.Action)

/-- An endpoint of each kind takes the steps of its kind. -/
def step (table : MsgTable) : Transmitter → Action → Option Transmitter
  | .stream kind client, .stream action => (client.step kind action).map (.stream kind)
  | .udpc spec client, .udpc action => (client.step table spec action).map (.udpc spec)
  | .udpsPeer writer, .udpsPeer action => (writer.step action).map .udpsPeer
  | _, _ => none

def egress : Transmitter → Egress
  | .stream _ client => client.egress
  | .udpc _ client => client.egress
  | .udpsPeer writer => writer.egress

/-- A write to a stream does not fail, and a `udpc:` endpoint that sends a frame has a target
for it and does not fail either. -/
def WritesSucceed : Transmitter → Action → Prop
  | .stream _ _, .stream .failWrite => False
  | .udpc _ client, .udpc (.send outcome _) => client.Sends outcome
  | _, _ => True

variable {table : MsgTable} {first transmitter after : Transmitter}

/-- A step loses a frame if it fails to write it, and otherwise none. -/
theorem evolves_step {action : Action} (h : transmitter.step table action = some after) :
    ∃ losses, transmitter.egress.Evolves losses after.egress ∧
      (losses = 0 ↔ transmitter.WritesSucceed action) := by
  unfold step at h
  split at h
  case h_1 kind client action =>
    obtain ⟨next, hnext, rfl⟩ := Option.map_eq_some_iff.mp h
    refine ⟨action.losses, StreamClient.evolves_moves (StreamClient.step_moves hnext), ?_⟩
    cases action <;> simp [StreamClient.Action.losses, WritesSucceed]
  case h_2 spec client action =>
    obtain ⟨next, hnext, rfl⟩ := Option.map_eq_some_iff.mp h
    refine ⟨client.losses action, UdpClient.evolves_step hnext, ?_⟩
    cases action <;> simp [UdpClient.losses, WritesSucceed]
  case h_3 writer action =>
    obtain ⟨next, hnext, rfl⟩ := Option.map_eq_some_iff.mp h
    exact ⟨0, PeerWriter.evolves_step hnext, by simp [WritesSucceed]⟩
  case h_4 => cases h

private theorem Starts.egress (h : first.Starts) :
    ∃ capacity state, first.egress = .start capacity state := by
  cases h with
  | stream kind capacity => cases kind <;> exact ⟨capacity, _, rfl⟩
  | udpc spec capacity => exact ⟨capacity, _, rfl⟩
  | udpsPeer capacity => exact ⟨capacity, _, rfl⟩

/-- In every run the counters are kept up, and no frame is lost as long as writes succeed. -/
theorem accounted (hstart : first.Starts) {actions : List Action}
    (hrun : execute (step table) first actions = some transmitter) :
    transmitter.egress.Consistent ∧
      (transmitter.egress.lost = 0 ↔ Along (step table) WritesSucceed first actions) := by
  -- The motive carries the run itself, which `along_snoc` needs.
  suffices h : execute (step table) first actions = some transmitter ∧
      transmitter.egress.Consistent ∧
      (transmitter.egress.lost = 0 ↔ Along (step table) WritesSucceed first actions) from h.2
  refine execute_induction (motive := fun done reached =>
    execute (step table) first done = some reached ∧ reached.egress.Consistent ∧
      (reached.egress.lost = 0 ↔ Along (step table) WritesSucceed first done)) ?_ ?_ hrun
  · obtain ⟨capacity, state, hegress⟩ := hstart.egress
    rw [hegress]
    exact ⟨rfl, Egress.consistent_start capacity state, iff_of_true rfl along_nil⟩
  · rintro done before action after ⟨hbefore, hconsistent, hlost⟩ hstep
    obtain ⟨losses, hevolves, hlosses⟩ := evolves_step hstep
    refine ⟨execute_snoc.mpr ⟨before, hbefore, hstep⟩, hevolves.consistent hconsistent, ?_⟩
    rw [hevolves.lost, along_snoc hbefore, ← hlost, ← hlosses, Nat.add_eq_zero_iff]

end Transmitter

namespace Egress

variable {egress : Egress}

/-- When nothing is in flight, a pushed frame is sent, dropped, queued or lost. -/
theorem Consistent.idle (h : Consistent egress) (hidle : egress.writer.inFlight = 0) :
    egress.port.stats.droppedTx =
        UInt64.ofNat (egress.evicted + egress.drained + egress.failed) ∧
      egress.pushes.length = egress.sent + (egress.evicted + egress.drained + egress.failed) +
        egress.port.txQueue.frames.length + egress.lost := by
  obtain ⟨hframes, hpending⟩ := Nat.add_eq_zero_iff.mp hidle
  constructor
  · have hdropped := h.droppedTx
    rw [hpending] at hdropped
    exact (UInt64.add_zero _).symm.trans hdropped
  · rw [h.length_eq, removed, hframes]
    omega

/-- The balance in the arithmetic of the counters. -/
theorem Consistent.balance (h : Consistent egress) (hidle : egress.writer.inFlight = 0) :
    UInt64.ofNat egress.pushes.length = egress.port.stats.txFrames +
      egress.port.stats.droppedTx + UInt64.ofNat egress.port.txQueue.frames.length +
        UInt64.ofNat egress.lost := by
  obtain ⟨hdropped, hpushes⟩ := h.idle hidle
  rw [hpushes, h.txFrames, hdropped, UInt64.ofNat_add, UInt64.ofNat_add, UInt64.ofNat_add]

/-- As long as the counters do not wrap, the balance holds of the numbers. -/
theorem Consistent.balance_nat (h : Consistent egress) (hidle : egress.writer.inFlight = 0)
    (hcount : egress.pushes.length < 2 ^ 64) :
    egress.pushes.length = egress.port.stats.txFrames.toNat +
      egress.port.stats.droppedTx.toNat + egress.port.txQueue.frames.length + egress.lost := by
  obtain ⟨hdropped, hpushes⟩ := h.idle hidle
  have hsent : egress.sent < UInt64.size := by
    rw [UInt64.size]
    omega
  have hlost : egress.evicted + egress.drained + egress.failed < UInt64.size := by
    rw [UInt64.size]
    omega
  rw [h.txFrames, hdropped, UInt64.toNat_ofNat_of_lt' hsent, UInt64.toNat_ofNat_of_lt' hlost]
  exact hpushes

end Egress

namespace Transmitter

variable {table : MsgTable} {first transmitter : Transmitter}

/-- Egress accounting: whenever no frame is in flight, every pushed frame is counted as sent or
as dropped or is still queued, in every run in which writes succeed. As long as the counters do
not wrap, these are the only such runs. -/
theorem egress_accounting (hstart : first.Starts) {actions : List Action}
    (hrun : execute (step table) first actions = some transmitter)
    (hidle : transmitter.egress.writer.inFlight = 0) :
    (Along (step table) WritesSucceed first actions →
      UInt64.ofNat transmitter.egress.pushes.length =
        transmitter.egress.port.stats.txFrames + transmitter.egress.port.stats.droppedTx +
          UInt64.ofNat transmitter.egress.port.txQueue.frames.length) ∧
      (transmitter.egress.pushes.length < 2 ^ 64 →
        (transmitter.egress.pushes.length =
          transmitter.egress.port.stats.txFrames.toNat +
            transmitter.egress.port.stats.droppedTx.toNat +
            transmitter.egress.port.txQueue.frames.length ↔
          Along (step table) WritesSucceed first actions)) := by
  obtain ⟨hconsistent, hlost⟩ := accounted hstart hrun
  constructor
  · intro hsucceed
    have hbalance := hconsistent.balance hidle
    rw [hlost.mpr hsucceed] at hbalance
    exact hbalance.trans (UInt64.add_zero _)
  · intro hcount
    have hbalance := hconsistent.balance_nat hidle hcount
    rw [← hlost]
    omega

/-- The router pushes a frame. -/
def pushed : PortAccess :=
  .push ⟨[0xFD], ⟨7⟩, 0⟩

/-- What an observer sees of an endpoint: the number of pushes, the counters, the length of the
queue and the number of frames in flight. -/
def summary (transmitter : Transmitter) : ℕ × UInt64 × UInt64 × ℕ × ℕ :=
  (transmitter.egress.pushes.length, transmitter.egress.port.stats.txFrames,
    transmitter.egress.port.stats.droppedTx, transmitter.egress.port.txQueue.frames.length,
    transmitter.egress.writer.inFlight)

/-- A client that knows the address of its host sends one of two frames. -/
theorem egress_accounting_sent :
    let spec : UdpClientSpec := ⟨"host", 14550, ⟨1⟩, 30, {}⟩
    let actions : List Action := [.udpc (.resolve [.v4 1]), .udpc (.bind true),
      .udpc (.access pushed), .udpc (.access pushed), .udpc .pop, .udpc (.send .sent [])]
    ∃ transmitter,
      execute (step ⟨[], .nil⟩) (.udpc spec (.start spec 2)) actions = some transmitter ∧
        transmitter.summary = (2, 1, 0, 1, 0) ∧
        Along (step ⟨[], .nil⟩) WritesSucceed (.udpc spec (.start spec 2)) actions := by
  intro spec actions
  have hsummary : (execute (step ⟨[], .nil⟩) (.udpc spec (.start spec 2)) actions).map summary =
      some (2, 1, 0, 1, 0) := by
    decide +kernel
  obtain ⟨transmitter, hrun, hfields⟩ := Option.map_eq_some_iff.mp hsummary
  refine ⟨transmitter, hrun, hfields, ?_⟩
  simp only [summary, Prod.mk.injEq] at hfields
  obtain ⟨hpushes, htx, hdropped, hqueue, hidle⟩ := hfields
  refine ((egress_accounting (.udpc spec 2) hrun hidle).2 ?_).mp ?_
  · rw [hpushes]
    norm_num
  · rw [hpushes, htx, hdropped, hqueue]
    rfl

/-- A frame whose write fails, and one for which there is no address, are counted nowhere. -/
theorem frame_lost_uncounted :
    let spec : UdpClientSpec := ⟨"host", 14550, ⟨1⟩, 30, {}⟩
    (execute (step ⟨[], .nil⟩) (.stream .tcpc (.start .tcpc 2))
        [.stream .check, .stream (.dial .connected), .stream .drain, .stream (.access pushed),
          .stream .pop, .stream .failWrite]).map summary = some (1, 0, 0, 0, 0) ∧
      (execute (step ⟨[], .nil⟩) (.udpc spec (.start spec 2))
        [.udpc (.resolve []), .udpc (.bind true), .udpc (.access pushed), .udpc .pop,
          .udpc (.send .sent [])]).map summary = some (1, 0, 0, 0, 0) := by
  decide +kernel

end Transmitter

end MavlinkRouter
