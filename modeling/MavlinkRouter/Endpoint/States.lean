import MavlinkRouter.Endpoint.Accounting

/-!
# The state of an endpoint

The state that an endpoint reports is stored by its own task, as connections come and go, and
by the router when it takes the endpoint down. What a step of a task stores can be read off the
step and the state before it: `connected`, `reconnecting` or nothing. The tasks of the peers of a
server store nothing at all.
-/

namespace MavlinkRouter

namespace Egress

variable {egress next after : Egress}

/-- The state that is reported. -/
def state (egress : Egress) : EndpointState :=
  egress.port.stats.state

/-- From one state of an endpoint to a later one its task has stored this, or nothing. -/
def Stores (stored : Option EndpointState) (before after : Egress) : Prop :=
  after.state = stored.getD before.state

private theorem Stores.nothing (h : after.state = egress.state) : Stores none egress after :=
  h

private theorem Stores.trans {stored : Option EndpointState} (h : next.state = egress.state)
    (h' : Stores stored next after) : Stores stored egress after := by
  rw [Stores, ← h]
  exact h'

private theorem stores_storeState (egress : Egress) (state : EndpointState) :
    Stores (some state) egress (egress.access (.storeState state)) :=
  rfl

/-- A writer stores no state. -/
theorem state_write {step : WriterStep} (h : egress.write step = some after) :
    after.state = egress.state := by
  have hport : after.port.stats.state = egress.port.stats.state := by
    obtain ⟨writer, port, written, hmoves, rfl⟩ := write_moves h
    have hrecord : (egress.record writer port step).port = port := by
      cases step with
      | fail counted => cases counted <;> rfl
      | _ => rfl
    rw [hrecord]
    generalize egress.writer = writing at hmoves
    cases hmoves with
    | popped hpop => rfl
    | wrote write count => rfl
    | finished write hrest => rfl
    | failed write counted => cases counted <;> rfl
    | startedDrain => rfl
    | discarded count hpop => rfl
    | emptied count hpop => rfl
  exact hport

/-- A drain ends with the round that finds the queue empty. -/
theorem write_drain_idle (h : egress.write .drain = some after) :
    after.writer = .idle ↔ egress.port.txQueue.frames = [] := by
  obtain ⟨writer, port, written, hmoves, rfl⟩ := write_moves h
  generalize egress.writer = writing at hmoves
  cases hmoves with
  | discarded count hpop =>
    refine iff_of_false (by rintro ⟨⟩) ?_
    intro hempty
    simp [TxQueue.pop, hempty] at hpop
  | emptied count hpop =>
    refine iff_of_true rfl ?_
    cases hframes : egress.port.txQueue.frames with
    | nil => rfl
    | cons frame frames => simp [TxQueue.pop, hframes] at hpop

private theorem state_sendDatagram (h : egress.sendDatagram = some after) :
    after.state = egress.state := by
  rw [sendDatagram] at h
  split at h
  · cases h
  · obtain ⟨written, hwrite, hfinish⟩ := Option.bind_eq_some_iff.mp h
    exact (state_write hfinish).trans (state_write hwrite)
  · cases h

end Egress

namespace StreamClient

variable {kind : StreamKind} {client after : StreamClient}

private theorem state_drainIn {phase : StreamPhase} (h : client.drainIn phase = some after) :
    after.egress.state = client.egress.state := by
  obtain ⟨egress, hwrite, rfl⟩ := Option.map_eq_some_iff.mp h
  exact Egress.state_write hwrite

/-- A step of the task, not of the router. -/
def Action.isOwn : Action → Bool
  | .access _ => false
  | _ => true

/-- The state that is stored at the end of a drain. -/
def storesAfterDrain (client : StreamClient) : Option EndpointState :=
  match client.phase with
  | .resuming => some .connected
  | .clearing => some .reconnecting
  | _ => none

/-- The state that is stored at the end of a session. -/
def storesAfterSession (kind : StreamKind) : SessionOutcome → Option EndpointState
  | .terminated => none
  | .disconnected => if kind = .tcpc then some .reconnecting else none

/-- The state that a step of the task stores. -/
def stores? (kind : StreamKind) (client : StreamClient) : Action → Option EndpointState
  | .drain =>
    if client.egress.port.txQueue.frames = [] then client.storesAfterDrain else none
  | .failWrite => storesAfterSession kind .disconnected
  | .endRead outcome => storesAfterSession kind outcome
  | _ => none

/-- A stream task stores only these states. -/
theorem stored_cases {action : Action} {state : EndpointState}
    (h : client.stores? kind action = some state) : state = .connected ∨ state = .reconnecting := by
  have hlost : ∀ {outcome}, storesAfterSession kind outcome = some state →
      state = .reconnecting := by
    intro outcome houtcome
    unfold storesAfterSession at houtcome
    split at houtcome
    · cases houtcome
    · exact (Option.some.inj (Option.ite_none_right_eq_some.mp houtcome).2).symm
  unfold stores? at h
  split at h
  · obtain ⟨-, hstored⟩ := Option.ite_none_right_eq_some.mp h
    unfold storesAfterDrain at hstored
    split at hstored
    · exact .inl (Option.some.inj hstored).symm
    · exact .inr (Option.some.inj hstored).symm
    · cases hstored
  · exact .inr (hlost h)
  · exact .inr (hlost h)
  · cases h

private theorem stores_afterDrain (client : StreamClient) :
    Egress.Stores client.storesAfterDrain client.egress client.afterDrain.egress := by
  unfold afterDrain storesAfterDrain
  cases client.phase <;> rfl

private theorem stores_afterSession {outcome : SessionOutcome}
    (h : client.afterSession kind outcome = some after) :
    Egress.Stores (storesAfterSession kind outcome) client.egress after.egress := by
  cases outcome with
  | terminated => exact .nothing (state_drainIn h)
  | disconnected =>
    cases kind with
    | serial => exact .nothing (state_drainIn h)
    | tcpc =>
      cases h
      exact Egress.stores_storeState _ _
    | tcpsClient => exact .nothing (state_drainIn h)

/-- A stream endpoint reports that it is connected when a session starts, and that it is
reconnecting when one is lost. -/
theorem stores_step {action : Action} (hown : action.isOwn = true)
    (h : client.step kind action = some after) :
    Egress.Stores (client.stores? kind action) client.egress after.egress := by
  cases action with
  | access access => cases hown
  | cancel =>
    cases h
    exact .nothing rfl
  | check =>
    obtain ⟨-, h⟩ := Option.ite_none_right_eq_some.mp h
    split at h
    · exact .nothing (state_drainIn h)
    · cases h
      exact .nothing rfl
  | dial outcome =>
    obtain ⟨-, h⟩ := Option.ite_none_right_eq_some.mp h
    cases outcome with
    | connected =>
      have hconnected : after.egress.state = client.connect.egress.state := state_drainIn h
      exact .nothing hconnected
    | cancelled =>
      obtain ⟨-, h⟩ := Option.ite_none_right_eq_some.mp h
      exact .nothing (state_drainIn h)
    | failed =>
      cases h
      exact .nothing rfl
  | wait =>
    simp only [step] at h
    split at h
    case h_1 =>
      split at h
      · exact .nothing (state_drainIn h)
      · cases h
        exact .nothing rfl
    case h_2 =>
      cases h
      exact .nothing rfl
    all_goals cases h
  | drain =>
    obtain ⟨egress, hwrite, hafter⟩ := Option.map_eq_some_iff.mp h
    have hdrained : egress.state = client.egress.state := Egress.state_write hwrite
    have hempty := Egress.write_drain_idle hwrite
    rw [stores?]
    split at hafter
    case h_1 hidle =>
      cases hafter
      rw [if_pos (hempty.mp hidle)]
      exact .trans hdrained (stores_afterDrain (client.setEgress egress))
    all_goals
      rename_i hbusy
      cases hafter
      rw [if_neg fun hnone => by cases hbusy.symm.trans (hempty.mpr hnone)]
      exact .nothing hdrained
  | pop =>
    obtain ⟨-, h⟩ := Option.ite_none_right_eq_some.mp h
    obtain ⟨egress, hpop, rfl⟩ := Option.map_eq_some_iff.mp h
    exact .nothing (Egress.state_write hpop)
  | write count =>
    obtain ⟨egress, hwrite, rfl⟩ := Option.map_eq_some_iff.mp h
    exact .nothing (Egress.state_write hwrite)
  | finishWrite =>
    obtain ⟨egress, hwrite, rfl⟩ := Option.map_eq_some_iff.mp h
    exact .nothing (Egress.state_write hwrite)
  | failWrite =>
    obtain ⟨egress, hwrite, hafter⟩ := Option.bind_eq_some_iff.mp h
    have hfailed : egress.state = client.egress.state := Egress.state_write hwrite
    exact .trans hfailed (stores_afterSession hafter)
  | endRead outcome =>
    obtain ⟨-, hafter⟩ := Option.ite_none_right_eq_some.mp h
    exact stores_afterSession hafter
  | stop =>
    obtain ⟨-, hafter⟩ := Option.ite_none_right_eq_some.mp h
    exact stores_afterSession hafter

/-- The phases of a client of a server, which has one session. -/
def InSession (client : StreamClient) : Prop :=
  client.phase = .session ∨ client.phase = .finishing ∨ client.phase = .done

private theorem InSession.drainIn (h : client.drainIn .finishing = some after) :
    after.InSession := by
  obtain ⟨egress, -, rfl⟩ := Option.map_eq_some_iff.mp h
  exact .inr (.inl rfl)

/-- The session of a client of a server ends with a drain, however it ends. -/
theorem afterSession_tcpsClient (client : StreamClient) (outcome : SessionOutcome) :
    client.afterSession .tcpsClient outcome = client.drainIn .finishing := by
  cases outcome <;> rfl

private theorem InSession.afterDrain (h : client.InSession) : client.afterDrain.InSession := by
  unfold StreamClient.afterDrain
  rcases h with hphase | hphase | hphase
  · rw [hphase]
    exact .inl hphase
  · rw [hphase]
    exact .inr (.inr rfl)
  · rw [hphase]
    exact .inr (.inr hphase)

/-- The task of a client of a server stores no state. -/
theorem InSession.stores (h : client.InSession) (action : Action) :
    client.stores? .tcpsClient action = none := by
  cases action with
  | drain =>
    have hnone : client.storesAfterDrain = none := by
      unfold storesAfterDrain
      rcases h with hphase | hphase | hphase <;> rw [hphase]
    rw [stores?, hnone, ite_self]
  | endRead outcome => cases outcome <;> rfl
  | _ => rfl

/-- A client of a server does not connect again. -/
theorem InSession.step (h : client.InSession) {action : Action}
    (hstep : client.step .tcpsClient action = some after) : after.InSession := by
  have hphase : ∀ {phase : StreamPhase}, client.phase = phase →
      phase = .session ∨ phase = .finishing ∨ phase = .done := by
    rintro _ rfl
    exact h
  cases action with
  | access access =>
    cases hstep
    exact h
  | cancel =>
    cases hstep
    exact h
  | check =>
    obtain ⟨hchecking, -⟩ := Option.ite_none_right_eq_some.mp hstep
    exact absurd (hphase hchecking) (by decide)
  | dial outcome =>
    obtain ⟨hconnecting, -⟩ := Option.ite_none_right_eq_some.mp hstep
    exact absurd (hphase hconnecting) (by decide)
  | wait =>
    simp only [StreamClient.step] at hstep
    split at hstep
    case h_1 hwaiting => exact absurd (hphase hwaiting) (by decide)
    case h_2 hwaiting => exact absurd (hphase hwaiting) (by decide)
    all_goals cases hstep
  | drain =>
    obtain ⟨egress, -, hafter⟩ := Option.map_eq_some_iff.mp hstep
    have hin : (client.setEgress egress).InSession := h
    split at hafter
    case h_1 =>
      cases hafter
      exact hin.afterDrain
    all_goals
      cases hafter
      exact hin
  | pop =>
    obtain ⟨-, htransmit⟩ := Option.ite_none_right_eq_some.mp hstep
    obtain ⟨egress, -, rfl⟩ := Option.map_eq_some_iff.mp htransmit
    exact h
  | write count =>
    obtain ⟨egress, -, rfl⟩ := Option.map_eq_some_iff.mp hstep
    exact h
  | finishWrite =>
    obtain ⟨egress, -, rfl⟩ := Option.map_eq_some_iff.mp hstep
    exact h
  | failWrite =>
    obtain ⟨egress, -, hafter⟩ := Option.bind_eq_some_iff.mp hstep
    rw [afterSession_tcpsClient] at hafter
    exact InSession.drainIn hafter
  | endRead outcome =>
    obtain ⟨-, hafter⟩ := Option.ite_none_right_eq_some.mp hstep
    rw [afterSession_tcpsClient] at hafter
    exact InSession.drainIn hafter
  | stop =>
    obtain ⟨-, hafter⟩ := Option.ite_none_right_eq_some.mp hstep
    rw [afterSession_tcpsClient] at hafter
    exact InSession.drainIn hafter

end StreamClient

namespace UdpClient

variable {table : MsgTable} {spec : UdpClientSpec} {client after : UdpClient}

/-- A step of the task, not of the router. -/
def Action.isOwn : Action → Bool
  | .access _ => false
  | _ => true

/-- The state that a step of the task stores. -/
def stores? (client : UdpClient) : Action → Option EndpointState
  | .bind bound => if bound && !client.cancelled then some .connected else none
  | .receive src _ _ _ =>
    match client.dest.classifyInbound src.ip with
    | .reject => none
    | .acceptAndLatch => some .connected
    | .acceptUpdate => some .connected
  | .send outcome fresh =>
    match client.dest.currentTarget, outcome with
    | none, _ =>
      if (client.dest.refresh fresh).currentTarget.isNone then some .reconnecting else none
    | some _, .sent => some .connected
    | some _, .failed => some .reconnecting
  | _ => none

/-- A `udpc:` task stores only these states. -/
theorem stored_cases {action : Action} {state : EndpointState}
    (h : client.stores? action = some state) : state = .connected ∨ state = .reconnecting := by
  unfold stores? at h
  split at h
  · exact .inl (Option.some.inj (Option.ite_none_right_eq_some.mp h).2).symm
  · split at h
    · cases h
    · exact .inl (Option.some.inj h).symm
    · exact .inl (Option.some.inj h).symm
  · split at h
    · exact .inr (Option.some.inj (Option.ite_none_right_eq_some.mp h).2).symm
    · exact .inl (Option.some.inj h).symm
    · exact .inr (Option.some.inj h).symm
  · cases h

private theorem stores_bind (bound : Bool) (client : UdpClient) :
    Egress.Stores (client.stores? (.bind bound)) client.egress (client.bind bound).egress := by
  cases hcancelled : client.cancelled with
  | true =>
    simp only [stores?, bind, hcancelled]
    cases bound <;> exact .nothing rfl
  | false =>
    simp only [stores?, bind, hcancelled]
    cases bound with
    | true => exact Egress.stores_storeState _ _
    | false => exact .nothing rfl

/-- A datagram is accepted. -/
theorem stores_accept (dest : Destination) (src : SocketAddr) (data : List UInt8)
    (now : Instant) (client : UdpClient) :
    Egress.Stores (some .connected) client.egress
      (((client.setDest dest).storeState .connected).ingest table spec src data now).egress :=
  (Ingress.confined_read client.framesOpen data client.ingress _).state

private theorem stores_handleInbound (src : SocketAddr) (data : List UInt8) (seen now : Instant)
    (client : UdpClient) :
    Egress.Stores (client.stores? (.receive src data seen now)) client.egress
      (client.handleInbound table spec src data seen now).egress := by
  cases hdecision : client.dest.classifyInbound src.ip with
  | reject =>
    simp only [stores?, handleInbound, hdecision]
    exact .nothing rfl
  | acceptAndLatch =>
    simp only [stores?, handleInbound, hdecision]
    exact stores_accept _ src data now client
  | acceptUpdate =>
    simp only [stores?, handleInbound, hdecision]
    exact stores_accept _ src data now client

/-- The state that a send stores. -/
private theorem stores_sendFrame {outcome : SendOutcome} {fresh : List IpAddr}
    (h : client.sendFrame outcome fresh = some after) :
    Egress.Stores (client.stores? (.send outcome fresh)) client.egress after.egress := by
  cases htarget : client.dest.currentTarget with
  | none =>
    simp only [sendFrame, htarget] at h
    obtain ⟨egress, hwrite, hafter⟩ := Option.map_eq_some_iff.mp h
    have hfailed : egress.state = client.egress.state := Egress.state_write hwrite
    simp only [stores?, htarget]
    dsimp only at hafter
    split at hafter
    · rename_i hnone
      cases hafter
      rw [if_pos (show (client.dest.refresh fresh).currentTarget.isNone = true from hnone)]
      exact .trans hfailed (Egress.stores_storeState egress _)
    · rename_i hsome
      cases hafter
      rw [if_neg (show ¬ (client.dest.refresh fresh).currentTarget.isNone = true from hsome)]
      exact .nothing hfailed
  | some target =>
    simp only [sendFrame, htarget] at h
    simp only [stores?, htarget]
    cases outcome with
    | sent =>
      obtain ⟨egress, hsend, rfl⟩ := Option.map_eq_some_iff.mp h
      exact .trans (Egress.state_sendDatagram hsend) (Egress.stores_storeState egress _)
    | failed =>
      obtain ⟨egress, hwrite, rfl⟩ := Option.map_eq_some_iff.mp h
      exact .trans (Egress.state_write hwrite) (Egress.stores_storeState egress _)

/-- A UDP client reports that it is connected when it is bound, when it has sent a frame and
when it accepts a datagram, and that it is reconnecting when it cannot send. -/
theorem stores_step {action : Action} (hown : action.isOwn = true)
    (h : client.step table spec action = some after) :
    Egress.Stores (client.stores? action) client.egress after.egress := by
  cases action with
  | access access => cases hown
  | cancel =>
    cases h
    exact .nothing rfl
  | closeFrames =>
    cases h
    exact .nothing rfl
  | resolve fresh =>
    obtain ⟨-, h⟩ := Option.ite_none_right_eq_some.mp h
    cases h
    exact .nothing rfl
  | bind bound =>
    obtain ⟨-, h⟩ := Option.ite_none_right_eq_some.mp h
    cases h
    exact stores_bind bound client
  | wait =>
    obtain ⟨-, h⟩ := Option.ite_none_right_eq_some.mp h
    cases h
    exact .nothing rfl
  | tick now fresh =>
    obtain ⟨-, h⟩ := Option.ite_none_right_eq_some.mp h
    cases h
    exact .nothing rfl
  | receive src data seen now =>
    obtain ⟨-, h⟩ := Option.ite_none_right_eq_some.mp h
    cases h
    exact stores_handleInbound src data seen now client
  | pop =>
    obtain ⟨-, h⟩ := Option.ite_none_right_eq_some.mp h
    obtain ⟨egress, hwrite, rfl⟩ := Option.map_eq_some_iff.mp h
    exact .nothing (Egress.state_write hwrite)
  | send outcome fresh => exact stores_sendFrame h
  | stop =>
    obtain ⟨-, h⟩ := Option.ite_none_right_eq_some.mp h
    obtain ⟨egress, hwrite, rfl⟩ := Option.map_eq_some_iff.mp h
    exact .nothing (Egress.state_write hwrite)
  | drain =>
    obtain ⟨egress, hwrite, hafter⟩ := Option.map_eq_some_iff.mp h
    have hdrained := Egress.state_write hwrite
    split at hafter
    all_goals
      cases hafter
      exact .nothing hdrained

end UdpClient

namespace PeerWriter

variable {writer after : PeerWriter}

/-- A step of the task, not of the router. -/
def Action.isOwn : Action → Bool
  | .access _ => false
  | _ => true

/-- The writer of a peer stores no state. -/
theorem state_step {action : Action} (hown : action.isOwn = true)
    (h : writer.step action = some after) : after.egress.state = writer.egress.state := by
  cases action with
  | access access => cases hown
  | cancel =>
    cases h
    rfl
  | pop =>
    obtain ⟨-, h⟩ := Option.ite_none_right_eq_some.mp h
    obtain ⟨egress, hwrite, rfl⟩ := Option.map_eq_some_iff.mp h
    exact Egress.state_write hwrite
  | send outcome =>
    cases outcome with
    | sent =>
      obtain ⟨egress, hsend, rfl⟩ := Option.map_eq_some_iff.mp h
      exact Egress.state_sendDatagram hsend
    | failed =>
      obtain ⟨egress, hwrite, rfl⟩ := Option.map_eq_some_iff.mp h
      exact Egress.state_write hwrite
  | stop =>
    obtain ⟨-, h⟩ := Option.ite_none_right_eq_some.mp h
    obtain ⟨egress, hwrite, rfl⟩ := Option.map_eq_some_iff.mp h
    exact Egress.state_write hwrite
  | drain =>
    obtain ⟨egress, hwrite, hafter⟩ := Option.map_eq_some_iff.mp h
    have hdrained := Egress.state_write hwrite
    split at hafter
    all_goals
      cases hafter
      exact hdrained

end PeerWriter

/-- The servers. -/
inductive ListenerKind where
  | tcps
  | udps
  deriving DecidableEq, Repr

/-- Where the task of a server stands: binding its address, waiting after a failed attempt,
serving its peers, or at its end. -/
inductive ListenerPhase where
  | binding
  | backingOff
  | serving
  | done
  deriving DecidableEq, Repr

/-- A server, as far as its own state goes; its peers are endpoints of their own. -/
structure Listener where
  port : Port
  phase : ListenerPhase
  cancelled : Bool

namespace Listener

variable {kind : ListenerKind} {listener after : Listener}

def start : Listener where
  port := ⟨{ state := .reconnecting }, .new 1⟩
  phase := .binding
  cancelled := false

def setPhase (listener : Listener) (phase : ListenerPhase) : Listener :=
  { listener with phase := phase }

/-- A step of the task, or of the cancellation. -/
inductive Action where
  | cancel
  | bind (bound : Bool)
  | wait
  | stop

/-- One step. A TCP server binds its address again after it has stopped serving, and finds out
then that it is cancelled. -/
def step (kind : ListenerKind) (listener : Listener) : Action → Option Listener
  | .cancel => some { listener with cancelled := true }
  | .bind bound =>
    if listener.phase = .binding then
      if listener.cancelled then some (listener.setPhase .done)
      else if bound then
        some ⟨listener.port.access (.storeState .connected), .serving, listener.cancelled⟩
      else some (listener.setPhase .backingOff)
    else none
  | .wait =>
    if listener.phase = .backingOff then
      some (listener.setPhase (if listener.cancelled then .done else .binding))
    else none
  | .stop =>
    if listener.phase = .serving ∧ listener.cancelled = true then
      some (listener.setPhase (if kind = .tcps then .binding else .done))
    else none

/-- The state that a step of the task stores. -/
def stores? (listener : Listener) : Action → Option EndpointState
  | .bind bound => if bound && !listener.cancelled then some .connected else none
  | _ => none

private theorem stored_connected {action : Action} {state : EndpointState}
    (h : listener.stores? action = some state) : state = .connected := by
  unfold stores? at h
  split at h
  · exact (Option.some.inj (Option.ite_none_right_eq_some.mp h).2).symm
  · cases h

/-- A server reports that it is connected when it is bound. -/
theorem state_step {action : Action} (h : listener.step kind action = some after) :
    after.port.stats.state = (listener.stores? action).getD listener.port.stats.state := by
  cases action with
  | cancel =>
    cases h
    rfl
  | bind bound =>
    obtain ⟨-, h⟩ := Option.ite_none_right_eq_some.mp h
    cases hcancelled : listener.cancelled with
    | true =>
      simp only [hcancelled, if_true] at h
      cases h
      simp [stores?, hcancelled, setPhase]
    | false =>
      cases bound with
      | true =>
        simp only [hcancelled, Bool.false_eq_true, if_false, if_true] at h
        cases h
        simp only [stores?, hcancelled]
        rfl
      | false =>
        simp only [hcancelled, Bool.false_eq_true, if_false] at h
        cases h
        rfl
  | wait =>
    obtain ⟨-, h⟩ := Option.ite_none_right_eq_some.mp h
    cases h
    rfl
  | stop =>
    obtain ⟨-, h⟩ := Option.ite_none_right_eq_some.mp h
    cases h
    rfl

end Listener

/-- A step of the task, not of the router. -/
def Transmitter.Action.isOwn : Transmitter.Action → Bool
  | .stream action => action.isOwn
  | .udpc action => action.isOwn
  | .udpsPeer action => action.isOwn

/-- The router accesses the shared state of an endpoint. -/
def Transmitter.access (transmitter : Transmitter) (access : PortAccess) : Transmitter :=
  match transmitter with
  | .stream kind client => .stream kind (client.setEgress (client.egress.access access))
  | .udpc spec client => .udpc spec (client.setEgress (client.egress.access access))
  | .udpsPeer writer => .udpsPeer (writer.setEgress (writer.egress.access access))

/-- The task that owns the shared state of an endpoint. -/
inductive Owner where
  | routed (transmitter : Transmitter)
  | server (kind : ListenerKind) (listener : Listener)

namespace Owner

variable {table : MsgTable} {owner after : Owner}

/-- The state it shares with the router and the stats task. -/
def port : Owner → Port
  | .routed transmitter => transmitter.egress.port
  | .server _ listener => listener.port

/-- The state it reports. -/
def state (owner : Owner) : EndpointState :=
  owner.port.stats.state

/-- The router accesses the shared state. -/
def access (owner : Owner) (access : PortAccess) : Owner :=
  match owner with
  | .routed transmitter => .routed (transmitter.access access)
  | .server kind listener =>
    .server kind { listener with port := listener.port.access access }

/-- The router reaches the port of any task. -/
theorem port_access (owner : Owner) (access : PortAccess) :
    (owner.access access).port = owner.port.access access := by
  cases owner with
  | routed transmitter => cases transmitter <;> rfl
  | server kind listener => rfl

inductive Action where
  | routed (action : Transmitter.Action)
  | server (action : Listener.Action)

/-- A step of the task itself. -/
def step (table : MsgTable) : Owner → Action → Option Owner
  | .routed transmitter, .routed action =>
    if action.isOwn then (transmitter.step table action).map .routed else none
  | .server kind listener, .server action => (listener.step kind action).map (.server kind)
  | _, _ => none

/-- The state that a step of the task stores. -/
def stores? : Owner → Action → Option EndpointState
  | .routed (.stream kind client), .routed (.stream action) => client.stores? kind action
  | .routed (.udpc _ client), .routed (.udpc action) => client.stores? action
  | .server _ listener, .server action => listener.stores? action
  | _, _ => none

/-- The state after a step is the one that the step stores, or the one before. -/
theorem state_step {action : Action} (h : owner.step table action = some after) :
    after.state = (owner.stores? action).getD owner.state := by
  unfold step at h
  split at h
  case h_1 transmitter action =>
    obtain ⟨hown, h⟩ := Option.ite_none_right_eq_some.mp h
    obtain ⟨next, hnext, rfl⟩ := Option.map_eq_some_iff.mp h
    unfold Transmitter.step at hnext
    split at hnext
    · obtain ⟨client, hclient, rfl⟩ := Option.map_eq_some_iff.mp hnext
      exact StreamClient.stores_step hown hclient
    · obtain ⟨client, hclient, rfl⟩ := Option.map_eq_some_iff.mp hnext
      exact UdpClient.stores_step hown hclient
    · obtain ⟨writer, hwriter, rfl⟩ := Option.map_eq_some_iff.mp hnext
      exact PeerWriter.state_step hown hwriter
    · cases hnext
  case h_2 kind listener action =>
    obtain ⟨next, hnext, rfl⟩ := Option.map_eq_some_iff.mp h
    exact Listener.state_step hnext
  case h_3 => cases h

/-- A task stores no other states than `connected` and `reconnecting`. -/
theorem stored_cases {action : Action} {state : EndpointState}
    (h : owner.stores? action = some state) : state = .connected ∨ state = .reconnecting := by
  unfold stores? at h
  split at h
  · exact StreamClient.stored_cases h
  · exact UdpClient.stored_cases h
  · exact .inl (Listener.stored_connected h)
  · cases h

/-- The peers of a server. -/
inductive IsPeer : Owner → Prop
  | tcps {client : StreamClient} (hsession : client.InSession) :
    IsPeer (.routed (.stream .tcpsClient client))
  | udps (writer : PeerWriter) : IsPeer (.routed (.udpsPeer writer))

/-- The router makes no peer of a task. -/
theorem IsPeer.access (h : owner.IsPeer) (access : PortAccess) : (owner.access access).IsPeer := by
  cases h with
  | tcps hsession => exact .tcps hsession
  | udps writer => exact .udps _

/-- The task of a peer stores no state. -/
theorem IsPeer.stores (h : owner.IsPeer) (action : Action) : owner.stores? action = none := by
  cases h with
  | tcps hsession =>
    cases action with
    | server action => rfl
    | routed action =>
      cases action with
      | stream action => exact hsession.stores action
      | udpc action => rfl
      | udpsPeer action => rfl
  | udps writer =>
    cases action with
    | server action => rfl
    | routed action => rfl

/-- A peer stays a peer. -/
theorem IsPeer.step (h : owner.IsPeer) {action : Action}
    (hstep : owner.step table action = some after) : after.IsPeer := by
  cases action with
  | server action => cases h <;> cases hstep
  | routed action =>
    cases h with
    | tcps hsession =>
      obtain ⟨-, hstep⟩ := Option.ite_none_right_eq_some.mp hstep
      obtain ⟨next, hnext, rfl⟩ := Option.map_eq_some_iff.mp hstep
      cases action with
      | stream action =>
        obtain ⟨client, hclient, rfl⟩ := Option.map_eq_some_iff.mp hnext
        exact .tcps (hsession.step hclient)
      | udpc action => cases hnext
      | udpsPeer action => cases hnext
    | udps writer =>
      obtain ⟨-, hstep⟩ := Option.ite_none_right_eq_some.mp hstep
      obtain ⟨next, hnext, rfl⟩ := Option.map_eq_some_iff.mp hstep
      cases action with
      | stream action => cases hnext
      | udpc action => cases hnext
      | udpsPeer action =>
        obtain ⟨writer, -, rfl⟩ := Option.map_eq_some_iff.mp hnext
        exact .udps writer

end Owner

end MavlinkRouter
