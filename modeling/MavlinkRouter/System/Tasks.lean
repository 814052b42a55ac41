import MavlinkRouter.Config.Spec
import MavlinkRouter.Endpoint.SessionLoop
import MavlinkRouter.System.RouterLoop
import MavlinkRouter.Udp.Server

/-!
# The tasks and what they wait for

The router task together with the tasks of all endpoints and of their peers, as they are
spawned, one step between two points at which they can be interrupted. A task waits for room
in one of the router's channels, for its transport or the resolver, for time to pass, or for
its children to return; what the transport, the resolver and the clock answer is left open.
-/

namespace MavlinkRouter

namespace Wiring

def storeState (wiring : Wiring) (state : EndpointState) : Wiring :=
  wiring.setStats (wiring.port.stats.storeState state)

/-- One round of `drain_and_discard`. -/
def drain (wiring : Wiring) (count : ℕ) : Writer × Wiring :=
  ((Writer.drain count wiring.port).1, wiring.setPort (Writer.drain count wiring.port).2)

/-- Send an event and tell whether that has succeeded. A send waits while the channel is full
and fails if it is closed. -/
def sendEvent (wiring : Wiring) (event : EndpointEvent) : Option (Bool × Wiring) :=
  match wiring.events.trySend event with
  | .ok events => some (true, { wiring with events := events })
  | .error .full => none
  | .error .closed => some (false, wiring)

end Wiring

/-- The endpoints that connect again and again. -/
inductive DialKind where
  | serial
  | tcpc
  deriving DecidableEq, Repr

/-- Where a `serial:` or `tcpc:` task stands. It checks the token, opens its device, or resolves
its host and tries `left` more addresses; it waits after a failure, drains its queue before a
session, and after one drains it again and waits. -/
inductive StreamTask where
  | checking
  | opening
  | resolving
  | dialing (left : ℕ)
  | connecting (left : ℕ)
  | backingOff
  | resuming (count : ℕ)
  | session (session : SessionLoop)
  | clearing (count : ℕ)
  | reopening
  | finishing (count : ℕ)
  | returned

/-- Where the task of an accepted client stands. -/
inductive TcpsChild where
  | session (session : SessionLoop)
  | finishing (outcome : SessionOutcome) (count : ℕ)
  | leaving (outcome : SessionOutcome)
  | returned

/-- What distinguishes one `tcps:` listener from another. -/
structure TcpServerSpec where
  parentId : EndpointId
  parentName : String
  identity : IdentityFlags

/-- Where a `tcps:` task stands. -/
inductive TcpServerTask where
  | checking
  | binding
  | backingOff
  | selecting
  | polled
  | retrying
  | announcing (childId : EndpointId) (peerAddr : SocketAddr)
  | joining
  | returned

/-- Where a `udpc:` task stands when it is not forwarding frames. It resolves its host again
when the latch is checked and when a frame could not be sent, and then stores a state. -/
inductive UdpClientPhase where
  | resolving
  | checking
  | binding
  | backingOff
  | selecting
  | polled
  | sending (frame : Bytes)
  | refreshing (state : Option EndpointState)
  | finishing (count : ℕ)
  | returned

structure UdpClientTask where
  phase : UdpClientPhase
  intake : Intake

/-- A peer of a `udps:` task. -/
structure Peer where
  src : SocketAddr
  childId : EndpointId
  lastSeen : Instant
  intake : Intake

/-- Where a `udps:` task stands. The peer whose datagram it is handling is not in the table. -/
inductive UdpServerPhase where
  | checking
  | binding
  | backingOff
  | selecting
  | polled
  | retrying
  | reaping (expired : List SocketAddr)
  | removing (childId : EndpointId) (expired : List SocketAddr)
  | admitting (childId : EndpointId) (datagram : Datagram)
  | evicting (victim childId : EndpointId) (datagram : Datagram)
  | handling (peer : Peer)
  | stopping
  | joining
  | returned

structure UdpServerTask where
  peers : List Peer
  phase : UdpServerPhase

/-- Where the writer of a peer stands. -/
inductive PeerWriterTask where
  | selecting
  | polled
  | sending (frame : Bytes)
  | finishing (count : ℕ)
  | returned

/-- The tasks. -/
inductive Control where
  | stream (kind : DialKind) (filters : Filters) (task : StreamTask)
  | tcps (spec : TcpServerSpec) (task : TcpServerTask)
  | tcpsChild (parentId : EndpointId) (filters : Filters) (task : TcpsChild)
  | udpc (filters : Filters) (task : UdpClientTask)
  | udps (spec : UdpServerSpec) (task : UdpServerTask)
  | peerWriter (parentId : EndpointId) (task : PeerWriterTask)

/-- A task and the endpoint it runs for. -/
structure Task where
  id : EndpointId
  control : Control

/-- What happens at the points where tasks can be interrupted: the token is checked, or polled
as the first branch of a `select!`, no branch is ready, a wait ends, a lookup, an attempt to
bind, to connect, to accept, to receive or to send ends, a timer ticks, one step of a session
or of forwarding frames is taken, a session or the handling of a datagram is left, a frame is
taken from the queue or drained, a peer is removed, an event is sent, also for a peer that is
found by visiting the table, and the children are joined. -/
inductive TaskStep where
  | check
  | poll
  | idle
  | wait (elapsed : Bool)
  | resolve (count : ℕ)
  | bind (bound : Bool)
  | connect (connected : Bool)
  | accept (peerAddr : Option SocketAddr)
  | receive (datagram : Option Datagram)
  | sent (delivered : Bool)
  | tick (now : Instant) (visit : Library.Traversal Peer)
  | session (step : SessionStep)
  | forward
  | leave
  | pop
  | drain
  | remove
  | announce
  | visit (visit : Library.Traversal Peer)
  | join

/-- What a task sees of the others: the next id of the allocator, whether its own token has been
cancelled, and whether its children have returned. -/
structure TaskEnv where
  table : MsgTable
  format : AddrFormat
  next : EndpointId
  revoked : Bool
  joined : Bool

/-- The outcome of one step of a task: where it stands, what it shares, the tasks it has
spawned, the peers whose writers it has cancelled, and the number of ids it has allocated. -/
structure Turn (κ : Type) where
  control : κ
  wiring : Wiring
  spawned : List Task
  revoked : List EndpointId
  allocated : ℕ

namespace Turn

variable {κ μ : Type}

/-- The task moves on. -/
def move (control : κ) (wiring : Wiring) : Turn κ :=
  ⟨control, wiring, [], [], 0⟩

def map (turn : Turn κ) (embed : κ → μ) : Turn μ :=
  ⟨embed turn.control, turn.wiring, turn.spawned, turn.revoked, turn.allocated⟩

/-- `wait_or_cancel` returns: the time has elapsed, or the token has been cancelled. -/
def wait (wiring : Wiring) (elapsed : Bool) (onElapsed onCancel : κ) : Option (Turn κ) :=
  if elapsed then some (move onElapsed wiring)
  else if wiring.cancelled then some (move onCancel wiring)
  else none

/-- One round of `drain_and_discard`, which goes on or is done. -/
def drain (wiring : Wiring) (count : ℕ) (again : ℕ → κ) (done : κ) (state : Option EndpointState) :
    Turn κ :=
  match wiring.drain count with
  | (.draining count, drained) => move (again count) drained
  | (_, drained) => move done (state.elim drained drained.storeState)

end Turn

namespace StreamTask

/-- What follows a session. -/
def afterSession (kind : DialKind) (wiring : Wiring) : SessionOutcome → Turn StreamTask
  | .terminated => .move (.finishing 0) wiring
  | .disconnected =>
    match kind with
    | .serial => .move (.clearing 0) wiring
    | .tcpc => .move .checking (wiring.storeState .reconnecting)

/-- One step of a `serial:` or `tcpc:` task. -/
def step (kind : DialKind) (ctx : SessionCtx) (wiring : Wiring) :
    StreamTask → TaskStep → Option (Turn StreamTask)
  | .checking, .check =>
    if wiring.cancelled then some (.move (.finishing 0) wiring)
    else
      match kind with
      | .serial => some (.move .opening wiring)
      | .tcpc => some (.move .resolving wiring)
  | .opening, .bind opened => some (.move (if opened then .resuming 0 else .backingOff) wiring)
  | .resolving, .resolve count =>
    some (.move (if count = 0 then .backingOff else .dialing count) wiring)
  | .dialing left, .poll =>
    some (.move (if wiring.cancelled then .finishing 0 else .connecting left) wiring)
  | .connecting left, .connect connected =>
    if connected then some (.move (.resuming 0) wiring)
    else some (.move (if left ≤ 1 then .backingOff else .dialing (left - 1)) wiring)
  | .connecting left, .idle => some (.move (.dialing left) wiring)
  | .backingOff, .wait elapsed => Turn.wait wiring elapsed .checking (.finishing 0)
  | .resuming count, .drain =>
    some (.drain wiring count .resuming (.session .start) (some .connected))
  | .session running, .session step =>
    (running.step ctx wiring step).map fun result => .move (.session result.1) result.2
  | .session running, .leave =>
    match running.phase with
    | .ended outcome => some (afterSession kind wiring outcome)
    | _ => none
  | .clearing count, .drain =>
    some (.drain wiring count .clearing .reopening (some .reconnecting))
  | .reopening, .wait elapsed => Turn.wait wiring elapsed .checking .returned
  | .finishing count, .drain => some (.drain wiring count .finishing .returned none)
  | _, _ => none

end StreamTask

namespace TcpsChild

/-- Why the session of a client has ended. -/
def removalReason : SessionOutcome → PeerRemovalReason
  | .terminated => .listenerShutdown
  | .disconnected => .disconnected

/-- One step of `run_client_session`. -/
def step (parentId : EndpointId) (ctx : SessionCtx) (wiring : Wiring) :
    TcpsChild → TaskStep → Option (Turn TcpsChild)
  | .session running, .session step =>
    (running.step ctx wiring step).map fun result => .move (.session result.1) result.2
  | .session running, .leave =>
    match running.phase with
    | .ended outcome => some (.move (.finishing outcome 0) wiring)
    | _ => none
  | .finishing outcome count, .drain =>
    some (.drain wiring count (.finishing outcome) (.leaving outcome) none)
  | .leaving outcome, .announce =>
    (wiring.sendEvent (.peerRemoved parentId ctx.endpointId (removalReason outcome))).map
      fun result => .move .returned result.2
  | _, _ => none

end TcpsChild

namespace TcpServerTask

/-- The task of an accepted client. -/
def child (spec : TcpServerSpec) (childId : EndpointId) : Task :=
  ⟨childId, .tcpsChild spec.parentId spec.identity.filters (.session .start)⟩

/-- One step of a `tcps:` task. -/
def step (env : TaskEnv) (spec : TcpServerSpec) (wiring : Wiring) :
    TcpServerTask → TaskStep → Option (Turn TcpServerTask)
  | .checking, .check => some (.move (if wiring.cancelled then .returned else .binding) wiring)
  | .binding, .bind bound =>
    if bound then some (.move .selecting (wiring.storeState .connected))
    else some (.move .backingOff wiring)
  | .backingOff, .wait elapsed => Turn.wait wiring elapsed .checking .returned
  | .selecting, .poll => some (.move (if wiring.cancelled then .joining else .polled) wiring)
  | .polled, .idle => some (.move .selecting wiring)
  | .polled, .accept none => some (.move .retrying wiring)
  | .polled, .accept (some peerAddr) =>
    some { Turn.move (announcing env.next peerAddr) wiring with allocated := 1 }
  | .retrying, .wait elapsed => Turn.wait wiring elapsed .selecting .joining
  | .announcing childId peerAddr, .announce =>
    (wiring.sendEvent (.peerAdded spec.parentId childId
        (peerEndpointName env.format spec.parentName peerAddr)
        ⟨spec.identity, spec.parentName⟩)).map fun result =>
      { Turn.move selecting result.2 with spawned := if result.1 then [child spec childId] else [] }
  | .joining, .join => if env.joined then some (.move .checking wiring) else none
  | _, _ => none

end TcpServerTask

namespace UdpClientTask

def start : UdpClientTask where
  phase := .resolving
  intake := .new

def setPhase (task : UdpClientTask) (phase : UdpClientPhase) : UdpClientTask :=
  { task with phase := phase }

/-- The task goes on with what it has received. If the router is gone, the rest stays in the
framer. -/
def forwarded (task : UdpClientTask) (intake : Intake) : UdpClientTask :=
  { task with
    intake :=
      match intake.reader.phase with
      | .reading => intake
      | .forwarding _ => intake
      | .sending _ _ => intake
      | .stopped => intake.setPhase .reading }

/-- One step of a `udpc:` task that is not forwarding frames. A datagram that is not accepted
is as good as none. A frame without a target is not sent, but the host is resolved again, and
the check of the latch may do without. -/
def turn (wiring : Wiring) (task : UdpClientTask) :
    UdpClientPhase → TaskStep → Option (Turn UdpClientTask)
  | .resolving, .resolve _ => some (.move (task.setPhase .checking) wiring)
  | .checking, .check =>
    some (.move (task.setPhase (if wiring.cancelled then .returned else .binding)) wiring)
  | .binding, .bind bound =>
    if bound then some (.move (task.setPhase .selecting) (wiring.storeState .connected))
    else some (.move (task.setPhase .backingOff) wiring)
  | .backingOff, .wait elapsed =>
    Turn.wait wiring elapsed (task.setPhase .checking) (task.setPhase .returned)
  | .selecting, .poll =>
    some (.move (task.setPhase (if wiring.cancelled then .finishing 0 else .polled)) wiring)
  | .polled, .idle => some (.move (task.setPhase .selecting) wiring)
  | .polled, .tick _ _ => some (.move (task.setPhase (.refreshing none)) wiring)
  | .polled, .receive none => some (.move (task.setPhase .selecting) wiring)
  | .polled, .receive (some datagram) =>
    some (.move ⟨.selecting, task.intake.receive datagram.data datagram.now⟩
      (wiring.storeState .connected))
  | .polled, .pop =>
    match wiring.port.txQueue.pop with
    | (some frame, txQueue) =>
      some (.move (task.setPhase (.sending frame))
        (wiring.setPort { wiring.port with txQueue := txQueue }))
    | (none, _) => none
  | .sending frame, .sent delivered =>
    if delivered then
      some (.move (task.setPhase .selecting)
        ((wiring.setStats (wiring.port.stats.addTxFrame frame.data.length)).storeState .connected))
    else some (.move (task.setPhase (.refreshing (some .reconnecting))) wiring)
  | .sending _, .resolve count =>
    some (.move (task.setPhase .selecting)
      (if count = 0 then wiring.storeState .reconnecting else wiring))
  | .refreshing state, .resolve _ =>
    some (.move (task.setPhase .selecting) (state.elim wiring wiring.storeState))
  | .refreshing none, .leave => some (.move (task.setPhase .selecting) wiring)
  | .finishing count, .drain =>
    some (.drain wiring count (fun count => task.setPhase (.finishing count))
      (task.setPhase .returned) none)
  | _, _ => none

/-- One step of a `udpc:` task. -/
def step (ctx : SessionCtx) (wiring : Wiring) (task : UdpClientTask) (step : TaskStep) :
    Option (Turn UdpClientTask) :=
  if task.intake.busy then
    match step with
    | .forward =>
      (task.intake.advance ctx wiring).map fun result =>
        .move (task.forwarded result.1) result.2
    | _ => none
  else task.turn wiring task.phase step

end UdpClientTask

/-- The bytes of a datagram go to the framer of its peer. -/
def Peer.receive (peer : Peer) (datagram : Datagram) : Peer :=
  { peer with
    lastSeen := datagram.seen
    intake := peer.intake.receive datagram.data datagram.now }

/-- The peer waits for its next datagram. -/
def Peer.rest (peer : Peer) : Peer :=
  { peer with intake := peer.intake.setPhase .reading }

namespace UdpServerTask

def start : UdpServerTask where
  peers := []
  phase := .checking

def setPhase (task : UdpServerTask) (phase : UdpServerPhase) : UdpServerTask :=
  { task with phase := phase }

/-- The peer with an address. -/
def peer? (task : UdpServerTask) (src : SocketAddr) : Option Peer :=
  task.peers.find? fun peer => peer.src = src

/-- The other peers. -/
def without (task : UdpServerTask) (src : SocketAddr) : List Peer :=
  task.peers.filter fun peer => peer.src ≠ src

/-- The addresses of the peers that have been silent for too long. -/
def expired (spec : UdpServerSpec) (visit : Library.Traversal Peer) (now : Instant)
    (task : UdpServerTask) : List SocketAddr :=
  ((visit.order task.peers).filter fun peer =>
    durationFromSecs spec.idleSecs ≤ now - peer.lastSeen).map Peer.src

/-- The writer task of a peer. -/
def writer (spec : UdpServerSpec) (childId : EndpointId) : Task :=
  ⟨childId, .peerWriter spec.parentId .selecting⟩

/-- The writer of a new peer is spawned, and its first datagram is handled. -/
def enroll (spec : UdpServerSpec) (childId : EndpointId) (datagram : Datagram)
    (wiring : Wiring) (task : UdpServerTask) : Turn UdpServerTask :=
  let peer : Peer := ⟨datagram.src, childId, datagram.admitted, .new⟩
  { Turn.move (task.setPhase (.handling (peer.receive datagram))) wiring with
    spawned := [writer spec childId] }

/-- A full table gives up the peer seen longest ago before a new one is enrolled. -/
def admitNewPeer (spec : UdpServerSpec) (visit : Library.Traversal Peer) (childId : EndpointId)
    (datagram : Datagram) (wiring : Wiring) (task : UdpServerTask) : Turn UdpServerTask :=
  if spec.peerCapacity ≤ task.peers.length then
    match (visit.order task.peers).argmin Peer.lastSeen with
    | none => task.enroll spec childId datagram wiring
    | some victim =>
      { Turn.move ⟨task.without victim.src, .evicting victim.childId childId datagram⟩ wiring with
        revoked := [victim.childId] }
  else task.enroll spec childId datagram wiring

/-- One step of a `udps:` task. -/
def step (env : TaskEnv) (spec : UdpServerSpec) (wiring : Wiring) (task : UdpServerTask) :
    UdpServerPhase → TaskStep → Option (Turn UdpServerTask)
  | .checking, .check =>
    some (.move (task.setPhase (if wiring.cancelled then .returned else .binding)) wiring)
  | .binding, .bind bound =>
    if bound then some (.move (task.setPhase .selecting) (wiring.storeState .connected))
    else some (.move (task.setPhase .backingOff) wiring)
  | .backingOff, .wait elapsed =>
    Turn.wait wiring elapsed (task.setPhase .checking) (task.setPhase .returned)
  | .selecting, .poll =>
    some (.move (task.setPhase (if wiring.cancelled then .stopping else .polled)) wiring)
  | .polled, .idle => some (.move (task.setPhase .selecting) wiring)
  | .polled, .tick now visit =>
    some (.move (task.setPhase (.reaping (task.expired spec visit now))) wiring)
  | .polled, .receive none => some (.move (task.setPhase .retrying) wiring)
  | .polled, .receive (some datagram) =>
    match task.peer? datagram.src with
    | some peer =>
      some (.move ⟨task.without datagram.src, .handling (peer.receive datagram)⟩ wiring)
    | none =>
      some { Turn.move (task.setPhase (.admitting env.next datagram)) wiring with allocated := 1 }
  | .retrying, .wait elapsed =>
    Turn.wait wiring elapsed (task.setPhase .selecting) (task.setPhase .selecting)
  | .reaping [], .remove => some (.move (task.setPhase .selecting) wiring)
  | .reaping (src :: expired), .remove =>
    match task.peer? src with
    | some peer =>
      some { Turn.move ⟨task.without src, .removing peer.childId expired⟩ wiring with
        revoked := [peer.childId] }
    | none => some (.move (task.setPhase (.reaping expired)) wiring)
  | .removing childId expired, .announce =>
    (wiring.sendEvent (.peerRemoved spec.parentId childId .idle)).map fun result =>
      .move (task.setPhase (.reaping expired)) result.2
  | .admitting childId datagram, .visit visit =>
    (wiring.sendEvent (UdpServer.announcement env.format spec datagram.src childId)).map
      fun result =>
        if result.1 then task.admitNewPeer spec visit childId datagram result.2
        else .move (task.setPhase .selecting) result.2
  | .evicting victim childId datagram, .announce =>
    (wiring.sendEvent (.peerRemoved spec.parentId victim .lruEvicted)).map fun result =>
      task.enroll spec childId datagram result.2
  | .handling peer, .forward =>
    (peer.intake.advance ⟨peer.childId, spec.identity.filters, env.table⟩ wiring).map fun result =>
      .move (task.setPhase (.handling { peer with intake := result.1 })) result.2
  | .handling peer, .leave =>
    if peer.intake.busy then none
    else some (.move ⟨peer.rest :: task.peers, .selecting⟩ wiring)
  | .stopping, .visit visit =>
    match visit.order task.peers with
    | [] => none
    | peer :: peers =>
      (wiring.sendEvent (.peerRemoved spec.parentId peer.childId .listenerShutdown)).map
        fun result => { Turn.move ⟨peers, .stopping⟩ result.2 with revoked := [peer.childId] }
  | .stopping, .leave =>
    match task.peers with
    | [] => some (.move (task.setPhase .joining) wiring)
    | _ :: _ => none
  | .joining, .join => if env.joined then some (.move (task.setPhase .returned) wiring) else none
  | _, _ => none

end UdpServerTask

namespace PeerWriterTask

/-- One step of `run_peer_writer`. -/
def step (env : TaskEnv) (wiring : Wiring) :
    PeerWriterTask → TaskStep → Option (Turn PeerWriterTask)
  | .selecting, .poll =>
    some (.move (if wiring.cancelled || env.revoked then .finishing 0 else .polled) wiring)
  | .polled, .idle => some (.move .selecting wiring)
  | .polled, .pop =>
    match wiring.port.txQueue.pop with
    | (some frame, txQueue) =>
      some (.move (.sending frame) (wiring.setPort { wiring.port with txQueue := txQueue }))
    | (none, _) => none
  | .sending frame, .sent delivered =>
    if delivered then
      some (.move .selecting
        (wiring.setStats (wiring.port.stats.addTxFrame frame.data.length)))
    else some (.move .selecting (wiring.setPort (Writer.fail true wiring.port)))
  | .finishing count, .drain => some (.drain wiring count .finishing .returned none)
  | _, _ => none

end PeerWriterTask

namespace Control

/-- One step of a task. -/
def step (env : TaskEnv) (id : EndpointId) (wiring : Wiring) (control : Control)
    (step : TaskStep) : Option (Turn Control) :=
  match control with
  | .stream kind filters task =>
    (task.step kind ⟨id, filters, env.table⟩ wiring step).map (·.map (.stream kind filters))
  | .tcps spec task => (task.step env spec wiring step).map (·.map (.tcps spec))
  | .tcpsChild parentId filters task =>
    (task.step parentId ⟨id, filters, env.table⟩ wiring step).map
      (·.map (.tcpsChild parentId filters))
  | .udpc filters task =>
    (task.step ⟨id, filters, env.table⟩ wiring step).map (·.map (.udpc filters))
  | .udps spec task => (task.step env spec wiring task.phase step).map (·.map (.udps spec))
  | .peerWriter parentId task => (task.step env wiring step).map (·.map (.peerWriter parentId))

/-- The task has returned. -/
def returned : Control → Bool
  | .stream _ _ .returned => true
  | .tcps _ .returned => true
  | .tcpsChild _ _ .returned => true
  | .udpc _ ⟨.returned, intake⟩ => !intake.busy
  | .udps _ ⟨_, .returned⟩ => true
  | .peerWriter _ .returned => true
  | _ => false

/-- The task waits for its children. -/
def joining : Control → Bool
  | .tcps _ .joining => true
  | .udps _ ⟨_, .joining⟩ => true
  | _ => false

/-- The listener that has spawned a task. -/
def parent? : Control → Option EndpointId
  | .tcpsChild parentId _ _ => some parentId
  | .peerWriter parentId _ => some parentId
  | _ => none

/-- The peer on whose behalf a listener acts. -/
def peer? : Control → Option EndpointId
  | .udps _ ⟨_, .handling peer⟩ => some peer.childId
  | _ => none

end Control

/-- The endpoint whose state a task uses. -/
def Task.portId (task : Task) : EndpointId :=
  task.control.peer?.getD task.id

def defaultIdleSecs : UInt64 := 60

def defaultPeerCapacity : ℕ := 256

/-- The event that registers an endpoint, and its task. -/
def EndpointSpec.spawn (spec : EndpointSpec) (id : EndpointId) : EndpointEvent × Task :=
  match spec.kind with
  | .serial endpoint =>
    (.endpointAdded id spec.name (some ⟨endpoint.identity, spec.name⟩),
      ⟨id, .stream .serial endpoint.identity.filters .checking⟩)
  | .tcpClient endpoint =>
    (.endpointAdded id spec.name (some ⟨endpoint.identity, spec.name⟩),
      ⟨id, .stream .tcpc endpoint.identity.filters .checking⟩)
  | .udpClient endpoint =>
    (.endpointAdded id spec.name (some ⟨endpoint.identity, spec.name⟩),
      ⟨id, .udpc endpoint.identity.filters .start⟩)
  | .tcpServer endpoint =>
    (.endpointAdded id spec.name none, ⟨id, .tcps ⟨id, spec.name, endpoint.identity⟩ .checking⟩)
  | .udpServer endpoint =>
    (.endpointAdded id spec.name none,
      ⟨id, .udps ⟨id, spec.name, endpoint.idleSecs.getD defaultIdleSecs, defaultPeerCapacity,
        endpoint.identity⟩ .start⟩)

/-- The router, the endpoints that have still to be spawned, and the tasks that have been, with
the next id of the allocator and the peers whose writers have been cancelled. -/
structure TaskNet where
  loop : RouterLoop
  specs : List EndpointSpec
  tasks : List Task
  next : UInt64
  revoked : List EndpointId

namespace TaskNet

/-- The actors whose return is waited for. -/
inductive Actor where
  | router
  | spawner
  | task (index : ℕ)
  deriving DecidableEq, Repr

/-- A step of the router, of `spawn_endpoints` or of a task, or of what is around them. -/
inductive Action where
  | poll (visit : Visit) (now : Instant)
  | perform
  | spawn
  | task (index : ℕ) (step : TaskStep)
  | statsTask (update : Library.Channel StatsEvent → Library.Channel StatsEvent)
  | cancel

/-- Whose step it is. -/
def Action.actor? : Action → Option Actor
  | .poll _ _ => some .router
  | .perform => some .router
  | .spawn => some .spawner
  | .task index _ => some (.task index)
  | .statsTask _ => none
  | .cancel => none

/-- The router has been spawned, and the endpoints are about to be. -/
def start (wiring : RouterWiring) (specs : List EndpointSpec) : TaskNet where
  loop := .start wiring fun _ => ⟨{}, .new defaultTxQueueFrames⟩
  specs := specs
  tasks := []
  next := 0
  revoked := []

def setLoop (net : TaskNet) (loop : RouterLoop) : TaskNet :=
  { net with loop := loop }

/-- What the task of an endpoint shares with the others. -/
def wiring (net : TaskNet) (id : EndpointId) : Wiring where
  frames := net.loop.frames
  events := net.loop.events
  port := net.loop.ports id
  cancelled := net.loop.cancelled

/-- A task has changed what it shares. -/
def share (net : TaskNet) (id : EndpointId) (wiring : Wiring) : RouterLoop :=
  { net.loop with
    frames := wiring.frames
    events := wiring.events
    ports := Function.update net.loop.ports id wiring.port }

/-- The children of a listener have returned. -/
def joined (net : TaskNet) (id : EndpointId) : Bool :=
  net.tasks.all fun task => task.control.parent? ≠ some id || task.control.returned

/-- What a task sees of the others. -/
def env (table : MsgTable) (format : AddrFormat) (net : TaskNet) (id : EndpointId) : TaskEnv where
  table := table
  format := format
  next := ⟨net.next⟩
  revoked := net.revoked.contains id
  joined := net.joined id

/-- A task has taken a step. -/
def commit (net : TaskNet) (index : ℕ) (task : Task) (turn : Turn Control) : TaskNet where
  loop := net.share task.portId turn.wiring
  specs := net.specs
  tasks := net.tasks.set index ⟨task.id, turn.control⟩ ++ turn.spawned
  next := net.next + UInt64.ofNat turn.allocated
  revoked := net.revoked ++ turn.revoked

/-- The next endpoint is spawned, if it could be registered. -/
def spawned (net : TaskNet) (spec : EndpointSpec) (specs : List EndpointSpec)
    (result : Bool × Wiring) : TaskNet :=
  { net with
    loop := net.share ⟨net.next⟩ result.2
    specs := specs
    tasks := net.tasks ++ if result.1 then [(spec.spawn ⟨net.next⟩).2] else []
    next := net.next + 1 }

/-- One step. -/
def step (table : MsgTable) (format : AddrFormat) (oneshot : List UInt8 → UInt64)
    (net : TaskNet) : Action → Option TaskNet
  | .poll visit now => (net.loop.step oneshot (.poll visit now)).map net.setLoop
  | .perform => (net.loop.step oneshot .perform).map net.setLoop
  | .spawn =>
    match net.specs with
    | [] => none
    | spec :: specs =>
      ((net.wiring ⟨net.next⟩).sendEvent (spec.spawn ⟨net.next⟩).1).map (net.spawned spec specs)
  | .task index taskStep =>
    net.tasks[index]?.bind fun task =>
      (task.control.step (net.env table format task.id) task.id (net.wiring task.portId)
        taskStep).map (net.commit index task)
  | .statsTask update => (net.loop.step oneshot (.statsTask update)).map net.setLoop
  | .cancel => (net.loop.step oneshot .cancel).map net.setLoop

/-- The router and every task have returned. -/
def Returned (net : TaskNet) : Prop :=
  net.loop.phase = .stopped ∧ net.specs = [] ∧ ∀ task ∈ net.tasks, task.control.returned = true

end TaskNet

end MavlinkRouter
