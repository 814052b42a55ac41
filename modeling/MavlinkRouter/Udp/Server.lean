import MavlinkRouter.Endpoint.Address
import MavlinkRouter.Endpoint.Ingress
import MavlinkRouter.Library.KeyedMap

/-!
# The datagram listener

The task of a `udps:` endpoint: one socket, and one peer for each source address, which is
a routing endpoint of its own. Datagrams are handled and ticks are taken one after the
other; meanwhile the router accesses the shared state of the peers, their writers move,
other tasks allocate ids, and the router's channels may close. What the listener sends on
the two channels is kept in one log.
-/

namespace MavlinkRouter

/-- The name of a peer. -/
def peerEndpointName (format : AddrFormat) (parentName : String) : SocketAddr → String
  | .v4 ip port => parentName ++ "/" ++ format.ipv4 ip ++ "-" ++ toString port
  | .v6 ip port _ _ => parentName ++ "/[" ++ format.ipv6 ip ++ "]-" ++ toString port

/-- What distinguishes one listener from another. -/
structure UdpServerSpec where
  parentId : EndpointId
  parentName : String
  idleSecs : UInt64
  peerCapacity : ℕ
  identity : IdentityFlags

/-- `Duration::from_secs`, in nanoseconds. -/
def durationFromSecs (secs : UInt64) : ℕ :=
  secs.toNat * 1000000000

/-- What the listener keeps about a peer between datagrams, and the peer's writer. -/
structure PeerEntry where
  childId : EndpointId
  lastSeen : Instant
  session : Session

/-- The peers, under their addresses. -/
abbrev PeerTable := AList fun _ : SocketAddr => PeerEntry

/-- An order in which the peers may be visited. -/
abbrev PeerVisit := Library.Traversal (Σ _ : SocketAddr, PeerEntry)

/-- A received datagram, with the readings of the clock that are made while it is handled: on
admission, for the time of last sight and for the frames. -/
structure Datagram where
  src : SocketAddr
  data : List UInt8
  admitted : Instant
  seen : Instant
  now : Instant

/-- What the listener sends on one of the router's channels. -/
inductive Sent where
  | event (event : EndpointEvent)
  | frame (routerFrame : RouterFrame)
  deriving DecidableEq, Repr

/-- The shared state of a new peer. -/
def freshPort : Port where
  stats := { state := .connected }
  txQueue := .new defaultTxQueueFrames

namespace PeerEntry

/-- A peer that has just been learned. -/
def new (childId : EndpointId) (lastSeen : Instant) : PeerEntry where
  childId := childId
  lastSeen := lastSeen
  session := .start freshPort

/-- The peer after a datagram. -/
def receive (table : MsgTable) (spec : UdpServerSpec) (framesOpen : Bool)
    (datagram : Datagram) (peer : PeerEntry) : PeerEntry where
  childId := peer.childId
  lastSeen := datagram.seen
  session := peer.session.handleRead table spec.identity.filters peer.childId datagram.now
    framesOpen datagram.data

/-- The frames that the peer sends for a datagram. -/
def frames (table : MsgTable) (spec : UdpServerSpec) (framesOpen : Bool)
    (datagram : Datagram) (peer : PeerEntry) : List RouterFrame :=
  (peer.session.ingress.read table spec.identity.filters peer.childId datagram.now framesOpen
    datagram.data peer.session.port.stats).sent

end PeerEntry

/-- A listener; `next` is the counter of the allocator that all components share, and
`allocated` the number of ids it has given out. -/
structure UdpServer where
  peers : PeerTable
  next : UInt64
  allocated : ℕ
  eventsOpen : Bool
  framesOpen : Bool
  stopped : Bool
  log : List Sent

namespace UdpServer

/-- A listener that has just been bound, after some ids have been allocated. -/
def start (allocated : ℕ) : UdpServer where
  peers := ∅
  next := UInt64.ofNat allocated
  allocated := allocated
  eventsOpen := true
  framesOpen := true
  stopped := false
  log := []

/-- `EndpointIdAllocator::alloc` gives out `next`. -/
def alloc (server : UdpServer) : UdpServer :=
  { server with next := server.next + 1, allocated := server.allocated + 1 }

def setPeers (server : UdpServer) (peers : PeerTable) : UdpServer :=
  { server with peers := peers }

/-- Send an event, which fails if the channel is closed. -/
def sendEvent (server : UdpServer) (event : EndpointEvent) : UdpServer :=
  if server.eventsOpen then { server with log := server.log ++ [.event event] } else server

/-- Send the frames of one datagram. -/
def sendFrames (server : UdpServer) (frames : List RouterFrame) : UdpServer :=
  { server with log := server.log ++ frames.map .frame }

/-- Remove a peer and announce it. -/
def removePeer (spec : UdpServerSpec) (src : SocketAddr) (childId : EndpointId)
    (reason : PeerRemovalReason) (server : UdpServer) : UdpServer :=
  (server.setPeers (server.peers.erase src)).sendEvent (.peerRemoved spec.parentId childId reason)

/-- The first of the peers seen longest ago, in the order of the visit. -/
def lruPeer (visit : PeerVisit) (peers : PeerTable) : Option (Σ _ : SocketAddr, PeerEntry) :=
  (visit.order peers.entries).argmin fun entry => entry.2.lastSeen

def evictLruPeer (spec : UdpServerSpec) (visit : PeerVisit) (server : UdpServer) : UdpServer :=
  match lruPeer visit server.peers with
  | none => server
  | some victim =>
    match server.peers.lookup victim.1 with
    | none => server
    | some entry => server.removePeer spec victim.1 entry.childId .lruEvicted

/-- A full table gives up one peer. -/
def makeRoom (spec : UdpServerSpec) (visit : PeerVisit) (server : UdpServer) : UdpServer :=
  if spec.peerCapacity ≤ server.peers.entries.length then server.evictLruPeer spec visit
  else server

/-- The event that announces a peer. -/
def announcement (format : AddrFormat) (spec : UdpServerSpec) (src : SocketAddr)
    (childId : EndpointId) : EndpointEvent :=
  .peerAdded spec.parentId childId (peerEndpointName format spec.parentName src)
    ⟨spec.identity, spec.parentName⟩

/-- The peer is announced before room is made for it; if the event channel is closed, it is
not admitted. -/
def admitNewPeer (format : AddrFormat) (spec : UdpServerSpec) (visit : PeerVisit)
    (src : SocketAddr) (admitted : Instant) (server : UdpServer) : Bool × UdpServer :=
  let childId : EndpointId := ⟨server.next⟩
  if server.eventsOpen then
    let roomy := (server.alloc.sendEvent (announcement format spec src childId)).makeRoom spec visit
    (true, roomy.setPeers (roomy.peers.insert src (.new childId admitted)))
  else (false, server.alloc)

/-- The datagram goes to the reader of its peer. -/
def ingest (table : MsgTable) (spec : UdpServerSpec) (datagram : Datagram) (peer : PeerEntry)
    (server : UdpServer) : UdpServer :=
  (server.setPeers (server.peers.insert datagram.src
    (peer.receive table spec server.framesOpen datagram))).sendFrames
      (peer.frames table spec server.framesOpen datagram)

/-- The datagram is for a peer in the table, if there is one. -/
def deliver (table : MsgTable) (spec : UdpServerSpec) (datagram : Datagram)
    (server : UdpServer) : UdpServer :=
  match server.peers.lookup datagram.src with
  | none => server
  | some peer => server.ingest table spec datagram peer

def handlePacket (table : MsgTable) (format : AddrFormat) (spec : UdpServerSpec)
    (visit : PeerVisit) (datagram : Datagram) (server : UdpServer) : UdpServer :=
  if (server.peers.lookup datagram.src).isSome then server.deliver table spec datagram
  else
    match server.admitNewPeer format spec visit datagram.src datagram.admitted with
    | (true, admitted) => admitted.deliver table spec datagram
    | (false, refused) => refused

/-- The addresses of the peers that have been silent for too long. -/
def expired (spec : UdpServerSpec) (visit : PeerVisit) (now : Instant) (peers : PeerTable) :
    List SocketAddr :=
  (visit.order peers.entries).filterMap fun entry =>
    if durationFromSecs spec.idleSecs ≤ now - entry.2.lastSeen then some entry.1 else none

/-- Remove one silent peer. -/
def reap (spec : UdpServerSpec) (server : UdpServer) (src : SocketAddr) : UdpServer :=
  match server.peers.lookup src with
  | none => server
  | some entry => server.removePeer spec src entry.childId .idle

def reapIdlePeers (spec : UdpServerSpec) (visit : PeerVisit) (now : Instant)
    (server : UdpServer) : UdpServer :=
  (expired spec visit now server.peers).foldl (reap spec) server

/-- The peers are drained and announced one by one, and the listener is done. -/
def shutdownAllPeers (spec : UdpServerSpec) (visit : PeerVisit) (server : UdpServer) :
    UdpServer :=
  (visit.order server.peers.entries).foldl (fun draining entry =>
      draining.sendEvent (.peerRemoved spec.parentId entry.2.childId .listenerShutdown))
    { server with peers := ∅, stopped := true }

/-- Change the session of a peer. -/
def updateSession (server : UdpServer) (src : SocketAddr) (update : Session → Option Session) :
    Option UdpServer :=
  match server.peers.lookup src with
  | none => none
  | some peer =>
    (update peer.session).map fun session =>
      server.setPeers (server.peers.insert src { peer with session := session })

/-- A step of the listener, or of the tasks around it. -/
inductive Action where
  | packet (visit : PeerVisit) (datagram : Datagram)
  | tick (visit : PeerVisit) (now : Instant)
  | shutdown (visit : PeerVisit)
  | access (src : SocketAddr) (access : PortAccess)
  | write (src : SocketAddr) (step : WriterStep)
  | allocate
  | closeEvents
  | closeFrames

/-- One step; a listener that is done takes none. -/
def step (table : MsgTable) (format : AddrFormat) (spec : UdpServerSpec) (server : UdpServer) :
    Action → Option UdpServer
  | .packet visit datagram =>
    if server.stopped then none
    else some (server.handlePacket table format spec visit datagram)
  | .tick visit now => if server.stopped then none else some (server.reapIdlePeers spec visit now)
  | .shutdown visit => if server.stopped then none else some (server.shutdownAllPeers spec visit)
  | .access src access =>
    server.updateSession src fun session => some (session.setPort (session.port.access access))
  | .write src writerStep =>
    server.updateSession src fun session =>
      (session.writer.step session.port writerStep).map fun result =>
        session.afterWrite result.1 result.2.1
  | .allocate => some server.alloc
  | .closeEvents => some { server with eventsOpen := false }
  | .closeFrames => some { server with framesOpen := false }

end UdpServer

end MavlinkRouter
