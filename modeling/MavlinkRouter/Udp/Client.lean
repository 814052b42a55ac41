import MavlinkRouter.Endpoint.Egress
import MavlinkRouter.Udp.Server

/-!
# The datagram client

The task of a `udpc:` endpoint. It sends to the first address its host resolves to, until a
datagram from one of these addresses latches it onto the sender; a silent sender loses the
latch again. One frame is sent at a time, and while it is being sent the task does nothing else.
-/

namespace MavlinkRouter

/-- What distinguishes one client from another. -/
structure UdpClientSpec where
  host : String
  port : UInt16
  endpointId : EndpointId
  latchIdleSecs : UInt64
  identity : IdentityFlags

/-- The peer the client is latched onto. -/
structure LatchInfo where
  addr : SocketAddr
  lastInbound : Instant
  deriving DecidableEq, Repr

/-- Where the client sends, and whom it listens to. -/
structure Destination where
  host : String
  port : UInt16
  resolvedIps : List IpAddr
  latch : Option LatchInfo
  deriving DecidableEq, Repr

/-- What to do with a datagram. -/
inductive InboundDecision where
  | acceptAndLatch
  | acceptUpdate
  | reject
  deriving DecidableEq, Repr

namespace Destination

def currentTarget (dest : Destination) : Option SocketAddr :=
  match dest.latch with
  | some latch => some latch.addr
  | none => dest.resolvedIps.head?.map (SocketAddr.new dest.port)

def classifyInbound (dest : Destination) (srcIp : IpAddr) : InboundDecision :=
  match dest.latch with
  | some latch =>
    if latch.addr.ip.canonicalIp = srcIp.canonicalIp then .acceptUpdate else .reject
  | none =>
    if dest.resolvedIps.any (fun ip => ip.canonicalIp = srcIp.canonicalIp) then .acceptAndLatch
    else .reject

/-- An answer of the resolver replaces the addresses unless it is empty. -/
def refresh (dest : Destination) (fresh : List IpAddr) : Destination :=
  if fresh.isEmpty then dest else { dest with resolvedIps := fresh }

def setLatch (dest : Destination) (latch : Option LatchInfo) : Destination :=
  { dest with latch := latch }

/-- Give up the latch if its peer has been silent for too long. -/
def checkLatchIdle (dest : Destination) (idle : ℕ) (now : Instant) (fresh : List IpAddr) :
    Destination :=
  match dest.latch with
  | none => dest
  | some latch =>
    if now - latch.lastInbound < idle then dest else (dest.refresh fresh).setLatch none

end Destination

/-- A local address from which all the resolved ones can be reached. -/
def pickLocalBind (resolvedIps : List IpAddr) : SocketAddr :=
  if resolvedIps.isEmpty || resolvedIps.any IpAddr.isIpv6 then .new 0 (.v6 0) else .new 0 (.v4 0)

/-- Where the task stands: resolving its host, binding its socket, waiting to try again, in its
loop, draining before it ends, or at its end. -/
inductive UdpPhase where
  | resolving
  | binding
  | backingOff
  | running
  | finishing
  | done
  deriving DecidableEq, Repr

/-- How `send_to` ends. -/
inductive SendOutcome where
  | sent
  | failed
  deriving DecidableEq, Repr

/-- A client with the datagrams it has accepted, the frames it has sent to the router, and those
it has sent to the network. -/
structure UdpClient where
  phase : UdpPhase
  dest : Destination
  localBind : Option SocketAddr
  cancelled : Bool
  framesOpen : Bool
  ingress : Ingress
  egress : Egress
  accepted : List (SocketAddr × List UInt8)
  forwarded : List RouterFrame
  sends : List (SocketAddr × Bytes)

namespace UdpClient

/-- A client that has just been spawned. -/
def start (spec : UdpClientSpec) (capacity : ℕ) : UdpClient where
  phase := .resolving
  dest := ⟨spec.host, spec.port, [], none⟩
  localBind := none
  cancelled := false
  framesOpen := true
  ingress := .new
  egress := .start capacity .reconnecting
  accepted := []
  forwarded := []
  sends := []

def setPhase (client : UdpClient) (phase : UdpPhase) : UdpClient :=
  { client with phase := phase }

def setDest (client : UdpClient) (dest : Destination) : UdpClient :=
  { client with dest := dest }

def setEgress (client : UdpClient) (egress : Egress) : UdpClient :=
  { client with egress := egress }

def storeState (client : UdpClient) (state : EndpointState) : UdpClient :=
  client.setEgress (client.egress.access (.storeState state))

/-- Frames have been sent to an address. -/
def recordSends (client : UdpClient) (target : SocketAddr) (frames : List Bytes) : UdpClient :=
  { client with sends := client.sends ++ frames.map (Prod.mk target) }

/-- The loop waits for something to happen. -/
def Ready (client : UdpClient) : Prop :=
  client.phase = .running ∧ client.egress.writer.frames = []

instance (client : UdpClient) : Decidable client.Ready :=
  inferInstanceAs (Decidable (_ ∧ _))

/-- The host has been resolved for the first time. -/
def resolve (fresh : List IpAddr) (client : UdpClient) : UdpClient :=
  { client with
    phase := .binding
    dest := { client.dest with resolvedIps := fresh }
    localBind := some (pickLocalBind fresh) }

/-- One round of `bind_with_backoff`; if it is cancelled, the queue is left as it is. -/
def bind (bound : Bool) (client : UdpClient) : UdpClient :=
  if client.cancelled then client.setPhase .done
  else if bound then (client.storeState .connected).setPhase .running
  else client.setPhase .backingOff

/-- The bytes of an accepted datagram go to the framer. -/
def ingest (table : MsgTable) (spec : UdpClientSpec) (src : SocketAddr) (data : List UInt8)
    (now : Instant) (client : UdpClient) : UdpClient :=
  let forwarded := client.ingress.read table spec.identity.filters spec.endpointId now
    client.framesOpen data client.egress.port.stats
  { client with
    ingress := forwarded.ingress
    egress := client.egress.setStats forwarded.stats
    accepted := client.accepted ++ [(src, data)]
    forwarded := client.forwarded ++ forwarded.sent }

/-- A datagram has been received. The clock is read for the latch and then for the frames. -/
def handleInbound (table : MsgTable) (spec : UdpClientSpec) (src : SocketAddr)
    (data : List UInt8) (seen now : Instant) (client : UdpClient) : UdpClient :=
  match client.dest.classifyInbound src.ip with
  | .reject => client.setEgress (client.egress.setStats client.egress.port.stats.addInFilterDrop)
  | .acceptAndLatch =>
    ((client.setDest (client.dest.setLatch (some ⟨src, seen⟩))).storeState .connected).ingest
      table spec src data now
  | .acceptUpdate =>
    ((client.setDest (client.dest.setLatch (client.dest.latch.map fun _ => ⟨src, seen⟩))).storeState
      .connected).ingest table spec src data now

/-- A frame has no target to be sent to. -/
def skipFrame (fresh : List IpAddr) (client : UdpClient) : Option UdpClient :=
  (client.egress.write (.fail false)).map fun egress =>
    let skipped := (client.setEgress egress).setDest (client.dest.refresh fresh)
    if skipped.dest.currentTarget.isNone then skipped.storeState .reconnecting else skipped

/-- A frame is sent to the current target. A failure does not count it as dropped. -/
def sendFrame (outcome : SendOutcome) (fresh : List IpAddr) (client : UdpClient) :
    Option UdpClient :=
  match client.dest.currentTarget with
  | none => client.skipFrame fresh
  | some target =>
    match outcome with
    | .sent =>
      client.egress.sendDatagram.map fun egress =>
        ((client.setEgress egress).storeState .connected).recordSends target
          client.egress.writer.frames
    | .failed =>
      (client.egress.write (.fail false)).map fun egress =>
        ((client.setEgress egress).setDest (client.dest.refresh fresh)).storeState .reconnecting

/-- A step of the task, with what the network and the resolver answer, or a step of the tasks
around it. -/
inductive Action where
  | access (access : PortAccess)
  | cancel
  | closeFrames
  | resolve (fresh : List IpAddr)
  | bind (bound : Bool)
  | wait
  | tick (now : Instant) (fresh : List IpAddr)
  | receive (src : SocketAddr) (data : List UInt8) (seen now : Instant)
  | pop
  | send (outcome : SendOutcome) (fresh : List IpAddr)
  | stop
  | drain

/-- One step. -/
def step (table : MsgTable) (spec : UdpClientSpec) (client : UdpClient) :
    Action → Option UdpClient
  | .access access => some (client.setEgress (client.egress.access access))
  | .cancel => some { client with cancelled := true }
  | .closeFrames => some { client with framesOpen := false }
  | .resolve fresh => if client.phase = .resolving then some (client.resolve fresh) else none
  | .bind bound => if client.phase = .binding then some (client.bind bound) else none
  | .wait =>
    if client.phase = .backingOff then
      some (client.setPhase (if client.cancelled then .done else .binding))
    else none
  | .tick now fresh =>
    if client.Ready then
      some (client.setDest
        (client.dest.checkLatchIdle (durationFromSecs spec.latchIdleSecs) now fresh))
    else none
  | .receive src data seen now =>
    if client.Ready then some (client.handleInbound table spec src data seen now) else none
  | .pop => if client.Ready then (client.egress.write .pop).map client.setEgress else none
  | .send outcome fresh => client.sendFrame outcome fresh
  | .stop =>
    if client.Ready ∧ client.cancelled = true then
      (client.egress.write .startDrain).map fun egress =>
        (client.setEgress egress).setPhase .finishing
    else none
  | .drain =>
    (client.egress.write .drain).map fun egress =>
      match egress.writer with
      | .idle => (client.setEgress egress).setPhase .done
      | .writing _ => client.setEgress egress
      | .draining _ => client.setEgress egress

end UdpClient

end MavlinkRouter
