import MavlinkRouter.Library.Lease
import MavlinkRouter.Udp.Server

/-!
# Peers and their events

The peer table of a datagram listener against what it has announced: every id is announced
once, is used while its peer is in the table, and is withdrawn at most once. An id is new as
long as the 64-bit counter behind it has not wrapped.
-/

namespace MavlinkRouter

open Library (LeaseEntry Leases execute execute_invariant execute_induction)

namespace Sent

/-- The id an item announces. -/
def added? : Sent → Option EndpointId
  | .event lifecycle => lifecycle.added?
  | .frame _ => none

/-- The id an item withdraws. -/
def removed? : Sent → Option EndpointId
  | .event lifecycle => lifecycle.removed?
  | .frame _ => none

/-- What an item says about an id. -/
def lease : Sent → LeaseEntry EndpointId
  | .event (.endpointAdded id _ _) => .opened id
  | .event (.peerAdded _ childId _ _) => .opened childId
  | .event (.peerRemoved _ childId _) => .closed childId
  | .frame routerFrame => .used routerFrame.endpointId

end Sent

/-- The ids that were announced, in order. -/
def addedIds (log : List Sent) : List EndpointId :=
  log.filterMap Sent.added?

/-- The ids that were withdrawn, in order. -/
def removedIds (log : List Sent) : List EndpointId :=
  log.filterMap Sent.removed?

private theorem openedIn_lease (log : List Sent) :
    LeaseEntry.openedIn (log.map Sent.lease) = addedIds log := by
  rw [LeaseEntry.openedIn, List.filterMap_map, addedIds]
  apply List.filterMap_congr
  intro item _
  cases item with
  | event lifecycle => cases lifecycle <;> rfl
  | frame routerFrame => rfl

private theorem closedIn_lease (log : List Sent) :
    LeaseEntry.closedIn (log.map Sent.lease) = removedIds log := by
  rw [LeaseEntry.closedIn, List.filterMap_map, removedIds]
  apply List.filterMap_congr
  intro item _
  cases item with
  | event lifecycle => cases lifecycle <;> rfl
  | frame routerFrame => rfl

namespace UdpServer

variable {table : MsgTable} {format : AddrFormat} {spec : UdpServerSpec} {server : UdpServer}
  {after roomy : UdpServer} {src : SocketAddr} {peer : PeerEntry} {datagram : Datagram}

/-- Sending an event keeps the peers. -/
@[simp] theorem peers_sendEvent (server : UdpServer) (event : EndpointEvent) :
    (server.sendEvent event).peers = server.peers := by
  unfold sendEvent
  split <;> rfl

/-- Sending an event keeps the next id. -/
@[simp] theorem next_sendEvent (server : UdpServer) (event : EndpointEvent) :
    (server.sendEvent event).next = server.next := by
  unfold sendEvent
  split <;> rfl

/-- Sending an event keeps the count of ids. -/
@[simp] theorem allocated_sendEvent (server : UdpServer) (event : EndpointEvent) :
    (server.sendEvent event).allocated = server.allocated := by
  unfold sendEvent
  split <;> rfl

@[simp] private theorem eventsOpen_sendEvent (server : UdpServer) (event : EndpointEvent) :
    (server.sendEvent event).eventsOpen = server.eventsOpen := by
  unfold sendEvent
  split <;> rfl

/-- Sending an event keeps the frame channel. -/
@[simp] theorem framesOpen_sendEvent (server : UdpServer) (event : EndpointEvent) :
    (server.sendEvent event).framesOpen = server.framesOpen := by
  unfold sendEvent
  split <;> rfl

@[simp] private theorem stopped_sendEvent (server : UdpServer) (event : EndpointEvent) :
    (server.sendEvent event).stopped = server.stopped := by
  unfold sendEvent
  split <;> rfl

/-- Only the removed peer goes. -/
@[simp] theorem peers_removePeer (server : UdpServer) (src : SocketAddr) (childId : EndpointId)
    (reason : PeerRemovalReason) :
    (server.removePeer spec src childId reason).peers = server.peers.erase src :=
  peers_sendEvent _ _

private theorem log_sendEvent (server : UdpServer) (event : EndpointEvent)
    (h : server.eventsOpen = true) :
    (server.sendEvent event).log = server.log ++ [Sent.event event] := by
  rw [sendEvent, if_pos h]

/-- What making room can do. -/
inductive MakesRoom (spec : UdpServerSpec) (server : UdpServer) : UdpServer → Prop
  | roomy (hsize : server.peers.entries.length < max spec.peerCapacity 1) :
    MakesRoom spec server server
  | evicted (victim : SocketAddr) (entry : PeerEntry)
      (hfull : spec.peerCapacity ≤ server.peers.entries.length)
      (hvictim : server.peers.lookup victim = some entry)
      (holdest : ∀ src peer, server.peers.lookup src = some peer →
        entry.lastSeen ≤ peer.lastSeen) :
    MakesRoom spec server (server.removePeer spec victim entry.childId .lruEvicted)

/-- A full table evicts one peer, another one none. -/
private theorem makeRoom_makesRoom (visit : PeerVisit) (server : UdpServer) :
    MakesRoom spec server (server.makeRoom spec visit) := by
  unfold makeRoom
  split
  · rename_i hfull
    unfold evictLruPeer lruPeer
    split
    · rename_i hnone
      have hempty := List.argmin_eq_none.mp hnone
      apply MakesRoom.roomy
      rw [← (visit.perm server.peers.entries).length_eq, hempty]
      exact Nat.lt_of_lt_of_le Nat.zero_lt_one (Nat.le_max_right _ _)
    · rename_i victim hmin
      have hmem : victim ∈ visit.order server.peers.entries := List.argmin_mem hmin
      have hvictim := visit.mem_order.mp hmem
      rw [hvictim]
      refine .evicted victim.1 victim.2 hfull hvictim ?_
      intro src peer hlookup
      have hpeer : ⟨src, peer⟩ ∈ visit.order server.peers.entries := visit.mem_order.mpr hlookup
      have hle := List.le_of_mem_argmin hpeer hmin
      exact hle
  · rename_i hroom
    exact .roomy (Nat.lt_of_lt_of_le (Nat.lt_of_not_le hroom) (Nat.le_max_left _ _))

/-- What handling a datagram can do. -/
inductive Handles (table : MsgTable) (format : AddrFormat) (spec : UdpServerSpec)
    (datagram : Datagram) (server : UdpServer) : UdpServer → Prop
  | known {peer : PeerEntry} (hlookup : server.peers.lookup datagram.src = some peer) :
    Handles table format spec datagram server (server.ingest table spec datagram peer)
  | refused (habsent : server.peers.lookup datagram.src = none)
      (hclosed : server.eventsOpen = false) :
    Handles table format spec datagram server server.alloc
  | admitted {roomy : UdpServer} (habsent : server.peers.lookup datagram.src = none)
      (hopen : server.eventsOpen = true)
      (hroom : MakesRoom spec
        (server.alloc.sendEvent (announcement format spec datagram.src ⟨server.next⟩)) roomy) :
    Handles table format spec datagram server
      (roomy.ingest table spec datagram (.new ⟨server.next⟩ datagram.admitted))

/-- The entry that admission stores is replaced right away. -/
theorem ingest_setPeers_insert (datagram : Datagram) (stored peer : PeerEntry)
    (server : UdpServer) :
    (server.setPeers (server.peers.insert datagram.src stored)).ingest table spec datagram peer =
      server.ingest table spec datagram peer := by
  simp only [ingest, setPeers, sendFrames, AList.insert_insert]

/-- What a datagram does, case by case. -/
private theorem handlePacket_handles (visit : PeerVisit) (datagram : Datagram)
    (server : UdpServer) :
    Handles table format spec datagram server
      (server.handlePacket table format spec visit datagram) := by
  unfold handlePacket
  cases hlookup : server.peers.lookup datagram.src with
  | some peer =>
    simp only [Option.isSome_some, if_true, deliver, hlookup]
    exact .known hlookup
  | none =>
    simp only [Option.isSome_none, Bool.false_eq_true, if_false, admitNewPeer]
    by_cases hopen : server.eventsOpen = true
    · rw [if_pos hopen]
      dsimp only [deliver]
      rw [setPeers, AList.lookup_insert]
      dsimp only
      exact (ingest_setPeers_insert datagram _ _ _).symm ▸
        .admitted hlookup hopen (makeRoom_makesRoom visit _)
    · rw [if_neg hopen]
      exact .refused hlookup (Bool.eq_false_of_not_eq_true hopen)

/-- The id under which a source address is registered. -/
def holder (server : UdpServer) (src : SocketAddr) : Option EndpointId :=
  (server.peers.lookup src).map PeerEntry.childId

/-- What the log says about ids. -/
def leaseLog (server : UdpServer) : List (LeaseEntry EndpointId) :=
  server.log.map Sent.lease

private theorem holder_of_lookup (h : server.peers.lookup src = some peer) :
    server.holder src = some peer.childId := by
  rw [holder, h, Option.map_some]

private theorem holder_insert (server : UdpServer) (src : SocketAddr) (peer : PeerEntry) :
    (server.setPeers (server.peers.insert src peer)).holder =
      Function.update server.holder src (some peer.childId) := by
  funext other
  by_cases hother : other = src
  · subst hother
    rw [Function.update_self]
    exact holder_of_lookup (AList.lookup_insert _)
  · rw [Function.update_of_ne hother, holder, setPeers, AList.lookup_insert_ne hother]
    rfl

private theorem holder_erase (server : UdpServer) (src : SocketAddr) :
    (server.setPeers (server.peers.erase src)).holder =
      Function.update server.holder src none := by
  funext other
  by_cases hother : other = src
  · subst hother
    rw [Function.update_self, holder, setPeers, AList.lookup_erase]
    rfl
  · rw [Function.update_of_ne hother, holder, setPeers, AList.lookup_erase_ne hother]
    rfl

private theorem holder_sendEvent (server : UdpServer) (event : EndpointEvent) :
    (server.sendEvent event).holder = server.holder := by
  funext src
  rw [holder, peers_sendEvent]
  rfl

private theorem leaseLog_sendEvent (server : UdpServer) (event : EndpointEvent) :
    (server.sendEvent event).leaseLog =
      server.leaseLog ++ if server.eventsOpen then [(Sent.event event).lease] else [] := by
  unfold leaseLog sendEvent
  split
  · exact List.map_append
  · rw [List.append_nil]

/-- Storing a peer under its own id changes no holder. -/
theorem holder_insert_of_lookup {peer stored : PeerEntry}
    (h : server.peers.lookup src = some stored) (hid : peer.childId = stored.childId) :
    (server.setPeers (server.peers.insert src peer)).holder = server.holder := by
  rw [holder_insert, hid, ← holder_of_lookup h, Function.update_eq_self]

/-- The table agrees with what was announced, as long as events can be sent and the counter
has not wrapped. -/
structure Registered (server : UdpServer) : Prop where
  counter : server.next = UInt64.ofNat server.allocated
  given : ∀ id ∈ LeaseEntry.openedIn server.leaseLog,
    ∃ number < server.allocated, id = ⟨UInt64.ofNat number⟩
  leases : server.eventsOpen = true → server.allocated ≤ 2 ^ 64 →
    Leases server.holder server.leaseLog
  stopped : server.stopped = true → server.peers = ∅

private theorem registered_start (allocated : ℕ) : Registered (start allocated) where
  counter := rfl
  given := by simp [leaseLog, start, LeaseEntry.openedIn]
  leases := fun _ _ => Leases.empty
  stopped := fun _ => rfl

/-- An id given out before is not the next one, unless the counter has wrapped. -/
theorem next_ne_given (hcounter : server.next = UInt64.ofNat server.allocated)
    (hids : server.allocated < 2 ^ 64) {number : ℕ} (hnumber : number < server.allocated) :
    (⟨server.next⟩ : EndpointId) ≠ ⟨UInt64.ofNat number⟩ := by
  intro hid
  rw [hcounter, EndpointId.mk.injEq] at hid
  have htoNat := congrArg UInt64.toNat hid
  rw [UInt64.toNat_ofNat_of_lt' hids, UInt64.toNat_ofNat_of_lt' (hnumber.trans hids)] at htoNat
  omega

/-- The id given out next is new. -/
theorem Registered.next_new (h : Registered server) (hids : server.allocated < 2 ^ 64) :
    (⟨server.next⟩ : EndpointId) ∉ LeaseEntry.openedIn server.leaseLog := by
  intro hmem
  obtain ⟨number, hnumber, hid⟩ := h.given _ hmem
  exact next_ne_given h.counter hids hnumber hid

private theorem Registered.alloc (h : Registered server) : Registered server.alloc where
  counter := by
    rw [UdpServer.alloc, h.counter, UInt64.ofNat_add]
    rfl
  given := by
    intro id hmem
    obtain ⟨number, hnumber, hid⟩ := h.given id hmem
    exact ⟨number, Nat.lt_succ_of_lt hnumber, hid⟩
  leases := fun hopen hids => h.leases hopen (Nat.le_of_succ_le hids)
  stopped := h.stopped

/-- The other tasks change the session of a peer. -/
theorem Registered.setSession (h : Registered server) {stored : PeerEntry} (peer : PeerEntry)
    (hlookup : server.peers.lookup src = some stored) (hid : peer.childId = stored.childId)
    (hrunning : server.stopped = false) :
    Registered (server.setPeers (server.peers.insert src peer)) where
  counter := h.counter
  given := h.given
  leases := by
    intro hopen hids
    rw [holder_insert_of_lookup hlookup hid]
    exact h.leases hopen hids
  stopped := fun hstopped => absurd (hrunning.symm.trans hstopped) Bool.false_ne_true

/-- The table of a listener that is done is empty. -/
theorem Registered.running (h : Registered server) (hlookup : server.peers.lookup src = some peer) :
    server.stopped = false := by
  by_contra hstopped
  rw [h.stopped (Bool.eq_true_of_not_eq_false hstopped), AList.lookup_empty] at hlookup
  cases hlookup

/-- Sending the frames of a registered peer. -/
theorem Registered.sendFrames (h : Registered server)
    (hlookup : server.peers.lookup src = some peer) {frames : List RouterFrame}
    (hframes : ∀ routerFrame ∈ frames, routerFrame.endpointId = peer.childId) :
    Registered (server.sendFrames frames) := by
  have hlog : (server.sendFrames frames).leaseLog =
      server.leaseLog ++ (frames.map RouterFrame.endpointId).map .used := by
    rw [leaseLog, UdpServer.sendFrames, List.map_append, List.map_map, List.map_map]
    rfl
  constructor
  case counter => exact h.counter
  case given =>
    intro id hmem
    rw [hlog, LeaseEntry.openedIn_append, List.mem_append] at hmem
    rcases hmem with hmem | hmem
    · exact h.given id hmem
    · simp [LeaseEntry.openedIn, List.filterMap_map, LeaseEntry.opened?] at hmem
  case leases =>
    intro hopen hids
    rw [hlog]
    refine (h.leases hopen hids).usedAll (holder_of_lookup hlookup) ?_
    intro use hmem
    obtain ⟨routerFrame, hframe, rfl⟩ := List.mem_map.mp hmem
    exact hframes routerFrame hframe
  case stopped => exact h.stopped

/-- Withdrawing a peer. -/
theorem Registered.removePeer (h : Registered server)
    (hlookup : server.peers.lookup src = some peer) (reason : PeerRemovalReason) :
    Registered (server.removePeer spec src peer.childId reason) := by
  have hrunning := h.running hlookup
  have hlog : (server.removePeer spec src peer.childId reason).leaseLog =
      server.leaseLog ++ if server.eventsOpen then [LeaseEntry.closed peer.childId] else [] :=
    leaseLog_sendEvent _ _
  constructor
  case counter =>
    rw [UdpServer.removePeer, next_sendEvent, allocated_sendEvent]
    exact h.counter
  case given =>
    intro id hmem
    rw [UdpServer.removePeer, allocated_sendEvent]
    apply h.given
    rw [hlog] at hmem
    split at hmem
    · rwa [LeaseEntry.openedIn_closed] at hmem
    · rwa [List.append_nil] at hmem
  case leases =>
    intro hopen hids
    rw [UdpServer.removePeer, eventsOpen_sendEvent] at hopen
    rw [UdpServer.removePeer, allocated_sendEvent] at hids
    have hopenBefore : server.eventsOpen = true := hopen
    rw [hlog, if_pos hopenBefore, UdpServer.removePeer, holder_sendEvent, holder_erase]
    exact (h.leases hopen hids).closed (holder_of_lookup hlookup)
  case stopped =>
    intro hstopped
    rw [UdpServer.removePeer, stopped_sendEvent] at hstopped
    exact absurd (hrunning.symm.trans hstopped) Bool.false_ne_true

/-- Making room changes the table and the log only. -/
theorem MakesRoom.others (h : MakesRoom spec server roomy) :
    roomy.next = server.next ∧ roomy.allocated = server.allocated ∧
      roomy.eventsOpen = server.eventsOpen ∧ roomy.framesOpen = server.framesOpen ∧
      roomy.stopped = server.stopped := by
  cases h with
  | roomy hsize => exact ⟨rfl, rfl, rfl, rfl, rfl⟩
  | evicted victim entry hfull hvictim holdest =>
    simp only [UdpServer.removePeer, next_sendEvent, allocated_sendEvent, eventsOpen_sendEvent,
      framesOpen_sendEvent, stopped_sendEvent]
    exact ⟨rfl, rfl, rfl, rfl, rfl⟩

private theorem leaseLog_removePeer (hopen : server.eventsOpen = true) (src : SocketAddr)
    (childId : EndpointId) (reason : PeerRemovalReason) :
    (server.removePeer spec src childId reason).leaseLog =
      server.leaseLog ++ [LeaseEntry.closed childId] := by
  have hopen' : (server.setPeers (server.peers.erase src)).eventsOpen = true := hopen
  rw [removePeer, leaseLog_sendEvent, if_pos hopen']
  rfl

private theorem holder_removePeer (src : SocketAddr) (childId : EndpointId)
    (reason : PeerRemovalReason) :
    (server.removePeer spec src childId reason).holder =
      Function.update server.holder src none := by
  rw [removePeer, holder_sendEvent, holder_erase]

/-- Making room announces no id. -/
theorem MakesRoom.openedIn (h : MakesRoom spec server roomy) (hopen : server.eventsOpen = true) :
    LeaseEntry.openedIn roomy.leaseLog = LeaseEntry.openedIn server.leaseLog := by
  cases h with
  | roomy hsize => rfl
  | evicted victim entry hfull hvictim holdest =>
    rw [leaseLog_removePeer hopen, LeaseEntry.openedIn_append]
    exact List.append_nil _

/-- Room is made for an address that is not in the table, so the order in which the table
changes does not matter. -/
theorem MakesRoom.leases (h : MakesRoom spec server roomy) (hopen : server.eventsOpen = true)
    {id : EndpointId} (habsent : server.peers.lookup src = none)
    (hleases : Leases (Function.update server.holder src (some id)) server.leaseLog) :
    Leases (Function.update roomy.holder src (some id)) roomy.leaseLog := by
  cases h with
  | roomy hsize => exact hleases
  | evicted victim entry hfull hvictim holdest =>
    have hne : victim ≠ src := Library.ne_of_lookup hvictim habsent
    have hheld : Function.update server.holder src (some id) victim = some entry.childId := by
      rw [Function.update_of_ne hne, holder_of_lookup hvictim]
    rw [leaseLog_removePeer hopen, holder_removePeer, Function.update_comm hne]
    exact hleases.closed hheld

private theorem leaseLog_announced (hopen : server.eventsOpen = true) (src : SocketAddr) :
    (server.alloc.sendEvent (announcement format spec src ⟨server.next⟩)).leaseLog =
      server.leaseLog ++ [LeaseEntry.opened ⟨server.next⟩] := by
  have hallocOpen : server.alloc.eventsOpen = true := hopen
  rw [leaseLog_sendEvent, if_pos hallocOpen]
  rfl

/-- Admission announces one id. -/
theorem MakesRoom.openedIn_announced (hroom : MakesRoom spec
      (server.alloc.sendEvent (announcement format spec src ⟨server.next⟩)) roomy)
    (hopen : server.eventsOpen = true) :
    LeaseEntry.openedIn roomy.leaseLog =
      LeaseEntry.openedIn server.leaseLog ++ [⟨server.next⟩] := by
  have hsentOpen : (server.alloc.sendEvent
      (announcement format spec src ⟨server.next⟩)).eventsOpen = true := by
    rw [eventsOpen_sendEvent]
    exact hopen
  rw [hroom.openedIn hsentOpen, leaseLog_announced hopen, LeaseEntry.openedIn_append]
  rfl

/-- Admitting a peer, with or without an eviction. -/
theorem Registered.enroll (h : Registered server) (habsent : server.peers.lookup src = none)
    (hopen : server.eventsOpen = true) (hrunning : server.stopped = false)
    (hroom : MakesRoom spec
      (server.alloc.sendEvent (announcement format spec src ⟨server.next⟩)) roomy)
    (admitted : Instant) :
    Registered (roomy.setPeers (roomy.peers.insert src (.new ⟨server.next⟩ admitted))) := by
  obtain ⟨hnext, hallocated, -, -, hstopped⟩ := hroom.others
  rw [next_sendEvent] at hnext
  rw [allocated_sendEvent] at hallocated
  rw [stopped_sendEvent] at hstopped
  constructor
  case counter =>
    refine hnext.trans (h.alloc.counter.trans ?_)
    exact congrArg UInt64.ofNat hallocated.symm
  case given =>
    intro id hmem
    have hmemRoomy : id ∈ LeaseEntry.openedIn roomy.leaseLog := hmem
    rw [hroom.openedIn_announced hopen, List.mem_append, List.mem_singleton] at hmemRoomy
    have hlt : server.allocated < roomy.allocated := hallocated.symm ▸ Nat.lt_succ_self _
    rcases hmemRoomy with hbefore | rfl
    · obtain ⟨number, hnumber, hid⟩ := h.given id hbefore
      exact ⟨number, hnumber.trans hlt, hid⟩
    · exact ⟨server.allocated, hlt, by rw [h.counter]⟩
  case leases =>
    intro _ hids
    have hfits : server.allocated < 2 ^ 64 := hallocated.symm.trans_le hids
    have hfree : server.holder src = none := by
      rw [holder, habsent, Option.map_none]
    have hleases := (h.leases hopen hfits.le).opened (h.next_new hfits) hfree
    rw [holder_insert]
    refine hroom.leases ?_ ?_ ?_
    · rw [eventsOpen_sendEvent]
      exact hopen
    · rw [peers_sendEvent]
      exact habsent
    · rw [leaseLog_announced hopen, holder_sendEvent]
      exact hleases
  case stopped =>
    intro hnow
    exact absurd ((hstopped.trans hrunning).symm.trans hnow) Bool.false_ne_true

/-- A peer sends its frames under its own id. -/
theorem endpointId_of_frames (framesOpen : Bool) (datagram : Datagram) (peer : PeerEntry) :
    ∀ routerFrame ∈ peer.frames table spec framesOpen datagram,
      routerFrame.endpointId = peer.childId :=
  (Ingress.confined_read _ _ _ _).endpointId

/-- A datagram for a peer in the table. -/
theorem Registered.ingest (h : Registered server)
    (hlookup : server.peers.lookup datagram.src = some peer) :
    Registered (server.ingest table spec datagram peer) := by
  have hset := h.setSession (peer.receive table spec server.framesOpen datagram) hlookup rfl
    (h.running hlookup)
  have hstored : (server.peers.insert datagram.src
      (peer.receive table spec server.framesOpen datagram)).lookup datagram.src = some _ :=
    AList.lookup_insert _
  exact hset.sendFrames hstored (endpointId_of_frames server.framesOpen datagram peer)

private theorem Registered.handles (h : Registered server) (hrunning : server.stopped = false)
    (hhandles : Handles table format spec datagram server after) : Registered after := by
  cases hhandles with
  | known hlookup => exact h.ingest hlookup
  | refused habsent hclosed => exact h.alloc
  | admitted habsent hopen hroom =>
    have hadmitted := h.enroll habsent hopen hrunning hroom datagram.admitted
    rw [← ingest_setPeers_insert datagram (.new ⟨server.next⟩ datagram.admitted)]
    exact hadmitted.ingest (AList.lookup_insert _)

private theorem Registered.reap (h : Registered server) (src : SocketAddr) :
    Registered (server.reap spec src) := by
  unfold UdpServer.reap
  split
  · exact h
  · rename_i entry hlookup
    exact h.removePeer hlookup .idle

private theorem Registered.reapIdlePeers (h : Registered server) (visit : PeerVisit)
    (now : Instant) : Registered (server.reapIdlePeers spec visit now) := by
  unfold UdpServer.reapIdlePeers
  generalize expired spec visit now server.peers = addresses
  induction addresses generalizing server with
  | nil => exact h
  | cons src addresses ih => exact ih (h.reap src)

/-- Sending several events. -/
theorem foldl_sendEvent {α : Type*} (event : α → EndpointEvent) (items : List α)
    (server : UdpServer) :
    items.foldl (fun sending item => sending.sendEvent (event item)) server =
      { server with log := server.log ++
          if server.eventsOpen then items.map fun item => .event (event item) else [] } := by
  induction items generalizing server with
  | nil => simp
  | cons item items ih =>
    rw [List.foldl_cons, ih]
    by_cases hopen : server.eventsOpen = true
    · simp [sendEvent, hopen]
    · simp [sendEvent, hopen]

/-- All peers are removed and reported. -/
theorem shutdownAllPeers_eq (visit : PeerVisit) (server : UdpServer) :
    server.shutdownAllPeers spec visit =
      { server with
        peers := ∅
        stopped := true
        log := server.log ++
          if server.eventsOpen then (visit.order server.peers.entries).map fun entry =>
            .event (.peerRemoved spec.parentId entry.2.childId .listenerShutdown)
          else [] } := by
  rw [shutdownAllPeers, foldl_sendEvent]

private theorem leaseLog_shutdownAllPeers (visit : PeerVisit) (server : UdpServer) :
    (server.shutdownAllPeers spec visit).leaseLog = server.leaseLog ++
      if server.eventsOpen then
        (visit.order server.peers.entries).map fun entry => LeaseEntry.closed entry.2.childId
      else [] := by
  rw [shutdownAllPeers_eq, leaseLog, List.map_append]
  split
  · rw [List.map_map]
    rfl
  · rfl

/-- The peers that are left when the listener is done are withdrawn. -/
theorem Registered.shutdownAllPeers (h : Registered server) (visit : PeerVisit) :
    Registered (server.shutdownAllPeers spec visit) := by
  have hpeers : (server.shutdownAllPeers spec visit).peers = ∅ := by rw [shutdownAllPeers_eq]
  have hallocated : (server.shutdownAllPeers spec visit).allocated = server.allocated := by
    rw [shutdownAllPeers_eq]
  have heventsOpen : (server.shutdownAllPeers spec visit).eventsOpen = server.eventsOpen := by
    rw [shutdownAllPeers_eq]
  constructor
  case counter =>
    rw [hallocated, ← h.counter, shutdownAllPeers_eq]
  case given =>
    intro id hmem
    rw [hallocated]
    apply h.given
    rw [leaseLog_shutdownAllPeers] at hmem
    split at hmem
    · rwa [LeaseEntry.openedIn_closedAll] at hmem
    · rwa [List.append_nil] at hmem
  case leases =>
    intro hopen hids
    rw [heventsOpen] at hopen
    rw [hallocated] at hids
    have hholder : (server.shutdownAllPeers spec visit).holder = fun src =>
        if src ∈ (visit.order server.peers.entries).map Sigma.fst then none
        else server.holder src := by
      funext src
      rw [holder, hpeers, AList.lookup_empty, Option.map_none]
      split
      · rfl
      · rename_i habsent
        cases hlookup : server.peers.lookup src with
        | none => rw [holder, hlookup, Option.map_none]
        | some peer =>
          have hmem : ⟨src, peer⟩ ∈ visit.order server.peers.entries := visit.mem_order.mpr hlookup
          exact absurd (List.mem_map.mpr ⟨_, hmem, rfl⟩) habsent
    rw [leaseLog_shutdownAllPeers, if_pos hopen, hholder]
    exact (h.leases hopen hids).closedAll (visit.nodup_keys server.peers)
      fun entry hmem => holder_of_lookup (visit.mem_order.mp hmem)
  case stopped => exact fun _ => hpeers

/-- What a step can do. -/
inductive Moves (table : MsgTable) (format : AddrFormat) (spec : UdpServerSpec)
    (server : UdpServer) : Action → UdpServer → Prop
  | packet {after : UdpServer} (visit : PeerVisit) (datagram : Datagram)
      (hrunning : server.stopped = false)
      (hhandles : Handles table format spec datagram server after) :
    Moves table format spec server (.packet visit datagram) after
  | tick (visit : PeerVisit) (now : Instant) (hrunning : server.stopped = false) :
    Moves table format spec server (.tick visit now) (server.reapIdlePeers spec visit now)
  | shutdown (visit : PeerVisit) (hrunning : server.stopped = false) :
    Moves table format spec server (.shutdown visit) (server.shutdownAllPeers spec visit)
  | access (src : SocketAddr) (access : PortAccess) {peer : PeerEntry}
      (hlookup : server.peers.lookup src = some peer) :
    Moves table format spec server (.access src access) (server.setPeers (server.peers.insert src
      { peer with session := peer.session.setPort (peer.session.port.access access) }))
  | write (src : SocketAddr) (writerStep : WriterStep) {peer : PeerEntry} {writer : Writer}
      {port : Port} {written : Option Written}
      (hlookup : server.peers.lookup src = some peer)
      (hwriter : peer.session.writer.step peer.session.port writerStep =
        some (writer, port, written)) :
    Moves table format spec server (.write src writerStep) (server.setPeers
      (server.peers.insert src { peer with session := peer.session.afterWrite writer port }))
  | allocate : Moves table format spec server .allocate server.alloc
  | closeEvents : Moves table format spec server .closeEvents { server with eventsOpen := false }
  | closeFrames : Moves table format spec server .closeFrames { server with framesOpen := false }

/-- A running server handles every datagram. -/
theorem step_packet (hrunning : server.stopped = false) (visit : PeerVisit)
    (datagram : Datagram) :
    server.step table format spec (.packet visit datagram) =
      some (server.handlePacket table format spec visit datagram) := by
  rw [step, if_neg (Bool.eq_false_iff.mp hrunning)]

/-- Every step is one of these. -/
theorem step_moves {action : Action} (h : server.step table format spec action = some after) :
    Moves table format spec server action after := by
  cases action with
  | packet visit datagram =>
    obtain ⟨hrunning, hafter⟩ := Option.ite_none_left_eq_some.mp h
    cases hafter
    exact .packet visit datagram (Bool.eq_false_of_not_eq_true hrunning)
      (handlePacket_handles visit datagram server)
  | tick visit now =>
    obtain ⟨hrunning, hafter⟩ := Option.ite_none_left_eq_some.mp h
    cases hafter
    exact .tick visit now (Bool.eq_false_of_not_eq_true hrunning)
  | shutdown visit =>
    obtain ⟨hrunning, hafter⟩ := Option.ite_none_left_eq_some.mp h
    cases hafter
    exact .shutdown visit (Bool.eq_false_of_not_eq_true hrunning)
  | access src access =>
    simp only [step, updateSession] at h
    split at h
    · cases h
    · rename_i peer hlookup
      cases h
      exact .access src access hlookup
  | write src writerStep =>
    simp only [step, updateSession] at h
    split at h
    · cases h
    · rename_i peer hlookup
      obtain ⟨session, hsession, hafter⟩ := Option.map_eq_some_iff.mp h
      obtain ⟨⟨writer, port, written⟩, hwriter, hresult⟩ := Option.map_eq_some_iff.mp hsession
      cases hresult
      cases hafter
      exact .write src writerStep hlookup hwriter
  | allocate =>
    cases h
    exact .allocate
  | closeEvents =>
    cases h
    exact .closeEvents
  | closeFrames =>
    cases h
    exact .closeFrames

/-- One step keeps the table and the announced ids in agreement. -/
private theorem Registered.step {action : Action} (h : Registered server)
    (hstep : server.step table format spec action = some after) : Registered after := by
  cases step_moves hstep with
  | packet visit datagram hrunning hhandles => exact h.handles hrunning hhandles
  | tick visit now hrunning => exact h.reapIdlePeers visit now
  | shutdown visit hrunning => exact h.shutdownAllPeers visit
  | access src access hlookup => exact h.setSession _ hlookup rfl (h.running hlookup)
  | write src writerStep hlookup hwriter => exact h.setSession _ hlookup rfl (h.running hlookup)
  | allocate => exact h.alloc
  | closeEvents =>
    exact ⟨h.counter, h.given, fun hopen => absurd hopen Bool.false_ne_true, h.stopped⟩
  | closeFrames => exact ⟨h.counter, h.given, h.leases, h.stopped⟩

private theorem registered {allocated : ℕ} {actions : List Action}
    (hrun : execute (step table format spec) (start allocated) actions = some server) :
    Registered server :=
  execute_invariant (registered_start allocated) (fun h hstep => h.step hstep) hrun

private theorem MakesRoom.lookup_eq_none (h : MakesRoom spec server roomy)
    (habsent : server.peers.lookup src = none) :
    roomy.peers.lookup src = none := by
  cases h with
  | roomy hsize => exact habsent
  | evicted victim entry hfull hvictim holdest =>
    have hne : victim ≠ src := Library.ne_of_lookup hvictim habsent
    rw [peers_removePeer, AList.lookup_erase_ne hne.symm, habsent]

private theorem MakesRoom.length_lt (h : MakesRoom spec server roomy)
    (hsize : server.peers.entries.length ≤ max spec.peerCapacity 1) :
    roomy.peers.entries.length < max spec.peerCapacity 1 := by
  cases h with
  | roomy hroom => exact hroom
  | evicted victim entry hfull hvictim holdest =>
    have herase := Library.length_erase_add_one hvictim
    rw [peers_removePeer]
    omega

/-- The table never outgrows its capacity. -/
private theorem Handles.length_le (h : Handles table format spec datagram server after)
    (hsize : server.peers.entries.length ≤ max spec.peerCapacity 1) :
    after.peers.entries.length ≤ max spec.peerCapacity 1 := by
  cases h with
  | known hlookup => exact (Library.length_insert_of_lookup hlookup).trans_le hsize
  | refused habsent hclosed => exact hsize
  | admitted habsent hopen hroom =>
    have hstill : (server.alloc.sendEvent (announcement format spec datagram.src
        ⟨server.next⟩)).peers.lookup datagram.src = none := by
      rw [peers_sendEvent]
      exact habsent
    have hlt := hroom.length_lt (by rw [peers_sendEvent]; exact hsize)
    exact (Library.length_insert (hroom.lookup_eq_none hstill)).trans_le hlt

private theorem length_reap_le (spec : UdpServerSpec) (server : UdpServer) (src : SocketAddr) :
    (server.reap spec src).peers.entries.length ≤ server.peers.entries.length := by
  unfold reap
  split
  · exact le_rfl
  · rename_i entry hlookup
    have herase := Library.length_erase_add_one hlookup
    rw [peers_removePeer]
    omega

private theorem length_reapIdlePeers_le (visit : PeerVisit) (now : Instant) (server : UdpServer) :
    (server.reapIdlePeers spec visit now).peers.entries.length ≤ server.peers.entries.length := by
  unfold reapIdlePeers
  generalize expired spec visit now server.peers = addresses
  induction addresses generalizing server with
  | nil => exact le_rfl
  | cons src addresses ih =>
    exact (ih (server.reap spec src)).trans (length_reap_le spec server src)

/-- The table never has more peers than its capacity, which counts as 1 if it is 0. -/
theorem length_le {allocated : ℕ} {actions : List Action}
    (hrun : execute (step table format spec) (start allocated) actions = some server) :
    server.peers.entries.length ≤ max spec.peerCapacity 1 := by
  refine execute_invariant (motive := fun reached =>
    reached.peers.entries.length ≤ max spec.peerCapacity 1) (Nat.zero_le _) ?_ hrun
  intro before action after ih hstep
  cases step_moves hstep with
  | packet visit datagram hrunning hhandles => exact hhandles.length_le ih
  | tick visit now hrunning => exact (length_reapIdlePeers_le visit now before).trans ih
  | shutdown visit hrunning =>
    rw [shutdownAllPeers_eq]
    exact Nat.zero_le _
  | access src access hlookup => exact (Library.length_insert_of_lookup hlookup).trans_le ih
  | write src writerStep hlookup hwriter =>
    exact (Library.length_insert_of_lookup hlookup).trans_le ih
  | allocate => exact ih
  | closeEvents => exact ih
  | closeFrames => exact ih

/-- An eviction: the victim was seen no later than any other peer, and leaves the table. -/
structure Evicts (spec : UdpServerSpec) (before after : UdpServer) (src : SocketAddr)
    (id : EndpointId) (victim : SocketAddr) (entry : PeerEntry) : Prop where
  full : spec.peerCapacity ≤ before.peers.entries.length
  stored : before.peers.lookup victim = some entry
  childId : entry.childId = id
  oldest : ∀ other peer, before.peers.lookup other = some peer → entry.lastSeen ≤ peer.lastSeen
  other : victim ≠ src
  removed : after.peers.lookup victim = none

private theorem log_removePeer (hopen : server.eventsOpen = true) (src : SocketAddr)
    (childId : EndpointId) (reason : PeerRemovalReason) :
    (server.removePeer spec src childId reason).log =
      server.log ++ [Sent.event (.peerRemoved spec.parentId childId reason)] :=
  log_sendEvent (server.setPeers (server.peers.erase src)) _ hopen

/-- A datagram withdraws no peer but the victim of an eviction. -/
theorem Handles.evicts {sent : List Sent} (h : Handles table format spec datagram server after)
    (hsent : after.log = server.log ++ sent) {parentId id : EndpointId} {reason : PeerRemovalReason}
    (hmem : .event (.peerRemoved parentId id reason) ∈ sent) :
    reason = .lruEvicted ∧
      ∃ victim entry, Evicts spec server after datagram.src id victim entry := by
  cases h with
  | known hlookup =>
    have hframes := List.append_cancel_left hsent
    rw [← hframes] at hmem
    simp at hmem
  | refused habsent hclosed =>
    have hnone := List.self_eq_append_right.mp hsent
    rw [hnone] at hmem
    cases hmem
  | admitted habsent hopen hroom =>
    have hannounced := log_sendEvent server.alloc
      (announcement format spec datagram.src ⟨server.next⟩) hopen
    cases hroom with
    | roomy hsize =>
      rw [ingest, sendFrames] at hsent
      dsimp only [setPeers] at hsent
      rw [hannounced, List.append_assoc] at hsent
      rw [← List.append_cancel_left hsent] at hmem
      simp [announcement] at hmem
    | evicted victim entry hfull hvictim holdest =>
      have hsentOpen : (server.alloc.sendEvent
          (announcement format spec datagram.src ⟨server.next⟩)).eventsOpen = true := by
        rw [eventsOpen_sendEvent]
        exact hopen
      rw [ingest, sendFrames] at hsent
      dsimp only [setPeers] at hsent
      rw [log_removePeer hsentOpen, hannounced, List.append_assoc, List.append_assoc] at hsent
      rw [← List.append_cancel_left hsent] at hmem
      simp only [announcement, List.mem_append, List.mem_singleton, List.mem_map, reduceCtorEq,
        and_false, exists_false, or_false, Sent.event.injEq, EndpointEvent.peerRemoved.injEq,
        false_or] at hmem
      obtain ⟨-, rfl, rfl⟩ := hmem
      rw [peers_sendEvent] at hfull hvictim
      have hne : victim ≠ datagram.src := Library.ne_of_lookup hvictim habsent
      refine ⟨rfl, victim, entry, hfull, hvictim, rfl, ?_, hne, ?_⟩
      · intro other peer hother
        exact holdest other peer (by rw [peers_sendEvent]; exact hother)
      · rw [ingest, sendFrames]
        dsimp only [setPeers]
        rw [AList.lookup_insert_ne hne, peers_removePeer, AList.lookup_erase]

/-- The peer table of a listener and its log, in every run in which events can be sent and
at most `2 ^ 64` ids have been allocated. -/
theorem peer_lifecycle {allocated : ℕ} {actions : List Action}
    (hrun : execute (step table format spec) (start allocated) actions = some server)
    (hevents : server.eventsOpen = true) (hids : server.allocated ≤ 2 ^ 64) :
    -- Every id is announced once and withdrawn at most once, after its announcement.
    (addedIds server.log).Nodup ∧ (removedIds server.log).Nodup ∧
    (∀ before parentId id reason after,
      server.log = before ++ .event (.peerRemoved parentId id reason) :: after →
        id ∈ addedIds before) ∧
    -- The ids in the table are those announced and not withdrawn.
    (∀ id, id ∈ addedIds server.log ∧ id ∉ removedIds server.log ↔
      ∃ src peer, server.peers.lookup src = some peer ∧ peer.childId = id) ∧
    server.peers.keys.Nodup ∧
    server.peers.entries.length ≤ max spec.peerCapacity 1 ∧
    -- A datagram withdraws at most the victim of an eviction.
    (∀ done visit datagram rest before after sent,
      actions = done ++ .packet visit datagram :: rest →
      execute (step table format spec) (start allocated) done = some before →
      step table format spec before (.packet visit datagram) = some after →
      after.log = before.log ++ sent →
      ∀ parentId id reason, .event (.peerRemoved parentId id reason) ∈ sent →
        reason = .lruEvicted ∧
          ∃ victim entry, Evicts spec before after datagram.src id victim entry) ∧
    -- Frames are sent under an id between its announcement and its withdrawal.
    (∀ before routerFrame after, server.log = before ++ .frame routerFrame :: after →
      routerFrame.endpointId ∈ addedIds before ∧ routerFrame.endpointId ∉ removedIds before) ∧
    -- In the end every id has been withdrawn.
    (server.stopped = true → ∀ id ∈ addedIds server.log, id ∈ removedIds server.log) := by
  have hregistered := registered hrun
  have hleases := hregistered.leases hevents hids
  have hadmissible : ∀ before item after, server.log = before ++ item :: after →
      LeaseEntry.Admissible (before.map Sent.lease) item.lease := by
    intro before item after hsplit
    apply hleases.regular _ _ (after.map Sent.lease)
    rw [leaseLog, hsplit, List.map_append, List.map_cons]
  have hlive : ∀ id, id ∈ addedIds server.log ∧ id ∉ removedIds server.log ↔
      ∃ src peer, server.peers.lookup src = some peer ∧ peer.childId = id := by
    intro id
    rw [← openedIn_lease, ← closedIn_lease]
    refine (hleases.live_iff id).trans ?_
    simp only [holder, Option.map_eq_some_iff]
  refine ⟨?_, ?_, ?_, hlive, server.peers.nodupKeys, length_le hrun, ?_, ?_, ?_⟩
  · rw [← openedIn_lease]
    exact hleases.regular.nodup_openedIn
  · rw [← closedIn_lease]
    exact hleases.regular.nodup_closedIn
  · intro before parentId id reason after hsplit
    have hclosed := hadmissible before _ after hsplit
    rw [← openedIn_lease]
    exact hclosed.1
  · intro done visit datagram rest before after sent _ _ hstep hsent parentId id reason hmem
    cases step_moves hstep with
    | packet visit datagram hrunning hhandles => exact hhandles.evicts hsent hmem
  · intro before routerFrame after hsplit
    have hused := hadmissible before _ after hsplit
    rw [← openedIn_lease, ← closedIn_lease]
    exact hused
  · intro hstopped id hadded
    by_contra hnotRemoved
    obtain ⟨src, peer, hlookup, -⟩ := (hlive id).mp ⟨hadded, hnotRemoved⟩
    rw [hregistered.stopped hstopped, AList.lookup_empty] at hlookup
    cases hlookup

/-- The first peer is evicted for the second one, which stays until the listener is done. -/
theorem peer_lifecycle_eviction :
    let spec : UdpServerSpec := ⟨⟨0⟩, "listener", 60, 1, {}⟩
    let format : AddrFormat := ⟨fun _ => "", fun _ => ""⟩
    let run := execute (step ⟨[], .nil⟩ format spec) (start 1)
      [.packet .inOrder ⟨.v4 1 1, [0], 0, 0, 0⟩, .packet .inOrder ⟨.v4 2 2, [0], 1, 1, 1⟩,
        .shutdown .inOrder]
    run.map (fun server => (addedIds server.log, removedIds server.log)) =
        some ([⟨1⟩, ⟨2⟩], [⟨1⟩, ⟨2⟩]) ∧
      ∃ server, run = some server ∧ ∀ id ∈ addedIds server.log, id ∈ removedIds server.log := by
  intro spec format run
  have hids : run.map (fun server => (addedIds server.log, removedIds server.log)) =
      some ([⟨1⟩, ⟨2⟩], [⟨1⟩, ⟨2⟩]) := by decide +kernel
  have hflags : run.map (fun server => (server.eventsOpen, server.stopped, server.allocated)) =
      some (true, true, 3) := by decide +kernel
  obtain ⟨server, hrun, hserver⟩ := Option.map_eq_some_iff.mp hflags
  simp only [Prod.mk.injEq] at hserver
  have hlifecycle := peer_lifecycle hrun hserver.1 (hserver.2.2 ▸ by norm_num)
  exact ⟨hids, server, hrun, hlifecycle.2.2.2.2.2.2.2.2 hserver.2.1⟩

/-- Making room adds no peer. -/
theorem MakesRoom.lookup_of_some (h : MakesRoom spec server roomy)
    (hlookup : roomy.peers.lookup src = some peer) :
    server.peers.lookup src = some peer := by
  cases h with
  | roomy hsize => exact hlookup
  | evicted victim entry hfull hvictim holdest =>
    rw [peers_removePeer] at hlookup
    by_cases hsrc : src = victim
    · rw [hsrc, AList.lookup_erase] at hlookup
      cases hlookup
    · rwa [AList.lookup_erase_ne hsrc] at hlookup

/-- One of many source addresses. -/
def floodAddr (number : ℕ) : SocketAddr :=
  .v6 (BitVec.ofNat 128 number) 0 0 0

private theorem floodAddr_inj {number number' : ℕ} (hnumber : number < 2 ^ 128)
    (hnumber' : number' < 2 ^ 128) (h : floodAddr number = floodAddr number') :
    number = number' := by
  have hip : BitVec.ofNat 128 number = BitVec.ofNat 128 number' := by
    simpa [floodAddr] using h
  have htoNat := congrArg BitVec.toNat hip
  rwa [BitVec.toNat_ofNat, BitVec.toNat_ofNat, Nat.mod_eq_of_lt hnumber,
    Nat.mod_eq_of_lt hnumber'] at htoNat

/-- Empty datagrams from different addresses, all at once. -/
def flood (count : ℕ) : List Action :=
  (List.range count).map fun number => .packet .inOrder ⟨floodAddr number, [], 0, 0, 0⟩

/-- After a flood, every address has had an id of its own, taken from the counter. -/
structure Flooded (allocated count : ℕ) (server : UdpServer) : Prop where
  running : server.stopped = false
  eventsOpen : server.eventsOpen = true
  framesOpen : server.framesOpen = true
  next : server.next = UInt64.ofNat (allocated + count)
  added : addedIds server.log =
    (List.range count).map fun number => ⟨UInt64.ofNat (allocated + number)⟩
  sources : ∀ src peer, server.peers.lookup src = some peer →
    ∃ number < count, src = floodAddr number

/-- One more datagram of the flood takes one more id. -/
private theorem Flooded.handles {allocated count : ℕ} (h : Flooded allocated count server)
    (hcount : count < 2 ^ 128)
    (hhandles : Handles table format spec ⟨floodAddr count, [], 0, 0, 0⟩ server after) :
    Flooded allocated (count + 1) after := by
  cases hhandles with
  | known hlookup =>
    obtain ⟨number, hnumber, hsrc⟩ := h.sources _ _ hlookup
    have hsame := floodAddr_inj hcount (hnumber.trans hcount) hsrc
    omega
  | refused habsent hclosed => exact absurd (h.eventsOpen.symm.trans hclosed) (by decide)
  | admitted habsent hopen hroom =>
    rename_i roomy
    obtain ⟨hnext, -, heventsOpen, hframesOpen, hstopped⟩ := hroom.others
    have hadded := hroom.openedIn_announced hopen
    rw [leaseLog, leaseLog, openedIn_lease, openedIn_lease] at hadded
    constructor
    case running => exact (hstopped.trans (stopped_sendEvent _ _)).trans h.running
    case eventsOpen => exact (heventsOpen.trans (eventsOpen_sendEvent _ _)).trans h.eventsOpen
    case framesOpen => exact (hframesOpen.trans (framesOpen_sendEvent _ _)).trans h.framesOpen
    case next =>
      refine (hnext.trans (next_sendEvent _ _)).trans ?_
      rw [alloc, h.next, ← Nat.add_assoc, UInt64.ofNat_add (allocated + count)]
      rfl
    case added =>
      have hframes : ∀ frames : List RouterFrame, addedIds (frames.map .frame) = [] := by
        intro frames
        simp [addedIds, List.filterMap_map, Sent.added?]
      rw [ingest, sendFrames, addedIds, List.filterMap_append, List.range_succ, List.map_append,
        ← h.added]
      change addedIds roomy.log ++ addedIds _ = _
      rw [hframes, hadded, List.append_nil, h.next]
      rfl
    case sources =>
      intro src peer hlookup
      by_cases hsrc : src = floodAddr count
      · exact ⟨count, Nat.lt_succ_self count, hsrc⟩
      · have hroomy : roomy.peers.lookup src = some peer :=
          (AList.lookup_insert_ne hsrc).symm.trans hlookup
        have hbefore := hroom.lookup_of_some hroomy
        rw [peers_sendEvent] at hbefore
        obtain ⟨number, hnumber, hnumbered⟩ := h.sources src peer hbefore
        exact ⟨number, Nat.lt_succ_of_lt hnumber, hnumbered⟩

/-- The flood can go on for as long as there are addresses. -/
private theorem exists_flooded (table : MsgTable) (format : AddrFormat) (spec : UdpServerSpec)
    (allocated count : ℕ) (hcount : count ≤ 2 ^ 128) :
    ∃ server, execute (step table format spec) (start allocated) (flood count) = some server ∧
      Flooded allocated count server := by
  induction count with
  | zero => exact ⟨start allocated, rfl, rfl, rfl, rfl, rfl, rfl, by simp [start]⟩
  | succ count ih =>
    obtain ⟨before, hrun, hflooded⟩ := ih (Nat.le_of_succ_le hcount)
    have hhandles : Handles table format spec ⟨floodAddr count, [], 0, 0, 0⟩ before _ :=
      handlePacket_handles .inOrder _ before
    refine ⟨_, ?_, hflooded.handles hcount hhandles⟩
    rw [flood, List.range_succ, List.map_append]
    exact Library.execute_snoc.mpr ⟨before, hrun, step_packet hflooded.running .inOrder _⟩

/-- The counter wraps: after one datagram more than there are ids, one id is announced twice. -/
theorem peer_id_reused :
    let spec : UdpServerSpec := ⟨⟨0⟩, "listener", 60, 256, {}⟩
    let format : AddrFormat := ⟨fun _ => "", fun _ => ""⟩
    ∃ server, execute (step ⟨[], .nil⟩ format spec) (start 1) (flood (2 ^ 64 + 1)) = some server ∧
      server.eventsOpen = true ∧ server.framesOpen = true ∧ ¬ (addedIds server.log).Nodup := by
  intro spec format
  obtain ⟨server, hrun, hflooded⟩ :=
    exists_flooded ⟨[], .nil⟩ format spec 1 (2 ^ 64 + 1) (by norm_num)
  refine ⟨server, hrun, hflooded.eventsOpen, hflooded.framesOpen, ?_⟩
  intro hnodup
  rw [hflooded.added] at hnodup
  have hfirst : 0 ∈ List.range (2 ^ 64 + 1) := List.mem_range.mpr (by norm_num)
  have hlast : 2 ^ 64 ∈ List.range (2 ^ 64 + 1) := List.mem_range.mpr (by norm_num)
  have hsame := List.inj_on_of_nodup_map hnodup hfirst hlast rfl
  norm_num at hsame

end UdpServer

end MavlinkRouter
