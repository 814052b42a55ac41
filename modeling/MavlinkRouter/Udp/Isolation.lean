import MavlinkRouter.Udp.Peers

/-!
# One peer among others

What the listener does with the datagrams of one address does not depend on those of any
other: the reader of a peer, its counters and its frames are those of a reader that gets
the peer's datagrams alone. Each peer is a session of its own, so its counters balance too.
-/

namespace MavlinkRouter

open Library (execute execute_invariant execute_induction execute_snoc)

/-- A datagram as it reaches a reader, with the state of the router's channel. -/
structure Delivery where
  data : List UInt8
  now : Instant
  framesOpen : Bool

/-- A fresh reader that gets the datagrams of one peer and no others. -/
def Session.alone (table : MsgTable) (filters : Filters) (id : EndpointId)
    (deliveries : List Delivery) : Session :=
  deliveries.foldl (fun session delivery => session.handleRead table filters id delivery.now
    delivery.framesOpen delivery.data) (.start freshPort)

/-- The frame an item of the log carries. -/
def Sent.frame? : Sent → Option RouterFrame
  | .event _ => none
  | .frame routerFrame => some routerFrame

/-- The frames sent under one id, in order. -/
def framesOf (id : EndpointId) (log : List Sent) : List RouterFrame :=
  (log.filterMap Sent.frame?).filter fun routerFrame => routerFrame.endpointId = id

private theorem framesOf_append (id : EndpointId) (log log' : List Sent) :
    framesOf id (log ++ log') = framesOf id log ++ framesOf id log' := by
  rw [framesOf, List.filterMap_append, List.filter_append]
  rfl

private theorem framesOf_frames {id sender : EndpointId} {frames : List RouterFrame}
    (h : ∀ routerFrame ∈ frames, routerFrame.endpointId = sender) :
    framesOf id (frames.map .frame) = if sender = id then frames else [] := by
  have hframes : (frames.map Sent.frame).filterMap Sent.frame? = frames := by
    rw [List.filterMap_map]
    exact List.filterMap_some
  rw [framesOf, hframes]
  split
  · rename_i hid
    exact List.filter_eq_self.mpr fun routerFrame hmem => by simp [h routerFrame hmem, hid]
  · rename_i hid
    exact List.filter_eq_nil_iff.mpr fun routerFrame hmem => by simp [h routerFrame hmem, hid]

namespace UdpServer

variable {table : MsgTable} {format : AddrFormat} {spec : UdpServerSpec} {server : UdpServer}
  {after : UdpServer} {src : SocketAddr} {peer : PeerEntry} {datagram : Datagram} {action : Action}

/-- The datagrams of one address among the steps, each with the state of the frame channel. -/
def deliveries (src : SocketAddr) : Bool → List Action → List Delivery
  | _, [] => []
  | framesOpen, .packet _ datagram :: actions =>
    if datagram.src = src then
      ⟨datagram.data, datagram.now, framesOpen⟩ :: deliveries src framesOpen actions
    else deliveries src framesOpen actions
  | framesOpen, .tick _ _ :: actions => deliveries src framesOpen actions
  | framesOpen, .shutdown _ :: actions => deliveries src framesOpen actions
  | framesOpen, .access _ _ :: actions => deliveries src framesOpen actions
  | framesOpen, .write _ _ :: actions => deliveries src framesOpen actions
  | framesOpen, .allocate :: actions => deliveries src framesOpen actions
  | framesOpen, .closeEvents :: actions => deliveries src framesOpen actions
  | _, .closeFrames :: actions => deliveries src false actions

private theorem framesOf_sendEvent (id : EndpointId) (server : UdpServer) (event : EndpointEvent) :
    framesOf id (server.sendEvent event).log = framesOf id server.log := by
  unfold sendEvent
  split
  · exact (framesOf_append _ _ _).trans (List.append_nil _)
  · rfl

private theorem MakesRoom.framesOf_log {roomy : UdpServer} (h : MakesRoom spec server roomy)
    (id : EndpointId) : framesOf id roomy.log = framesOf id server.log := by
  cases h with
  | roomy hsize => rfl
  | evicted victim entry hfull hvictim holdest => exact framesOf_sendEvent id _ _

private theorem framesOf_reap (id : EndpointId) (server : UdpServer) (src : SocketAddr) :
    framesOf id (server.reap spec src).log = framesOf id server.log := by
  unfold reap
  split
  · rfl
  · exact framesOf_sendEvent id _ _

private theorem framesOf_reapIdlePeers (id : EndpointId) (visit : PeerVisit) (now : Instant)
    (server : UdpServer) :
    framesOf id (server.reapIdlePeers spec visit now).log = framesOf id server.log := by
  unfold reapIdlePeers
  generalize expired spec visit now server.peers = addresses
  induction addresses generalizing server with
  | nil => rfl
  | cons src addresses ih => exact (ih (server.reap spec src)).trans (framesOf_reap id server src)

private theorem framesOf_ingest (id : EndpointId) (datagram : Datagram) (peer : PeerEntry)
    (server : UdpServer) :
    framesOf id (server.ingest table spec datagram peer).log = framesOf id server.log ++
      if peer.childId = id then peer.frames table spec server.framesOpen datagram else [] := by
  rw [ingest, sendFrames, framesOf_append,
    framesOf_frames (endpointId_of_frames server.framesOpen datagram peer)]
  rfl

private theorem lookup_reap_of_some {src other : SocketAddr}
    (h : (server.reap spec other).peers.lookup src = some peer) :
    server.peers.lookup src = some peer := by
  unfold reap at h
  split at h
  · exact h
  · rw [peers_removePeer] at h
    by_cases hsrc : src = other
    · rw [hsrc, AList.lookup_erase] at h
      cases h
    · rwa [AList.lookup_erase_ne hsrc] at h

/-- A tick stores nothing new. -/
theorem lookup_reapIdlePeers_of_some {visit : PeerVisit} {now : Instant}
    (h : (server.reapIdlePeers spec visit now).peers.lookup src = some peer) :
    server.peers.lookup src = some peer := by
  unfold reapIdlePeers at h
  generalize expired spec visit now server.peers = addresses at h
  induction addresses generalizing server with
  | nil => exact h
  | cons other addresses ih => exact lookup_reap_of_some (ih h)

/-- Peers have different ids, and frames are sent under ids that have been given out. -/
structure Distinct (server : UdpServer) : Prop where
  counter : server.next = UInt64.ofNat server.allocated
  given : ∀ {src peer}, server.peers.lookup src = some peer →
    ∃ number < server.allocated, peer.childId = ⟨UInt64.ofNat number⟩
  unique : server.allocated ≤ 2 ^ 64 → ∀ {src src' peer peer'},
    server.peers.lookup src = some peer → server.peers.lookup src' = some peer' →
      peer.childId = peer'.childId → src = src'
  sent : ∀ {id}, framesOf id server.log ≠ [] →
    ∃ number < server.allocated, id = ⟨UInt64.ofNat number⟩

private theorem distinct_start (allocated : ℕ) : Distinct (start allocated) where
  counter := rfl
  given := by simp [start]
  unique := by simp [start]
  sent := by simp [start, framesOf]

/-- Peers leave the table, and events are sent. -/
theorem Distinct.shrink (h : Distinct server) (hnext : after.next = server.next)
    (hallocated : after.allocated = server.allocated)
    (hpeers : ∀ {src peer}, after.peers.lookup src = some peer →
      server.peers.lookup src = some peer)
    (hsent : ∀ id, framesOf id after.log = framesOf id server.log) :
    Distinct after where
  counter := by rw [hnext, hallocated, h.counter]
  given := by
    rw [hallocated]
    exact fun hlookup => h.given (hpeers hlookup)
  unique := by
    intro hids src src' peer peer' hlookup hlookup'
    rw [hallocated] at hids
    exact h.unique hids (hpeers hlookup) (hpeers hlookup')
  sent := by
    intro id hid
    rw [hallocated]
    rw [hsent] at hid
    exact h.sent hid

private theorem Distinct.alloc (h : Distinct server) : Distinct server.alloc where
  counter := by
    rw [UdpServer.alloc, h.counter, UInt64.ofNat_add]
    rfl
  given := by
    intro src peer hlookup
    obtain ⟨number, hnumber, hid⟩ := h.given hlookup
    exact ⟨number, Nat.lt_succ_of_lt hnumber, hid⟩
  unique := fun hids => h.unique (Nat.le_of_succ_le hids)
  sent := by
    intro id hsent
    obtain ⟨number, hnumber, hid⟩ := h.sent hsent
    exact ⟨number, Nat.lt_succ_of_lt hnumber, hid⟩

/-- A peer is stored under an id that no other peer has. -/
theorem Distinct.insert (h : Distinct server)
    (hgiven : ∃ number < server.allocated, peer.childId = ⟨UInt64.ofNat number⟩)
    (hunique : server.allocated ≤ 2 ^ 64 → ∀ {other stored},
      server.peers.lookup other = some stored → stored.childId = peer.childId → other = src) :
    Distinct (server.setPeers (server.peers.insert src peer)) where
  counter := h.counter
  given := by
    intro other stored hlookup
    by_cases hother : other = src
    · subst hother
      have hstored := (AList.lookup_insert _).symm.trans hlookup
      cases hstored
      exact hgiven
    · exact h.given ((AList.lookup_insert_ne hother).symm.trans hlookup)
  unique := by
    intro hids first second stored stored' hfirst hsecond hid
    by_cases hfirstSrc : first = src
    · subst hfirstSrc
      by_contra hne
      cases (AList.lookup_insert _).symm.trans hfirst
      have hlookup := (AList.lookup_insert_ne (Ne.symm hne)).symm.trans hsecond
      exact hne (hunique hids hlookup hid.symm).symm
    · have hlookup := (AList.lookup_insert_ne hfirstSrc).symm.trans hfirst
      by_cases hsecondSrc : second = src
      · subst hsecondSrc
        cases (AList.lookup_insert _).symm.trans hsecond
        exact hunique hids hlookup hid
      · exact h.unique hids hlookup ((AList.lookup_insert_ne hsecondSrc).symm.trans hsecond) hid
  sent := h.sent

/-- The session of a peer changes. -/
theorem Distinct.setSession (h : Distinct server) {stored : PeerEntry} (peer : PeerEntry)
    (hlookup : server.peers.lookup src = some stored) (hid : peer.childId = stored.childId) :
    Distinct (server.setPeers (server.peers.insert src peer)) := by
  refine h.insert (hid ▸ h.given hlookup) ?_
  intro hids other stored' hother hsame
  exact h.unique hids hother hlookup (hsame.trans hid)

/-- Frames are sent under the id of a peer. -/
theorem Distinct.sendFrames (h : Distinct server) (hlookup : server.peers.lookup src = some peer)
    {frames : List RouterFrame}
    (hframes : ∀ routerFrame ∈ frames, routerFrame.endpointId = peer.childId) :
    Distinct (server.sendFrames frames) where
  counter := h.counter
  given := h.given
  unique := h.unique
  sent := by
    intro id hid
    rw [UdpServer.sendFrames, framesOf_append, framesOf_frames hframes] at hid
    by_cases hpeer : peer.childId = id
    · exact hpeer ▸ h.given hlookup
    · rw [if_neg hpeer, List.append_nil] at hid
      exact h.sent hid

private theorem Distinct.ingest (h : Distinct server)
    (hlookup : server.peers.lookup datagram.src = some peer) :
    Distinct (server.ingest table spec datagram peer) := by
  have hstored : (server.peers.insert datagram.src
      (peer.receive table spec server.framesOpen datagram)).lookup datagram.src = some _ :=
    AList.lookup_insert _
  have hset := h.setSession (peer.receive table spec server.framesOpen datagram) hlookup rfl
  exact hset.sendFrames hstored (endpointId_of_frames server.framesOpen datagram peer)

/-- A datagram keeps the ids of the peers distinct. -/
private theorem Distinct.handles (h : Distinct server)
    (hhandles : Handles table format spec datagram server after) : Distinct after := by
  cases hhandles with
  | known hlookup => exact h.ingest hlookup
  | refused habsent hclosed => exact h.alloc
  | admitted habsent hopen hroom =>
    rename_i roomy
    obtain ⟨hnext, hallocated, -, -, -⟩ := hroom.others
    rw [next_sendEvent] at hnext
    rw [allocated_sendEvent] at hallocated
    have hpeers : ∀ {src peer}, roomy.peers.lookup src = some peer →
        server.peers.lookup src = some peer := by
      intro src peer hlookup
      have hbefore := hroom.lookup_of_some hlookup
      rwa [peers_sendEvent] at hbefore
    have hroomy : Distinct roomy := by
      refine h.alloc.shrink hnext hallocated hpeers ?_
      intro id
      rw [hroom.framesOf_log, framesOf_sendEvent]
    have hlt : server.allocated < roomy.allocated := hallocated.symm ▸ Nat.lt_succ_self _
    have hadmitted : Distinct (roomy.setPeers (roomy.peers.insert datagram.src
        (.new ⟨server.next⟩ datagram.admitted))) := by
      refine hroomy.insert ⟨server.allocated, hlt, ?_⟩ ?_
      · exact congrArg EndpointId.mk h.counter
      · intro hids other stored hother hid
        obtain ⟨number, hnumber, hgiven⟩ := h.given (hpeers hother)
        have hfits : server.allocated < 2 ^ 64 := hlt.trans_le hids
        exact absurd (hid.symm.trans hgiven) (next_ne_given h.counter hfits hnumber)
    rw [← ingest_setPeers_insert datagram (.new ⟨server.next⟩ datagram.admitted)]
    exact hadmitted.ingest (AList.lookup_insert _)

/-- A tick changes the table and the log only. -/
theorem reapIdlePeers_others (spec : UdpServerSpec) (visit : PeerVisit) (now : Instant)
    (server : UdpServer) :
    (server.reapIdlePeers spec visit now).next = server.next ∧
      (server.reapIdlePeers spec visit now).allocated = server.allocated ∧
      (server.reapIdlePeers spec visit now).framesOpen = server.framesOpen := by
  have hreap : ∀ (reaping : UdpServer) (src : SocketAddr),
      (reaping.reap spec src).next = reaping.next ∧
        (reaping.reap spec src).allocated = reaping.allocated ∧
        (reaping.reap spec src).framesOpen = reaping.framesOpen := by
    intro reaping src
    unfold reap
    split
    · exact ⟨rfl, rfl, rfl⟩
    · exact ⟨next_sendEvent _ _, allocated_sendEvent _ _, framesOpen_sendEvent _ _⟩
  unfold reapIdlePeers
  generalize expired spec visit now server.peers = addresses
  induction addresses generalizing server with
  | nil => exact ⟨rfl, rfl, rfl⟩
  | cons src addresses ih =>
    obtain ⟨hnext, hallocated, hframesOpen⟩ := hreap server src
    rw [List.foldl_cons, ← hnext, ← hallocated, ← hframesOpen]
    exact ih (server.reap spec src)

private theorem framesOf_shutdownAllPeers (id : EndpointId) (visit : PeerVisit)
    (server : UdpServer) :
    framesOf id (server.shutdownAllPeers spec visit).log = framesOf id server.log := by
  rw [shutdownAllPeers_eq, framesOf_append]
  have hnone : ∀ items : List (Σ _ : SocketAddr, PeerEntry), framesOf id (items.map fun entry =>
      .event (.peerRemoved spec.parentId entry.2.childId .listenerShutdown)) = [] := by
    intro items
    simp [framesOf, List.filterMap_map, Sent.frame?]
  split
  · rw [hnone, List.append_nil]
  · exact List.append_nil _

/-- Every step keeps the ids of the peers distinct. -/
private theorem Distinct.step (h : Distinct server)
    (hstep : server.step table format spec action = some after) : Distinct after := by
  cases step_moves hstep with
  | packet visit datagram hrunning hhandles => exact h.handles hhandles
  | tick visit now hrunning =>
    obtain ⟨hnext, hallocated, -⟩ := reapIdlePeers_others spec visit now server
    exact h.shrink hnext hallocated lookup_reapIdlePeers_of_some
      fun id => framesOf_reapIdlePeers id visit now server
  | shutdown visit hrunning =>
    refine h.shrink ?_ ?_ ?_ fun id => framesOf_shutdownAllPeers id visit server
    · rw [shutdownAllPeers_eq]
    · rw [shutdownAllPeers_eq]
    · intro src peer hlookup
      rw [shutdownAllPeers_eq, AList.lookup_empty] at hlookup
      cases hlookup
  | access src access hlookup => exact h.setSession _ hlookup rfl
  | write src writerStep hlookup hwriter => exact h.setSession _ hlookup rfl
  | allocate => exact h.alloc
  | closeEvents => exact h.shrink rfl rfl id fun _ => rfl
  | closeFrames => exact h.shrink rfl rfl id fun _ => rfl

/-- The router or a writer changes the session of some peer. -/
theorem lookup_setSession {src other : SocketAddr} {peer stored : PeerEntry} {session : Session}
    (hlookup : server.peers.lookup src = some peer)
    (hother : server.peers.lookup other = some stored)
    (hingress : session.ingress = stored.session.ingress)
    (hcounters : session.port.stats.ingress = stored.session.port.stats.ingress) :
    ∃ peer', (server.peers.insert other { stored with session := session }).lookup src =
        some peer' ∧ peer'.childId = peer.childId ∧
      peer'.session.ingress = peer.session.ingress ∧
      peer'.session.port.stats.ingress = peer.session.port.stats.ingress := by
  by_cases hsrc : src = other
  · subst hsrc
    cases hother.symm.trans hlookup
    exact ⟨_, AList.lookup_insert _, rfl, hingress, hcounters⟩
  · exact ⟨peer, (AList.lookup_insert_ne hsrc).trans hlookup, rfl, rfl, rfl⟩

/-- A datagram of another address sends no frames under the id of a peer. -/
theorem Handles.framesOf_other (h : Handles table format spec datagram server after)
    (hdistinct : Distinct server) (hids : after.allocated ≤ 2 ^ 64)
    (hlookup : server.peers.lookup src = some peer) (hsrc : datagram.src ≠ src) :
    framesOf peer.childId after.log = framesOf peer.childId server.log := by
  cases h with
  | known hknown =>
    rw [framesOf_ingest, if_neg, List.append_nil]
    exact fun hid => hsrc (hdistinct.unique hids hknown hlookup hid)
  | refused habsent hclosed => rfl
  | admitted habsent hopen hroom =>
    obtain ⟨-, hallocated, -, -, -⟩ := hroom.others
    rw [allocated_sendEvent] at hallocated
    have hfits : server.allocated < 2 ^ 64 := hallocated.symm.trans_le hids
    obtain ⟨number, hnumber, hgiven⟩ := hdistinct.given hlookup
    rw [framesOf_ingest, if_neg, List.append_nil, hroom.framesOf_log, framesOf_sendEvent]
    · rfl
    · exact fun hid => next_ne_given hdistinct.counter hfits hnumber (hid.trans hgiven)

/-- Nor does it change the entry of a peer that stays. -/
theorem Handles.lookup_other {peer peer' : PeerEntry}
    (h : Handles table format spec datagram server after)
    (hlookup : server.peers.lookup src = some peer) (hsrc : datagram.src ≠ src)
    (hafter : after.peers.lookup src = some peer') : peer' = peer := by
  cases h with
  | known hknown =>
    have hsame := (AList.lookup_insert_ne (Ne.symm hsrc)).symm.trans hafter
    exact Option.some.inj (hsame.symm.trans hlookup)
  | refused habsent hclosed => exact Option.some.inj (hafter.symm.trans hlookup)
  | admitted habsent hopen hroom =>
    have hroomy := (AList.lookup_insert_ne (Ne.symm hsrc)).symm.trans hafter
    have hbefore := hroom.lookup_of_some hroomy
    rw [peers_sendEvent] at hbefore
    exact Option.some.inj (hbefore.symm.trans hlookup)

/-- What a step does to a peer that stays in the table: it handles a datagram of the peer, or
leaves its reader, its counters and its frames alone. -/
theorem Moves.peer_cases (h : Moves table format spec server action after)
    (hdistinct : Distinct server) (hids : after.allocated ≤ 2 ^ 64)
    (hlookup : server.peers.lookup src = some peer)
    (hstays : (after.peers.lookup src).isSome = true) :
    (∃ visit datagram, action = .packet visit datagram ∧ datagram.src = src ∧
      after = server.ingest table spec datagram peer) ∨
    (deliveries src server.framesOpen [action] = [] ∧
      framesOf peer.childId after.log = framesOf peer.childId server.log ∧
      ∃ peer', after.peers.lookup src = some peer' ∧ peer'.childId = peer.childId ∧
        peer'.session.ingress = peer.session.ingress ∧
        peer'.session.port.stats.ingress = peer.session.port.stats.ingress) := by
  cases h with
  | packet visit datagram hrunning hhandles =>
    by_cases hsrc : datagram.src = src
    · refine .inl ⟨visit, datagram, rfl, hsrc, ?_⟩
      subst hsrc
      cases hhandles with
      | known hknown =>
        cases hknown.symm.trans hlookup
        rfl
      | refused habsent hclosed => exact absurd (habsent.symm.trans hlookup) (by simp)
      | admitted habsent hopen hroom => exact absurd (habsent.symm.trans hlookup) (by simp)
    · refine .inr ⟨?_, ?_, ?_⟩
      · rw [deliveries, if_neg hsrc]
        rfl
      · exact hhandles.framesOf_other hdistinct hids hlookup hsrc
      · obtain ⟨peer', hpeer'⟩ := Option.isSome_iff_exists.mp hstays
        obtain rfl := hhandles.lookup_other hlookup hsrc hpeer'
        exact ⟨peer', hpeer', rfl, rfl, rfl⟩
  | tick visit now hrunning =>
    obtain ⟨peer', hpeer'⟩ := Option.isSome_iff_exists.mp hstays
    cases (lookup_reapIdlePeers_of_some hpeer').symm.trans hlookup
    exact .inr ⟨rfl, framesOf_reapIdlePeers _ visit now server, peer, hpeer', rfl, rfl, rfl⟩
  | shutdown visit hrunning =>
    rw [shutdownAllPeers_eq, AList.lookup_empty] at hstays
    cases hstays
  | access other access hother =>
    exact .inr ⟨rfl, rfl, lookup_setSession hlookup hother rfl (Port.ingress_access _ access)⟩
  | write other writerStep hother hwriter =>
    exact .inr ⟨rfl, rfl, lookup_setSession hlookup hother rfl (Writer.ingress_step hwriter)⟩
  | allocate => exact .inr ⟨rfl, rfl, peer, hlookup, rfl, rfl, rfl⟩
  | closeEvents => exact .inr ⟨rfl, rfl, peer, hlookup, rfl, rfl, rfl⟩
  | closeFrames => exact .inr ⟨rfl, rfl, peer, hlookup, rfl, rfl, rfl⟩

private theorem Handles.framesOpen_eq (h : Handles table format spec datagram server after) :
    after.framesOpen = server.framesOpen := by
  cases h with
  | known hlookup => rfl
  | refused habsent hclosed => rfl
  | admitted habsent hopen hroom =>
    obtain ⟨-, -, -, hframesOpen, -⟩ := hroom.others
    exact hframesOpen.trans (framesOpen_sendEvent _ _)

/-- The datagrams of the first step, and of the others. -/
private theorem deliveries_cons (src : SocketAddr)
    (h : server.step table format spec action = some after) (actions : List Action) :
    deliveries src server.framesOpen (action :: actions) =
      deliveries src server.framesOpen [action] ++ deliveries src after.framesOpen actions := by
  cases step_moves h with
  | packet visit datagram hrunning hhandles =>
    rw [hhandles.framesOpen_eq, deliveries, deliveries]
    split <;> rfl
  | tick visit now hrunning =>
    rw [(reapIdlePeers_others spec visit now server).2.2]
    rfl
  | shutdown visit hrunning =>
    rw [shutdownAllPeers_eq]
    rfl
  | access other access hlookup => rfl
  | write other writerStep hlookup hwriter => rfl
  | allocate => rfl
  | closeEvents => rfl
  | closeFrames => rfl

private theorem deliveries_snoc {before : UdpServer} {actions : List Action} (src : SocketAddr)
    (hrun : execute (step table format spec) before actions = some server) (action : Action) :
    deliveries src before.framesOpen (actions ++ [action]) =
      deliveries src before.framesOpen actions ++ deliveries src server.framesOpen [action] := by
  induction actions generalizing before with
  | nil =>
    cases hrun
    rfl
  | cons first actions ih =>
    obtain ⟨next, hfirst, hrest⟩ := Library.execute_cons.mp hrun
    rw [List.cons_append, deliveries_cons src hfirst (actions ++ [action]),
      deliveries_cons src hfirst actions, ih hrest, List.append_assoc]

/-- The peer of an address is where a reader alone would be after the same datagrams. -/
structure RunsAlone (table : MsgTable) (spec : UdpServerSpec) (src : SocketAddr)
    (deliveries : List Delivery) (server : UdpServer) (peer : PeerEntry) : Prop where
  stored : server.peers.lookup src = some peer
  ingress : peer.session.ingress =
    (Session.alone table spec.identity.filters peer.childId deliveries).ingress
  counters : peer.session.port.stats.ingress =
    (Session.alone table spec.identity.filters peer.childId deliveries).port.stats.ingress
  frames : framesOf peer.childId server.log =
    (Session.alone table spec.identity.filters peer.childId deliveries).sent

private theorem alone_snoc (table : MsgTable) (filters : Filters) (id : EndpointId)
    (deliveries : List Delivery) (delivery : Delivery) :
    Session.alone table filters id (deliveries ++ [delivery]) =
      (Session.alone table filters id deliveries).handleRead table filters id delivery.now
        delivery.framesOpen delivery.data := by
  rw [Session.alone, List.foldl_append]
  rfl

/-- The next datagram of the peer. -/
theorem RunsAlone.ingest {deliveries : List Delivery}
    (h : RunsAlone table spec datagram.src deliveries server peer) :
    RunsAlone table spec datagram.src
      (deliveries ++ [⟨datagram.data, datagram.now, server.framesOpen⟩])
      (server.ingest table spec datagram peer)
      (peer.receive table spec server.framesOpen datagram) := by
  have halike : (peer.session.ingress.read table spec.identity.filters peer.childId datagram.now
      server.framesOpen datagram.data peer.session.port.stats).Alike
      ((Session.alone table spec.identity.filters peer.childId deliveries).ingress.read table
        spec.identity.filters peer.childId datagram.now server.framesOpen datagram.data
        (Session.alone table spec.identity.filters peer.childId deliveries).port.stats) := by
    rw [← h.ingress]
    exact Ingress.read_alike server.framesOpen datagram.data peer.session.ingress h.counters
  have hid : (peer.receive table spec server.framesOpen datagram).childId = peer.childId := rfl
  constructor
  case stored => exact AList.lookup_insert _
  case ingress =>
    rw [hid, alone_snoc]
    exact halike.ingress
  case counters =>
    rw [hid, alone_snoc]
    exact halike.counters
  case frames =>
    have hframes : peer.frames table spec server.framesOpen datagram = _ := halike.sent
    rw [hid, alone_snoc, framesOf_ingest, if_pos rfl, h.frames, hframes]
    rfl

/-- One step of a stretch in which the peer stays. -/
theorem RunsAlone.step {before : UdpServer} {deliveries : List Delivery}
    (h : RunsAlone table spec src deliveries before peer) (hdistinct : Distinct before)
    (hstep : before.step table format spec action = some after) (hids : after.allocated ≤ 2 ^ 64)
    (hstays : (after.peers.lookup src).isSome = true) :
    ∃ peer', RunsAlone table spec src
      (deliveries ++ UdpServer.deliveries src before.framesOpen [action]) after peer' := by
  rcases (step_moves hstep).peer_cases hdistinct hids h.stored hstays with
    ⟨visit, datagram, rfl, rfl, rfl⟩ | ⟨hnone, hframes, peer', hpeer', hid, hingress, hcounters⟩
  · rw [UdpServer.deliveries, if_pos rfl]
    exact ⟨_, h.ingest⟩
  · rw [hnone, List.append_nil]
    refine ⟨peer', hpeer', ?_, ?_, ?_⟩
    · rw [hid, hingress, h.ingress]
    · rw [hid, hcounters, h.counters]
    · rw [hid, hframes, h.frames]

/-- The first datagram of a peer. -/
theorem RunsAlone.admitted {before : UdpServer} (hdistinct : Distinct before)
    (hhandles : Handles table format spec datagram before after)
    (habsent : before.peers.lookup datagram.src = none) (hids : after.allocated ≤ 2 ^ 64)
    (hstays : (after.peers.lookup datagram.src).isSome = true) :
    ∃ peer, RunsAlone table spec datagram.src
      [⟨datagram.data, datagram.now, before.framesOpen⟩] after peer := by
  cases hhandles with
  | known hknown => exact absurd (habsent.symm.trans hknown) (by simp)
  | refused hmissing hclosed =>
    have hnone : before.alloc.peers.lookup datagram.src = none := habsent
    rw [hnone] at hstays
    cases hstays
  | admitted hmissing hopen hroom =>
    rename_i roomy
    obtain ⟨-, hallocated, -, hframesOpen, -⟩ := hroom.others
    rw [allocated_sendEvent] at hallocated
    have hfits : before.allocated < 2 ^ 64 := hallocated.symm.trans_le hids
    have hunused : framesOf ⟨before.next⟩ before.log = [] := by
      by_contra hused
      obtain ⟨number, hnumber, hid⟩ := hdistinct.sent hused
      exact next_ne_given hdistinct.counter hfits hnumber hid
    have hfresh : RunsAlone table spec datagram.src []
        (roomy.setPeers (roomy.peers.insert datagram.src (.new ⟨before.next⟩ datagram.admitted)))
        (.new ⟨before.next⟩ datagram.admitted) := by
      refine ⟨AList.lookup_insert _, rfl, rfl, ?_⟩
      refine (hroom.framesOf_log ⟨before.next⟩).trans ?_
      rw [framesOf_sendEvent]
      exact hunused
    have hingest := hfresh.ingest
    rw [ingest_setPeers_insert] at hingest
    have hopenSame : roomy.framesOpen = before.framesOpen :=
      hframesOpen.trans (framesOpen_sendEvent _ _)
    rw [← hopenSame]
    exact ⟨_, hingest⟩

private theorem allocated_le_of_step (h : server.step table format spec action = some after) :
    server.allocated ≤ after.allocated := by
  cases step_moves h with
  | packet visit datagram hrunning hhandles =>
    cases hhandles with
    | known hlookup => exact le_rfl
    | refused habsent hclosed => exact Nat.le_succ _
    | admitted habsent hopen hroom =>
      obtain ⟨-, hallocated, -, -, -⟩ := hroom.others
      rw [allocated_sendEvent] at hallocated
      exact (Nat.le_succ _).trans hallocated.symm.le
  | tick visit now hrunning => exact (reapIdlePeers_others spec visit now server).2.1.symm.le
  | shutdown visit hrunning => rw [shutdownAllPeers_eq]
  | access src access hlookup => exact le_rfl
  | write src writerStep hlookup hwriter => exact le_rfl
  | allocate => exact Nat.le_succ _
  | closeEvents => exact le_rfl
  | closeFrames => exact le_rfl

/-- A peer among others runs as if it were alone: from its admission on and as long as it stays
in the table, its reader, its counters and the frames under its id are those of a fresh reader
that gets the peer's datagrams and no others. -/
theorem peers_do_not_interfere {allocated : ℕ} {earlier rest : List Action} {visit : PeerVisit}
    {first : Datagram} {before : UdpServer}
    (hbefore : execute (step table format spec) (start allocated) earlier = some before)
    (habsent : before.peers.lookup first.src = none)
    (hrun : execute (step table format spec) before (.packet visit first :: rest) = some server)
    (hstays : ∀ done, done <+: rest → ∀ reached,
      execute (step table format spec) before (.packet visit first :: done) = some reached →
        (reached.peers.lookup first.src).isSome = true)
    (hids : server.allocated ≤ 2 ^ 64) :
    ∃ peer, RunsAlone table spec first.src
      (deliveries first.src before.framesOpen (.packet visit first :: rest)) server peer := by
  have hdistinct : Distinct before :=
    execute_invariant (distinct_start allocated) (fun h hstep => h.step hstep) hbefore
  induction rest using List.reverseRecOn generalizing server with
  | nil =>
    have hstay := hstays [] (List.prefix_refl _) server hrun
    obtain ⟨next, hstep, hnext⟩ := Library.execute_cons.mp hrun
    cases hnext
    rw [deliveries, if_pos rfl]
    cases step_moves hstep with
    | packet visit first hrunning hhandles =>
      exact RunsAlone.admitted hdistinct hhandles habsent hids hstay
  | append_singleton rest action ih =>
    have hstay := hstays _ (List.prefix_refl _) server hrun
    rw [← List.cons_append] at hrun
    obtain ⟨reached, hreached, hstep⟩ := execute_snoc.mp hrun
    have hreachedIds := (allocated_le_of_step hstep).trans hids
    obtain ⟨peer, hpeer⟩ := ih hreached
      (fun done hdone => hstays done (hdone.trans (List.prefix_append rest [action]))) hreachedIds
    have hreachedDistinct : Distinct reached :=
      execute_invariant hdistinct (fun h hstep => h.step hstep) hreached
    rw [← List.cons_append, deliveries_snoc first.src hreached]
    exact hpeer.step hreachedDistinct hstep hids hstay

/-- A frame that comes in two datagrams, with a frame of another address in between. -/
theorem peers_do_not_interfere_split :
    let spec : UdpServerSpec := ⟨⟨0⟩, "listener", 60, 2, {}⟩
    let format : AddrFormat := ⟨fun _ => "", fun _ => ""⟩
    let actions : List Action :=
      [.packet .inOrder ⟨.v4 1 1, [0xFE, 0, 7], 0, 0, 0⟩,
        .packet .inOrder ⟨.v4 2 2, [0xFE, 0, 8, 2, 2, 0, 0, 0], 1, 1, 1⟩,
        .packet .inOrder ⟨.v4 1 1, [1, 1, 0, 0, 0], 2, 2, 2⟩]
    ∃ server peer, execute (step ⟨[], .nil⟩ format spec) (start 1) actions = some server ∧
      RunsAlone ⟨[], .nil⟩ spec (.v4 1 1) [⟨[0xFE, 0, 7], 0, true⟩, ⟨[1, 1, 0, 0, 0], 2, true⟩]
        server peer := by
  intro spec format actions
  have hallocated : (execute (step ⟨[], .nil⟩ format spec) (start 1) actions).map
      UdpServer.allocated = some 3 := by decide +kernel
  have hprefixes : ∀ done ∈ actions.tail.inits,
      (execute (step ⟨[], .nil⟩ format spec) (start 1)
          (actions.head (by simp [actions]) :: done)).map
        (fun reached => (reached.peers.lookup (.v4 1 1)).isSome) = some true := by
    decide +kernel
  obtain ⟨server, hrun, hids⟩ := Option.map_eq_some_iff.mp hallocated
  have hstays : ∀ done, done <+: actions.tail → ∀ reached,
      execute (step ⟨[], .nil⟩ format spec) (start 1) (actions.head (by simp [actions]) :: done) =
        some reached → (reached.peers.lookup (.v4 1 1)).isSome = true := by
    intro done hdone reached hreached
    have hreachedMap := hprefixes done ((List.mem_inits _ _).mpr hdone)
    rw [hreached] at hreachedMap
    exact Option.some.inj hreachedMap
  have hstart : execute (step ⟨[], .nil⟩ format spec) (start 1) [] = some (start 1) := rfl
  obtain ⟨peer, hpeer⟩ := peers_do_not_interfere hstart rfl hrun hstays (hids ▸ by norm_num)
  exact ⟨server, peer, hrun, hpeer⟩

/-- The listener after other tasks have allocated a number of ids. -/
def afterAllocations (server : UdpServer) (count : ℕ) : UdpServer :=
  { server with
    next := server.next + UInt64.ofNat count
    allocated := server.allocated + count }

private theorem execute_allocations (table : MsgTable) (format : AddrFormat) (spec : UdpServerSpec)
    (server : UdpServer) (count : ℕ) :
    execute (step table format spec) server (List.replicate count .allocate) =
      some (server.afterAllocations count) := by
  induction count with
  | zero => simp [execute, afterAllocations]
  | succ count ih =>
    rw [List.replicate_succ']
    refine execute_snoc.mpr ⟨_, ih, ?_⟩
    simp [step, alloc, afterAllocations, UInt64.ofNat_add, UInt64.add_assoc, Nat.add_assoc]

/-- The counter wraps while the peer stays: another address gets the id of the peer, and its
frame is sent under that id, although the peer alone has sent none. -/
theorem frame_under_reused_id :
    let spec : UdpServerSpec := ⟨⟨0⟩, "listener", 60, 2, {}⟩
    let format : AddrFormat := ⟨fun _ => "", fun _ => ""⟩
    let actions : List Action :=
      .packet .inOrder ⟨.v4 1 1, [], 0, 0, 0⟩ :: List.replicate (2 ^ 64 - 1) .allocate ++
        [.packet .inOrder ⟨.v4 2 2, [0xFE, 0, 8, 2, 2, 0, 0, 0], 1, 1, 1⟩]
    ∃ server peer, execute (step ⟨[], .nil⟩ format spec) (start 1) actions = some server ∧
      removedIds server.log = [] ∧ server.peers.lookup (.v4 1 1) = some peer ∧
      (Session.alone ⟨[], .nil⟩ spec.identity.filters peer.childId [⟨[], 0, true⟩]).sent = [] ∧
      framesOf peer.childId server.log ≠ [] := by
  intro spec format actions
  let first := handlePacket ⟨[], .nil⟩ format spec .inOrder ⟨.v4 1 1, [], 0, 0, 0⟩ (start 1)
  let last := handlePacket ⟨[], .nil⟩ format spec .inOrder
    ⟨.v4 2 2, [0xFE, 0, 8, 2, 2, 0, 0, 0], 1, 1, 1⟩ (first.afterAllocations (2 ^ 64 - 1))
  have hrun : execute (step ⟨[], .nil⟩ format spec) (start 1) actions = some last := by
    have hfirst : step ⟨[], .nil⟩ format spec (start 1)
        (.packet .inOrder ⟨.v4 1 1, [], 0, 0, 0⟩) = some first := rfl
    have hallocations := execute_allocations ⟨[], .nil⟩ format spec first (2 ^ 64 - 1)
    refine execute_snoc.mpr ⟨_, Library.execute_cons.mpr ⟨first, hfirst, hallocations⟩, ?_⟩
    have hrunning : (first.afterAllocations (2 ^ 64 - 1)).stopped = false := by decide +kernel
    exact step_packet hrunning .inOrder _
  have hpeer : (last.peers.lookup (.v4 1 1)).map PeerEntry.childId = some ⟨1⟩ := by
    decide +kernel
  have hframes : (framesOf ⟨1⟩ last.log).length = 1 := by decide +kernel
  obtain ⟨peer, hlookup, hid⟩ := Option.map_eq_some_iff.mp hpeer
  refine ⟨last, peer, hrun, by decide +kernel, hlookup, ?_, ?_⟩
  · rw [hid]
    decide +kernel
  · rw [hid]
    exact List.ne_nil_of_length_pos (hframes ▸ Nat.zero_lt_one)

/-- Every peer has run a session of its own. -/
def RunsSessions (table : MsgTable) (spec : UdpServerSpec) (server : UdpServer) : Prop :=
  ∀ src peer, server.peers.lookup src = some peer →
    ∃ actions, execute (Session.step table spec.identity.filters peer.childId)
      (.start freshPort) actions = some peer.session

/-- A session goes on. -/
theorem RunsSessions.insert (h : RunsSessions table spec server)
    (hpeer : ∃ actions, execute (Session.step table spec.identity.filters peer.childId)
      (.start freshPort) actions = some peer.session) :
    RunsSessions table spec (server.setPeers (server.peers.insert src peer)) := by
  intro other stored hlookup
  by_cases hother : other = src
  · subst hother
    cases (AList.lookup_insert _).symm.trans hlookup
    exact hpeer
  · exact h other stored ((AList.lookup_insert_ne hother).symm.trans hlookup)

private theorem RunsSessions.mono (h : RunsSessions table spec server)
    (hpeers : ∀ {src peer}, after.peers.lookup src = some peer →
      server.peers.lookup src = some peer) : RunsSessions table spec after :=
  fun src peer hlookup => h src peer (hpeers hlookup)

/-- A datagram is one read of its peer's session. -/
theorem RunsSessions.ingest (h : RunsSessions table spec server) (hopen : server.framesOpen = true)
    (hlookup : server.peers.lookup datagram.src = some peer) :
    RunsSessions table spec (server.ingest table spec datagram peer) := by
  obtain ⟨done, hdone⟩ := h _ _ hlookup
  have hread : peer.session.step table spec.identity.filters peer.childId
      (.read datagram.data datagram.now) =
      some (peer.receive table spec server.framesOpen datagram).session := by
    rw [Session.step, PeerEntry.receive, hopen]
  have hnext : execute (Session.step table spec.identity.filters peer.childId) (.start freshPort)
      (done ++ [.read datagram.data datagram.now]) =
      some (peer.receive table spec server.framesOpen datagram).session :=
    execute_snoc.mpr ⟨peer.session, hdone, hread⟩
  have hset : RunsSessions table spec (server.setPeers (server.peers.insert datagram.src
      (peer.receive table spec server.framesOpen datagram))) := h.insert ⟨_, hnext⟩
  exact hset

/-- While frames can be sent, every peer of a listener runs a session. -/
theorem runsSessions {allocated : ℕ} {actions : List Action}
    (hrun : execute (step table format spec) (start allocated) actions = some server)
    (hopen : server.framesOpen = true) : RunsSessions table spec server := by
  refine execute_invariant (motive := fun reached => reached.framesOpen = true →
    RunsSessions table spec reached) ?_ ?_ hrun hopen
  · intro _ src peer hlookup
    cases hlookup
  · intro before action after ih hstep hafter
    cases step_moves hstep with
    | packet visit datagram hrunning hhandles =>
      have hbefore : before.framesOpen = true := hhandles.framesOpen_eq.symm.trans hafter
      cases hhandles with
      | known hlookup => exact (ih hbefore).ingest hbefore hlookup
      | refused habsent hclosed => exact ih hbefore
      | admitted habsent hopen hroom =>
        rename_i roomy
        have hroomy : RunsSessions table spec roomy := by
          refine (ih hbefore).mono ?_
          intro src peer hlookup
          have hsent := hroom.lookup_of_some hlookup
          rwa [peers_sendEvent] at hsent
        have hadmitted : RunsSessions table spec (roomy.setPeers (roomy.peers.insert datagram.src
            (.new ⟨before.next⟩ datagram.admitted))) := hroomy.insert ⟨[], rfl⟩
        rw [← ingest_setPeers_insert datagram (.new ⟨before.next⟩ datagram.admitted)]
        exact hadmitted.ingest hafter (AList.lookup_insert _)
    | tick visit now hrunning =>
      rw [(reapIdlePeers_others spec visit now before).2.2] at hafter
      exact (ih hafter).mono lookup_reapIdlePeers_of_some
    | shutdown visit hrunning =>
      intro src peer hlookup
      rw [shutdownAllPeers_eq, AList.lookup_empty] at hlookup
      cases hlookup
    | access src access hlookup =>
      obtain ⟨done, hdone⟩ := ih hafter _ _ hlookup
      exact (ih hafter).insert ⟨done ++ [.access access], execute_snoc.mpr ⟨_, hdone, rfl⟩⟩
    | write src writerStep hlookup hwriter =>
      obtain ⟨done, hdone⟩ := ih hafter _ _ hlookup
      refine (ih hafter).insert ⟨done ++ [.write writerStep], execute_snoc.mpr ⟨_, hdone, ?_⟩⟩
      exact Option.map_eq_some_iff.mpr ⟨_, hwriter, rfl⟩
    | allocate => exact ih hafter
    | closeEvents => exact ih hafter
    | closeFrames => cases hafter

end UdpServer

/-- Ingress accounting, for every session on any endpoint and for every peer of a listener whose
channel to the router is open, as long as the received bytes can be counted. -/
theorem ingress_accounting (table : MsgTable) :
    (∀ (filters : Filters) (id : EndpointId) (port : Port) (actions : List Session.Action)
      (session : Session),
      execute (Session.step table filters id) (Session.start port) actions = some session →
      session.received.flatten.length < 2 ^ 64 →
        session.Balanced table filters id port.stats.ingress) ∧
    ∀ (format : AddrFormat) (spec : UdpServerSpec) (allocated : ℕ)
      (actions : List UdpServer.Action) (server : UdpServer) (src : SocketAddr)
      (peer : PeerEntry),
      execute (UdpServer.step table format spec) (UdpServer.start allocated) actions =
        some server →
      server.framesOpen = true → server.peers.lookup src = some peer →
      peer.session.received.flatten.length < 2 ^ 64 →
        peer.session.Balanced table spec.identity.filters peer.childId
          freshPort.stats.ingress := by
  constructor
  · intro filters id port actions session hrun hbytes
    exact (Session.follows hrun).balanced hbytes
  · intro format spec allocated actions server src peer hrun hopen hlookup hbytes
    obtain ⟨sessionActions, hsession⟩ := UdpServer.runsSessions hrun hopen src peer hlookup
    exact (Session.follows hsession).balanced hbytes

/-- A peer sends a stray byte, a frame and the beginning of another one. -/
theorem ingress_accounting_peer :
    let spec : UdpServerSpec := ⟨⟨0⟩, "listener", 60, 1, {}⟩
    let format : AddrFormat := ⟨fun _ => "", fun _ => ""⟩
    let run := execute (UdpServer.step ⟨[], .nil⟩ format spec) (UdpServer.start 1)
      [.packet .inOrder ⟨.v4 1 1, [0, 0xFE, 0, 7, 1, 1, 0, 0, 0, 0xFE], 0, 0, 0⟩]
    ∃ server peer, run = some server ∧ server.peers.lookup (.v4 1 1) = some peer ∧
      peer.session.received = [[0, 0xFE, 0, 7, 1, 1, 0, 0, 0, 0xFE]] ∧
      peer.session.Balanced ⟨[], .nil⟩ {} ⟨1⟩ freshPort.stats.ingress := by
  intro spec format run
  have hpeer : (run.bind fun server => server.peers.lookup (.v4 1 1)).map
      (fun peer => (peer.childId, peer.session.received)) =
      some (⟨1⟩, [[0, 0xFE, 0, 7, 1, 1, 0, 0, 0, 0xFE]]) := by decide +kernel
  have hopen : run.map UdpServer.framesOpen = some true := by decide +kernel
  obtain ⟨peer, hbind, hfields⟩ := Option.map_eq_some_iff.mp hpeer
  obtain ⟨server, hrun, hlookup⟩ := Option.bind_eq_some_iff.mp hbind
  rw [hrun] at hopen
  obtain ⟨hid, hreceived⟩ := Prod.mk.inj hfields
  have hbytes : peer.session.received.flatten.length < 2 ^ 64 := by
    rw [hreceived]
    norm_num
  have hbalanced := (ingress_accounting ⟨[], .nil⟩).2 format spec 1 _ server _ peer hrun
    (Option.some.inj hopen) hlookup hbytes
  rw [hid] at hbalanced
  exact ⟨server, peer, hrun, hlookup, hreceived, hbalanced⟩

end MavlinkRouter
