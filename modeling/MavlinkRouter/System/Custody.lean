import MavlinkRouter.Library.Custody
import MavlinkRouter.System.Weights
import MavlinkRouter.Udp.Peers

/-!
# Which task answers for an endpoint id

A listener takes an id from the allocator, announces it to the router and from then on some
task has to announce that the peer is gone: the `udps:` task for the peers in its table, the
task of its own for a client of `tcps:`. The tasks of the configured endpoints keep their ids
for good. Every turn of a task is described by what it does to these books.
-/

namespace MavlinkRouter

open Library (LeaseEntry Custody)

/-- What an event says about an id. -/
def EndpointEvent.lease (event : EndpointEvent) : LeaseEntry EndpointId :=
  Sent.lease (.event event)

/-- A registration opens a lease. -/
theorem EndpointEvent.lease_of_registration {event : EndpointEvent} {id : EndpointId}
    {name : String} {payload : Option Routable}
    (h : event.registration? = some (id, name, payload)) : event.lease = .opened id := by
  cases event <;> cases h <;> rfl

namespace TcpServerTask

/-- The ids taken from the allocator and not yet announced. -/
def reserved : TcpServerTask → List EndpointId
  | .announcing childId _ => [childId]
  | _ => []

end TcpServerTask

/-- A client's task announces the end of its session before it returns. -/
def TcpsChild.children (id : EndpointId) : TcpsChild → List EndpointId
  | .session _ => [id]
  | .finishing _ _ => [id]
  | .leaving _ => [id]
  | .returned => []

namespace UdpServerPhase

/-- The ids taken from the allocator and not yet announced. -/
def reserved : UdpServerPhase → List EndpointId
  | .admitting childId _ => [childId]
  | _ => []

/-- The peers that are neither in the table nor gone. -/
def children : UdpServerPhase → List EndpointId
  | .removing childId _ => [childId]
  | .evicting victim childId _ => [victim, childId]
  | .handling peer => [peer.childId]
  | _ => []

/-- The address being dealt with, which has no entry in the table. -/
def sources : UdpServerPhase → List SocketAddr
  | .admitting _ datagram => [datagram.src]
  | .evicting _ _ datagram => [datagram.src]
  | .handling peer => [peer.src]
  | _ => []

/-- Whether the task is in its loop over datagrams or leaving it. -/
def bound : UdpServerPhase → Bool
  | .checking => false
  | .binding => false
  | .backingOff => false
  | .joining => false
  | .returned => false
  | _ => true

end UdpServerPhase

namespace UdpServerTask

/-- The peers that were announced and not withdrawn. -/
def children (task : UdpServerTask) : List EndpointId :=
  task.peers.map Peer.childId ++ task.phase.children

/-- No address has two peers, and there are peers only while the socket is bound. -/
structure Sound (task : UdpServerTask) : Prop where
  nodup : (task.peers.map Peer.src ++ task.phase.sources).Nodup
  empty : task.phase.bound = false → task.peers = []

end UdpServerTask

namespace Control

def reserved : Control → List EndpointId
  | .tcps _ task => task.reserved
  | .udps _ task => task.phase.reserved
  | _ => []

/-- The ids under which a task forwards frames: its own, or those of its peers. -/
def leaves (id : EndpointId) : Control → List EndpointId
  | .stream _ _ _ => [id]
  | .tcps _ _ => []
  | .tcpsChild _ _ task => task.children id
  | .udpc _ _ => [id]
  | .udps _ task => task.children
  | .peerWriter _ _ => []

/-- The id of a listener, which forwards nothing itself. -/
def listener (id : EndpointId) : Control → List EndpointId
  | .tcps _ _ => [id]
  | .udps _ _ => [id]
  | _ => []

/-- The ids a task answers for. -/
def held (id : EndpointId) (control : Control) : List EndpointId :=
  control.listener id ++ control.leaves id

def Sound : Control → Prop
  | .udps _ task => task.Sound
  | _ => True

end Control

def reservedBy (tasks : List Task) : List EndpointId :=
  tasks.flatMap fun task => task.control.reserved

def heldBy (tasks : List Task) : List EndpointId :=
  tasks.flatMap fun task => task.control.held task.id

/-- The ids of a kind of task. -/
structure Roster (κ : Type) where
  reserved : κ → List EndpointId
  held : κ → List EndpointId

namespace Wiring

variable {wiring wiring' : Wiring} {event : EndpointEvent}

/-- An event that was sent is the last one in the channel. -/
theorem sendEvent_true (h : wiring.sendEvent event = some (true, wiring')) :
    wiring.events.trySend event = .ok wiring'.events ∧ wiring'.frames = wiring.frames := by
  unfold sendEvent at h
  split at h
  · rename_i hsend
    cases h
    exact ⟨hsend, rfl⟩
  · cases h
  · cases h

/-- An event that was not sent found the channel closed. -/
theorem sendEvent_false (h : wiring.sendEvent event = some (false, wiring')) :
    wiring.events.receiverOpen = false ∧ wiring' = wiring := by
  unfold sendEvent at h
  split at h
  · cases h
  · cases h
  · rename_i hsend
    cases h
    refine ⟨Bool.eq_false_of_not_eq_true fun hopen => ?_, rfl⟩
    exact Library.Channel.trySend_ne_closed hopen event hsend

end Wiring

namespace Turn

variable {κ : Type} {roster : Roster κ} {next : EndpointId} {before after : κ}
  {wiring wiring' : Wiring} {turn : Turn κ}

/-- The reserved ids of a task and of those it has spawned. -/
def reserved (roster : Roster κ) (turn : Turn κ) : List EndpointId :=
  roster.reserved turn.control ++ reservedBy turn.spawned

/-- The ids that a task and those it has spawned answer for. -/
def held (roster : Roster κ) (turn : Turn κ) : List EndpointId :=
  roster.held turn.control ++ heldBy turn.spawned

/-- Only tasks of peers are spawned by other tasks. -/
def SpawnsPeers (turn : Turn κ) : Prop :=
  ∀ task ∈ turn.spawned, task.control.parent?.isSome = true

private theorem SpawnsPeers.of_nil (hspawned : turn.spawned = []) : turn.SpawnsPeers := by
  simp [SpawnsPeers, hspawned]

private theorem SpawnsPeers.of_singleton {task : Task} (hspawned : turn.spawned = [task])
    (hparent : task.control.parent?.isSome = true) : turn.SpawnsPeers := by
  simp [SpawnsPeers, hspawned, hparent]

/-- What a turn does to the ids of its task: nothing, or it takes one from the allocator, or it
announces or withdraws one, where a closed channel takes no announcement. -/
inductive Accounts (roster : Roster κ) (next : EndpointId) (before : κ) (wiring : Wiring)
    (turn : Turn κ) : Prop
  | quiet (hspawned : turn.SpawnsPeers) (hevents : turn.wiring.events = wiring.events)
      (hallocated : turn.allocated = 0)
      (hreserved : (roster.reserved before).Perm (turn.reserved roster))
      (hheld : (roster.held before).Perm (turn.held roster))
  | reserves (hspawned : turn.SpawnsPeers) (hevents : turn.wiring.events = wiring.events)
      (hallocated : turn.allocated = 1)
      (hreserved : (next :: roster.reserved before).Perm (turn.reserved roster))
      (hheld : (roster.held before).Perm (turn.held roster))
  | opens {id : EndpointId} {event : EndpointEvent} {name : String} {payload : Routable}
      (hspawned : turn.SpawnsPeers)
      (hregistration : event.registration? = some (id, name, some payload))
      (hsend : wiring.events.trySend event = .ok turn.wiring.events)
      (hallocated : turn.allocated = 0)
      (hreserved : (roster.reserved before).Perm (id :: turn.reserved roster))
      (hheld : (id :: roster.held before).Perm (turn.held roster))
  | discards (id : EndpointId) (hspawned : turn.SpawnsPeers)
      (hevents : turn.wiring.events = wiring.events) (hallocated : turn.allocated = 0)
      (hreserved : (roster.reserved before).Perm (id :: turn.reserved roster))
      (hheld : (roster.held before).Perm (turn.held roster))
  | closes {id : EndpointId} {event : EndpointEvent} (hspawned : turn.SpawnsPeers)
      (hlease : event.lease = .closed id)
      (hsend : wiring.events.trySend event = .ok turn.wiring.events)
      (hallocated : turn.allocated = 0)
      (hreserved : (roster.reserved before).Perm (turn.reserved roster))
      (hheld : (roster.held before).Perm (id :: turn.held roster))
  | abandons (id : EndpointId) (hspawned : turn.SpawnsPeers)
      (hclosed : wiring.events.receiverOpen = false)
      (hevents : turn.wiring.events = wiring.events) (hallocated : turn.allocated = 0)
      (hreserved : (roster.reserved before).Perm (turn.reserved roster))
      (hheld : (roster.held before).Perm (id :: turn.held roster))

/-- A turn that spawns nothing has the ids of its task. -/
theorem reserved_of_spawned (roster : Roster κ) (turn : Turn κ) (hspawned : turn.spawned = []) :
    turn.reserved roster = roster.reserved turn.control := by
  simp [reserved, hspawned, reservedBy]

private theorem held_of_spawned (roster : Roster κ) (turn : Turn κ) (hspawned : turn.spawned = []) :
    turn.held roster = roster.held turn.control := by
  simp [held, hspawned, heldBy]

namespace Accounts

/-- A turn that only moves. -/
theorem move (hevents : wiring'.events = wiring.events)
    (hreserved : (roster.reserved before).Perm (roster.reserved after))
    (hheld : (roster.held before).Perm (roster.held after)) :
    Accounts roster next before wiring (.move after wiring') :=
  .quiet (.of_nil rfl) hevents rfl
    (hreserved.trans (.of_eq (reserved_of_spawned roster (.move after wiring') rfl).symm))
    (hheld.trans (.of_eq (held_of_spawned roster (.move after wiring') rfl).symm))

private theorem wait {elapsed : Bool} {onElapsed onCancel : κ}
    (h : Turn.wait wiring elapsed onElapsed onCancel = some turn)
    (hreserved : ∀ after ∈ [onElapsed, onCancel],
      (roster.reserved before).Perm (roster.reserved after))
    (hheld : ∀ after ∈ [onElapsed, onCancel], (roster.held before).Perm (roster.held after)) :
    Accounts roster next before wiring turn := by
  unfold Turn.wait at h
  split at h
  · cases h
    exact .move rfl (hreserved _ (by simp)) (hheld _ (by simp))
  · obtain ⟨-, hturn⟩ := Option.ite_none_right_eq_some.mp h
    cases hturn
    exact .move rfl (hreserved _ (by simp)) (hheld _ (by simp))

private theorem drain {count : ℕ} {again : ℕ → κ} {done : κ} {state : Option EndpointState}
    (hreserved : ∀ after, (∃ count, after = again count) ∨ after = done →
      (roster.reserved before).Perm (roster.reserved after))
    (hheld : ∀ after, (∃ count, after = again count) ∨ after = done →
      (roster.held before).Perm (roster.held after)) :
    Accounts roster next before wiring (.drain wiring count again done state) := by
  unfold Turn.drain
  split
  · rename_i hdrain
    have hwiring : _ = (wiring.drain count).2 := (congrArg Prod.snd hdrain).symm
    subst hwiring
    exact .move rfl (hreserved _ (.inl ⟨_, rfl⟩)) (hheld _ (.inl ⟨_, rfl⟩))
  · rename_i hdrain
    have hwiring : _ = (wiring.drain count).2 := (congrArg Prod.snd hdrain).symm
    subst hwiring
    refine .move ?_ (hreserved _ (.inr rfl)) (hheld _ (.inr rfl))
    cases state <;> rfl

/-- A turn keeps the books, with what the other tasks have in them. -/
theorem custody (h : Accounts roster next before wiring turn) {fresh fresh' : Set EndpointId}
    {log : List (LeaseEntry EndpointId)} {reserved held : List EndpointId}
    (hcustody : Custody fresh wiring.events.receiverOpen log (roster.reserved before ++ reserved)
      (roster.held before ++ held))
    (hless : fresh' ⊆ fresh) (hnext : turn.allocated = 1 → next ∈ fresh ∧ next ∉ fresh') :
    ∃ sent : List EndpointEvent, turn.wiring.events.items = wiring.events.items ++ sent ∧
      Custody fresh' turn.wiring.events.receiverOpen (log ++ sent.map EndpointEvent.lease)
        (turn.reserved roster ++ reserved) (turn.held roster ++ held) := by
  cases h with
  | quiet _ hevents hallocated hreserved hheld =>
    refine ⟨[], by rw [hevents, List.append_nil], ?_⟩
    rw [hevents, List.map_nil, List.append_nil]
    exact (hcustody.perm (hreserved.append_right _) (hheld.append_right _)).mono hless
  | reserves _ hevents hallocated hreserved hheld =>
    refine ⟨[], by rw [hevents, List.append_nil], ?_⟩
    rw [hevents, List.map_nil, List.append_nil]
    obtain ⟨hfresh, htaken⟩ := hnext hallocated
    exact (hcustody.reserve hfresh hless htaken).perm (hreserved.append_right _)
      (hheld.append_right _)
  | opens _ hregistration hsend hallocated hreserved hheld =>
    refine ⟨[_], Library.Channel.items_of_trySend hsend, ?_⟩
    rw [Library.Channel.receiverOpen_of_trySend hsend, List.map_singleton,
      EndpointEvent.lease_of_registration hregistration]
    have hopened := (hcustody.perm (hreserved.append_right _) (.refl _)).opened
    exact (hopened.perm (.refl _) (hheld.append_right _)).mono hless
  | discards id _ hevents hallocated hreserved hheld =>
    refine ⟨[], by rw [hevents, List.append_nil], ?_⟩
    rw [hevents, List.map_nil, List.append_nil]
    have hdiscarded := (hcustody.perm (hreserved.append_right _) (hheld.append_right _)).discard
    exact hdiscarded.mono hless
  | closes _ hlease hsend hallocated hreserved hheld =>
    refine ⟨[_], Library.Channel.items_of_trySend hsend, ?_⟩
    rw [Library.Channel.receiverOpen_of_trySend hsend, List.map_singleton, hlease]
    have hclosed := (hcustody.perm (hreserved.append_right _) (hheld.append_right _)).closed
    exact hclosed.mono hless
  | abandons id _ hclosed hevents hallocated hreserved hheld =>
    refine ⟨[], by rw [hevents, List.append_nil], ?_⟩
    rw [hevents, List.map_nil, List.append_nil]
    rw [hclosed] at hcustody ⊢
    have hgiven := (hcustody.perm (hreserved.append_right _) (hheld.append_right _)).abandon
    exact hgiven.mono hless

/-- A turn takes at most one id from the allocator. -/
theorem allocated_le (h : Accounts roster next before wiring turn) : turn.allocated ≤ 1 := by
  cases h with
  | reserves _ _ hallocated => exact hallocated.le
  | quiet _ _ hallocated => omega
  | opens _ _ _ hallocated => omega
  | discards _ _ _ hallocated => omega
  | closes _ _ _ hallocated => omega
  | abandons _ _ _ _ hallocated => omega

/-- A turn spawns peers only. -/
theorem spawnsPeers (h : Accounts roster next before wiring turn) : turn.SpawnsPeers := by
  cases h <;> assumption

/-- A turn sends at most one event. -/
theorem events (h : Accounts roster next before wiring turn) :
    turn.wiring.events = wiring.events ∨
      ∃ event, wiring.events.trySend event = .ok turn.wiring.events := by
  cases h with
  | quiet _ hevents => exact .inl hevents
  | reserves _ hevents => exact .inl hevents
  | opens _ _ hsend => exact .inr ⟨_, hsend⟩
  | discards _ _ hevents => exact .inl hevents
  | closes _ _ hsend => exact .inr ⟨_, hsend⟩
  | abandons _ _ _ hevents => exact .inl hevents

end Accounts

end Turn

/-- The roster of a task that keeps its own id for good. -/
def Roster.fixed (κ : Type) (id : EndpointId) : Roster κ :=
  ⟨fun _ => [], fun _ => [id]⟩

variable {env : TaskEnv} {ctx : SessionCtx} {wiring : Wiring} {step : TaskStep}

namespace StreamTask

/-- Every step of a `serial:` or `tcpc:` task. -/
theorem step_accounts {kind : DialKind} {task : StreamTask} {turn : Turn StreamTask}
    (id next : EndpointId) (h : task.step kind ctx wiring step = some turn) :
    turn.Accounts (.fixed StreamTask id) next task wiring := by
  have hmove : ∀ {after : StreamTask} {wiring' : Wiring}, wiring'.events = wiring.events →
      (Turn.move after wiring').Accounts (.fixed StreamTask id) next task wiring :=
    fun hevents => .move hevents (.refl _) (.refl _)
  unfold StreamTask.step at h
  split at h
  case h_1 =>
    split at h
    · cases h
      exact hmove rfl
    · split at h <;> cases h <;> exact hmove rfl
  case h_2 => cases h; exact hmove rfl
  case h_3 => cases h; exact hmove rfl
  case h_4 => cases h; exact hmove rfl
  case h_5 => split at h <;> cases h <;> exact hmove rfl
  case h_6 => cases h; exact hmove rfl
  case h_7 => exact .wait h (fun _ _ => .refl _) fun _ _ => .refl _
  case h_8 => cases h; exact .drain (fun _ _ => .refl _) fun _ _ => .refl _
  case h_9 =>
    obtain ⟨result, hstep, hresult⟩ := Option.map_eq_some_iff.mp h
    cases hresult
    exact hmove (SessionLoop.step_lowers hstep).2.1
  case h_10 =>
    split at h
    · rename_i outcome _
      cases h
      cases outcome with
      | terminated => exact hmove rfl
      | disconnected => cases kind <;> exact hmove rfl
    · cases h
  case h_11 => cases h; exact .drain (fun _ _ => .refl _) fun _ _ => .refl _
  case h_12 => exact .wait h (fun _ _ => .refl _) fun _ _ => .refl _
  case h_13 => cases h; exact .drain (fun _ _ => .refl _) fun _ _ => .refl _
  case h_14 => cases h

end StreamTask

namespace TcpsChild

def roster (id : EndpointId) : Roster TcpsChild :=
  ⟨fun _ => [], children id⟩

/-- Every step of a client's task. -/
theorem step_accounts {parentId : EndpointId} {task : TcpsChild} {turn : Turn TcpsChild}
    (next : EndpointId) (h : task.step parentId ctx wiring step = some turn) :
    turn.Accounts (roster ctx.endpointId) next task wiring := by
  unfold TcpsChild.step at h
  split at h
  case h_1 =>
    obtain ⟨result, hstep, hresult⟩ := Option.map_eq_some_iff.mp h
    cases hresult
    exact .move (SessionLoop.step_lowers hstep).2.1 (.refl _) (.refl _)
  case h_2 =>
    split at h
    · cases h
      exact .move rfl (.refl _) (.refl _)
    · cases h
  case h_3 =>
    cases h
    refine .drain (fun _ _ => .refl _) ?_
    rintro after (⟨count, rfl⟩ | rfl) <;> exact .refl _
  case h_4 =>
    obtain ⟨⟨sent, wiring'⟩, hsend, hresult⟩ := Option.map_eq_some_iff.mp h
    cases hresult
    cases sent with
    | true =>
      have hsends := (Wiring.sendEvent_true hsend).1
      exact .closes (.of_nil rfl) rfl hsends rfl (.refl _) (.refl _)
    | false =>
      obtain ⟨hclosed, rfl⟩ := Wiring.sendEvent_false hsend
      exact .abandons ctx.endpointId (.of_nil rfl) hclosed rfl rfl (.refl _) (.refl _)
  case h_5 => cases h

end TcpsChild

namespace TcpServerTask

def roster (id : EndpointId) : Roster TcpServerTask :=
  ⟨reserved, fun _ => [id]⟩

/-- Every step of a `tcps:` task. -/
theorem step_accounts {spec : TcpServerSpec} {task : TcpServerTask} {turn : Turn TcpServerTask}
    (id : EndpointId) (h : task.step env spec wiring step = some turn) :
    turn.Accounts (roster id) env.next task wiring := by
  unfold TcpServerTask.step at h
  split at h
  case h_1 => cases h; exact .move rfl (by split <;> exact .refl _) (.refl _)
  case h_2 => split at h <;> cases h <;> exact .move rfl (.refl _) (.refl _)
  case h_3 =>
    refine .wait h ?_ fun _ _ => .refl _
    simp [roster, reserved]
  case h_4 => cases h; exact .move rfl (by split <;> exact .refl _) (.refl _)
  case h_5 => cases h; exact .move rfl (.refl _) (.refl _)
  case h_6 => cases h; exact .move rfl (.refl _) (.refl _)
  case h_7 => cases h; exact .reserves (.of_nil rfl) rfl rfl (.refl _) (.refl _)
  case h_8 =>
    refine .wait h ?_ fun _ _ => .refl _
    simp [roster, reserved]
  case h_9 =>
    obtain ⟨⟨sent, wiring'⟩, hsend, hresult⟩ := Option.map_eq_some_iff.mp h
    cases hresult
    cases sent with
    | true =>
      exact .opens (.of_singleton rfl rfl) rfl (Wiring.sendEvent_true hsend).1 rfl
        (.refl _) (List.Perm.swap _ _ _)
    | false =>
      obtain ⟨-, rfl⟩ := Wiring.sendEvent_false hsend
      exact .discards _ (.of_nil rfl) rfl rfl (.refl _) (.refl _)
  case h_10 =>
    obtain ⟨-, hresult⟩ := Option.ite_none_right_eq_some.mp h
    cases hresult
    exact .move rfl (.refl _) (.refl _)
  case h_11 => cases h

end TcpServerTask

namespace UdpClientTask

/-- Every step of a `udpc:` task. -/
theorem step_accounts {task : UdpClientTask} {turn : Turn UdpClientTask} (id next : EndpointId)
    (h : task.step ctx wiring step = some turn) :
    turn.Accounts (.fixed UdpClientTask id) next task wiring := by
  have hmove : ∀ {after : UdpClientTask} {wiring' : Wiring}, wiring'.events = wiring.events →
      (Turn.move after wiring').Accounts (.fixed UdpClientTask id) next task wiring :=
    fun hevents => .move hevents (.refl _) (.refl _)
  unfold UdpClientTask.step at h
  split at h
  · split at h
    · obtain ⟨result, hadvance, hresult⟩ := Option.map_eq_some_iff.mp h
      cases hresult
      exact hmove (Intake.advance_lowers hadvance).2.2.1
    · cases h
  · unfold UdpClientTask.turn at h
    split at h
    case h_1 => cases h; exact hmove rfl
    case h_2 => cases h; exact hmove rfl
    case h_3 => split at h <;> cases h <;> exact hmove rfl
    case h_4 => exact .wait h (fun _ _ => .refl _) fun _ _ => .refl _
    case h_5 => cases h; exact hmove rfl
    case h_6 => cases h; exact hmove rfl
    case h_7 => cases h; exact hmove rfl
    case h_8 => cases h; exact hmove rfl
    case h_9 => cases h; exact hmove rfl
    case h_10 => split at h <;> cases h; exact hmove rfl
    case h_11 => split at h <;> cases h <;> exact hmove rfl
    case h_12 => cases h; exact hmove (by split <;> rfl)
    case h_13 =>
      rename_i state _ _
      cases h
      exact hmove (by cases state <;> rfl)
    case h_14 => cases h; exact hmove rfl
    case h_15 => cases h; exact .drain (fun _ _ => .refl _) fun _ _ => .refl _
    case h_16 => cases h

end UdpClientTask

namespace PeerWriterTask

/-- The writer of a peer answers for no id: the listener does. -/
def roster : Roster PeerWriterTask :=
  ⟨fun _ => [], fun _ => []⟩

/-- Every step of a peer's writer. -/
theorem step_accounts {task : PeerWriterTask} {turn : Turn PeerWriterTask} (next : EndpointId)
    (h : task.step env wiring step = some turn) :
    turn.Accounts roster next task wiring := by
  have hmove : ∀ {after : PeerWriterTask} {wiring' : Wiring}, wiring'.events = wiring.events →
      (Turn.move after wiring').Accounts roster next task wiring :=
    fun hevents => .move hevents (.refl _) (.refl _)
  unfold PeerWriterTask.step at h
  split at h
  case h_1 => cases h; exact hmove rfl
  case h_2 => cases h; exact hmove rfl
  case h_3 => split at h <;> cases h; exact hmove rfl
  case h_4 => split at h <;> cases h <;> exact hmove rfl
  case h_5 => cases h; exact .drain (fun _ _ => .refl _) fun _ _ => .refl _
  case h_6 => cases h

end PeerWriterTask

namespace UdpServerTask

def roster (id : EndpointId) : Roster UdpServerTask :=
  ⟨fun task => task.phase.reserved, fun task => id :: task.children⟩

variable {spec : UdpServerSpec} {task : UdpServerTask}
  {turn : Turn UdpServerTask} {peer : Peer} {src : SocketAddr} {visit : Library.Traversal Peer}

private theorem src_of_peer? (h : task.peer? src = some peer) : peer.src = src := by
  simpa using List.find?_some h

private theorem Sound.peers (h : task.Sound) : (task.peers.map Peer.src).Nodup :=
  (List.nodup_append.mp h.nodup).1

/-- A peer is the only entry of its address. -/
theorem perm_without (h : (task.peers.map Peer.src).Nodup) (hpeer : peer ∈ task.peers) :
    task.peers.Perm (peer :: task.without peer.src) := by
  obtain ⟨peers, phase⟩ := task
  dsimp only [without] at h hpeer ⊢
  clear phase
  induction peers with
  | nil => exact absurd hpeer List.not_mem_nil
  | cons first peers ih =>
    rw [List.map_cons, List.nodup_cons] at h
    rcases List.mem_cons.mp hpeer with rfl | hmem
    · have hothers : peers.filter (fun other => other.src ≠ peer.src) = peers := by
        refine List.filter_eq_self.mpr fun other hother => ?_
        have hne : other.src ≠ peer.src := fun hsrc => h.1 (hsrc ▸ List.mem_map_of_mem hother)
        simpa using hne
      rw [List.filter_cons_of_neg (by simp), hothers]
    · have hne : first.src ≠ peer.src := fun hsrc => h.1 (hsrc ▸ List.mem_map_of_mem hmem)
      rw [List.filter_cons_of_pos (by simpa using hne)]
      exact ((ih h.2 hmem).cons first).trans (.swap _ _ _)

/-- Taking a peer out of the table leaves the others. -/
theorem perm_children_without (h : (task.peers.map Peer.src).Nodup) (hpeer : peer ∈ task.peers)
    (rest : List EndpointId) :
    (task.peers.map Peer.childId ++ rest).Perm
      ((task.without peer.src).map Peer.childId ++ peer.childId :: rest) := by
  have hperm := ((perm_without h hpeer).map Peer.childId).append_right rest
  exact hperm.trans List.perm_middle.symm

/-- Taking an address out of the table makes room for it elsewhere. -/
theorem nodup_without (h : (task.peers.map Peer.src).Nodup) (src : SocketAddr) :
    ((task.without src).map Peer.src ++ [src]).Nodup := by
  rw [← List.concat_eq_append]
  refine List.Nodup.concat (fun hmem => ?_) (h.sublist (List.filter_sublist.map _))
  obtain ⟨other, hother, hsrc⟩ := List.mem_map.mp hmem
  have hne := (List.mem_filter.mp hother).2
  exact absurd hsrc (by simpa using hne)

/-- An address without a peer. -/
theorem not_mem_of_peer? (h : task.peer? src = none) : src ∉ task.peers.map Peer.src := by
  intro hmem
  obtain ⟨peer, hpeer, rfl⟩ := List.mem_map.mp hmem
  have hnone := List.find?_eq_none.mp h peer hpeer
  simp at hnone

/-- The new peer is dealt with next, after the oldest one has left if the table is full. -/
theorem admitNewPeer_eq (spec : UdpServerSpec) (visit : Library.Traversal Peer)
    (childId : EndpointId) (datagram : Datagram) (wiring : Wiring) (task : UdpServerTask) :
    task.admitNewPeer spec visit childId datagram wiring =
        task.enroll spec childId datagram wiring ∨
      ∃ victim ∈ task.peers, task.admitNewPeer spec visit childId datagram wiring =
        ⟨⟨task.without victim.src, .evicting victim.childId childId datagram⟩, wiring, [],
          [victim.childId], 0⟩ := by
  unfold admitNewPeer
  split
  · split
    · exact .inl rfl
    · rename_i victim hvictim
      exact .inr ⟨victim, (visit.perm task.peers).mem_iff.mp (List.argmin_mem hvictim), rfl⟩
  · exact .inl rfl

private theorem heldBy_writer (spec : UdpServerSpec) (childId : EndpointId) :
    heldBy [writer spec childId] = [] := rfl

/-- Admission hands the new id to the table, and an evicted one back. -/
private theorem admitNewPeer_held {childId : EndpointId} {datagram : Datagram} (id : EndpointId)
    (hdistinct : (task.peers.map Peer.src).Nodup) :
    (childId :: id :: task.peers.map Peer.childId).Perm
      ((task.admitNewPeer spec visit childId datagram wiring).held (roster id)) := by
  obtain heq | ⟨victim, hvictim, heq⟩ := admitNewPeer_eq spec visit childId datagram wiring task
  · rw [heq]
    simp only [Turn.held, roster, enroll, Turn.move, heldBy_writer, List.append_nil, children,
      setPhase, UdpServerPhase.children, Peer.receive]
    exact (List.Perm.swap _ _ _).trans ((List.perm_append_singleton _ _).symm.cons id)
  · rw [heq]
    have hperm := perm_children_without hdistinct hvictim [childId]
    simp only [Turn.held, roster, heldBy, List.flatMap_nil, List.append_nil, children,
      UdpServerPhase.children]
    exact (List.Perm.swap _ _ _).trans
      (((List.perm_append_singleton _ _).symm.trans hperm).cons id)

section

variable (env spec)

/-- A received datagram is for a peer of the table, or takes an id for a new one. -/
theorem receive_accounts {datagram : Datagram} (id : EndpointId) (hsound : task.Sound)
    (hphase : task.phase = .polled)
    (h : task.step env spec wiring .polled (.receive (some datagram)) = some turn) :
    turn.Accounts (roster id) env.next task wiring := by
  simp only [step] at h
  split at h
  · rename_i peer hpeer
    cases h
    have hsrc := src_of_peer? hpeer
    have hperm := perm_children_without hsound.peers (List.mem_of_find?_eq_some hpeer) []
    rw [hsrc] at hperm
    refine .move rfl ?_ ?_
    · simp [roster, hphase, UdpServerPhase.reserved]
    · simp only [roster, children, hphase, UdpServerPhase.children, Peer.receive]
      exact hperm.cons id
  · cases h
    refine .reserves (.of_nil rfl) rfl rfl ?_ ?_
    · simp [Turn.reserved, Turn.move, roster, hphase, UdpServerPhase.reserved, reservedBy, setPhase]
    · simp [Turn.held, Turn.move, roster, children, hphase, UdpServerPhase.children, heldBy,
        setPhase]

/-- A silent peer leaves the table; the router is told next. -/
theorem remove_accounts {expired : List SocketAddr} (id : EndpointId)
    (hsound : task.Sound) (hphase : task.phase = .reaping (src :: expired))
    (h : task.step env spec wiring (.reaping (src :: expired)) .remove = some turn) :
    turn.Accounts (roster id) env.next task wiring := by
  simp only [step] at h
  split at h
  · rename_i peer hpeer
    cases h
    have hsrc := src_of_peer? hpeer
    have hperm := perm_children_without hsound.peers (List.mem_of_find?_eq_some hpeer) []
    rw [hsrc] at hperm
    refine .quiet (.of_nil rfl) rfl rfl ?_ ?_
    · simp [Turn.reserved, Turn.move, roster, hphase, UdpServerPhase.reserved, reservedBy]
    · simp only [Turn.held, Turn.move, roster, children, hphase, UdpServerPhase.children, heldBy,
        List.flatMap_nil, List.append_nil] at hperm ⊢
      exact hperm.cons id
  · cases h
    refine .move rfl ?_ ?_
    · simp [roster, hphase, UdpServerPhase.reserved, setPhase]
    · simp [roster, children, hphase, UdpServerPhase.children, setPhase]

/-- A new peer is announced and then admitted. -/
theorem admit_accounts {childId : EndpointId} {datagram : Datagram} (id : EndpointId)
    (hsound : task.Sound) (hphase : task.phase = .admitting childId datagram)
    (h : task.step env spec wiring (.admitting childId datagram) (.visit visit) = some turn) :
    turn.Accounts (roster id) env.next task wiring := by
  obtain ⟨⟨sent, wiring'⟩, hsend, hresult⟩ := Option.map_eq_some_iff.mp h
  cases hresult
  have hheld : (roster id).held task = id :: task.peers.map Peer.childId := by
    simp [roster, children, hphase, UdpServerPhase.children]
  cases sent with
  | true =>
    have hregistration :
        (UdpServer.announcement env.format spec datagram.src childId).registration? =
          some (childId, peerEndpointName env.format spec.parentName datagram.src,
            some ⟨spec.identity, spec.parentName⟩) := rfl
    have hadmit : (task.admitNewPeer spec visit childId datagram wiring').wiring = wiring' ∧
        (task.admitNewPeer spec visit childId datagram wiring').allocated = 0 ∧
        (task.admitNewPeer spec visit childId datagram wiring').reserved (roster id) = [] ∧
        (task.admitNewPeer spec visit childId datagram wiring').SpawnsPeers := by
      obtain heq | ⟨victim, -, heq⟩ := admitNewPeer_eq spec visit childId datagram wiring' task
      · rw [heq]
        exact ⟨rfl, rfl, rfl, .of_singleton rfl rfl⟩
      · rw [heq]
        exact ⟨rfl, rfl, rfl, .of_nil rfl⟩
    obtain ⟨hwiring, hallocated, hreserved, hspawned⟩ := hadmit
    rw [if_pos rfl]
    refine .opens hspawned hregistration ?_ hallocated ?_ ?_
    · rw [hwiring]
      exact (Wiring.sendEvent_true hsend).1
    · rw [hreserved]
      simp [roster, hphase, UdpServerPhase.reserved]
    · rw [hheld]
      exact admitNewPeer_held id hsound.peers
  | false =>
    obtain ⟨-, rfl⟩ := Wiring.sendEvent_false hsend
    refine .discards childId (.of_nil rfl) rfl rfl ?_ ?_
    · simp [Turn.reserved, Turn.move, roster, hphase, UdpServerPhase.reserved, reservedBy,
        setPhase]
    · rw [hheld]
      simp [Turn.held, Turn.move, roster, children, UdpServerPhase.children, heldBy, setPhase]

end

/-- A withdrawn peer is announced as such unless the router is gone. -/
theorem withdraw_accounts {childId : EndpointId} {reason : PeerRemovalReason} {sent : Bool}
    {wiring' : Wiring} (id : EndpointId)
    (hsend : wiring.sendEvent (.peerRemoved spec.parentId childId reason) = some (sent, wiring'))
    (hspawned : turn.SpawnsPeers) (hwiring : turn.wiring = wiring')
    (hallocated : turn.allocated = 0)
    (hreserved : (roster id).reserved task = turn.reserved (roster id))
    (hheld : ((roster id).held task).Perm (childId :: turn.held (roster id))) :
    turn.Accounts (roster id) env.next task wiring := by
  cases sent with
  | true =>
    have hlease : (EndpointEvent.peerRemoved spec.parentId childId reason).lease =
        .closed childId := rfl
    refine .closes hspawned hlease ?_ hallocated (.of_eq hreserved) hheld
    rw [hwiring]
    exact (Wiring.sendEvent_true hsend).1
  | false =>
    obtain ⟨hclosed, rfl⟩ := Wiring.sendEvent_false hsend
    exact .abandons childId hspawned hclosed (by rw [hwiring]) hallocated (.of_eq hreserved) hheld

/-- Every step of a `udps:` task. -/
theorem step_accounts (id : EndpointId) (hsound : task.Sound)
    (h : task.step env spec wiring task.phase step = some turn) :
    turn.Accounts (roster id) env.next task wiring := by
  -- One case for each line of the definition, in its order.
  obtain ⟨peers, phase⟩ := task
  dsimp only at h
  unfold UdpServerTask.step at h
  split at h
  case h_1 => cases h; split <;> exact .move rfl (.refl _) (.refl _)
  case h_2 => split at h <;> cases h <;> exact .move rfl (.refl _) (.refl _)
  case h_3 =>
    exact .wait h (by simp [roster, setPhase, UdpServerPhase.reserved])
      (by simp [roster, children, setPhase, UdpServerPhase.children])
  case h_4 => cases h; split <;> exact .move rfl (.refl _) (.refl _)
  case h_5 => cases h; exact .move rfl (.refl _) (.refl _)
  case h_6 => cases h; exact .move rfl (.refl _) (.refl _)
  case h_7 => cases h; exact .move rfl (.refl _) (.refl _)
  case h_8 => exact receive_accounts env spec id hsound rfl h
  case h_9 =>
    exact .wait h (by simp [roster, setPhase, UdpServerPhase.reserved])
      (by simp [roster, children, setPhase, UdpServerPhase.children])
  case h_10 => cases h; exact .move rfl (.refl _) (.refl _)
  case h_11 => exact remove_accounts env spec id hsound rfl h
  case h_12 =>
    obtain ⟨⟨sent, wiring'⟩, hsend, hresult⟩ := Option.map_eq_some_iff.mp h
    cases hresult
    refine withdraw_accounts id hsend (.of_nil rfl) rfl rfl rfl ?_
    simp only [Turn.held, Turn.move, roster, children, UdpServerPhase.children, setPhase, heldBy,
      List.flatMap_nil, List.append_nil]
    exact ((List.perm_append_singleton _ _).cons id).trans (.swap _ _ _)
  case h_13 => exact admit_accounts env spec id hsound rfl h
  case h_14 =>
    obtain ⟨⟨sent, wiring'⟩, hsend, hresult⟩ := Option.map_eq_some_iff.mp h
    cases hresult
    refine withdraw_accounts id hsend (.of_singleton rfl rfl) rfl rfl rfl ?_
    simp only [Turn.held, enroll, Turn.move, roster, children, UdpServerPhase.children, setPhase,
      heldBy_writer, Peer.receive, List.append_nil]
    exact (List.perm_middle.cons id).trans (.swap _ _ _)
  case h_15 =>
    obtain ⟨⟨intake, wiring'⟩, hadvance, hresult⟩ := Option.map_eq_some_iff.mp h
    cases hresult
    exact .move (Intake.advance_lowers hadvance).2.2.1 (.refl _) (.refl _)
  case h_16 =>
    split at h
    · cases h
    · cases h
      refine .move rfl (.refl _) ?_
      simp only [roster, children, UdpServerPhase.children, Peer.rest, List.map_cons,
        List.append_nil]
      exact (List.perm_append_singleton _ _).cons id
  case h_17 =>
    split at h
    · cases h
    · rename_i peer rest hpeers
      obtain ⟨⟨sent, wiring'⟩, hsend, hresult⟩ := Option.map_eq_some_iff.mp h
      cases hresult
      refine withdraw_accounts id hsend (.of_nil rfl) rfl rfl rfl ?_
      have hperm : peers.Perm (peer :: rest) := hpeers ▸ (Library.Traversal.perm _ peers).symm
      simp only [Turn.held, Turn.move, roster, children, UdpServerPhase.children, heldBy,
        List.flatMap_nil, List.append_nil]
      exact ((hperm.map Peer.childId).cons id).trans (.swap _ _ _)
  case h_18 =>
    split at h
    · cases h
      exact .move rfl (.refl _) (.refl _)
    · cases h
  case h_19 =>
    obtain ⟨-, hresult⟩ := Option.ite_none_right_eq_some.mp h
    cases hresult
    exact .move rfl (.refl _) (.refl _)
  case h_20 => cases h

/-- A task that is not dealing with an address stays sound. -/
theorem Sound.setPhase (h : task.Sound) {phase : UdpServerPhase} (hsources : phase.sources = [])
    (hempty : phase.bound = false → task.peers = []) : (task.setPhase phase).Sound where
  nodup := by
    change (task.peers.map Peer.src ++ phase.sources).Nodup
    rw [hsources, List.append_nil]
    exact h.peers
  empty := hempty

/-- A task in its loop may forget about some of its peers. -/
theorem Sound.sublist (h : task.Sound) {peers : List Peer} {phase : UdpServerPhase}
    (hpeers : peers.Sublist task.peers) (hsources : phase.sources = task.phase.sources)
    (hbound : phase.bound = true) : (⟨peers, phase⟩ : UdpServerTask).Sound where
  nodup := by
    change (peers.map Peer.src ++ phase.sources).Nodup
    rw [hsources]
    exact h.nodup.sublist ((hpeers.map _).append_right _)
  empty := fun hfalse => absurd hbound (by rw [hfalse]; exact Bool.false_ne_true)

private theorem sound_enroll {childId : EndpointId} {datagram : Datagram}
    (h : (task.peers.map Peer.src ++ [datagram.src]).Nodup) :
    (task.enroll spec childId datagram wiring).control.Sound :=
  ⟨h, Bool.noConfusion⟩

private theorem Sound.wait {elapsed : Bool} {onElapsed onCancel : UdpServerTask}
    (h : Turn.wait wiring elapsed onElapsed onCancel = some turn) (helapsed : onElapsed.Sound)
    (hcancel : onCancel.Sound) : turn.control.Sound := by
  unfold Turn.wait at h
  split at h
  · cases h
    exact helapsed
  · obtain ⟨-, hturn⟩ := Option.ite_none_right_eq_some.mp h
    cases hturn
    exact hcancel

/-- No step gives an address a second peer or leaves the loop with a peer in the table. -/
theorem step_sound (hsound : task.Sound)
    (h : task.step env spec wiring task.phase step = some turn) : turn.control.Sound := by
  obtain ⟨peers, phase⟩ := task
  dsimp only at h
  have hbound : ∀ {phase' : UdpServerPhase}, phase'.sources = [] → phase'.bound = true →
      (setPhase ⟨peers, phase⟩ phase').Sound := fun hsources hbound =>
    hsound.setPhase hsources fun hfalse => absurd (hbound.symm.trans hfalse) Bool.noConfusion
  have hunbound : ∀ {phase' : UdpServerPhase}, phase.bound = false → phase'.sources = [] →
      (setPhase ⟨peers, phase⟩ phase').Sound := fun hidle hsources =>
    hsound.setPhase hsources fun _ => hsound.empty hidle
  unfold UdpServerTask.step at h
  split at h
  case h_1 => cases h; split <;> exact hunbound rfl rfl
  case h_2 =>
    split at h
    · cases h
      exact hbound rfl rfl
    · cases h
      exact hunbound rfl rfl
  case h_3 => exact .wait h (hunbound rfl rfl) (hunbound rfl rfl)
  case h_4 => cases h; split <;> exact hbound rfl rfl
  case h_5 => cases h; exact hbound rfl rfl
  case h_6 => cases h; exact hbound rfl rfl
  case h_7 => cases h; exact hbound rfl rfl
  case h_8 =>
    split at h
    · rename_i datagram _ peer hpeer
      cases h
      have hsrc := src_of_peer? hpeer
      have hnodup := nodup_without hsound.peers datagram.src
      refine ⟨?_, Bool.noConfusion⟩
      change (_ ++ [peer.src]).Nodup
      rw [hsrc]
      exact hnodup
    · rename_i datagram _ hpeer
      cases h
      refine ⟨?_, Bool.noConfusion⟩
      change (peers.map Peer.src ++ [datagram.src]).Nodup
      rw [← List.concat_eq_append]
      exact hsound.peers.concat (not_mem_of_peer? hpeer)
  case h_9 => exact .wait h (hbound rfl rfl) (hbound rfl rfl)
  case h_10 => cases h; exact hbound rfl rfl
  case h_11 =>
    split at h
    · cases h
      exact hsound.sublist List.filter_sublist rfl rfl
    · cases h
      exact hbound rfl rfl
  case h_12 =>
    obtain ⟨result, -, hresult⟩ := Option.map_eq_some_iff.mp h
    cases hresult
    exact hbound rfl rfl
  case h_13 =>
    obtain ⟨⟨sent, wiring'⟩, -, hresult⟩ := Option.map_eq_some_iff.mp h
    cases hresult
    split
    · rename_i childId datagram visit _
      obtain heq | ⟨victim, -, heq⟩ :=
        admitNewPeer_eq spec visit childId datagram wiring' ⟨peers, .admitting childId datagram⟩
      · rw [heq]
        exact sound_enroll hsound.nodup
      · rw [heq]
        exact hsound.sublist List.filter_sublist rfl rfl
    · exact hbound rfl rfl
  case h_14 =>
    obtain ⟨result, -, hresult⟩ := Option.map_eq_some_iff.mp h
    cases hresult
    exact sound_enroll hsound.nodup
  case h_15 =>
    obtain ⟨result, -, hresult⟩ := Option.map_eq_some_iff.mp h
    cases hresult
    exact ⟨hsound.nodup, Bool.noConfusion⟩
  case h_16 =>
    split at h
    · cases h
    · rename_i peer _
      cases h
      have hperm : (peer.src :: peers.map Peer.src).Perm (peers.map Peer.src ++ [peer.src]) :=
        (List.perm_append_singleton _ _).symm
      refine ⟨?_, Bool.noConfusion⟩
      change ((peer.src :: peers.map Peer.src) ++ []).Nodup
      rw [List.append_nil]
      exact hperm.nodup_iff.mpr hsound.nodup
  case h_17 =>
    split at h
    · cases h
    · rename_i peer rest hpeers
      obtain ⟨result, -, hresult⟩ := Option.map_eq_some_iff.mp h
      cases hresult
      have hperm : peers.Perm (peer :: rest) := hpeers ▸ (Library.Traversal.perm _ peers).symm
      have hnodup := (hperm.map Peer.src).nodup_iff.mp hsound.peers
      refine ⟨?_, Bool.noConfusion⟩
      change (rest.map Peer.src ++ []).Nodup
      rw [List.append_nil]
      exact hnodup.of_cons
  case h_18 =>
    split at h
    · rename_i hpeers
      cases h
      exact hsound.setPhase rfl fun _ => hpeers
    · cases h
  case h_19 =>
    obtain ⟨-, hresult⟩ := Option.ite_none_right_eq_some.mp h
    cases hresult
    exact hunbound rfl rfl
  case h_20 => cases h

end UdpServerTask

namespace Control

def roster (id : EndpointId) : Roster Control :=
  ⟨reserved, held id⟩

variable {id : EndpointId} {control : Control}

/-- A turn of one kind of task is a turn of the task. -/
theorem accounts_map {κ : Type} {kind : Roster κ} {embed : κ → Control} {next : EndpointId}
    {before : κ} {turn : Turn κ} (hreserved : ∀ task, (embed task).reserved = kind.reserved task)
    (hheld : ∀ task, (embed task).held id = kind.held task)
    (h : turn.Accounts kind next before wiring) :
    (turn.map embed).Accounts (roster id) next (embed before) wiring := by
  have hreservedBefore : (roster id).reserved (embed before) = kind.reserved before :=
    hreserved before
  have hheldBefore : (roster id).held (embed before) = kind.held before := hheld before
  have hreserved' : (turn.map embed).reserved (roster id) = turn.reserved kind :=
    congrArg (· ++ _) (hreserved turn.control)
  have hheld' : (turn.map embed).held (roster id) = turn.held kind :=
    congrArg (· ++ _) (hheld turn.control)
  cases h with
  | quiet hspawned hevents hallocated hbefore hafter =>
    exact .quiet hspawned hevents hallocated (by rwa [hreserved', hreservedBefore])
      (by rwa [hheld', hheldBefore])
  | reserves hspawned hevents hallocated hbefore hafter =>
    exact .reserves hspawned hevents hallocated (by rwa [hreserved', hreservedBefore])
      (by rwa [hheld', hheldBefore])
  | opens hspawned hlease hsend hallocated hbefore hafter =>
    exact .opens hspawned hlease hsend hallocated (by rwa [hreserved', hreservedBefore])
      (by rwa [hheld', hheldBefore])
  | discards other hspawned hevents hallocated hbefore hafter =>
    exact .discards other hspawned hevents hallocated (by rwa [hreserved', hreservedBefore])
      (by rwa [hheld', hheldBefore])
  | closes hspawned hlease hsend hallocated hbefore hafter =>
    exact .closes hspawned hlease hsend hallocated (by rwa [hreserved', hreservedBefore])
      (by rwa [hheld', hheldBefore])
  | abandons other hspawned hclosed hevents hallocated hbefore hafter =>
    exact .abandons other hspawned hclosed hevents hallocated (by rwa [hreserved', hreservedBefore])
      (by rwa [hheld', hheldBefore])

/-- Every step of a task. -/
theorem step_accounts {turn : Turn Control} (hsound : control.Sound)
    (h : control.step env id wiring step = some turn) :
    turn.Accounts (roster id) env.next control wiring := by
  cases control with
  | stream kind filters task =>
    obtain ⟨result, hstep, rfl⟩ := Option.map_eq_some_iff.mp h
    exact accounts_map (fun _ => rfl) (fun _ => rfl) (StreamTask.step_accounts id env.next hstep)
  | tcps spec task =>
    obtain ⟨result, hstep, rfl⟩ := Option.map_eq_some_iff.mp h
    exact accounts_map (fun _ => rfl) (fun _ => rfl) (TcpServerTask.step_accounts id hstep)
  | tcpsChild parentId filters task =>
    obtain ⟨result, hstep, rfl⟩ := Option.map_eq_some_iff.mp h
    exact accounts_map (fun _ => rfl) (fun _ => rfl) (TcpsChild.step_accounts env.next hstep)
  | udpc filters task =>
    obtain ⟨result, hstep, rfl⟩ := Option.map_eq_some_iff.mp h
    exact accounts_map (fun _ => rfl) (fun _ => rfl)
      (UdpClientTask.step_accounts id env.next hstep)
  | udps spec task =>
    obtain ⟨result, hstep, rfl⟩ := Option.map_eq_some_iff.mp h
    exact accounts_map (fun _ => rfl) (fun _ => rfl)
      (UdpServerTask.step_accounts id hsound hstep)
  | peerWriter parentId task =>
    obtain ⟨result, hstep, rfl⟩ := Option.map_eq_some_iff.mp h
    exact accounts_map (fun _ => rfl) (fun _ => rfl) (PeerWriterTask.step_accounts env.next hstep)

/-- A task stays sound. -/
theorem step_sound {turn : Turn Control} (hsound : control.Sound)
    (h : control.step env id wiring step = some turn) : turn.control.Sound := by
  cases control with
  | udps spec task =>
    obtain ⟨result, hstep, rfl⟩ := Option.map_eq_some_iff.mp h
    exact UdpServerTask.step_sound hsound hstep
  | _ =>
    obtain ⟨result, -, rfl⟩ := Option.map_eq_some_iff.mp h
    exact trivial

end Control

end MavlinkRouter
