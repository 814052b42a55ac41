import MavlinkRouter.System.Census

/-!
# Where the router's frames come from

A task forwards frames under its own id or, for `udps:`, under the id of the peer whose
datagram it is handling. In every interleaving a frame is sent by an endpoint that has been
registered as routable and not withdrawn, so the router has few reasons left not to
dispatch it.
-/

namespace MavlinkRouter

open Library (LeaseEntry execute execute_induction)
open Library.LeaseEntry (Regular Live openedIn closedIn)

/-- The frame that waits to be sent, if there is one, carries this id. -/
def Intake.SendsAs (intake : Intake) (id : EndpointId) : Prop :=
  ∀ routerFrame now, intake.reader.phase = .sending routerFrame now → routerFrame.endpointId = id

/-- At most one frame was sent, under one of these ids. -/
def Wiring.Forwards (before after : Wiring) (ids : List EndpointId) : Prop :=
  after.frames = before.frames ∨ ∃ routerFrame, routerFrame.endpointId ∈ ids ∧
    before.frames.trySend routerFrame = .ok after.frames

namespace Intake

variable {ctx : SessionCtx} {intake after : Intake} {wiring wiring' : Wiring} {id : EndpointId}

private theorem sendsAs_of_phase
    (h : ∀ routerFrame now, intake.reader.phase ≠ .sending routerFrame now)
    (id : EndpointId) : intake.SendsAs id :=
  fun routerFrame now hphase => absurd hphase (h routerFrame now)

private theorem sendsAs_new (id : EndpointId) : new.SendsAs id :=
  sendsAs_of_phase (fun _ _ => ReaderPhase.noConfusion) id

private theorem sendsAs_receive (intake : Intake) (data : List UInt8) (now : Instant)
    (id : EndpointId) : (intake.receive data now).SendsAs id :=
  sendsAs_of_phase (fun _ _ => ReaderPhase.noConfusion) id

/-- A frame that has just been read waits under the id of its endpoint. -/
theorem sendsAs_forward {index count : ℕ} {reader next : Reader} {stats stats' : EndpointStats}
    {emitted : Option Bytes} {table : MsgTable} {filters : Filters}
    (h : reader.forward table filters id index stats = some (next, stats', emitted)) :
    (⟨next, count⟩ : Intake).SendsAs id := by
  have hnone : next.frames = [] → (⟨next, count⟩ : Intake).SendsAs id := by
    intro hframes
    refine sendsAs_of_phase (fun routerFrame now hphase => ?_) id
    simp [Reader.frames, show next.phase = _ from hphase] at hframes
  rcases (Reader.forward_cases h).2 with ⟨-, hframes⟩ | ⟨frame, -, -, -, hframes | hsending⟩
  · exact hnone hframes
  · exact hnone hframes
  · obtain ⟨header, now, hphase⟩ := hsending
    intro routerFrame now' hphase'
    cases hphase.symm.trans hphase'
    rfl

/-- One step of an intake sends at most the frame that was waiting. -/
theorem advance_forwards (h : intake.advance ctx wiring = some (after, wiring'))
    (hsends : intake.SendsAs ctx.endpointId) :
    after.SendsAs ctx.endpointId ∧ wiring.Forwards wiring' [ctx.endpointId] := by
  unfold advance at h
  split at h
  case h_1 => cases h
  case h_2 =>
    obtain ⟨⟨next, stats, emitted⟩, hforward, hresult⟩ := Option.map_eq_some_iff.mp h
    cases hresult
    exact ⟨sendsAs_forward hforward, .inl rfl⟩
  case h_3 routerFrame now hphase =>
    split at h
    case h_1 frames hsend =>
      cases h
      exact ⟨sendsAs_of_phase (fun _ _ => ReaderPhase.noConfusion) _,
        .inr ⟨routerFrame, List.mem_singleton.mpr (hsends routerFrame now hphase), hsend⟩⟩
    case h_2 => cases h
    case h_3 =>
      cases h
      exact ⟨sendsAs_of_phase (fun _ _ => ReaderPhase.noConfusion) _, .inl rfl⟩
  case h_4 => cases h

end Intake

/-- One step of a session. -/
theorem SessionLoop.step_forwards {ctx : SessionCtx} {session after : SessionLoop}
    {wiring wiring' : Wiring} {step : SessionStep}
    (h : session.step ctx wiring step = some (after, wiring'))
    (hsends : session.intake.SendsAs ctx.endpointId) :
    after.intake.SendsAs ctx.endpointId ∧ wiring.Forwards wiring' [ctx.endpointId] := by
  cases SessionLoop.step_moves h with
  | forwarded hadvance => exact Intake.advance_forwards hadvance hsends
  | received data now => exact ⟨Intake.sendsAs_receive _ _ _ _, .inl rfl⟩
  | _ => exact ⟨hsends, .inl rfl⟩

namespace Control

/-- What a task has waiting to be sent carries the id it was read under. -/
def SendsAs (id : EndpointId) : Control → Prop
  | .stream _ _ (.session session) => session.intake.SendsAs id
  | .tcpsChild _ _ (.session session) => session.intake.SendsAs id
  | .udpc _ task => task.intake.SendsAs id
  | .udps _ ⟨_, .handling peer⟩ => peer.intake.SendsAs peer.childId
  | _ => True

/-- Which tasks a task can spawn: the sessions of its clients, which read with its filters, or the
writers of its peers. -/
def Spawns : Control → Control → Prop
  | .tcps spec _, .tcpsChild _ filters _ => filters = spec.identity.filters
  | .udps _ _, .peerWriter _ _ => True
  | _, _ => False

end Control

/-- What a turn does to the router's frames. -/
structure Turn.Provides (id : EndpointId) (before : Control) (wiring : Wiring)
    (turn : Turn Control) : Prop where
  sendsAs : turn.control.SendsAs id
  spawned : ∀ task ∈ turn.spawned, before.Spawns task.control ∧ task.control.SendsAs task.id
  forwards : wiring.Forwards turn.wiring (before.leaves id)

namespace Turn.Provides

variable {id : EndpointId} {before after : Control} {wiring wiring' : Wiring}

/-- A turn that only moves. -/
theorem move (hsends : after.SendsAs id) (hforwards : wiring.Forwards wiring' (before.leaves id)) :
    Provides id before wiring (.move after wiring') :=
  ⟨hsends, List.forall_mem_nil _, hforwards⟩

private theorem wait {κ : Type} {embed : κ → Control} {elapsed : Bool} {onElapsed onCancel : κ}
    {turn : Turn κ} (h : Turn.wait wiring elapsed onElapsed onCancel = some turn)
    (helapsed : (embed onElapsed).SendsAs id) (hcancel : (embed onCancel).SendsAs id) :
    Provides id before wiring (turn.map embed) := by
  unfold Turn.wait at h
  split at h
  · cases h
    exact .move helapsed (.inl rfl)
  · obtain ⟨-, hturn⟩ := Option.ite_none_right_eq_some.mp h
    cases hturn
    exact .move hcancel (.inl rfl)

private theorem drain {κ : Type} {embed : κ → Control} {count : ℕ} {again : ℕ → κ} {done : κ}
    {state : Option EndpointState} (hagain : ∀ count, (embed (again count)).SendsAs id)
    (hdone : (embed done).SendsAs id) :
    Provides id before wiring ((Turn.drain wiring count again done state).map embed) := by
  unfold Turn.drain
  split
  · rename_i hdrain
    have hwiring : _ = (wiring.drain count).2 := (congrArg Prod.snd hdrain).symm
    subst hwiring
    exact .move (hagain _) (.inl rfl)
  · rename_i hdrain
    have hwiring : _ = (wiring.drain count).2 := (congrArg Prod.snd hdrain).symm
    subst hwiring
    refine .move hdone (.inl ?_)
    cases state <;> rfl

end Turn.Provides

private theorem Wiring.forwards_sendEvent {wiring wiring' : Wiring} {event : EndpointEvent}
    {sent : Bool} (h : wiring.sendEvent event = some (sent, wiring')) (ids : List EndpointId) :
    wiring.Forwards wiring' ids := by
  cases sent with
  | true => exact .inl (Wiring.sendEvent_true h).2
  | false =>
    obtain ⟨-, rfl⟩ := Wiring.sendEvent_false h
    exact .inl rfl

section Kinds

variable {id : EndpointId} {wiring : Wiring} {step : TaskStep} {table : MsgTable}
  {filters : Filters} {env : TaskEnv}

/-- A turn of a stream task. -/
private theorem StreamTask.step_provides {kind : DialKind} {task : StreamTask}
    {turn : Turn StreamTask} (hsends : (Control.stream kind filters task).SendsAs id)
    (h : task.step kind ⟨id, filters, table⟩ wiring step = some turn) :
    (turn.map (.stream kind filters)).Provides id (.stream kind filters task) wiring := by
  unfold StreamTask.step at h
  split at h
  case h_1 =>
    split at h
    · cases h
      exact .move trivial (.inl rfl)
    · split at h <;> cases h <;> exact .move trivial (.inl rfl)
  case h_2 => cases h; split <;> exact .move trivial (.inl rfl)
  case h_3 => cases h; split <;> exact .move trivial (.inl rfl)
  case h_4 => cases h; split <;> exact .move trivial (.inl rfl)
  case h_5 =>
    split at h
    · cases h
      exact .move trivial (.inl rfl)
    · cases h
      split <;> exact .move trivial (.inl rfl)
  case h_6 => cases h; exact .move trivial (.inl rfl)
  case h_7 => exact .wait h trivial trivial
  case h_8 => cases h; exact .drain (fun _ => trivial) (Intake.sendsAs_new id)
  case h_9 =>
    obtain ⟨⟨after, wiring'⟩, hstep, hresult⟩ := Option.map_eq_some_iff.mp h
    cases hresult
    obtain ⟨hafter, hforwards⟩ := SessionLoop.step_forwards hstep hsends
    exact .move hafter hforwards
  case h_10 =>
    split at h
    · rename_i outcome _
      cases h
      cases outcome with
      | terminated => exact .move trivial (.inl rfl)
      | disconnected => cases kind <;> exact .move trivial (.inl rfl)
    · cases h
  case h_11 => cases h; exact .drain (fun _ => trivial) trivial
  case h_12 => exact .wait h trivial trivial
  case h_13 => cases h; exact .drain (fun _ => trivial) trivial
  case h_14 => cases h

/-- A turn of a client of a listener. -/
private theorem TcpsChild.step_provides {parentId : EndpointId} {task : TcpsChild}
    {turn : Turn TcpsChild} (hsends : (Control.tcpsChild parentId filters task).SendsAs id)
    (h : task.step parentId ⟨id, filters, table⟩ wiring step = some turn) :
    (turn.map (.tcpsChild parentId filters)).Provides id (.tcpsChild parentId filters task)
      wiring := by
  unfold TcpsChild.step at h
  split at h
  case h_1 =>
    obtain ⟨⟨after, wiring'⟩, hstep, hresult⟩ := Option.map_eq_some_iff.mp h
    cases hresult
    obtain ⟨hafter, hforwards⟩ := SessionLoop.step_forwards hstep hsends
    exact .move hafter hforwards
  case h_2 =>
    split at h
    · cases h
      exact .move trivial (.inl rfl)
    · cases h
  case h_3 => cases h; exact .drain (fun _ => trivial) trivial
  case h_4 =>
    obtain ⟨⟨sent, wiring'⟩, hsend, hresult⟩ := Option.map_eq_some_iff.mp h
    cases hresult
    exact .move trivial (Wiring.forwards_sendEvent hsend _)
  case h_5 => cases h

/-- A turn of a `tcps:` listener. -/
private theorem TcpServerTask.step_provides {spec : TcpServerSpec} {task : TcpServerTask}
    {turn : Turn TcpServerTask} (h : task.step env spec wiring step = some turn) :
    (turn.map (.tcps spec)).Provides id (.tcps spec task) wiring := by
  unfold TcpServerTask.step at h
  split at h
  case h_1 => cases h; exact .move trivial (.inl rfl)
  case h_2 => split at h <;> cases h <;> exact .move trivial (.inl rfl)
  case h_3 => exact .wait h trivial trivial
  case h_4 => cases h; exact .move trivial (.inl rfl)
  case h_5 => cases h; exact .move trivial (.inl rfl)
  case h_6 => cases h; exact .move trivial (.inl rfl)
  case h_7 => cases h; exact ⟨trivial, List.forall_mem_nil _, .inl rfl⟩
  case h_8 => exact .wait h trivial trivial
  case h_9 =>
    obtain ⟨⟨sent, wiring'⟩, hsend, hresult⟩ := Option.map_eq_some_iff.mp h
    cases hresult
    refine ⟨trivial, ?_, Wiring.forwards_sendEvent hsend _⟩
    cases sent with
    | true => exact List.forall_mem_singleton.mpr ⟨rfl, Intake.sendsAs_new _⟩
    | false => exact List.forall_mem_nil _
  case h_10 =>
    obtain ⟨-, hresult⟩ := Option.ite_none_right_eq_some.mp h
    cases hresult
    exact .move trivial (.inl rfl)
  case h_11 => cases h

/-- A turn of a `udpc:` task. -/
private theorem UdpClientTask.step_provides {task : UdpClientTask} {turn : Turn UdpClientTask}
    (hsends : (Control.udpc filters task).SendsAs id)
    (h : task.step ⟨id, filters, table⟩ wiring step = some turn) :
    (turn.map (.udpc filters)).Provides id (.udpc filters task) wiring := by
  have hsends : task.intake.SendsAs id := hsends
  have hmove : ∀ {phase : UdpClientPhase} {wiring' : Wiring}, wiring'.frames = wiring.frames →
      ((Turn.move (task.setPhase phase) wiring').map (.udpc filters)).Provides id
        (.udpc filters task) wiring :=
    fun hframes => .move hsends (.inl hframes)
  unfold UdpClientTask.step at h
  split at h
  · split at h
    · obtain ⟨⟨intake, wiring'⟩, hadvance, hresult⟩ := Option.map_eq_some_iff.mp h
      cases hresult
      obtain ⟨hafter, hforwards⟩ := Intake.advance_forwards hadvance hsends
      refine .move ?_ hforwards
      change (UdpClientTask.forwarded task intake).intake.SendsAs id
      unfold UdpClientTask.forwarded
      dsimp only
      split
      · exact hafter
      · exact hafter
      · exact hafter
      · exact Intake.sendsAs_of_phase (fun _ _ => ReaderPhase.noConfusion) _
    · cases h
  · unfold UdpClientTask.turn at h
    split at h
    case h_1 => cases h; exact hmove rfl
    case h_2 => cases h; exact hmove rfl
    case h_3 => split at h <;> cases h <;> exact hmove rfl
    case h_4 => exact .wait h hsends hsends
    case h_5 => cases h; exact hmove rfl
    case h_6 => cases h; exact hmove rfl
    case h_7 => cases h; exact hmove rfl
    case h_8 => cases h; exact hmove rfl
    case h_9 => cases h; exact .move (Intake.sendsAs_receive _ _ _ _) (.inl rfl)
    case h_10 => split at h <;> cases h; exact hmove rfl
    case h_11 => split at h <;> cases h <;> exact hmove rfl
    case h_12 => cases h; exact hmove (by split <;> rfl)
    case h_13 =>
      rename_i state _ _
      cases h
      exact hmove (by cases state <;> rfl)
    case h_14 => cases h; exact hmove rfl
    case h_15 => cases h; exact .drain (fun _ => hsends) hsends
    case h_16 => cases h

/-- A turn of a `udps:` listener. -/
private theorem UdpServerTask.step_provides {spec : UdpServerSpec} {task : UdpServerTask}
    {turn : Turn UdpServerTask} (hsends : (Control.udps spec task).SendsAs id)
    (h : task.step env spec wiring task.phase step = some turn) :
    (turn.map (.udps spec)).Provides id (.udps spec task) wiring := by
  obtain ⟨peers, phase⟩ := task
  dsimp only at h
  unfold UdpServerTask.step at h
  split at h
  case h_1 => cases h; split <;> exact .move trivial (.inl rfl)
  case h_2 => split at h <;> cases h <;> exact .move trivial (.inl rfl)
  case h_3 => exact .wait h trivial trivial
  case h_4 => cases h; split <;> exact .move trivial (.inl rfl)
  case h_5 => cases h; exact .move trivial (.inl rfl)
  case h_6 => cases h; exact .move trivial (.inl rfl)
  case h_7 => cases h; exact .move trivial (.inl rfl)
  case h_8 =>
    split at h
    · cases h
      exact .move (Intake.sendsAs_receive _ _ _ _) (.inl rfl)
    · cases h
      exact ⟨trivial, List.forall_mem_nil _, .inl rfl⟩
  case h_9 => exact .wait h trivial trivial
  case h_10 => cases h; exact .move trivial (.inl rfl)
  case h_11 =>
    split at h
    · cases h
      exact ⟨trivial, List.forall_mem_nil _, .inl rfl⟩
    · cases h
      exact .move trivial (.inl rfl)
  case h_12 =>
    obtain ⟨⟨sent, wiring'⟩, hsend, hresult⟩ := Option.map_eq_some_iff.mp h
    cases hresult
    exact .move trivial (Wiring.forwards_sendEvent hsend _)
  case h_13 =>
    obtain ⟨⟨sent, wiring'⟩, hsend, hresult⟩ := Option.map_eq_some_iff.mp h
    cases hresult
    have hforwards := Wiring.forwards_sendEvent hsend
    split
    · rename_i childId datagram visit _
      obtain heq | ⟨victim, -, heq⟩ :=
        admitNewPeer_eq spec visit childId datagram wiring' ⟨peers, .admitting childId datagram⟩
      · rw [heq]
        exact ⟨Intake.sendsAs_receive _ _ _ _,
          List.forall_mem_singleton.mpr ⟨trivial, trivial⟩, hforwards _⟩
      · rw [heq]
        exact ⟨trivial, List.forall_mem_nil _, hforwards _⟩
    · exact .move trivial (hforwards _)
  case h_14 =>
    obtain ⟨⟨sent, wiring'⟩, hsend, hresult⟩ := Option.map_eq_some_iff.mp h
    cases hresult
    exact ⟨Intake.sendsAs_receive _ _ _ _, List.forall_mem_singleton.mpr ⟨trivial, trivial⟩,
      Wiring.forwards_sendEvent hsend _⟩
  case h_15 =>
    obtain ⟨⟨intake, wiring'⟩, hadvance, hresult⟩ := Option.map_eq_some_iff.mp h
    cases hresult
    obtain ⟨hafter, hforwards⟩ := Intake.advance_forwards hadvance hsends
    refine .move hafter ?_
    rcases hforwards with hsame | ⟨routerFrame, hid, hsend⟩
    · exact .inl hsame
    · exact .inr ⟨routerFrame, List.mem_append_right _ hid, hsend⟩
  case h_16 =>
    split at h
    · cases h
    · cases h
      exact .move trivial (.inl rfl)
  case h_17 =>
    split at h
    · cases h
    · obtain ⟨⟨sent, wiring'⟩, hsend, hresult⟩ := Option.map_eq_some_iff.mp h
      cases hresult
      exact ⟨trivial, List.forall_mem_nil _, Wiring.forwards_sendEvent hsend _⟩
  case h_18 =>
    split at h
    · cases h
      exact .move trivial (.inl rfl)
    · cases h
  case h_19 =>
    obtain ⟨-, hresult⟩ := Option.ite_none_right_eq_some.mp h
    cases hresult
    exact .move trivial (.inl rfl)
  case h_20 => cases h

private theorem PeerWriterTask.step_provides {parentId id : EndpointId} {task : PeerWriterTask}
    {turn : Turn PeerWriterTask} (h : task.step env wiring step = some turn) :
    (turn.map (.peerWriter parentId)).Provides id (.peerWriter parentId task) wiring := by
  unfold PeerWriterTask.step at h
  split at h
  case h_1 => cases h; exact .move trivial (.inl rfl)
  case h_2 => cases h; exact .move trivial (.inl rfl)
  case h_3 => split at h <;> cases h; exact .move trivial (.inl rfl)
  case h_4 => split at h <;> cases h <;> exact .move trivial (.inl rfl)
  case h_5 => cases h; exact .drain (fun _ => trivial) trivial
  case h_6 => cases h

end Kinds

/-- Every step of a task. -/
theorem Control.step_provides {env : TaskEnv} {id : EndpointId} {wiring : Wiring}
    {control : Control} {step : TaskStep} {turn : Turn Control} (hsends : control.SendsAs id)
    (h : control.step env id wiring step = some turn) : turn.Provides id control wiring := by
  cases control with
  | stream kind filters task =>
    obtain ⟨result, hstep, rfl⟩ := Option.map_eq_some_iff.mp h
    exact StreamTask.step_provides hsends hstep
  | tcps spec task =>
    obtain ⟨result, hstep, rfl⟩ := Option.map_eq_some_iff.mp h
    exact TcpServerTask.step_provides hstep
  | tcpsChild parentId filters task =>
    obtain ⟨result, hstep, rfl⟩ := Option.map_eq_some_iff.mp h
    exact TcpsChild.step_provides hsends hstep
  | udpc filters task =>
    obtain ⟨result, hstep, rfl⟩ := Option.map_eq_some_iff.mp h
    exact UdpClientTask.step_provides hsends hstep
  | udps spec task =>
    obtain ⟨result, hstep, rfl⟩ := Option.map_eq_some_iff.mp h
    exact UdpServerTask.step_provides hsends hstep
  | peerWriter parentId task =>
    obtain ⟨result, hstep, rfl⟩ := Option.map_eq_some_iff.mp h
    exact PeerWriterTask.step_provides hstep

/-- The endpoint has been announced as one that can send and receive. -/
def Routed (events : List EndpointEvent) (id : EndpointId) : Prop :=
  ∃ event ∈ events, ∃ name payload, event.registration? = some (id, name, some payload)

namespace Routed

variable {events : List EndpointEvent} {id : EndpointId}

private theorem append_left (h : Routed events id) (later : List EndpointEvent) :
    Routed (events ++ later) id := by
  obtain ⟨event, hmem, hregistration⟩ := h
  exact ⟨event, List.mem_append_left later hmem, hregistration⟩

private theorem append_right (h : Routed events id) (earlier : List EndpointEvent) :
    Routed (earlier ++ events) id := by
  obtain ⟨event, hmem, hregistration⟩ := h
  exact ⟨event, List.mem_append_right earlier hmem, hregistration⟩

end Routed

/-- The peers and clients that a list of tasks acts for. -/
def leavesBy (tasks : List Task) : List EndpointId :=
  tasks.flatMap fun task => task.control.leaves task.id

/-- A listener stays a listener. -/
theorem Control.step_listener {env : TaskEnv} {id : EndpointId} {wiring : Wiring}
    {control : Control} {step : TaskStep} {turn : Turn Control}
    (h : control.step env id wiring step = some turn) :
    turn.control.listener id = control.listener id := by
  cases control with
  | _ =>
    obtain ⟨result, -, rfl⟩ := Option.map_eq_some_iff.mp h
    rfl

/-- The task of a peer is no listener. -/
theorem heldBy_of_peers {tasks : List Task}
    (h : ∀ task ∈ tasks, task.control.parent?.isSome = true) : heldBy tasks = leavesBy tasks := by
  refine List.flatMap_congr fun task htask => ?_
  have hparent := h task htask
  obtain ⟨id, control⟩ := task
  cases control with
  | tcpsChild parentId filters task => rfl
  | peerWriter parentId task => rfl
  | _ => cases hparent

open Control (roster) in
/-- What a task acts for after a turn it has acted for before, or has just announced. -/
theorem Turn.Accounts.announces {id next : EndpointId} {before : Control} {wiring : Wiring}
    {turn : Turn Control} (h : turn.Accounts (roster id) next before wiring)
    (hlistener : turn.control.listener id = before.listener id) :
    ∃ sent, turn.wiring.events.items = wiring.events.items ++ sent ∧
      ∀ leaf ∈ turn.control.leaves id ++ leavesBy turn.spawned,
        leaf ∈ before.leaves id ∨ Routed sent leaf := by
  have hheld : turn.held (roster id) =
      before.listener id ++ (turn.control.leaves id ++ leavesBy turn.spawned) := by
    rw [Turn.held, heldBy_of_peers h.spawnsPeers, ← hlistener, ← List.append_assoc]
    rfl
  have hbefore : (roster id).held before = before.listener id ++ before.leaves id := rfl
  have hkept : ∀ added : List EndpointId,
      (added ++ (roster id).held before).Perm (turn.held (roster id)) →
      ∀ leaf ∈ turn.control.leaves id ++ leavesBy turn.spawned,
        leaf ∈ added ∨ leaf ∈ before.leaves id := by
    intro added hperm leaf hleaf
    rw [hheld, hbefore] at hperm
    have hcancel := (List.perm_append_left_iff _).mp
      ((List.perm_append_comm_assoc _ _ _).trans hperm)
    exact List.mem_append.mp (hcancel.mem_iff.mpr hleaf)
  have hlost : ∀ removed : EndpointId,
      ((roster id).held before).Perm (removed :: turn.held (roster id)) →
      ∀ leaf ∈ turn.control.leaves id ++ leavesBy turn.spawned, leaf ∈ before.leaves id := by
    intro removed hperm leaf hleaf
    rw [hheld, hbefore] at hperm
    have hcancel := (List.perm_append_left_iff _).mp (hperm.trans List.perm_middle.symm)
    exact hcancel.mem_iff.mpr (List.mem_cons_of_mem _ hleaf)
  have hquiet : turn.wiring.events = wiring.events →
      (∀ leaf ∈ turn.control.leaves id ++ leavesBy turn.spawned, leaf ∈ before.leaves id) →
      ∃ sent, turn.wiring.events.items = wiring.events.items ++ sent ∧
        ∀ leaf ∈ turn.control.leaves id ++ leavesBy turn.spawned,
          leaf ∈ before.leaves id ∨ Routed sent leaf := by
    intro hevents hleaves
    exact ⟨[], by rw [hevents, List.append_nil], fun leaf hleaf => .inl (hleaves leaf hleaf)⟩
  have hsame : ((roster id).held before).Perm (turn.held (roster id)) →
      ∀ leaf ∈ turn.control.leaves id ++ leavesBy turn.spawned, leaf ∈ before.leaves id :=
    fun hperm leaf hleaf => (hkept [] hperm leaf hleaf).resolve_left List.not_mem_nil
  cases h with
  | quiet _ hevents _ _ hperm => exact hquiet hevents (hsame hperm)
  | reserves _ hevents _ _ hperm => exact hquiet hevents (hsame hperm)
  | discards _ _ hevents _ _ hperm => exact hquiet hevents (hsame hperm)
  | @opens opened event name payload _ hregistration hsend _ _ hperm =>
    refine ⟨[event], Library.Channel.items_of_trySend hsend, fun leaf hleaf => ?_⟩
    rcases hkept [opened] hperm leaf hleaf with hnew | hold
    · rw [List.mem_singleton.mp hnew]
      exact .inr ⟨event, List.mem_singleton_self event, name, payload, hregistration⟩
    · exact .inl hold
  | @closes closed event _ _ hsend _ _ hperm =>
    exact ⟨[event], Library.Channel.items_of_trySend hsend,
      fun leaf hleaf => .inl (hlost closed hperm leaf hleaf)⟩
  | abandons closed _ _ hevents _ _ hperm => exact hquiet hevents (hlost closed hperm)

/-- What a registration tells the router, as far as it can be read back from the entry. -/
def RegisteredEndpoint.payload? (entry : RegisteredEndpoint) : Option Routable :=
  entry.routable.map fun state => ⟨state.identity, state.endpointName⟩

private theorem RegisteredEndpoint.payload?_initial (name : String) (payload : Option Routable) :
    (initial name payload).payload? = payload := by
  cases payload <;> rfl

private theorem RegisteredEndpoint.payload?_setLearn {entry : RegisteredEndpoint}
    {state : RoutableState} (hroutable : entry.routable = some state) (learn : LearnTable) :
    (entry.setLearn state learn).payload? = entry.payload? := by
  simp [payload?, setLearn, hroutable]

/-- Where an entry after an event comes from. -/
theorem Router.lookup_handleEvent {router : Router} {event : EndpointEvent} {id : EndpointId}
    {entry : RegisteredEndpoint}
    (h : (router.handleEvent event).1.routing.lookup id = some entry) :
    event.registration? = some (id, entry.name, entry.payload?) ∨
      router.routing.lookup id = some entry := by
  have hregisters : ∀ addedId name payload,
      event.registration? = some (addedId, name, payload) →
      event.registration? = some (id, entry.name, entry.payload?) ∨
        router.routing.lookup id = some entry := by
    intro addedId name payload hregistration
    rw [(handleEvent_registers router hregistration).routing] at h
    by_cases hid : id = addedId
    · subst hid
      rw [AList.lookup_insert] at h
      cases h
      rw [RegisteredEndpoint.payload?_initial]
      exact .inl hregistration
    · rw [AList.lookup_insert_ne hid] at h
      exact .inr h
  cases event with
  | endpointAdded addedId name routable => exact hregisters addedId name routable rfl
  | peerAdded parentId childId name routable => exact hregisters childId name (some routable) rfl
  | peerRemoved parentId childId reason =>
    refine .inr ?_
    cases hentry : router.routing.lookup childId with
    | none => rwa [(handleEvent_unchanged parentId reason hentry).routing] at h
    | some removed =>
      rw [(handleEvent_unregisters parentId reason hentry).routing] at h
      by_cases hid : id = childId
      · subst hid
        rw [AList.lookup_erase] at h
        cases h
      · rwa [AList.lookup_erase_ne hid] at h

/-- A frame changes nothing about an entry but what its endpoint has learned. -/
theorem Router.Ingests.lookup_payload? {oneshot : List UInt8 → UInt64} {router : Router}
    {routerFrame : RouterFrame} {now : Instant}
    {result : SourceAdmission × Router × List Effect}
    (h : Ingests oneshot router routerFrame now result) {id : EndpointId}
    {entry : RegisteredEndpoint} (hlookup : result.2.1.routing.lookup id = some entry) :
    ∃ before, router.routing.lookup id = some before ∧ before.name = entry.name ∧
      before.payload? = entry.payload? := by
  cases h with
  | learned hentry hroutable hdedup hgroup =>
    by_cases hid : id = routerFrame.endpointId
    · subst hid
      dsimp only at hlookup
      rw [AList.lookup_insert] at hlookup
      cases hlookup
      exact ⟨_, hentry, rfl, (RegisteredEndpoint.payload?_setLearn hroutable _).symm⟩
    · dsimp only at hlookup
      rw [AList.lookup_insert_ne hid] at hlookup
      exact ⟨entry, hlookup, rfl, rfl⟩
  | _ => exact ⟨entry, hlookup, rfl, rfl⟩

/-- Where an entry after one input comes from. -/
theorem Hub.lookup_step {oneshot : List UInt8 → UInt64} {hub : Hub} {input : Input}
    {id : EndpointId} {entry : RegisteredEndpoint}
    (h : (hub.step oneshot input).router.routing.lookup id = some entry) :
    (∃ event, input.event? = some event ∧
      event.registration? = some (id, entry.name, entry.payload?)) ∨
    ∃ before, hub.router.routing.lookup id = some before ∧ before.name = entry.name ∧
      before.payload? = entry.payload? := by
  cases input with
  | event event =>
    rcases Router.lookup_handleEvent h with hregistration | hlookup
    · exact .inl ⟨event, rfl, hregistration⟩
    · exact .inr ⟨entry, hlookup, rfl, rfl⟩
  | frame visit routerFrame now =>
    have hframe : (hub.router.handleFrame oneshot visit routerFrame now).1.routing.lookup id =
      some entry := h
    rw [Router.handleFrame_fst] at hframe
    exact .inr ((Router.ingestSourceFrame_ingests oneshot _ routerFrame now).lookup_payload? hframe)
  | own id update => exact .inr ⟨entry, h, rfl, rfl⟩
  | statsTask update => exact .inr ⟨entry, h, rfl, rfl⟩

/-- The router knows an endpoint as it was registered. -/
theorem Hub.registration_of_lookup {oneshot : List UInt8 → UInt64}
    {statsEvents : Library.Channel StatsEvent} {dedupMs : UInt64} {dedupWindowCapacity : ℕ}
    {ports : Ports} (inputs : List Input) {id : EndpointId} {entry : RegisteredEndpoint}
    (h : ((start statsEvents dedupMs dedupWindowCapacity ports).run oneshot
      inputs).router.routing.lookup id = some entry) :
    ∃ event ∈ inputs.filterMap Input.event?,
      event.registration? = some (id, entry.name, entry.payload?) := by
  induction inputs using List.reverseRecOn generalizing entry with
  | nil => cases h
  | append_singleton inputs input ih =>
    rw [run_snoc] at h
    rw [List.filterMap_append]
    rcases lookup_step h with ⟨event, hinput, hregistration⟩ | ⟨before, hlookup, hname, hpayload⟩
    · refine ⟨event, List.mem_append_right _ ?_, hregistration⟩
      exact List.mem_filterMap.mpr ⟨input, List.mem_singleton_self input, hinput⟩
    · obtain ⟨event, hmem, hregistration⟩ := ih hlookup
      rw [hname, hpayload] at hregistration
      exact ⟨event, List.mem_append_left _ hmem, hregistration⟩

/-- In a regular log an id has one registration. -/
theorem registration_unique {events : List EndpointEvent}
    (h : Regular (events.map EndpointEvent.lease)) {event other : EndpointEvent}
    {id : EndpointId} {name name' : String} {payload payload' : Option Routable}
    (hevent : event ∈ events) (hother : other ∈ events)
    (hregistration : event.registration? = some (id, name, payload))
    (hregistration' : other.registration? = some (id, name', payload')) : event = other := by
  by_contra hne
  have hnodup := h.nodup_openedIn
  rw [openedIn, List.filterMap_map] at hnodup
  have hpairwise := List.pairwise_filterMap.mp hnodup
  have hsymm : Std.Symm fun event other : EndpointEvent =>
      ∀ id, (LeaseEntry.opened? ∘ EndpointEvent.lease) event = some id →
      ∀ id', (LeaseEntry.opened? ∘ EndpointEvent.lease) other = some id' → id ≠ id' :=
    ⟨fun _ _ hdistinct id hid id' hid' => (hdistinct id' hid' id hid).symm⟩
  refine hpairwise.forall hevent hother hne id ?_ id ?_ rfl
  · rw [Function.comp_apply, EndpointEvent.lease_of_registration hregistration]
    rfl
  · rw [Function.comp_apply, EndpointEvent.lease_of_registration hregistration']
    rfl

namespace TaskNet

variable {table : MsgTable} {format : AddrFormat} {oneshot : List UInt8 → UInt64}
  {net after : TaskNet} {wiring : RouterWiring} {specs : List EndpointSpec}
  {actions : List Action}

/-- Tasks act for endpoints that have been announced, and so do the frames on their way. -/
structure Sourced (net : TaskNet) : Prop where
  leaves : ∀ id ∈ leavesBy net.tasks, Routed net.loop.announced id
  sends : ∀ task ∈ net.tasks, task.control.SendsAs task.id
  waiting : ∀ routerFrame ∈ net.loop.frames.items, Routed net.loop.announced routerFrame.endpointId

/-- Nothing to account for at the start. -/
theorem sourced_start (wiring : RouterWiring) (specs : List EndpointSpec) :
    (start wiring specs).Sourced where
  leaves := List.forall_mem_nil _
  sends := List.forall_mem_nil _
  waiting := List.forall_mem_nil _

/-- The router task sends no frame. -/
theorem Sourced.setLoop (h : net.Sourced) {action : RouterLoop.Action} {loop : RouterLoop}
    (hmoves : RouterLoop.Moves oneshot net.loop action loop) (hevent : action.event? = none)
    (hframe : action.frame? = none) : (net.setLoop loop).Sourced := by
  have hannounced := hmoves.announced_eq hevent
  constructor
  case leaves =>
    intro id hid
    change Routed loop.announced id
    rw [hannounced]
    exact h.leaves id hid
  case sends => exact h.sends
  case waiting =>
    intro routerFrame hmem
    change Routed loop.announced _
    rw [hannounced]
    rcases hmoves.mem_frames hmem with hold | hsent
    · exact h.waiting routerFrame hold
    · rw [hsent] at hframe
      cases hframe

/-- A turn of a task. -/
theorem Sourced.commit (h : net.Sourced) (hkept : net.Kept) {index : ℕ} {task : Task}
    {taskStep : TaskStep} {turn : Turn Control} (htask : net.tasks[index]? = some task)
    (hturn : task.control.step (net.env table format task.id) task.id (net.wiring task.portId)
      taskStep = some turn) : (net.commit index task turn).Sourced := by
  have hmem := List.mem_of_getElem? htask
  have hprovides := Control.step_provides (h.sends task hmem) hturn
  obtain ⟨sent, hitems, hleaves⟩ := (Control.step_accounts (hkept.sound task hmem) hturn).announces
    (Control.step_listener hturn)
  have hitems : turn.wiring.events.items = net.loop.events.items ++ sent := hitems
  have hannounced : (net.commit index task turn).loop.announced = net.loop.announced ++ sent :=
    announced_of_items _ rfl hitems
  have hactsFor : ∀ id ∈ task.control.leaves task.id, Routed net.loop.announced id :=
    fun id hid => h.leaves id (List.mem_flatMap.mpr ⟨task, hmem, hid⟩)
  have hnew : ∀ id ∈ turn.control.leaves task.id ++ leavesBy turn.spawned,
      Routed (net.loop.announced ++ sent) id := by
    intro id hid
    rcases hleaves id hid with hold | hrouted
    · exact (hactsFor id hold).append_left sent
    · exact hrouted.append_right _
  constructor
  case leaves =>
    intro id hid
    rw [hannounced]
    obtain ⟨other, hother, hleaf⟩ := List.mem_flatMap.mp hid
    rcases mem_tasks_commit hother with hold | rfl | hspawned
    · exact (h.leaves id (List.mem_flatMap.mpr ⟨other, hold, hleaf⟩)).append_left sent
    · exact hnew id (List.mem_append_left _ hleaf)
    · exact hnew id (List.mem_append_right _ (List.mem_flatMap.mpr ⟨other, hspawned, hleaf⟩))
  case sends =>
    intro other hother
    rcases mem_tasks_commit hother with hold | rfl | hspawned
    · exact h.sends other hold
    · exact hprovides.sendsAs
    · exact (hprovides.spawned other hspawned).2
  case waiting =>
    intro routerFrame hwaiting
    rw [hannounced]
    have hwaiting : routerFrame ∈ turn.wiring.frames.items := hwaiting
    rcases hprovides.forwards with hsame | ⟨forwarded, hid, hsend⟩
    · rw [hsame] at hwaiting
      exact (h.waiting routerFrame hwaiting).append_left sent
    · rw [Library.Channel.items_of_trySend hsend] at hwaiting
      rcases List.mem_append.mp hwaiting with hold | hfresh
      · exact (h.waiting routerFrame hold).append_left sent
      · rw [List.mem_singleton.mp hfresh]
        exact (hactsFor _ hid).append_left sent

/-- A configured endpoint that is no listener is announced as one that can send and receive. -/
theorem spawn_leaves (spec : EndpointSpec) (id : EndpointId) :
    (∀ leaf ∈ (spec.spawn id).2.control.leaves (spec.spawn id).2.id,
      Routed [(spec.spawn id).1] leaf) ∧
      (spec.spawn id).2.control.SendsAs (spec.spawn id).2.id := by
  unfold EndpointSpec.spawn
  cases spec.kind with
  | serial endpoint =>
    exact ⟨List.forall_mem_singleton.mpr ⟨_, List.mem_singleton_self _, _, _, rfl⟩, trivial⟩
  | tcpClient endpoint =>
    exact ⟨List.forall_mem_singleton.mpr ⟨_, List.mem_singleton_self _, _, _, rfl⟩, trivial⟩
  | udpClient endpoint =>
    exact ⟨List.forall_mem_singleton.mpr ⟨_, List.mem_singleton_self _, _, _, rfl⟩,
      Intake.sendsAs_new _⟩
  | tcpServer endpoint => exact ⟨List.forall_mem_nil _, trivial⟩
  | udpServer endpoint => exact ⟨List.forall_mem_nil _, trivial⟩

/-- An endpoint is announced before its task runs. -/
private theorem Sourced.spawned (h : net.Sourced) {spec : EndpointSpec} {specs : List EndpointSpec}
    {sent : Bool} {wiring : Wiring}
    (hsend : (net.wiring ⟨net.next⟩).sendEvent (spec.spawn ⟨net.next⟩).1 = some (sent, wiring)) :
    (net.spawned spec specs (sent, wiring)).Sourced := by
  obtain ⟨hleaves, hsendsAs⟩ := spawn_leaves spec ⟨net.next⟩
  cases sent with
  | true =>
    obtain ⟨hevents, hframes⟩ := Wiring.sendEvent_true hsend
    constructor
    case leaves =>
      intro id hid
      rw [announced_spawned hevents]
      obtain ⟨task, htask, hleaf⟩ := List.mem_flatMap.mp hid
      rcases mem_tasks_spawned htask with hold | rfl
      · exact (h.leaves id (List.mem_flatMap.mpr ⟨task, hold, hleaf⟩)).append_left _
      · exact (hleaves id hleaf).append_right _
    case sends =>
      intro task htask
      rcases mem_tasks_spawned htask with hold | rfl
      · exact h.sends task hold
      · exact hsendsAs
    case waiting =>
      intro routerFrame hmem
      rw [announced_spawned hevents]
      have hmem : routerFrame ∈ wiring.frames.items := hmem
      rw [hframes] at hmem
      exact (h.waiting routerFrame hmem).append_left _
  | false =>
    obtain ⟨-, rfl⟩ := Wiring.sendEvent_false hsend
    refine ⟨?_, ?_, h.waiting⟩ <;> rw [tasks_spawned_false]
    · exact h.leaves
    · exact h.sends

/-- Every step keeps frames and tasks to announced endpoints. -/
theorem Sourced.step (h : net.Sourced) (hkept : net.Kept) {action : Action}
    (hmoves : Moves table format oneshot net action after) : after.Sourced := by
  cases hmoves with
  | looped hinner hloop =>
    obtain ⟨hevent, hframe⟩ := Action.sends_nothing hinner
    exact h.setLoop (RouterLoop.step_moves hloop) hevent hframe
  | spawned _ hsend => exact h.spawned hsend
  | turned htask hturn => exact h.commit hkept htask hturn

private theorem sourced_run
    (hrun : execute (step table format oneshot) (start wiring specs) actions = some net)
    (hcount : actions.length < 2 ^ 64) : net.Sourced :=
  (kept_induction (motive := fun _ net => net.Sourced) (sourced_start wiring specs)
    (fun _ hmoves hkept _ hsourced => hsourced.step hkept hmoves) hrun hcount).2

/-- The router task only takes frames. -/
theorem length_frames_le {action : RouterLoop.Action} {before after : RouterLoop}
    (h : RouterLoop.Moves oneshot before action after) (hframe : action.frame? = none) :
    after.frames.items.length ≤ before.frames.items.length := by
  cases h with
  | sentFrame hsend => cases hframe
  | tookFrame _ _ hrecv =>
    rw [Library.Channel.items_of_tryRecv hrecv]
    exact Nat.le_succ _
  | _ => exact le_refl _

/-- A frame enters the router's channel in a step of a task that acts for its endpoint. -/
theorem leaf_of_sent (hsourced : net.Sourced) {routerFrame : RouterFrame} {action : Action}
    (hmoves : Moves table format oneshot net action after)
    (hsent : after.loop.frames.items = net.loop.frames.items ++ [routerFrame]) :
    routerFrame.endpointId ∈ leavesBy net.tasks := by
  have hgrows : ¬ after.loop.frames.items.length ≤ net.loop.frames.items.length := by
    rw [hsent, List.length_append, List.length_singleton]
    exact Nat.not_succ_le_self _
  cases hmoves with
  | looped hinner hloop =>
    have hframe := (Action.sends_nothing hinner).2
    exact absurd (length_frames_le (RouterLoop.step_moves hloop) hframe) hgrows
  | spawned _ hsend =>
    refine absurd (le_of_eq ?_) hgrows
    rcases Wiring.forwards_sendEvent hsend [] with hsame | ⟨_, hnone, -⟩
    · exact congrArg (fun frames => frames.items.length) hsame
    · exact absurd hnone List.not_mem_nil
  | @turned _ _ task _ htask hturn =>
    have hmem := List.mem_of_getElem? htask
    rcases (Control.step_provides (hsourced.sends task hmem) hturn).forwards with
      hsame | ⟨forwarded, hid, hsend⟩
    · exact absurd (le_of_eq (congrArg (fun frames => frames.items.length) hsame)) hgrows
    · have hitems : net.loop.frames.items ++ [forwarded] = net.loop.frames.items ++ [routerFrame] :=
        (Library.Channel.items_of_trySend hsend).symm.trans hsent
      cases List.append_cancel_left hitems
      exact List.mem_flatMap.mpr ⟨task, hmem, hid⟩

/-- What tasks act for they answer for. -/
theorem heldBy_of_leavesBy {tasks : List Task} {id : EndpointId} (h : id ∈ leavesBy tasks) :
    id ∈ heldBy tasks := by
  obtain ⟨task, htask, hid⟩ := List.mem_flatMap.mp h
  exact List.mem_flatMap.mpr ⟨task, htask, List.mem_append_right _ hid⟩

/-- Provenance: in every interleaving of fewer than 2^64 steps, when a frame is put into the
router's channel, the endpoint it is attributed to has already been announced as one that can
send and receive, and its removal has not been announced. -/
theorem frames_follow_registration {action : Action} {routerFrame : RouterFrame}
    (hrun : execute (step table format oneshot) (start wiring specs) actions = some net)
    (hcount : actions.length < 2 ^ 64)
    (hstep : net.step table format oneshot action = some after)
    (hsent : after.loop.frames.items = net.loop.frames.items ++ [routerFrame]) :
    (∃ event ∈ net.loop.announced, ∃ name payload,
      event.registration? = some (routerFrame.endpointId, name, some payload)) ∧
    ∀ event ∈ net.loop.announced, event.removed? ≠ some routerFrame.endpointId := by
  have hsourced := sourced_run hrun hcount
  have hleaf := leaf_of_sent hsourced (step_moves hstep) hsent
  have hlive := (kept_run hrun hcount).custody.live (heldBy_of_leavesBy hleaf)
  refine ⟨hsourced.leaves _ hleaf, fun event hmem hremoved => hlive.2 ?_⟩
  refine List.mem_filterMap.mpr ⟨event.lease, List.mem_map_of_mem hmem, ?_⟩
  cases event with
  | peerRemoved parentId childId reason =>
    cases hremoved
    rfl
  | _ => cases hremoved

/-- A client sends a frame. -/
theorem frames_follow_registration_client :
    let table : MsgTable := ⟨[], .nil⟩
    let format : AddrFormat := ⟨fun _ => "0.0.0.0", fun _ => "::"⟩
    let first := start ⟨4, 4, .new 64, 0, 16⟩ [⟨.tcpServer ⟨.v4 0 5760, {}⟩, "gcs"⟩]
    let actions : List Action := [.spawn, .task 0 .check, .task 0 (.bind true), .task 0 .poll,
      .task 0 (.accept (some (.v4 1 5760))), .task 0 .announce, .task 1 (.session .poll),
      .task 1 (.session (.read (.received [0xFE, 0, 7, 1, 1, 0, 0, 0] 0))),
      .task 1 (.session .forward)]
    let routerFrame : RouterFrame :=
      ⟨⟨1⟩, ⟨[0xFE, 0, 7, 1, 1, 0, 0, 0], ⟨1⟩, 0⟩, ⟨.v1, ⟨1, 1⟩, 0, 7, 0, none, none⟩⟩
    ∃ net after, execute (step table format fun _ => 0) first actions = some net ∧
      net.step table format (fun _ => 0) (.task 1 (.session .forward)) = some after ∧
      after.loop.frames.items = net.loop.frames.items ++ [routerFrame] ∧
      (∃ event ∈ net.loop.announced, ∃ name payload,
        event.registration? = some (routerFrame.endpointId, name, some payload)) ∧
      ∀ event ∈ net.loop.announced, event.removed? ≠ some routerFrame.endpointId := by
  intro table format first actions routerFrame
  have heval : ((execute (step table format fun _ => 0) first actions).bind fun net =>
      (net.step table format (fun _ => 0) (.task 1 (.session .forward))).map fun after =>
        (net.loop.frames.items, after.loop.frames.items)) =
      some ([], [routerFrame]) := by decide +kernel
  obtain ⟨net, hrun, hnext⟩ := Option.bind_eq_some_iff.mp heval
  obtain ⟨after, hstep, hitems⟩ := Option.map_eq_some_iff.mp hnext
  obtain ⟨hbefore, hafter⟩ := Prod.mk.inj hitems
  have hsent : after.loop.frames.items = net.loop.frames.items ++ [routerFrame] := by
    rw [hbefore, hafter]
    rfl
  exact ⟨net, after, hrun, hstep, hsent,
    frames_follow_registration hrun (by decide) hstep hsent⟩

/-- The learn tables of a running router are those of the groups of its endpoints. -/
theorem groupsCounted_run
    (hrun : execute (step table format oneshot) (start wiring specs) actions = some net)
    (hcount : actions.length < 2 ^ 64) (hrunning : net.loop.phase.isRunning = true) :
    net.loop.router.GroupsCounted := by
  have horderly : Monitor.Orderly net.inputs := by
    refine orderly_of_regular ?_
    rw [events_inputs]
    exact (kept_run hrun hcount).custody.regular
  have hreuse : NoReuse (net.loop.handled ++ net.loop.events.items.map .event) := horderly.added
  rw [(follows_run hrun).router hrunning]
  exact (accounted_run oneshot _ _ _ _ hreuse.of_append).groups

/-- A running router can route for an endpoint it knows if the registration says so. -/
theorem routable_of_lookup {id : EndpointId} {entry : RegisteredEndpoint}
    (hrun : execute (step table format oneshot) (start wiring specs) actions = some net)
    (hcount : actions.length < 2 ^ 64) (hrunning : net.loop.phase.isRunning = true)
    (hrouted : Routed net.loop.announced id)
    (hentry : net.loop.router.routing.lookup id = some entry) :
    ∃ state, net.loop.router.routable? id = some state := by
  obtain ⟨event, hmem, name, payload, hregistration⟩ := hrouted
  have hlookup := hentry
  rw [(follows_run hrun).router hrunning] at hlookup
  obtain ⟨other, hother, hregistration'⟩ := Hub.registration_of_lookup _ hlookup
  have hsame : event = other :=
    registration_unique (kept_run hrun hcount).custody.regular hmem
      (List.mem_append_left _ hother) hregistration hregistration'
  rw [← hsame, hregistration] at hregistration'
  have hpayload : some payload = entry.payload? :=
    congrArg (fun registration => registration.2.2) (Option.some.inj hregistration')
  obtain ⟨state, hstate, -⟩ := Option.map_eq_some_iff.mp hpayload.symm
  exact ⟨state, Router.routable?_eq_some.mpr ⟨entry, hentry, hstate⟩⟩

/-- A running router does not know an announced endpoint only because it has been removed or its
registration still waits. -/
theorem waits_or_removed {id : EndpointId}
    (hrun : execute (step table format oneshot) (start wiring specs) actions = some net)
    (hrunning : net.loop.phase.isRunning = true) (hrouted : Routed net.loop.announced id)
    (hunknown : net.loop.router.routing.lookup id = none) :
    (∃ input ∈ net.loop.handled, input.removed? = some id) ∨
      ∃ event ∈ net.loop.events.items, event.added? = some id := by
  obtain ⟨event, hmem, name, payload, hregistration⟩ := hrouted
  have hadded : event.added? = some id := congrArg (Option.map Prod.fst) hregistration
  rcases List.mem_append.mp hmem with hhandled | hqueued
  · left
    by_contra hremoved
    push Not at hremoved
    obtain ⟨input, hinput, hevent⟩ := List.mem_filterMap.mp hhandled
    cases input with
    | event lifecycle =>
      cases hevent
      have hknown := (lookup_isSome hrun hrunning id).mpr
        (registeredIn_of_mem hinput hadded hremoved)
      rw [hunknown] at hknown
      cases hknown
    | _ => cases hevent
  · exact .inr ⟨event, hqueued, hadded⟩

/-- Few reasons not to dispatch: in every run of fewer than 2^64 steps, a frame that waits for the
router before its final sweep is suppressed only as a duplicate, its endpoint being registered as
one that can send, or because the router does not know its endpoint, whose removal it has handled
or whose registration still waits. In particular it is never taken for a frame of a listener, and
the learn table of its group is never missing. -/
theorem reasons_to_suppress {routerFrame : RouterFrame}
    (hrun : execute (step table format oneshot) (start wiring specs) actions = some net)
    (hcount : actions.length < 2 ^ 64) (hrunning : net.loop.phase.isRunning = true)
    (hwaiting : routerFrame ∈ net.loop.frames.items) (now : Instant)
    (hsuppressed : (net.loop.router.ingestSourceFrame oneshot routerFrame now).1 = .suppressed) :
    (∃ state, net.loop.router.routable? routerFrame.endpointId = some state ∧
      (net.loop.router.dedup.checkAndInsert oneshot routerFrame.frame now).1 = true) ∨
    net.loop.router.routing.lookup routerFrame.endpointId = none ∧
      ((∃ input ∈ net.loop.handled, input.removed? = some routerFrame.endpointId) ∨
        ∃ event ∈ net.loop.events.items, event.added? = some routerFrame.endpointId) := by
  have hrouted := (sourced_run hrun hcount).waiting routerFrame hwaiting
  cases hlookup : net.loop.router.routing.lookup routerFrame.endpointId with
  | none => exact .inr ⟨rfl, waits_or_removed hrun hrunning hrouted hlookup⟩
  | some entry =>
    obtain ⟨state, hstate⟩ := routable_of_lookup hrun hcount hrunning hrouted hlookup
    refine .inl ⟨state, hstate, ?_⟩
    by_contra hnew
    have hadmitted := (groupsCounted_run hrun hcount hrunning).ingest_admitted hstate
      (Bool.eq_false_of_not_eq_true hnew)
    rw [hsuppressed] at hadmitted
    cases hadmitted

/-- A client whose registration still waits. -/
theorem reasons_to_suppress_client :
    let table : MsgTable := ⟨[], .nil⟩
    let format : AddrFormat := ⟨fun _ => "0.0.0.0", fun _ => "::"⟩
    let first := start ⟨4, 4, .new 64, 0, 16⟩ [⟨.tcpServer ⟨.v4 0 5760, {}⟩, "gcs"⟩]
    let actions : List Action := [.spawn, .task 0 .check, .task 0 (.bind true), .task 0 .poll,
      .task 0 (.accept (some (.v4 1 5760))), .task 0 .announce, .task 1 (.session .poll),
      .task 1 (.session (.read (.received [0xFE, 0, 7, 1, 1, 0, 0, 0] 0))),
      .task 1 (.session .forward), .task 1 (.session .forward)]
    ∃ net routerFrame, execute (step table format fun _ => 0) first actions = some net ∧
      net.loop.phase.isRunning = true ∧ routerFrame ∈ net.loop.frames.items ∧
      (net.loop.router.ingestSourceFrame (fun _ => 0) routerFrame 0).1 = .suppressed ∧
      ((∃ state, net.loop.router.routable? routerFrame.endpointId = some state ∧
        (net.loop.router.dedup.checkAndInsert (fun _ => 0) routerFrame.frame 0).1 = true) ∨
      net.loop.router.routing.lookup routerFrame.endpointId = none ∧
        ((∃ input ∈ net.loop.handled, input.removed? = some routerFrame.endpointId) ∨
          ∃ event ∈ net.loop.events.items, event.added? = some routerFrame.endpointId)) := by
  intro table format first actions
  have heval : ((execute (step table format fun _ => 0) first actions).bind fun net =>
      net.loop.frames.items.head?.map fun routerFrame =>
        (net.loop.phase.isRunning,
          (net.loop.router.ingestSourceFrame (fun _ => 0) routerFrame 0).1)) =
      some (true, .suppressed) := by decide +kernel
  obtain ⟨net, hrun, hhead⟩ := Option.bind_eq_some_iff.mp heval
  obtain ⟨routerFrame, hfirst, hfacts⟩ := Option.map_eq_some_iff.mp hhead
  obtain ⟨hrunning, hsuppressed⟩ := Prod.mk.inj hfacts
  have hwaiting := List.mem_of_mem_head? hfirst
  exact ⟨net, routerFrame, hrun, hrunning, hwaiting, hsuppressed,
    reasons_to_suppress hrun (by decide) hrunning hwaiting 0 hsuppressed⟩

end TaskNet

end MavlinkRouter
