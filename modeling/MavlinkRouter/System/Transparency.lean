import MavlinkRouter.System.Network

/-!
# Transparency and order from end to end

Every queue between the framer of one endpoint and the wire of another holds part of the
sequence the framer emitted. The parts, read from the wire backwards, are one subsequence
of it: a step moves a frame to the next part, drops it, or appends the next emitted frame.
-/

namespace MavlinkRouter

namespace RouterLoop

/-- The steps of the router task and of the tasks that announce endpoints; they neither send
frames nor touch queues on their own. -/
def Action.isRouting : Action → Bool
  | .sendEvent _ => true
  | .sendFrame _ => false
  | .cancel => true
  | .own _ _ => false
  | .statsTask _ => true
  | .poll _ _ => true
  | .perform => true

/-- The frames on their way to an endpoint: in its queue or still to be pushed there. -/
def toward (loop : RouterLoop) (dest : EndpointId) : List Bytes :=
  (loop.ports dest).txQueue.frames ++ pushesTo dest loop.pending

/-- The frames in the router's channel. -/
def queued (loop : RouterLoop) : List Bytes :=
  loop.frames.items.map RouterFrame.frame

variable {oneshot : List UInt8 → UInt64} {before after : RouterLoop} {action : Action}

/-- The router task hands frames on in order. -/
theorem Moves.carried_sublist (h : Moves oneshot before action after)
    (hrouting : action.isRouting = true) (dest : EndpointId) :
    (after.toward dest ++ after.queued).Sublist (before.toward dest ++ before.queued) := by
  cases h with
  | sentFrame hsend => cases hrouting
  | owned id update => cases hrouting
  | performed hpending =>
    rw [toward, toward, hpending]
    exact (before.ports.apply_sublist _ _ dest).append (List.Sublist.refl _)
  | tookEvent hpending hrunning hphase hrecv =>
    simp only [toward, handle, hpending, Router.pushesTo_handleEvent]
    exact List.Sublist.refl _
  | @tookFrame visit now routerFrame frames hpending hphase hrecv =>
    have hitems := Library.Channel.items_of_tryRecv hrecv
    simp only [toward, queued, handle, hpending, hitems, List.map_cons, List.append_assoc]
    refine (List.Sublist.refl _).append ?_
    rcases Router.pushesTo_handleFrame oneshot before.router visit routerFrame now dest with
      hnone | ⟨hpushed, -⟩
    · rw [hnone]
      exact List.sublist_cons_self _ _
    · rw [hpushed]
      exact List.Sublist.refl _
  | swept hpending =>
    simp only [toward, hpending, Router.pushesTo_shutdownSweep]
    exact List.Sublist.refl _
  | _ => exact List.Sublist.refl _

/-- What is on its way to an endpoint was so before or is a frame of another endpoint. -/
theorem Moves.toward_of_mem (h : Moves oneshot before action after)
    (hrouting : action.isRouting = true) {dest : EndpointId} {frame : Bytes}
    (hmem : frame ∈ after.toward dest) :
    frame ∈ before.toward dest ∨
      ∃ routerFrame ∈ before.frames.items, routerFrame.frame = frame ∧
        dest ≠ routerFrame.endpointId := by
  cases h with
  | sentFrame hsend => cases hrouting
  | owned id update => cases hrouting
  | performed hpending =>
    rw [toward, hpending]
    exact .inl ((before.ports.apply_sublist _ _ dest).subset hmem)
  | tookEvent hpending hrunning hphase hrecv =>
    simp only [toward, handle, Router.pushesTo_handleEvent, List.append_nil] at hmem
    exact .inl (List.mem_append_left _ hmem)
  | @tookFrame visit now routerFrame frames hpending hphase hrecv =>
    have hitems := Library.Channel.items_of_tryRecv hrecv
    simp only [toward, handle] at hmem
    rcases Router.pushesTo_handleFrame oneshot before.router visit routerFrame now dest with
      hnone | ⟨hpushed, srcEndpointName, hreceives⟩
    · rw [hnone, List.append_nil] at hmem
      exact .inl (List.mem_append_left _ hmem)
    · rw [hpushed] at hmem
      rcases List.mem_append.mp hmem with hmem | hmem
      · exact .inl (List.mem_append_left _ hmem)
      · refine .inr ⟨routerFrame, by simp [hitems], ?_, hreceives.1⟩
        exact (List.mem_singleton.mp hmem).symm
  | swept hpending =>
    simp only [toward, Router.pushesTo_shutdownSweep, List.append_nil] at hmem
    exact .inl (List.mem_append_left _ hmem)
  | _ => exact .inl hmem

/-- The router task only takes frames out of its channel. -/
theorem Moves.frames_subset (h : Moves oneshot before action after)
    (hrouting : action.isRouting = true) : after.frames.items ⊆ before.frames.items := by
  cases h with
  | sentFrame hsend => cases hrouting
  | tookFrame hpending hphase hrecv =>
    rw [Library.Channel.items_of_tryRecv hrecv]
    exact List.subset_cons_self _ _
  | _ => exact List.Subset.refl _

end RouterLoop

namespace System

variable {table : MsgTable} {filters : EndpointId → Filters} {oneshot : List UInt8 → UInt64}
  {before after : System}

/-- Everything one step can do. -/
inductive Moves (table : MsgTable) (filters : EndpointId → Filters)
    (oneshot : List UInt8 → UInt64) (before : System) : System → Prop
  | routed {action : RouterLoop.Action} {loop : RouterLoop} (hrouting : action.isRouting = true)
      (hstep : before.loop.step oneshot action = some loop) :
    Moves table filters oneshot before { before with loop := loop }
  | published (id : EndpointId) (state : EndpointState) :
    Moves table filters oneshot before
      (before.setStats id ((before.loop.ports id).stats.storeState state))
  | read (id : EndpointId) {reader : Reader} (hframes : reader.frames = []) :
    Moves table filters oneshot before (before.setLink id ((before.links id).read reader))
  | forwarded (id : EndpointId) {result : Reader × EndpointStats × Option Bytes}
      (hforward : (before.links id).reader.forward table (filters id) id
        (before.links id).emitted.length (before.loop.ports id).stats = some result) :
    Moves table filters oneshot before
      ((before.setStats id result.2.1).setLink id
        ((before.links id).emit result.1 result.2.2))
  | sent (id : EndpointId) {routerFrame : RouterFrame} {now : Instant}
      {frames : Library.Channel RouterFrame}
      (hphase : (before.links id).reader.phase = .sending routerFrame now)
      (hsend : before.loop.frames.trySend routerFrame = .ok frames) :
    Moves table filters oneshot before
      ((before.setFrames frames).setLink id
        ((before.links id).read ((before.links id).reader.setPhase (.forwarding now))))
  | wrote (id : EndpointId) {step : WriterStep} {result : Writer × Port × Option Written}
      (hstep : (before.links id).writer.step (before.loop.ports id) step = some result) :
    Moves table filters oneshot before
      ((before.setPort id result.2.1).setLink id
        ((before.links id).write result.1 result.2.2))

private theorem routerStep_moves {action : RouterLoop.Action} (hrouting : action.isRouting = true)
    (h : before.routerStep oneshot action = some after) :
    Moves table filters oneshot before after := by
  obtain ⟨loop, hloop, rfl⟩ := Option.map_eq_some_iff.mp h
  exact .routed hrouting hloop

/-- What a step of a reader is to the system. -/
private theorem readerStep_moves {id : EndpointId} {step : ReaderStep}
    (h : before.readerStep table filters id step = some after) :
    Moves table filters oneshot before after := by
  cases step with
  | receive data now =>
    obtain ⟨reader, hreceive, rfl⟩ := Option.map_eq_some_iff.mp h
    refine .read id ?_
    unfold Reader.receive at hreceive
    split at hreceive
    · cases hreceive
      rfl
    · cases hreceive
    · cases hreceive
    · cases hreceive
  | forward =>
    obtain ⟨result, hforward, rfl⟩ := Option.map_eq_some_iff.mp h
    exact .forwarded id hforward
  | send =>
    simp only [readerStep] at h
    split at h
    · rename_i hphase
      split at h
      · rename_i hsend
        cases h
        exact .sent id hphase hsend
      · cases h
      · cases h
        exact .read id rfl
    · cases h
    · cases h
    · cases h
  | restart =>
    simp only [readerStep] at h
    split at h
    · cases h
      exact .read id rfl
    · cases h
    · cases h
    · cases h

/-- Every step is one of these. -/
theorem step_moves {action : Action} (h : before.step table filters oneshot action = some after) :
    Moves table filters oneshot before after := by
  cases action with
  | sendEvent event => exact routerStep_moves rfl h
  | cancel => exact routerStep_moves rfl h
  | statsTask update => exact routerStep_moves rfl h
  | poll visit now => exact routerStep_moves rfl h
  | perform => exact routerStep_moves rfl h
  | storeState id state =>
    cases h
    exact .published id state
  | reader id step => exact readerStep_moves h
  | writer id step =>
    obtain ⟨result, hstep, rfl⟩ := Option.map_eq_some_iff.mp h
    exact .wrote id hstep

/-- The frames that have left the router's channel for an endpoint, the oldest first: those
on its wire, the one its writer holds, and those on their way to it. -/
def downstream (system : System) (dest : EndpointId) : List Bytes :=
  (system.links dest).written.map Written.frame ++ (system.links dest).writer.frames ++
    system.loop.toward dest

/-- The frames of `src` between its framer and the wire of `dest`, the oldest first. -/
def pipe (system : System) (src dest : EndpointId) : List Bytes :=
  (system.downstream dest ++ system.loop.queued ++ (system.links src).reader.frames).filter
    fun frame => frame.origin = src

section

variable {system : System} {id : EndpointId}

/-- Setting one link keeps the others. -/
theorem links_setLink (system : System) (id : EndpointId) (link : Link) (other : EndpointId) :
    (system.setLink id link).links other = if other = id then link else system.links other :=
  Function.update_apply system.links id link other

private theorem emitted_setLink (system : System) (id : EndpointId) (link : Link)
    (hemitted : link.emitted = (system.links id).emitted) (src : EndpointId) :
    ((system.setLink id link).links src).emitted = (system.links src).emitted := by
  rw [links_setLink]
  by_cases hsrc : src = id
  · rw [if_pos hsrc, hemitted, hsrc]
  · rw [if_neg hsrc]

private theorem emitted_read (system : System) (id : EndpointId) (reader : Reader)
    (src : EndpointId) :
    ((system.setLink id ((system.links id).read reader)).links src).emitted =
      (system.links src).emitted :=
  emitted_setLink system id ((system.links id).read reader) rfl src

/-- A writer emits nothing. -/
theorem emitted_write (system : System) (id : EndpointId) (writer : Writer)
    (frame : Option Written) (src : EndpointId) :
    ((system.setLink id ((system.links id).write writer frame)).links src).emitted =
      (system.links src).emitted :=
  emitted_setLink system id ((system.links id).write writer frame) rfl src

/-- A step that only counts changes nothing downstream. -/
theorem downstream_setStats (system : System) (id : EndpointId) (stats : EndpointStats)
    (dest : EndpointId) : (system.setStats id stats).downstream dest = system.downstream dest := by
  have htoward : (system.setStats id stats).loop.toward dest = system.loop.toward dest := by
    unfold RouterLoop.toward setStats setPort
    by_cases hdest : dest = id
    · subst hdest
      simp only [Function.update_self]
    · simp only [Function.update_of_ne hdest]
  unfold downstream
  rw [htoward]
  rfl

/-- A step of a reader changes nothing downstream. -/
theorem downstream_setLink (system : System) (id : EndpointId) (link : Link)
    (hwriter : link.writer = (system.links id).writer)
    (hwritten : link.written = (system.links id).written) (dest : EndpointId) :
    (system.setLink id link).downstream dest = system.downstream dest := by
  unfold downstream
  rw [links_setLink]
  by_cases hdest : dest = id
  · subst hdest
    rw [if_pos rfl, hwriter, hwritten]
    rfl
  · rw [if_neg hdest]
    rfl

private theorem downstream_read (system : System) (id : EndpointId) (reader : Reader)
    (dest : EndpointId) :
    (system.setLink id ((system.links id).read reader)).downstream dest =
      system.downstream dest :=
  downstream_setLink system id ((system.links id).read reader) rfl rfl dest

private theorem downstream_emit (system : System) (id : EndpointId) (stats : EndpointStats)
    (reader : Reader) (frame : Option Bytes) (dest : EndpointId) :
    ((system.setStats id stats).setLink id ((system.links id).emit reader frame)).downstream dest =
      system.downstream dest := by
  have hlink := downstream_setLink (system.setStats id stats) id
    ((system.links id).emit reader frame) rfl rfl dest
  rw [hlink, downstream_setStats]

private theorem downstream_send (system : System) (id : EndpointId)
    (frames : Library.Channel RouterFrame) (reader : Reader) (dest : EndpointId) :
    ((system.setFrames frames).setLink id ((system.links id).read reader)).downstream dest =
      system.downstream dest :=
  downstream_setLink (system.setFrames frames) id ((system.links id).read reader) rfl rfl dest

/-- A writer hands its frames on in order and leaves the other endpoints alone. -/
theorem downstream_write {step : WriterStep} {result : Writer × Port × Option Written}
    (hstep : (system.links id).writer.step (system.loop.ports id) step = some result)
    (dest : EndpointId) :
    (((system.setPort id result.2.1).setLink id
      ((system.links id).write result.1 result.2.2)).downstream dest).Sublist
      (system.downstream dest) := by
  unfold downstream
  rw [links_setLink]
  by_cases hdest : dest = id
  · subst hdest
    have hqueue : (system.setPort dest result.2.1).loop.toward dest =
        result.2.1.txQueue.frames ++ pushesTo dest system.loop.pending := by
      simp [setPort, RouterLoop.toward]
    have hsublist := (Writer.step_sublist hstep).append
      (List.Sublist.refl (pushesTo dest system.loop.pending))
    have hwritten := (List.Sublist.refl ((system.links dest).written.map Written.frame)).append
      hsublist
    simp only [if_true, setLink, hqueue, Link.write]
    simpa [RouterLoop.toward] using hwritten
  · have htoward : (system.setPort id result.2.1).loop.toward dest = system.loop.toward dest := by
      simp [setPort, RouterLoop.toward, Function.update_of_ne hdest]
    rw [if_neg hdest]
    simp only [setLink, htoward]
    exact List.Sublist.refl _

end

/-- What is known of the frames in the system: which endpoint each belongs to, that none is
on its way back to its own endpoint, and that all queues together keep the order in which
the framers emitted them. -/
structure Faithful (system : System) : Prop where
  queued : ∀ routerFrame ∈ system.loop.frames.items,
    routerFrame.frame.origin = routerFrame.endpointId
  sending : ∀ id routerFrame now, (system.links id).reader.phase = .sending routerFrame now →
    routerFrame.endpointId = id ∧ routerFrame.frame.origin = id
  origin : ∀ id, ∀ frame ∈ (system.links id).emitted, frame.origin = id
  numbered : ∀ id, (system.links id).emitted.map Bytes.index =
    List.range (system.links id).emitted.length
  foreign : ∀ dest, ∀ frame ∈ system.downstream dest, frame.origin ≠ dest
  ordered : ∀ src dest, (system.pipe src dest).Sublist (system.links src).emitted

section

variable {id : EndpointId}

/-- The router task moves the frames in the pipe on or drops them. -/
theorem pipe_routed {action : RouterLoop.Action} {loop : RouterLoop}
    (hrouting : action.isRouting = true) (hstep : before.loop.step oneshot action = some loop)
    (src dest : EndpointId) :
    (pipe { before with loop := loop } src dest).Sublist (before.pipe src dest) := by
  refine List.Sublist.filter _ (List.Sublist.append ?_ (List.Sublist.refl _))
  have hcarried := (RouterLoop.step_moves hstep).carried_sublist hrouting dest
  have hsublist := (List.Sublist.refl ((before.links dest).written.map Written.frame ++
    (before.links dest).writer.frames)).append hcarried
  simpa [downstream] using hsublist

/-- A reader that holds no frame adds none. -/
theorem pipe_read {reader : Reader} (hframes : reader.frames = []) (src dest : EndpointId) :
    ((before.setLink id ((before.links id).read reader)).pipe src dest).Sublist
      (before.pipe src dest) := by
  rw [pipe, downstream_read, links_setLink]
  refine List.Sublist.filter _ (List.Sublist.append (List.Sublist.refl _) ?_)
  split
  · rw [Link.read, hframes]
    exact List.nil_sublist _
  · exact List.Sublist.refl _

/-- What a framer emits enters the pipe at its end or, if it is filtered, not at all. -/
theorem pipe_emit (h : Faithful before) {result : Reader × EndpointStats × Option Bytes}
    (hforward : (before.links id).reader.forward table (filters id) id
      (before.links id).emitted.length (before.loop.ports id).stats = some result)
    (src dest : EndpointId) :
    (((before.setStats id result.2.1).setLink id
      ((before.links id).emit result.1 result.2.2)).pipe src dest).Sublist
      (((before.setStats id result.2.1).setLink id
        ((before.links id).emit result.1 result.2.2)).links src).emitted := by
  obtain ⟨hempty, hresult⟩ := Reader.forward_cases hforward
  rw [pipe, downstream_emit, links_setLink]
  by_cases hsrc : src = id
  · subst hsrc
    have hordered := h.ordered src dest
    rw [pipe, hempty, List.append_nil] at hordered
    rw [if_pos rfl, List.filter_append]
    refine hordered.append ?_
    rcases hresult with ⟨-, hnone⟩ | ⟨frame, hframe, -, -, hnone | ⟨header, now, hsending⟩⟩
    · rw [Link.emit, hnone]
      exact List.nil_sublist _
    · rw [Link.emit, hnone]
      exact List.nil_sublist _
    · have hframes : result.1.frames = [frame] := by
        rw [Reader.frames, hsending]
      rw [Link.emit, hframes, hframe]
      exact List.filter_sublist
  · rw [if_neg hsrc]
    exact h.ordered src dest

/-- A send moves the frame from the reader to the end of the channel; the frames of other
endpoints are not affected. -/
theorem pipe_send (h : Faithful before) {routerFrame : RouterFrame} {now : Instant}
    {frames : Library.Channel RouterFrame}
    (hphase : (before.links id).reader.phase = .sending routerFrame now)
    (hsend : before.loop.frames.trySend routerFrame = .ok frames) (src dest : EndpointId) :
    (((before.setFrames frames).setLink id
      ((before.links id).read ((before.links id).reader.setPhase (.forwarding now)))).pipe src
        dest).Sublist (before.pipe src dest) := by
  obtain ⟨-, horigin⟩ := h.sending id routerFrame now hphase
  have hqueued : (before.setFrames frames).loop.queued =
      before.loop.queued ++ [routerFrame.frame] := by
    simp [setFrames, RouterLoop.queued, Library.Channel.items_of_trySend hsend]
  have hloop : ∀ link, ((before.setFrames frames).setLink id link).loop =
      (before.setFrames frames).loop := fun _ => rfl
  rw [pipe, downstream_send, hloop, hqueued, links_setLink, pipe]
  by_cases hsrc : src = id
  · subst hsrc
    have hframes : (before.links src).reader.frames = [routerFrame.frame] := by
      rw [Reader.frames, hphase]
    have hidle : ((before.links src).read
        ((before.links src).reader.setPhase (.forwarding now))).reader.frames = [] := rfl
    rw [if_pos rfl, hframes, hidle, List.append_nil, ← List.append_assoc]
  · have hother : [routerFrame.frame].filter (fun frame => frame.origin = src) = [] := by
      simp [horigin, Ne.symm hsrc]
    rw [if_neg hsrc]
    simp only [List.filter_append, hother, List.append_nil]
    exact List.Sublist.refl _

/-- A writer moves the frames in the pipe on or drops them. -/
theorem pipe_write {step : WriterStep} {result : Writer × Port × Option Written}
    (hstep : (before.links id).writer.step (before.loop.ports id) step = some result)
    (src dest : EndpointId) :
    (((before.setPort id result.2.1).setLink id
      ((before.links id).write result.1 result.2.2)).pipe src dest).Sublist
      (before.pipe src dest) := by
  have hreader : (((before.setPort id result.2.1).setLink id
      ((before.links id).write result.1 result.2.2)).links src).reader =
      (before.links src).reader := by
    rw [links_setLink]
    by_cases hsrc : src = id
    · rw [if_pos hsrc, hsrc]
      rfl
    · rw [if_neg hsrc]
      rfl
  rw [pipe, hreader]
  refine List.Sublist.filter _ (List.Sublist.append ?_ (List.Sublist.refl _))
  exact (downstream_write hstep dest).append (List.Sublist.refl _)

end

namespace Moves

/-- Frames in the channel are stamped with the endpoint they come from. -/
theorem queued (hmoves : Moves table filters oneshot before after) (h : Faithful before) :
    ∀ routerFrame ∈ after.loop.frames.items,
      routerFrame.frame.origin = routerFrame.endpointId := by
  cases hmoves with
  | routed hrouting hstep =>
    intro routerFrame hmem
    exact h.queued routerFrame ((RouterLoop.step_moves hstep).frames_subset hrouting hmem)
  | @sent id routerFrame now frames hphase hsend =>
    intro other hmem
    have hitems : other ∈ before.loop.frames.items ++ [routerFrame] := by
      rw [← Library.Channel.items_of_trySend hsend]
      exact hmem
    rcases List.mem_append.mp hitems with hmem | hmem
    · exact h.queued other hmem
    · obtain rfl := List.mem_singleton.mp hmem
      obtain ⟨hid, horigin⟩ := h.sending id other now hphase
      rw [hid, horigin]
  | _ => exact h.queued

/-- A reader sends frames of its own endpoint. -/
theorem sending (hmoves : Moves table filters oneshot before after) (h : Faithful before)
    (other : EndpointId) (routerFrame : RouterFrame) (time : Instant)
    (hphase : (after.links other).reader.phase = .sending routerFrame time) :
    routerFrame.endpointId = other ∧ routerFrame.frame.origin = other := by
  have hkept : (after.links other).reader = (before.links other).reader →
      routerFrame.endpointId = other ∧ routerFrame.frame.origin = other := by
    intro hreader
    rw [hreader] at hphase
    exact h.sending other routerFrame time hphase
  have hsilent : ∀ reader : Reader, reader.frames = [] →
      reader.phase ≠ .sending routerFrame time := by
    intro reader hframes hsending
    rw [Reader.frames, hsending] at hframes
    cases hframes
  cases hmoves with
  | routed hrouting hstep => exact hkept rfl
  | published id state => exact hkept rfl
  | @read id reader hframes =>
    rw [links_setLink] at hphase hkept
    by_cases hid : other = id
    · rw [if_pos hid] at hphase
      exact absurd hphase (hsilent reader hframes)
    · exact hkept (by rw [if_neg hid])
  | @forwarded id result hforward =>
    rw [links_setLink] at hphase hkept
    by_cases hid : other = id
    · subst hid
      rw [if_pos rfl] at hphase
      obtain ⟨-, ⟨-, hnone⟩ | ⟨frame, -, horigin, -, hnone | ⟨header, now, hsending⟩⟩⟩ :=
        Reader.forward_cases hforward
      · exact absurd hphase (hsilent result.1 hnone)
      · exact absurd hphase (hsilent result.1 hnone)
      · obtain ⟨rfl, -⟩ := ReaderPhase.sending.inj (hsending.symm.trans hphase)
        exact ⟨rfl, horigin⟩
    · rw [if_neg hid] at hkept
      exact hkept rfl
  | @sent id sentFrame now frames hsending hsend =>
    rw [links_setLink] at hphase hkept
    by_cases hid : other = id
    · rw [if_pos hid] at hphase
      cases hphase
    · rw [if_neg hid] at hkept
      exact hkept rfl
  | @wrote id step result hstep =>
    rw [links_setLink] at hkept
    by_cases hid : other = id
    · subst hid
      rw [if_pos rfl] at hkept
      exact hkept rfl
    · rw [if_neg hid] at hkept
      exact hkept rfl

/-- Only a framer adds to the frames emitted, and it numbers them. -/
theorem emitted (hmoves : Moves table filters oneshot before after) (src : EndpointId) :
    (after.links src).emitted = (before.links src).emitted ∨
      ∃ frame : Bytes, (after.links src).emitted = (before.links src).emitted ++ [frame] ∧
        frame.origin = src ∧ frame.index = (before.links src).emitted.length := by
  cases hmoves with
  | routed hrouting hstep => exact .inl rfl
  | published id state => exact .inl rfl
  | read id hframes => exact .inl (emitted_read before id _ src)
  | @forwarded id result hforward =>
    rw [links_setLink]
    by_cases hid : src = id
    · subst hid
      rw [if_pos rfl, Link.emit]
      obtain ⟨-, ⟨hnone, -⟩ | ⟨frame, hframe, horigin, hindex, -⟩⟩ := Reader.forward_cases hforward
      · simp [hnone]
      · exact .inr ⟨frame, by simp [hframe], horigin, hindex⟩
    · rw [if_neg hid]
      exact .inl rfl
  | @sent id routerFrame now frames hphase hsend =>
    exact .inl (emitted_read (before.setFrames frames) id _ src)
  | @wrote id step result hstep =>
    exact .inl (emitted_write (before.setPort id result.2.1) id _ _ src)

/-- Downstream of the channel are frames of other endpoints. -/
theorem foreign (hmoves : Moves table filters oneshot before after) (h : Faithful before)
    (dest : EndpointId) : ∀ frame ∈ after.downstream dest, frame.origin ≠ dest := by
  have hkept : after.downstream dest = before.downstream dest →
      ∀ frame ∈ after.downstream dest, frame.origin ≠ dest := by
    intro hsame
    rw [hsame]
    exact h.foreign dest
  cases hmoves with
  | routed hrouting hstep =>
    have hloop := RouterLoop.step_moves hstep
    intro frame hmem
    rcases List.mem_append.mp hmem with hmem | hmem
    · exact h.foreign dest frame (List.mem_append_left _ hmem)
    · rcases hloop.toward_of_mem hrouting hmem with hmem | ⟨routerFrame, hitem, hframe, hother⟩
      · exact h.foreign dest frame (List.mem_append_right _ hmem)
      · rw [← hframe, h.queued routerFrame hitem]
        exact Ne.symm hother
  | published id state => exact hkept (downstream_setStats before id _ dest)
  | read id hframes => exact hkept (downstream_read before id _ dest)
  | forwarded id hforward => exact hkept (downstream_emit before id _ _ _ dest)
  | sent id hphase hsend => exact hkept (downstream_send before id _ _ dest)
  | wrote id hstep =>
    intro frame hmem
    exact h.foreign dest frame ((downstream_write hstep dest).subset hmem)

/-- A step drops frames from the pipe, or moves them on, or appends what the framer emits. -/
theorem ordered (hmoves : Moves table filters oneshot before after) (h : Faithful before)
    (src dest : EndpointId) : (after.pipe src dest).Sublist (after.links src).emitted := by
  have hkept : (after.links src).emitted = (before.links src).emitted →
      (after.pipe src dest).Sublist (before.pipe src dest) →
      (after.pipe src dest).Sublist (after.links src).emitted := by
    intro hemitted hpipe
    rw [hemitted]
    exact hpipe.trans (h.ordered src dest)
  cases hmoves with
  | routed hrouting hstep => exact hkept rfl (pipe_routed hrouting hstep src dest)
  | published id state =>
    apply hkept rfl
    rw [pipe, downstream_setStats]
    exact List.Sublist.refl _
  | read id hframes => exact hkept (emitted_read before id _ src) (pipe_read hframes src dest)
  | forwarded id hforward => exact pipe_emit h hforward src dest
  | @sent id routerFrame now frames hphase hsend =>
    have hemitted := emitted_read (before.setFrames frames) id
      ((before.links id).reader.setPhase (.forwarding now)) src
    exact hkept hemitted (pipe_send h hphase hsend src dest)
  | @wrote id step result hstep =>
    have hemitted := emitted_write (before.setPort id result.2.1) id result.1 result.2.2 src
    exact hkept hemitted (pipe_write hstep src dest)

end Moves

/-- One step keeps what is known of the frames. -/
theorem Faithful.step (h : Faithful before) (hmoves : Moves table filters oneshot before after) :
    Faithful after := by
  refine ⟨hmoves.queued h, hmoves.sending h, ?_, ?_, hmoves.foreign h, hmoves.ordered h⟩
  · intro id frame hmem
    rcases hmoves.emitted id with hsame | ⟨new, hnew, horigin, -⟩
    · rw [hsame] at hmem
      exact h.origin id frame hmem
    · rw [hnew, List.mem_append, List.mem_singleton] at hmem
      rcases hmem with hmem | rfl
      · exact h.origin id frame hmem
      · exact horigin
  · intro id
    rcases hmoves.emitted id with hsame | ⟨new, hnew, -, hindex⟩
    · rw [hsame]
      exact h.numbered id
    · rw [hnew, List.map_append, h.numbered id, List.length_append, List.length_singleton,
        List.range_succ, List.map_singleton, hindex]

variable {wiring : RouterWiring} {txQueueFrames : EndpointId → ℕ} {actions : List Action}
  {system : System}

open Library (execute execute_snoc execute_invariant)

/-- At the start there are no frames. -/
theorem faithful_start (wiring : RouterWiring) (txQueueFrames : EndpointId → ℕ) :
    Faithful (start wiring txQueueFrames) := by
  have hdownstream : ∀ dest, (start wiring txQueueFrames).downstream dest = [] := fun _ => rfl
  have hpipe : ∀ src dest, (start wiring txQueueFrames).pipe src dest = [] := fun _ _ => rfl
  constructor
  · rintro routerFrame ⟨⟩
  · rintro id routerFrame now ⟨⟩
  · rintro id frame ⟨⟩
  · intro id
    rfl
  · intro dest frame hmem
    rw [hdownstream] at hmem
    cases hmem
  · intro src dest
    rw [hpipe]
    exact List.nil_sublist _

/-- In every run the queues keep the order of the framers. -/
theorem faithful_run
    (hrun : execute (step table filters oneshot) (start wiring txQueueFrames) actions =
      some system) : Faithful system := by
  refine execute_invariant ?_ ?_ hrun
  · exact faithful_start wiring txQueueFrames
  · intro before action after hbefore hstep
    exact hbefore.step (step_moves hstep)

/-- The router task of the system runs as it does alone, with the readers as the senders of
frames. -/
theorem loop_execution
    (hrun : execute (step table filters oneshot) (start wiring txQueueFrames) actions =
      some system) :
    ∃ loopActions, execute (RouterLoop.step oneshot) (start wiring txQueueFrames).loop
      loopActions = some system.loop := by
  refine execute_invariant (motive := fun reached : System => ∃ loopActions,
    execute (RouterLoop.step oneshot) (start wiring txQueueFrames).loop loopActions =
      some reached.loop) ⟨[], rfl⟩ ?_ hrun
  rintro before action after ⟨loopActions, hbefore⟩ hstep
  have hone : ∀ loopAction, before.loop.step oneshot loopAction = some after.loop →
      ∃ loopActions, execute (RouterLoop.step oneshot) (start wiring txQueueFrames).loop
        loopActions = some after.loop := by
    intro loopAction hloop
    exact ⟨loopActions ++ [loopAction], execute_snoc.mpr ⟨before.loop, hbefore, hloop⟩⟩
  cases step_moves hstep with
  | routed hrouting hloop => exact hone _ hloop
  | published id state => exact hone (.own id fun _ => _) rfl
  | read id hframes => exact ⟨loopActions, hbefore⟩
  | forwarded id hforward => exact hone (.own id fun _ => _) rfl
  | @sent id routerFrame now frames hphase hsend =>
    refine hone (.sendFrame routerFrame) ?_
    simp [RouterLoop.step, hsend, setLink, setFrames]
  | wrote id hwrite => exact hone (.own id fun _ => _) rfl

/-- In every run, whatever the interleaving: a frame completely written on an endpoint is
byte for byte a frame that the framer of another endpoint emitted, and the frames of one
endpoint written on another are a subsequence of those its framer emitted, all distinct. -/
theorem transparency
    (hrun : execute (step table filters oneshot) (start wiring txQueueFrames) actions =
      some system) :
    (∀ dest, ∀ written ∈ (system.links dest).written, ∃ src, src ≠ dest ∧
      ∃ emitted ∈ (system.links src).emitted, written.frame = emitted ∧
        written.bytes = emitted.data) ∧
    ∀ src dest,
      (((system.links dest).written.map Written.frame).filter
        fun frame => frame.origin = src).Sublist (system.links src).emitted ∧
      (system.links src).emitted.Nodup := by
  have hfaithful := faithful_run hrun
  have hwritten : ∀ src dest, (((system.links dest).written.map Written.frame).filter
      fun frame => frame.origin = src).Sublist (system.links src).emitted := by
    intro src dest
    refine List.Sublist.trans (List.Sublist.filter _ ?_) (hfaithful.ordered src dest)
    unfold downstream
    simp only [List.append_assoc]
    exact List.sublist_append_left _ _
  constructor
  · intro dest written hmem
    have hframe : written.frame ∈ (system.links dest).written.map Written.frame :=
      List.mem_map_of_mem hmem
    have hdownstream : written.frame ∈ system.downstream dest :=
      List.mem_append_left _ (List.mem_append_left _ hframe)
    have hemitted := (hwritten written.frame.origin dest).subset
      (List.mem_filter.mpr ⟨hframe, by simp⟩)
    exact ⟨written.frame.origin, hfaithful.foreign dest _ hdownstream, written.frame, hemitted, rfl,
      written.complete⟩
  · intro src dest
    refine ⟨hwritten src dest, ?_⟩
    have hnodup : ((system.links src).emitted.map Bytes.index).Nodup := by
      rw [hfaithful.numbered src]
      exact List.nodup_range
    exact hnodup.of_map

/-- A frame received from the vehicle is written in two parts to the ground station. -/
theorem transparency_relay :
    let wiring : RouterWiring := ⟨4, 4, .new 4, 0, 4⟩
    let visit : Visit := .inOrder
    let bytes : List UInt8 := [0xFE, 0, 7, 1, 1, 0, 0, 0]
    let actions : List Action :=
      [.sendEvent (.endpointAdded ⟨0⟩ "vehicle" (some ⟨{}, "vehicle"⟩)),
        .sendEvent (.endpointAdded ⟨1⟩ "ground" (some ⟨{}, "ground"⟩)),
        .poll visit 0, .poll visit 0, .poll visit 0, .poll visit 0,
        .reader ⟨0⟩ (.receive bytes 1), .reader ⟨0⟩ .forward, .reader ⟨0⟩ .send,
        .poll visit 1, .poll visit 1, .poll visit 1, .perform, .perform,
        .writer ⟨1⟩ .pop, .writer ⟨1⟩ (.write 3), .writer ⟨1⟩ (.write 5), .writer ⟨1⟩ .finish]
    ∃ system, execute (step ⟨[], .nil⟩ (fun _ => {}) fun _ => 0) (start wiring fun _ => 4)
        actions = some system ∧
      (system.links ⟨1⟩).written.map Written.bytes = [bytes] ∧
      (((system.links ⟨1⟩).written.map Written.frame).filter
        fun frame => frame.origin = ⟨0⟩).Sublist (system.links ⟨0⟩).emitted := by
  intro wiring visit bytes actions
  have hbytes : (execute (step ⟨[], .nil⟩ (fun _ => {}) fun _ => 0) (start wiring fun _ => 4)
      actions).map (fun system => (system.links ⟨1⟩).written.map Written.bytes) =
      some [bytes] := by
    decide +kernel
  obtain ⟨system, hrun, hwritten⟩ := Option.map_eq_some_iff.mp hbytes
  exact ⟨system, hrun, hwritten, ((transparency hrun).2 ⟨0⟩ ⟨1⟩).1⟩

end System

end MavlinkRouter
