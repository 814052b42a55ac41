import MavlinkRouter.System.RouterLoop

/-!
# Frames against registrations and removals

The router task polls its event channel before its frame channel, and each channel is
FIFO. What this says about the order in which the registration, the frames and the removal
of one endpoint are handled, for every schedule of the sends and the polls.
-/

namespace MavlinkRouter

namespace RouterLoop

open Library (execute execute_induction)

variable {oneshot : List UInt8 → UInt64} {wiring : RouterWiring} {ports : Ports}
  {actions : List Action} {loop : RouterLoop} {routerFrame : RouterFrame}

/-- No endpoint id is registered twice. -/
def FreshIds (actions : List Action) : Prop :=
  ((actions.filterMap Action.event?).filterMap EndpointEvent.added?).Nodup

/-- The registration of every endpoint is sent before its first frame. -/
def RegisteredFirst (actions : List Action) : Prop :=
  ∀ before routerFrame after, actions = before ++ .sendFrame routerFrame :: after →
    ∃ event, .sendEvent event ∈ before ∧ event.added? = some routerFrame.endpointId

/-- One more action after the last poll. -/
def sinceStep (events : List EndpointEvent) : Action → List EndpointEvent
  | .poll _ _ => []
  | .sendEvent event => events ++ [event]
  | _ => events

/-- The events sent since the last poll of the router task. -/
def sentSincePoll (actions : List Action) : List EndpointEvent :=
  actions.foldl sinceStep []

/-- The next poll takes this frame. -/
def Takes (loop : RouterLoop) (routerFrame : RouterFrame) : Prop :=
  loop.phase = .pollFrames ∧ loop.pending = [] ∧ loop.frames.items.head? = some routerFrame

/-- The next poll takes this frame and drops it as coming from an unknown endpoint, although
the endpoint has not been removed. -/
def DropsUnregistered (loop : RouterLoop) (routerFrame : RouterFrame) : Prop :=
  loop.Takes routerFrame ∧
    (∀ input ∈ loop.handled, input.removed? ≠ some routerFrame.endpointId) ∧
    loop.router.routing.lookup routerFrame.endpointId = none

/-- A poll that takes a frame handles it. -/
theorem step_of_takes (oneshot : List UInt8 → UInt64) (h : loop.Takes routerFrame)
    (visit : Visit) (now : Instant) :
    ∃ after, loop.step oneshot (.poll visit now) = some after ∧
      after.router = (loop.router.handleFrame oneshot visit routerFrame now).1 ∧
      after.pending = (loop.router.handleFrame oneshot visit routerFrame now).2 ∧
      after.handled = loop.handled ++ [Input.frame visit routerFrame now] := by
  obtain ⟨hphase, hpending, hhead⟩ := h
  cases hrecv : loop.frames.tryRecv with
  | none => simp [Library.Channel.tryRecv_eq_none.mp hrecv] at hhead
  | some received =>
    obtain ⟨taken, frames⟩ := received
    rw [Library.Channel.items_of_tryRecv hrecv] at hhead
    obtain rfl := Option.some.inj hhead
    simp [step, hpending, poll, hphase, hrecv, handle]

section

variable {before after : RouterLoop} {action : Action}

/-- Events are handled in the order in which they were sent. -/
theorem Moves.events_eq (h : Moves oneshot before action after) :
    after.handled.filterMap Input.event? ++ after.events.items =
      before.handled.filterMap Input.event? ++ before.events.items ++ action.event?.toList := by
  cases h with
  | sentEvent hsend => simp [Action.event?, Library.Channel.items_of_trySend hsend]
  | tookEvent hpending hrunning hphase hrecv =>
    simp [handle, Action.event?, Input.event?, Library.Channel.items_of_tryRecv hrecv]
  | tookFrame hpending hphase hrecv => simp [handle, Action.event?, Input.event?]
  | statsTaken update => simp [Action.event?, Input.event?]
  | _ => simp [Action.event?]

/-- Only a send puts a frame into the channel. -/
theorem Moves.mem_frames (h : Moves oneshot before action after)
    (hmem : routerFrame ∈ after.frames.items) :
    routerFrame ∈ before.frames.items ∨ action = .sendFrame routerFrame := by
  cases h with
  | sentFrame hsend =>
    simp only [Library.Channel.items_of_trySend hsend, List.mem_append, List.mem_singleton] at hmem
    rcases hmem with hmem | rfl
    · exact .inl hmem
    · exact .inr rfl
  | tookFrame hpending hphase hrecv =>
    rw [Library.Channel.items_of_tryRecv hrecv]
    exact .inl (List.mem_cons_of_mem _ hmem)
  | _ => exact .inl hmem

/-- Before a poll of the frame channel, the events in their channel were sent after the
poll that found it empty. -/
theorem Moves.waiting (h : Moves oneshot before action after) {events : List EndpointEvent}
    (hbefore : before.phase = .pollFrames → before.events.items = events)
    (hafter : after.phase = .pollFrames) : after.events.items = sinceStep events action := by
  cases h with
  | sentEvent hsend =>
    rw [Library.Channel.items_of_trySend hsend, hbefore hafter]
    rfl
  | turned hpending hrunning hempty => exact hempty hafter
  | tookEvent hpending hrunning hphase hrecv => exact absurd hafter hphase
  | tookFrame hpending hphase hrecv => cases hafter
  | swept hpending => cases hafter
  | closed hpending => cases hafter
  | _ => exact hbefore hafter

/-- The router of the task moves as the hub does on what the task handles. -/
theorem Moves.router_eq (h : Moves oneshot before action after) {hub : Hub}
    (hbefore : before.phase.isRunning = true →
      before.router = (hub.run oneshot before.handled).router)
    (hafter : after.phase.isRunning = true) :
    after.router = (hub.run oneshot after.handled).router := by
  cases h with
  | statsTaken update => simp [Hub.step, ← hbefore hafter]
  | turned hpending hrunning hempty => exact hbefore hrunning
  | tookEvent hpending hrunning hphase hrecv => simp [handle, Hub.step, ← hbefore hrunning]
  | tookFrame hpending hphase hrecv =>
    have hrunning : before.phase.isRunning = true := by rw [hphase]; rfl
    simp [handle, Hub.step, ← hbefore hrunning]
  | swept hpending => cases hafter
  | closed hpending => cases hafter
  | _ => exact hbefore hafter

end

/-- What the actions of an execution say about the state they lead to. -/
structure Traced (oneshot : List UInt8 → UInt64) (hub : Hub) (actions : List Action)
    (loop : RouterLoop) : Prop where
  events : loop.handled.filterMap Input.event? ++ loop.events.items =
    actions.filterMap Action.event?
  frames : ∀ routerFrame ∈ loop.frames.items, .sendFrame routerFrame ∈ actions
  waiting : loop.phase = .pollFrames → loop.events.items = sentSincePoll actions
  router : loop.phase.isRunning = true → loop.router = (hub.run oneshot loop.handled).router

/-- One more action. -/
theorem Traced.snoc {hub : Hub} {before after : RouterLoop} {action : Action}
    (h : Traced oneshot hub actions before) (hstep : before.step oneshot action = some after) :
    Traced oneshot hub (actions ++ [action]) after := by
  have hmoves := step_moves hstep
  constructor
  · rw [hmoves.events_eq, h.events, List.filterMap_append]
    cases haction : action.event? <;> simp [haction]
  · intro routerFrame hmem
    rcases hmoves.mem_frames hmem with hmem | rfl
    · exact List.mem_append_left _ (h.frames routerFrame hmem)
    · exact List.mem_append_right _ (List.mem_singleton_self _)
  · intro hphase
    rw [sentSincePoll, List.foldl_append]
    exact hmoves.waiting h.waiting hphase
  · exact hmoves.router_eq h.router

/-- The hub a task starts with. -/
def startHub (wiring : RouterWiring) (ports : Ports) : Hub :=
  .start wiring.statsEvents wiring.dedupMs wiring.dedupWindowCapacity ports

/-- Every execution of the task is traced. -/
theorem traced (hrun : execute (step oneshot) (start wiring ports) actions = some loop) :
    Traced oneshot (startHub wiring ports) actions loop := by
  refine execute_induction ?_ ?_ hrun
  · exact ⟨rfl, by simp [start, Library.Channel.new], by simp [start], fun _ => rfl⟩
  · intro actions before action after hbefore hstep
    exact hbefore.snoc hstep

namespace Traced

variable {hub : Hub}

/-- An event that was sent and is not waiting has been handled. -/
theorem mem_handled (h : Traced oneshot hub actions loop) {event : EndpointEvent}
    (hsent : .sendEvent event ∈ actions) (hwaiting : event ∉ loop.events.items) :
    .event event ∈ loop.handled := by
  have hmem : event ∈ actions.filterMap Action.event? :=
    List.mem_filterMap.mpr ⟨.sendEvent event, hsent, rfl⟩
  rw [← h.events, List.mem_append] at hmem
  obtain ⟨input, hinput, hevent⟩ := List.mem_filterMap.mp (hmem.resolve_right hwaiting)
  cases input with
  | event lifecycle =>
    obtain rfl := Option.some.inj hevent
    exact hinput
  | frame visit routerFrame now => cases hevent
  | own id update => cases hevent
  | statsTask update => cases hevent

/-- Each endpoint is added once, in what was handled or in what is waiting. -/
theorem nodup_added (h : Traced oneshot hub actions loop) (hfresh : FreshIds actions) :
    (loop.handled.filterMap Input.added? ++
      loop.events.items.filterMap EndpointEvent.added?).Nodup := by
  have hadded : Input.added? = fun input => input.event?.bind EndpointEvent.added? := by
    funext input
    cases input <;> rfl
  rw [hadded, ← List.filterMap_filterMap, ← List.filterMap_append, h.events]
  exact hfresh

/-- The task knows an endpoint exactly if it handled its registration and no removal
since. -/
theorem lookup_isSome (h : Traced oneshot (startHub wiring ports) actions loop)
    (hrunning : loop.phase.isRunning = true) (id : EndpointId) :
    (loop.router.routing.lookup id).isSome ↔ RegisteredIn id loop.handled := by
  rw [h.router hrunning]
  exact Hub.lookup_run_isSome loop.handled id

/-- In a run without reused ids the task's router is a reachable one. -/
theorem reachable (h : Traced oneshot (startHub wiring ports) actions loop)
    (hfresh : FreshIds actions) : Hub.Reachable oneshot
      ((startHub wiring ports).run oneshot loop.handled) := by
  have hnodup := (h.nodup_added hfresh).of_append_left
  exact ⟨_, _, _, _, loop.handled, hnodup, rfl⟩

end Traced

private theorem Takes.isRunning (h : loop.Takes routerFrame) : loop.phase.isRunning = true := by
  rw [h.1]
  rfl

/-- A frame taken by the task was sent. -/
theorem Traced.sent_of_takes {hub : Hub} (h : Traced oneshot hub actions loop)
    (htakes : loop.Takes routerFrame) : .sendFrame routerFrame ∈ actions :=
  h.frames routerFrame (List.mem_of_mem_head? htakes.2.2)

/-- If the registration of an endpoint is sent in the gap between the poll that finds the
event channel empty and the poll that takes a frame of the endpoint, the frame is dropped. -/
theorem dropsUnregistered_of_sent_in_gap
    (hrun : execute (step oneshot) (start wiring ports) actions = some loop)
    (hfresh : FreshIds actions) (htakes : loop.Takes routerFrame)
    (hremoved : ∀ input ∈ loop.handled, input.removed? ≠ some routerFrame.endpointId)
    {event : EndpointEvent} (hgap : event ∈ sentSincePoll actions)
    (hadded : event.added? = some routerFrame.endpointId) :
    loop.DropsUnregistered routerFrame := by
  have htraced := traced hrun
  refine ⟨htakes, hremoved, ?_⟩
  rw [← htraced.waiting htakes.1] at hgap
  rw [← Option.not_isSome_iff_eq_none, htraced.lookup_isSome htakes.isRunning]
  intro hin
  obtain ⟨input, hinput, hinputAdded⟩ := hin.exists_added
  have hhandled := List.mem_filterMap.mpr ⟨input, hinput, hinputAdded⟩
  have hwaiting := List.mem_filterMap.mpr ⟨event, hgap, hadded⟩
  exact (List.nodup_append.mp (htraced.nodup_added hfresh)).2.2 _ hhandled _ hwaiting rfl

/-- If every registration is sent before the endpoint's frames, and none is sent in the gap
between the poll that finds the event channel empty and the poll that takes a frame of the
endpoint, then the frame is not dropped as coming from an unknown endpoint. -/
theorem no_frame_overtakes_registration
    (hrun : execute (step oneshot) (start wiring ports) actions = some loop)
    (hfirst : RegisteredFirst actions)
    (hgap : ∀ event ∈ sentSincePoll actions, event.added? ≠ some routerFrame.endpointId) :
    ¬ loop.DropsUnregistered routerFrame := by
  rintro ⟨htakes, hremoved, hunknown⟩
  have htraced := traced hrun
  obtain ⟨earlier, later, hsplit⟩ := List.append_of_mem (htraced.sent_of_takes htakes)
  obtain ⟨event, hevent, hadded⟩ := hfirst earlier routerFrame later hsplit
  have hsent : .sendEvent event ∈ actions := by
    rw [hsplit]
    exact List.mem_append_left _ hevent
  have hwaiting : event ∉ loop.events.items := by
    rw [htraced.waiting htakes.1]
    intro hmem
    exact hgap event hmem hadded
  have hregistered := registeredIn_of_mem (htraced.mem_handled hsent hwaiting) hadded hremoved
  rw [← htraced.lookup_isSome htakes.isRunning, hunknown] at hregistered
  cases hregistered

/-- Between the two polls a client is announced and its first frame is sent; the task takes
the frame first and drops it. -/
theorem frame_overtakes_registration :
    let wiring : RouterWiring := ⟨4, 4, .new 4, 0, 4⟩
    let ports : Ports := fun _ => ⟨{}, .new 4⟩
    let visit : Visit := .inOrder
    let routerFrame : RouterFrame :=
      ⟨⟨1⟩, ⟨[0xFE, 0, 7, 1, 1, 0, 0, 0], ⟨1⟩, 0⟩, ⟨.v1, ⟨1, 1⟩, 0, 7, 0, none, none⟩⟩
    let actions : List Action :=
      [.poll visit 0, .poll visit 0,
        .sendEvent (.peerAdded ⟨0⟩ ⟨1⟩ "client" ⟨{}, "listener"⟩), .sendFrame routerFrame]
    ∃ loop, execute (step fun _ => 0) (start wiring ports) actions = some loop ∧
      FreshIds actions ∧ RegisteredFirst actions ∧ loop.DropsUnregistered routerFrame ∧
      ∀ visit' now, loop.router.handleFrame (fun _ => 0) visit' routerFrame now =
        (loop.router, []) := by
  intro wiring ports visit routerFrame actions
  have hfresh : FreshIds actions := by
    unfold FreshIds
    decide
  have hfirst : RegisteredFirst actions := by
    intro before sent after hsplit
    obtain ⟨rfl, rfl, rfl⟩ : before = actions.take 3 ∧ sent = routerFrame ∧ after = [] := by
      simpa [actions, List.cons_eq_append_iff] using hsplit
    exact ⟨.peerAdded ⟨0⟩ ⟨1⟩ "client" ⟨{}, "listener"⟩, by simp [actions], rfl⟩
  have hsome : (execute (step fun _ => 0) (start wiring ports) actions).isSome = true := rfl
  have hrun := (Option.some_get hsome).symm
  have hdrops := dropsUnregistered_of_sent_in_gap hrun hfresh ⟨rfl, rfl, rfl⟩ (by rintro _ ⟨⟩)
    (List.mem_singleton_self _) rfl
  refine ⟨_, hrun, hfresh, hfirst, hdrops, ?_⟩
  intro visit' now
  exact Router.handleFrame_of_unknown _ visit' now hdrops.2.2

/-- A client whose registration was handled before its first frame was sent. -/
theorem no_frame_overtakes_registration_client :
    let wiring : RouterWiring := ⟨4, 4, .new 4, 0, 4⟩
    let ports : Ports := fun _ => ⟨{}, .new 4⟩
    let visit : Visit := .inOrder
    let routerFrame : RouterFrame :=
      ⟨⟨1⟩, ⟨[0xFE, 0, 7, 1, 1, 0, 0, 0], ⟨1⟩, 0⟩, ⟨.v1, ⟨1, 1⟩, 0, 7, 0, none, none⟩⟩
    let actions : List Action :=
      [.sendEvent (.peerAdded ⟨0⟩ ⟨1⟩ "client" ⟨{}, "listener"⟩), .sendFrame routerFrame,
        .poll visit 0, .poll visit 0, .poll visit 0, .poll visit 0]
    ∃ loop, execute (step fun _ => 0) (start wiring ports) actions = some loop ∧
      RegisteredFirst actions ∧ loop.Takes routerFrame ∧
      ¬ loop.DropsUnregistered routerFrame := by
  intro wiring ports visit routerFrame actions
  have hfirst : RegisteredFirst actions := by
    intro before sent after hsplit
    obtain ⟨rfl, rfl, rfl⟩ :
        before = actions.take 1 ∧ sent = routerFrame ∧ after = actions.drop 2 := by
      simpa [actions, List.cons_eq_append_iff] using hsplit
    exact ⟨.peerAdded ⟨0⟩ ⟨1⟩ "client" ⟨{}, "listener"⟩, by simp [actions], rfl⟩
  have hsome : (execute (step fun _ => 0) (start wiring ports) actions).isSome = true := rfl
  have hrun := (Option.some_get hsome).symm
  exact ⟨_, hrun, hfirst, ⟨rfl, rfl, rfl⟩,
    no_frame_overtakes_registration hrun hfirst (by rintro _ ⟨⟩)⟩

/-- A frame the task takes after it handled the registration of the frame's endpoint and
before it handles the removal is dispatched with its source registered: unless it is a
duplicate, it is offered to every endpoint. A frame still in the channel when the removal
is handled is dropped without a trace, however early it was sent. -/
theorem frame_of_leaving_endpoint
    (hrun : execute (step oneshot) (start wiring ports) actions = some loop)
    (hfresh : FreshIds actions) (htakes : loop.Takes routerFrame) (visit : Visit)
    (now : Instant) :
    ∃ after, loop.step oneshot (.poll visit now) = some after ∧
      after.handled = loop.handled ++ [.frame visit routerFrame now] ∧
      (RegisteredIn routerFrame.endpointId loop.handled →
        ∃ entry, loop.router.routing.lookup routerFrame.endpointId = some entry ∧
          ∀ src, entry.routable = some src →
            (loop.router.dedup.checkAndInsert oneshot routerFrame.frame now).1 = false →
            ∀ dest, Router.Outcome loop.router after.router routerFrame src.endpointName dest
              (accessesTo dest after.pending)) ∧
      ∀ before added removal later, loop.handled = before ++ removal :: later →
        added ∈ before → added.added? = some routerFrame.endpointId →
        removal.removed? = some routerFrame.endpointId →
        loop.router.routing.lookup routerFrame.endpointId = none ∧
          after.router = loop.router ∧ after.pending = [] := by
  have htraced := traced hrun
  have hlookup := htraced.lookup_isSome htakes.isRunning routerFrame.endpointId
  obtain ⟨after, hstep, hrouter, hpending, hhandled⟩ := step_of_takes oneshot htakes visit now
  refine ⟨after, hstep, hhandled, ?_, ?_⟩
  · intro hregistered
    obtain ⟨entry, hentry⟩ := Option.isSome_iff_exists.mp (hlookup.mpr hregistered)
    refine ⟨entry, hentry, ?_⟩
    intro src hroutable hdedup dest
    have hsrc : loop.router.routable? routerFrame.endpointId = some src :=
      Router.routable?_eq_some.mpr ⟨entry, hentry, hroutable⟩
    have hcounted := (htraced.reachable hfresh).groupsCounted
    rw [← htraced.router htakes.isRunning] at hcounted
    rw [hrouter, hpending]
    exact Router.handleFrame_outcome visit dest (hcounted.ingest_admitted hsrc hdedup)
  · intro before added removal later hsplit hmem hadded hremoved
    have hreuse : NoReuse loop.handled := (htraced.nodup_added hfresh).of_append_left
    rw [hsplit] at hreuse hlookup
    have hunregistered := not_registeredIn_of_removed hreuse hmem hadded hremoved
    rw [← hlookup, Option.not_isSome_iff_eq_none] at hunregistered
    rw [hrouter, hpending, Router.handleFrame_of_unknown oneshot visit now hunregistered]
    exact ⟨hunregistered, rfl, rfl⟩

/-- A frame of a client that is taken while the client is registered goes to the ground
station. -/
theorem frame_of_leaving_endpoint_client :
    let wiring : RouterWiring := ⟨4, 4, .new 4, 0, 4⟩
    let ports : Ports := fun _ => ⟨{}, .new 4⟩
    let visit : Visit := .inOrder
    let routerFrame : RouterFrame :=
      ⟨⟨1⟩, ⟨[0xFE, 0, 7, 1, 1, 0, 0, 0], ⟨1⟩, 0⟩, ⟨.v1, ⟨1, 1⟩, 0, 7, 0, none, none⟩⟩
    let actions : List Action :=
      [.sendEvent (.endpointAdded ⟨0⟩ "ground" (some ⟨{}, "ground"⟩)),
        .sendEvent (.peerAdded ⟨2⟩ ⟨1⟩ "client" ⟨{}, "listener"⟩),
        .poll visit 0, .poll visit 0, .poll visit 0, .poll visit 0, .sendFrame routerFrame,
        .poll visit 0, .poll visit 0]
    ∃ loop after, execute (step fun _ => 0) (start wiring ports) actions = some loop ∧
      FreshIds actions ∧ loop.Takes routerFrame ∧
      loop.step (fun _ => 0) (.poll visit 0) = some after ∧
      Router.Outcome loop.router after.router routerFrame "listener" ⟨0⟩
        (accessesTo ⟨0⟩ after.pending) := by
  intro wiring ports visit routerFrame actions
  have hfresh : FreshIds actions := by
    unfold FreshIds
    decide
  have hsome : (execute (step fun _ => 0) (start wiring ports) actions).isSome = true := rfl
  have hrun := (Option.some_get hsome).symm
  have htakes : Takes (Option.get _ hsome) routerFrame := ⟨rfl, rfl, rfl⟩
  obtain ⟨after, hstep, -, hdispatched, -⟩ := frame_of_leaving_endpoint hrun hfresh htakes visit 0
  have hregistered : RegisteredIn ⟨1⟩ (Option.get _ hsome).handled :=
    ⟨_, .event (.peerAdded ⟨2⟩ ⟨1⟩ "client" ⟨{}, "listener"⟩), [], rfl, rfl, by rintro _ ⟨⟩⟩
  obtain ⟨entry, hentry, houtcome⟩ := hdispatched hregistered
  have hclient : (Option.get _ hsome).router.routing.lookup ⟨1⟩ =
      some ⟨"client", some ⟨{}, "listener", .new learnCapacity⟩⟩ := rfl
  obtain rfl := Option.some.inj (hentry.symm.trans hclient)
  have hdisabled : (Option.get _ hsome).router.dedup = .new (durationFromMillis 0) 4 := rfl
  have hdedup : ((Option.get _ hsome).router.dedup.checkAndInsert (fun _ => 0)
      routerFrame.frame 0).1 = false := by
    rw [hdisabled]
    rfl
  exact ⟨_, after, hrun, hfresh, htakes, hstep, houtcome _ rfl hdedup ⟨0⟩⟩

/-- A client sends a frame and is then removed; the task handles the removal first and drops
the frame. -/
theorem removal_overtakes_frame :
    let wiring : RouterWiring := ⟨4, 4, .new 4, 0, 4⟩
    let ports : Ports := fun _ => ⟨{}, .new 4⟩
    let visit : Visit := .inOrder
    let routerFrame : RouterFrame :=
      ⟨⟨1⟩, ⟨[0xFE, 0, 7, 1, 1, 0, 0, 0], ⟨1⟩, 0⟩, ⟨.v1, ⟨1, 1⟩, 0, 7, 0, none, none⟩⟩
    let registered : List Action :=
      [.sendEvent (.endpointAdded ⟨0⟩ "ground" (some ⟨{}, "ground"⟩)),
        .sendEvent (.peerAdded ⟨2⟩ ⟨1⟩ "client" ⟨{}, "listener"⟩),
        .poll visit 0, .poll visit 0, .poll visit 0, .poll visit 0]
    let actions : List Action :=
      registered ++ [.sendFrame routerFrame, .sendEvent (.peerRemoved ⟨2⟩ ⟨1⟩ .disconnected),
        .poll visit 0, .poll visit 0, .perform, .poll visit 0, .poll visit 0]
    ∃ loop, execute (step fun _ => 0) (start wiring ports) actions = some loop ∧
      FreshIds actions ∧ RegisteredFirst actions ∧ loop.Takes routerFrame ∧
      loop.router.routing.lookup routerFrame.endpointId = none ∧
      (loop.router.routable? ⟨0⟩).isSome ∧
      ∀ visit' now, loop.router.handleFrame (fun _ => 0) visit' routerFrame now =
        (loop.router, []) := by
  intro wiring ports visit routerFrame registered actions
  have hfresh : FreshIds actions := by
    unfold FreshIds
    decide
  have hfirst : RegisteredFirst actions := by
    intro before sent after hsplit
    obtain ⟨rfl, rfl, rfl⟩ :
        before = registered ∧ sent = routerFrame ∧ after = actions.drop 7 := by
      simpa [actions, registered, List.cons_eq_append_iff] using hsplit
    exact ⟨.peerAdded ⟨2⟩ ⟨1⟩ "client" ⟨{}, "listener"⟩, by simp [registered], rfl⟩
  have hsome : (execute (step fun _ => 0) (start wiring ports) actions).isSome = true := rfl
  have hrun := (Option.some_get hsome).symm
  refine ⟨_, hrun, hfresh, hfirst, ⟨rfl, rfl, rfl⟩, rfl, rfl, ?_⟩
  intro visit' now
  exact Router.handleFrame_of_unknown _ visit' now rfl

end RouterLoop

end MavlinkRouter
