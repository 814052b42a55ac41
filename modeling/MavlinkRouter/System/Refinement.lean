import MavlinkRouter.System.Provenance

/-!
# The whole program as a run of the router loop

What the endpoints do to the router is to send events and frames and to use their own queues
and counters. Every run of the whole program is therefore a run of the router loop in any
environment, and one in which ids are fresh and frames follow the registration of their
endpoint. What is proved about the loop under these assumptions holds of the program.
-/

namespace MavlinkRouter

open Library (execute execute_snoc)

namespace RouterLoop

variable {oneshot : List UInt8 → UInt64} {wiring : RouterWiring} {ports : Ports}
  {loop after : RouterLoop} {actions : List Action} {action : Action}

private theorem registeredFirst_nil : RegisteredFirst [] := by
  intro before routerFrame later hsplit
  cases before <;> cases hsplit

/-- A frame may be sent if the registration of its endpoint has been. -/
theorem RegisteredFirst.snoc (h : RegisteredFirst actions)
    (hframe : ∀ routerFrame, action = .sendFrame routerFrame →
      ∃ event, .sendEvent event ∈ actions ∧ event.added? = some routerFrame.endpointId) :
    RegisteredFirst (actions ++ [action]) := by
  intro before routerFrame later hsplit
  cases hlater : later.reverse with
  | nil =>
    obtain rfl := List.reverse_eq_nil_iff.mp hlater
    obtain ⟨rfl, hlast⟩ := List.append_inj' hsplit rfl
    exact hframe routerFrame (List.singleton_inj.mp hlast)
  | cons last rest =>
    have hlater : later = rest.reverse ++ [last] := by
      rw [← List.reverse_reverse later, hlater, List.reverse_cons]
    rw [hlater, ← List.cons_append, ← List.append_assoc] at hsplit
    exact h before routerFrame rest.reverse (List.append_inj' hsplit rfl).1

/-- The loop is where some run of the router loop leads, in which every frame follows the
registration of its endpoint. -/
def Explained (oneshot : List UInt8 → UInt64) (wiring : RouterWiring) (ports : Ports)
    (loop : RouterLoop) : Prop :=
  ∃ actions, execute (step oneshot) (start wiring ports) actions = some loop ∧
    RegisteredFirst actions

namespace Explained

private theorem start (oneshot : List UInt8 → UInt64) (wiring : RouterWiring) (ports : Ports) :
    Explained oneshot wiring ports (.start wiring ports) :=
  ⟨[], rfl, registeredFirst_nil⟩

/-- One step of the loop. -/
theorem step (h : Explained oneshot wiring ports loop) (action : Action)
    (hstep : loop.step oneshot action = some after)
    (hframe : ∀ routerFrame, action = .sendFrame routerFrame →
      ∃ event ∈ loop.announced, event.added? = some routerFrame.endpointId) :
    Explained oneshot wiring ports after := by
  obtain ⟨actions, hrun, hfirst⟩ := h
  refine ⟨actions ++ [action], execute_snoc.mpr ⟨loop, hrun, hstep⟩,
    hfirst.snoc fun routerFrame heq => ?_⟩
  obtain ⟨event, hannounced, hadded⟩ := hframe routerFrame heq
  have hsent : event ∈ actions.filterMap Action.event? := by
    rw [← (traced hrun).events]
    exact hannounced
  obtain ⟨sent, hmem, hevent⟩ := List.mem_filterMap.mp hsent
  cases sent with
  | sendEvent _ =>
    cases hevent
    exact ⟨event, hmem, hadded⟩
  | _ => cases hevent

/-- One step that sends no frame. -/
theorem quiet (h : Explained oneshot wiring ports loop) (action : Action)
    (hstep : loop.step oneshot action = some after) (hframe : action.frame? = none) :
    Explained oneshot wiring ports after := by
  refine h.step action hstep ?_
  rintro routerFrame rfl
  cases hframe

end Explained

end RouterLoop

namespace TaskNet

variable {table : MsgTable} {format : AddrFormat} {oneshot : List UInt8 → UInt64}
  {net after : TaskNet} {routerWiring : RouterWiring} {ports : Ports}
  {specs : List EndpointSpec} {actions : List Action}

/-- What a task shares it changes by sending an event, or a frame after the registration of its
endpoint, and by using its own queue and counters. -/
theorem explained_share {wiring : Wiring} (id : EndpointId)
    (h : net.loop.Explained oneshot routerWiring ports)
    (hevents : wiring.events = net.loop.events ∨
      ∃ event, net.loop.events.trySend event = .ok wiring.events)
    (hframes : wiring.frames = net.loop.frames ∨ ∃ routerFrame : RouterFrame,
      Routed net.loop.announced routerFrame.endpointId ∧
        net.loop.frames.trySend routerFrame = .ok wiring.frames) :
    (net.share id wiring).Explained oneshot routerWiring ports := by
  have hsentFrame : RouterLoop.Explained oneshot routerWiring ports
      { net.loop with frames := wiring.frames } := by
    rcases hframes with hsame | ⟨routerFrame, ⟨event, hmem, name, payload, hregistration⟩, hsend⟩
    · rw [hsame]
      exact h
    · refine h.step (.sendFrame routerFrame) (by simp only [RouterLoop.step, hsend]) ?_
      rintro sent ⟨⟩
      exact ⟨event, hmem, congrArg (Option.map Prod.fst) hregistration⟩
  have hsentEvent : RouterLoop.Explained oneshot routerWiring ports
      { net.loop with frames := wiring.frames, events := wiring.events } := by
    rcases hevents with hsame | ⟨event, hsend⟩
    · rw [hsame]
      exact hsentFrame
    · exact hsentFrame.quiet (.sendEvent event)
        (by simp only [RouterLoop.step, hsend]) rfl
  exact hsentEvent.quiet (.own id fun _ => wiring.port) rfl rfl

/-- Every step of the program is explained by steps of the router loop. -/
theorem explained_step (h : net.loop.Explained oneshot routerWiring ports) (hkept : net.Kept)
    (hsourced : net.Sourced) {action : Action}
    (hmoves : Moves table format oneshot net action after) :
    after.loop.Explained oneshot routerWiring ports := by
  cases hmoves with
  | looped hinner hloop => exact h.quiet _ hloop (Action.sends_nothing hinner).2
  | @spawned _ _ sent _ _ hsend =>
    cases sent with
    | true =>
      obtain ⟨hevents, hframes⟩ := Wiring.sendEvent_true hsend
      exact explained_share _ h (.inr ⟨_, hevents⟩) (.inl hframes)
    | false =>
      obtain ⟨-, rfl⟩ := Wiring.sendEvent_false hsend
      exact explained_share _ h (.inl rfl) (.inl rfl)
  | @turned _ _ task _ htask hturn =>
    have hmem := List.mem_of_getElem? htask
    have haccounts := Control.step_accounts (hkept.sound task hmem) hturn
    refine explained_share _ h haccounts.events ?_
    rcases (Control.step_provides (hsourced.sends task hmem) hturn).forwards with
      hsame | ⟨routerFrame, hid, hsend⟩
    · exact .inl hsame
    · exact .inr ⟨routerFrame,
        hsourced.leaves _ (List.mem_flatMap.mpr ⟨task, hmem, hid⟩), hsend⟩

/-- Refinement: every run of the whole program of fewer than 2^64 steps is, for the router, a run
of the router loop in which ids are fresh and every frame is sent after the registration of its
endpoint. -/
theorem refines_router_loop
    (hrun : execute (step table format oneshot) (start routerWiring specs) actions = some net)
    (hcount : actions.length < 2 ^ 64) :
    ∃ sent, execute (RouterLoop.step oneshot)
        (.start routerWiring fun _ => ⟨{}, .new defaultTxQueueFrames⟩) sent = some net.loop ∧
      RouterLoop.FreshIds sent ∧ RouterLoop.RegisteredFirst sent := by
  obtain ⟨hkept, -, sent, hloop, hfirst⟩ := kept_induction
    (motive := fun _ net => net.Sourced ∧ net.loop.Explained oneshot routerWiring
      fun _ => ⟨{}, .new defaultTxQueueFrames⟩)
    ⟨sourced_start routerWiring specs, .start _ _ _⟩
    (fun _ hstep hkept _ hboth =>
      ⟨hboth.1.step hkept hstep, explained_step hboth.2 hkept hboth.1 hstep⟩) hrun hcount
  refine ⟨sent, hloop, ?_, hfirst⟩
  have hsent : sent.filterMap RouterLoop.Action.event? = net.loop.announced :=
    (RouterLoop.traced hloop).events.symm
  have hadded : Monitor.addedIn net.inputs = net.loop.announced.filterMap EndpointEvent.added? := by
    rw [← events_inputs, List.filterMap_filterMap, Monitor.addedIn]
    refine List.filterMap_congr fun input _ => ?_
    cases input <;> rfl
  rw [RouterLoop.FreshIds, hsent, ← hadded]
  refine (orderly_of_regular ?_).added
  rw [events_inputs]
  exact hkept.custody.regular

/-- A client connects and sends a frame. -/
theorem refines_router_loop_client :
    let table : MsgTable := ⟨[], .nil⟩
    let format : AddrFormat := ⟨fun _ => "0.0.0.0", fun _ => "::"⟩
    let wiring : RouterWiring := ⟨4, 4, .new 64, 0, 16⟩
    let first := start wiring [⟨.tcpServer ⟨.v4 0 5760, {}⟩, "gcs"⟩]
    let actions : List Action := [.spawn, .task 0 .check, .task 0 (.bind true), .task 0 .poll,
      .task 0 (.accept (some (.v4 1 5760))), .task 0 .announce, .task 1 (.session .poll),
      .task 1 (.session (.read (.received [0xFE, 0, 7, 1, 1, 0, 0, 0] 0))),
      .task 1 (.session .forward), .task 1 (.session .forward)]
    ∃ net, execute (step table format fun _ => 0) first actions = some net ∧
      net.loop.frames.items.map RouterFrame.endpointId = [⟨1⟩] ∧
      ∃ sent, execute (RouterLoop.step fun _ => 0)
          (.start wiring fun _ => ⟨{}, .new defaultTxQueueFrames⟩) sent = some net.loop ∧
        RouterLoop.FreshIds sent ∧ RouterLoop.RegisteredFirst sent := by
  intro table format wiring first actions
  have heval : ((execute (step table format fun _ => 0) first actions).map fun net =>
      net.loop.frames.items.map RouterFrame.endpointId) = some [⟨1⟩] := by decide +kernel
  obtain ⟨net, hrun, hframes⟩ := Option.map_eq_some_iff.mp heval
  exact ⟨net, hrun, hframes, refines_router_loop hrun (by decide)⟩

end TaskNet

end MavlinkRouter
