import MavlinkRouter.Library.Execution
import MavlinkRouter.Router.Delivery

/-!
# The router task

The loop of `run_inner` as separate polls: of the cancellation token, then of the event
channel and, only if that poll finds it empty, of the frame channel. Other tasks send on
both channels between any two polls. A handler's accesses to the state it shares with the
endpoints are performed one at a time, so the tasks of the endpoints may act between two
of them as well. The source's `else` branch is not modelled: its `select!` keeps the branch of
the token enabled, so the task does not stop when nobody can send to it any more.
-/

namespace MavlinkRouter

/-- Where the router task stands. -/
inductive Phase where
  | pollCancel
  | pollEvents
  | pollFrames
  | draining
  | sweeping
  | stopped
  deriving DecidableEq, Repr

/-- The task has not yet swept its registry. -/
def Phase.isRunning : Phase → Bool
  | .pollCancel => true
  | .pollEvents => true
  | .pollFrames => true
  | .draining => true
  | .sweeping => false
  | .stopped => false

/-- What the router task is started with. -/
structure RouterWiring where
  frameCapacity : ℕ
  eventCapacity : ℕ
  statsEvents : Library.Channel StatsEvent
  dedupMs : UInt64
  dedupWindowCapacity : ℕ

/-- The router task with its channels and the shared state. The accesses its last handler
has still to perform are in `pending`; `handled` records what it has handled. -/
structure RouterLoop where
  router : Router
  events : Library.Channel EndpointEvent
  frames : Library.Channel RouterFrame
  cancelled : Bool
  phase : Phase
  pending : List Effect
  ports : Ports
  handled : List Input

namespace RouterLoop

/-- One atomic step of the router task or of a task around it. -/
inductive Action where
  | sendEvent (event : EndpointEvent)
  | sendFrame (routerFrame : RouterFrame)
  | cancel
  | own (id : EndpointId) (update : Port → Port)
  | statsTask (update : Library.Channel StatsEvent → Library.Channel StatsEvent)
  | poll (visit : Visit) (now : Instant)
  | perform

/-- The event an action sends. -/
def Action.event? : Action → Option EndpointEvent
  | .sendEvent lifecycle => some lifecycle
  | _ => none

/-- The frame an action sends. -/
def Action.frame? : Action → Option RouterFrame
  | .sendFrame routerFrame => some routerFrame
  | _ => none

/-- The task before its first poll. -/
def start (wiring : RouterWiring) (ports : Ports) : RouterLoop where
  router := .new wiring.statsEvents wiring.dedupMs wiring.dedupWindowCapacity
  events := .new wiring.eventCapacity
  frames := .new wiring.frameCapacity
  cancelled := false
  phase := .pollCancel
  pending := []
  ports := ports
  handled := []

/-- Record a handled input and what handling it gave. -/
def handle (loop : RouterLoop) (input : Input) (result : Router × List Effect) : RouterLoop :=
  { loop with
    router := result.1
    pending := result.2
    handled := loop.handled ++ [input] }

/-- The next poll of the task, once the last handler is done. -/
def poll (oneshot : List UInt8 → UInt64) (loop : RouterLoop) (visit : Visit) (now : Instant) :
    Option RouterLoop :=
  match loop.phase with
  | .pollCancel =>
    some { loop with phase := if loop.cancelled then .draining else .pollEvents }
  | .pollEvents =>
    match loop.events.tryRecv with
    | some (event, events) =>
      some { loop.handle (.event event) (loop.router.handleEvent event) with
        events := events
        phase := .pollCancel }
    | none => some { loop with phase := .pollFrames }
  | .pollFrames =>
    match loop.frames.tryRecv with
    | some (routerFrame, frames) =>
      some { loop.handle (.frame visit routerFrame now)
          (loop.router.handleFrame oneshot visit routerFrame now) with
        frames := frames
        phase := .pollCancel }
    | none => some { loop with phase := .pollCancel }
  | .draining =>
    match loop.events.tryRecv with
    | some (event, events) =>
      some { loop.handle (.event event) (loop.router.handleEvent event) with events := events }
    | none =>
      some { loop with
        router := (loop.router.shutdownSweep visit).1
        pending := (loop.router.shutdownSweep visit).2
        phase := .sweeping }
  | .sweeping =>
    some { loop with
      events.receiverOpen := false
      frames.receiverOpen := false
      phase := .stopped }
  | .stopped => none

/-- One step; a send waits for room in its channel. -/
def step (oneshot : List UInt8 → UInt64) (loop : RouterLoop) : Action → Option RouterLoop
  | .sendEvent event =>
    match loop.events.trySend event with
    | .ok events => some { loop with events := events }
    | .error _ => none
  | .sendFrame routerFrame =>
    match loop.frames.trySend routerFrame with
    | .ok frames => some { loop with frames := frames }
    | .error _ => none
  | .cancel => some { loop with cancelled := true }
  | .own id update =>
    some { loop with ports := Function.update loop.ports id (update (loop.ports id)) }
  | .statsTask update =>
    some { loop with
      router.statsEvents := update loop.router.statsEvents
      handled := loop.handled ++ [.statsTask update] }
  | .poll visit now =>
    match loop.pending with
    | [] => loop.poll oneshot visit now
    | _ :: _ => none
  | .perform =>
    match loop.pending with
    | [] => none
    | effect :: pending => some { loop with ports := loop.ports.apply effect, pending := pending }

variable {oneshot : List UInt8 → UInt64}

/-- Everything one step can do. -/
inductive Moves (oneshot : List UInt8 → UInt64) (before : RouterLoop) :
    Action → RouterLoop → Prop
  | sentEvent {event : EndpointEvent} {events : Library.Channel EndpointEvent}
      (hsend : before.events.trySend event = .ok events) :
    Moves oneshot before (.sendEvent event) { before with events := events }
  | sentFrame {routerFrame : RouterFrame} {frames : Library.Channel RouterFrame}
      (hsend : before.frames.trySend routerFrame = .ok frames) :
    Moves oneshot before (.sendFrame routerFrame) { before with frames := frames }
  | cancelled : Moves oneshot before .cancel { before with cancelled := true }
  | owned (id : EndpointId) (update : Port → Port) :
    Moves oneshot before (.own id update)
      { before with ports := Function.update before.ports id (update (before.ports id)) }
  | statsTaken (update : Library.Channel StatsEvent → Library.Channel StatsEvent) :
    Moves oneshot before (.statsTask update)
      { before with
        router.statsEvents := update before.router.statsEvents
        handled := before.handled ++ [.statsTask update] }
  | performed {effect : Effect} {pending : List Effect}
      (hpending : before.pending = effect :: pending) :
    Moves oneshot before .perform
      { before with ports := before.ports.apply effect, pending := pending }
  | turned {visit : Visit} {now : Instant} {phase : Phase} (hpending : before.pending = [])
      (hrunning : before.phase.isRunning = true)
      (hempty : phase = .pollFrames → before.events.items = [])
      (hopen : phase.isRunning = true) :
    Moves oneshot before (.poll visit now) { before with phase := phase }
  | tookEvent {visit : Visit} {now : Instant} {event : EndpointEvent}
      {events : Library.Channel EndpointEvent} {phase : Phase} (hpending : before.pending = [])
      (hrunning : before.phase.isRunning = true) (hphase : phase ≠ .pollFrames)
      (hrecv : before.events.tryRecv = some (event, events)) (hopen : phase.isRunning = true) :
    Moves oneshot before (.poll visit now)
      { before.handle (.event event) (before.router.handleEvent event) with
        events := events
        phase := phase }
  | tookFrame {visit : Visit} {now : Instant} {routerFrame : RouterFrame}
      {frames : Library.Channel RouterFrame} (hpending : before.pending = [])
      (hphase : before.phase = .pollFrames)
      (hrecv : before.frames.tryRecv = some (routerFrame, frames)) :
    Moves oneshot before (.poll visit now)
      { before.handle (.frame visit routerFrame now)
          (before.router.handleFrame oneshot visit routerFrame now) with
        frames := frames
        phase := .pollCancel }
  | swept {visit : Visit} {now : Instant} (hpending : before.pending = []) :
    Moves oneshot before (.poll visit now)
      { before with
        router := (before.router.shutdownSweep visit).1
        pending := (before.router.shutdownSweep visit).2
        phase := .sweeping }
  | closed {visit : Visit} {now : Instant} (hpending : before.pending = []) :
    Moves oneshot before (.poll visit now)
      { before with
        events.receiverOpen := false
        frames.receiverOpen := false
        phase := .stopped }

/-- What the polls do. -/
theorem poll_moves {before after : RouterLoop} {visit : Visit} {now : Instant}
    (hpending : before.pending = []) (h : before.poll oneshot visit now = some after) :
    Moves oneshot before (.poll visit now) after := by
  unfold poll at h
  split at h
  · rename_i hphase
    cases h
    refine .turned hpending (by rw [hphase]; rfl) ?_ ?_
    · split <;> simp
    · split <;> rfl
  · rename_i hphase
    split at h
    · rename_i hrecv
      cases h
      exact .tookEvent hpending (by rw [hphase]; rfl) (by simp) hrecv rfl
    · rename_i hrecv
      cases h
      refine .turned hpending (by rw [hphase]; rfl) (fun _ => ?_) rfl
      exact Library.Channel.tryRecv_eq_none.mp hrecv
  · rename_i hphase
    split at h
    · rename_i hrecv
      cases h
      exact .tookFrame hpending hphase hrecv
    · cases h
      exact .turned hpending (by rw [hphase]; rfl) (by simp) rfl
  · rename_i hphase
    split at h
    · rename_i hrecv
      cases h
      have hrunning : before.phase.isRunning = true := by rw [hphase]; rfl
      exact .tookEvent hpending hrunning (by simp [handle, hphase]) hrecv hrunning
    · cases h
      exact .swept hpending
  · cases h
    exact .closed hpending
  · cases h

/-- Every step is one of these. -/
theorem step_moves {before after : RouterLoop} {action : Action}
    (h : before.step oneshot action = some after) : Moves oneshot before action after := by
  cases action with
  | sendEvent event =>
    simp only [step] at h
    split at h
    · rename_i hsend
      cases h
      exact .sentEvent hsend
    · cases h
  | sendFrame routerFrame =>
    simp only [step] at h
    split at h
    · rename_i hsend
      cases h
      exact .sentFrame hsend
    · cases h
  | cancel =>
    cases h
    exact .cancelled
  | own id update =>
    cases h
    exact .owned id update
  | statsTask update =>
    cases h
    exact .statsTaken update
  | poll visit now =>
    simp only [step] at h
    split at h
    · rename_i hpending
      exact poll_moves hpending h
    · cases h
  | perform =>
    simp only [step] at h
    split at h
    · cases h
    · rename_i hpending
      cases h
      exact .performed hpending

end RouterLoop

end MavlinkRouter
