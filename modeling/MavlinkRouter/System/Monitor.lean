import MavlinkRouter.Library.Execution
import MavlinkRouter.Router.Run
import MavlinkRouter.Stats.Task

/-!
# The router next to the stats task

The accesses of the router's handlers to the endpoints' counters and to the stats channel,
in the order of the source, and the two tasks side by side. The router performs one access
at a time; the stats task takes events from its channel and queues and writes lines at any
time in between. Handling goes on through the drain after cancellation, and the final sweep
takes down what is left.
-/

namespace MavlinkRouter

/-- One access of the router task to what it shares with other tasks. -/
inductive RouterAccess where
  | port (effect : Effect)
  | forward (event : StatsEvent)
  deriving DecidableEq, Repr

/-- The stats event an access forwards. -/
def RouterAccess.forwarded? : RouterAccess → Option StatsEvent
  | .port _ => none
  | .forward event => some event

/-- The stats events that accesses forward, in order. -/
def forwards (accesses : List RouterAccess) : List StatsEvent :=
  accesses.filterMap RouterAccess.forwarded?

/-- What is forwarded by one list after another. -/
@[simp] theorem forwards_append (accesses accesses' : List RouterAccess) :
    forwards (accesses ++ accesses') = forwards accesses ++ forwards accesses' :=
  List.filterMap_append

/-- Accesses to ports forward nothing. -/
@[simp] theorem forwards_port (effects : List Effect) :
    forwards (effects.map .port) = [] := by
  simp [forwards, List.filterMap_eq_nil_iff, RouterAccess.forwarded?]

namespace Router

/-- The accesses of `handle_event`, in order. -/
def eventAccesses (router : Router) : EndpointEvent → List RouterAccess
  | .endpointAdded id name routable => [.forward (.register id name routable.isSome)]
  | .peerAdded _ childId name _ => [.forward (.register childId name true)]
  | .peerRemoved _ childId reason =>
    if (router.routing.lookup childId).isSome then
      [.port ⟨childId, .storeState reason.finalState⟩, .forward (.finalize childId)]
    else [.forward (.finalize childId)]

/-- The accesses of `shutdown_sweep` to one survivor, in order. -/
def takeDown (id : EndpointId) : List RouterAccess :=
  [.port ⟨id, .storeState .down⟩, .forward (.finalize id)]

/-- The accesses of `shutdown_sweep`, in order. -/
def sweepAccesses (visit : Visit) (router : Router) : List RouterAccess :=
  (visit.order router.routing.entries).flatMap fun entry => takeDown entry.1

/-- The same routing state with the stats channel of another router. -/
def withStatsOf (router other : Router) : Router :=
  { router with
    statsEvents := other.statsEvents
    statsEventsDropped := other.statsEventsDropped }

/-- The router after `handle_event`, apart from what it forwards. -/
def afterEvent (router : Router) (event : EndpointEvent) : Router :=
  (router.handleEvent event).1.withStatsOf router

/-- Perform one access. -/
def perform (state : Router × Ports) : RouterAccess → Router × Ports
  | .port effect => (state.1, state.2.apply effect)
  | .forward event => (state.1.forwardStats event, state.2)

/-- An access leaves the registry alone. -/
@[simp] theorem routing_perform (state : Router × Ports) (access : RouterAccess) :
    (perform state access).1.routing = state.1.routing := by
  cases access with
  | port effect => rfl
  | forward event => exact forwardStats_routing _ _

/-- The event an access loses to a full stats channel. -/
def dropped? (router : Router) : RouterAccess → Option StatsEvent
  | .port _ => none
  | .forward event =>
    match router.statsEvents.trySend event with
    | .error .full => some event
    | _ => none

/-- Forwarding touches nothing but the stats channel. -/
theorem forwardStats_withStatsOf {router other : Router} (event : StatsEvent)
    (hchannel : other.statsEvents = router.statsEvents)
    (hdropped : other.statsEventsDropped = router.statsEventsDropped) :
    (router.forwardStats event).withStatsOf other = router := by
  unfold forwardStats withStatsOf
  split <;> simp [hchannel, hdropped]

/-- A handler that ends with its forward is its routing part followed by its accesses. -/
theorem foldl_perform_of_forwardStats {router core : Router} {event : EndpointEvent}
    {forwarded : StatsEvent} {effects : List Effect} (ports : Ports)
    (hhandle : router.handleEvent event = (core.forwardStats forwarded, effects))
    (haccesses : router.eventAccesses event = effects.map .port ++ [.forward forwarded])
    (hchannel : router.statsEvents = core.statsEvents)
    (hdropped : router.statsEventsDropped = core.statsEventsDropped) :
    (router.eventAccesses event).foldl perform (router.afterEvent event, ports) =
      (core.forwardStats forwarded, ports.applyAll effects) := by
  have hafter : router.afterEvent event = core := by
    rw [afterEvent, hhandle, forwardStats_withStatsOf forwarded hchannel hdropped]
  rw [haccesses, hafter, List.foldl_append]
  clear haccesses hafter hhandle
  induction effects generalizing ports with
  | nil => rfl
  | cons effect effects ih => exact ih (ports.apply effect)

/-- `handle_event` is its routing part followed by its accesses. -/
theorem handleEvent_eq_perform (router : Router) (ports : Ports) (event : EndpointEvent) :
    (router.eventAccesses event).foldl perform (router.afterEvent event, ports) =
      ((router.handleEvent event).1, ports.applyAll (router.handleEvent event).2) := by
  have hregisters : ∀ id name payload, event.registration? = some (id, name, payload) →
      router.eventAccesses event = [.forward (.register id name payload.isSome)] →
      (router.eventAccesses event).foldl perform (router.afterEvent event, ports) =
        ((router.handleEvent event).1, ports.applyAll (router.handleEvent event).2) := by
    intro id name payload hregistration haccesses
    have hhandle := handleEvent_of_registration router hregistration
    rw [foldl_perform_of_forwardStats ports hhandle haccesses rfl rfl, hhandle]
  cases event with
  | endpointAdded id name routable => exact hregisters id name routable rfl rfl
  | peerAdded parentId childId name routable =>
    exact hregisters childId name (some routable) rfl rfl
  | peerRemoved parentId childId reason =>
    cases hentry : router.routing.lookup childId with
    | none =>
      have hhandle := handleEvent_of_unknown parentId reason hentry
      have haccesses : router.eventAccesses (.peerRemoved parentId childId reason) =
          [.forward (.finalize childId)] := by
        rw [eventAccesses, hentry]
        rfl
      rw [foldl_perform_of_forwardStats ports hhandle haccesses rfl rfl, hhandle]
    | some entry =>
      have hhandle := handleEvent_of_removal parentId reason hentry
      have haccesses : router.eventAccesses (.peerRemoved parentId childId reason) =
          [.port ⟨childId, .storeState reason.finalState⟩, .forward (.finalize childId)] := by
        rw [eventAccesses, hentry]
        rfl
      rw [foldl_perform_of_forwardStats ports hhandle haccesses rfl rfl, hhandle]

/-- `shutdown_sweep` empties the registry and performs its accesses. -/
theorem shutdownSweep_eq_perform (visit : Visit) (router : Router) (ports : Ports) :
    (router.sweepAccesses visit).foldl perform ({ router with routing := ∅ }, ports) =
      ((router.shutdownSweep visit).1, ports.applyAll (router.shutdownSweep visit).2) := by
  unfold sweepAccesses shutdownSweep
  dsimp only
  generalize visit.order router.routing.entries = survivors
  generalize ({ router with routing := ∅ } : Router) = swept
  induction survivors generalizing swept ports with
  | nil => rfl
  | cons survivor survivors ih =>
    rw [List.flatMap_cons, List.foldl_append, List.map_cons, List.foldl_cons]
    exact ih _ _

/-- The events a handled event forwards. -/
theorem forwards_eventAccesses (router : Router) (event : EndpointEvent) :
    (∃ id name payload, event.registration? = some (id, name, payload) ∧
      forwards (router.eventAccesses event) = [.register id name payload.isSome]) ∨
    ∃ id, event.removed? = some id ∧ forwards (router.eventAccesses event) = [.finalize id] := by
  cases event with
  | endpointAdded id name routable => exact .inl ⟨id, name, routable, rfl, rfl⟩
  | peerAdded parentId childId name routable =>
    exact .inl ⟨childId, name, some routable, rfl, rfl⟩
  | peerRemoved parentId childId reason =>
    refine .inr ⟨childId, rfl, ?_⟩
    rw [eventAccesses]
    split <;> rfl

/-- A handled event makes its accesses to the shared state before it forwards. -/
theorem eventAccesses_eq_append (router : Router) (event : EndpointEvent) :
    ∃ (effects : List Effect) (forwarded : StatsEvent),
      router.eventAccesses event = effects.map .port ++ [.forward forwarded] := by
  cases event with
  | endpointAdded id name routable => exact ⟨[], _, rfl⟩
  | peerAdded parentId childId name routable => exact ⟨[], _, rfl⟩
  | peerRemoved parentId childId reason =>
    rw [eventAccesses]
    split
    · exact ⟨[⟨childId, .storeState reason.finalState⟩], _, rfl⟩
    · exact ⟨[], _, rfl⟩

/-- Forwarding appends to an open channel, or counts a dropped event when it is full. -/
theorem forwardStats_cases {router : Router} (hopen : router.statsEvents.receiverOpen = true)
    (event : StatsEvent) :
    (router.forwardStats event).statsEvents.receiverOpen = true ∧
      ((router.forwardStats event).statsEvents.items = router.statsEvents.items ++ [event] ∧
          (router.forwardStats event).statsEventsDropped = router.statsEventsDropped ∧
          router.dropped? (.forward event) = none ∨
        (router.forwardStats event).statsEventsDropped = router.statsEventsDropped + 1 ∧
          router.dropped? (.forward event) = some event) := by
  unfold forwardStats
  cases hsend : router.statsEvents.trySend event with
  | ok statsEvents =>
    have hitems := Library.Channel.items_of_trySend hsend
    have hreceiver := Library.Channel.receiverOpen_of_trySend hsend
    exact ⟨hreceiver.trans hopen, .inl ⟨hitems, rfl, by rw [dropped?, hsend]⟩⟩
  | error refusal =>
    cases refusal with
    | full => exact ⟨hopen, .inr ⟨rfl, by rw [dropped?, hsend]⟩⟩
    | closed => exact absurd hsend (Library.Channel.trySend_ne_closed hopen event)

end Router

/-- The router and the stats task. Accesses the router has still to perform are in
`pending`; `handled`, `log`, `dropped` and `received` record what was handled, performed,
dropped for a full stats channel and taken from it. -/
structure Monitor where
  router : Router
  ports : Ports
  pending : List RouterAccess
  swept : Bool
  stats : Stats.Task
  handled : List Input
  log : List RouterAccess
  dropped : List StatsEvent
  received : List StatsEvent

namespace Monitor

/-- One step of either task, or of an endpoint on its own state. -/
inductive Action where
  | event (event : EndpointEvent)
  | frame (visit : Visit) (routerFrame : RouterFrame) (now : Instant)
  | sweep (visit : Visit)
  | perform
  | own (id : EndpointId) (update : Port → Port)
  | receive (ts : String)
  | tick (visit : Stats.Visit) (ts : String)
  | write (outcome : Stats.WriteOutcome)

def start (statsCapacity : ℕ) (dedupMs : UInt64) (dedupWindowCapacity : ℕ) (ports : Ports) :
    Monitor where
  router := .new (.new statsCapacity) dedupMs dedupWindowCapacity
  ports := ports
  pending := []
  swept := false
  stats := .new
  handled := []
  log := []
  dropped := []
  received := []

/-- The router takes an input, with the accesses it then has to perform. -/
@[simps router pending swept handled]
def handle (monitor : Monitor) (input : Input) (router : Router)
    (pending : List RouterAccess) : Monitor :=
  { monitor with
    router := router
    pending := pending
    handled := monitor.handled ++ [input] }

/-- One step, if it is enabled. -/
def step (oneshot : List UInt8 → UInt64) (cfg : Stats.StatsRunConfig) (monitor : Monitor) :
    Action → Option Monitor
  | .event event =>
    match monitor.pending, monitor.swept with
    | [], false =>
      some (monitor.handle (.event event) (monitor.router.afterEvent event)
        (monitor.router.eventAccesses event))
    | _, _ => none
  | .frame visit routerFrame now =>
    match monitor.pending, monitor.swept with
    | [], false =>
      some (monitor.handle (.frame visit routerFrame now)
        (monitor.router.handleFrame oneshot visit routerFrame now).1
        ((monitor.router.handleFrame oneshot visit routerFrame now).2.map .port))
    | _, _ => none
  | .sweep visit =>
    match monitor.pending, monitor.swept with
    | [], false =>
      some { monitor with
        router.routing := ∅
        pending := monitor.router.sweepAccesses visit
        swept := true }
    | _, _ => none
  | .perform =>
    match monitor.pending with
    | [] => none
    | access :: pending =>
      some { monitor with
        router := (Router.perform (monitor.router, monitor.ports) access).1
        ports := (Router.perform (monitor.router, monitor.ports) access).2
        pending := pending
        log := monitor.log ++ [access]
        dropped := monitor.dropped ++ (monitor.router.dropped? access).toList }
  | .own id update =>
    some { monitor with
      ports := Function.update monitor.ports id (update (monitor.ports id)) }
  | .receive ts =>
    match monitor.router.statsEvents.tryRecv with
    | none => none
    | some (event, statsEvents) =>
      some { monitor with
        router.statsEvents := statsEvents
        stats := monitor.stats.handleEvent cfg monitor.ports ts event
        received := monitor.received ++ [event] }
  | .tick visit ts =>
    if cfg.enabled then
      some { monitor with stats := monitor.stats.emitIntervalLines cfg visit monitor.ports ts }
    else none
  | .write outcome =>
    match monitor.stats.writeNext outcome with
    | none => none
    | some stats => some { monitor with stats := stats }

/-- The events that went over the stats channel: those taken and those in flight. -/
def stream (monitor : Monitor) : List StatsEvent :=
  monitor.received ++ monitor.router.statsEvents.items

/-- The accesses of all handlers so far, performed or not. -/
def script (monitor : Monitor) : List RouterAccess :=
  monitor.log ++ monitor.pending

/-- The router's registry holds the endpoint. The sweep takes the whole registry and
removes its entries one by one, as it takes the endpoints down. -/
def Registered (monitor : Monitor) (id : EndpointId) : Prop :=
  if monitor.swept then .forward (.finalize id) ∈ monitor.pending
  else (monitor.router.routing.lookup id).isSome

variable {oneshot : List UInt8 → UInt64} {cfg : Stats.StatsRunConfig}

/-- Everything one step can do. -/
inductive Moves (oneshot : List UInt8 → UInt64) (before : Monitor) : Monitor → Prop
  | tookEvent (event : EndpointEvent) (hpending : before.pending = [])
      (hswept : before.swept = false) :
    Moves oneshot before (before.handle (.event event) (before.router.afterEvent event)
      (before.router.eventAccesses event))
  | tookFrame (visit : Visit) (routerFrame : RouterFrame) (now : Instant)
      (hpending : before.pending = []) (hswept : before.swept = false) :
    Moves oneshot before (before.handle (.frame visit routerFrame now)
      (before.router.handleFrame oneshot visit routerFrame now).1
      ((before.router.handleFrame oneshot visit routerFrame now).2.map .port))
  | tookAll (visit : Visit) (hpending : before.pending = []) (hswept : before.swept = false) :
    Moves oneshot before { before with
      router.routing := ∅
      pending := before.router.sweepAccesses visit
      swept := true }
  | performed {access : RouterAccess} {pending : List RouterAccess}
      (hpending : before.pending = access :: pending) :
    Moves oneshot before { before with
      router := (Router.perform (before.router, before.ports) access).1
      ports := (Router.perform (before.router, before.ports) access).2
      pending := pending
      log := before.log ++ [access]
      dropped := before.dropped ++ (before.router.dropped? access).toList }
  | received {event : StatsEvent} {statsEvents : Library.Channel StatsEvent}
      {stats : Stats.Task} (hrecv : before.router.statsEvents.tryRecv = some (event, statsEvents))
      (hstats : stats.registry = before.stats.registry.apply event) :
    Moves oneshot before { before with
      router.statsEvents := statsEvents
      stats := stats
      received := before.received ++ [event] }
  | aside (ports : Ports) {stats : Stats.Task}
      (hstats : stats.registry = before.stats.registry) :
    Moves oneshot before { before with ports := ports, stats := stats }

/-- Every step is a move. -/
theorem step_moves {before after : Monitor} {action : Action}
    (h : before.step oneshot cfg action = some after) : Moves oneshot before after := by
  cases action with
  | event lifecycle =>
    simp only [step] at h
    split at h
    · rename_i hpending hswept
      cases h
      exact .tookEvent lifecycle hpending hswept
    · cases h
  | frame visit routerFrame now =>
    simp only [step] at h
    split at h
    · rename_i hpending hswept
      cases h
      exact .tookFrame visit routerFrame now hpending hswept
    · cases h
  | sweep visit =>
    simp only [step] at h
    split at h
    · rename_i hpending hswept
      cases h
      exact .tookAll visit hpending hswept
    · cases h
  | perform =>
    simp only [step] at h
    split at h
    · cases h
    · rename_i hpending
      cases h
      exact .performed hpending
  | own id update =>
    cases h
    exact .aside _ rfl
  | receive ts =>
    simp only [step] at h
    split at h
    · cases h
    · rename_i hrecv
      cases h
      exact .received hrecv (Stats.Task.registry_handleEvent _ _ _ _ _)
  | tick visit ts =>
    simp only [step] at h
    split at h
    · cases h
      exact .aside _ (Stats.Task.registry_emitIntervalLines _ _ _ _ _)
    · cases h
  | write outcome =>
    simp only [step] at h
    split at h
    · cases h
    · rename_i hwrite
      cases h
      exact .aside _ (Stats.Task.registry_writeNext hwrite)

end Monitor

end MavlinkRouter
