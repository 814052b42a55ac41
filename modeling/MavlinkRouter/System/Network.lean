import MavlinkRouter.Endpoint.Session
import MavlinkRouter.System.RouterLoop

/-!
# The system of tasks

The router task together with a reader and a writer for every endpoint. Each action is one
atomic step of one task; a run is any interleaving of them.
-/

namespace MavlinkRouter

/-- The tasks of one endpoint, with the frames its framer emitted and those completely
written on it, in order. -/
structure Link where
  reader : Reader
  writer : Writer
  emitted : List Bytes
  written : List Written

/-- The endpoint before its first session. -/
def Link.new : Link where
  reader := .new
  writer := .idle
  emitted := []
  written := []

namespace Link

/-- The reader moves on. -/
def read (link : Link) (reader : Reader) : Link :=
  { link with reader := reader }

/-- The reader moves on, and its framer may have emitted a frame. -/
def emit (link : Link) (reader : Reader) (frame : Option Bytes) : Link :=
  { link with
    reader := reader
    emitted := link.emitted ++ frame.toList }

/-- The writer moves on, and may have completed a frame. -/
def write (link : Link) (writer : Writer) (frame : Option Written) : Link :=
  { link with
    writer := writer
    written := link.written ++ frame.toList }

end Link

/-- One step of a reader. -/
inductive ReaderStep where
  | receive (data : List UInt8) (now : Instant)
  | forward
  | send
  | restart
  deriving DecidableEq, Repr

/-- All tasks and what they share. -/
structure System where
  loop : RouterLoop
  links : EndpointId → Link

namespace System

/-- One atomic step of one task. -/
inductive Action where
  | sendEvent (event : EndpointEvent)
  | cancel
  | statsTask (update : Library.Channel StatsEvent → Library.Channel StatsEvent)
  | poll (visit : Visit) (now : Instant)
  | perform
  | storeState (id : EndpointId) (state : EndpointState)
  | reader (id : EndpointId) (step : ReaderStep)
  | writer (id : EndpointId) (step : WriterStep)

/-- All tasks at their start, with empty queues of the given capacities. -/
def start (wiring : RouterWiring) (txQueueFrames : EndpointId → ℕ) : System where
  loop := .start wiring fun id => { stats := {}, txQueue := .new (txQueueFrames id) }
  links := fun _ => .new

/-- Replace the tasks of one endpoint. -/
def setLink (system : System) (id : EndpointId) (link : Link) : System :=
  { system with links := Function.update system.links id link }

/-- Replace the state an endpoint shares with the router. -/
def setPort (system : System) (id : EndpointId) (port : Port) : System :=
  { system with loop.ports := Function.update system.loop.ports id port }

/-- Replace the counters of an endpoint. -/
def setStats (system : System) (id : EndpointId) (stats : EndpointStats) : System :=
  system.setPort id ⟨stats, (system.loop.ports id).txQueue⟩

/-- Replace the router's frame channel. -/
def setFrames (system : System) (frames : Library.Channel RouterFrame) : System :=
  { system with loop.frames := frames }

/-- A step of the router task or of the tasks that announce endpoints. -/
def routerStep (oneshot : List UInt8 → UInt64) (system : System) (action : RouterLoop.Action) :
    Option System :=
  (system.loop.step oneshot action).map fun loop => { system with loop := loop }

/-- A step of a reader. A send waits while the channel is full and stops the reader if it
is closed. -/
def readerStep (table : MsgTable) (filters : EndpointId → Filters) (system : System)
    (id : EndpointId) : ReaderStep → Option System
  | .receive data now =>
    ((system.links id).reader.receive data now).map fun reader =>
      system.setLink id ((system.links id).read reader)
  | .forward =>
    ((system.links id).reader.forward table (filters id) id (system.links id).emitted.length
        (system.loop.ports id).stats).map fun result =>
      (system.setStats id result.2.1).setLink id ((system.links id).emit result.1 result.2.2)
  | .send =>
    match (system.links id).reader.phase with
    | .sending routerFrame now =>
      match system.loop.frames.trySend routerFrame with
      | .ok frames =>
        some ((system.setFrames frames).setLink id
          ((system.links id).read ((system.links id).reader.setPhase (.forwarding now))))
      | .error .full => none
      | .error .closed =>
        some (system.setLink id
          ((system.links id).read ((system.links id).reader.setPhase .stopped)))
    | .reading => none
    | .forwarding _ => none
    | .stopped => none
  | .restart =>
    match (system.links id).reader.phase with
    | .reading => some (system.setLink id ((system.links id).read .new))
    | .forwarding _ => none
    | .sending _ _ => none
    | .stopped => none

/-- A step of a writer. -/
def writerStep (system : System) (id : EndpointId) (step : WriterStep) : Option System :=
  ((system.links id).writer.step (system.loop.ports id) step).map fun result =>
    (system.setPort id result.2.1).setLink id ((system.links id).write result.1 result.2.2)

/-- One step of the system. -/
def step (table : MsgTable) (filters : EndpointId → Filters) (oneshot : List UInt8 → UInt64)
    (system : System) : Action → Option System
  | .sendEvent event => system.routerStep oneshot (.sendEvent event)
  | .cancel => system.routerStep oneshot .cancel
  | .statsTask update => system.routerStep oneshot (.statsTask update)
  | .poll visit now => system.routerStep oneshot (.poll visit now)
  | .perform => system.routerStep oneshot .perform
  | .storeState id state =>
    some (system.setStats id ((system.loop.ports id).stats.storeState state))
  | .reader id readerStep => system.readerStep table filters id readerStep
  | .writer id writerStep => system.writerStep id writerStep

end System

end MavlinkRouter
