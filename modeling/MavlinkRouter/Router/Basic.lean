import MavlinkRouter.Endpoint.Ports
import MavlinkRouter.Library.Channel
import MavlinkRouter.Library.KeyedMap
import MavlinkRouter.Router.Learn

/-!
# The router

The registry of endpoints, the group learn-sets, the dedup window and the two
handlers of `src/router`. A hash map is a finite map whose order of entries carries
no meaning; the loop over the registry takes the order of its visits as an argument.
Accesses to the state shared with the endpoints are returned
as a list of effects, in the order in which they are made.
-/

namespace MavlinkRouter

/-- A span of time, in nanoseconds. -/
abbrev Duration := ℕ

/-- `Duration::from_millis`. -/
def durationFromMillis (millis : UInt64) : Duration :=
  millis.toNat * 1000000

/-- A frame hash in the dedup window and the time at which it expires. -/
structure DedupEntry where
  hash : UInt64
  deadline : Instant
  deriving DecidableEq, Repr

/-- The window of recent frame hashes; a `ttl` of 0 disables it. -/
structure DedupWindow where
  ring : List DedupEntry
  set : Finset UInt64
  capacity : ℕ
  ttl : Duration
  deriving DecidableEq

namespace DedupWindow

def new (ttl : Duration) (capacity : ℕ) : DedupWindow where
  ring := []
  set := ∅
  capacity := max capacity 1
  ttl := ttl

def isEnabled (window : DedupWindow) : Bool :=
  window.ttl ≠ 0

/-- Drop entries from the head of the ring whose deadline has come. -/
def expireRing (now : Instant) : List DedupEntry → Finset UInt64 → List DedupEntry × Finset UInt64
  | [], set => ([], set)
  | front :: ring, set =>
    if now < front.deadline then (front :: ring, set)
    else expireRing now ring (set.erase front.hash)

def expireStale (window : DedupWindow) (now : Instant) : DedupWindow :=
  let (ring, set) := expireRing now window.ring window.set
  { window with ring := ring, set := set }

def evictOldest (window : DedupWindow) : DedupWindow :=
  match window.ring with
  | [] => window
  | victim :: ring => { window with ring := ring, set := window.set.erase victim.hash }

/-- Whether the frame is a live duplicate; otherwise its hash enters the window.
`oneshot` stands for the frame hash, `XxHash3_64::oneshot`. -/
def checkAndInsert (oneshot : List UInt8 → UInt64) (window : DedupWindow) (frame : Bytes)
    (now : Instant) : Bool × DedupWindow :=
  if window.isEnabled then
    let expired := window.expireStale now
    let hash := oneshot frame.data
    if hash ∈ expired.set then (true, expired)
    else
      let roomy := if expired.capacity ≤ expired.ring.length then expired.evictOldest else expired
      (false, { roomy with
        ring := roomy.ring ++ [⟨hash, now + roomy.ttl⟩]
        set := insert hash roomy.set })
  else (false, window)

end DedupWindow

/-- The shared learn-set of a group and the number of its registered members. -/
structure GroupLearn where
  learn : LearnTable
  members : ℕ

/-- The groups by name. -/
structure GroupRegistry where
  map : AList fun _ : String => GroupLearn

namespace GroupRegistry

def new : GroupRegistry where
  map := ∅

def get (groups : GroupRegistry) (name : String) : Option GroupLearn :=
  groups.map.lookup name

/-- Register a member; the first one creates the group's table. -/
def join (groups : GroupRegistry) (name : String) (capacity : ℕ) : GroupRegistry :=
  let entry := (groups.get name).getD { learn := LearnTable.new capacity, members := 0 }
  { map := groups.map.insert name { entry with members := entry.members + 1 } }

/-- Unregister a member; the last one takes the group's table away. -/
def leave (groups : GroupRegistry) (name : String) : GroupRegistry :=
  match groups.get name with
  | none => groups
  | some entry =>
    if entry.members - 1 = 0 then { map := groups.map.erase name }
    else { map := groups.map.insert name { entry with members := entry.members - 1 } }

/-- Store a group's learn table through `get_mut`. -/
def setLearn (groups : GroupRegistry) (name : String) (group : GroupLearn) (learn : LearnTable) :
    GroupRegistry :=
  { map := groups.map.insert name { group with learn := learn } }

end GroupRegistry

/-- Outcome of the per-destination decision. -/
inductive Decision where
  | admitted
  | loopBlocked
  | outFilterBlocked
  | targetMismatch
  deriving DecidableEq, Repr

/-- Whether the frame's target, if it names one, has been learned. -/
def targetMatch (header : ParsedHeader) (learn : LearnTable) : Bool :=
  match header.targetSystem with
  | none => true
  | some targetSys =>
    if targetSys = 0 then true
    else
      match header.targetComponent with
      | none => learn.containsSys targetSys
      | some comp =>
        if comp = 0 then learn.containsSys targetSys else learn.contains ⟨targetSys, comp⟩

/-- The decision for one destination. -/
def decide (header : ParsedHeader) (destLearn : LearnTable) (destIdentity : IdentityFlags)
    (srcEndpointName : String) : Decision :=
  if destIdentity.sniffer then .admitted
  else if destLearn.contains header.source then .loopBlocked
  else if !destIdentity.filters.passesOutFilter header.msgid header.source srcEndpointName then
    .outFilterBlocked
  else if !targetMatch header destLearn then .targetMismatch
  else .admitted

/-- Dispatch state of a routable endpoint. The table is used only without a group. -/
structure RoutableState where
  identity : IdentityFlags
  endpointName : String
  learn : LearnTable

/-- A registered endpoint; parent listeners are not routable. -/
structure RegisteredEndpoint where
  name : String
  routable : Option RoutableState

/-- Store the learn table of a routable endpoint through `get_mut`. -/
def RegisteredEndpoint.setLearn (entry : RegisteredEndpoint) (state : RoutableState)
    (learn : LearnTable) : RegisteredEndpoint :=
  { entry with routable := some { state with learn := learn } }

/-- Lifecycle events forwarded to the stats task. -/
inductive StatsEvent where
  | register (id : EndpointId) (name : String) (routable : Bool)
  | finalize (id : EndpointId)
  deriving DecidableEq, Repr

/-- The registry of endpoints. -/
abbrev Registry := AList fun _ : EndpointId => RegisteredEndpoint

/-- An order in which the entries of the registry may be visited. -/
abbrev Visit := Library.Traversal (Σ _ : EndpointId, RegisteredEndpoint)

/-- The state owned by the router task, and the channel to the stats task. -/
structure Router where
  routing : Registry
  groups : GroupRegistry
  dedup : DedupWindow
  statsEvents : Library.Channel StatsEvent
  statsEventsDropped : UInt64

/-- Outcome of admission at the source. -/
inductive SourceAdmission where
  | admitted (srcEndpointName : String)
  | suppressed
  deriving DecidableEq, Repr

/-- Size of a learn table. -/
def learnCapacity : ℕ := 32

namespace Router

def new (statsEvents : Library.Channel StatsEvent) (dedupMs : UInt64)
    (dedupWindowCapacity : ℕ) : Router where
  routing := ∅
  groups := .new
  dedup := .new (durationFromMillis dedupMs) dedupWindowCapacity
  statsEvents := statsEvents
  statsEventsDropped := 0

/-- Forward an event to the stats task; a full channel drops it. -/
def forwardStats (router : Router) (event : StatsEvent) : Router :=
  match router.statsEvents.trySend event with
  | .ok statsEvents => { router with statsEvents := statsEvents }
  | .error .full => { router with statsEventsDropped := router.statsEventsDropped + 1 }
  | .error .closed => router

/-- Join the group, if any, and start with an empty learn table. -/
def buildRoutableState (router : Router) (payload : Routable) : RoutableState × Router :=
  ({ identity := payload.identity
     endpointName := payload.endpointName
     learn := LearnTable.new learnCapacity },
    match payload.identity.group with
    | some group => { router with groups := router.groups.join group learnCapacity }
    | none => router)

def registerRoutable (router : Router) (id : EndpointId) (name : String)
    (routableState : Option RoutableState) : Router :=
  { router with routing := router.routing.insert id ⟨name, routableState⟩ }.forwardStats
    (.register id name routableState.isSome)

/-- Leave the group of a removed endpoint, if it was in one. -/
def leaveGroup (router : Router) (entry : RegisteredEndpoint) : Router :=
  match entry.routable with
  | none => router
  | some routableState =>
    match routableState.identity.group with
    | none => router
    | some group => { router with groups := router.groups.leave group }

/-- Handle one lifecycle event. -/
def handleEvent (router : Router) : EndpointEvent → Router × List Effect
  | .endpointAdded id name none => (router.registerRoutable id name none, [])
  | .endpointAdded id name (some payload) =>
    let (routableState, joined) := router.buildRoutableState payload
    (joined.registerRoutable id name (some routableState), [])
  | .peerAdded _ childId name payload =>
    let (routableState, joined) := router.buildRoutableState payload
    (joined.registerRoutable childId name (some routableState), [])
  | .peerRemoved _ childId reason =>
    match router.routing.lookup childId with
    | none => (router.forwardStats (.finalize childId), [])
    | some entry =>
      (({ router with routing := router.routing.erase childId }.leaveGroup entry).forwardStats
        (.finalize childId), [⟨childId, .storeState reason.finalState⟩])

/-- Validate the source, run dedup, then touch the source's effective learn-set and
publish its length. -/
def ingestSourceFrame (oneshot : List UInt8 → UInt64) (router : Router)
    (routerFrame : RouterFrame) (now : Instant) : SourceAdmission × Router × List Effect :=
  match router.routing.lookup routerFrame.endpointId with
  | none => (.suppressed, router, [])
  | some srcEntry =>
    match srcEntry.routable with
    | none => (.suppressed, router, [])
    | some srcRoutable =>
      let (duplicate, dedup) := router.dedup.checkAndInsert oneshot routerFrame.frame now
      if duplicate then
        (.suppressed, { router with dedup := dedup }, [⟨routerFrame.endpointId, .addDedupDrop⟩])
      else
        match srcRoutable.identity.group with
        | some name =>
          match router.groups.get name with
          | none => (.suppressed, { router with dedup := dedup }, [])
          | some group =>
            let learn := (group.learn.touch routerFrame.header.source now).1
            (.admitted srcRoutable.endpointName,
              { router with
                dedup := dedup
                groups := router.groups.setLearn name group learn },
              [⟨routerFrame.endpointId, .storeLearnEntries learn.len⟩])
        | none =>
          let learn := (srcRoutable.learn.touch routerFrame.header.source now).1
          (.admitted srcRoutable.endpointName,
            { router with
              dedup := dedup
              routing := router.routing.insert routerFrame.endpointId
                (srcEntry.setLearn srcRoutable learn) },
            [⟨routerFrame.endpointId, .storeLearnEntries learn.len⟩])

/-- The learn table an endpoint's decisions use: its group's, or its own. -/
def effectiveLearn (router : Router) (state : RoutableState) : Option LearnTable :=
  match state.identity.group with
  | some name => (router.groups.get name).map GroupLearn.learn
  | none => some state.learn

/-- What the dispatch loop does for one entry of the registry. -/
def dispatchTo (router : Router) (routerFrame : RouterFrame) (srcEndpointName : String)
    (dest : Σ _ : EndpointId, RegisteredEndpoint) : List Effect :=
  if dest.1 = routerFrame.endpointId then []
  else
    match dest.2.routable with
    | none => []
    | some destRoutable =>
      match router.effectiveLearn destRoutable with
      | none => []
      | some destLearn =>
        match decide routerFrame.header destLearn destRoutable.identity srcEndpointName with
        | .admitted => [⟨dest.1, .push routerFrame.frame⟩]
        | .outFilterBlocked => [⟨dest.1, .addOutFilterDrop⟩]
        | .loopBlocked => []
        | .targetMismatch => []

/-- The dispatch loop over the registry. -/
def dispatchToDestinations (router : Router) (visit : Visit) (routerFrame : RouterFrame)
    (srcEndpointName : String) : List Effect :=
  (visit.order router.routing.entries).flatMap (router.dispatchTo routerFrame srcEndpointName)

/-- Handle one frame. -/
def handleFrame (oneshot : List UInt8 → UInt64) (visit : Visit) (router : Router)
    (routerFrame : RouterFrame) (now : Instant) : Router × List Effect :=
  match router.ingestSourceFrame oneshot routerFrame now with
  | (.suppressed, ingested, effects) => (ingested, effects)
  | (.admitted srcEndpointName, ingested, effects) =>
    (ingested, effects ++ ingested.dispatchToDestinations visit routerFrame srcEndpointName)

/-- Take down every endpoint that is still registered at shutdown. -/
def shutdownSweep (visit : Visit) (router : Router) : Router × List Effect :=
  let survivors := visit.order router.routing.entries
  (survivors.foldl (fun swept entry => swept.forwardStats (.finalize entry.1))
      { router with routing := ∅ },
    survivors.map fun entry => ⟨entry.1, .storeState .down⟩)

end Router

end MavlinkRouter
