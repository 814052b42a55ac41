import MavlinkRouter.Router.Basic

/-!
# Runs of the router

What each handler does to the registry and the groups, stated once per handler, and
runs of the router over any sequence of events and frames. Between two calls the
tasks of an endpoint may change their own shared state in any way, and the stats
task may take from its channel.
-/

namespace MavlinkRouter

/-- The group of a registered endpoint, if it is routable and has one. -/
def RegisteredEndpoint.group? (entry : RegisteredEndpoint) : Option String :=
  entry.routable.bind fun state => state.identity.group

/-- Learning keeps an endpoint in its group. -/
theorem RegisteredEndpoint.group?_setLearn {entry : RegisteredEndpoint} {state : RoutableState}
    (hroutable : entry.routable = some state) (learn : LearnTable) :
    (entry.setLearn state learn).group? = entry.group? := by
  simp [group?, setLearn, hroutable]

/-- The entry a registration stores. -/
def RegisteredEndpoint.initial (name : String) (payload : Option Routable) :
    RegisteredEndpoint where
  name := name
  routable := payload.map fun routable =>
    { identity := routable.identity
      endpointName := routable.endpointName
      learn := LearnTable.new learnCapacity }

namespace Router

variable {router : Router} {oneshot : List UInt8 → UInt64}

/-- The dispatch state of an endpoint that is registered and routable. -/
def routable? (router : Router) (id : EndpointId) : Option RoutableState :=
  (router.routing.lookup id).bind RegisteredEndpoint.routable

/-- The routable endpoints are registered. -/
theorem routable?_eq_some {id : EndpointId} {state : RoutableState} :
    router.routable? id = some state ↔
      ∃ entry, router.routing.lookup id = some entry ∧ entry.routable = some state :=
  Option.bind_eq_some_iff

/-- A member of a group learns in the group's table. -/
theorem effectiveLearn_of_group {state : RoutableState} {name : String}
    (hgroup : state.identity.group = some name) :
    router.effectiveLearn state = (router.groups.get name).map GroupLearn.learn := by
  rw [effectiveLearn, hgroup]

/-- An endpoint without a group learns in its own table. -/
theorem effectiveLearn_of_no_group {state : RoutableState} (hgroup : state.identity.group = none) :
    router.effectiveLearn state = some state.learn := by
  rw [effectiveLearn, hgroup]

/-- Forwarding keeps the registry. -/
@[simp] theorem forwardStats_routing (router : Router) (event : StatsEvent) :
    (router.forwardStats event).routing = router.routing := by
  unfold forwardStats
  split <;> rfl

@[simp] private theorem forwardStats_groups (router : Router) (event : StatsEvent) :
    (router.forwardStats event).groups = router.groups := by
  unfold forwardStats
  split <;> rfl

@[simp] private theorem forwardStats_dedup (router : Router) (event : StatsEvent) :
    (router.forwardStats event).dedup = router.dedup := by
  unfold forwardStats
  split <;> rfl

/-- The groups after an endpoint with the given entry joins. -/
def groupsJoined (router : Router) (entry : RegisteredEndpoint) : GroupRegistry :=
  entry.group?.elim router.groups fun name => router.groups.join name learnCapacity

/-- The groups after an endpoint with the given entry leaves. -/
def groupsLeft (router : Router) (entry : RegisteredEndpoint) : GroupRegistry :=
  entry.group?.elim router.groups router.groups.leave

/-- A registration stores a fresh entry, joins its group and tells the stats task. -/
theorem handleEvent_of_registration (router : Router) {event : EndpointEvent} {id : EndpointId}
    {name : String} {payload : Option Routable}
    (h : event.registration? = some (id, name, payload)) :
    router.handleEvent event =
      ({ router with
          routing := router.routing.insert id (.initial name payload)
          groups := router.groupsJoined (.initial name payload) }.forwardStats
        (.register id name payload.isSome), []) := by
  have hsome : ∀ routable : Routable,
      ((router.buildRoutableState routable).2.registerRoutable id name
        (some (router.buildRoutableState routable).1), ([] : List Effect)) =
      ({ router with
          routing := router.routing.insert id (.initial name (some routable))
          groups := router.groupsJoined (.initial name (some routable)) }.forwardStats
        (.register id name true), []) := by
    intro routable
    cases hgroup : routable.identity.group with
    | none =>
      simp [registerRoutable, buildRoutableState, groupsJoined, RegisteredEndpoint.group?,
        RegisteredEndpoint.initial, hgroup]
    | some group =>
      simp [registerRoutable, buildRoutableState, groupsJoined, RegisteredEndpoint.group?,
        RegisteredEndpoint.initial, hgroup]
  cases event with
  | endpointAdded addedId addedName routable =>
    cases h
    cases payload with
    | none =>
      simp [handleEvent, registerRoutable, groupsJoined, RegisteredEndpoint.group?,
        RegisteredEndpoint.initial]
    | some routable => exact hsome routable
  | peerAdded parentId childId addedName routable =>
    cases h
    exact hsome routable
  | peerRemoved parentId childId reason => cases h

/-- A removal of a registered endpoint drops its entry, leaves its group, stores the final
state and tells the stats task. -/
theorem handleEvent_of_removal {id : EndpointId} {entry : RegisteredEndpoint}
    (parentId : EndpointId) (reason : PeerRemovalReason)
    (hentry : router.routing.lookup id = some entry) :
    router.handleEvent (.peerRemoved parentId id reason) =
      ({ router with
          routing := router.routing.erase id
          groups := router.groupsLeft entry }.forwardStats (.finalize id),
        [⟨id, .storeState reason.finalState⟩]) := by
  cases hroutable : entry.routable with
  | none => simp [handleEvent, hentry, leaveGroup, hroutable, groupsLeft, RegisteredEndpoint.group?]
  | some state =>
    cases hgroup : state.identity.group with
    | none =>
      simp [handleEvent, hentry, leaveGroup, hroutable, groupsLeft, RegisteredEndpoint.group?,
        hgroup]
    | some group =>
      simp [handleEvent, hentry, leaveGroup, hroutable, groupsLeft, RegisteredEndpoint.group?,
        hgroup]

/-- A removal of an unknown endpoint only tells the stats task. -/
theorem handleEvent_of_unknown {id : EndpointId} (parentId : EndpointId)
    (reason : PeerRemovalReason) (hentry : router.routing.lookup id = none) :
    router.handleEvent (.peerRemoved parentId id reason) =
      (router.forwardStats (.finalize id), []) := by
  simp [handleEvent, hentry]

/-- The routing state after a registration. -/
structure Registers (router : Router) (id : EndpointId) (entry : RegisteredEndpoint)
    (result : Router × List Effect) : Prop where
  routing : result.1.routing = router.routing.insert id entry
  groups : result.1.groups = router.groupsJoined entry
  dedup : result.1.dedup = router.dedup
  effects : result.2 = []

/-- Handling a registration. -/
theorem handleEvent_registers (router : Router) {event : EndpointEvent} {id : EndpointId}
    {name : String} {payload : Option Routable}
    (h : event.registration? = some (id, name, payload)) :
    Registers router id (.initial name payload) (router.handleEvent event) := by
  rw [handleEvent_of_registration router h]
  constructor <;> simp

/-- The routing state after the removal of a registered endpoint. -/
structure Unregisters (router : Router) (id : EndpointId) (entry : RegisteredEndpoint)
    (state : EndpointState) (result : Router × List Effect) : Prop where
  routing : result.1.routing = router.routing.erase id
  groups : result.1.groups = router.groupsLeft entry
  dedup : result.1.dedup = router.dedup
  effects : result.2 = [⟨id, .storeState state⟩]

/-- Handling the removal of a registered endpoint. -/
theorem handleEvent_unregisters {id : EndpointId} {entry : RegisteredEndpoint}
    (parentId : EndpointId) (reason : PeerRemovalReason)
    (hentry : router.routing.lookup id = some entry) :
    Unregisters router id entry reason.finalState
      (router.handleEvent (.peerRemoved parentId id reason)) := by
  rw [handleEvent_of_removal parentId reason hentry]
  constructor <;> simp

/-- The routing state after the removal of an unknown endpoint. -/
structure Unchanged (router : Router) (result : Router × List Effect) : Prop where
  routing : result.1.routing = router.routing
  groups : result.1.groups = router.groups
  dedup : result.1.dedup = router.dedup
  effects : result.2 = []

/-- Handling the removal of an unknown endpoint. -/
theorem handleEvent_unchanged {id : EndpointId} (parentId : EndpointId)
    (reason : PeerRemovalReason) (hentry : router.routing.lookup id = none) :
    Unchanged router (router.handleEvent (.peerRemoved parentId id reason)) := by
  rw [handleEvent_of_unknown parentId reason hentry]
  constructor <;> simp

/-- An event registers the endpoint it adds and unregisters the one it removes. -/
theorem lookup_handleEvent_isSome (router : Router) (event : EndpointEvent) (id : EndpointId) :
    ((router.handleEvent event).1.routing.lookup id).isSome ↔
      event.added? = some id ∨ (router.routing.lookup id).isSome ∧ event.removed? ≠ some id := by
  have hregisters : ∀ addedId name payload,
      event.registration? = some (addedId, name, payload) → event.removed? = none →
      (((router.handleEvent event).1.routing.lookup id).isSome ↔
        event.added? = some id ∨
          (router.routing.lookup id).isSome ∧ event.removed? ≠ some id) := by
    intro addedId name payload hregistration hremoved
    rw [(handleEvent_registers router hregistration).routing, EndpointEvent.added?, hregistration,
      hremoved]
    by_cases hid : id = addedId
    · subst hid
      simp
    · simp [AList.lookup_insert_ne hid, Ne.symm hid]
  cases event with
  | endpointAdded addedId name routable => exact hregisters addedId name routable rfl rfl
  | peerAdded parentId childId name routable =>
    exact hregisters childId name (some routable) rfl rfl
  | peerRemoved parentId childId reason =>
    have hadded : (EndpointEvent.peerRemoved parentId childId reason).added? = none := rfl
    have hremoved : (EndpointEvent.peerRemoved parentId childId reason).removed? =
      some childId := rfl
    rw [hadded, hremoved]
    cases hentry : router.routing.lookup childId with
    | none =>
      rw [(handleEvent_unchanged parentId reason hentry).routing]
      by_cases hid : id = childId
      · subst hid
        simp [hentry]
      · simp [Ne.symm hid]
    | some entry =>
      rw [(handleEvent_unregisters parentId reason hentry).routing]
      by_cases hid : id = childId
      · subst hid
        simp
      · simp [AList.lookup_erase_ne hid, Ne.symm hid]

/-- Events push nothing. -/
theorem pushesTo_handleEvent (router : Router) (event : EndpointEvent) (dest : EndpointId) :
    pushesTo dest (router.handleEvent event).2 = [] := by
  cases event with
  | endpointAdded id name routable =>
    have hregistration : (EndpointEvent.endpointAdded id name routable).registration? =
      some (id, name, routable) := rfl
    rw [(handleEvent_registers router hregistration).effects]
    rfl
  | peerAdded parentId childId name routable => rfl
  | peerRemoved parentId childId reason =>
    cases hentry : router.routing.lookup childId with
    | none =>
      rw [(handleEvent_unchanged parentId reason hentry).effects]
      rfl
    | some entry =>
      rw [(handleEvent_unregisters parentId reason hentry).effects]
      exact pushesTo_storeState dest [childId] (fun id => id) reason.finalState

/-- The dispatch loop pushes the frame or counts a filtered one. -/
theorem access_of_mem_dispatch {visit : Visit} {routerFrame : RouterFrame}
    {srcEndpointName : String} {effect : Effect}
    (h : effect ∈ router.dispatchToDestinations visit routerFrame srcEndpointName) :
    effect.access = .push routerFrame.frame ∨ effect.access = .addOutFilterDrop := by
  obtain ⟨dest, -, heffect⟩ := List.mem_flatMap.mp h
  unfold dispatchTo at heffect
  split at heffect
  · cases heffect
  · split at heffect
    · cases heffect
    · split at heffect
      · cases heffect
      · split at heffect
        · cases List.mem_singleton.mp heffect
          exact .inl rfl
        · cases List.mem_singleton.mp heffect
          exact .inr rfl
        · cases heffect
        · cases heffect

/-- The final sweep pushes nothing. -/
theorem pushesTo_shutdownSweep (visit : Visit) (router : Router) (dest : EndpointId) :
    pushesTo dest (router.shutdownSweep visit).2 = [] :=
  pushesTo_storeState dest (visit.order router.routing.entries) Sigma.fst .down

/-- The ways in which a frame passes or fails admission at its source. -/
inductive Ingests (oneshot : List UInt8 → UInt64) (router : Router) (routerFrame : RouterFrame)
    (now : Instant) : SourceAdmission × Router × List Effect → Prop
  | unknown (hentry : router.routing.lookup routerFrame.endpointId = none) :
    Ingests oneshot router routerFrame now (.suppressed, router, [])
  | notRoutable {entry : RegisteredEndpoint}
      (hentry : router.routing.lookup routerFrame.endpointId = some entry)
      (hroutable : entry.routable = none) :
    Ingests oneshot router routerFrame now (.suppressed, router, [])
  | duplicate {entry : RegisteredEndpoint} {state : RoutableState} {dedup : DedupWindow}
      (hentry : router.routing.lookup routerFrame.endpointId = some entry)
      (hroutable : entry.routable = some state)
      (hdedup : router.dedup.checkAndInsert oneshot routerFrame.frame now = (true, dedup)) :
    Ingests oneshot router routerFrame now
      (.suppressed, { router with dedup := dedup }, [⟨routerFrame.endpointId, .addDedupDrop⟩])
  | groupMissing {entry : RegisteredEndpoint} {state : RoutableState} {dedup : DedupWindow}
      {name : String}
      (hentry : router.routing.lookup routerFrame.endpointId = some entry)
      (hroutable : entry.routable = some state)
      (hdedup : router.dedup.checkAndInsert oneshot routerFrame.frame now = (false, dedup))
      (hgroup : state.identity.group = some name) (hmissing : router.groups.get name = none) :
    Ingests oneshot router routerFrame now (.suppressed, { router with dedup := dedup }, [])
  | learnedInGroup {entry : RegisteredEndpoint} {state : RoutableState} {dedup : DedupWindow}
      {name : String} {group : GroupLearn}
      (hentry : router.routing.lookup routerFrame.endpointId = some entry)
      (hroutable : entry.routable = some state)
      (hdedup : router.dedup.checkAndInsert oneshot routerFrame.frame now = (false, dedup))
      (hgroup : state.identity.group = some name) (hfound : router.groups.get name = some group) :
    Ingests oneshot router routerFrame now
      (.admitted state.endpointName,
        { router with
          dedup := dedup
          groups := router.groups.setLearn name group
            (group.learn.touch routerFrame.header.source now).1 },
        [⟨routerFrame.endpointId,
          .storeLearnEntries (group.learn.touch routerFrame.header.source now).1.len⟩])
  | learned {entry : RegisteredEndpoint} {state : RoutableState} {dedup : DedupWindow}
      (hentry : router.routing.lookup routerFrame.endpointId = some entry)
      (hroutable : entry.routable = some state)
      (hdedup : router.dedup.checkAndInsert oneshot routerFrame.frame now = (false, dedup))
      (hgroup : state.identity.group = none) :
    Ingests oneshot router routerFrame now
      (.admitted state.endpointName,
        { router with
          dedup := dedup
          routing := router.routing.insert routerFrame.endpointId
            (entry.setLearn state (state.learn.touch routerFrame.header.source now).1) },
        [⟨routerFrame.endpointId,
          .storeLearnEntries (state.learn.touch routerFrame.header.source now).1.len⟩])

/-- Admission takes one of these ways. -/
theorem ingestSourceFrame_ingests (oneshot : List UInt8 → UInt64) (router : Router)
    (routerFrame : RouterFrame) (now : Instant) :
    Ingests oneshot router routerFrame now
      (router.ingestSourceFrame oneshot routerFrame now) := by
  unfold ingestSourceFrame
  split
  · rename_i hentry
    exact .unknown hentry
  · rename_i entry hentry
    split
    · rename_i hroutable
      exact .notRoutable hentry hroutable
    · rename_i state hroutable
      rcases hdedup : router.dedup.checkAndInsert oneshot routerFrame.frame now with
        ⟨duplicate, dedup⟩
      cases duplicate with
      | true => exact .duplicate hentry hroutable hdedup
      | false =>
        simp only [Bool.false_eq_true, if_false]
        split
        · rename_i name hgroup
          split
          · rename_i hmissing
            exact .groupMissing hentry hroutable hdedup hgroup hmissing
          · rename_i group hfound
            exact .learnedInGroup hentry hroutable hdedup hgroup hfound
        · rename_i hgroup
          exact .learned hentry hroutable hdedup hgroup

section

variable {routerFrame : RouterFrame} {now : Instant}
  {result : SourceAdmission × Router × List Effect} {srcEndpointName : String}

/-- The way determines the result. -/
theorem Ingests.eq (h : Ingests oneshot router routerFrame now result) :
    router.ingestSourceFrame oneshot routerFrame now = result := by
  cases h with
  | unknown hentry => simp [ingestSourceFrame, hentry]
  | notRoutable hentry hroutable => simp [ingestSourceFrame, hentry, hroutable]
  | duplicate hentry hroutable hdedup => simp [ingestSourceFrame, hentry, hroutable, hdedup]
  | groupMissing hentry hroutable hdedup hgroup hmissing =>
    simp [ingestSourceFrame, hentry, hroutable, hdedup, hgroup, hmissing]
  | learnedInGroup hentry hroutable hdedup hgroup hfound =>
    simp [ingestSourceFrame, hentry, hroutable, hdedup, hgroup, hfound]
  | learned hentry hroutable hdedup hgroup =>
    simp [ingestSourceFrame, hentry, hroutable, hdedup, hgroup]

/-- Admission neither registers nor removes an endpoint. -/
theorem Ingests.lookup_eq_none (h : Ingests oneshot router routerFrame now result)
    (id : EndpointId) :
    result.2.1.routing.lookup id = none ↔ router.routing.lookup id = none := by
  cases h with
  | unknown hentry => rfl
  | notRoutable hentry hroutable => rfl
  | duplicate hentry hroutable hdedup => rfl
  | groupMissing hentry hroutable hdedup hgroup hmissing => rfl
  | learnedInGroup hentry hroutable hdedup hgroup hfound => rfl
  | learned hentry hroutable hdedup hgroup =>
    by_cases hid : id = routerFrame.endpointId
    · subst hid
      rw [AList.lookup_insert, hentry]
      simp
    · rw [AList.lookup_insert_ne hid]

/-- Admission leaves the entries of all other endpoints alone. -/
theorem Ingests.lookup_of_ne (h : Ingests oneshot router routerFrame now result)
    {id : EndpointId} (hid : id ≠ routerFrame.endpointId) :
    result.2.1.routing.lookup id = router.routing.lookup id := by
  cases h with
  | unknown hentry => rfl
  | notRoutable hentry hroutable => rfl
  | duplicate hentry hroutable hdedup => rfl
  | groupMissing hentry hroutable hdedup hgroup hmissing => rfl
  | learnedInGroup hentry hroutable hdedup hgroup hfound => rfl
  | learned hentry hroutable hdedup hgroup => exact AList.lookup_insert_ne hid

/-- Admission tells the stats task nothing. -/
theorem Ingests.stats_eq (h : Ingests oneshot router routerFrame now result) :
    result.2.1.statsEvents = router.statsEvents ∧
      result.2.1.statsEventsDropped = router.statsEventsDropped := by
  cases h <;> exact ⟨rfl, rfl⟩

/-- Admission only publishes the size of the source's learn-set. -/
theorem Ingests.effects_of_admitted (h : Ingests oneshot router routerFrame now result)
    (hadmitted : result.1 = .admitted srcEndpointName) :
    ∃ count, result.2.2 = [⟨routerFrame.endpointId, .storeLearnEntries count⟩] := by
  cases h with
  | unknown hentry => cases hadmitted
  | notRoutable hentry hroutable => cases hadmitted
  | duplicate hentry hroutable hdedup => cases hadmitted
  | groupMissing hentry hroutable hdedup hgroup hmissing => cases hadmitted
  | learnedInGroup hentry hroutable hdedup hgroup hfound => exact ⟨_, rfl⟩
  | learned hentry hroutable hdedup hgroup => exact ⟨_, rfl⟩

/-- Admission pushes nothing. -/
theorem Ingests.pushesTo_eq_nil (h : Ingests oneshot router routerFrame now result)
    (id : EndpointId) : pushesTo id result.2.2 = [] := by
  cases h with
  | unknown hentry => rfl
  | notRoutable hentry hroutable => rfl
  | duplicate hentry hroutable hdedup =>
    rw [pushesTo, accessesTo_cons]
    split <;> rfl
  | groupMissing hentry hroutable hdedup hgroup hmissing => rfl
  | learnedInGroup hentry hroutable hdedup hgroup hfound =>
    rw [pushesTo, accessesTo_cons]
    split <;> rfl
  | learned hentry hroutable hdedup hgroup =>
    rw [pushesTo, accessesTo_cons]
    split <;> rfl

/-- Admission is on behalf of the source's entry, and the source is then in the learn-set
of its group. -/
theorem Ingests.source_of_admitted (h : Ingests oneshot router routerFrame now result)
    (hadmitted : result.1 = .admitted srcEndpointName) :
    ∃ state, router.routable? routerFrame.endpointId = some state ∧
      state.endpointName = srcEndpointName ∧
      ∀ name, state.identity.group = some name → ∃ group,
        result.2.1.groups.get name = some group ∧
          routerFrame.header.source ∈ group.learn.nodes := by
  cases h with
  | unknown hentry => cases hadmitted
  | notRoutable hentry hroutable => cases hadmitted
  | duplicate hentry hroutable hdedup => cases hadmitted
  | groupMissing hentry hroutable hdedup hgroup hmissing => cases hadmitted
  | @learnedInGroup entry state dedup name group hentry hroutable hdedup hgroup hfound =>
    cases hadmitted
    refine ⟨state, routable?_eq_some.mpr ⟨entry, hentry, hroutable⟩, rfl, ?_⟩
    intro other hother
    obtain rfl := Option.some.inj (hgroup.symm.trans hother)
    exact ⟨_, AList.lookup_insert _, LearnTable.mem_nodes_touch _ _ _⟩
  | @learned entry state dedup hentry hroutable hdedup hgroup =>
    cases hadmitted
    refine ⟨state, routable?_eq_some.mpr ⟨entry, hentry, hroutable⟩, rfl, ?_⟩
    intro other hother
    simp [hgroup] at hother

end

/-- Handling a frame leaves the router as admission left it. -/
@[simp] theorem handleFrame_fst (oneshot : List UInt8 → UInt64) (visit : Visit) (router : Router)
    (routerFrame : RouterFrame) (now : Instant) :
    (router.handleFrame oneshot visit routerFrame now).1 =
      (router.ingestSourceFrame oneshot routerFrame now).2.1 := by
  unfold handleFrame
  split <;> rename_i hingest <;> rw [hingest]

/-- A frame from an unknown endpoint is dropped without a trace. -/
theorem handleFrame_of_unknown (oneshot : List UInt8 → UInt64) (visit : Visit)
    {routerFrame : RouterFrame} (now : Instant)
    (hentry : router.routing.lookup routerFrame.endpointId = none) :
    router.handleFrame oneshot visit routerFrame now = (router, []) := by
  have hingests : Ingests oneshot router routerFrame now (.suppressed, router, []) :=
    .unknown hentry
  rw [handleFrame, hingests.eq]

end Router

/-- One step of the world around the router. -/
inductive Input where
  | event (event : EndpointEvent)
  | frame (visit : Visit) (routerFrame : RouterFrame) (now : Instant)
  | own (id : EndpointId) (update : Port → Port)
  | statsTask (update : Library.Channel StatsEvent → Library.Channel StatsEvent)

/-- The endpoint an input registers. -/
def Input.added? : Input → Option EndpointId
  | .event lifecycle => lifecycle.added?
  | .frame _ _ _ => none
  | .own _ _ => none
  | .statsTask _ => none

/-- The lifecycle event of an input. -/
def Input.event? : Input → Option EndpointEvent
  | .event lifecycle => some lifecycle
  | .frame _ _ _ => none
  | .own _ _ => none
  | .statsTask _ => none

/-- The endpoint an input removes. -/
def Input.removed? : Input → Option EndpointId
  | .event lifecycle => lifecycle.removed?
  | .frame _ _ _ => none
  | .own _ _ => none
  | .statsTask _ => none

/-- The time at which an input frame is handled. -/
def Input.time? : Input → Option Instant
  | .event _ => none
  | .frame _ _ now => some now
  | .own _ _ => none
  | .statsTask _ => none

/-- No endpoint id is handed out twice. -/
def NoReuse (inputs : List Input) : Prop :=
  (inputs.filterMap Input.added?).Nodup

/-- The endpoint was registered and has not been removed since. -/
def RegisteredIn (id : EndpointId) (inputs : List Input) : Prop :=
  ∃ before input after, inputs = before ++ input :: after ∧ input.added? = some id ∧
    ∀ later ∈ after, later.removed? ≠ some id

/-- Without a removal the registration lasts. -/
theorem registeredIn_of_mem {id : EndpointId} {inputs : List Input} {input : Input}
    (hmem : input ∈ inputs) (hadded : input.added? = some id)
    (hremoved : ∀ later ∈ inputs, later.removed? ≠ some id) : RegisteredIn id inputs := by
  obtain ⟨before, after, rfl⟩ := List.append_of_mem hmem
  refine ⟨before, input, after, rfl, hadded, ?_⟩
  intro later hlater
  exact hremoved later (by simp [hlater])

/-- Only a registration registers. -/
theorem RegisteredIn.exists_added {id : EndpointId} {inputs : List Input}
    (h : RegisteredIn id inputs) : ∃ input ∈ inputs, input.added? = some id := by
  obtain ⟨before, input, after, rfl, hadded, -⟩ := h
  exact ⟨input, by simp, hadded⟩

/-- How one more input changes who is registered. -/
theorem registeredIn_snoc {id : EndpointId} {inputs : List Input} {input : Input} :
    RegisteredIn id (inputs ++ [input]) ↔
      input.added? = some id ∨ RegisteredIn id inputs ∧ input.removed? ≠ some id := by
  constructor
  · rintro ⟨before, added, after, hinputs, hadded, hafter⟩
    rcases List.eq_nil_or_concat after with rfl | ⟨kept, last, rfl⟩
    · obtain ⟨-, hlast⟩ := List.append_inj' hinputs rfl
      obtain rfl := List.singleton_inj.mp hlast
      exact .inl hadded
    · rw [List.concat_eq_append] at hinputs hafter
      have hsplit : inputs ++ [input] = (before ++ added :: kept) ++ [last] := by
        rw [hinputs, List.append_assoc, List.cons_append]
      obtain ⟨rfl, hlast⟩ := List.append_inj' hsplit rfl
      obtain rfl := List.singleton_inj.mp hlast
      have hkept : ∀ later ∈ kept, later.removed? ≠ some id := by
        intro later hlater
        exact hafter later (List.mem_append_left _ hlater)
      exact .inr ⟨⟨before, added, kept, rfl, hadded, hkept⟩, hafter input (by simp)⟩
  · rintro (hadded | ⟨⟨before, added, after, rfl, hadded, hafter⟩, hremoved⟩)
    · exact ⟨inputs, input, [], rfl, hadded, by simp⟩
    · refine ⟨before, added, after ++ [input], by simp, hadded, ?_⟩
      intro later hlater
      rcases List.mem_append.mp hlater with hlater | hlater
      · exact hafter later hlater
      · obtain rfl := List.mem_singleton.mp hlater
        exact hremoved

/-- Only a registration registers, also after a removal. -/
theorem RegisteredIn.of_append {id : EndpointId} {inputs later : List Input}
    (h : RegisteredIn id (inputs ++ later)) :
    RegisteredIn id inputs ∨ ∃ input ∈ later, input.added? = some id := by
  induction later using List.reverseRecOn with
  | nil =>
    rw [List.append_nil] at h
    exact .inl h
  | append_singleton later input ih =>
    rw [← List.append_assoc] at h
    rcases registeredIn_snoc.mp h with hadded | ⟨hin, -⟩
    · exact .inr ⟨input, by simp, hadded⟩
    · rcases ih hin with hin | ⟨added, hmem, hadded⟩
      · exact .inl hin
      · exact .inr ⟨added, List.mem_append_left _ hmem, hadded⟩

/-- Once removed, an endpoint whose id is not reused stays unknown. -/
theorem not_registeredIn_of_removed {id : EndpointId} {before later : List Input}
    {added removal : Input} (hreuse : NoReuse (before ++ removal :: later))
    (hmem : added ∈ before) (hadded : added.added? = some id)
    (hremoved : removal.removed? = some id) : ¬ RegisteredIn id (before ++ removal :: later) := by
  intro hin
  have hafter : RegisteredIn id ((before ++ [removal]) ++ later) := by
    rwa [List.append_assoc, List.singleton_append]
  rcases hafter.of_append with hin | ⟨again, hagain, hagainAdded⟩
  · rcases registeredIn_snoc.mp hin with hself | ⟨-, hkept⟩
    · cases removal with
      | event lifecycle => cases lifecycle <;> cases hself <;> cases hremoved
      | frame visit routerFrame now => cases hself
      | own owner update => cases hself
      | statsTask update => cases hself
    · exact hkept hremoved
  · have hfirst := List.mem_filterMap.mpr ⟨added, hmem, hadded⟩
    have hsecond := List.mem_filterMap.mpr
      ⟨again, List.mem_cons_of_mem removal hagain, hagainAdded⟩
    rw [NoReuse, List.filterMap_append] at hreuse
    exact (List.nodup_append.mp hreuse).2.2 _ hfirst _ hsecond rfl

/-- Frames are handled at strictly increasing times. -/
def TimesIncrease (inputs : List Input) : Prop :=
  (inputs.filterMap Input.time?).Pairwise (· < ·)

/-- The router and the state it shares with the endpoints. -/
structure Hub where
  router : Router
  ports : Ports

namespace Hub

/-- The empty router next to any shared state. -/
def start (statsEvents : Library.Channel StatsEvent) (dedupMs : UInt64)
    (dedupWindowCapacity : ℕ) (ports : Ports) : Hub where
  router := .new statsEvents dedupMs dedupWindowCapacity
  ports := ports

variable (oneshot : List UInt8 → UInt64)

def step (hub : Hub) : Input → Hub
  | .event event =>
    let (router, effects) := hub.router.handleEvent event
    { router := router, ports := hub.ports.applyAll effects }
  | .frame visit routerFrame now =>
    let (router, effects) := hub.router.handleFrame oneshot visit routerFrame now
    { router := router, ports := hub.ports.applyAll effects }
  | .own id update => { hub with ports := Function.update hub.ports id (update (hub.ports id)) }
  | .statsTask update => { hub with router.statsEvents := update hub.router.statsEvents }

def run (hub : Hub) (inputs : List Input) : Hub :=
  inputs.foldl (step oneshot) hub

@[simp] private theorem run_nil (hub : Hub) : hub.run oneshot [] = hub := rfl

/-- The state after one more input. -/
@[simp] theorem run_snoc (hub : Hub) (inputs : List Input) (input : Input) :
    hub.run oneshot (inputs ++ [input]) = (hub.run oneshot inputs).step oneshot input := by
  rw [run, List.foldl_append]
  rfl

/-- The states reached from the empty router by runs in which no id is reused. -/
def Reachable (hub : Hub) : Prop :=
  ∃ statsEvents dedupMs dedupWindowCapacity ports inputs, NoReuse inputs ∧
    (start statsEvents dedupMs dedupWindowCapacity ports).run oneshot inputs = hub

variable {oneshot}

/-- One step registers the endpoint it adds and unregisters the one it removes. -/
theorem lookup_step_isSome (hub : Hub) (input : Input) (id : EndpointId) :
    ((hub.step oneshot input).router.routing.lookup id).isSome ↔
      input.added? = some id ∨
        (hub.router.routing.lookup id).isSome ∧ input.removed? ≠ some id := by
  cases input with
  | event lifecycle => exact hub.router.lookup_handleEvent_isSome lifecycle id
  | frame visit routerFrame now =>
    have hingests := hub.router.ingestSourceFrame_ingests oneshot routerFrame now
    have hsame := hingests.lookup_eq_none id
    simp only [step, Router.handleFrame_fst, Option.isSome_iff_ne_none, Input.added?,
      Input.removed?, ne_eq, hsame]
    simp
  | own owner update => simp [step, Input.added?, Input.removed?]
  | statsTask update => simp [step, Input.added?, Input.removed?]

/-- The registry of a run holds the endpoints that were registered and not removed since. -/
theorem lookup_run_isSome {statsEvents : Library.Channel StatsEvent} {dedupMs : UInt64}
    {dedupWindowCapacity : ℕ} {ports : Ports} (inputs : List Input) (id : EndpointId) :
    (((start statsEvents dedupMs dedupWindowCapacity ports).run oneshot
      inputs).router.routing.lookup id).isSome ↔ RegisteredIn id inputs := by
  induction inputs using List.reverseRecOn with
  | nil =>
    have hnone : ¬ RegisteredIn id [] := by
      rintro ⟨before, input, after, hinputs, -⟩
      simp at hinputs
    simp [start, Router.new, hnone]
  | append_singleton inputs input ih =>
    rw [run_snoc, lookup_step_isSome, ih, registeredIn_snoc]

end Hub

end MavlinkRouter
