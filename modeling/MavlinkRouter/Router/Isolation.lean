import MavlinkRouter.Router.Delivery

/-!
# Isolation of egress policy

Two runs that differ only in the filters and the sniffer flag of one endpoint agree on
everything that concerns the others. The registries stay alike, because a decision for a
destination changes the destination's own queue and counters and nothing else.
-/

namespace MavlinkRouter

/-- Two payloads that differ at most in filters and sniffer flag. -/
def Routable.SameButPolicy (routable routable' : Routable) : Prop :=
  routable.identity.group = routable'.identity.group ∧
    routable.endpointName = routable'.endpointName

/-- Two events that differ at most in the filters and the sniffer flag that endpoint `d`
is registered with. -/
inductive EndpointEvent.SameButPolicyOf (d : EndpointId) : EndpointEvent → EndpointEvent → Prop
  | same (event : EndpointEvent) : EndpointEvent.SameButPolicyOf d event event
  | endpointAdded (name : String) {routable routable' : Routable}
      (h : routable.SameButPolicy routable') :
    EndpointEvent.SameButPolicyOf d (.endpointAdded d name (some routable))
      (.endpointAdded d name (some routable'))
  | peerAdded (parentId : EndpointId) (name : String) {routable routable' : Routable}
      (h : routable.SameButPolicy routable') :
    EndpointEvent.SameButPolicyOf d (.peerAdded parentId d name routable)
      (.peerAdded parentId d name routable')

/-- Two inputs that differ at most in the policy of `d`, in what the tasks of `d` do to
their own queue and counters, and in the order in which the registry is visited. -/
inductive Input.SameButPolicyOf (d : EndpointId) : Input → Input → Prop
  | event {event event' : EndpointEvent} (h : event.SameButPolicyOf d event') :
    Input.SameButPolicyOf d (.event event) (.event event')
  | frame (visit visit' : Visit) (routerFrame : RouterFrame) (now : Instant) :
    Input.SameButPolicyOf d (.frame visit routerFrame now) (.frame visit' routerFrame now)
  | own (id : EndpointId) (update : Port → Port) :
    Input.SameButPolicyOf d (.own id update) (.own id update)
  | ownPolicy (update update' : Port → Port) :
    Input.SameButPolicyOf d (.own d update) (.own d update')
  | statsTask (update : Library.Channel StatsEvent → Library.Channel StatsEvent) :
    Input.SameButPolicyOf d (.statsTask update) (.statsTask update)

/-- Dispatch states that differ at most in filters and sniffer flag. -/
structure RoutableState.Alike (state state' : RoutableState) : Prop where
  group : state.identity.group = state'.identity.group
  endpointName : state.endpointName = state'.endpointName
  learn : state.learn = state'.learn

/-- Registry entries that differ at most in filters and sniffer flag. -/
structure RegisteredEndpoint.Alike (entry entry' : RegisteredEndpoint) : Prop where
  name : entry.name = entry'.name
  routable : Option.Rel RoutableState.Alike entry.routable entry'.routable

namespace RegisteredEndpoint.Alike

variable {entry entry' : RegisteredEndpoint}

private theorem refl (entry : RegisteredEndpoint) : entry.Alike entry where
  name := rfl
  routable := by
    cases entry.routable with
    | none => exact .none
    | some state => exact .some ⟨rfl, rfl, rfl⟩

private theorem group? (h : entry.Alike entry') : entry.group? = entry'.group? := by
  have hroutable := h.routable
  unfold RegisteredEndpoint.group?
  generalize entry.routable = routable at hroutable
  generalize entry'.routable = routable' at hroutable
  cases hroutable with
  | none => rfl
  | some hstate => exact hstate.group

private theorem routable_eq_none (h : entry.Alike entry') (hroutable : entry.routable = none) :
    entry'.routable = none := by
  have hrel := h.routable
  rw [hroutable] at hrel
  cases hrel' : entry'.routable with
  | none => rfl
  | some state' =>
    rw [hrel'] at hrel
    cases hrel

private theorem routable_eq_some (h : entry.Alike entry') {state : RoutableState}
    (hroutable : entry.routable = some state) :
    ∃ state', entry'.routable = some state' ∧ state.Alike state' := by
  have hrel := h.routable
  rw [hroutable] at hrel
  cases hrel' : entry'.routable with
  | none =>
    rw [hrel'] at hrel
    cases hrel
  | some state' =>
    rw [hrel'] at hrel
    obtain ⟨hstate⟩ := hrel
    exact ⟨state', rfl, hstate⟩

private theorem setLearn (h : entry.Alike entry') {state state' : RoutableState}
    (hstate : state.Alike state') (learn : LearnTable) :
    (entry.setLearn state learn).Alike (entry'.setLearn state' learn) :=
  ⟨h.name, .some ⟨hstate.group, hstate.endpointName, rfl⟩⟩

/-- Payloads that differ at most in policy make alike entries. -/
theorem initial {payload payload' : Option Routable} (name : String)
    (h : Option.Rel Routable.SameButPolicy payload payload') :
    (RegisteredEndpoint.initial name payload).Alike (.initial name payload') := by
  cases h with
  | none => exact .refl _
  | some hroutable => exact ⟨rfl, .some ⟨hroutable.1, hroutable.2, rfl⟩⟩

end RegisteredEndpoint.Alike

/-- Corresponding events register one endpoint with payloads that differ at most in policy,
and only if it is `d`, or they are the same removal. -/
theorem EndpointEvent.SameButPolicyOf.cases {d : EndpointId} {event event' : EndpointEvent}
    (h : event.SameButPolicyOf d event') :
    (∃ id name payload payload', event.registration? = some (id, name, payload) ∧
      event'.registration? = some (id, name, payload') ∧
      Option.Rel Routable.SameButPolicy payload payload' ∧ (id ≠ d → payload = payload')) ∨
    ∃ parentId childId reason, event = .peerRemoved parentId childId reason ∧
      event' = .peerRemoved parentId childId reason := by
  have hrefl : ∀ payload : Option Routable,
      Option.Rel Routable.SameButPolicy payload payload := by
    rintro (_ | routable)
    · exact .none
    · exact .some ⟨rfl, rfl⟩
  cases h with
  | same event =>
    cases event with
    | endpointAdded id name payload =>
      exact .inl ⟨id, name, payload, payload, rfl, rfl, hrefl payload, fun _ => rfl⟩
    | peerAdded parentId childId name routable =>
      exact .inl ⟨childId, name, some routable, some routable, rfl, rfl, hrefl _, fun _ => rfl⟩
    | peerRemoved parentId childId reason =>
      exact .inr ⟨parentId, childId, reason, rfl, rfl⟩
  | endpointAdded name hroutable =>
    exact .inl ⟨d, name, _, _, rfl, rfl, .some hroutable, fun hd => absurd rfl hd⟩
  | peerAdded parentId name hroutable =>
    exact .inl ⟨d, name, _, _, rfl, rfl, .some hroutable, fun hd => absurd rfl hd⟩

namespace Router

/-- Routers that differ at most in the policy of endpoint `d`. -/
structure Alike (d : EndpointId) (router router' : Router) : Prop where
  others : ∀ id, id ≠ d → router.routing.lookup id = router'.routing.lookup id
  entries : ∀ id, Option.Rel RegisteredEndpoint.Alike
    (router.routing.lookup id) (router'.routing.lookup id)
  groups : router.groups = router'.groups
  dedup : router.dedup = router'.dedup
  statsEvents : router.statsEvents = router'.statsEvents
  statsEventsDropped : router.statsEventsDropped = router'.statsEventsDropped

namespace Alike

variable {d : EndpointId} {router router' : Router} {oneshot : List UInt8 → UInt64}

private theorem refl (d : EndpointId) (router : Router) : Alike d router router where
  others := fun _ _ => rfl
  entries := fun id => by
    cases router.routing.lookup id with
    | none => exact .none
    | some entry => exact .some (.refl entry)
  groups := rfl
  dedup := rfl
  statsEvents := rfl
  statsEventsDropped := rfl

private theorem lookup_eq_none (h : Alike d router router') {id : EndpointId}
    (hentry : router.routing.lookup id = none) : router'.routing.lookup id = none := by
  have hrel := h.entries id
  rw [hentry] at hrel
  cases hrel' : router'.routing.lookup id with
  | none => rfl
  | some entry' =>
    rw [hrel'] at hrel
    cases hrel

private theorem lookup_eq_some (h : Alike d router router') {id : EndpointId}
    {entry : RegisteredEndpoint} (hentry : router.routing.lookup id = some entry) :
    ∃ entry', router'.routing.lookup id = some entry' ∧ entry.Alike entry' ∧
      (id ≠ d → entry = entry') := by
  have hrel := h.entries id
  rw [hentry] at hrel
  cases hrel' : router'.routing.lookup id with
  | none =>
    rw [hrel'] at hrel
    cases hrel
  | some entry' =>
    rw [hrel'] at hrel
    obtain ⟨halike⟩ := hrel
    refine ⟨entry', rfl, halike, fun hd => ?_⟩
    have hsame := h.others id hd
    rw [hentry, hrel'] at hsame
    exact Option.some.inj hsame

/-- The stats task is told the same. -/
theorem forwardStats (h : Alike d router router') (event : StatsEvent) :
    Alike d (router.forwardStats event) (router'.forwardStats event) := by
  unfold Router.forwardStats
  rw [← h.statsEvents]
  split
  · exact { h with statsEvents := rfl }
  · exact { h with statsEvents := rfl, statsEventsDropped := by rw [h.statsEventsDropped] }
  · exact { h with statsEvents := h.statsEvents }

/-- Storing alike entries, equal ones for endpoints other than `d`. -/
theorem insert (h : Alike d router router') {id : EndpointId} {entry entry' : RegisteredEndpoint}
    (hentry : entry.Alike entry') (hother : id ≠ d → entry = entry')
    {groups groups' : GroupRegistry} (hgroups : groups = groups') {dedup dedup' : DedupWindow}
    (hdedup : dedup = dedup') :
    Alike d
      { router with
        routing := router.routing.insert id entry, groups := groups, dedup := dedup }
      { router' with
        routing := router'.routing.insert id entry', groups := groups', dedup := dedup' } := by
  refine { h with others := ?_, entries := ?_, groups := hgroups, dedup := hdedup }
  · intro other hd
    by_cases hid : other = id
    · subst hid
      simp only [AList.lookup_insert, hother hd]
    · simp only [AList.lookup_insert_ne hid]
      exact h.others other hd
  · intro other
    by_cases hid : other = id
    · subst hid
      simp only [AList.lookup_insert]
      exact .some hentry
    · simp only [AList.lookup_insert_ne hid]
      exact h.entries other

private theorem erase (h : Alike d router router') (id : EndpointId) (groups : GroupRegistry) :
    Alike d { router with routing := router.routing.erase id, groups := groups }
      { router' with routing := router'.routing.erase id, groups := groups } := by
  refine { h with others := ?_, entries := ?_, groups := rfl }
  · intro other hd
    by_cases hid : other = id
    · subst hid
      simp only [AList.lookup_erase]
    · simp only [AList.lookup_erase_ne hid]
      exact h.others other hd
  · intro other
    by_cases hid : other = id
    · subst hid
      simp only [AList.lookup_erase]
      exact .none
    · simp only [AList.lookup_erase_ne hid]
      exact h.entries other

/-- Handling corresponding events. -/
theorem handleEvent {event event' : EndpointEvent} (h : Alike d router router')
    (hevent : event.SameButPolicyOf d event') :
    Alike d (router.handleEvent event).1 (router'.handleEvent event').1 ∧
      (router.handleEvent event).2 = (router'.handleEvent event').2 := by
  rcases hevent.cases with ⟨id, name, payload, payload', hreg, hreg', hpayload, hother⟩ |
    ⟨parentId, childId, reason, rfl, rfl⟩
  · have hentry : (RegisteredEndpoint.initial name payload).Alike (.initial name payload') :=
      .initial name hpayload
    have hgroups : router.groupsJoined (.initial name payload) =
        router'.groupsJoined (.initial name payload') := by
      rw [groupsJoined, groupsJoined, hentry.group?, h.groups]
    have hsome : payload.isSome = payload'.isSome := by cases hpayload <;> rfl
    rw [handleEvent_of_registration router hreg, handleEvent_of_registration router' hreg',
      hgroups, hsome]
    refine ⟨Alike.forwardStats ?_ _, rfl⟩
    exact h.insert hentry (fun hd => by rw [hother hd]) rfl h.dedup
  · cases hentry : router.routing.lookup childId with
    | none =>
      rw [handleEvent_of_unknown parentId reason hentry,
        handleEvent_of_unknown parentId reason (h.lookup_eq_none hentry)]
      exact ⟨h.forwardStats _, rfl⟩
    | some entry =>
      obtain ⟨entry', hentry', halike, -⟩ := h.lookup_eq_some hentry
      have hgroups : router.groupsLeft entry = router'.groupsLeft entry' := by
        rw [groupsLeft, groupsLeft, halike.group?, h.groups]
      rw [handleEvent_of_removal parentId reason hentry,
        handleEvent_of_removal parentId reason hentry', hgroups]
      exact ⟨(h.erase childId _).forwardStats _, rfl⟩

/-- Admission of one frame by alike routers. -/
theorem ingest (h : Alike d router router') (oneshot : List UInt8 → UInt64)
    (routerFrame : RouterFrame) (now : Instant) :
    let result := router.ingestSourceFrame oneshot routerFrame now
    let result' := router'.ingestSourceFrame oneshot routerFrame now
    result.1 = result'.1 ∧ Alike d result.2.1 result'.2.1 ∧ result.2.2 = result'.2.2 := by
  intro result result'
  have hingests : Ingests oneshot router routerFrame now result :=
    router.ingestSourceFrame_ingests oneshot routerFrame now
  clear_value result
  cases hingests with
  | unknown hentry =>
    have hresult' : result' = _ := (Ingests.unknown (h.lookup_eq_none hentry)).eq
    rw [hresult']
    exact ⟨rfl, h, rfl⟩
  | notRoutable hentry hroutable =>
    obtain ⟨entry', hentry', halike, -⟩ := h.lookup_eq_some hentry
    have hresult' : result' = _ :=
      (Ingests.notRoutable hentry' (halike.routable_eq_none hroutable)).eq
    rw [hresult']
    exact ⟨rfl, h, rfl⟩
  | duplicate hentry hroutable hdedup =>
    obtain ⟨entry', hentry', halike, -⟩ := h.lookup_eq_some hentry
    obtain ⟨state', hroutable', -⟩ := halike.routable_eq_some hroutable
    have hresult' : result' = _ :=
      (Ingests.duplicate hentry' hroutable' (h.dedup ▸ hdedup)).eq
    rw [hresult']
    exact ⟨rfl, { h with dedup := rfl }, rfl⟩
  | groupMissing hentry hroutable hdedup hgroup hmissing =>
    obtain ⟨entry', hentry', halike, -⟩ := h.lookup_eq_some hentry
    obtain ⟨state', hroutable', hstate⟩ := halike.routable_eq_some hroutable
    have hresult' : result' = _ :=
      (Ingests.groupMissing hentry' hroutable' (h.dedup ▸ hdedup)
        (hstate.group.symm.trans hgroup) (h.groups ▸ hmissing)).eq
    rw [hresult']
    exact ⟨rfl, { h with dedup := rfl }, rfl⟩
  | learnedInGroup hentry hroutable hdedup hgroup hfound =>
    obtain ⟨entry', hentry', halike, -⟩ := h.lookup_eq_some hentry
    obtain ⟨state', hroutable', hstate⟩ := halike.routable_eq_some hroutable
    have hresult' : result' = _ :=
      (Ingests.learnedInGroup hentry' hroutable' (h.dedup ▸ hdedup)
        (hstate.group.symm.trans hgroup) (h.groups ▸ hfound)).eq
    rw [hresult', hstate.endpointName]
    exact ⟨rfl, { h with dedup := rfl, groups := by rw [h.groups] }, rfl⟩
  | @learned entry state dedup hentry hroutable hdedup hgroup =>
    obtain ⟨entry', hentry', halike, hother⟩ := h.lookup_eq_some hentry
    obtain ⟨state', hroutable', hstate⟩ := halike.routable_eq_some hroutable
    have hresult' : result' = _ :=
      (Ingests.learned hentry' hroutable' (h.dedup ▸ hdedup)
        (hstate.group.symm.trans hgroup)).eq
    rw [hresult', hstate.endpointName, hstate.learn]
    have hsame : routerFrame.endpointId ≠ d → ∀ learn,
        entry.setLearn state learn = entry'.setLearn state' learn := by
      intro hd learn
      obtain rfl := hother hd
      obtain rfl := Option.some.inj (hroutable.symm.trans hroutable')
      rfl
    exact ⟨rfl, h.insert (halike.setLearn hstate _) (fun hd => hsame hd _) h.groups rfl, rfl⟩

/-- Dispatch by alike routers accesses every endpoint but `d` in the same way. -/
theorem accessesTo_dispatch (h : Alike d router router') (visit visit' : Visit)
    (routerFrame : RouterFrame) (srcEndpointName : String) {id : EndpointId} (hd : id ≠ d) :
    accessesTo id (router.dispatchToDestinations visit routerFrame srcEndpointName) =
      accessesTo id (router'.dispatchToDestinations visit' routerFrame srcEndpointName) := by
  have hdispatch : router.dispatchTo routerFrame srcEndpointName =
      router'.dispatchTo routerFrame srcEndpointName := by
    funext dest
    simp only [dispatchTo, effectiveLearn, h.groups]
  rw [Router.accessesTo_dispatch, Router.accessesTo_dispatch, h.others id hd, hdispatch]

/-- Handling one frame by alike routers. -/
theorem handleFrame (h : Alike d router router') (oneshot : List UInt8 → UInt64)
    (visit visit' : Visit) (routerFrame : RouterFrame) (now : Instant) :
    Alike d (router.handleFrame oneshot visit routerFrame now).1
        (router'.handleFrame oneshot visit' routerFrame now).1 ∧
      ∀ id, id ≠ d →
        accessesTo id (router.handleFrame oneshot visit routerFrame now).2 =
          accessesTo id (router'.handleFrame oneshot visit' routerFrame now).2 := by
  obtain ⟨hadmission, halike, heffects⟩ := h.ingest oneshot routerFrame now
  refine ⟨by simpa only [handleFrame_fst] using halike, fun id hd => ?_⟩
  unfold Router.handleFrame
  rcases hresult : router.ingestSourceFrame oneshot routerFrame now with
    ⟨admission, ingested, effects⟩
  rcases hresult' : router'.ingestSourceFrame oneshot routerFrame now with
    ⟨admission', ingested', effects'⟩
  rw [hresult, hresult'] at hadmission halike heffects
  cases hadmission
  cases heffects
  cases admission with
  | suppressed => rfl
  | admitted srcEndpointName =>
    simp only [accessesTo_append]
    rw [halike.accessesTo_dispatch visit visit' routerFrame srcEndpointName hd]

end Alike

end Router

/-- Hubs that agree on everything but endpoint `d`. -/
structure Hub.Alike (d : EndpointId) (hub hub' : Hub) : Prop where
  router : hub.router.Alike d hub'.router
  ports : ∀ id, id ≠ d → hub.ports id = hub'.ports id

namespace Hub.Alike

variable {d : EndpointId} {hub hub' : Hub} {oneshot : List UInt8 → UInt64}

/-- Corresponding inputs keep the hubs alike. -/
theorem step {input input' : Input} (h : hub.Alike d hub')
    (hinput : input.SameButPolicyOf d input') :
    (hub.step oneshot input).Alike d (hub'.step oneshot input') := by
  cases hinput with
  | event hevent =>
    obtain ⟨hrouter, heffects⟩ := h.router.handleEvent hevent
    refine ⟨hrouter, fun id hd => ?_⟩
    simp only [Hub.step, Ports.applyAll_at, heffects, h.ports id hd]
  | frame visit visit' routerFrame now =>
    obtain ⟨hrouter, haccesses⟩ :=
      h.router.handleFrame oneshot visit visit' routerFrame now
    refine ⟨hrouter, fun id hd => ?_⟩
    simp only [Hub.step, Ports.applyAll_at, haccesses id hd, h.ports id hd]
  | own other update =>
    refine ⟨h.router, fun id hd => ?_⟩
    by_cases hid : id = other
    · subst hid
      simp only [Hub.step, Function.update_self, h.ports id hd]
    · simp only [Hub.step, Function.update_of_ne hid, h.ports id hd]
  | ownPolicy update update' =>
    refine ⟨h.router, fun id hd => ?_⟩
    simp only [Hub.step, Function.update_of_ne hd, h.ports id hd]
  | statsTask update =>
    exact ⟨{ h.router with statsEvents := by simp only [Hub.step, h.router.statsEvents] }, h.ports⟩

/-- Corresponding runs keep the hubs alike. -/
theorem run {inputs inputs' : List Input} (h : hub.Alike d hub')
    (hinputs : List.Forall₂ (Input.SameButPolicyOf d) inputs inputs') :
    (hub.run oneshot inputs).Alike d (hub'.run oneshot inputs') := by
  induction hinputs generalizing hub hub' with
  | nil => exact h
  | cons hinput _ ih => exact ih (h.step hinput)

end Hub.Alike

/-- Whatever filters and sniffer flag endpoint `d` is registered with, at every point of the
run every other endpoint has the same queue, the same counters, the same registration and
the same effective learn table, and the dedup window is the same. -/
theorem policy_isolation {d : EndpointId} {inputs inputs' : List Input}
    (oneshot : List UInt8 → UInt64) (start : Hub)
    (hinputs : List.Forall₂ (Input.SameButPolicyOf d) inputs inputs') (n : ℕ) :
    let hub := start.run oneshot (inputs.take n)
    let hub' := start.run oneshot (inputs'.take n)
    (∀ id, id ≠ d → (hub.ports id).txQueue = (hub'.ports id).txQueue ∧
      (hub.ports id).stats = (hub'.ports id).stats ∧
      hub.router.routable? id = hub'.router.routable? id ∧
      (hub.router.routable? id).bind hub.router.effectiveLearn =
        (hub'.router.routable? id).bind hub'.router.effectiveLearn) ∧
      hub.router.dedup = hub'.router.dedup := by
  intro hub hub'
  have hstart : start.Alike d start := ⟨.refl d start.router, fun _ _ => rfl⟩
  have halike : hub.Alike d hub' := hstart.run (List.forall₂_take n hinputs)
  refine ⟨fun id hd => ?_, halike.router.dedup⟩
  have hroutable : hub.router.routable? id = hub'.router.routable? id := by
    rw [Router.routable?, Router.routable?, halike.router.others id hd]
  have hlearn : hub.router.effectiveLearn = hub'.router.effectiveLearn := by
    funext state
    rw [Router.effectiveLearn, Router.effectiveLearn, halike.router.groups]
  rw [halike.ports id hd, hroutable, hlearn]
  exact ⟨rfl, rfl, rfl, rfl⟩

/-- The flight controller sends a frame. The ground station receives it whether the log keeps the
frame out or sniffs; the log receives it only in the second case. -/
theorem policy_isolation_sniffer :
    let frame : RouterFrame :=
      ⟨⟨2⟩, ⟨[0xFE, 0, 7, 1, 1, 0, 0, 0], ⟨2⟩, 0⟩, ⟨.v1, ⟨1, 1⟩, 0, 7, 0, none, none⟩⟩
    let inputs : IdentityFlags → List Input := fun policy =>
      [.event (.endpointAdded ⟨0⟩ "gcs" (some ⟨{}, "gcs"⟩)),
        .event (.endpointAdded ⟨1⟩ "log" (some ⟨policy, "log"⟩)),
        .event (.endpointAdded ⟨2⟩ "fc" (some ⟨{}, "fc"⟩)), .frame .inOrder frame 0]
    let start := Hub.start (.new 64) 0 16 fun _ => ⟨{}, .new 8⟩
    let received : IdentityFlags → EndpointId → List Bytes := fun policy id =>
      ((start.run (fun _ => 0) (inputs policy)).ports id).txQueue.frames
    let closed : IdentityFlags := { filters := { blockSrcEndpointOut := ["fc"] } }
    let sniffing : IdentityFlags := { sniffer := true }
    List.Forall₂ (Input.SameButPolicyOf ⟨1⟩) (inputs closed) (inputs sniffing) ∧
      received closed ⟨1⟩ = [] ∧ received sniffing ⟨1⟩ = [frame.frame] ∧
      received closed ⟨0⟩ = [frame.frame] ∧ received sniffing ⟨0⟩ = [frame.frame] := by
  intro frame inputs start received closed sniffing
  have hinputs : List.Forall₂ (Input.SameButPolicyOf ⟨1⟩) (inputs closed) (inputs sniffing) :=
    .cons (.event (.same _)) (.cons (.event (.endpointAdded "log" ⟨rfl, rfl⟩))
      (.cons (.event (.same _)) (.cons (.frame .inOrder .inOrder frame 0) .nil)))
  have hgcs : received closed ⟨0⟩ = [frame.frame] := by decide +kernel
  have hsame : received closed ⟨0⟩ = received sniffing ⟨0⟩ := congrArg TxQueue.frames
    ((policy_isolation (fun _ => 0) start hinputs 4).1 ⟨0⟩ (by decide)).1
  exact ⟨hinputs, by decide +kernel, by decide +kernel, hgcs, hsame ▸ hgcs⟩

end MavlinkRouter
