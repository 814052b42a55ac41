import MavlinkRouter.Endpoint.States
import MavlinkRouter.Router.Groups
import MavlinkRouter.System.Lifecycle

/-!
# The last line of an endpoint

When the router removes an endpoint, or sweeps it away at shutdown, it stores the final state
of the endpoint and then tells the stats task, which reads the state when it gets to it. The
task of the endpoint can store a state in between. The last line reports the final state
exactly if it did not.
-/

namespace MavlinkRouter

/-- The state that a line reports. -/
def Stats.StatsLine.state : Stats.StatsLine → String
  | .routable _ _ state _ _ _ _ _ _ _ _ _ _ _ _ => state
  | .nonRoutable _ _ state => state

private theorem Stats.state_buildLine (name : String) (stats : EndpointStats) (ts : String)
    (routable : Bool) : (buildLine name stats ts routable).state = stats.state.label := by
  cases routable <;> rfl

private theorem Stats.endpoint_buildLine (name : String) (stats : EndpointStats) (ts : String)
    (routable : Bool) : (buildLine name stats ts routable).endpoint = name := by
  cases routable <;> rfl

private theorem EndpointState.label_injective : Function.Injective EndpointState.label := by
  intro state state' h
  cases state <;> cases state' <;> first | rfl | simp [EndpointState.label] at h

/-- The endpoint whose state an access of the router stores, and the state. -/
def RouterAccess.stored? : RouterAccess → Option (EndpointId × EndpointState)
  | .port ⟨id, .storeState state⟩ => some (id, state)
  | .port ⟨_, .push _⟩ => none
  | .port ⟨_, .addOutFilterDrop⟩ => none
  | .port ⟨_, .addDedupDrop⟩ => none
  | .port ⟨_, .storeLearnEntries _⟩ => none
  | .forward _ => none

/-- The states that accesses store, in order. -/
def storesOf (accesses : List RouterAccess) : List (EndpointId × EndpointState) :=
  accesses.filterMap RouterAccess.stored?

private theorem RouterAccess.stored?_eq_some {access : RouterAccess} {id : EndpointId}
    {state : EndpointState} :
    access.stored? = some (id, state) ↔ access = .port ⟨id, .storeState state⟩ := by
  constructor
  · intro h
    unfold stored? at h
    split at h
    · cases h
      rfl
    all_goals cases h
  · rintro rfl
    rfl

private theorem mem_storesOf {accesses : List RouterAccess} {id : EndpointId}
    {state : EndpointState} :
    (id, state) ∈ storesOf accesses ↔ .port ⟨id, .storeState state⟩ ∈ accesses := by
  simp only [storesOf, List.mem_filterMap, RouterAccess.stored?_eq_some]
  constructor
  · rintro ⟨access, hmem, rfl⟩
    exact hmem
  · intro hmem
    exact ⟨_, hmem, rfl⟩

namespace Router

/-- Only a removal of a registered endpoint stores a state. -/
theorem storesOf_eventAccesses (router : Router) (event : EndpointEvent) :
    storesOf (router.eventAccesses event) = [] ∨
      ∃ parentId id reason, event = .peerRemoved parentId id reason ∧
        (router.routing.lookup id).isSome ∧
        storesOf (router.eventAccesses event) = [(id, reason.finalState)] := by
  cases event with
  | endpointAdded id name routable => exact .inl rfl
  | peerAdded parentId childId name routable => exact .inl rfl
  | peerRemoved parentId childId reason =>
    rw [eventAccesses]
    split
    · rename_i hregistered
      exact .inr ⟨parentId, childId, reason, rfl, hregistered, rfl⟩
    · exact .inl rfl

/-- The endpoint whose state is stored is the removed one. -/
theorem removal_of_mem_storesOf {router : Router} {event : EndpointEvent} {id : EndpointId}
    {state : EndpointState} (h : (id, state) ∈ storesOf (router.eventAccesses event)) :
    ∃ parentId reason, event = .peerRemoved parentId id reason ∧
      (router.routing.lookup id).isSome ∧ state = reason.finalState := by
  rcases router.storesOf_eventAccesses event with
    hnil | ⟨parentId, removed, reason, hevent, hregistered, hone⟩
  · rw [hnil] at h
    cases h
  · rw [hone] at h
    cases List.mem_singleton.mp h
    exact ⟨parentId, reason, hevent, hregistered, rfl⟩

/-- Frames store no state. -/
theorem storesOf_handleFrame (oneshot : List UInt8 → UInt64) (visit : Visit) (router : Router)
    (routerFrame : RouterFrame) (now : Instant) :
    storesOf ((router.handleFrame oneshot visit routerFrame now).2.map .port) = [] := by
  have hingest : ∀ effect ∈ (router.ingestSourceFrame oneshot routerFrame now).2.2,
      RouterAccess.stored? (.port effect) = none := by
    have hingests := router.ingestSourceFrame_ingests oneshot routerFrame now
    generalize router.ingestSourceFrame oneshot routerFrame now = result at hingests
    cases hingests <;> simp [RouterAccess.stored?]
  have hdispatch : ∀ {router : Router} {srcEndpointName : String},
      ∀ effect ∈ router.dispatchToDestinations visit routerFrame srcEndpointName,
        RouterAccess.stored? (.port effect) = none := by
    rintro router srcEndpointName ⟨target, access⟩ heffect
    rcases access_of_mem_dispatch heffect with rfl | rfl
    · rfl
    · rfl
  rw [storesOf, List.filterMap_eq_nil_iff]
  intro access haccess
  obtain ⟨effect, heffect, rfl⟩ := List.mem_map.mp haccess
  unfold handleFrame at heffect
  split at heffect
  · rename_i hresult
    rw [hresult] at hingest
    exact hingest effect heffect
  · rename_i hresult
    rw [hresult] at hingest
    rcases List.mem_append.mp heffect with hsource | hdest
    · exact hingest effect hsource
    · exact hdispatch effect hdest

/-- The sweep stores `down` for every registered endpoint. -/
theorem storesOf_sweepAccesses (visit : Visit) (router : Router) :
    storesOf (router.sweepAccesses visit) =
      (visit.order router.routing.entries).map fun entry => (entry.1, .down) := by
  unfold sweepAccesses
  induction visit.order router.routing.entries with
  | nil => rfl
  | cons entry entries ih =>
    rw [List.flatMap_cons, storesOf, List.filterMap_append, List.map_cons]
    exact congrArg (List.cons _) ih

/-- So it stores `down` for registered endpoints only. -/
theorem registered_of_mem_storesOf {visit : Visit} {router : Router} {id : EndpointId}
    {state : EndpointState} (h : (id, state) ∈ storesOf (router.sweepAccesses visit)) :
    (router.routing.lookup id).isSome ∧ state = .down := by
  rw [storesOf_sweepAccesses] at h
  obtain ⟨entry, hentry, hsame⟩ := List.mem_map.mp h
  cases hsame
  rw [visit.mem_order.mp hentry]
  exact ⟨rfl, rfl⟩

end Router

namespace Monitor

variable {oneshot : List UInt8 → UInt64} {cfg : Stats.StatsRunConfig} {before after : Monitor}
  {id : EndpointId}

/-- The states that the router has still to store are final ones, of different endpoints that
are not registered any more. -/
structure Removes (monitor : Monitor) : Prop where
  added : ∀ {id}, (monitor.router.routing.lookup id).isSome → id ∈ addedIn monitor.handled
  distinct : ((storesOf monitor.pending).map Prod.fst).Nodup
  removed : ∀ {id state}, (id, state) ∈ storesOf monitor.pending →
    id ∈ addedIn monitor.handled ∧ monitor.router.routing.lookup id = none ∧
      (state = .idle ∨ state = .down)

private theorem finalState_cases (reason : PeerRemovalReason) :
    reason.finalState = .idle ∨ reason.finalState = .down := by
  cases reason with
  | idle => exact .inl rfl
  | lruEvicted => exact .inr rfl
  | disconnected => exact .inr rfl
  | listenerShutdown => exact .inr rfl

/-- Handling an event. -/
theorem Removes.tookEvent (h : Removes before) (event : EndpointEvent) :
    Removes (before.handle (.event event) (before.router.afterEvent event)
      (before.router.eventAccesses event)) := by
  have hlookup : ∀ id, ((before.router.afterEvent event).routing.lookup id).isSome ↔
      event.added? = some id ∨
        (before.router.routing.lookup id).isSome ∧ event.removed? ≠ some id :=
    fun id => before.router.lookup_handleEvent_isSome event id
  have hadded : ∀ {id}, (before.router.routing.lookup id).isSome →
      id ∈ addedIn (before.handled ++ [.event event]) :=
    fun hregistered => mem_addedIn_snoc.mpr (.inl (h.added hregistered))
  refine ⟨?_, ?_, ?_⟩
  · intro id hregistered
    rcases (hlookup id).mp hregistered with hnew | ⟨hold, -⟩
    · exact mem_addedIn_snoc.mpr (.inr hnew)
    · exact hadded hold
  · rcases before.router.storesOf_eventAccesses event with hnil | ⟨parentId, id, reason, -, -, hone⟩
    · rw [handle_pending, hnil]
      exact List.nodup_nil
    · rw [handle_pending, hone]
      exact List.nodup_singleton _
  · intro id state hstore
    obtain ⟨parentId, reason, rfl, hregistered, rfl⟩ := Router.removal_of_mem_storesOf hstore
    refine ⟨hadded hregistered, ?_, finalState_cases reason⟩
    rw [← Option.not_isSome_iff_eq_none]
    intro hstill
    rcases (hlookup id).mp hstill with hnew | ⟨-, hne⟩
    · cases hnew
    · exact hne rfl

/-- Every step keeps this. -/
theorem Removes.step (h : Removes before) (hmoves : Moves oneshot before after) :
    Removes after := by
  cases hmoves with
  | tookEvent event hpending hswept => exact h.tookEvent event
  | tookFrame visit routerFrame now hpending hswept =>
    have hstores := Router.storesOf_handleFrame oneshot visit before.router routerFrame now
    have hingests := before.router.ingestSourceFrame_ingests oneshot routerFrame now
    refine ⟨?_, ?_, ?_⟩
    · intro id hregistered
      rw [handle_router, Router.handleFrame_fst, Option.isSome_iff_ne_none, ne_eq,
        hingests.lookup_eq_none id, ← ne_eq, ← Option.isSome_iff_ne_none] at hregistered
      exact mem_addedIn_snoc.mpr (.inl (h.added hregistered))
    · rw [handle_pending, hstores]
      exact List.nodup_nil
    · intro id state hstore
      rw [handle_pending, hstores] at hstore
      cases hstore
  | tookAll visit hpending hswept =>
    refine ⟨?_, ?_, ?_⟩
    · intro id hregistered
      cases hregistered
    · dsimp only
      rw [Router.storesOf_sweepAccesses, List.map_map]
      exact visit.nodup_keys before.router.routing
    · intro id state hstore
      obtain ⟨hregistered, rfl⟩ := Router.registered_of_mem_storesOf hstore
      exact ⟨h.added hregistered, rfl, .inr rfl⟩
  | @performed access pending hpending =>
    have hrouting := Router.routing_perform (before.router, before.ports) access
    have hsub : (storesOf pending).Sublist (storesOf before.pending) := by
      rw [hpending]
      exact (List.sublist_cons_self access pending).filterMap _
    refine ⟨?_, h.distinct.sublist (hsub.map _), ?_⟩
    · intro id hregistered
      rw [hrouting] at hregistered
      exact h.added hregistered
    · intro id state hstore
      rw [hrouting]
      exact h.removed (hsub.subset hstore)
  | received hrecv hstats => exact ⟨h.added, h.distinct, h.removed⟩
  | aside ports hstats => exact ⟨h.added, h.distinct, h.removed⟩

private theorem removes_start (statsCapacity : ℕ) (dedupMs : UInt64) (dedupWindowCapacity : ℕ)
    (ports : Ports) : Removes (start statsCapacity dedupMs dedupWindowCapacity ports) := by
  refine ⟨?_, List.nodup_nil, ?_⟩
  · intro id hregistered
    cases hregistered
  · intro id state hstore
    cases hstore

/-- The router has stored the final state of the endpoint and will not store another one. -/
structure Retired (id : EndpointId) (monitor : Monitor) : Prop where
  added : id ∈ addedIn monitor.handled
  unregistered : monitor.router.routing.lookup id = none
  pending : ∀ state, (id, state) ∉ storesOf monitor.pending

private theorem Retired.of_eq (h : Retired id before) (hhandled : after.handled = before.handled)
    (hrouting : after.router.routing = before.router.routing)
    (hpending : storesOf after.pending ⊆ storesOf before.pending) : Retired id after where
  added := by
    rw [hhandled]
    exact h.added
  unregistered := by
    rw [hrouting]
    exact h.unregistered
  pending := fun state hstore => h.pending state (hpending hstore)

/-- An endpoint stays retired as long as its id is not used again. -/
theorem Retired.step (h : Retired id before) (hmoves : Moves oneshot before after)
    (hids : NoReuse after.handled) : Retired id after := by
  cases hmoves with
  | tookEvent event hpending hswept =>
    have hunregistered : (before.router.afterEvent event).routing.lookup id = none := by
      rw [← Option.not_isSome_iff_eq_none]
      intro hregistered
      rcases (before.router.lookup_handleEvent_isSome event id).mp hregistered with
        hnew | ⟨hold, -⟩
      · exact NoReuse.fresh hids hnew h.added
      · rw [h.unregistered] at hold
        cases hold
    refine ⟨mem_addedIn_snoc.mpr (.inl h.added), hunregistered, ?_⟩
    intro state hstore
    obtain ⟨-, -, -, hregistered, -⟩ := Router.removal_of_mem_storesOf hstore
    rw [h.unregistered] at hregistered
    cases hregistered
  | tookFrame visit routerFrame now hpending hswept =>
    have hstores := Router.storesOf_handleFrame oneshot visit before.router routerFrame now
    have hingests := before.router.ingestSourceFrame_ingests oneshot routerFrame now
    refine ⟨mem_addedIn_snoc.mpr (.inl h.added), ?_, ?_⟩
    · rw [handle_router, Router.handleFrame_fst, hingests.lookup_eq_none id]
      exact h.unregistered
    · intro state hstore
      rw [handle_pending, hstores] at hstore
      cases hstore
  | tookAll visit hpending hswept =>
    refine ⟨h.added, rfl, ?_⟩
    intro state hstore
    have hregistered := (Router.registered_of_mem_storesOf hstore).1
    rw [h.unregistered] at hregistered
    cases hregistered
  | @performed access pending hpending =>
    refine h.of_eq rfl (Router.routing_perform _ access) ?_
    rw [hpending]
    exact ((List.sublist_cons_self access pending).filterMap _).subset
  | received hrecv hstats => exact h.of_eq rfl rfl fun _ hstore => hstore
  | aside ports hstats => exact h.of_eq rfl rfl fun _ hstore => hstore

/-- The access to an endpoint that a step of the router makes. -/
def delivered (id : EndpointId) (monitor : Monitor) : Action → Option PortAccess
  | .perform =>
    match monitor.pending with
    | .port effect :: _ => if effect.target = id then some effect.access else none
    | _ => none
  | _ => none

/-- Not a step of the endpoint's own task. -/
def Action.foreign (id : EndpointId) : Action → Bool
  | .own owner _ => owner ≠ id
  | _ => true

/-- What a step of the other tasks does to the shared state of an endpoint. -/
theorem ports_step {action : Action} (hforeign : action.foreign id = true)
    (h : before.step oneshot cfg action = some after) :
    after.ports id = (before.delivered id action).elim (before.ports id)
      (before.ports id).access := by
  cases action with
  | event lifecycle =>
    simp only [Monitor.step] at h
    split at h <;> cases h
    rfl
  | frame visit routerFrame now =>
    simp only [Monitor.step] at h
    split at h <;> cases h
    rfl
  | sweep visit =>
    simp only [Monitor.step] at h
    split at h <;> cases h
    rfl
  | perform =>
    simp only [Monitor.step] at h
    split at h
    · cases h
    · rename_i access pending hpending
      cases h
      cases access with
      | forward event => simp [delivered, hpending, Router.perform]
      | port effect =>
        by_cases htarget : effect.target = id
        · subst htarget
          simp [delivered, hpending, Router.perform, Ports.apply]
        · simp [delivered, hpending, Router.perform, Ports.apply, htarget, Ne.symm htarget]
  | own owner update =>
    cases h
    have hne : owner ≠ id := by simpa [Action.foreign] using hforeign
    exact Function.update_of_ne (Ne.symm hne) _ _
  | receive ts =>
    simp only [Monitor.step] at h
    split at h <;> cases h
    rfl
  | tick visit ts =>
    simp only [Monitor.step] at h
    split at h <;> cases h
    rfl
  | write outcome =>
    simp only [Monitor.step] at h
    split at h <;> cases h
    rfl

/-- An access to a retired endpoint stores no state. -/
theorem Retired.delivered_ne (h : Retired id before) {action : Action} {access : PortAccess}
    (hdelivered : before.delivered id action = some access) (state : EndpointState) :
    access ≠ .storeState state := by
  rintro rfl
  unfold delivered at hdelivered
  split at hdelivered
  · split at hdelivered
    · rename_i effect rest hpending
      obtain ⟨htarget, haccess⟩ := Option.ite_none_right_eq_some.mp hdelivered
      refine h.pending state (mem_storesOf.mpr ?_)
      rw [hpending, ← htarget, ← Option.some.inj haccess]
      exact List.mem_cons_self
    · cases hdelivered
  · cases hdelivered

end Monitor

/-- An access that stores no state. -/
theorem Port.state_access (port : Port) {access : PortAccess}
    (h : ∀ state, access ≠ .storeState state) :
    (port.access access).stats.state = port.stats.state := by
  cases access with
  | push frame =>
    change (port.push frame).stats.state = _
    unfold push
    dsimp only
    split <;> rfl
  | addOutFilterDrop => rfl
  | addDedupDrop => rfl
  | storeLearnEntries count => rfl
  | storeState state => exact absurd rfl (h state)

/-- One endpoint next to the router and the stats task. -/
structure Watch where
  owner : Owner
  monitor : Monitor

namespace Watch

open Library (execute execute_induction execute_invariant execute_snoc Along along_nil along_snoc)

variable {table : MsgTable} {oneshot : List UInt8 → UInt64} {cfg : Stats.StatsRunConfig}
  {id : EndpointId} {watch before after : Watch}

/-- A step of the endpoint's task, or of one of the other tasks. -/
inductive Action where
  | own (action : Owner.Action)
  | monitor (action : Monitor.Action)

/-- One step. What the router does to the shared state of the endpoint, it does to the state
the task works on, and what the task does is seen by the others. -/
def step (table : MsgTable) (oneshot : List UInt8 → UInt64) (cfg : Stats.StatsRunConfig)
    (id : EndpointId) (watch : Watch) : Action → Option Watch
  | .own action =>
    (watch.owner.step table action).map fun owner =>
      ⟨owner, { watch.monitor with
        ports := Function.update watch.monitor.ports id owner.port }⟩
  | .monitor action =>
    if action.foreign id then
      (watch.monitor.step oneshot cfg action).map fun monitor =>
        ⟨(watch.monitor.delivered id action).elim watch.owner watch.owner.access, monitor⟩
    else none

/-- A step of the endpoint's task. -/
theorem step_own {action : Owner.Action}
    (h : before.step table oneshot cfg id (.own action) = some after) :
    before.owner.step table action = some after.owner ∧
      after.monitor = { before.monitor with
        ports := Function.update before.monitor.ports id after.owner.port } := by
  obtain ⟨owner, howner, rfl⟩ := Option.map_eq_some_iff.mp h
  exact ⟨howner, rfl⟩

/-- A step of one of the other tasks. -/
theorem step_monitor {action : Monitor.Action}
    (h : before.step table oneshot cfg id (.monitor action) = some after) :
    action.foreign id = true ∧
      before.monitor.step oneshot cfg action = some after.monitor ∧
      after.owner = (before.monitor.delivered id action).elim before.owner before.owner.access := by
  obtain ⟨hforeign, h⟩ := Option.ite_none_right_eq_some.mp h
  obtain ⟨monitor, hmonitor, rfl⟩ := Option.map_eq_some_iff.mp h
  exact ⟨hforeign, hmonitor, rfl⟩

/-- The task and the others see the same shared state. -/
def Synced (id : EndpointId) (watch : Watch) : Prop :=
  watch.monitor.ports id = watch.owner.port

private theorem Synced.step (h : before.Synced id) {action : Action}
    (hstep : before.step table oneshot cfg id action = some after) : after.Synced id := by
  unfold Synced at h ⊢
  cases action with
  | own action =>
    obtain ⟨-, hmonitor⟩ := step_own hstep
    rw [hmonitor]
    exact Function.update_self _ _ _
  | monitor action =>
    obtain ⟨hforeign, hmonitor, howner⟩ := step_monitor hstep
    rw [Monitor.ports_step hforeign hmonitor, howner, h]
    cases before.monitor.delivered id action with
    | none => rfl
    | some access => exact (before.owner.port_access access).symm

private theorem synced_of_execute {actions : List Action} (h : before.Synced id)
    (hrun : execute (step table oneshot cfg id) before actions = some after) : after.Synced id :=
  execute_invariant (motive := Synced id) h (fun hbefore hstep => hbefore.step hstep) hrun

/-- The monitor takes one of its steps, or the ports change. -/
theorem step_moves {action : Action}
    (h : before.step table oneshot cfg id action = some after) :
    Monitor.Moves oneshot before.monitor after.monitor := by
  cases action with
  | own action =>
    obtain ⟨-, hmonitor⟩ := step_own h
    rw [hmonitor]
    exact .aside _ rfl
  | monitor action => exact Monitor.step_moves (step_monitor h).2.1

/-- The endpoint's task stores no state. -/
def StoresNothing (watch : Watch) (action : Action) : Prop :=
  ∀ own, action = .own own → watch.owner.stores? own = none

/-- Steps of the other tasks leave the state of a retired endpoint as it is. -/
theorem state_of_foreign {action : Monitor.Action} (h : before.monitor.Retired id)
    (hstep : before.step table oneshot cfg id (.monitor action) = some after) :
    after.owner.state = before.owner.state := by
  rw [(step_monitor hstep).2.2]
  cases hdelivered : before.monitor.delivered id action with
  | none => rfl
  | some access =>
    change (before.owner.access access).port.stats.state = before.owner.port.stats.state
    rw [before.owner.port_access]
    exact before.owner.port.state_access (h.delivered_ne hdelivered)

/-- What becomes of the state of an endpoint after the router has stored the final one. -/
structure Outlives (table : MsgTable) (oneshot : List UInt8 → UInt64) (cfg : Stats.StatsRunConfig)
    (id : EndpointId) (terminal : EndpointState) (stored : Watch) (actions : List Action)
    (watch : Watch) : Prop where
  run : execute (step table oneshot cfg id) stored actions = some watch
  retired : watch.monitor.Retired id
  kept : watch.owner.state = terminal ↔
    Along (step table oneshot cfg id) StoresNothing stored actions
  states : watch.owner.state = terminal ∨ watch.owner.state = .connected ∨
    watch.owner.state = .reconnecting

/-- One more step: a task that has stored another state does not restore the final one. -/
theorem Outlives.step {terminal : EndpointState} {stored : Watch} {actions : List Action}
    {action : Action} (hterminal : terminal = .idle ∨ terminal = .down)
    (h : Outlives table oneshot cfg id terminal stored actions before)
    (hstep : before.step table oneshot cfg id action = some after)
    (hids : NoReuse after.monitor.handled) :
    Outlives table oneshot cfg id terminal stored (actions ++ [action]) after := by
  have hother : terminal ≠ .connected ∧ terminal ≠ .reconnecting := by
    rcases hterminal with rfl | rfl
    · exact ⟨by decide, by decide⟩
    · exact ⟨by decide, by decide⟩
  have hrun := execute_snoc.mpr ⟨before, h.run, hstep⟩
  have hretired := h.retired.step (step_moves hstep) hids
  cases action with
  | monitor action =>
    have hsame := state_of_foreign h.retired hstep
    have hnothing : StoresNothing before (.monitor action) := by
      rintro own ⟨⟩
    refine ⟨hrun, hretired, ?_, ?_⟩
    · rw [along_snoc h.run, ← h.kept, hsame]
      exact ⟨fun heq => ⟨heq, hnothing⟩, And.left⟩
    · rw [hsame]
      exact h.states
  | own own =>
    have hnothing : StoresNothing before (.own own) ↔ before.owner.stores? own = none := by
      constructor
      · intro hnothing
        exact hnothing own rfl
      · rintro hnone own' ⟨⟩
        exact hnone
    have hstate := Owner.state_step (step_own hstep).1
    cases hstored : before.owner.stores? own with
    | none =>
      rw [hstored, Option.getD_none] at hstate
      refine ⟨hrun, hretired, ?_, ?_⟩
      · rw [along_snoc h.run, ← h.kept, hnothing, hstate]
        exact ⟨fun heq => ⟨heq, hstored⟩, And.left⟩
      · rw [hstate]
        exact h.states
    | some state =>
      rw [hstored, Option.getD_some] at hstate
      have hcases := Owner.stored_cases hstored
      refine ⟨hrun, hretired, ?_, ?_⟩
      · rw [along_snoc h.run, hnothing, hstored, hstate]
        refine iff_of_false ?_ ?_
        · rintro rfl
          exact hcases.elim hother.1 hother.2
        · rintro ⟨-, ⟨⟩⟩
      · rw [hstate]
        exact .inr hcases

/-- A run in which the router stores the final state of an endpoint and the stats task then
reports the end of the endpoint. -/
structure Ends (table : MsgTable) (oneshot : List UInt8 → UInt64) (cfg : Stats.StatsRunConfig)
    (id : EndpointId) (first : Watch) (earlier : List Action) (terminal : EndpointState)
    (stored : Watch) (between : List Action) (later final : Watch) : Prop where
  taken : ∃ before rest, execute (step table oneshot cfg id) first earlier = some before ∧
    before.monitor.pending = .port ⟨id, .storeState terminal⟩ :: rest ∧
    before.step table oneshot cfg id (.monitor .perform) = some stored
  between : execute (step table oneshot cfg id) stored between = some later
  finalize : ∃ statsEvents,
    later.monitor.router.statsEvents.tryRecv = some (.finalize id, statsEvents)
  reported : ∃ ts, later.step table oneshot cfg id (.monitor (.receive ts)) = some final

/-- The endpoint and the other tasks at the start. -/
def start (owner : Owner) (statsCapacity : ℕ) (dedupMs : UInt64) (dedupWindowCapacity : ℕ)
    (ports : Ports) : Watch :=
  ⟨owner, .start statsCapacity dedupMs dedupWindowCapacity ports⟩

variable {owner : Owner} {statsCapacity : ℕ} {dedupMs : UInt64} {dedupWindowCapacity : ℕ}
  {ports : Ports} {terminal : EndpointState} {stored later final : Watch}
  {earlier between : List Action}

/-- From the store on, the state is what the endpoint's task makes of it. -/
theorem Ends.outlives (h : Ends table oneshot cfg id
      (start owner statsCapacity dedupMs dedupWindowCapacity ports) earlier terminal stored between
      later final)
    (hids : NoReuse later.monitor.handled) :
    Outlives table oneshot cfg id terminal stored between later := by
  obtain ⟨before, rest, hearlier, hpending, hperform⟩ := h.taken
  have hremoves : before.monitor.Removes := by
    refine execute_invariant (motive := fun watch => watch.monitor.Removes)
      (Monitor.removes_start statsCapacity dedupMs dedupWindowCapacity ports) ?_ hearlier
    intro before action after hbefore hstep
    exact hbefore.step (step_moves hstep)
  have hmem : (id, terminal) ∈ storesOf before.monitor.pending := by
    rw [mem_storesOf, hpending]
    exact List.mem_cons_self
  obtain ⟨hadded, hunregistered, hterminal⟩ := hremoves.removed hmem
  obtain ⟨-, hmonitor, howner⟩ := step_monitor hperform
  have hstate : stored.owner.state = terminal := by
    have hdelivered : before.monitor.delivered id .perform = some (.storeState terminal) := by
      simp [Monitor.delivered, hpending]
    rw [howner, hdelivered]
    change (before.owner.access (.storeState terminal)).port.stats.state = terminal
    rw [before.owner.port_access]
    rfl
  have hretired : stored.monitor.Retired id := by
    have hdistinct := hremoves.distinct
    rw [hpending] at hdistinct
    simp only [Monitor.step, hpending] at hmonitor
    rw [← Option.some.inj hmonitor]
    refine ⟨hadded, hunregistered, ?_⟩
    intro state hstore
    exact (List.nodup_cons.mp hdistinct).1 (List.mem_map.mpr ⟨_, hstore, rfl⟩)
  refine execute_induction (motive := fun actions watch => NoReuse watch.monitor.handled →
    Outlives table oneshot cfg id terminal stored actions watch) ?_ ?_ h.between hids
  · intro _
    exact ⟨rfl, hretired, iff_of_true hstate along_nil, .inl hstate⟩
  · intro actions before action after hbefore hstep hids
    refine (hbefore ?_).step hterminal hstep hids
    obtain ⟨more, hmore⟩ := (step_moves hstep).grows.1
    rw [← hmore] at hids
    exact hids.of_append

/-- The last line of an endpoint reports the state that its task has left. -/
theorem Ends.queues (h : Ends table oneshot cfg id
      (start owner statsCapacity dedupMs dedupWindowCapacity ports) earlier terminal stored between
      later final)
    (hports : ports id = owner.port) (henabled : cfg.enabled = true)
    (hcapacity : 0 < cfg.queueCapacity) {entry : Stats.RegisteredEndpoint}
    (hentry : later.monitor.stats.registry.lookup id = some entry) :
    ∃ line, Stats.Task.QueuedSynthetic cfg.queueCapacity line later.monitor.stats.queue
        final.monitor.stats.queue ∧
      line.endpoint = entry.name ∧ line.state = later.owner.state.label := by
  have hsynced : later.Synced id := by
    obtain ⟨before, rest, hearlier, -, hperform⟩ := h.taken
    have hfirst : (start owner statsCapacity dedupMs dedupWindowCapacity ports).Synced id := hports
    exact synced_of_execute ((synced_of_execute hfirst hearlier).step hperform) h.between
  obtain ⟨statsEvents, hrecv⟩ := h.finalize
  obtain ⟨ts, hreceive⟩ := h.reported
  have hmonitor := (step_monitor hreceive).2.1
  simp only [Monitor.step, hrecv] at hmonitor
  rw [← Option.some.inj hmonitor]
  refine ⟨_, Stats.Task.handleEvent_finalize_queues henabled hcapacity hentry
    later.monitor.ports ts, Stats.endpoint_buildLine .., ?_⟩
  rw [Stats.state_buildLine, hsynced]
  rfl

/-- The last line of an endpoint reports the final state that the router stored if and only if
the endpoint's own task has stored no state in between. -/
theorem final_line_iff (h : Ends table oneshot cfg id
      (start owner statsCapacity dedupMs dedupWindowCapacity ports) earlier terminal stored between
      later final)
    (hports : ports id = owner.port) (hids : NoReuse later.monitor.handled)
    (henabled : cfg.enabled = true) (hcapacity : 0 < cfg.queueCapacity)
    {entry : Stats.RegisteredEndpoint}
    (hentry : later.monitor.stats.registry.lookup id = some entry) :
    ∃ line, Stats.Task.QueuedSynthetic cfg.queueCapacity line later.monitor.stats.queue
        final.monitor.stats.queue ∧
      line.endpoint = entry.name ∧
      (line.state = terminal.label ↔
        Along (step table oneshot cfg id) StoresNothing stored between) := by
  obtain ⟨line, hqueued, hendpoint, hstate⟩ := h.queues hports henabled hcapacity hentry
  refine ⟨line, hqueued, hendpoint, ?_⟩
  rw [hstate, EndpointState.label_injective.eq_iff]
  exact (h.outlives hids).kept

/-- The steps of the other tasks make no endpoint a peer, and none stop being one. -/
theorem isPeer_step {action : Action} (h : before.owner.IsPeer)
    (hstep : before.step table oneshot cfg id action = some after) : after.owner.IsPeer := by
  cases action with
  | own action => exact h.step (step_own hstep).1
  | monitor action =>
    rw [(step_monitor hstep).2.2]
    cases before.monitor.delivered id action with
    | none => exact h
    | some access => exact h.access access

/-- The last line of a peer always reports the final state, since its task stores none. -/
theorem final_line_of_peer (h : Ends table oneshot cfg id
      (start owner statsCapacity dedupMs dedupWindowCapacity ports) earlier terminal stored between
      later final)
    (hpeer : owner.IsPeer) (hports : ports id = owner.port)
    (hids : NoReuse later.monitor.handled) (henabled : cfg.enabled = true)
    (hcapacity : 0 < cfg.queueCapacity) {entry : Stats.RegisteredEndpoint}
    (hentry : later.monitor.stats.registry.lookup id = some entry) :
    ∃ line, Stats.Task.QueuedSynthetic cfg.queueCapacity line later.monitor.stats.queue
        final.monitor.stats.queue ∧
      line.endpoint = entry.name ∧ line.state = terminal.label := by
  obtain ⟨line, hqueued, hendpoint, hstate⟩ := h.queues hports henabled hcapacity hentry
  have hstored : stored.owner.IsPeer := by
    obtain ⟨before, rest, hearlier, -, hperform⟩ := h.taken
    refine isPeer_step ?_ hperform
    exact execute_invariant (motive := fun watch => watch.owner.IsPeer) hpeer
      (fun hbefore hstep => isPeer_step hbefore hstep) hearlier
  have hkept : later.owner.state = terminal := by
    rw [(h.outlives hids).kept]
    intro done action before hinit hbefore own haction
    have hpeer : before.owner.IsPeer :=
      execute_invariant (motive := fun watch => watch.owner.IsPeer) hstored
        (fun hbefore hstep => isPeer_step hbefore hstep) hbefore
    exact hpeer.stores own
  exact ⟨line, hqueued, hendpoint, by rw [hstate, hkept]⟩

/-- A UDP client that is idle when the router sweeps it away is reported as down. -/
theorem final_line_iff_idle :
    let table : MsgTable := ⟨[], .nil⟩
    let cfg : Stats.StatsRunConfig := ⟨true, Stats.defaultStatsQueueLines⟩
    let spec : UdpClientSpec := ⟨"host", 14550, ⟨1⟩, 30, {}⟩
    let owner : Owner := .routed (.udpc spec (.start spec 2))
    let ports : Ports := fun _ => owner.port
    let visit : Visit := .inOrder
    let earlier : List Action := [.own (.routed (.udpc (.resolve [.v4 1]))),
      .own (.routed (.udpc (.bind true))),
      .monitor (.event (.endpointAdded ⟨1⟩ "gcs" (some ⟨{}, "gcs"⟩))), .monitor .perform,
      .monitor (.receive "t0"), .own (.routed (.udpc .cancel)), .monitor (.sweep visit)]
    let between : List Action := [.monitor .perform]
    ∃ stored later final, Ends table (fun _ => 0) cfg ⟨1⟩ (start owner 64 0 16 ports) earlier
        .down stored between later final ∧
      ∃ line, Stats.Task.QueuedSynthetic cfg.queueCapacity line later.monitor.stats.queue
          final.monitor.stats.queue ∧
        line.endpoint = "gcs" ∧ line.state = "down" := by
  intro table cfg spec owner ports visit earlier between
  obtain ⟨stored, later, final, hends, hids, hentry⟩ : ∃ stored later final,
      Ends table (fun _ => 0) cfg ⟨1⟩ (start owner 64 0 16 ports) earlier .down stored between
        later final ∧
      NoReuse later.monitor.handled ∧
      later.monitor.stats.registry.lookup ⟨1⟩ = some ⟨"gcs", true⟩ :=
    ⟨_, _, _, ⟨⟨_, _, rfl, rfl, rfl⟩, rfl, ⟨_, rfl⟩, ⟨"t1", rfl⟩⟩, List.nodup_singleton _, rfl⟩
  obtain ⟨line, hqueued, hendpoint, hiff⟩ :=
    final_line_iff hends rfl hids rfl (by decide) hentry
  refine ⟨stored, later, final, hends, line, hqueued, hendpoint, hiff.mpr ?_⟩
  rintro done action before hinit - own rfl
  have hmem := hinit.subset (List.mem_append_right done List.mem_cons_self)
  cases List.mem_singleton.mp hmem

/-- A UDP client has taken a frame from its queue when the shutdown comes. The router stores
`down`, then the frame is sent, and the last line says that the client is connected. -/
theorem final_line_connected :
    let table : MsgTable := ⟨[], .nil⟩
    let cfg : Stats.StatsRunConfig := ⟨true, Stats.defaultStatsQueueLines⟩
    let spec : UdpClientSpec := ⟨"host", 14550, ⟨1⟩, 30, {}⟩
    let owner : Owner := .routed (.udpc spec (.start spec 2))
    let ports : Ports := fun _ => owner.port
    let visit : Visit := .inOrder
    let frame : Bytes := ⟨[0xFE, 0, 7, 1, 1, 0, 0, 0], ⟨0⟩, 0⟩
    let routerFrame : RouterFrame := ⟨⟨0⟩, frame, ⟨.v1, ⟨1, 1⟩, 0, 7, 0, none, none⟩⟩
    let earlier : List Action := [.own (.routed (.udpc (.resolve [.v4 1]))),
      .own (.routed (.udpc (.bind true))),
      .monitor (.event (.endpointAdded ⟨1⟩ "gcs" (some ⟨{}, "gcs"⟩))), .monitor .perform,
      .monitor (.receive "t0"),
      .monitor (.event (.endpointAdded ⟨0⟩ "fc" (some ⟨{}, "fc"⟩))), .monitor .perform,
      .monitor (.receive "t0"),
      .monitor (.frame visit routerFrame 5), .monitor .perform, .monitor .perform,
      .own (.routed (.udpc .pop)), .own (.routed (.udpc .cancel)), .monitor (.sweep visit),
      .monitor .perform, .monitor .perform]
    let between : List Action := [.monitor .perform, .own (.routed (.udpc (.send .sent []))),
      .monitor (.receive "t1")]
    ∃ stored later final, Ends table (fun _ => 0) cfg ⟨1⟩ (start owner 64 0 16 ports) earlier
        .down stored between later final ∧
      final.monitor.stats.queue.map (fun entry => (entry.line.endpoint, entry.line.state)) =
        [("fc", "down"), ("gcs", "connected")] := by
  intro table cfg spec owner ports visit frame routerFrame earlier between
  have hends : Ends table (fun _ => 0) cfg ⟨1⟩ (start owner 64 0 16 ports) earlier .down _
      between _ _ :=
    ⟨⟨_, _, rfl, rfl, rfl⟩, rfl, ⟨_, rfl⟩, ⟨"t1", rfl⟩⟩
  exact ⟨_, _, _, hends, rfl⟩

end Watch

end MavlinkRouter
