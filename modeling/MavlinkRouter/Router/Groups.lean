import MavlinkRouter.Router.Run

/-!
# Group reference counts

The group registry and the endpoint registry are updated by different functions.
Along every run in which endpoint ids are not reused they agree: a group exists
exactly while it has a registered member, and its count is the number of members.
-/

namespace MavlinkRouter

/-- A positive number, or nothing for zero. -/
def positive? (n : ℕ) : Option ℕ :=
  if n = 0 then none else some n

private theorem getD_positive? (n : ℕ) : (positive? n).getD 0 = n := by
  unfold positive?
  split
  · rename_i hzero
    exact hzero.symm
  · rfl

namespace GroupRegistry

/-- The member count of a group, if the group exists. -/
def members? (groups : GroupRegistry) (name : String) : Option ℕ :=
  (groups.get name).map GroupLearn.members

/-- Joining adds a member to one group, which it may create. -/
theorem get_join (groups : GroupRegistry) (name other : String) (capacity : ℕ) :
    (groups.join name capacity).get other =
      if other = name then
        let entry := (groups.get name).getD { learn := LearnTable.new capacity, members := 0 }
        some { entry with members := entry.members + 1 }
      else groups.get other := by
  unfold join get
  by_cases hname : other = name
  · subst hname
    rw [if_pos rfl, AList.lookup_insert]
  · rw [if_neg hname, AList.lookup_insert_ne hname]

/-- Leaving a group changes no learn table that stays. -/
theorem learn_of_get_leave {groups : GroupRegistry} {name other : String} {group : GroupLearn}
    (h : (groups.leave name).get other = some group) :
    ∃ before, groups.get other = some before ∧ group.learn = before.learn := by
  unfold leave at h
  split at h
  · exact ⟨group, h, rfl⟩
  · rename_i entry hfound
    by_cases hname : other = name
    · subst hname
      split at h
      · simp [get] at h
      · rw [get, AList.lookup_insert] at h
        cases h
        exact ⟨entry, hfound, rfl⟩
    · split at h
      · rw [get, AList.lookup_erase_ne hname] at h
        exact ⟨group, h, rfl⟩
      · rw [get, AList.lookup_insert_ne hname] at h
        exact ⟨group, h, rfl⟩

/-- Joining counts one member more. -/
theorem members?_join (groups : GroupRegistry) (name other : String) (capacity : ℕ) :
    (groups.join name capacity).members? other =
      if other = name then some ((groups.members? name).getD 0 + 1) else groups.members? other := by
  unfold members?
  rw [get_join]
  by_cases hname : other = name
  · rw [if_pos hname, if_pos hname]
    cases groups.get name <;> rfl
  · rw [if_neg hname, if_neg hname]

/-- Leaving counts one member less and drops a group without members. -/
theorem members?_leave (groups : GroupRegistry) (name other : String) :
    (groups.leave name).members? other =
      if other = name then (groups.members? name).bind fun n => positive? (n - 1)
      else groups.members? other := by
  cases hfound : groups.get name with
  | none =>
    have hleave : groups.leave name = groups := by rw [leave, hfound]
    rw [hleave]
    by_cases hname : other = name
    · rw [if_pos hname, hname, members?, hfound]
      rfl
    · rw [if_neg hname]
  | some entry =>
    have hmembers : groups.members? name = some entry.members := by rw [members?, hfound]; rfl
    by_cases hlast : entry.members - 1 = 0
    · have hleave : groups.leave name = { map := groups.map.erase name } := by
        rw [leave, hfound]
        exact if_pos hlast
      rw [hleave, hmembers, Option.bind_some, positive?, if_pos hlast, members?, get]
      by_cases hname : other = name
      · rw [if_pos hname, hname, AList.lookup_erase]
        rfl
      · rw [if_neg hname, AList.lookup_erase_ne hname]
        rfl
    · have hleave : groups.leave name =
          { map := groups.map.insert name { entry with members := entry.members - 1 } } := by
        rw [leave, hfound]
        exact if_neg hlast
      rw [hleave, hmembers, Option.bind_some, positive?, if_neg hlast, members?, get]
      by_cases hname : other = name
      · rw [if_pos hname, hname, AList.lookup_insert]
        rfl
      · rw [if_neg hname, AList.lookup_insert_ne hname]
        rfl

/-- Learning in a group leaves its count alone. -/
theorem members?_setLearn {groups : GroupRegistry} {name : String} {group : GroupLearn}
    (hfound : groups.get name = some group) (learn : LearnTable) (other : String) :
    (groups.setLearn name group learn).members? other = groups.members? other := by
  by_cases hname : other = name
  · subst hname
    rw [members?, members?, hfound, setLearn, get, AList.lookup_insert]
    rfl
  · rw [members?, members?, setLearn, get, AList.lookup_insert_ne hname, get]

end GroupRegistry

namespace Router

/-- The number of registered routable endpoints in a group. -/
def memberCount (router : Router) (name : String) : ℕ :=
  Library.countValues (fun entry => entry.group? = some name) router.routing

/-- Every group has a positive count, that of its registered members. -/
def GroupsCounted (router : Router) : Prop :=
  ∀ name, router.groups.members? name = positive? (router.memberCount name)

variable {router : Router} {oneshot : List UInt8 → UInt64}

/-- A registration under a new id keeps the counts. -/
theorem GroupsCounted.registers {id : EndpointId} {entry : RegisteredEndpoint}
    {result : Router × List Effect} (h : router.GroupsCounted)
    (hresult : Registers router id entry result) (hnew : router.routing.lookup id = none) :
    result.1.GroupsCounted := by
  intro name
  have hcount : result.1.memberCount name =
      router.memberCount name + if entry.group? = some name then 1 else 0 := by
    unfold memberCount
    rw [hresult.routing, Library.countValues_insert,
      Library.countValues_erase_of_lookup_none _ hnew]
    simp only [decide_eq_true_eq]
  rw [hresult.groups, groupsJoined, hcount]
  cases hgroup : entry.group? with
  | none => simpa using h name
  | some group =>
    rw [Option.elim_some, GroupRegistry.members?_join]
    by_cases hname : name = group
    · subst hname
      rw [if_pos rfl, if_pos rfl, h name, getD_positive?]
      rfl
    · have hother : some group ≠ some name := fun heq => hname (Option.some.inj heq).symm
      rw [if_neg hname, if_neg hother]
      exact h name

/-- Removing a registered endpoint keeps the counts. -/
theorem GroupsCounted.unregisters {id : EndpointId} {entry : RegisteredEndpoint}
    {state : EndpointState} {result : Router × List Effect} (h : router.GroupsCounted)
    (hresult : Unregisters router id entry state result)
    (hentry : router.routing.lookup id = some entry) : result.1.GroupsCounted := by
  intro name
  have hcount : router.memberCount name =
      result.1.memberCount name + if entry.group? = some name then 1 else 0 := by
    unfold memberCount
    rw [hresult.routing, Library.countValues_of_lookup _ hentry]
    simp only [decide_eq_true_eq]
  rw [hresult.groups, groupsLeft]
  cases hgroup : entry.group? with
  | none =>
    rw [hgroup, if_neg (by simp), Nat.add_zero] at hcount
    rw [Option.elim_none, h name, hcount]
  | some group =>
    rw [Option.elim_some, GroupRegistry.members?_leave]
    by_cases hname : name = group
    · subst hname
      rw [hgroup, if_pos rfl] at hcount
      rw [if_pos rfl, h name, hcount]
      simp [positive?]
    · have hother : some group ≠ some name := fun heq => hname (Option.some.inj heq).symm
      rw [hgroup, if_neg hother, Nat.add_zero] at hcount
      rw [if_neg hname, h name, hcount]

/-- Admission at the source keeps the counts. -/
theorem GroupsCounted.ingests {routerFrame : RouterFrame} {now : Instant}
    {result : SourceAdmission × Router × List Effect} (h : router.GroupsCounted)
    (hresult : Ingests oneshot router routerFrame now result) :
    result.2.1.GroupsCounted := by
  cases hresult with
  | unknown hentry => exact h
  | notRoutable hentry hroutable => exact h
  | duplicate hentry hroutable hdedup => exact h
  | groupMissing hentry hroutable hdedup hgroup hmissing => exact h
  | learnedInGroup hentry hroutable hdedup hgroup hfound =>
    intro name
    exact (GroupRegistry.members?_setLearn hfound _ name).trans (h name)
  | @learned entry state dedup hentry hroutable hdedup hgroup =>
    intro name
    refine (h name).trans (congrArg positive? ?_)
    unfold memberCount
    rw [Library.countValues_insert, Library.countValues_of_lookup _ hentry,
      RegisteredEndpoint.group?_setLearn hroutable]

/-- With counted groups, a group exists exactly if its count is positive. -/
theorem GroupsCounted.get_isSome_iff_pos (h : router.GroupsCounted) (name : String) :
    (router.groups.get name).isSome ↔ 0 < router.memberCount name := by
  have hname := h name
  unfold GroupRegistry.members? positive? at hname
  rw [← Option.isSome_map, hname]
  split
  · simp only [Option.isSome_none, Bool.false_eq_true, false_iff]
    omega
  · simp only [Option.isSome_some, true_iff]
    omega

/-- With counted groups, a group exists exactly while it has a registered member. -/
theorem GroupsCounted.get_isSome_iff (h : router.GroupsCounted) (name : String) :
    (router.groups.get name).isSome ↔
      ∃ id state, router.routable? id = some state ∧ state.identity.group = some name := by
  rw [h.get_isSome_iff_pos, memberCount, Library.countValues_pos_iff]
  constructor
  · rintro ⟨id, entry, hentry, hmember⟩
    rw [decide_eq_true_iff, RegisteredEndpoint.group?, Option.bind_eq_some_iff] at hmember
    obtain ⟨state, hroutable, hgroup⟩ := hmember
    exact ⟨id, state, routable?_eq_some.mpr ⟨entry, hentry, hroutable⟩, hgroup⟩
  · rintro ⟨id, state, hstate, hgroup⟩
    obtain ⟨entry, hentry, hroutable⟩ := routable?_eq_some.mp hstate
    exact ⟨id, entry, hentry, by simp [RegisteredEndpoint.group?, hroutable, hgroup]⟩

/-- With counted groups, every registered routable endpoint has a learn table. -/
theorem GroupsCounted.effectiveLearn_isSome (h : router.GroupsCounted) {id : EndpointId}
    {state : RoutableState} (hstate : router.routable? id = some state) :
    (router.effectiveLearn state).isSome := by
  unfold effectiveLearn
  split
  · rename_i name hgroup
    rw [Option.isSome_map]
    exact (h.get_isSome_iff name).mpr ⟨id, state, hstate, hgroup⟩
  · rfl

/-- With counted groups, only the dedup window keeps out a registered routable source. -/
theorem GroupsCounted.ingest_admitted (h : router.GroupsCounted) {routerFrame : RouterFrame}
    {now : Instant} {state : RoutableState}
    (hstate : router.routable? routerFrame.endpointId = some state)
    (hdedup : (router.dedup.checkAndInsert oneshot routerFrame.frame now).1 = false) :
    (router.ingestSourceFrame oneshot routerFrame now).1 = .admitted state.endpointName := by
  obtain ⟨entry, hentry, hroutable⟩ := routable?_eq_some.mp hstate
  have hingests := router.ingestSourceFrame_ingests oneshot routerFrame now
  generalize router.ingestSourceFrame oneshot routerFrame now = result at hingests ⊢
  cases hingests with
  | unknown hentry' => simp [hentry] at hentry'
  | notRoutable hentry' hroutable' =>
    obtain rfl := Option.some.inj (hentry.symm.trans hentry')
    simp [hroutable] at hroutable'
  | duplicate hentry' hroutable' hdedup' => simp [hdedup'] at hdedup
  | @groupMissing _ state' _ name hentry' hroutable' hdedup' hgroup hmissing =>
    obtain ⟨group, hgroup'⟩ := Option.isSome_iff_exists.mp ((h.get_isSome_iff name).mpr
      ⟨routerFrame.endpointId, state', routable?_eq_some.mpr ⟨_, hentry', hroutable'⟩, hgroup⟩)
    simp [hmissing] at hgroup'
  | learnedInGroup hentry' hroutable' hdedup' hgroup hfound =>
    obtain rfl := Option.some.inj (hentry.symm.trans hentry')
    obtain rfl := Option.some.inj (hroutable.symm.trans hroutable')
    rfl
  | learned hentry' hroutable' hdedup' hgroup =>
    obtain rfl := Option.some.inj (hentry.symm.trans hentry')
    obtain rfl := Option.some.inj (hroutable.symm.trans hroutable')
    rfl

end Router

/-- What holds of the router after a run: only added ids are registered, and the
groups are counted. -/
structure Accounted (inputs : List Input) (router : Router) : Prop where
  added : ∀ {id entry}, router.routing.lookup id = some entry → id ∈ inputs.filterMap Input.added?
  groups : router.GroupsCounted

section

variable {oneshot : List UInt8 → UInt64} {inputs : List Input} {hub : Hub}

/-- A part of a run reuses no id either. -/
theorem NoReuse.of_append {later : List Input} (h : NoReuse (inputs ++ later)) :
    NoReuse inputs := by
  unfold NoReuse at h ⊢
  rw [List.filterMap_append] at h
  exact (List.nodup_append.mp h).1

/-- An id that is added now was not added before. -/
theorem NoReuse.fresh {input : Input} {id : EndpointId} (h : NoReuse (inputs ++ [input]))
    (hadded : input.added? = some id) : id ∉ inputs.filterMap Input.added? := by
  unfold NoReuse at h
  rw [List.filterMap_append, List.filterMap_cons, hadded] at h
  intro hmem
  exact (List.nodup_append.mp h).2.2 id hmem id (by simp) rfl

/-- An account stays one when more inputs follow. -/
theorem Accounted.append {router : Router} (h : Accounted inputs router) (later : List Input) :
    Accounted (inputs ++ later) router := by
  refine ⟨fun hentry => ?_, h.groups⟩
  rw [List.filterMap_append]
  exact List.mem_append_left _ (h.added hentry)

/-- Handling an event keeps the account. -/
theorem Accounted.handleEvent {event : EndpointEvent} {router : Router}
    (h : Accounted inputs router) (hids : NoReuse (inputs ++ [.event event])) :
    Accounted (inputs ++ [.event event]) (router.handleEvent event).1 := by
  have hearlier := h.append [.event event]
  cases hreg : event.registration? with
  | some registration =>
    obtain ⟨id, name, payload⟩ := registration
    have hadded : (Input.event event).added? = some id := by
      simp [Input.added?, EndpointEvent.added?, hreg]
    have hresult := Router.handleEvent_registers router hreg
    have hnew : router.routing.lookup id = none := by
      rw [Option.eq_none_iff_forall_ne_some]
      intro entry hentry
      exact hids.fresh hadded (h.added hentry)
    refine ⟨?_, h.groups.registers hresult hnew⟩
    intro other entry hentry
    rw [hresult.routing] at hentry
    by_cases hid : other = id
    · rw [List.filterMap_append, List.filterMap_cons, hadded, hid]
      simp
    · rw [AList.lookup_insert_ne hid] at hentry
      exact hearlier.added hentry
  | none =>
    cases event with
    | endpointAdded id name routable => cases hreg
    | peerAdded parentId childId name routable => cases hreg
    | peerRemoved parentId childId reason =>
      cases hentry : router.routing.lookup childId with
      | none =>
        have hresult := Router.handleEvent_unchanged parentId reason hentry
        refine ⟨?_, ?_⟩
        · intro other entry hother
          rw [hresult.routing] at hother
          exact hearlier.added hother
        · intro name
          rw [hresult.groups, Router.memberCount, hresult.routing]
          exact h.groups name
      | some entry =>
        have hresult := Router.handleEvent_unregisters parentId reason hentry
        refine ⟨?_, h.groups.unregisters hresult hentry⟩
        intro other entry' hother
        rw [hresult.routing] at hother
        by_cases hid : other = childId
        · rw [hid, AList.lookup_erase] at hother
          cases hother
        · rw [AList.lookup_erase_ne hid] at hother
          exact hearlier.added hother

/-- Handling a frame keeps the account. -/
theorem Accounted.handleFrame {router : Router} (h : Accounted inputs router)
    (oneshot : List UInt8 → UInt64) (visit : Visit) (routerFrame : RouterFrame) (now : Instant) :
    Accounted inputs (router.handleFrame oneshot visit routerFrame now).1 := by
  have hingests := router.ingestSourceFrame_ingests oneshot routerFrame now
  rw [Router.handleFrame_fst]
  refine ⟨?_, h.groups.ingests hingests⟩
  intro id entry hentry
  cases hbefore : router.routing.lookup id with
  | none =>
    rw [(hingests.lookup_eq_none id).mpr hbefore] at hentry
    cases hentry
  | some before => exact h.added hbefore

/-- The account holds after every run from the empty router. -/
theorem accounted_run (oneshot : List UInt8 → UInt64) (statsEvents : Library.Channel StatsEvent)
    (dedupMs : UInt64) (dedupWindowCapacity : ℕ) (ports : Ports) (hids : NoReuse inputs) :
    Accounted inputs
      ((Hub.start statsEvents dedupMs dedupWindowCapacity ports).run oneshot inputs).router := by
  induction inputs using List.reverseRecOn with
  | nil =>
    refine ⟨?_, fun name => rfl⟩
    intro id entry hentry
    cases hentry
  | append_singleton inputs input ih =>
    have h := ih hids.of_append
    rw [Hub.run_snoc]
    cases input with
    | event event => exact h.handleEvent hids
    | frame visit routerFrame now =>
      exact (h.handleFrame oneshot visit routerFrame now).append _
    | own id update => exact h.append _
    | statsTask update => exact ⟨(h.append _).added, h.groups⟩

/-- The groups are counted in every reachable state. -/
theorem Hub.Reachable.groupsCounted (h : hub.Reachable oneshot) : hub.router.GroupsCounted := by
  obtain ⟨statsEvents, dedupMs, dedupWindowCapacity, ports, inputs, hids, rfl⟩ := h
  exact (accounted_run oneshot statsEvents dedupMs dedupWindowCapacity ports hids).groups

/-- In every reachable state a group exists exactly while it has a registered routable
member and counts its members. So a frame of a registered routable source is kept out by
the dedup window only, and dispatch finds the learn table of every destination. -/
theorem group_refcounts (hreach : hub.Reachable oneshot) :
    (∀ name, (hub.router.groups.get name).isSome ↔
      ∃ id state, hub.router.routable? id = some state ∧ state.identity.group = some name) ∧
    (∀ name group, hub.router.groups.get name = some group →
      group.members = hub.router.memberCount name) ∧
    (∀ (routerFrame : RouterFrame) now state,
      hub.router.routable? routerFrame.endpointId = some state →
      (hub.router.dedup.checkAndInsert oneshot routerFrame.frame now).1 = false →
      (hub.router.ingestSourceFrame oneshot routerFrame now).1 = .admitted state.endpointName) ∧
    (∀ routerFrame now id state,
      let ingested := (hub.router.ingestSourceFrame oneshot routerFrame now).2.1
      ingested.routable? id = some state → (ingested.effectiveLearn state).isSome) := by
  have hcounted := hreach.groupsCounted
  refine ⟨hcounted.get_isSome_iff, ?_, ?_, ?_⟩
  · intro name group hfound
    have hcount := hcounted name
    rw [GroupRegistry.members?, hfound, Option.map_some] at hcount
    rw [← getD_positive? (hub.router.memberCount name), ← hcount, Option.getD_some]
  · intro routerFrame now state hstate hdedup
    exact hcounted.ingest_admitted hstate hdedup
  · intro routerFrame now id state ingested hstate
    have hingests := hub.router.ingestSourceFrame_ingests oneshot routerFrame now
    exact (hcounted.ingests hingests).effectiveLearn_isSome hstate

/-- A group of two members outlives the first that leaves, and not the second. -/
theorem group_refcounts_uplink :
    let joins : EndpointId → String → Input := fun id name =>
      .event (.endpointAdded id name (some ⟨{ group := some "uplink" }, name⟩))
    let leaves : EndpointId → Input := fun id => .event (.peerRemoved ⟨2⟩ id .disconnected)
    let inputs : List Input := [joins ⟨0⟩ "wifi", joins ⟨1⟩ "lte", leaves ⟨0⟩]
    let hub := (Hub.start (.new 64) 0 16 fun _ => ⟨{}, .new 8⟩).run (fun _ => 0) inputs
    hub.Reachable (fun _ => 0) ∧
      (∃ group, hub.router.groups.get "uplink" = some group ∧ group.members = 1) ∧
      ((hub.step (fun _ => 0) (leaves ⟨1⟩)).router.groups.get "uplink").isNone := by
  intro joins leaves inputs hub
  have hreach : hub.Reachable (fun _ => 0) :=
    ⟨_, _, _, _, inputs, by unfold NoReuse; decide, rfl⟩
  obtain ⟨hexists, hmembers, -⟩ := group_refcounts hreach
  obtain ⟨group, hgroup⟩ :=
    Option.isSome_iff_exists.mp ((hexists "uplink").mpr ⟨⟨1⟩, _, rfl, rfl⟩)
  refine ⟨hreach, ⟨group, hgroup, (hmembers "uplink" group hgroup).trans ?_⟩, ?_⟩
  · decide +kernel
  · decide +kernel

end

end MavlinkRouter
