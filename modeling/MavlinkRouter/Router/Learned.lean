import MavlinkRouter.Router.Delivery

/-!
# What an endpoint has learned

The learn table an endpoint uses is described by the history of the run: it holds the
most recent sources among the frames admitted from the endpoint since its registration,
or from the members of its group since the group last got its first member.
-/

namespace MavlinkRouter

/-- One moment of a run: an input and the state in which it is taken. -/
structure Moment where
  hub : Hub
  input : Input

/-- An admitted frame: the endpoint it came from, the group of that endpoint at the time,
and the source named in its header. -/
structure Sighting where
  endpoint : EndpointId
  group : Option String
  source : NodeId

namespace Moment

/-- The endpoint `id` is registered at this moment. -/
def registers (moment : Moment) (id : EndpointId) : Bool :=
  moment.input.added? = some id

/-- The group an input's new endpoint joins. -/
def joins? (moment : Moment) : Option String :=
  match moment.input with
  | .event event => event.registration?.bind fun registration =>
      registration.2.2.bind fun routable => routable.identity.group
  | .frame _ _ _ => none
  | .own _ _ => none
  | .statsTask _ => none

/-- The group goes from no member to one at this moment. -/
def opens (moment : Moment) (name : String) : Bool :=
  moment.joins? = some name ∧ moment.hub.router.memberCount name = 0

variable (oneshot : List UInt8 → UInt64)

/-- The frame admitted at this moment: its source endpoint is registered and routable,
and the dedup window does not suppress it. -/
def sighting? (moment : Moment) : Option Sighting :=
  match moment.input with
  | .event _ => none
  | .frame _ routerFrame now =>
    (moment.hub.router.routable? routerFrame.endpointId).bind fun state =>
      if (moment.hub.router.dedup.checkAndInsert oneshot routerFrame.frame now).1 then none
      else some ⟨routerFrame.endpointId, state.identity.group, routerFrame.header.source⟩
  | .own _ _ => none
  | .statsTask _ => none

/-- The source of a frame admitted from endpoint `id` at this moment. -/
def sourceFrom (id : EndpointId) (moment : Moment) : Option NodeId :=
  (moment.sighting? oneshot).bind fun sighting =>
    if sighting.endpoint = id then some sighting.source else none

/-- The source of a frame admitted at this moment from a member of the group. -/
def sourceIn (name : String) (moment : Moment) : Option NodeId :=
  (moment.sighting? oneshot).bind fun sighting =>
    if sighting.group = some name then some sighting.source else none

end Moment

section

variable (oneshot : List UInt8 → UInt64)

/-- The moments of a run, in order. -/
def Hub.moments (hub : Hub) : List Input → List Moment
  | [] => []
  | input :: inputs => ⟨hub, input⟩ :: (hub.step oneshot input).moments inputs

/-- One more input adds one moment. -/
theorem Hub.moments_snoc (hub : Hub) (inputs : List Input) (input : Input) :
    hub.moments oneshot (inputs ++ [input]) =
      hub.moments oneshot inputs ++ [⟨hub.run oneshot inputs, input⟩] := by
  induction inputs generalizing hub with
  | nil => rfl
  | cons first inputs ih =>
    rw [List.cons_append, moments, moments, ih]
    rfl

/-- Sources of the frames admitted from `id` since its registration. -/
def heardFrom (id : EndpointId) (moments : List Moment) : List NodeId :=
  Library.collectedSince (fun moment => moment.registers id) (Moment.sourceFrom oneshot id) moments

/-- Sources of the frames admitted from members of the group since it last got its first
member. -/
def heardIn (name : String) (moments : List Moment) : List NodeId :=
  Library.collectedSince (fun moment => moment.opens name) (Moment.sourceIn oneshot name) moments

/-- The history that an endpoint with the given group learns from. -/
def heard (id : EndpointId) (group : Option String) (moments : List Moment) : List NodeId :=
  group.elim (heardFrom oneshot id moments) fun name => heardIn oneshot name moments

end

/-- A learn table of full size holds the most recent sources of a history, and its times
are among those of the frames so far. -/
structure LearnTable.Records (table : LearnTable) (history : List NodeId)
    (times : List Instant) : Prop where
  capacity : table.capacity = learnCapacity
  tracks : table.Tracks history
  times : ∀ entry ∈ table.entries, entry.lastSeen ∈ times

namespace LearnTable.Records

variable {table : LearnTable} {history : List NodeId} {times : List Instant}

private theorem new (times : List Instant) : (LearnTable.new learnCapacity).Records [] times :=
  ⟨rfl, tracks_new _, fun _ hentry => by cases hentry⟩

/-- Touching the table at a later time records one more source. -/
theorem touch (h : table.Records history times) {now : Instant}
    (hlater : ∀ time ∈ times, time < now) (node : NodeId) :
    (table.touch node now).1.Records (history ++ [node]) (times ++ [now]) := by
  refine ⟨?_, ?_, ?_⟩
  · rw [capacity_touch, h.capacity]
  · exact h.tracks.touch fun entry hentry => hlater _ (h.times entry hentry)
  · intro entry hentry
    rcases lastSeen_touch hentry with hnow | hold
    · simp [hnow]
    · exact List.mem_append_left _ (h.times entry hold)

private theorem mono (h : table.Records history times) (later : List Instant) :
    table.Records history (times ++ later) :=
  ⟨h.capacity, h.tracks, fun entry hentry => List.mem_append_left _ (h.times entry hentry)⟩

private theorem mem_nodes (h : table.Records history times) (node : NodeId) :
    node ∈ table.nodes ↔ Library.MostRecent learnCapacity history node := by
  rw [h.tracks.mem_nodes, h.capacity]

end LearnTable.Records

/-- Every table in use records its history. -/
structure Remembers (oneshot : List UInt8 → UInt64) (moments : List Moment)
    (times : List Instant) (router : Router) : Prop where
  own : ∀ {id state}, router.routable? id = some state → state.identity.group = none →
    state.learn.Records (heardFrom oneshot id moments) times
  group : ∀ {name group}, router.groups.get name = some group →
    group.learn.Records (heardIn oneshot name moments) times

namespace Remembers

variable {oneshot : List UInt8 → UInt64} {moments : List Moment} {times : List Instant} {hub : Hub}

/-- The history of an endpoint at one more moment. -/
theorem heardFrom_snoc (oneshot : List UInt8 → UInt64) (id : EndpointId) (moments : List Moment)
    (moment : Moment) :
    heardFrom oneshot id (moments ++ [moment]) =
      if moment.registers id then []
      else heardFrom oneshot id moments ++ (moment.sourceFrom oneshot id).toList :=
  Library.collectedSince_snoc _ _ _ _

/-- The history of a group at one more moment. -/
theorem heardIn_snoc (oneshot : List UInt8 → UInt64) (name : String) (moments : List Moment)
    (moment : Moment) :
    heardIn oneshot name (moments ++ [moment]) =
      if moment.opens name then []
      else heardIn oneshot name moments ++ (moment.sourceIn oneshot name).toList :=
  Library.collectedSince_snoc _ _ _ _

private theorem heardFrom_quiet {id : EndpointId} {moment : Moment}
    (hsighting : moment.sighting? oneshot = none) (hregisters : moment.registers id = false) :
    heardFrom oneshot id (moments ++ [moment]) = heardFrom oneshot id moments := by
  simp [heardFrom_snoc, hregisters, Moment.sourceFrom, hsighting]

private theorem heardIn_quiet {name : String} {moment : Moment}
    (hsighting : moment.sighting? oneshot = none) (hopens : moment.opens name = false) :
    heardIn oneshot name (moments ++ [moment]) = heardIn oneshot name moments := by
  simp [heardIn_snoc, hopens, Moment.sourceIn, hsighting]

private theorem heardFrom_sighting {id : EndpointId} {moment : Moment} {sighting : Sighting}
    (hsighting : moment.sighting? oneshot = some sighting)
    (hregisters : moment.registers id = false) :
    heardFrom oneshot id (moments ++ [moment]) =
      if sighting.endpoint = id then heardFrom oneshot id moments ++ [sighting.source]
      else heardFrom oneshot id moments := by
  rw [heardFrom_snoc, hregisters, if_neg Bool.false_ne_true, Moment.sourceFrom, hsighting,
    Option.bind_some]
  split
  · rfl
  · rw [Option.toList_none, List.append_nil]

private theorem heardIn_sighting {name : String} {moment : Moment} {sighting : Sighting}
    (hsighting : moment.sighting? oneshot = some sighting) (hopens : moment.opens name = false) :
    heardIn oneshot name (moments ++ [moment]) =
      if sighting.group = some name then heardIn oneshot name moments ++ [sighting.source]
      else heardIn oneshot name moments := by
  rw [heardIn_snoc, hopens, if_neg Bool.false_ne_true, Moment.sourceIn, hsighting,
    Option.bind_some]
  split
  · rfl
  · rw [Option.toList_none, List.append_nil]

/-- A moment without a sighting and without a registration changes no history. -/
theorem quiet {router : Router} {moment : Moment} (h : Remembers oneshot moments times router)
    (hsighting : moment.sighting? oneshot = none) (hadded : moment.input.added? = none)
    (hjoins : moment.joins? = none) (later : List Instant) :
    Remembers oneshot (moments ++ [moment]) (times ++ later) router := by
  constructor
  · intro id state hstate hgroup
    rw [heardFrom_quiet hsighting (by simp [Moment.registers, hadded])]
    exact (h.own hstate hgroup).mono later
  · intro name group hfound
    rw [heardIn_quiet hsighting (by simp [Moment.opens, hjoins])]
    exact (h.group hfound).mono later

/-- The group that an endpoint joins gets its first member if it has no table yet. -/
theorem opens_of_joins {input : Input} {joined : String} (hcounted : hub.router.GroupsCounted)
    (hjoined : Moment.joins? ⟨hub, input⟩ = some joined) :
    Moment.opens ⟨hub, input⟩ joined = (hub.router.groups.get joined).isNone := by
  have hpos := hcounted.get_isSome_iff_pos joined
  cases hbefore : hub.router.groups.get joined with
  | none =>
    rw [hbefore] at hpos
    simp only [Option.isSome_none, Bool.false_eq_true, false_iff] at hpos
    simp [Moment.opens, hjoined]
    omega
  | some before =>
    rw [hbefore] at hpos
    simp only [Option.isSome_some, true_iff] at hpos
    simp [Moment.opens, hjoined]
    omega

/-- The tables of the groups after an endpoint has joined one. -/
theorem joined {input : Input} {joined other : String} {group : GroupLearn}
    (h : Remembers oneshot moments times hub.router) (hcounted : hub.router.GroupsCounted)
    (hjoined : Moment.joins? ⟨hub, input⟩ = some joined)
    (hsighting : Moment.sighting? oneshot ⟨hub, input⟩ = none)
    (hfound : (hub.router.groups.join joined learnCapacity).get other = some group) :
    group.learn.Records (heardIn oneshot other (moments ++ [⟨hub, input⟩])) times := by
  rw [GroupRegistry.get_join] at hfound
  by_cases hother : other = joined
  · subst hother
    rw [if_pos rfl] at hfound
    have hopens := opens_of_joins hcounted hjoined
    cases hbefore : hub.router.groups.get other with
    | none =>
      rw [hbefore] at hfound hopens
      cases hfound
      rw [heardIn_snoc, hopens]
      exact .new times
    | some before =>
      rw [hbefore] at hfound hopens
      cases hfound
      rw [heardIn_quiet hsighting hopens]
      have hrecords := h.group hbefore
      exact hrecords
  · rw [if_neg hother] at hfound
    have hopens : Moment.opens ⟨hub, input⟩ other = false := by
      simp [Moment.opens, hjoined, Ne.symm hother]
    rw [heardIn_quiet hsighting hopens]
    exact h.group hfound

/-- A registration starts the endpoint's history, and the group's with its first member. -/
theorem registers {event : EndpointEvent} {id : EndpointId} {name : String}
    {payload : Option Routable} (h : Remembers oneshot moments times hub.router)
    (hcounted : hub.router.GroupsCounted)
    (hregistration : event.registration? = some (id, name, payload)) :
    Remembers oneshot (moments ++ [⟨hub, .event event⟩]) times
      (hub.router.handleEvent event).1 := by
  have hresult := Router.handleEvent_registers hub.router hregistration
  have hjoins : Moment.joins? ⟨hub, .event event⟩ =
      (RegisteredEndpoint.initial name payload).group? := by
    cases payload <;> simp [Moment.joins?, hregistration, RegisteredEndpoint.group?,
      RegisteredEndpoint.initial]
  have hadded : (Input.event event).added? = some id := by
    simp [Input.added?, EndpointEvent.added?, hregistration]
  constructor
  · intro other state hstate hgroup
    rw [Router.routable?, hresult.routing] at hstate
    by_cases hother : other = id
    · subst hother
      rw [AList.lookup_insert, Option.bind_some, RegisteredEndpoint.initial,
        Option.map_eq_some_iff] at hstate
      obtain ⟨routable, -, rfl⟩ := hstate
      rw [heardFrom_snoc, if_pos (by simp [Moment.registers, hadded])]
      exact .new times
    · rw [AList.lookup_insert_ne hother] at hstate
      have hnot : Moment.registers ⟨hub, .event event⟩ other = false := by
        simp [Moment.registers, hadded, Ne.symm hother]
      rw [heardFrom_quiet rfl hnot]
      exact h.own hstate hgroup
  · intro other group hfound
    rw [hresult.groups, Router.groupsJoined, ← hjoins] at hfound
    cases hjoined : Moment.joins? ⟨hub, .event event⟩ with
    | none =>
      rw [hjoined, Option.elim_none] at hfound
      rw [heardIn_quiet rfl (by simp [Moment.opens, hjoined])]
      exact h.group hfound
    | some joined =>
      rw [hjoined, Option.elim_some] at hfound
      exact h.joined hcounted hjoined rfl hfound

/-- A removal changes no history of what remains. -/
theorem removes {parentId childId : EndpointId} {reason : PeerRemovalReason}
    (h : Remembers oneshot moments times hub.router) :
    Remembers oneshot (moments ++ [⟨hub, .event (.peerRemoved parentId childId reason)⟩]) times
      (hub.router.handleEvent (.peerRemoved parentId childId reason)).1 := by
  have hquiet : ∀ {router}, Remembers oneshot moments times router → Remembers oneshot
      (moments ++ [⟨hub, .event (.peerRemoved parentId childId reason)⟩]) times router := by
    intro router hrouter
    simpa using hrouter.quiet rfl rfl rfl []
  apply hquiet
  cases hentry : hub.router.routing.lookup childId with
  | none =>
    have hresult := Router.handleEvent_unchanged parentId reason hentry
    constructor
    · intro id state hstate hgroup
      rw [Router.routable?, hresult.routing] at hstate
      exact h.own hstate hgroup
    · intro name group hfound
      rw [hresult.groups] at hfound
      exact h.group hfound
  | some entry =>
    have hresult := Router.handleEvent_unregisters parentId reason hentry
    constructor
    · intro id state hstate hgroup
      rw [Router.routable?, hresult.routing] at hstate
      by_cases hid : id = childId
      · rw [hid, AList.lookup_erase] at hstate
        cases hstate
      · rw [AList.lookup_erase_ne hid] at hstate
        exact h.own hstate hgroup
    · intro name group hfound
      rw [hresult.groups, Router.groupsLeft] at hfound
      cases hleft : entry.group? with
      | none =>
        rw [hleft] at hfound
        exact h.group hfound
      | some left =>
        rw [hleft] at hfound
        obtain ⟨before, hbefore, hlearn⟩ := GroupRegistry.learn_of_get_leave hfound
        rw [hlearn]
        exact h.group hbefore

/-- An admitted frame adds its source to the history of the table that learns it. -/
theorem ingests {visit : Visit} {routerFrame : RouterFrame} {now : Instant}
    {result : SourceAdmission × Router × List Effect}
    (h : Remembers oneshot moments times hub.router) (hcounted : hub.router.GroupsCounted)
    (hlater : ∀ time ∈ times, time < now)
    (hresult : Router.Ingests oneshot hub.router routerFrame now result) :
    Remembers oneshot (moments ++ [⟨hub, .frame visit routerFrame now⟩]) (times ++ [now])
      result.2.1 := by
  have hregisters : ∀ id, Moment.registers ⟨hub, .frame visit routerFrame now⟩ id = false :=
    fun id => rfl
  have hopens : ∀ name, Moment.opens ⟨hub, .frame visit routerFrame now⟩ name = false :=
    fun name => rfl
  cases hresult with
  | unknown hentry =>
    refine h.quiet ?_ rfl rfl [now]
    simp [Moment.sighting?, Router.routable?, hentry]
  | notRoutable hentry hroutable =>
    refine h.quiet ?_ rfl rfl [now]
    simp [Moment.sighting?, Router.routable?, hentry, hroutable]
  | @duplicate entry state dedup hentry hroutable hdedup =>
    have hsame : Remembers oneshot moments times { hub.router with dedup := dedup } :=
      ⟨h.own, h.group⟩
    refine hsame.quiet ?_ rfl rfl [now]
    simp [Moment.sighting?, Router.routable?, hentry, hroutable, hdedup]
  | @groupMissing entry state _ name hentry hroutable hdedup hgroup hmissing =>
    have hexists := (hcounted.get_isSome_iff name).mpr
      ⟨_, state, Router.routable?_eq_some.mpr ⟨entry, hentry, hroutable⟩, hgroup⟩
    simp [hmissing] at hexists
  | @learnedInGroup entry state dedup name group hentry hroutable hdedup hgroup hfound =>
    have hsighting : Moment.sighting? oneshot ⟨hub, .frame visit routerFrame now⟩ =
        some ⟨routerFrame.endpointId, some name, routerFrame.header.source⟩ := by
      simp [Moment.sighting?, Router.routable?, hentry, hroutable, hdedup, hgroup]
    constructor
    · intro id other hother hnone
      have hid : routerFrame.endpointId ≠ id := by
        rintro rfl
        obtain ⟨entry', hentry', hroutable'⟩ := Router.routable?_eq_some.mp hother
        obtain rfl := Option.some.inj (hentry.symm.trans hentry')
        obtain rfl := Option.some.inj (hroutable.symm.trans hroutable')
        simp [hgroup] at hnone
      rw [heardFrom_sighting hsighting (hregisters id), if_neg hid]
      exact (h.own hother hnone).mono [now]
    · intro other group' hfound'
      rw [heardIn_sighting hsighting (hopens other)]
      by_cases hother : other = name
      · subst hother
        rw [GroupRegistry.setLearn, GroupRegistry.get, AList.lookup_insert] at hfound'
        cases hfound'
        rw [if_pos rfl]
        exact (h.group hfound).touch hlater _
      · rw [GroupRegistry.setLearn, GroupRegistry.get, AList.lookup_insert_ne hother] at hfound'
        rw [if_neg fun hsame => hother (Option.some.inj hsame).symm]
        exact (h.group hfound').mono [now]
  | @learned entry state dedup hentry hroutable hdedup hgroup =>
    have hsighting : Moment.sighting? oneshot ⟨hub, .frame visit routerFrame now⟩ =
        some ⟨routerFrame.endpointId, none, routerFrame.header.source⟩ := by
      simp [Moment.sighting?, Router.routable?, hentry, hroutable, hdedup, hgroup]
    constructor
    · intro id other hother hnone
      rw [heardFrom_sighting hsighting (hregisters id)]
      by_cases hid : routerFrame.endpointId = id
      · subst hid
        rw [Router.routable?, AList.lookup_insert] at hother
        cases hother
        have hstate := Router.routable?_eq_some.mpr ⟨entry, hentry, hroutable⟩
        rw [if_pos rfl]
        exact (h.own hstate hgroup).touch hlater _
      · rw [Router.routable?, AList.lookup_insert_ne (Ne.symm hid)] at hother
        rw [if_neg hid]
        exact (h.own hother hnone).mono [now]
    · intro other group hfound
      rw [heardIn_sighting hsighting (hopens other), if_neg (by simp)]
      exact (h.group hfound).mono [now]

end Remembers

section

variable {oneshot : List UInt8 → UInt64} {inputs : List Input}

/-- Times increase in a part of a run too. -/
theorem TimesIncrease.of_append {later : List Input} (h : TimesIncrease (inputs ++ later)) :
    TimesIncrease inputs := by
  unfold TimesIncrease at h ⊢
  rw [List.filterMap_append] at h
  exact (List.pairwise_append.mp h).1

/-- A frame is later than all frames before it. -/
theorem TimesIncrease.later {visit : Visit} {routerFrame : RouterFrame} {now : Instant}
    (h : TimesIncrease (inputs ++ [.frame visit routerFrame now])) :
    ∀ time ∈ inputs.filterMap Input.time?, time < now := by
  unfold TimesIncrease at h
  rw [List.filterMap_append] at h
  intro time htime
  exact (List.pairwise_append.mp h).2.2 time htime now (by simp [Input.time?])

/-- After every run the tables in use record the history of the run. -/
theorem remembers_run (oneshot : List UInt8 → UInt64) (statsEvents : Library.Channel StatsEvent)
    (dedupMs : UInt64) (dedupWindowCapacity : ℕ) (ports : Ports) (hids : NoReuse inputs)
    (htimes : TimesIncrease inputs) :
    let start := Hub.start statsEvents dedupMs dedupWindowCapacity ports
    Remembers oneshot (start.moments oneshot inputs) (inputs.filterMap Input.time?)
      (start.run oneshot inputs).router := by
  intro start
  induction inputs using List.reverseRecOn with
  | nil =>
    constructor
    · intro id state hstate
      cases hstate
    · intro name group hfound
      cases hfound
  | append_singleton inputs input ih =>
    have h := ih hids.of_append htimes.of_append
    have hcounted := (accounted_run oneshot statsEvents dedupMs dedupWindowCapacity ports
      hids.of_append).groups
    rw [Hub.run_snoc, Hub.moments_snoc, List.filterMap_append]
    cases input with
    | event event =>
      have htime : [Input.event event].filterMap Input.time? = [] := rfl
      rw [htime, List.append_nil]
      cases hregistration : event.registration? with
      | some registration => exact h.registers hcounted hregistration
      | none =>
        cases event with
        | endpointAdded id name routable => cases hregistration
        | peerAdded parentId childId name routable => cases hregistration
        | peerRemoved parentId childId reason => exact h.removes
    | frame visit routerFrame now =>
      have hrouter : ((start.run oneshot inputs).step oneshot
          (.frame visit routerFrame now)).router =
          ((start.run oneshot inputs).router.ingestSourceFrame oneshot routerFrame now).2.1 :=
        Router.handleFrame_fst oneshot visit _ routerFrame now
      rw [hrouter]
      exact h.ingests hcounted htimes.later (Router.ingestSourceFrame_ingests ..)
    | own id update => exact h.quiet rfl rfl rfl _
    | statsTask update =>
      have hsame : Remembers oneshot (start.moments oneshot inputs)
          (inputs.filterMap Input.time?)
          ((start.run oneshot inputs).step oneshot (.statsTask update)).router :=
        ⟨h.own, h.group⟩
      exact hsame.quiet rfl rfl rfl _

/-- The learn table of a registered routable endpoint, in terms of its history. -/
theorem Remembers.effectiveLearn {moments : List Moment} {times : List Instant} {router : Router}
    (h : Remembers oneshot moments times router) (hcounted : router.GroupsCounted)
    {id : EndpointId} {state : RoutableState} (hstate : router.routable? id = some state) :
    ∃ table, router.effectiveLearn state = some table ∧ ∀ node, node ∈ table.nodes ↔
      Library.MostRecent learnCapacity (heard oneshot id state.identity.group moments) node := by
  cases hgroup : state.identity.group with
  | none =>
    exact ⟨state.learn, Router.effectiveLearn_of_no_group hgroup, (h.own hstate hgroup).mem_nodes⟩
  | some name =>
    obtain ⟨group, hfound⟩ := Option.isSome_iff_exists.mp
      ((hcounted.get_isSome_iff name).mpr ⟨id, state, hstate, hgroup⟩)
    refine ⟨group.learn, ?_, (h.group hfound).mem_nodes⟩
    rw [Router.effectiveLearn_of_group hgroup, hfound, Option.map_some]

/-- A frame extends a history by its source or leaves it as it is. -/
theorem heard_frame (oneshot : List UInt8 → UInt64) (id : EndpointId) (group : Option String)
    (moments : List Moment) (hub : Hub) (visit : Visit) (routerFrame : RouterFrame)
    (now : Instant) :
    let moment : Moment := ⟨hub, .frame visit routerFrame now⟩
    heard oneshot id group (moments ++ [moment]) = heard oneshot id group moments ∨
      heard oneshot id group (moments ++ [moment]) =
        heard oneshot id group moments ++ [routerFrame.header.source] := by
  intro moment
  have hsource : ∀ sighting, moment.sighting? oneshot = some sighting →
      sighting.source = routerFrame.header.source := by
    intro sighting hsighting
    simp only [moment, Moment.sighting?, Option.bind_eq_some_iff] at hsighting
    obtain ⟨state, -, hsome⟩ := hsighting
    split at hsome
    · cases hsome
    · cases hsome
      rfl
  cases hsighting : moment.sighting? oneshot with
  | none =>
    left
    cases group with
    | none => exact Remembers.heardFrom_quiet hsighting rfl
    | some name => exact Remembers.heardIn_quiet hsighting rfl
  | some sighting =>
    rw [← hsource sighting hsighting]
    cases group with
    | none =>
      have hsnoc : heardFrom oneshot id (moments ++ [moment]) = _ :=
        Remembers.heardFrom_sighting hsighting rfl
      by_cases hid : sighting.endpoint = id
      · exact .inr (hsnoc.trans (if_pos hid))
      · exact .inl (hsnoc.trans (if_neg hid))
    | some name =>
      have hsnoc : heardIn oneshot name (moments ++ [moment]) = _ :=
        Remembers.heardIn_sighting hsighting rfl
      by_cases hname : sighting.group = some name
      · exact .inr (hsnoc.trans (if_pos hname))
      · exact .inl (hsnoc.trans (if_neg hname))

/-- In every run with strictly increasing frame times the effective learn-set of each
registered routable endpoint is the set of the most recent sources of its history, at most
`learnCapacity` of them; and a frame whose source is in that set, before or after the
frame is learned, is not pushed to the endpoint unless it is a sniffer. -/
theorem learned_sources (oneshot : List UInt8 → UInt64)
    (statsEvents : Library.Channel StatsEvent) (dedupMs : UInt64) (dedupWindowCapacity : ℕ)
    (ports : Ports) (hids : NoReuse inputs) (htimes : TimesIncrease inputs) :
    let start := Hub.start statsEvents dedupMs dedupWindowCapacity ports
    let hub := start.run oneshot inputs
    let moments := start.moments oneshot inputs
    (∀ id state, hub.router.routable? id = some state →
      ∃ table, hub.router.effectiveLearn state = some table ∧ ∀ node, node ∈ table.nodes ↔
        Library.MostRecent learnCapacity (heard oneshot id state.identity.group moments) node) ∧
    (∀ visit (routerFrame : RouterFrame) now id state,
      TimesIncrease (inputs ++ [.frame visit routerFrame now]) →
      hub.router.routable? id = some state → state.identity.sniffer = false →
      routerFrame.frame ∈
        pushesTo id (hub.router.handleFrame oneshot visit routerFrame now).2 →
      let moments' := moments ++ [⟨hub, .frame visit routerFrame now⟩]
      ¬ Library.MostRecent learnCapacity (heard oneshot id state.identity.group moments)
          routerFrame.header.source ∧
        ¬ Library.MostRecent learnCapacity (heard oneshot id state.identity.group moments')
          routerFrame.header.source) := by
  intro start hub moments
  have hremembers : Remembers oneshot moments _ hub.router :=
    remembers_run oneshot statsEvents dedupMs dedupWindowCapacity ports hids htimes
  have hcounted : hub.router.GroupsCounted :=
    (accounted_run oneshot statsEvents dedupMs dedupWindowCapacity ports hids).groups
  refine ⟨fun id state => hremembers.effectiveLearn hcounted, ?_⟩
  intro visit routerFrame now id state htimes' hstate hsniffer hpush moments'
  obtain ⟨srcEndpointName, hother, state', learn, hstate', hlearn, hdecision⟩ :=
    Router.receives_of_push hpush
  obtain rfl := Option.some.inj (hstate.symm.trans hstate')
  have hunknown : routerFrame.header.source ∉ learn.nodes := by
    rcases hdecision with hsniffs | ⟨hunknown, -⟩
    · simp [hsniffer] at hsniffs
    · exact hunknown
  have hingests := hub.router.ingestSourceFrame_ingests oneshot routerFrame now
  rw [Router.handleFrame_fst] at hlearn
  have hafter : (hub.router.ingestSourceFrame oneshot routerFrame now).2.1.routable? id =
      some state := by
    rw [Router.routable?, hingests.lookup_of_ne hother]
    exact hstate
  obtain ⟨table, htable, hnodes⟩ := (hremembers.ingests hcounted htimes'.later
    hingests).effectiveLearn (hcounted.ingests hingests) hafter
  obtain rfl := Option.some.inj (hlearn.symm.trans htable)
  have hnotAfter : ¬ Library.MostRecent learnCapacity
      (heard oneshot id state.identity.group moments') routerFrame.header.source :=
    fun hrecent => hunknown ((hnodes _).mpr hrecent)
  refine ⟨fun hrecent => ?_, hnotAfter⟩
  rcases heard_frame oneshot id state.identity.group moments hub visit routerFrame now with
    hsame | hlonger
  · exact hnotAfter (hsame ▸ hrecent)
  · apply hnotAfter
    rw [hlonger]
    exact Library.mostRecent_snoc_self (by decide) _ _

/-- An endpoint knows the two sources it has heard, the first of them twice, and not the one that
was heard elsewhere in between. -/
theorem learned_sources_vehicle :
    let heardAt : EndpointId → NodeId → Instant → Input := fun id source now =>
      .frame .inOrder ⟨id, ⟨[], id, 0⟩, ⟨.v1, source, 0, 7, 0, none, none⟩⟩ now
    let inputs : List Input :=
      [.event (.endpointAdded ⟨0⟩ "vehicle" (some ⟨{}, "vehicle"⟩)),
        .event (.endpointAdded ⟨1⟩ "gcs" (some ⟨{}, "gcs"⟩)), heardAt ⟨0⟩ ⟨1, 1⟩ 5,
        heardAt ⟨0⟩ ⟨1, 2⟩ 6, heardAt ⟨1⟩ ⟨255, 190⟩ 7, heardAt ⟨0⟩ ⟨1, 1⟩ 8]
    let ports : Ports := fun _ => ⟨{}, .new 8⟩
    let hub := (Hub.start (.new 64) 0 16 ports).run (fun _ => 0) inputs
    NoReuse inputs ∧ TimesIncrease inputs ∧ ∃ state table,
      hub.router.routable? ⟨0⟩ = some state ∧ hub.router.effectiveLearn state = some table ∧
        ⟨1, 1⟩ ∈ table.nodes ∧ ⟨1, 2⟩ ∈ table.nodes ∧ ⟨255, 190⟩ ∉ table.nodes := by
  intro heardAt inputs ports hub
  have hids : NoReuse inputs := by
    unfold NoReuse
    decide
  have htimes : TimesIncrease inputs := by
    unfold TimesIncrease
    decide
  refine ⟨hids, htimes, ?_⟩
  have hgroup : (hub.router.routable? ⟨0⟩).map (fun state => state.identity.group) = some none := by
    decide +kernel
  obtain ⟨state, hstate, hnone⟩ := Option.map_eq_some_iff.mp hgroup
  obtain ⟨table, hlearn, hnodes⟩ :=
    (learned_sources (fun _ => 0) (.new 64) 0 16 ports hids htimes).1 ⟨0⟩ state hstate
  have hheard : heard (fun _ => 0) ⟨0⟩ none
      ((Hub.start (.new 64) 0 16 ports).moments (fun _ => 0) inputs) =
        [⟨1, 1⟩, ⟨1, 2⟩, ⟨1, 1⟩] := by
    decide +kernel
  rw [hnone, hheard] at hnodes
  refine ⟨state, table, hstate, hlearn, (hnodes _).mpr ?_, (hnodes _).mpr ?_, fun hmem => ?_⟩
  · exact ⟨[⟨1, 1⟩, ⟨1, 2⟩], [], rfl, by simp, by decide⟩
  · exact ⟨[⟨1, 1⟩], [⟨1, 1⟩], rfl, by decide, by decide⟩
  · obtain ⟨before, after, hsplit, -⟩ := (hnodes _).mp hmem
    have hmember : (⟨255, 190⟩ : NodeId) ∈ [(⟨1, 1⟩ : NodeId), ⟨1, 2⟩, ⟨1, 1⟩] :=
      hsplit ▸ List.mem_append_right _ List.mem_cons_self
    exact absurd hmember (by decide)

end

end MavlinkRouter
