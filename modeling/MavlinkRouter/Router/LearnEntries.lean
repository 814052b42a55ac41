import MavlinkRouter.Router.Learned

/-!
# The published size of a learn-set

The router stores the size of a learn-set in the `learn_entries` counter of an endpoint
when it admits a frame from that endpoint, and at no other time. The counter of an endpoint
with a table of its own is always right. The members of a group share one table, and a member
that joins late, or one that hears nothing while the table grows through another member, shows
a size that the table no longer has.
-/

namespace MavlinkRouter

/-- The size that an access stores. -/
def PortAccess.learnCount? : PortAccess → Option ℕ
  | .push _ => none
  | .addOutFilterDrop => none
  | .addDedupDrop => none
  | .storeLearnEntries count => some count
  | .storeState _ => none

/-- The sizes stored for one endpoint, in order. -/
def storesTo (id : EndpointId) (effects : List Effect) : List ℕ :=
  (accessesTo id effects).filterMap PortAccess.learnCount?

private theorem storesTo_append (id : EndpointId) (effects effects' : List Effect) :
    storesTo id (effects ++ effects') = storesTo id effects ++ storesTo id effects' := by
  simp [storesTo]

/-- Effects that store no size store none for any endpoint. -/
theorem storesTo_eq_nil {effects : List Effect} (id : EndpointId)
    (h : ∀ effect ∈ effects, effect.access.learnCount? = none) : storesTo id effects = [] := by
  unfold storesTo accessesTo
  rw [List.filterMap_eq_nil_iff]
  intro access haccess
  obtain ⟨effect, heffect, rfl⟩ := List.mem_map.mp haccess
  exact h effect (List.mem_filter.mp heffect).1

private theorem storesTo_learnEntries (id target : EndpointId) (count : ℕ) :
    storesTo id [⟨target, .storeLearnEntries count⟩] = if target = id then [count] else [] := by
  by_cases htarget : target = id
  · rw [storesTo, accessesTo_cons, if_pos htarget, if_pos htarget]
    rfl
  · rw [storesTo, accessesTo_cons, if_neg htarget, if_neg htarget]
    rfl

namespace Port

private theorem learnEntries_push (port : Port) (frame : Bytes) :
    (port.push frame).stats.learnEntries = port.stats.learnEntries := by
  unfold push
  dsimp only
  split <;> rfl

private theorem learnEntries_access (port : Port) (access : PortAccess) :
    (port.access access).stats.learnEntries =
      (access.learnCount?.map UInt64.ofNat).getD port.stats.learnEntries := by
  cases access with
  | push frame => exact port.learnEntries_push frame
  | addOutFilterDrop => rfl
  | addDedupDrop => rfl
  | storeLearnEntries count => rfl
  | storeState state => rfl

/-- After some accesses the counter holds the size stored last. -/
theorem learnEntries_foldl (port : Port) (accesses : List PortAccess) :
    (accesses.foldl access port).stats.learnEntries =
      ((accesses.filterMap PortAccess.learnCount?).getLast?.map UInt64.ofNat).getD
        port.stats.learnEntries := by
  induction accesses using List.reverseRecOn with
  | nil => rfl
  | append_singleton accesses access ih =>
    rw [List.foldl_append, List.foldl_cons, List.foldl_nil, learnEntries_access, ih,
      List.filterMap_append]
    cases hcount : access.learnCount? with
    | none => simp [hcount]
    | some count => simp [hcount]

end Port

namespace Router

variable {router : Router} {oneshot : List UInt8 → UInt64}

/-- Events store no size. -/
theorem storesTo_handleEvent (router : Router) (event : EndpointEvent) (id : EndpointId) :
    storesTo id (router.handleEvent event).2 = [] := by
  cases hregistration : event.registration? with
  | some registration =>
    rw [(handleEvent_registers router hregistration).effects]
    rfl
  | none =>
    cases event with
    | endpointAdded addedId name routable => cases hregistration
    | peerAdded parentId childId name routable => cases hregistration
    | peerRemoved parentId childId reason =>
      cases hentry : router.routing.lookup childId with
      | none =>
        rw [(handleEvent_unchanged parentId reason hentry).effects]
        rfl
      | some entry =>
        rw [(handleEvent_unregisters parentId reason hentry).effects]
        exact storesTo_eq_nil id (by simp [PortAccess.learnCount?])

/-- The dispatch loop stores no size. -/
theorem storesTo_dispatch (router : Router) (visit : Visit) (routerFrame : RouterFrame)
    (srcEndpointName : String) (id : EndpointId) :
    storesTo id (router.dispatchToDestinations visit routerFrame srcEndpointName) = [] := by
  apply storesTo_eq_nil
  intro effect heffect
  rcases access_of_mem_dispatch heffect with hpush | hdrop
  · rw [hpush]
    rfl
  · rw [hdrop]
    rfl

/-- A frame stores the sizes that its admission stores. -/
theorem storesTo_handleFrame (oneshot : List UInt8 → UInt64) (visit : Visit) (router : Router)
    (routerFrame : RouterFrame) (now : Instant) (id : EndpointId) :
    storesTo id (router.handleFrame oneshot visit routerFrame now).2 =
      storesTo id (router.ingestSourceFrame oneshot routerFrame now).2.2 := by
  unfold handleFrame
  split
  · rename_i hingest
    rw [hingest]
  · rename_i hingest
    rw [hingest, storesTo_append, storesTo_dispatch, List.append_nil]

end Router

/-- The router alone stores the sizes of learn-sets: the tasks of an endpoint leave the
counter as it is. -/
def Input.LeavesLearnEntries : Input → Prop
  | .event _ => True
  | .frame _ _ _ => True
  | .own _ update => ∀ port, (update port).stats.learnEntries = port.stats.learnEntries
  | .statsTask _ => True

namespace LearnTable

variable {table : LearnTable} {node : NodeId}

/-- There are few enough nodes for the counter. -/
theorem len_lt (table : LearnTable) : table.len < 2 ^ 64 := by
  let code : NodeId → Fin 256 × Fin 256 := fun node => (node.sys.toFin, node.comp.toFin)
  have hcode : Function.Injective code := by
    rintro ⟨sys, comp⟩ ⟨sys', comp'⟩ heq
    obtain rfl : sys = sys' := UInt8.toFin_inj.mp (Prod.mk.inj heq).1
    obtain rfl : comp = comp' := UInt8.toFin_inj.mp (Prod.mk.inj heq).2
    rfl
  have hlength := (table.nodup.map hcode).length_le_card
  rw [List.length_map, List.length_map, Fintype.card_prod, Fintype.card_fin] at hlength
  exact hlength.trans_lt (by norm_num)

/-- A touch makes the table longer: the node is new and the table is not full. -/
def Grows (table : LearnTable) (node : NodeId) : Prop :=
  table.contains node = false ∧ table.len < table.capacity

private theorem len_touch_of_grows (h : table.Grows node) (now : Instant) :
    (table.touch node now).1.len = table.len + 1 := by
  obtain ⟨hnew, hroom⟩ := h
  have hmakeRoom : table.makeRoom = table.entries := if_neg (Nat.not_le.mpr hroom)
  simp [touch, hnew, len, hmakeRoom]

private theorem len_touch_of_not_grows (h : ¬ table.Grows node) (now : Instant) :
    (table.touch node now).1.len = table.len := by
  cases hknown : table.contains node with
  | true => simp [touch, hknown, len]
  | false =>
    have hfull : table.capacity ≤ table.entries.length :=
      Nat.not_lt.mp fun hroom => h ⟨hknown, hroom⟩
    obtain ⟨oldest, hperm, -⟩ := exists_oldest hfull
    have hlength := hperm.length_eq
    simp only [List.length_cons] at hlength
    simp [touch, hknown, len, hlength]

end LearnTable

namespace Moment

/-- An endpoint joins a group that has learned something. -/
def JoinsLate (moment : Moment) : Prop :=
  ∃ name group, moment.joins? = some name ∧ moment.hub.router.groups.get name = some group ∧
    0 < group.learn.len

/-- A frame adds an entry to the table of a group with another member. -/
def GrowsShared (oneshot : List UInt8 → UInt64) (moment : Moment) : Prop :=
  ∃ sighting name group other state, moment.sighting? oneshot = some sighting ∧
    sighting.group = some name ∧ moment.hub.router.groups.get name = some group ∧
    group.learn.Grows sighting.source ∧ other ≠ sighting.endpoint ∧
    moment.hub.router.routable? other = some state ∧ state.identity.group = some name

variable {oneshot : List UInt8 → UInt64} {moment : Moment}

private theorem not_joinsLate (h : moment.joins? = none) : ¬ moment.JoinsLate := by
  rintro ⟨name, group, hjoins, -⟩
  cases h.symm.trans hjoins

private theorem not_growsShared (h : ∀ sighting, moment.sighting? oneshot = some sighting →
    sighting.group = none) : ¬ moment.GrowsShared oneshot := by
  rintro ⟨sighting, name, group, other, state, hsighting, hgroup, -⟩
  cases (h sighting hsighting).symm.trans hgroup

/-- When a frame adds nothing to its group's table. -/
private theorem not_growsShared_iff {sighting : Sighting} {name : String} {group : GroupLearn}
    (hsighting : moment.sighting? oneshot = some sighting) (hname : sighting.group = some name)
    (hfound : moment.hub.router.groups.get name = some group) :
    ¬ moment.GrowsShared oneshot ↔ (group.learn.Grows sighting.source → ∀ other member,
      moment.hub.router.routable? other = some member → member.identity.group = some name →
        other = sighting.endpoint) := by
  constructor
  · intro hnot hgrows other member hother hmember
    by_contra hne
    exact hnot ⟨sighting, name, group, other, member, hsighting, hname, hfound, hgrows, hne, hother,
      hmember⟩
  · rintro halone ⟨seen, name', group', other, member, hseen, hname', hfound', hgrows, hne, hother,
      hmember⟩
    obtain rfl := Option.some.inj (hsighting.symm.trans hseen)
    obtain rfl := Option.some.inj (hname.symm.trans hname')
    obtain rfl := Option.some.inj (hfound.symm.trans hfound')
    exact hne (halone hgrows other member hother hmember)

end Moment

/-- A table that the groups keep is still used by the endpoints that used it. -/
theorem Router.effectiveLearn_of_kept {router after : Router} {state : RoutableState}
    {learn : LearnTable} (hlearn : router.effectiveLearn state = some learn)
    (hkept : ∀ name group, state.identity.group = some name →
      router.groups.get name = some group →
        (after.groups.get name).map GroupLearn.learn = some group.learn) :
    after.effectiveLearn state = some learn := by
  cases hgroup : state.identity.group with
  | none =>
    rw [effectiveLearn_of_no_group hgroup] at hlearn ⊢
    exact hlearn
  | some name =>
    rw [effectiveLearn_of_group hgroup] at hlearn ⊢
    obtain ⟨group, hget, rfl⟩ := Option.map_eq_some_iff.mp hlearn
    exact hkept name group hgroup hget

namespace Hub

/-- The size that an endpoint shows. -/
def shown (hub : Hub) (id : EndpointId) : ℕ :=
  (hub.ports id).stats.learnEntries.toNat

/-- Every registered routable endpoint shows the size of the learn-set it uses. -/
def Truthful (hub : Hub) : Prop :=
  ∀ id state, hub.router.routable? id = some state →
    ∃ learn, hub.router.effectiveLearn state = some learn ∧ hub.shown id = learn.len

variable {oneshot : List UInt8 → UInt64} {hub after : Hub} {id : EndpointId}

/-- Effects that store no size leave what an endpoint shows. -/
theorem shown_of_no_store {effects : List Effect}
    (hports : after.ports = hub.ports.applyAll effects) (h : storesTo id effects = []) :
    after.shown id = hub.shown id := by
  unfold storesTo at h
  rw [shown, hports, Ports.applyAll_at, Port.learnEntries_foldl, h]
  rfl

/-- An endpoint shows the size that was stored for it. -/
theorem shown_of_store {effects : List Effect} {learn : LearnTable}
    (hports : after.ports = hub.ports.applyAll effects) (h : storesTo id effects = [learn.len]) :
    after.shown id = learn.len := by
  unfold storesTo at h
  rw [shown, hports, Ports.applyAll_at, Port.learnEntries_foldl, h]
  exact UInt64.toNat_ofNat_of_lt' learn.len_lt

/-- A stored size is shown by the endpoint that it is stored for, and by no other one. -/
theorem shown_learnEntries {effects : List Effect} {source : EndpointId} {learn : LearnTable}
    (hports : after.ports = hub.ports.applyAll effects)
    (h : ∀ id, storesTo id effects = storesTo id [⟨source, .storeLearnEntries learn.len⟩]) :
    after.shown source = learn.len ∧ ∀ id ≠ source, after.shown id = hub.shown id := by
  constructor
  · refine shown_of_store hports ?_
    rw [h, storesTo_learnEntries, if_pos rfl]
  · intro id hid
    refine shown_of_no_store hports ?_
    rw [h, storesTo_learnEntries, if_neg (Ne.symm hid)]

/-- Events change nothing that is shown. -/
theorem shown_event (hub : Hub) (event : EndpointEvent) (id : EndpointId) :
    (hub.step oneshot (.event event)).shown id = hub.shown id :=
  shown_of_no_store rfl (hub.router.storesTo_handleEvent event id)

/-- The tasks of the endpoints change nothing that is shown. -/
theorem shown_own {owner : EndpointId} {update : Port → Port}
    (hleaves : (Input.own owner update).LeavesLearnEntries) (id : EndpointId) :
    (hub.step oneshot (.own owner update)).shown id = hub.shown id := by
  by_cases hid : id = owner
  · subst hid
    have hupdate := hleaves (hub.ports id)
    simp [step, shown, hupdate]
  · simp [step, shown, hid]

section Events

variable {event : EndpointEvent}

/-- The endpoints that were there before a registration use the tables that they used. -/
theorem effectiveLearn_registers {router : Router} {newId : EndpointId}
    {entry : RegisteredEndpoint} {result : Router × List Effect}
    (h : Router.Registers router newId entry result) {state : RoutableState}
    {learn : LearnTable} (hlearn : router.effectiveLearn state = some learn) :
    result.1.effectiveLearn state = some learn := by
  refine Router.effectiveLearn_of_kept hlearn fun name group hgroup hget => ?_
  rw [h.groups, Router.groupsJoined]
  cases entry.group? with
  | none => simp [hget]
  | some joined =>
    rw [Option.elim_some, GroupRegistry.get_join]
    split
    · rename_i hname
      subst hname
      simp [hget]
    · simp [hget]

/-- The endpoints that stay use the tables that they used. -/
theorem effectiveLearn_unregisters {router : Router} {childId : EndpointId}
    {entry : RegisteredEndpoint} {stored : EndpointState} {result : Router × List Effect}
    (h : Router.Unregisters router childId entry stored result) {state : RoutableState}
    {learn : LearnTable} (hlearn : router.effectiveLearn state = some learn)
    (hafter : (result.1.effectiveLearn state).isSome) :
    result.1.effectiveLearn state = some learn := by
  refine Router.effectiveLearn_of_kept hlearn fun name group hgroup hget => ?_
  rw [Router.effectiveLearn_of_group hgroup, Option.isSome_map] at hafter
  obtain ⟨left, hleft⟩ := Option.isSome_iff_exists.mp hafter
  rw [hleft, Option.map_some]
  rw [h.groups, Router.groupsLeft] at hleft
  cases hentry : entry.group? with
  | none =>
    rw [hentry, Option.elim_none] at hleft
    rw [Option.some.inj (hleft.symm.trans hget)]
  | some leaving =>
    rw [hentry, Option.elim_some] at hleft
    obtain ⟨before, hbefore, hsame⟩ := GroupRegistry.learn_of_get_leave hleft
    rw [hsame, Option.some.inj (hbefore.symm.trans hget)]

/-- The table that a new endpoint uses is empty, or the one of the group it joins. -/
theorem effectiveLearn_registered (hub : Hub) {newId : EndpointId} {name : String}
    {routable : Routable}
    (hregistration : event.registration? = some (newId, name, some routable)) :
    ∃ state learn, (hub.router.handleEvent event).1.routable? newId = some state ∧
      (hub.router.handleEvent event).1.effectiveLearn state = some learn ∧
      (learn.len = 0 ↔ ¬ Moment.JoinsLate ⟨hub, .event event⟩) := by
  have hregisters := hub.router.handleEvent_registers hregistration
  refine ⟨⟨routable.identity, routable.endpointName, .new learnCapacity⟩, ?_⟩
  have hjoins : Moment.joins? ⟨hub, .event event⟩ = routable.identity.group := by
    simp [Moment.joins?, hregistration]
  have hstate : (hub.router.handleEvent event).1.routable? newId =
      some ⟨routable.identity, routable.endpointName, .new learnCapacity⟩ := by
    rw [Router.routable?, hregisters.routing, AList.lookup_insert]
    rfl
  cases hgroup : routable.identity.group with
  | none =>
    refine ⟨.new learnCapacity, hstate, Router.effectiveLearn_of_no_group hgroup, ?_⟩
    exact iff_of_true rfl (Moment.not_joinsLate (hjoins.trans hgroup))
  | some joined =>
    have hentry : (RegisteredEndpoint.initial name (some routable)).group? = some joined := hgroup
    have hlearn : ∀ learn, ((hub.router.groups.get joined).map GroupLearn.learn).getD
        (.new learnCapacity) = learn →
        (hub.router.handleEvent event).1.effectiveLearn
          ⟨routable.identity, routable.endpointName, .new learnCapacity⟩ = some learn := by
      rintro learn rfl
      rw [Router.effectiveLearn_of_group hgroup, hregisters.groups, Router.groupsJoined, hentry,
        Option.elim_some, GroupRegistry.get_join, if_pos rfl]
      cases hub.router.groups.get joined <;> rfl
    cases hfound : hub.router.groups.get joined with
    | none =>
      refine ⟨.new learnCapacity, hstate, hlearn _ (by rw [hfound]; rfl), iff_of_true rfl ?_⟩
      rintro ⟨other, group, hother, hget, -⟩
      obtain rfl := Option.some.inj ((hjoins.trans hgroup).symm.trans hother)
      cases hfound.symm.trans hget
    | some group =>
      refine ⟨group.learn, hstate, hlearn _ (by rw [hfound]; rfl), ?_⟩
      constructor
      · rintro hempty ⟨other, group', hother, hget, hpos⟩
        obtain rfl := Option.some.inj ((hjoins.trans hgroup).symm.trans hother)
        obtain rfl := Option.some.inj (hfound.symm.trans hget)
        omega
      · intro hlate
        by_contra hpos
        exact hlate ⟨joined, group, hjoins.trans hgroup, hfound, Nat.pos_of_ne_zero hpos⟩

/-- A removal leaves the endpoints that stay as truthful as they were. -/
theorem Truthful.removal (htruthful : hub.Truthful) {parentId childId : EndpointId}
    {reason : PeerRemovalReason}
    (hcounted : (hub.step oneshot
      (.event (.peerRemoved parentId childId reason))).router.GroupsCounted) :
    (hub.step oneshot (.event (.peerRemoved parentId childId reason))).Truthful := by
  intro id state hstate
  have hafter := hcounted.effectiveLearn_isSome hstate
  have hrouter : (hub.step oneshot (.event (.peerRemoved parentId childId reason))).router =
      (hub.router.handleEvent (.peerRemoved parentId childId reason)).1 := rfl
  rw [hrouter] at hstate hafter ⊢
  rw [hub.shown_event]
  cases hentry : hub.router.routing.lookup childId with
  | none =>
    have hunchanged := Router.handleEvent_unchanged parentId reason hentry
    rw [Router.routable?, hunchanged.routing] at hstate
    obtain ⟨learn, hlearn, hlen⟩ := htruthful id state hstate
    refine ⟨learn, Router.effectiveLearn_of_kept hlearn fun name group hgroup hget => ?_, hlen⟩
    rw [hunchanged.groups, hget, Option.map_some]
  | some entry =>
    have hunregisters := Router.handleEvent_unregisters parentId reason hentry
    rw [Router.routable?, hunregisters.routing] at hstate
    by_cases hid : id = childId
    · rw [hid, AList.lookup_erase] at hstate
      cases hstate
    · rw [AList.lookup_erase_ne hid] at hstate
      obtain ⟨learn, hlearn, hlen⟩ := htruthful id state hstate
      exact ⟨learn, effectiveLearn_unregisters hunregisters hlearn hafter, hlen⟩

/-- An event leaves the counters truthful unless the endpoint that it adds joins late. -/
theorem truthful_event_iff (htruthful : hub.Truthful)
    (hcounted : (hub.step oneshot (.event event)).router.GroupsCounted)
    (hunheard : ∀ id, event.added? = some id → hub.shown id = 0) :
    (hub.step oneshot (.event event)).Truthful ↔ ¬ Moment.JoinsLate ⟨hub, .event event⟩ := by
  cases hregistration : event.registration? with
  | some registration =>
    obtain ⟨newId, name, payload⟩ := registration
    have hregisters := hub.router.handleEvent_registers hregistration
    have hshown : hub.shown newId = 0 :=
      hunheard newId (by simp [EndpointEvent.added?, hregistration])
    -- The endpoints other than the new one.
    have hothers : ∀ id ≠ newId, ∀ state,
        (hub.step oneshot (.event event)).router.routable? id = some state →
          ∃ learn, (hub.step oneshot (.event event)).router.effectiveLearn state = some learn ∧
            (hub.step oneshot (.event event)).shown id = learn.len := by
      intro id hid state hstate
      change (hub.router.handleEvent event).1.routable? id = some state at hstate
      rw [Router.routable?, hregisters.routing, AList.lookup_insert_ne hid] at hstate
      obtain ⟨learn, hlearn, hlen⟩ := htruthful id state hstate
      exact ⟨learn, effectiveLearn_registers hregisters hlearn,
        (hub.shown_event event id).trans hlen⟩
    cases payload with
    | none =>
      refine iff_of_true ?_ (Moment.not_joinsLate (by simp [Moment.joins?, hregistration]))
      intro id state hstate
      refine hothers id ?_ state hstate
      rintro rfl
      change (hub.router.handleEvent event).1.routable? id = some state at hstate
      rw [Router.routable?, hregisters.routing, AList.lookup_insert] at hstate
      cases hstate
    | some routable =>
      obtain ⟨state, learn, hstate, hlearn, hjoins⟩ :=
        hub.effectiveLearn_registered hregistration
      rw [← hjoins]
      constructor
      · intro hafter
        obtain ⟨learn', hlearn', hlen⟩ := hafter newId state hstate
        obtain rfl := Option.some.inj (hlearn.symm.trans hlearn')
        rw [← hlen, hub.shown_event, hshown]
      · intro hempty id state' hstate'
        by_cases hid : id = newId
        · subst hid
          obtain rfl := Option.some.inj (hstate.symm.trans hstate')
          exact ⟨learn, hlearn, by rw [hub.shown_event, hshown, hempty]⟩
        · exact hothers id hid state' hstate'
  | none =>
    refine iff_of_true ?_ (Moment.not_joinsLate (by simp [Moment.joins?, hregistration]))
    intro id state hstate
    cases event with
    | endpointAdded addedId name routable => cases hregistration
    | peerAdded parentId childId name routable => cases hregistration
    | peerRemoved parentId childId reason => exact htruthful.removal hcounted id state hstate

end Events

section Frames

variable {visit : Visit} {routerFrame : RouterFrame} {now : Instant}

/-- Without an admitted frame nothing changes. -/
theorem Truthful.same (htruthful : hub.Truthful)
    (hrouting : after.router.routing = hub.router.routing)
    (hgroups : after.router.groups = hub.router.groups)
    (hshown : ∀ id, after.shown id = hub.shown id) : after.Truthful := by
  intro id state hstate
  rw [Router.routable?, hrouting] at hstate
  obtain ⟨learn, hlearn, hlen⟩ := htruthful id state hstate
  refine ⟨learn, Router.effectiveLearn_of_kept hlearn fun name group hgroup hget => ?_,
    (hshown id).trans hlen⟩
  rw [hgroups, hget, Option.map_some]

/-- A frame of a member of a group leaves the counters truthful if the table does not grow, or if
there is no other member. -/
theorem truthful_learnedInGroup_iff (htruthful : hub.Truthful) (sighting : Sighting)
    {state : RoutableState} {name : String} {group : GroupLearn}
    (hstate : hub.router.routable? sighting.endpoint = some state)
    (hgroup : state.identity.group = some name) (hfound : hub.router.groups.get name = some group)
    (hrouting : after.router.routing = hub.router.routing)
    (hgroups : after.router.groups =
      hub.router.groups.setLearn name group (group.learn.touch sighting.source now).1)
    (hself : after.shown sighting.endpoint = (group.learn.touch sighting.source now).1.len)
    (hothers : ∀ id ≠ sighting.endpoint, after.shown id = hub.shown id) :
    after.Truthful ↔ (group.learn.Grows sighting.source → ∀ other member,
      hub.router.routable? other = some member → member.identity.group = some name →
        other = sighting.endpoint) := by
  have hroutable : ∀ id, after.router.routable? id = hub.router.routable? id := by
    intro id
    rw [Router.routable?, hrouting, Router.routable?]
  have htouched : after.router.groups.get name =
      some { group with learn := (group.learn.touch sighting.source now).1 } := by
    rw [hgroups, GroupRegistry.setLearn, GroupRegistry.get, AList.lookup_insert]
  have hmember : ∀ member : RoutableState, member.identity.group = some name →
      after.router.effectiveLearn member = some (group.learn.touch sighting.source now).1 := by
    intro member hname
    rw [Router.effectiveLearn_of_group hname, htouched]
    rfl
  constructor
  · intro hafter hgrows other member hother hname
    by_contra hne
    obtain ⟨learn, hlearn, hlen⟩ := htruthful other member hother
    obtain ⟨learn', hlearn', hlen'⟩ := hafter other member ((hroutable other).trans hother)
    rw [Router.effectiveLearn_of_group hname, hfound] at hlearn
    obtain rfl := Option.some.inj hlearn
    obtain rfl := Option.some.inj ((hmember member hname).symm.trans hlearn')
    rw [hothers other hne, hlen, LearnTable.len_touch_of_grows hgrows] at hlen'
    omega
  · intro halone id member hid
    rw [hroutable] at hid
    by_cases hself' : id = sighting.endpoint
    · subst hself'
      obtain rfl := Option.some.inj (hstate.symm.trans hid)
      exact ⟨_, hmember _ hgroup, hself⟩
    · obtain ⟨learn, hlearn, hlen⟩ := htruthful id member hid
      rw [hothers id hself', hlen]
      by_cases hname : member.identity.group = some name
      · rw [Router.effectiveLearn_of_group hname, hfound] at hlearn
        obtain rfl := Option.some.inj hlearn
        refine ⟨_, hmember member hname, ?_⟩
        have hshort : ¬ group.learn.Grows sighting.source := fun hgrows =>
          hself' (halone hgrows id member hid hname)
        rw [LearnTable.len_touch_of_not_grows hshort]
      · refine ⟨learn, Router.effectiveLearn_of_kept hlearn fun other found hother hget => ?_, rfl⟩
        have hne : other ≠ name := by
          rintro rfl
          exact hname hother
        rw [hgroups, GroupRegistry.setLearn, GroupRegistry.get, AList.lookup_insert_ne hne]
        exact congrArg _ hget

/-- A frame of an endpoint without a group leaves the counters truthful. -/
theorem Truthful.learned (htruthful : hub.Truthful) {source : EndpointId}
    {entry : RegisteredEndpoint} {state : RoutableState} {learn : LearnTable}
    (hgroup : state.identity.group = none)
    (hrouting : after.router.routing =
      hub.router.routing.insert source (entry.setLearn state learn))
    (hgroups : after.router.groups = hub.router.groups) (hself : after.shown source = learn.len)
    (hothers : ∀ id ≠ source, after.shown id = hub.shown id) : after.Truthful := by
  intro id member hmember
  rw [Router.routable?, hrouting] at hmember
  by_cases hid : id = source
  · subst hid
    rw [AList.lookup_insert] at hmember
    cases hmember
    exact ⟨learn, Router.effectiveLearn_of_no_group hgroup, hself⟩
  · rw [AList.lookup_insert_ne hid] at hmember
    obtain ⟨learn, hlearn, hlen⟩ := htruthful id member hmember
    refine ⟨learn, Router.effectiveLearn_of_kept hlearn fun name group _ hget => ?_,
      (hothers id hid).trans hlen⟩
    rw [hgroups, hget, Option.map_some]

/-- A frame leaves the counters truthful unless it adds an entry to a table that is shared. -/
theorem truthful_frame_iff (htruthful : hub.Truthful) (hcounted : hub.router.GroupsCounted) :
    (hub.step oneshot (.frame visit routerFrame now)).Truthful ↔
      ¬ Moment.GrowsShared oneshot ⟨hub, .frame visit routerFrame now⟩ := by
  have hingests := hub.router.ingestSourceFrame_ingests oneshot routerFrame now
  have hrouter : (hub.step oneshot (.frame visit routerFrame now)).router =
      (hub.router.ingestSourceFrame oneshot routerFrame now).2.1 :=
    Router.handleFrame_fst oneshot visit _ routerFrame now
  have hstores := hub.router.storesTo_handleFrame oneshot visit routerFrame now
  have hports : (hub.step oneshot (.frame visit routerFrame now)).ports =
      hub.ports.applyAll (hub.router.handleFrame oneshot visit routerFrame now).2 := rfl
  generalize hub.router.ingestSourceFrame oneshot routerFrame now = result at *
  generalize hub.step oneshot (.frame visit routerFrame now) = after at *
  -- A frame that is not admitted.
  have hquiet : after.router.routing = hub.router.routing →
      after.router.groups = hub.router.groups → (∀ id, storesTo id result.2.2 = []) →
      Moment.sighting? oneshot ⟨hub, .frame visit routerFrame now⟩ = none →
      (after.Truthful ↔ ¬ Moment.GrowsShared oneshot ⟨hub, .frame visit routerFrame now⟩) := by
    intro hrouting hgroups hnone hsighting
    refine iff_of_true (htruthful.same hrouting hgroups fun id => ?_)
      (Moment.not_growsShared fun sighting h => by cases hsighting.symm.trans h)
    exact shown_of_no_store hports ((hstores id).trans (hnone id))
  cases hingests with
  | unknown hentry =>
    refine hquiet (by rw [hrouter]) (by rw [hrouter]) (fun id => rfl) ?_
    simp [Moment.sighting?, Router.routable?, hentry]
  | notRoutable hentry hroutable =>
    refine hquiet (by rw [hrouter]) (by rw [hrouter]) (fun id => rfl) ?_
    simp [Moment.sighting?, Router.routable?, hentry, hroutable]
  | duplicate hentry hroutable hdedup =>
    refine hquiet (by rw [hrouter]) (by rw [hrouter])
      (fun id => storesTo_eq_nil id (by simp [PortAccess.learnCount?])) ?_
    simp [Moment.sighting?, Router.routable?, hentry, hroutable, hdedup]
  | @groupMissing entry state _ name hentry hroutable hdedup hgroup hmissing =>
    have hexists := (hcounted.get_isSome_iff name).mpr
      ⟨_, state, Router.routable?_eq_some.mpr ⟨entry, hentry, hroutable⟩, hgroup⟩
    simp [hmissing] at hexists
  | @learnedInGroup entry state dedup name group hentry hroutable hdedup hgroup hfound =>
    have hstate := Router.routable?_eq_some.mpr ⟨entry, hentry, hroutable⟩
    let sighting : Sighting := ⟨routerFrame.endpointId, some name, routerFrame.header.source⟩
    have hsighting : Moment.sighting? oneshot ⟨hub, .frame visit routerFrame now⟩ =
        some sighting := by
      simp [Moment.sighting?, hstate, hdedup, hgroup, sighting]
    obtain ⟨hself, hothers⟩ := shown_learnEntries hports hstores
    rw [Moment.not_growsShared_iff hsighting rfl hfound]
    exact truthful_learnedInGroup_iff htruthful sighting hstate hgroup hfound (by rw [hrouter])
      (by rw [hrouter]) hself hothers
  | @learned entry state dedup hentry hroutable hdedup hgroup =>
    have hstate := Router.routable?_eq_some.mpr ⟨entry, hentry, hroutable⟩
    obtain ⟨hself, hothers⟩ := shown_learnEntries hports hstores
    refine iff_of_true
      (htruthful.learned hgroup (by rw [hrouter]) (by rw [hrouter]) hself hothers) ?_
    refine Moment.not_growsShared fun sighting hsighting => ?_
    simp only [Moment.sighting?, hstate, Option.bind_some, hdedup] at hsighting
    cases hsighting
    exact hgroup

/-- An endpoint that is not registered shows what it showed. -/
theorem shown_frame_of_unknown (hentry : hub.router.routing.lookup id = none) :
    (hub.step oneshot (.frame visit routerFrame now)).shown id = hub.shown id := by
  have hne : ∀ {entry : RegisteredEndpoint},
      hub.router.routing.lookup routerFrame.endpointId = some entry →
        routerFrame.endpointId ≠ id := by
    rintro entry hsource rfl
    cases hentry.symm.trans hsource
  have hstores := hub.router.storesTo_handleFrame oneshot visit routerFrame now id
  have hingests := hub.router.ingestSourceFrame_ingests oneshot routerFrame now
  refine shown_of_no_store rfl (hstores.trans ?_)
  generalize hub.router.ingestSourceFrame oneshot routerFrame now = result at hingests
  cases hingests with
  | unknown => rfl
  | notRoutable => rfl
  | duplicate => exact storesTo_eq_nil id (by simp [PortAccess.learnCount?])
  | groupMissing => rfl
  | learnedInGroup hsource =>
    exact (storesTo_learnEntries _ _ _).trans (if_neg (hne hsource))
  | learned hsource =>
    exact (storesTo_learnEntries _ _ _).trans (if_neg (hne hsource))

end Frames

end Hub

section

variable {inputs : List Input} (oneshot : List UInt8 → UInt64)
  (statsEvents : Library.Channel StatsEvent) (dedupMs : UInt64) (dedupWindowCapacity : ℕ)
  {ports : Ports}

/-- An endpoint that was never added shows zero. -/
theorem shown_of_not_added (hfresh : ∀ id, (ports id).stats.learnEntries = 0)
    (hids : NoReuse inputs) (hleaves : ∀ input ∈ inputs, input.LeavesLearnEntries)
    {id : EndpointId} (hid : id ∉ inputs.filterMap Input.added?) :
    let start := Hub.start statsEvents dedupMs dedupWindowCapacity ports
    (start.run oneshot inputs).shown id = 0 := by
  intro start
  induction inputs using List.reverseRecOn with
  | nil => exact congrArg UInt64.toNat (hfresh id)
  | append_singleton inputs input ih =>
    rw [List.filterMap_append, List.mem_append, not_or] at hid
    have hbefore := ih hids.of_append
      (fun earlier hmem => hleaves earlier (List.mem_append_left _ hmem)) hid.1
    rw [Hub.run_snoc]
    cases input with
    | event event => exact (Hub.shown_event _ event id).trans hbefore
    | frame visit routerFrame now =>
      have haccounted := accounted_run oneshot statsEvents dedupMs dedupWindowCapacity ports
        hids.of_append
      refine (Hub.shown_frame_of_unknown ?_).trans hbefore
      exact Option.eq_none_iff_forall_not_mem.mpr fun entry hentry =>
        hid.1 (haccounted.added hentry)
    | own owner update =>
      have hown := hleaves (.own owner update) (List.mem_append_right _ List.mem_cons_self)
      exact (Hub.shown_own hown id).trans hbefore
    | statsTask update => exact hbefore

/-- One more step of a run keeps the counters truthful exactly if no endpoint joins late and no
shared table grows. -/
theorem truthful_snoc_iff {input : Input} (hfresh : ∀ id, (ports id).stats.learnEntries = 0)
    (hids : NoReuse (inputs ++ [input]))
    (hleaves : ∀ input' ∈ inputs ++ [input], input'.LeavesLearnEntries) :
    let hub := (Hub.start statsEvents dedupMs dedupWindowCapacity ports).run oneshot inputs
    hub.Truthful → ((hub.step oneshot input).Truthful ↔
      ¬ Moment.JoinsLate ⟨hub, input⟩ ∧ ¬ Moment.GrowsShared oneshot ⟨hub, input⟩) := by
  intro hub htruthful
  cases input with
  | event event =>
    have haccounted := accounted_run oneshot statsEvents dedupMs dedupWindowCapacity ports hids
    rw [Hub.run_snoc] at haccounted
    have hgrows : ¬ Moment.GrowsShared oneshot ⟨hub, .event event⟩ :=
      Moment.not_growsShared fun _ hsighting => by cases hsighting
    rw [and_iff_left hgrows]
    refine Hub.truthful_event_iff htruthful haccounted.groups fun id hadded => ?_
    exact shown_of_not_added oneshot statsEvents dedupMs dedupWindowCapacity hfresh hids.of_append
      (fun earlier hmem => hleaves earlier (List.mem_append_left _ hmem)) (hids.fresh hadded)
  | frame visit routerFrame now =>
    have haccounted := accounted_run oneshot statsEvents dedupMs dedupWindowCapacity ports
      hids.of_append
    rw [and_iff_right (Moment.not_joinsLate rfl)]
    exact Hub.truthful_frame_iff htruthful haccounted.groups
  | own owner update =>
    have hown := hleaves (.own owner update) (List.mem_append_right _ List.mem_cons_self)
    refine iff_of_true (htruthful.same rfl rfl (Hub.shown_own hown)) ⟨Moment.not_joinsLate rfl, ?_⟩
    exact Moment.not_growsShared fun _ hsighting => by cases hsighting
  | statsTask update =>
    refine iff_of_true (htruthful.same rfl rfl fun _ => rfl) ⟨Moment.not_joinsLate rfl, ?_⟩
    exact Moment.not_growsShared fun _ hsighting => by cases hsighting

end

/-- The counters are truthful throughout a run if and only if no endpoint joins a group that has
learned something, and no frame adds an entry to the table of a group with another member. -/
theorem learnEntries_truthful_iff {inputs : List Input} (oneshot : List UInt8 → UInt64)
    (statsEvents : Library.Channel StatsEvent) (dedupMs : UInt64) (dedupWindowCapacity : ℕ)
    {ports : Ports} (hfresh : ∀ id, (ports id).stats.learnEntries = 0) (hids : NoReuse inputs)
    (hleaves : ∀ input ∈ inputs, input.LeavesLearnEntries) :
    let start := Hub.start statsEvents dedupMs dedupWindowCapacity ports
    (∀ earlier, earlier <+: inputs → (start.run oneshot earlier).Truthful) ↔
      ∀ moment ∈ start.moments oneshot inputs,
        ¬ moment.JoinsLate ∧ ¬ moment.GrowsShared oneshot := by
  intro start
  induction inputs using List.reverseRecOn with
  | nil =>
    refine iff_of_true ?_ (List.forall_mem_nil _)
    intro earlier hearlier id state hstate
    rw [List.prefix_nil.mp hearlier] at hstate
    cases hstate
  | append_singleton inputs input ih =>
    have hbefore := ih hids.of_append fun earlier hmem =>
      hleaves earlier (List.mem_append_left _ hmem)
    have hstep := truthful_snoc_iff oneshot statsEvents dedupMs dedupWindowCapacity hfresh hids
      hleaves
    rw [Hub.moments_snoc, List.forall_mem_append, List.forall_mem_singleton, ← hbefore]
    constructor
    · intro htruthful
      have hearlier : ∀ earlier, earlier <+: inputs → (start.run oneshot earlier).Truthful :=
        fun earlier hearly => htruthful earlier (hearly.trans (List.prefix_append _ _))
      have hlast := htruthful _ (List.prefix_refl _)
      rw [Hub.run_snoc] at hlast
      exact ⟨hearlier, (hstep (hearlier _ (List.prefix_refl _))).mp hlast⟩
    · rintro ⟨hearlier, hmoment⟩ earlier hinputs
      rcases List.prefix_concat_iff.mp hinputs with hlast | hearly
      · rw [hlast, Hub.run_snoc]
        exact (hstep (hearlier _ (List.prefix_refl _))).mpr hmoment
      · exact hearlier earlier hearly

/-- A frame from a member of a group whose other member has left. -/
theorem learnEntries_truthful_iff_vehicle :
    let visit : Visit := .inOrder
    let frame : Bytes := ⟨[0xFE, 0, 7, 1, 1, 0, 0, 0], ⟨0⟩, 0⟩
    let routerFrame : RouterFrame := ⟨⟨0⟩, frame, ⟨.v1, ⟨1, 1⟩, 0, 7, 0, none, none⟩⟩
    let inputs : List Input :=
      [.event (.endpointAdded ⟨0⟩ "radio" (some ⟨{ group := some "vehicle" }, "radio"⟩)),
        .event (.peerAdded ⟨2⟩ ⟨1⟩ "lte" ⟨{ group := some "vehicle" }, "lte"⟩),
        .event (.peerRemoved ⟨2⟩ ⟨1⟩ .disconnected), .frame visit routerFrame 5]
    let ports : Ports := fun _ => { stats := {}, txQueue := .new 8 }
    let start := Hub.start (.new 64) 0 16 ports
    (∀ earlier, earlier <+: inputs → (start.run (fun _ => 0) earlier).Truthful) ∧
      (start.run (fun _ => 0) inputs).shown ⟨0⟩ = 1 := by
  intro visit frame routerFrame inputs ports start
  have hfresh : ∀ id, (ports id).stats.learnEntries = 0 := fun _ => rfl
  have hids : (inputs.filterMap Input.added?).Nodup :=
    show ([⟨0⟩, ⟨1⟩] : List EndpointId).Nodup by simp
  have hleaves : ∀ input ∈ inputs, input.LeavesLearnEntries := by
    simp [inputs, Input.LeavesLearnEntries]
  refine ⟨(learnEntries_truthful_iff (fun _ => 0) (.new 64) 0 16 hfresh hids hleaves).mpr ?_,
    by decide +kernel⟩
  have hempty : ∀ {group : GroupLearn} {members : ℕ},
      some (GroupLearn.mk (.new learnCapacity) members) = some group → ¬ 0 < group.learn.len := by
    rintro group members ⟨⟩
    exact Nat.lt_irrefl 0
  simp only [inputs, Hub.moments, List.forall_mem_cons]
  refine ⟨⟨?_, ?_⟩, ⟨?_, ?_⟩, ⟨?_, ?_⟩, ⟨?_, ?_⟩, List.forall_mem_nil _⟩
  · rintro ⟨name, group, hjoins, hget, -⟩
    cases hget
  · exact Moment.not_growsShared fun _ hsighting => by cases hsighting
  · rintro ⟨name, group, hjoins, hget, hpos⟩
    cases hjoins
    exact hempty hget hpos
  · exact Moment.not_growsShared fun _ hsighting => by cases hsighting
  · exact Moment.not_joinsLate rfl
  · exact Moment.not_growsShared fun _ hsighting => by cases hsighting
  · exact Moment.not_joinsLate rfl
  · rintro ⟨sighting, name, group, other, state, hsighting, -, -, -, hne, hother, -⟩
    cases hsighting
    obtain ⟨entry, hentry, -⟩ := Router.routable?_eq_some.mp hother
    have hmem : other ∈ ([⟨0⟩] : List EndpointId) :=
      AList.lookup_isSome.mp (Option.isSome_of_mem hentry)
    exact hne (List.mem_singleton.mp hmem)

/-- A frame from one member of a group leaves the counter of the other member at zero, while
the table they share has an entry. -/
theorem learnEntries_stale :
    let visit : Visit := .inOrder
    let frame : Bytes := ⟨[0xFE, 0, 7, 1, 1, 0, 0, 0], ⟨0⟩, 0⟩
    let routerFrame : RouterFrame := ⟨⟨0⟩, frame, ⟨.v1, ⟨1, 1⟩, 0, 7, 0, none, none⟩⟩
    let inputs : List Input :=
      [.event (.endpointAdded ⟨0⟩ "radio" (some ⟨{ group := some "vehicle" }, "radio"⟩)),
        .event (.endpointAdded ⟨1⟩ "lte" (some ⟨{ group := some "vehicle" }, "lte"⟩)),
        .frame visit routerFrame 5]
    let ports : Ports := fun _ => { stats := {}, txQueue := .new 8 }
    let hub := (Hub.start (.new 64) 0 16 ports).run (fun _ => 0) inputs
    NoReuse inputs ∧ ∃ state learn, hub.router.routable? ⟨1⟩ = some state ∧
      hub.router.effectiveLearn state = some learn ∧
      (hub.ports ⟨1⟩).stats.learnEntries.toNat = 0 ∧ learn.len = 1 := by
  intro visit frame routerFrame inputs ports hub
  have hids : (inputs.filterMap Input.added?).Nodup :=
    show ([⟨0⟩, ⟨1⟩] : List EndpointId).Nodup by simp
  exact ⟨hids, _, _, rfl, rfl, rfl, rfl⟩

end MavlinkRouter
