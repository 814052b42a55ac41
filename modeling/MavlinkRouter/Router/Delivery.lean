import MavlinkRouter.Router.Groups

/-!
# Delivery of one frame

Which endpoints one admitted frame is pushed to, and which count it as filtered. The
accesses to each endpoint are determined by its own entry in the registry, so the
order in which the registry is visited does not matter.
-/

namespace MavlinkRouter

/-- The frame names no target, or the target is among the given nodes. -/
def TargetKnown (header : ParsedHeader) (nodes : List NodeId) : Prop :=
  ∀ sys, header.targetSystem = some sys → sys ≠ 0 →
    (header.targetComponent = none ∨ header.targetComponent = some 0 →
      ∃ node ∈ nodes, node.sys = sys) ∧
    ∀ comp, header.targetComponent = some comp → comp ≠ 0 → ⟨sys, comp⟩ ∈ nodes

private theorem targetMatch_iff {header : ParsedHeader} {learn : LearnTable} :
    targetMatch header learn = true ↔ TargetKnown header learn.nodes := by
  unfold targetMatch TargetKnown
  cases hsys : header.targetSystem with
  | none => simp
  | some sys =>
    by_cases hzero : sys = 0
    · simp [hzero]
    · cases hcomp : header.targetComponent with
      | none => simp [hzero, LearnTable.containsSys_iff]
      | some comp =>
        by_cases hcompZero : comp = 0
        · simp [hzero, hcompZero, LearnTable.containsSys_iff]
        · simp [hzero, hcompZero, LearnTable.contains_iff]

section

variable {header : ParsedHeader} {learn : LearnTable} {identity : IdentityFlags}
  {srcEndpointName : String}

/-- When a destination admits a frame. -/
theorem decide_eq_admitted :
    decide header learn identity srcEndpointName = .admitted ↔
      identity.sniffer = true ∨
        header.source ∉ learn.nodes ∧
        identity.filters.passesOutFilter header.msgid header.source srcEndpointName = true ∧
        TargetKnown header learn.nodes := by
  unfold decide
  rw [← targetMatch_iff, ← LearnTable.contains_iff]
  by_cases hsniffer : identity.sniffer = true
  · simp [hsniffer]
  · by_cases hknown : learn.contains header.source = true
    · simp [hsniffer, hknown]
    · by_cases hpass :
          identity.filters.passesOutFilter header.msgid header.source srcEndpointName = true
      · by_cases htarget : targetMatch header learn = true
        · simp [hsniffer, hknown, hpass, htarget]
        · simp [hsniffer, hknown, hpass, htarget]
      · simp [hsniffer, hknown, hpass]

/-- When a destination rejects a frame by its egress filter. -/
theorem decide_eq_outFilterBlocked :
    decide header learn identity srcEndpointName = .outFilterBlocked ↔
      identity.sniffer = false ∧ header.source ∉ learn.nodes ∧
        identity.filters.passesOutFilter header.msgid header.source srcEndpointName = false := by
  unfold decide
  rw [← LearnTable.contains_iff]
  by_cases hsniffer : identity.sniffer = true
  · simp [hsniffer]
  · by_cases hknown : learn.contains header.source = true
    · simp [hsniffer, hknown]
    · by_cases hpass :
          identity.filters.passesOutFilter header.msgid header.source srcEndpointName = true
      · by_cases htarget : targetMatch header learn = true
        · simp [hsniffer, hknown, hpass, htarget]
        · simp [hsniffer, hknown, hpass, htarget]
      · simp [hsniffer, hknown, hpass]

end

namespace Router

variable {router before after : Router} {routerFrame : RouterFrame} {srcEndpointName : String}
  {oneshot : List UInt8 → UInt64} {now : Instant}

/-- The frame is to be pushed to `dest`: another routable endpoint, as registered before
the frame, that is a sniffer or that has not learned the source, lets the frame pass and
knows the target, all in its learn table after the source was learned. -/
def Receives (before after : Router) (routerFrame : RouterFrame) (srcEndpointName : String)
    (dest : EndpointId) : Prop :=
  dest ≠ routerFrame.endpointId ∧
    ∃ state learn, before.routable? dest = some state ∧ after.effectiveLearn state = some learn ∧
      (state.identity.sniffer = true ∨
        routerFrame.header.source ∉ learn.nodes ∧
        state.identity.filters.passesOutFilter routerFrame.header.msgid
          routerFrame.header.source srcEndpointName = true ∧
        TargetKnown routerFrame.header learn.nodes)

/-- The frame is rejected by the out-filter step of `dest`. -/
def RejectsByFilter (before after : Router) (routerFrame : RouterFrame) (srcEndpointName : String)
    (dest : EndpointId) : Prop :=
  dest ≠ routerFrame.endpointId ∧
    ∃ state learn, before.routable? dest = some state ∧ after.effectiveLearn state = some learn ∧
      state.identity.sniffer = false ∧ routerFrame.header.source ∉ learn.nodes ∧
      state.identity.filters.passesOutFilter routerFrame.header.msgid
        routerFrame.header.source srcEndpointName = false

section

variable {dest : EndpointId} {state : RoutableState} {learn : LearnTable}

/-- The frame is to be pushed exactly if the decision is to admit it. -/
theorem receives_iff (srcEndpointName : String) (hother : dest ≠ routerFrame.endpointId)
    (hstate : before.routable? dest = some state)
    (hlearn : after.effectiveLearn state = some learn) :
    Receives before after routerFrame srcEndpointName dest ↔
      decide routerFrame.header learn state.identity srcEndpointName = .admitted := by
  rw [decide_eq_admitted, Receives]
  simp [hother, hstate, hlearn]

/-- It is rejected by the filter exactly if the decision says so. -/
theorem rejectsByFilter_iff (srcEndpointName : String) (hother : dest ≠ routerFrame.endpointId)
    (hstate : before.routable? dest = some state)
    (hlearn : after.effectiveLearn state = some learn) :
    RejectsByFilter before after routerFrame srcEndpointName dest ↔
      decide routerFrame.header learn state.identity srcEndpointName = .outFilterBlocked := by
  rw [decide_eq_outFilterBlocked, RejectsByFilter]
  simp [hother, hstate, hlearn]

/-- Without a learn table an endpoint is passed over. -/
theorem not_receives_of_missing (hstate : before.routable? dest = some state)
    (hlearn : after.effectiveLearn state = none) :
    ¬ Receives before after routerFrame srcEndpointName dest ∧
      ¬ RejectsByFilter before after routerFrame srcEndpointName dest := by
  simp [Receives, RejectsByFilter, hstate, hlearn]

end

/-- The dispatch loop accesses an endpoint only on behalf of its own entry. -/
theorem accessesTo_dispatch (router : Router) (visit : Visit) (routerFrame : RouterFrame)
    (srcEndpointName : String) (dest : EndpointId) :
    accessesTo dest (router.dispatchToDestinations visit routerFrame srcEndpointName) =
      (router.routing.lookup dest).elim [] fun entry =>
        (router.dispatchTo routerFrame srcEndpointName ⟨dest, entry⟩).map Effect.access := by
  have htarget : ∀ entry, ∀ effect ∈ router.dispatchTo routerFrame srcEndpointName entry,
      effect.target = entry.1 := by
    intro entry effect heffect
    unfold dispatchTo at heffect
    split at heffect
    · cases heffect
    · split at heffect
      · cases heffect
      · split at heffect
        · cases heffect
        · split at heffect <;> simp at heffect <;> rw [heffect]
  unfold accessesTo dispatchToDestinations
  rw [visit.filter_flatMap _ _ Effect.target htarget]
  cases router.routing.lookup dest <;> rfl

/-- What happens to one endpoint when a frame is dispatched. -/
inductive Outcome (before after : Router) (routerFrame : RouterFrame) (srcEndpointName : String)
    (dest : EndpointId) : List PortAccess → Prop
  | source (hsource : dest = routerFrame.endpointId) (count : ℕ) :
    Outcome before after routerFrame srcEndpointName dest [.storeLearnEntries count]
  | pushed (hreceives : Receives before after routerFrame srcEndpointName dest) :
    Outcome before after routerFrame srcEndpointName dest [.push routerFrame.frame]
  | filtered (hrejects : RejectsByFilter before after routerFrame srcEndpointName dest) :
    Outcome before after routerFrame srcEndpointName dest [.addOutFilterDrop]
  | skipped (hother : dest ≠ routerFrame.endpointId)
      (hreceives : ¬ Receives before after routerFrame srcEndpointName dest)
      (hrejects : ¬ RejectsByFilter before after routerFrame srcEndpointName dest) :
    Outcome before after routerFrame srcEndpointName dest []

/-- The dispatch of one entry, read off the registry before the frame. -/
theorem dispatchTo_outcome {dest : EndpointId} (hother : dest ≠ routerFrame.endpointId)
    (hlookup : after.routing.lookup dest = before.routing.lookup dest) :
    Outcome before after routerFrame srcEndpointName dest
      ((after.routing.lookup dest).elim [] fun entry =>
        (after.dispatchTo routerFrame srcEndpointName ⟨dest, entry⟩).map Effect.access) := by
  have hskip : before.routable? dest = none →
      Outcome before after routerFrame srcEndpointName dest [] := by
    intro hnone
    refine .skipped hother ?_ ?_
    · rintro ⟨-, state, learn, hstate, -⟩
      simp [hnone] at hstate
    · rintro ⟨-, state, learn, hstate, -⟩
      simp [hnone] at hstate
  rw [hlookup]
  cases hentry : before.routing.lookup dest with
  | none => exact hskip (by simp [routable?, hentry])
  | some entry =>
    rw [Option.elim_some]
    unfold dispatchTo
    rw [if_neg hother]
    cases hroutable : entry.routable with
    | none => exact hskip (by simp [routable?, hentry, hroutable])
    | some state =>
      have hstate : before.routable? dest = some state :=
        routable?_eq_some.mpr ⟨entry, hentry, hroutable⟩
      simp only
      cases hlearn : after.effectiveLearn state with
      | none =>
        obtain ⟨hreceives, hrejects⟩ := not_receives_of_missing hstate hlearn
        exact .skipped hother hreceives hrejects
      | some learn =>
        have hreceives := receives_iff srcEndpointName hother hstate hlearn
        have hrejects := rejectsByFilter_iff srcEndpointName hother hstate hlearn
        simp only
        cases hdecision : decide routerFrame.header learn state.identity srcEndpointName with
        | admitted => exact .pushed (hreceives.mpr hdecision)
        | outFilterBlocked => exact .filtered (hrejects.mpr hdecision)
        | loopBlocked =>
          exact .skipped hother (by simp [hreceives, hdecision]) (by simp [hrejects, hdecision])
        | targetMismatch =>
          exact .skipped hother (by simp [hreceives, hdecision]) (by simp [hrejects, hdecision])

/-- What handling an admitted frame does to each endpoint. -/
theorem handleFrame_outcome (visit : Visit) (dest : EndpointId)
    (hadmitted : (router.ingestSourceFrame oneshot routerFrame now).1 =
      .admitted srcEndpointName) :
    Outcome router (router.handleFrame oneshot visit routerFrame now).1 routerFrame
      srcEndpointName dest
      (accessesTo dest (router.handleFrame oneshot visit routerFrame now).2) := by
  have hingests := router.ingestSourceFrame_ingests oneshot routerFrame now
  obtain ⟨count, heffects⟩ := hingests.effects_of_admitted hadmitted
  have hhandle : router.handleFrame oneshot visit routerFrame now =
      ((router.ingestSourceFrame oneshot routerFrame now).2.1,
        [⟨routerFrame.endpointId, .storeLearnEntries count⟩] ++
          (router.ingestSourceFrame oneshot routerFrame now).2.1.dispatchToDestinations visit
            routerFrame srcEndpointName) := by
    unfold handleFrame
    rcases hresult : router.ingestSourceFrame oneshot routerFrame now with
      ⟨admission, ingested, effects⟩
    rw [hresult] at hadmitted heffects
    cases hadmitted
    cases heffects
    rfl
  rw [hhandle, accessesTo_append, accessesTo_dispatch]
  by_cases hother : dest = routerFrame.endpointId
  · subst hother
    have hdispatch : ∀ entry, dispatchTo
        (router.ingestSourceFrame oneshot routerFrame now).2.1 routerFrame srcEndpointName
          ⟨routerFrame.endpointId, entry⟩ = [] := fun entry => if_pos rfl
    simp only [hdispatch, accessesTo_cons, accessesTo_nil, if_true, List.map_nil]
    cases (router.ingestSourceFrame oneshot routerFrame now).2.1.routing.lookup
      routerFrame.endpointId <;> exact .source rfl count
  · rw [accessesTo_cons, if_neg (Ne.symm hother), accessesTo_nil, List.nil_append]
    exact dispatchTo_outcome hother (hingests.lookup_of_ne hother)

/-- A destination does not both receive a frame and count it as filtered. -/
theorem Receives.not_rejects {dest : EndpointId}
    (h : Receives before after routerFrame srcEndpointName dest) :
    ¬ RejectsByFilter before after routerFrame srcEndpointName dest := by
  obtain ⟨hother, state, learn, hstate, hlearn, hdecision⟩ := h
  rw [rejectsByFilter_iff srcEndpointName hother hstate hlearn,
    decide_eq_admitted.mpr hdecision]
  simp

/-- The frame is not pushed back to its source. -/
theorem not_receives_source :
    ¬ Receives before after routerFrame srcEndpointName routerFrame.endpointId := by
  rintro ⟨hother, -⟩
  exact hother rfl

namespace Outcome

variable {dest : EndpointId} {accesses : List PortAccess}

/-- The frame is pushed to those who are to receive it. -/
theorem of_receives (h : Outcome before after routerFrame srcEndpointName dest accesses)
    (hreceives : Receives before after routerFrame srcEndpointName dest) :
    accesses = [.push routerFrame.frame] := by
  cases h with
  | source hsource count => exact absurd hsource hreceives.1
  | pushed _ => rfl
  | filtered hrejects => exact absurd hrejects hreceives.not_rejects
  | skipped hother hnot _ => exact absurd hreceives hnot

private theorem of_rejects (h : Outcome before after routerFrame srcEndpointName dest accesses)
    (hrejects : RejectsByFilter before after routerFrame srcEndpointName dest) :
    accesses = [.addOutFilterDrop] := by
  cases h with
  | source hsource count => exact absurd hsource hrejects.1
  | pushed hreceives => exact absurd hrejects hreceives.not_rejects
  | filtered _ => rfl
  | skipped hother _ hnot => exact absurd hrejects hnot

/-- An endpoint that does not receive the frame keeps its queue. -/
theorem queue_of_not_receives
    (h : Outcome before after routerFrame srcEndpointName dest accesses)
    (hnot : ¬ Receives before after routerFrame srcEndpointName dest) (port : Port) :
    accesses.filterMap PortAccess.pushed? = [] ∧
      (accesses.foldl Port.access port).txQueue = port.txQueue := by
  cases h with
  | source hsource count => exact ⟨rfl, rfl⟩
  | pushed hreceives => exact absurd hreceives hnot
  | filtered _ => exact ⟨rfl, rfl⟩
  | skipped _ _ _ => exact ⟨rfl, rfl⟩

/-- An endpoint whose filter does not reject the frame keeps its filter count. -/
theorem drops_of_not_rejects
    (h : Outcome before after routerFrame srcEndpointName dest accesses)
    (hnot : ¬ RejectsByFilter before after routerFrame srcEndpointName dest) (port : Port) :
    (accesses.foldl Port.access port).stats.outFilterDrops = port.stats.outFilterDrops := by
  cases h with
  | source hsource count => rfl
  | pushed hreceives => exact port.outFilterDrops_push routerFrame.frame
  | filtered hrejects => exact absurd hrejects hnot
  | skipped _ _ _ => rfl

end Outcome

/-- A frame is pushed once to an endpoint that receives it and not at all to any other. -/
theorem pushesTo_handleFrame (oneshot : List UInt8 → UInt64) (router : Router) (visit : Visit)
    (routerFrame : RouterFrame) (now : Instant) (dest : EndpointId) :
    pushesTo dest (router.handleFrame oneshot visit routerFrame now).2 = [] ∨
      pushesTo dest (router.handleFrame oneshot visit routerFrame now).2 = [routerFrame.frame] ∧
        ∃ srcEndpointName, Receives router (router.handleFrame oneshot visit routerFrame now).1
          routerFrame srcEndpointName dest := by
  have hingests := router.ingestSourceFrame_ingests oneshot routerFrame now
  cases hadmission : (router.ingestSourceFrame oneshot routerFrame now).1 with
  | suppressed =>
    have heffects : (router.handleFrame oneshot visit routerFrame now).2 =
        (router.ingestSourceFrame oneshot routerFrame now).2.2 := by
      unfold handleFrame
      split <;> simp_all
    rw [heffects, hingests.pushesTo_eq_nil]
    exact .inl rfl
  | admitted srcEndpointName =>
    have houtcome := handleFrame_outcome visit dest hadmission
    by_cases hreceives : Receives router (router.handleFrame oneshot visit routerFrame now).1
      routerFrame srcEndpointName dest
    · rw [pushesTo, houtcome.of_receives hreceives]
      exact .inr ⟨rfl, srcEndpointName, hreceives⟩
    · exact .inl (houtcome.queue_of_not_receives hreceives ⟨{}, .new 1⟩).1

/-- A frame is pushed only to an endpoint that receives it. -/
theorem receives_of_push {visit : Visit} {dest : EndpointId} {frame : Bytes}
    (hpush : frame ∈ pushesTo dest (router.handleFrame oneshot visit routerFrame now).2) :
    ∃ srcEndpointName, Receives router (router.handleFrame oneshot visit routerFrame now).1
      routerFrame srcEndpointName dest := by
  rcases pushesTo_handleFrame oneshot router visit routerFrame now dest with hnone | ⟨-, hreceives⟩
  · rw [hnone] at hpush
    cases hpush
  · exact hreceives

/-- A member of the source's group that is no sniffer does not get the frame: the group
has just learned its source. -/
theorem not_receives_sibling {dest : EndpointId} {src state : RoutableState} {name : String}
    {result : SourceAdmission × Router × List Effect}
    (hingests : Ingests oneshot before routerFrame now result)
    (hadmitted : result.1 = .admitted srcEndpointName)
    (hsrc : before.routable? routerFrame.endpointId = some src)
    (hsrcGroup : src.identity.group = some name)
    (hstate : before.routable? dest = some state) (hgroup : state.identity.group = some name)
    (hsniffer : state.identity.sniffer = false) :
    ¬ Receives before result.2.1 routerFrame srcEndpointName dest := by
  obtain ⟨src', hsrc', -, hlearned⟩ := hingests.source_of_admitted hadmitted
  obtain rfl := Option.some.inj (hsrc.symm.trans hsrc')
  obtain ⟨group, hfound, hknown⟩ := hlearned name hsrcGroup
  rintro ⟨hother, state', learn, hstate', hlearn, hdecision⟩
  obtain rfl := Option.some.inj (hstate.symm.trans hstate')
  rw [effectiveLearn_of_group hgroup, hfound] at hlearn
  cases hlearn
  rcases hdecision with hdecision | ⟨hunknown, -⟩
  · simp [hsniffer] at hdecision
  · exact hunknown hknown

end Router

section

variable {oneshot : List UInt8 → UInt64} {hub : Hub} {routerFrame : RouterFrame} {now : Instant}
  {src : RoutableState}

/-- The order in which the registry is visited changes neither the router nor the accesses
to any endpoint. -/
theorem accessesTo_handleFrame_visit (oneshot : List UInt8 → UInt64) (router : Router)
    (routerFrame : RouterFrame) (now : Instant) (visit visit' : Visit) (dest : EndpointId) :
    accessesTo dest (router.handleFrame oneshot visit routerFrame now).2 =
      accessesTo dest (router.handleFrame oneshot visit' routerFrame now).2 := by
  unfold Router.handleFrame
  split
  · rfl
  · simp only [accessesTo_append, Router.accessesTo_dispatch]

/-- The order in which the registry is visited does not matter. -/
theorem step_frame_visit (oneshot : List UInt8 → UInt64) (hub : Hub) (routerFrame : RouterFrame)
    (now : Instant) (visit visit' : Visit) :
    hub.step oneshot (.frame visit routerFrame now) =
      hub.step oneshot (.frame visit' routerFrame now) := by
  have hrouter : (hub.router.handleFrame oneshot visit routerFrame now).1 =
      (hub.router.handleFrame oneshot visit' routerFrame now).1 := by
    rw [Router.handleFrame_fst, Router.handleFrame_fst]
  have hports : hub.ports.applyAll (hub.router.handleFrame oneshot visit routerFrame now).2 =
      hub.ports.applyAll (hub.router.handleFrame oneshot visit' routerFrame now).2 := by
    funext dest
    rw [Ports.applyAll_at, Ports.applyAll_at,
      accessesTo_handleFrame_visit oneshot hub.router routerFrame now visit visit']
  simp only [Hub.step, hrouter, hports]

/-- A frame of a registered routable source that the dedup window lets through is pushed
once to every destination that receives it and to no other queue, it is counted as
filtered exactly where the out-filter rejects it, whatever the order of the visits, and
neither its source nor a member of the source's group that is no sniffer gets it. -/
theorem frame_delivery (hreach : hub.Reachable oneshot) (visit : Visit)
    (hsrc : hub.router.routable? routerFrame.endpointId = some src)
    (hdedup : (hub.router.dedup.checkAndInsert oneshot routerFrame.frame now).1 = false) :
    let after := hub.step oneshot (.frame visit routerFrame now)
    let effects := (hub.router.handleFrame oneshot visit routerFrame now).2
    let Receives := hub.router.Receives after.router routerFrame src.endpointName
    let RejectsByFilter := hub.router.RejectsByFilter after.router routerFrame src.endpointName
    (∀ dest, Receives dest → pushesTo dest effects = [routerFrame.frame] ∧
      (after.ports dest).txQueue = ((hub.ports dest).txQueue.forcePush routerFrame.frame).1) ∧
    (∀ dest, ¬ Receives dest → pushesTo dest effects = [] ∧
      (after.ports dest).txQueue = (hub.ports dest).txQueue) ∧
    (∀ dest, RejectsByFilter dest → (after.ports dest).stats.outFilterDrops =
      (hub.ports dest).stats.outFilterDrops + 1) ∧
    (∀ dest, ¬ RejectsByFilter dest → (after.ports dest).stats.outFilterDrops =
      (hub.ports dest).stats.outFilterDrops) ∧
    (∀ visit', hub.step oneshot (.frame visit' routerFrame now) = after ∧
      ∀ dest, pushesTo dest (hub.router.handleFrame oneshot visit' routerFrame now).2 =
        pushesTo dest effects) ∧
    ¬ Receives routerFrame.endpointId ∧
    (∀ dest state name, hub.router.routable? dest = some state →
      src.identity.group = some name → state.identity.group = some name →
      state.identity.sniffer = false → ¬ Receives dest) := by
  intro after effects Receives RejectsByFilter
  have hadmitted := hreach.groupsCounted.ingest_admitted hsrc hdedup
  have hafter : ∀ dest, after.ports dest =
      (accessesTo dest effects).foldl Port.access (hub.ports dest) :=
    Ports.applyAll_at hub.ports effects
  have houtcome : ∀ dest, Router.Outcome hub.router after.router routerFrame src.endpointName dest
      (accessesTo dest effects) := fun dest => Router.handleFrame_outcome visit dest hadmitted
  refine ⟨?_, ?_, ?_, ?_, ?_, Router.not_receives_source, ?_⟩
  · intro dest hreceives
    have haccesses := (houtcome dest).of_receives hreceives
    rw [hafter, pushesTo, haccesses]
    exact ⟨rfl, rfl⟩
  · intro dest hnot
    rw [hafter]
    exact (houtcome dest).queue_of_not_receives hnot (hub.ports dest)
  · intro dest hrejects
    rw [hafter, (houtcome dest).of_rejects hrejects]
    rfl
  · intro dest hnot
    rw [hafter]
    exact (houtcome dest).drops_of_not_rejects hnot (hub.ports dest)
  · intro visit'
    refine ⟨step_frame_visit oneshot hub routerFrame now visit' visit, fun dest => ?_⟩
    rw [pushesTo, accessesTo_handleFrame_visit oneshot hub.router routerFrame now visit' visit]
    rfl
  · intro dest state name hstate hsrcGroup hgroup hsniffer
    have hrouter : after.router = (hub.router.ingestSourceFrame oneshot routerFrame now).2.1 :=
      Router.handleFrame_fst oneshot visit hub.router routerFrame now
    have hingests := hub.router.ingestSourceFrame_ingests oneshot routerFrame now
    have hnot :=
      Router.not_receives_sibling hingests hadmitted hsrc hsrcGroup hstate hgroup hsniffer
    rwa [← hrouter] at hnot

/-- A broadcast from the first of two endpoints is pushed to the second. -/
theorem frame_delivery_broadcast :
    let inputs : List Input :=
      [.event (.endpointAdded ⟨0⟩ "vehicle" (some ⟨{}, "vehicle"⟩)),
        .event (.endpointAdded ⟨1⟩ "ground" (some ⟨{}, "ground"⟩))]
    let ports : Ports := fun _ => { stats := {}, txQueue := .new 8 }
    let hub := (Hub.start (.new 64) 0 16 ports).run (fun _ => 0) inputs
    let frame : Bytes := ⟨[0xFE, 0, 7, 1, 1, 0, 0, 0], ⟨0⟩, 0⟩
    let routerFrame : RouterFrame := ⟨⟨0⟩, frame, ⟨.v1, ⟨1, 1⟩, 0, 7, 0, none, none⟩⟩
    let visit : Visit := .inOrder
    hub.Reachable (fun _ => 0) ∧
      pushesTo ⟨1⟩ (hub.router.handleFrame (fun _ => 0) visit routerFrame 5).2 = [frame] := by
  intro inputs ports hub frame routerFrame visit
  have hids : NoReuse inputs := by
    unfold NoReuse
    decide
  have hreach : hub.Reachable (fun _ => 0) := ⟨_, _, _, _, inputs, hids, rfl⟩
  refine ⟨hreach, ((frame_delivery hreach visit rfl rfl).1 ⟨1⟩ ?_).1⟩
  refine ⟨by decide, _, _, rfl, rfl, .inr ⟨?_, rfl, ?_⟩⟩
  · decide
  · rintro sys ⟨⟩

end

end MavlinkRouter
