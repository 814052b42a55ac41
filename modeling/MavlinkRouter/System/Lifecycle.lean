import MavlinkRouter.Library.Execution
import MavlinkRouter.System.Monitor

/-!
# The router's registry and the mirror of the stats task

The router and the stats task each keep a registry of endpoints, and only the stream of
lifecycle events on the stats channel keeps them equal. While no event is dropped for lack
of room, every endpoint has one `Register` and then one `Finalize` on it, its final state is
stored before the `Finalize`, and the events sent so far always make up the router's registry.
-/

namespace MavlinkRouter

/-- Every `Finalize` follows directly on a store of the endpoint's state with the property. -/
def StoredBefore (P : EndpointId → EndpointState → Prop) (accesses : List RouterAccess) : Prop :=
  ∀ before id after, accesses = before ++ .forward (.finalize id) :: after →
    ∃ earlier state, before = earlier ++ [.port ⟨id, .storeState state⟩] ∧ P id state

namespace StoredBefore

variable {P Q : EndpointId → EndpointState → Prop} {accesses accesses' : List RouterAccess}

private theorem of_forall_ne (h : ∀ id, .forward (.finalize id) ∉ accesses) :
    StoredBefore P accesses := by
  rintro before id after rfl
  exact absurd (List.mem_append_right _ List.mem_cons_self) (h id)

private theorem mono (h : StoredBefore P accesses) (hPQ : ∀ id state, P id state → Q id state) :
    StoredBefore Q accesses := by
  intro before id after hsplit
  obtain ⟨earlier, state, hbefore, hP⟩ := h before id after hsplit
  exact ⟨earlier, state, hbefore, hPQ id state hP⟩

private theorem append (h : StoredBefore P accesses) (h' : StoredBefore P accesses') :
    StoredBefore P (accesses ++ accesses') := by
  intro before id after hsplit
  rcases List.append_eq_append_iff.mp hsplit with ⟨mid, rfl, hright⟩ | ⟨mid, hleft, hright⟩
  · obtain ⟨earlier, state, rfl, hP⟩ := h' mid id after hright
    exact ⟨accesses ++ earlier, state, by rw [List.append_assoc], hP⟩
  · cases mid with
    | nil =>
      obtain ⟨earlier, state, hnil, -⟩ := h' [] id after hright.symm
      simp at hnil
    | cons first mid =>
      rw [List.cons_append, List.cons.injEq] at hright
      obtain ⟨rfl, -⟩ := hright
      exact h before id mid hleft

private theorem of_append_left (h : StoredBefore P (accesses ++ accesses')) :
    StoredBefore P accesses := by
  rintro before id after rfl
  exact h before id (after ++ accesses') (by simp)

private theorem flatMap {ι : Type*} {items : List ι} {f : ι → List RouterAccess}
    (h : ∀ item ∈ items, StoredBefore P (f item)) : StoredBefore P (items.flatMap f) := by
  induction items with
  | nil => exact .of_forall_ne (by simp)
  | cons item items ih =>
    rw [List.forall_mem_cons] at h
    exact h.1.append (ih h.2)

/-- A store followed by its `Finalize`. -/
theorem pair {id : EndpointId} {state : EndpointState} (hP : P id state) :
    StoredBefore P [.port ⟨id, .storeState state⟩, .forward (.finalize id)] := by
  intro before id' after hsplit
  rcases before with _ | ⟨store, before⟩
  · simp at hsplit
  · rw [List.cons_append, List.cons.injEq] at hsplit
    obtain ⟨rfl, hrest⟩ := hsplit
    rcases before with _ | ⟨first, before⟩
    · obtain ⟨rfl, -⟩ : id' = id ∧ after = [] := by simpa [eq_comm] using hrest
      exact ⟨[], state, rfl, hP⟩
    · simp at hrest

end StoredBefore

namespace Monitor

open Library (execute execute_invariant execute_snoc)

variable {oneshot : List UInt8 → UInt64} {cfg : Stats.StatsRunConfig}

/-- The registration an input carries. -/
def registration? (input : Input) : Option (EndpointId × String × Option Routable) :=
  input.event?.bind EndpointEvent.registration?

private theorem added?_eq_registration? (input : Input) :
    input.added? = (registration? input).map Prod.fst := by
  cases input <;> rfl

/-- The ids registered by the inputs. -/
def addedIn (inputs : List Input) : List EndpointId := inputs.filterMap Input.added?

/-- The ids removed by the inputs. -/
def removedIn (inputs : List Input) : List EndpointId := inputs.filterMap Input.removed?

/-- The ids added by one more input. -/
theorem mem_addedIn_snoc {inputs : List Input} {input : Input} {id : EndpointId} :
    id ∈ addedIn (inputs ++ [input]) ↔ id ∈ addedIn inputs ∨ input.added? = some id := by
  rw [addedIn, List.filterMap_append, List.mem_append]
  simp [addedIn]

private theorem mem_removedIn_snoc {inputs : List Input} {input : Input} {id : EndpointId} :
    id ∈ removedIn (inputs ++ [input]) ↔ id ∈ removedIn inputs ∨ input.removed? = some id := by
  rw [removedIn, List.filterMap_append, List.mem_append]
  simp [removedIn]

/-- Ids are registered at most once, and removed at most once and only after that. -/
structure Orderly (inputs : List Input) : Prop where
  added : (addedIn inputs).Nodup
  removed : (removedIn inputs).Nodup
  order : ∀ before input after id, inputs = before ++ input :: after →
    input.removed? = some id → id ∈ addedIn before

namespace Orderly

variable {inputs : List Input} {input : Input} {id : EndpointId}

private theorem of_prefix {done : List Input} (h : Orderly inputs) (hdone : done <+: inputs) :
    Orderly done where
  added := h.added.sublist (hdone.filterMap _).sublist
  removed := h.removed.sublist (hdone.filterMap _).sublist
  order := by
    rintro before removal after id rfl hremoved
    obtain ⟨rest, rfl⟩ := hdone
    exact h.order before removal (after ++ rest) id (by simp) hremoved

private theorem init (h : Orderly (inputs ++ [input])) : Orderly inputs :=
  h.of_prefix (List.prefix_append _ _)

private theorem fresh (h : Orderly (inputs ++ [input])) (hadded : input.added? = some id) :
    id ∉ addedIn inputs := by
  have hnodup := h.added
  rw [addedIn, List.filterMap_append, List.nodup_append] at hnodup
  intro hmem
  exact hnodup.2.2 id hmem id (by simp [hadded]) rfl

private theorem removable (h : Orderly (inputs ++ [input])) (hremoved : input.removed? = some id) :
    id ∈ addedIn inputs ∧ id ∉ removedIn inputs := by
  refine ⟨h.order inputs input [] id rfl hremoved, ?_⟩
  have hnodup := h.removed
  rw [removedIn, List.filterMap_append, List.nodup_append] at hnodup
  intro hmem
  exact hnodup.2.2 id hmem id (by simp [hremoved]) rfl

/-- What is removed was registered. -/
theorem mem_addedIn (h : Orderly inputs) (hremoved : id ∈ removedIn inputs) :
    id ∈ addedIn inputs := by
  obtain ⟨input, hmem, hinput⟩ := List.mem_filterMap.mp hremoved
  obtain ⟨before, after, rfl⟩ := List.append_of_mem hmem
  have hbefore := h.order before input after id rfl hinput
  rw [addedIn, List.filterMap_append]
  exact List.mem_append_left _ hbefore

/-- In an orderly sequence an endpoint stays registered until its only removal. -/
theorem registeredIn_iff (h : Orderly inputs) :
    RegisteredIn id inputs ↔ id ∈ addedIn inputs ∧ id ∉ removedIn inputs := by
  constructor
  · rintro ⟨before, input, after, rfl, hadded, hafter⟩
    refine ⟨List.mem_filterMap.mpr ⟨input, by simp, hadded⟩, ?_⟩
    intro hremoved
    obtain ⟨removal, hmem, hremoval⟩ := List.mem_filterMap.mp hremoved
    rcases List.mem_append.mp hmem with hbefore | hrest
    · -- A removal before the registration would need an earlier registration.
      obtain ⟨first, second, rfl⟩ := List.append_of_mem hbefore
      have hearlier := h.order first removal (second ++ input :: after) id (by simp) hremoval
      have hnodup := h.added
      rw [addedIn, List.filterMap_append, List.nodup_append] at hnodup
      refine hnodup.2.2 id ?_ id (by simp [hadded]) rfl
      rw [List.filterMap_append]
      exact List.mem_append_left _ hearlier
    · rcases List.mem_cons.mp hrest with rfl | hlater
      · have hearlier := h.order before removal after id rfl hremoval
        have hnodup := h.added
        rw [addedIn, List.filterMap_append, List.nodup_append] at hnodup
        exact hnodup.2.2 id hearlier id (by simp [hadded]) rfl
      · exact hafter removal hlater hremoval
  · rintro ⟨hadded, hremoved⟩
    obtain ⟨input, hmem, hinput⟩ := List.mem_filterMap.mp hadded
    refine registeredIn_of_mem hmem hinput ?_
    intro later hlater hlaterRemoved
    exact hremoved (List.mem_filterMap.mpr ⟨later, hlater, hlaterRemoved⟩)

end Orderly

/-- Why the router stored a final state: a removal it handled, or the final sweep. -/
def FinalState (handled : List Input) (swept : Bool) (id : EndpointId) (state : EndpointState) :
    Prop :=
  (∃ parentId reason, .event (.peerRemoved parentId id reason) ∈ handled ∧
      state = reason.finalState) ∨
    swept = true ∧ id ∉ removedIn handled ∧ state = .down

/-- The life of a registered endpoint on the stats channel. -/
def life (id : EndpointId) (name : String) (routable ended : Bool) : List StatsEvent :=
  .register id name routable :: if ended then [.finalize id] else []

/-- The registry and the accesses of the handlers follow the inputs. -/
structure Follows (monitor : Monitor) : Prop where
  registry : monitor.swept = false → ∀ id,
    (monitor.router.routing.lookup id).isSome ↔ RegisteredIn id monitor.handled
  unknown : ∀ id, id ∉ addedIn monitor.handled →
    Stats.eventsOf id (forwards monitor.script) = []
  known : ∀ id name payload, (id, name, payload) ∈ monitor.handled.filterMap registration? →
    Stats.eventsOf id (forwards monitor.script) =
      life id name payload.isSome (monitor.swept || id ∈ removedIn monitor.handled)
  stored : StoredBefore (FinalState monitor.handled monitor.swept) monitor.script

/-- Between two events of one kind, the steps that only concern other state. -/
theorem Follows.of_eq {before after : Monitor} (h : Follows before)
    (hrouting : after.router.routing = before.router.routing)
    (hswept : after.swept = before.swept) (hhandled : after.handled = before.handled)
    (hscript : after.script = before.script) : Follows after where
  registry := by
    rw [hrouting, hswept, hhandled]
    exact h.registry
  unknown := by
    rw [hhandled, hscript]
    exact h.unknown
  known := by
    rw [hhandled, hscript, hswept]
    exact h.known
  stored := by
    rw [hhandled, hscript, hswept]
    exact h.stored

private theorem eventsOf_of_ne {id : EndpointId} {event : StatsEvent} (h : event.id ≠ id) :
    Stats.eventsOf id [event] = [] := by
  simp [Stats.eventsOf, h]

private theorem eventsOf_self (event : StatsEvent) : Stats.eventsOf event.id [event] = [event] := by
  simp [Stats.eventsOf]

private theorem mem_addedIn_of_registration {inputs : List Input} {id : EndpointId} {name : String}
    {payload : Option Routable} (h : (id, name, payload) ∈ inputs.filterMap registration?) :
    id ∈ addedIn inputs := by
  obtain ⟨input, hmem, hinput⟩ := List.mem_filterMap.mp h
  exact List.mem_filterMap.mpr ⟨input, hmem, by rw [added?_eq_registration?, hinput]; rfl⟩

private theorem exists_registration {inputs : List Input} {id : EndpointId}
    (h : id ∈ addedIn inputs) :
    ∃ name payload, (id, name, payload) ∈ inputs.filterMap registration? := by
  obtain ⟨input, hmem, hinput⟩ := List.mem_filterMap.mp h
  rw [added?_eq_registration?, Option.map_eq_some_iff] at hinput
  obtain ⟨⟨id, name, payload⟩, hregistration, rfl⟩ := hinput
  exact ⟨name, payload, List.mem_filterMap.mpr ⟨input, hmem, hregistration⟩⟩

/-- The final states of earlier inputs stay explained. -/
theorem FinalState.snoc {handled : List Input} (input : Input) {id : EndpointId}
    {state : EndpointState} (h : FinalState handled false id state) :
    FinalState (handled ++ [input]) false id state := by
  rcases h with ⟨parentId, reason, hmem, hstate⟩ | ⟨hswept, -⟩
  · exact .inl ⟨parentId, reason, List.mem_append_left _ hmem, hstate⟩
  · cases hswept

/-- The accesses of an event extend what the handlers before it have done. -/
theorem script_handle {before : Monitor} (hpending : before.pending = []) (input : Input)
    (router : Router) (accesses : List RouterAccess) :
    (before.handle input router accesses).script = before.script ++ accesses := by
  simp [script, handle, hpending]

/-- Handling an input: what is asked of the router and the accesses that it leads to. -/
theorem Follows.handle {before : Monitor} (h : Follows before) {input : Input} {router : Router}
    {accesses : List RouterAccess} (hpending : before.pending = []) (hswept : before.swept = false)
    (hregistry : ∀ id, (router.routing.lookup id).isSome ↔
      RegisteredIn id (before.handled ++ [input]))
    (hunknown : ∀ id, id ∉ addedIn before.handled → input.added? ≠ some id →
      Stats.eventsOf id (forwards accesses) = [])
    (hknown : ∀ id name payload,
      (id, name, payload) ∈ (before.handled ++ [input]).filterMap registration? →
      Stats.eventsOf id (forwards before.script) ++ Stats.eventsOf id (forwards accesses) =
        life id name payload.isSome (id ∈ removedIn (before.handled ++ [input])))
    (hstored : StoredBefore (FinalState (before.handled ++ [input]) false) accesses) :
    Follows (before.handle input router accesses) := by
  have hscript := script_handle hpending input router accesses
  constructor
  · exact fun _ => hregistry
  · intro id hid
    rw [handle_handled, mem_addedIn_snoc, not_or] at hid
    rw [hscript, forwards_append, Stats.eventsOf_append, h.unknown id hid.1,
      hunknown id hid.1 hid.2, List.append_nil]
  · intro id name payload hmem
    rw [hscript, forwards_append, Stats.eventsOf_append, handle_handled, handle_swept, hswept,
      Bool.false_or]
    exact hknown id name payload hmem
  · have hold := h.stored
    rw [hswept] at hold
    rw [hscript, handle_handled, handle_swept, hswept]
    exact (hold.mono fun id state hfinal => hfinal.snoc input).append hstored

/-- Handling a frame. -/
theorem Follows.tookFrame {before : Monitor} (h : Follows before) (visit : Visit)
    (routerFrame : RouterFrame) (now : Instant) (hpending : before.pending = [])
    (hswept : before.swept = false) :
    Follows (before.handle (.frame visit routerFrame now)
      (before.router.handleFrame oneshot visit routerFrame now).1
      ((before.router.handleFrame oneshot visit routerFrame now).2.map .port)) := by
  refine h.handle hpending hswept ?_ ?_ ?_ (.of_forall_ne (by simp))
  · intro id
    rw [registeredIn_snoc, ← h.registry hswept, Router.handleFrame_fst]
    have hingests := before.router.ingestSourceFrame_ingests oneshot routerFrame now
    have hsame := hingests.lookup_eq_none id
    simp only [Option.isSome_iff_ne_none, ne_eq, hsame]
    simp [Input.added?, Input.removed?]
  · intro id _ _
    rw [forwards_port]
    rfl
  · intro id name payload hmem
    rw [List.filterMap_append] at hmem
    have hknown := h.known id name payload (by simpa [registration?, Input.event?] using hmem)
    have hremoved : id ∈ removedIn (before.handled ++ [Input.frame visit routerFrame now]) ↔
        id ∈ removedIn before.handled := by
      simp [mem_removedIn_snoc, Input.removed?]
    rw [hknown, hswept, Bool.false_or, forwards_port]
    simp only [hremoved]
    exact List.append_nil _

/-- Handling a registration. -/
theorem Follows.tookRegistration {before : Monitor} (h : Follows before) {event : EndpointEvent}
    {added : EndpointId} {name : String} {payload : Option Routable}
    (hregistration : event.registration? = some (added, name, payload))
    (hforwards : forwards (before.router.eventAccesses event) =
      [.register added name payload.isSome])
    (hpending : before.pending = []) (hswept : before.swept = false)
    (horderly : Orderly (before.handled ++ [Input.event event])) :
    Follows (before.handle (.event event) (before.router.afterEvent event)
      (before.router.eventAccesses event)) := by
  have hadded : (Input.event event).added? = some added := by
    simp [added?_eq_registration?, registration?, Input.event?, hregistration]
  have hremoved : (Input.event event).removed? = none := by
    cases event with
    | endpointAdded id name routable => rfl
    | peerAdded parentId childId name routable => rfl
    | peerRemoved parentId childId reason => cases hregistration
  have hfresh := horderly.fresh hadded
  refine h.handle hpending hswept ?_ ?_ ?_ ?_
  · intro id
    rw [registeredIn_snoc, ← h.registry hswept]
    exact before.router.lookup_handleEvent_isSome event id
  · intro id _ hnew
    rw [hforwards]
    apply eventsOf_of_ne
    rintro rfl
    exact hnew hadded
  · intro id name' payload' hmem
    rw [List.filterMap_append, List.mem_append] at hmem
    rw [hforwards]
    rcases hmem with hold | hnew
    · have hne : (StatsEvent.register added name payload.isSome).id ≠ id := by
        rintro rfl
        exact hfresh (mem_addedIn_of_registration hold)
      have hknown := h.known id name' payload' hold
      rw [hswept, Bool.false_or] at hknown
      rw [hknown, eventsOf_of_ne hne, List.append_nil]
      simp only [mem_removedIn_snoc, hremoved, reduceCtorEq, or_false]
    · obtain ⟨rfl, rfl, rfl⟩ : id = added ∧ name' = name ∧ payload' = payload := by
        simpa [registration?, Input.event?, hregistration] using hnew
      have hnotRemoved : id ∉ removedIn (before.handled ++ [Input.event event]) := by
        rw [mem_removedIn_snoc, hremoved]
        rintro (hmem | hmem)
        · exact hfresh (horderly.init.mem_addedIn hmem)
        · cases hmem
      rw [h.unknown id hfresh, List.nil_append, decide_eq_false hnotRemoved]
      exact eventsOf_self (.register id name' payload'.isSome)
  · refine .of_forall_ne fun id hmem => ?_
    have hforwarded : .finalize id ∈ forwards (before.router.eventAccesses event) :=
      List.mem_filterMap.mpr ⟨_, hmem, rfl⟩
    simp [hforwards] at hforwarded

/-- Handling the removal of an endpoint, which is then registered. -/
theorem Follows.tookRemoval {before : Monitor} (h : Follows before) {parentId removed : EndpointId}
    {reason : PeerRemovalReason} (hpending : before.pending = []) (hswept : before.swept = false)
    (horderly : Orderly (before.handled ++ [Input.event (.peerRemoved parentId removed reason)])) :
    Follows (before.handle (.event (.peerRemoved parentId removed reason))
      (before.router.afterEvent (.peerRemoved parentId removed reason))
      (before.router.eventAccesses (.peerRemoved parentId removed reason))) := by
  obtain ⟨hadded, hnotRemoved⟩ : removed ∈ addedIn before.handled ∧
      removed ∉ removedIn before.handled := horderly.removable rfl
  have hregistered : (before.router.routing.lookup removed).isSome :=
    (h.registry hswept removed).mpr (horderly.init.registeredIn_iff.mpr ⟨hadded, hnotRemoved⟩)
  have haccesses : before.router.eventAccesses (.peerRemoved parentId removed reason) =
      [.port ⟨removed, .storeState reason.finalState⟩, .forward (.finalize removed)] := by
    rw [Router.eventAccesses, if_pos hregistered]
  have hforwards : forwards [.port ⟨removed, .storeState reason.finalState⟩,
      .forward (.finalize removed)] = [.finalize removed] := rfl
  rw [haccesses]
  refine h.handle hpending hswept ?_ ?_ ?_ (.pair (.inl ⟨parentId, reason, by simp, rfl⟩))
  · intro id
    rw [registeredIn_snoc, ← h.registry hswept]
    exact before.router.lookup_handleEvent_isSome (.peerRemoved parentId removed reason) id
  · intro id hid _
    rw [hforwards]
    apply eventsOf_of_ne
    rintro rfl
    exact hid hadded
  · intro id name payload hmem
    rw [List.filterMap_append] at hmem
    have hold : (id, name, payload) ∈ before.handled.filterMap registration? := by
      simpa [registration?, Input.event?, EndpointEvent.registration?] using hmem
    rw [hforwards, h.known id name payload hold, hswept, Bool.false_or]
    by_cases hid : id = removed
    · subst hid
      have hnow : id ∈
          removedIn (before.handled ++ [Input.event (.peerRemoved parentId id reason)]) :=
        mem_removedIn_snoc.mpr (.inr rfl)
      rw [decide_eq_false hnotRemoved, decide_eq_true hnow]
      simp [life, Stats.eventsOf, StatsEvent.id]
    · have hne : (StatsEvent.finalize removed).id ≠ id := Ne.symm hid
      have hother : (Input.event (.peerRemoved parentId removed reason)).removed? ≠ some id := by
        simpa [Input.removed?, EndpointEvent.removed?, eq_comm] using hid
      rw [eventsOf_of_ne hne, List.append_nil]
      simp only [mem_removedIn_snoc, hother, or_false]

/-- The sweep forwards one `Finalize` for every registered endpoint. -/
theorem eventsOf_sweepAccesses (visit : Visit) (router : Router) (id : EndpointId) :
    Stats.eventsOf id (forwards (router.sweepAccesses visit)) =
      if (router.routing.lookup id).isSome then [.finalize id] else [] := by
  have hflat : forwards (router.sweepAccesses visit) =
      (visit.order router.routing.entries).flatMap fun entry => [.finalize entry.1] := by
    rw [forwards, Router.sweepAccesses, List.filterMap_flatMap]
    rfl
  rw [hflat, Stats.eventsOf, visit.filter_flatMap _ _ StatsEvent.id
    (by intro entry event hevent; rw [List.mem_singleton.mp hevent]; rfl)]
  cases router.routing.lookup id <;> rfl

/-- The final sweep. -/
theorem Follows.tookAll {before : Monitor} (h : Follows before) (visit : Visit)
    (hpending : before.pending = []) (hswept : before.swept = false)
    (horderly : Orderly before.handled) :
    Follows { before with
      router.routing := ∅
      pending := before.router.sweepAccesses visit
      swept := true } := by
  have hscript : ({ before with
      router.routing := ∅
      pending := before.router.sweepAccesses visit
      swept := true } : Monitor).script = before.script ++ before.router.sweepAccesses visit := by
    simp [script, hpending]
  have hregistry := fun id => (h.registry hswept id).trans horderly.registeredIn_iff
  constructor
  · intro hnot
    cases hnot
  · intro id hid
    have hunregistered : ¬ (before.router.routing.lookup id).isSome :=
      fun hsome => hid ((hregistry id).mp hsome).1
    rw [hscript, forwards_append, Stats.eventsOf_append, h.unknown id hid,
      eventsOf_sweepAccesses, if_neg hunregistered, List.nil_append]
  · intro id name payload hmem
    have hadded := mem_addedIn_of_registration hmem
    rw [hscript, forwards_append, Stats.eventsOf_append, h.known id name payload hmem,
      eventsOf_sweepAccesses, hswept, Bool.false_or, Bool.true_or]
    by_cases hremoved : id ∈ removedIn before.handled
    · have hunregistered : ¬ (before.router.routing.lookup id).isSome :=
        fun hsome => ((hregistry id).mp hsome).2 hremoved
      rw [decide_eq_true hremoved, if_neg hunregistered, List.append_nil]
    · rw [decide_eq_false hremoved, if_pos ((hregistry id).mpr ⟨hadded, hremoved⟩)]
      rfl
  · rw [hscript]
    have hold := h.stored
    rw [hswept] at hold
    refine (hold.mono ?_).append ?_
    · rintro id state (hremoval | ⟨hnot, -⟩)
      · exact .inl hremoval
      · cases hnot
    · refine .flatMap fun entry hentry => .pair (.inr ⟨rfl, ?_, rfl⟩)
      have hlookup := visit.mem_order.mp hentry
      exact ((hregistry entry.1).mp (by rw [hlookup]; rfl)).2

variable {statsCapacity : ℕ} {dedupMs : UInt64} {dedupWindowCapacity : ℕ} {ports : Ports}
  {actions : List Action} {monitor : Monitor}

/-- In orderly runs the registry and the accesses follow the inputs. -/
theorem follows (hrun : execute (step oneshot cfg)
    (start statsCapacity dedupMs dedupWindowCapacity ports) actions = some monitor)
    (horderly : Orderly monitor.handled) : Follows monitor := by
  refine execute_invariant (motive := fun reached => Orderly reached.handled → Follows reached)
    ?_ ?_ hrun horderly
  · intro _
    constructor
    · intro _ id
      have hnone : ¬ RegisteredIn id [] := by
        rintro ⟨before, input, after, hinputs, -⟩
        simp at hinputs
      simp [start, Router.new, hnone]
    · intro id _
      rfl
    · intro id name payload hmem
      simp [start] at hmem
    · exact .of_forall_ne (by simp [start, script])
  · intro before action after ih hstep horderly
    cases step_moves hstep with
    | tookEvent event hpending hswept =>
      rcases before.router.forwards_eventAccesses event with
        ⟨added, name, payload, hregistration, hforwards⟩ | ⟨removed, hremoved, -⟩
      · exact (ih horderly.init).tookRegistration hregistration hforwards hpending hswept horderly
      · cases event with
        | endpointAdded id name routable => cases hremoved
        | peerAdded parentId childId name routable => cases hremoved
        | peerRemoved parentId childId reason =>
          exact (ih horderly.init).tookRemoval hpending hswept horderly
    | tookFrame visit routerFrame now hpending hswept =>
      exact (ih horderly.init).tookFrame visit routerFrame now hpending hswept
    | tookAll visit hpending hswept =>
      exact (ih horderly).tookAll visit hpending hswept horderly
    | @performed access pending hpending =>
      refine (ih horderly).of_eq (Router.routing_perform _ access) rfl rfl ?_
      simp [script, hpending]
    | received hrecv hstats => exact (ih horderly).of_eq rfl rfl rfl rfl
    | aside ports hstats => exact (ih horderly).of_eq rfl rfl rfl rfl

/-- The stats channel and the mirror: nothing that was forwarded is lost while no event was
dropped, the router counts what was, and the mirror is what the received events make of an
empty one. -/
structure Carries (monitor : Monitor) : Prop where
  receiverOpen : monitor.router.statsEvents.receiverOpen = true
  stream : monitor.dropped = [] → monitor.stream = forwards monitor.log
  counted : monitor.router.statsEventsDropped = .ofNat monitor.dropped.length
  mirror : monitor.stats.registry = Stats.replay monitor.received

private theorem handleFrame_stats (oneshot : List UInt8 → UInt64) (visit : Visit) (router : Router)
    (routerFrame : RouterFrame) (now : Instant) :
    (router.handleFrame oneshot visit routerFrame now).1.statsEvents = router.statsEvents ∧
      (router.handleFrame oneshot visit routerFrame now).1.statsEventsDropped =
        router.statsEventsDropped := by
  rw [Router.handleFrame_fst]
  exact (router.ingestSourceFrame_ingests oneshot routerFrame now).stats_eq

/-- The channel and the mirror after every run. -/
private theorem carries (hrun : execute (step oneshot cfg)
    (start statsCapacity dedupMs dedupWindowCapacity ports) actions = some monitor) :
    Carries monitor := by
  refine execute_invariant ⟨rfl, fun _ => rfl, rfl, rfl⟩ ?_ hrun
  intro before action after ih hstep
  cases step_moves hstep with
  | tookEvent event hpending hswept => exact ⟨ih.receiverOpen, ih.stream, ih.counted, ih.mirror⟩
  | tookFrame visit routerFrame now hpending hswept =>
    obtain ⟨hchannel, hdropped⟩ := handleFrame_stats oneshot visit before.router routerFrame now
    refine ⟨?_, ?_, ?_, ih.mirror⟩
    · rw [handle_router, hchannel, ih.receiverOpen]
    · rw [stream, handle_router, hchannel]
      exact ih.stream
    · rw [handle_router, hdropped]
      exact ih.counted
  | tookAll visit hpending hswept => exact ⟨ih.receiverOpen, ih.stream, ih.counted, ih.mirror⟩
  | @performed access pending hpending =>
    cases access with
    | port effect =>
      have hnone : before.dropped ++ (before.router.dropped? (.port effect)).toList =
          before.dropped := List.append_nil _
      rw [hnone]
      refine ⟨ih.receiverOpen, ?_, ih.counted, ih.mirror⟩
      intro hdropped
      exact (ih.stream hdropped).trans (by simp [forwards, RouterAccess.forwarded?])
    | forward event =>
      obtain ⟨hopen, ⟨hitems, hsame, hnone⟩ | ⟨hcount, hfull⟩⟩ :=
        Router.forwardStats_cases ih.receiverOpen event
      · rw [hnone, Option.toList_none, List.append_nil]
        refine ⟨hopen, ?_, hsame.trans ih.counted, ih.mirror⟩
        intro hdropped
        have hstream := ih.stream hdropped
        rw [stream, forwards_append, ← hstream, stream, List.append_assoc]
        exact congrArg _ hitems
      · rw [hfull, Option.toList_some]
        refine ⟨hopen, fun hdropped => absurd hdropped (by simp), ?_, ih.mirror⟩
        rw [List.length_append, UInt64.ofNat_add, ← ih.counted]
        exact hcount
  | @received event statsEvents stats hrecv hstats =>
    have hitems := Library.Channel.items_of_tryRecv hrecv
    refine ⟨(Library.Channel.receiverOpen_of_tryRecv hrecv).trans ih.receiverOpen, ?_,
      ih.counted, ?_⟩
    · intro hdropped
      have hstream := ih.stream hdropped
      rw [stream, hitems] at hstream
      simpa [stream] using hstream
    · rw [hstats, ih.mirror, Stats.replay_snoc]
  | aside ports hstats =>
    exact ⟨ih.receiverOpen, ih.stream, ih.counted, hstats.trans ih.mirror⟩

/-- What the router has still to forward: a handler's only event comes last, and the sweep
forwards nothing but `Finalize`s. -/
structure PendingShape (monitor : Monitor) : Prop where
  last : monitor.swept = false → ∀ front event rest,
    monitor.pending = front ++ .forward event :: rest → rest = []
  sweep : monitor.swept = true → ∀ event, .forward event ∈ monitor.pending →
    ∃ id, event = .finalize id

/-- Nothing comes after the forward that follows accesses to the shared state. -/
theorem rest_eq_nil {effects : List Effect} {forwarded event : StatsEvent}
    {front rest : List RouterAccess}
    (h : effects.map .port ++ [.forward forwarded] = front ++ .forward event :: rest) :
    rest = [] := by
  rcases List.eq_nil_or_concat rest with rfl | ⟨inner, last, rfl⟩
  · rfl
  · rw [List.concat_eq_append, ← List.cons_append, ← List.append_assoc] at h
    have hports := (List.append_inj' h rfl).1
    have hmem : .forward event ∈ effects.map RouterAccess.port := by
      rw [hports]
      simp
    simp at hmem

/-- What is pending after every run. -/
private theorem pendingShape (hrun : execute (step oneshot cfg)
    (start statsCapacity dedupMs dedupWindowCapacity ports) actions = some monitor) :
    PendingShape monitor := by
  refine execute_invariant ⟨by simp [start], by simp [start]⟩ ?_ hrun
  intro before action after ih hstep
  cases step_moves hstep with
  | tookEvent event hpending hswept =>
    refine ⟨?_, fun hnow => absurd (hswept.symm.trans hnow) (by decide)⟩
    intro _ front forwarded rest hsplit
    obtain ⟨effects, last, haccesses⟩ := before.router.eventAccesses_eq_append event
    exact rest_eq_nil (haccesses.symm.trans hsplit)
  | tookFrame visit routerFrame now hpending hswept =>
    refine ⟨?_, fun hnow => absurd (hswept.symm.trans hnow) (by decide)⟩
    intro _ front forwarded rest hsplit
    have hmem : .forward forwarded ∈ front ++ .forward forwarded :: rest := by simp
    rw [← hsplit] at hmem
    simp [handle] at hmem
  | tookAll visit hpending hswept =>
    refine ⟨fun hnow => absurd hnow.symm Bool.false_ne_true, ?_⟩
    intro _ event hmem
    obtain ⟨entry, -, hentry⟩ := List.mem_flatMap.mp hmem
    refine ⟨entry.1, ?_⟩
    simpa [Router.takeDown] using hentry
  | @performed access pending hpending =>
    refine ⟨?_, ?_⟩
    · intro hswept front event rest hsplit
      refine ih.last hswept (access :: front) event rest ?_
      rw [hpending, List.cons_append]
      exact congrArg _ hsplit
    · intro hswept event hmem
      refine ih.sweep hswept event ?_
      rw [hpending]
      exact List.mem_cons_of_mem _ hmem
  | received hrecv hstats => exact ⟨ih.last, ih.sweep⟩
  | aside ports hstats => exact ⟨ih.last, ih.sweep⟩

/-- Handling and dropping are never undone. -/
theorem Moves.grows {before after : Monitor} (h : Moves oneshot before after) :
    before.handled <+: after.handled ∧ before.dropped <+: after.dropped := by
  cases h with
  | tookEvent event hpending hswept => exact ⟨List.prefix_append _ _, List.prefix_refl _⟩
  | tookFrame visit routerFrame now hpending hswept =>
    exact ⟨List.prefix_append _ _, List.prefix_refl _⟩
  | tookAll visit hpending hswept => exact ⟨List.prefix_refl _, List.prefix_refl _⟩
  | performed hpending => exact ⟨List.prefix_refl _, List.prefix_append _ _⟩
  | received hrecv hstats => exact ⟨List.prefix_refl _, List.prefix_refl _⟩
  | aside ports hstats => exact ⟨List.prefix_refl _, List.prefix_refl _⟩

/-- An earlier state of a run, with no handler under way, by which the given events had been
forwarded. -/
structure Moment (oneshot : List UInt8 → UInt64) (cfg : Stats.StatsRunConfig) (begin : Monitor)
    (actions : List Action) (monitor : Monitor) (sent : List StatsEvent) (earlier : Monitor) :
    Prop where
  reached : ∃ done rest, actions = done ++ rest ∧
    execute (step oneshot cfg) begin done = some earlier
  forwarded : forwards earlier.log = sent
  settled : earlier.swept = false → earlier.pending = []
  handled : earlier.handled <+: monitor.handled
  dropped : earlier.dropped <+: monitor.dropped

/-- One more action. -/
theorem Moment.snoc {begin monitor after earlier : Monitor} {actions : List Action}
    {action : Action} {sent : List StatsEvent}
    (h : Moment oneshot cfg begin actions monitor sent earlier)
    (hmoves : Moves oneshot monitor after) :
    Moment oneshot cfg begin (actions ++ [action]) after sent earlier where
  reached := by
    obtain ⟨done, rest, rfl, hearlier⟩ := h.reached
    exact ⟨done, rest ++ [action], List.append_assoc _ _ _, hearlier⟩
  forwarded := h.forwarded
  settled := h.settled
  handled := h.handled.trans hmoves.grows.1
  dropped := h.dropped.trans hmoves.grows.2

/-- Every prefix of what was forwarded is what was forwarded by some earlier moment. -/
theorem exists_moment (hrun : execute (step oneshot cfg)
    (start statsCapacity dedupMs dedupWindowCapacity ports) actions = some monitor)
    {sent : List StatsEvent} (hsent : sent <+: forwards monitor.log) :
    ∃ earlier, Moment oneshot cfg (start statsCapacity dedupMs dedupWindowCapacity ports)
      actions monitor sent earlier := by
  induction actions using List.reverseRecOn generalizing monitor sent with
  | nil =>
    obtain rfl := Option.some.inj hrun
    obtain rfl := List.prefix_nil.mp hsent
    exact ⟨_, ⟨[], [], rfl, rfl⟩, rfl, fun _ => rfl, List.prefix_refl _, List.prefix_refl _⟩
  | append_singleton actions action ih =>
    obtain ⟨before, hbefore, hstep⟩ := execute_snoc.mp hrun
    have hmoves := step_moves hstep
    have hearlier : sent <+: forwards before.log → ∃ earlier, Moment oneshot cfg
        (start statsCapacity dedupMs dedupWindowCapacity ports) (actions ++ [action]) monitor
        sent earlier := by
      intro hold
      obtain ⟨earlier, hmoment⟩ := ih hbefore hold
      exact ⟨earlier, hmoment.snoc hmoves⟩
    have hshape := pendingShape hbefore
    cases hmoves with
    | tookEvent event hpending hswept => exact hearlier hsent
    | tookFrame visit routerFrame now hpending hswept => exact hearlier hsent
    | tookAll visit hpending hswept => exact hearlier hsent
    | received hrecv hstats => exact hearlier hsent
    | aside ports hstats => exact hearlier hsent
    | @performed access pending hpending =>
      cases access with
      | port effect =>
        have hnone : forwards [.port effect] = [] := rfl
        rw [forwards_append, hnone, List.append_nil] at hsent
        exact hearlier hsent
      | forward event =>
        rw [forwards_append] at hsent
        rcases List.prefix_concat_iff.mp hsent with hnow | hold
        · -- The handler forwards last, so it is done now.
          refine ⟨_, ⟨actions ++ [action], [], by simp, hrun⟩, ?_, ?_, List.prefix_refl _,
            List.prefix_refl _⟩
          · rw [forwards_append]
            exact hnow.symm
          · intro hswept
            exact hshape.last hswept [] event pending hpending
        · exact hearlier hold

/-- The last event of a life registers exactly while the endpoint lives. -/
theorem getLast?_life {id : EndpointId} {name : String} {routable ended : Bool} :
    (∃ name' routable',
      (life id name routable ended).getLast? = some (.register id name' routable')) ↔
      ended = false := by
  cases ended <;> simp [life]

/-- The `Finalize` of a life comes right after its `Register`. -/
theorem life_split {id : EndpointId} {name : String} {routable ended : Bool}
    {front back : List StatsEvent}
    (h : life id name routable ended = front ++ .finalize id :: back) :
    front = [.register id name routable] := by
  rcases front with _ | ⟨first, front⟩
  · simp [life] at h
  · rw [life, List.cons_append, List.cons.injEq] at h
    obtain ⟨rfl, hrest⟩ := h
    rcases front with _ | ⟨second, front⟩
    · rfl
    · have hlength := congrArg List.length hrest
      cases ended <;> simp at hlength

/-- What the sweep has still to forward about an endpoint. -/
theorem eventsOf_pending {monitor : Monitor} (hshape : PendingShape monitor)
    (hswept : monitor.swept = true) (id : EndpointId) :
    ∀ event ∈ Stats.eventsOf id (forwards monitor.pending), event = .finalize id := by
  intro event hmem
  rw [Stats.eventsOf, List.mem_filter, decide_eq_true_iff] at hmem
  obtain ⟨access, haccess, hforwarded⟩ := List.mem_filterMap.mp hmem.1
  cases access with
  | port effect => cases hforwarded
  | forward forwarded =>
    obtain rfl := Option.some.inj hforwarded
    obtain ⟨removed, rfl⟩ := hshape.sweep hswept forwarded haccess
    rw [← hmem.2]
    rfl

private theorem forward_finalize_mem_iff (accesses : List RouterAccess) (id : EndpointId) :
    .forward (.finalize id) ∈ accesses ↔
      .finalize id ∈ Stats.eventsOf id (forwards accesses) := by
  simp only [Stats.eventsOf, List.mem_filter, forwards, List.mem_filterMap, StatsEvent.id]
  constructor
  · intro hmem
    exact ⟨⟨_, hmem, rfl⟩, by simp⟩
  · rintro ⟨⟨access, hmem, haccess⟩, -⟩
    cases access with
    | port effect => cases haccess
    | forward forwarded =>
      cases haccess
      exact hmem

/-- Replaying what was forwarded gives the router's registry whenever no handler is under
way. -/
theorem Follows.replay_iff {monitor : Monitor} (h : Follows monitor)
    (horderly : Orderly monitor.handled) (hshape : PendingShape monitor)
    (hsettled : monitor.swept = false → monitor.pending = []) (id : EndpointId) :
    ((Stats.replay (forwards monitor.log)).lookup id).isSome ↔ monitor.Registered id := by
  rw [Stats.lookup_replay_isSome, Registered]
  have hsplit : Stats.eventsOf id (forwards monitor.script) =
      Stats.eventsOf id (forwards monitor.log) ++ Stats.eventsOf id (forwards monitor.pending) := by
    rw [script, forwards_append, Stats.eventsOf_append]
  have hpending := forward_finalize_mem_iff monitor.pending id
  by_cases hadded : id ∈ addedIn monitor.handled
  · obtain ⟨name, payload, hregistration⟩ := exists_registration hadded
    have hlife := h.known id name payload hregistration
    cases hswept : monitor.swept with
    | false =>
      rw [hsettled hswept] at hsplit
      have hlog : Stats.eventsOf id (forwards monitor.log) =
          life id name payload.isSome (id ∈ removedIn monitor.handled) := by
        rw [hlife, hswept, Bool.false_or] at hsplit
        simpa [forwards, Stats.eventsOf] using hsplit.symm
      rw [hlog, getLast?_life, decide_eq_false_iff_not, if_neg (by simp), h.registry hswept,
        horderly.registeredIn_iff]
      exact ⟨fun hnot => ⟨hadded, hnot⟩, fun hboth => hboth.2⟩
    | true =>
      have hfinalize := eventsOf_pending hshape hswept id
      rw [if_pos rfl, hpending]
      rw [hlife, hswept, Bool.true_or] at hsplit
      -- The `Finalize` is either still pending or already forwarded.
      rcases hrest : Stats.eventsOf id (forwards monitor.pending) with _ | ⟨first, rest⟩
      · rw [hrest, List.append_nil] at hsplit
        rw [← hsplit, getLast?_life]
        simp
      · rw [hrest] at hsplit hfinalize
        obtain rfl := hfinalize first List.mem_cons_self
        have hlog : Stats.eventsOf id (forwards monitor.log) =
            life id name payload.isSome false := life_split hsplit
        rw [hlog, getLast?_life]
        simp
  · have hnone := h.unknown id hadded
    rw [hsplit, List.append_eq_nil_iff] at hnone
    rw [hnone.1, hpending, hnone.2]
    cases hswept : monitor.swept with
    | false =>
      rw [if_neg (by simp), h.registry hswept, horderly.registeredIn_iff]
      simp [hadded]
    | true => simp

/-- A forwarded `Finalize` finds its endpoint in the mirror. -/
theorem Follows.lookup_of_finalize {monitor : Monitor} (h : Follows monitor)
    {sent rest : List StatsEvent} {id : EndpointId}
    (hsplit : forwards monitor.log = sent ++ .finalize id :: rest) :
    ∃ entry, (Stats.replay sent).lookup id = some entry := by
  have hself : Stats.eventsOf id [.finalize id] = [.finalize id] :=
    eventsOf_self (.finalize id)
  have hscript : Stats.eventsOf id (forwards monitor.script) = Stats.eventsOf id sent ++
      .finalize id :: Stats.eventsOf id (rest ++ forwards monitor.pending) := by
    rw [script, forwards_append, hsplit, List.append_assoc, List.cons_append,
      Stats.eventsOf_append, ← List.singleton_append, Stats.eventsOf_append, hself,
      List.singleton_append]
  have hadded : id ∈ addedIn monitor.handled := by
    by_contra hnot
    simp [h.unknown id hnot] at hscript
  obtain ⟨name, payload, hregistration⟩ := exists_registration hadded
  rw [h.known id name payload hregistration] at hscript
  rw [← Option.isSome_iff_exists, Stats.lookup_replay_isSome, life_split hscript]
  exact ⟨name, payload.isSome, rfl⟩

/-- The final state is `idle` for an idle removal and `down` otherwise. -/
def EndedAs (handled : List Input) (id : EndpointId) (state : EndpointState) : Prop :=
  (state = .idle ∧ ∃ parentId, .event (.peerRemoved parentId id .idle) ∈ handled) ∨
    state = .down ∧ ∀ parentId, .event (.peerRemoved parentId id .idle) ∉ handled

/-- An endpoint is removed for one reason only. -/
theorem Orderly.removal_unique {inputs : List Input} (h : Orderly inputs)
    {parentId parentId' id : EndpointId} {reason reason' : PeerRemovalReason}
    (hmem : .event (.peerRemoved parentId id reason) ∈ inputs)
    (hmem' : .event (.peerRemoved parentId' id reason') ∈ inputs) : reason = reason' := by
  by_contra hne
  have hpairwise := List.pairwise_filterMap.mp h.removed
  have hdistinct : Input.event (.peerRemoved parentId id reason) ≠
      .event (.peerRemoved parentId' id reason') := by
    rintro ⟨⟩
    exact hne rfl
  have hsymm : Std.Symm fun first second : Input =>
      ∀ removed, first.removed? = some removed →
        ∀ removed', second.removed? = some removed' → removed ≠ removed' :=
    ⟨fun first second hfirst removed hremoved removed' hremoved' =>
      (hfirst removed' hremoved' removed hremoved).symm⟩
  exact hpairwise.forall hmem hmem' hdistinct id rfl id rfl rfl

/-- In an orderly run the stored state says how the endpoint ended. -/
private theorem FinalState.endedAs {handled : List Input} {swept : Bool} {id : EndpointId}
    {state : EndpointState} (h : FinalState handled swept id state) (horderly : Orderly handled) :
    EndedAs handled id state := by
  rcases h with ⟨parentId, reason, hmem, rfl⟩ | ⟨-, hremoved, rfl⟩
  · by_cases hidle : reason = .idle
    · subst hidle
      exact .inl ⟨rfl, parentId, hmem⟩
    · refine .inr ⟨?_, ?_⟩
      · cases reason with
        | idle => exact absurd rfl hidle
        | lruEvicted => rfl
        | disconnected => rfl
        | listenerShutdown => rfl
      · intro parentId' hmem'
        exact hidle (horderly.removal_unique hmem hmem')
  · refine .inr ⟨rfl, ?_⟩
    intro parentId hmem
    exact hremoved (List.mem_filterMap.mpr ⟨_, hmem, rfl⟩)

/-- Lifecycle as the stats task sees it, in every run whose ids are used in an orderly way and
in which no event was dropped for a full stats channel. -/
theorem stats_lifecycle (hrun : execute (step oneshot cfg)
    (start statsCapacity dedupMs dedupWindowCapacity ports) actions = some monitor)
    (horderly : Orderly monitor.handled) (hfull : monitor.dropped = []) :
    -- The mirror is the replay of what was received.
    monitor.stats.registry = Stats.replay monitor.received ∧
    -- Every prefix of the stream replays to the router's registry when it had been sent.
    (∀ sent, sent <+: monitor.stream → ∃ done rest earlier, actions = done ++ rest ∧
      execute (step oneshot cfg) (start statsCapacity dedupMs dedupWindowCapacity ports) done =
        some earlier ∧
      earlier.stream = sent ∧
      ∀ id, ((Stats.replay sent).lookup id).isSome ↔ earlier.Registered id) ∧
    -- Every `Finalize` finds its endpoint in the mirror and queues one synthetic line.
    (∀ sent id rest, monitor.stream = sent ++ .finalize id :: rest →
      ∃ entry, (Stats.replay sent).lookup id = some entry ∧
        ∀ (task : Stats.Task) (ports : Ports) (ts : String),
          task.registry = Stats.replay sent → cfg.enabled = true → 0 < cfg.queueCapacity →
          Stats.Task.QueuedSynthetic cfg.queueCapacity
            (Stats.buildLine entry.name (ports id).stats ts entry.routable) task.queue
            (task.handleEvent cfg ports ts (.finalize id)).queue) ∧
    -- The final state is stored right before the `Finalize`.
    StoredBefore (EndedAs monitor.handled) monitor.log ∧
    -- After the sweep every registered endpoint has had its whole life.
    (monitor.swept = true → monitor.pending = [] →
      (∀ id, (Stats.replay monitor.stream).lookup id = none) ∧
      (∀ id, id ∉ addedIn monitor.handled → Stats.eventsOf id monitor.stream = []) ∧
      ∀ id name payload, (id, name, payload) ∈ monitor.handled.filterMap registration? →
        Stats.eventsOf id monitor.stream =
          [.register id name payload.isSome, .finalize id]) := by
  have hcarries := carries hrun
  have hfollows := follows hrun horderly
  have hshape := pendingShape hrun
  have hstream := hcarries.stream hfull
  refine ⟨hcarries.mirror, ?_, ?_, ?_, ?_⟩
  · intro sent hsent
    rw [hstream] at hsent
    obtain ⟨earlier, hmoment⟩ := exists_moment hrun hsent
    obtain ⟨done, rest, hactions, hearlier⟩ := hmoment.reached
    have hearlierOrderly := horderly.of_prefix hmoment.handled
    have hdropped : earlier.dropped = [] := List.prefix_nil.mp (hfull ▸ hmoment.dropped)
    refine ⟨done, rest, earlier, hactions, hearlier, ?_, ?_⟩
    · rw [(carries hearlier).stream hdropped, hmoment.forwarded]
    · intro id
      rw [← hmoment.forwarded]
      exact (follows hearlier hearlierOrderly).replay_iff hearlierOrderly (pendingShape hearlier)
        hmoment.settled id
  · intro sent id rest hsplit
    rw [hstream] at hsplit
    obtain ⟨entry, hentry⟩ := hfollows.lookup_of_finalize hsplit
    refine ⟨entry, hentry, ?_⟩
    intro task ports ts hregistry henabled hcapacity
    rw [← hregistry] at hentry
    exact Stats.Task.handleEvent_finalize_queues henabled hcapacity hentry ports ts
  · have hstored := hfollows.stored
    rw [script] at hstored
    exact hstored.of_append_left.mono fun id state hfinal => hfinal.endedAs horderly
  · intro hswept hpending
    have hscript : monitor.script = monitor.log := by rw [script, hpending, List.append_nil]
    refine ⟨?_, ?_, ?_⟩
    · intro id
      have hreplay := hfollows.replay_iff horderly hshape (fun _ => hpending) id
      rw [Registered, if_pos hswept, hpending, ← hstream] at hreplay
      simpa using hreplay
    · intro id hid
      rw [hstream, ← hscript]
      exact hfollows.unknown id hid
    · intro id name payload hmem
      rw [hstream, ← hscript, hfollows.known id name payload hmem, hswept]
      rfl

/-- A peer that goes idle and an endpoint that is taken down by the sweep. -/
theorem stats_lifecycle_peer :
    let cfg : Stats.StatsRunConfig := ⟨true, Stats.defaultStatsQueueLines⟩
    let ports : Ports := fun _ => ⟨{}, .new 4⟩
    let visit : Visit := .inOrder
    let actions : List Action :=
      [.event (.endpointAdded ⟨0⟩ "ground" (some ⟨{}, "ground"⟩)), .perform,
        .event (.peerAdded ⟨2⟩ ⟨1⟩ "peer" ⟨{}, "listener"⟩), .receive "t0", .perform,
        .event (.peerRemoved ⟨2⟩ ⟨1⟩ .idle), .perform, .perform, .receive "t1",
        .sweep visit, .perform, .perform]
    ∃ monitor, execute (step (fun _ => 0) cfg) (start 4 0 4 ports) actions = some monitor ∧
      Orderly monitor.handled ∧ monitor.dropped = [] ∧
      StoredBefore (EndedAs monitor.handled) monitor.log ∧
      (∀ id, (Stats.replay monitor.stream).lookup id = none) ∧
      Stats.eventsOf ⟨1⟩ monitor.stream = [.register ⟨1⟩ "peer" true, .finalize ⟨1⟩] := by
  intro cfg ports visit actions
  have hsome : (execute (step (fun _ => 0) cfg) (start 4 0 4 ports) actions).isSome = true := rfl
  have hrun := (Option.some_get hsome).symm
  have hhandled : (Option.get _ hsome).handled =
      [.event (.endpointAdded ⟨0⟩ "ground" (some ⟨{}, "ground"⟩)),
        .event (.peerAdded ⟨2⟩ ⟨1⟩ "peer" ⟨{}, "listener"⟩),
        .event (.peerRemoved ⟨2⟩ ⟨1⟩ .idle)] := rfl
  have horderly : Orderly (Option.get _ hsome).handled := by
    rw [hhandled]
    refine ⟨by decide, by decide, ?_⟩
    intro before input after id hsplit hremoved
    rcases before with _ | ⟨first, _ | ⟨second, _ | ⟨third, before⟩⟩⟩
    · obtain ⟨rfl, -⟩ := List.cons.inj hsplit
      cases hremoved
    · obtain ⟨-, hsplit⟩ := List.cons.inj hsplit
      obtain ⟨rfl, -⟩ := List.cons.inj hsplit
      cases hremoved
    · obtain ⟨hfirst, hsplit⟩ := List.cons.inj hsplit
      obtain ⟨hsecond, hsplit⟩ := List.cons.inj hsplit
      obtain ⟨hthird, -⟩ := List.cons.inj hsplit
      rw [← hthird] at hremoved
      rw [← hfirst, ← hsecond, ← Option.some.inj hremoved]
      decide
    · simp at hsplit
  obtain ⟨-, -, -, hstored, hend⟩ := stats_lifecycle hrun horderly rfl
  obtain ⟨hempty, -, hlives⟩ := hend rfl rfl
  exact ⟨_, hrun, horderly, rfl, hstored, hempty,
    hlives ⟨1⟩ "peer" (some ⟨{}, "listener"⟩) (by rw [hhandled]; decide)⟩

end Monitor

end MavlinkRouter
