import MavlinkRouter.Router.Dedup
import MavlinkRouter.Router.Learned

/-!
# Copies of one frame

Redundant links deliver copies of a frame through several endpoints. The dedup window knows
them by their hash. With the window on, a frame is dispatched if none with its hash has been
dispatched within the window, and otherwise leaves no trace but a count, whichever endpoint it
comes from and whatever has happened in between.
-/

namespace MavlinkRouter

/-- What the dedup window has been asked, and what it has answered, at this moment. Frames of
endpoints that cannot send are not checked. -/
def Moment.checked? (oneshot : List UInt8 → UInt64) (moment : Moment) : Option Checked :=
  match moment.input with
  | .event _ => none
  | .frame _ routerFrame now =>
    (moment.hub.router.routable? routerFrame.endpointId).map fun _ =>
      ⟨routerFrame.frame, now,
        (moment.hub.router.dedup.checkAndInsert oneshot routerFrame.frame now).1⟩
  | .own _ _ => none
  | .statsTask _ => none

/-- The checks of a run, in order. -/
def Hub.checks (oneshot : List UInt8 → UInt64) (hub : Hub) (inputs : List Input) :
    List Checked :=
  (hub.moments oneshot inputs).filterMap (Moment.checked? oneshot)

/-- The frames of a sequence of inputs are handled at times that never decrease. -/
def TimesOrdered (inputs : List Input) : Prop :=
  (inputs.filterMap Input.time?).Pairwise (· ≤ ·)

namespace Router

variable {router : Router} {oneshot : List UInt8 → UInt64} {routerFrame : RouterFrame}
  {now : Instant}

/-- Events leave the dedup window alone. -/
theorem dedup_handleEvent (router : Router) (event : EndpointEvent) :
    (router.handleEvent event).1.dedup = router.dedup := by
  cases event with
  | endpointAdded id name routable =>
    have hregistration : (EndpointEvent.endpointAdded id name routable).registration? =
      some (id, name, routable) := rfl
    exact (handleEvent_registers router hregistration).dedup
  | peerAdded parentId childId name routable =>
    have hregistration : (EndpointEvent.peerAdded parentId childId name routable).registration? =
      some (childId, name, some routable) := rfl
    exact (handleEvent_registers router hregistration).dedup
  | peerRemoved parentId childId reason =>
    cases hentry : router.routing.lookup childId with
    | none => exact (handleEvent_unchanged parentId reason hentry).dedup
    | some entry => exact (handleEvent_unregisters parentId reason hentry).dedup

/-- A frame is checked if its endpoint can send. -/
theorem Ingests.dedup_eq {result : SourceAdmission × Router × List Effect}
    (h : Ingests oneshot router routerFrame now result) :
    result.2.1.dedup =
      (router.routable? routerFrame.endpointId).elim router.dedup fun _ =>
        (router.dedup.checkAndInsert oneshot routerFrame.frame now).2 := by
  cases h with
  | unknown hentry => simp [routable?, hentry]
  | notRoutable hentry hroutable => simp [routable?, hentry, hroutable]
  | duplicate hentry hroutable hdedup => simp [routable?, hentry, hroutable, hdedup]
  | groupMissing hentry hroutable hdedup => simp [routable?, hentry, hroutable, hdedup]
  | learnedInGroup hentry hroutable hdedup => simp [routable?, hentry, hroutable, hdedup]
  | learned hentry hroutable hdedup => simp [routable?, hentry, hroutable, hdedup]

/-- A duplicate from an endpoint that can send is counted there and does nothing else. -/
theorem handleFrame_of_duplicate (visit : Visit) {state : RoutableState}
    (hstate : router.routable? routerFrame.endpointId = some state)
    (hdedup : (router.dedup.checkAndInsert oneshot routerFrame.frame now).1 = true) :
    (router.handleFrame oneshot visit routerFrame now).2 =
      [⟨routerFrame.endpointId, .addDedupDrop⟩] := by
  obtain ⟨entry, hentry, hroutable⟩ := routable?_eq_some.mp hstate
  obtain ⟨dedup, hcheck⟩ : ∃ dedup,
      router.dedup.checkAndInsert oneshot routerFrame.frame now = (true, dedup) :=
    ⟨_, Prod.ext hdedup rfl⟩
  rw [handleFrame, (Ingests.duplicate hentry hroutable hcheck).eq]

end Router

namespace Hub

variable {oneshot : List UInt8 → UInt64} {statsEvents : Library.Channel StatsEvent}
  {dedupMs : UInt64} {dedupWindowCapacity : ℕ} {ports : Ports}

/-- The checks after one more input. -/
theorem checks_snoc (hub : Hub) (inputs : List Input) (input : Input) :
    hub.checks oneshot (inputs ++ [input]) = hub.checks oneshot inputs ++
      (Moment.checked? oneshot ⟨hub.run oneshot inputs, input⟩).toList := by
  rw [checks, moments_snoc, List.filterMap_append]
  cases hchecked : Moment.checked? oneshot ⟨hub.run oneshot inputs, input⟩ <;>
    simp [checks, hchecked]

/-- An input is checked, and moves the window, or it is not and leaves the window alone. -/
theorem checked_cases (oneshot : List UInt8 → UInt64) (hub : Hub) (input : Input) :
    (Moment.checked? oneshot ⟨hub, input⟩ = none ∧
      (hub.step oneshot input).router.dedup = hub.router.dedup) ∨
    ∃ frame now, input.time? = some now ∧
      Moment.checked? oneshot ⟨hub, input⟩ =
        some ⟨frame, now, (hub.router.dedup.checkAndInsert oneshot frame now).1⟩ ∧
      (hub.step oneshot input).router.dedup =
        (hub.router.dedup.checkAndInsert oneshot frame now).2 := by
  cases input with
  | event event => exact .inl ⟨rfl, Router.dedup_handleEvent _ event⟩
  | own id update => exact .inl ⟨rfl, rfl⟩
  | statsTask update => exact .inl ⟨rfl, rfl⟩
  | frame visit routerFrame now =>
    have hchecked : Moment.checked? oneshot ⟨hub, .frame visit routerFrame now⟩ =
        (hub.router.routable? routerFrame.endpointId).map fun _ =>
          ⟨routerFrame.frame, now,
            (hub.router.dedup.checkAndInsert oneshot routerFrame.frame now).1⟩ := rfl
    have hdedup : (hub.step oneshot (.frame visit routerFrame now)).router.dedup = _ :=
      (congrArg Router.dedup (Router.handleFrame_fst oneshot visit _ routerFrame now)).trans
        (Router.ingestSourceFrame_ingests oneshot _ routerFrame now).dedup_eq
    cases hstate : hub.router.routable? routerFrame.endpointId with
    | none =>
      rw [hstate] at hchecked hdedup
      exact .inl ⟨hchecked, hdedup⟩
    | some state =>
      rw [hstate] at hchecked hdedup
      exact .inr ⟨routerFrame.frame, now, rfl, hchecked, hdedup⟩

/-- The dedup window of a router is the one that its checks lead to. -/
theorem dedup_run (oneshot : List UInt8 → UInt64) (statsEvents : Library.Channel StatsEvent)
    (dedupMs : UInt64) (dedupWindowCapacity : ℕ) (ports : Ports) (inputs : List Input) :
    let start := Hub.start statsEvents dedupMs dedupWindowCapacity ports
    DedupRun.checkAll oneshot (durationFromMillis dedupMs) dedupWindowCapacity
        ((start.checks oneshot inputs).map fun call => (call.frame, call.now)) =
      ⟨(start.run oneshot inputs).router.dedup, start.checks oneshot inputs⟩ := by
  intro start
  induction inputs using List.reverseRecOn with
  | nil => rfl
  | append_singleton inputs input ih =>
    rw [checks_snoc, run_snoc]
    rcases checked_cases oneshot (start.run oneshot inputs) input with
      ⟨hnone, hdedup⟩ | ⟨frame, now, -, hsome, hdedup⟩
    · rw [hnone, hdedup, Option.toList_none, List.append_nil, ih]
    · rw [hsome, hdedup, Option.toList_some, List.map_append, List.map_singleton,
        DedupRun.checkAll_snoc, ih]
      rfl

/-- The times of the checks are among those of the inputs, in order. -/
theorem times_checks (oneshot : List UInt8 → UInt64) (hub : Hub) (inputs : List Input) :
    ((hub.checks oneshot inputs).map Checked.now).Sublist (inputs.filterMap Input.time?) := by
  induction inputs using List.reverseRecOn with
  | nil => exact List.Sublist.slnil
  | append_singleton inputs input ih =>
    rw [checks_snoc, List.map_append, List.filterMap_append]
    refine ih.append ?_
    rcases checked_cases oneshot (hub.run oneshot inputs) input with
      ⟨hnone, -⟩ | ⟨frame, now, htime, hsome, -⟩
    · rw [hnone]
      exact List.nil_sublist _
    · rw [hsome]
      simp [htime]

end Hub

section

variable {oneshot : List UInt8 → UInt64} {statsEvents : Library.Channel StatsEvent}
  {dedupMs : UInt64} {dedupWindowCapacity : ℕ} {ports : Ports} {inputs : List Input}
  {visit : Visit} {routerFrame : RouterFrame} {now : Instant} {state : RoutableState}

/-- Whether the next frame is a duplicate, in terms of the checks so far. -/
theorem duplicate_iff (hdedup : 0 < dedupMs)
    (htimes : TimesOrdered (inputs ++ [.frame visit routerFrame now])) :
    let start := Hub.start statsEvents dedupMs dedupWindowCapacity ports
    ((start.run oneshot inputs).router.dedup.checkAndInsert oneshot routerFrame.frame now).1 =
        true ↔
      DedupRun.HeldBy oneshot (durationFromMillis dedupMs) (max dedupWindowCapacity 1)
        (start.checks oneshot inputs) (oneshot routerFrame.frame.data) now := by
  intro start
  have hrun := Hub.dedup_run oneshot statsEvents dedupMs dedupWindowCapacity ports inputs
  have hsublist := Hub.times_checks oneshot start inputs
  rw [TimesOrdered, List.filterMap_append, List.pairwise_append] at htimes
  obtain ⟨hordered, -, hlast⟩ := htimes
  have hcalls : ((start.checks oneshot inputs).map fun call => (call.frame, call.now)).Pairwise
      (·.2 ≤ ·.2) :=
    List.pairwise_map.mpr (List.pairwise_map.mp (hordered.sublist hsublist))
  have hnow : ∀ call ∈ (start.checks oneshot inputs).map fun call => (call.frame, call.now),
      call.2 ≤ now := by
    intro call hcall
    obtain ⟨checked, hchecked, rfl⟩ := List.mem_map.mp hcall
    exact hlast _ (hsublist.subset (List.mem_map_of_mem hchecked)) now
      (List.mem_singleton_self now)
  have httl : 0 < durationFromMillis dedupMs :=
    Nat.mul_pos (UInt64.lt_iff_toNat_lt.mp hdedup) (by decide)
  have htracks := DedupRun.tracks_checkAll oneshot httl dedupWindowCapacity hcalls hnow
  rw [hrun] at htracks
  exact htracks.duplicate_iff httl routerFrame.frame

/-- Redundancy: in every run with the dedup window on, a frame of an endpoint that can send is
dispatched, unless a frame with the same hash has been dispatched less than the window ago, from
whichever endpoint, and fewer frames since than the window has room for; then it is only
counted. -/
theorem dispatched_once_per_hash (hids : NoReuse inputs) (hdedup : 0 < dedupMs)
    (htimes : TimesOrdered (inputs ++ [.frame visit routerFrame now])) :
    let start := Hub.start statsEvents dedupMs dedupWindowCapacity ports
    let hub := start.run oneshot inputs
    let result := hub.router.handleFrame oneshot visit routerFrame now
    let held := DedupRun.HeldBy oneshot (durationFromMillis dedupMs) (max dedupWindowCapacity 1)
      (start.checks oneshot inputs) (oneshot routerFrame.frame.data) now
    ∀ state, hub.router.routable? routerFrame.endpointId = some state →
      (held → result.2 = [⟨routerFrame.endpointId, .addDedupDrop⟩]) ∧
      (¬ held → ∀ dest, Router.Outcome hub.router result.1 routerFrame state.endpointName dest
        (accessesTo dest result.2)) := by
  intro start hub result held state hstate
  have hduplicate : (hub.router.dedup.checkAndInsert oneshot routerFrame.frame now).1 = true ↔
      held := duplicate_iff hdedup htimes
  refine ⟨fun hheld => ?_, fun hnone dest => ?_⟩
  · exact Router.handleFrame_of_duplicate visit hstate (hduplicate.mpr hheld)
  · have hcounted : hub.router.GroupsCounted :=
      (accounted_run oneshot statsEvents dedupMs dedupWindowCapacity ports hids).groups
    have hnew : (hub.router.dedup.checkAndInsert oneshot routerFrame.frame now).1 = false :=
      Bool.eq_false_of_not_eq_true (hduplicate.not.mpr hnone)
    exact Router.handleFrame_outcome visit dest (hcounted.ingest_admitted hstate hnew)

/-- One frame through both legs of an uplink, a millisecond apart: the second copy is counted at
the second leg and goes nowhere. -/
theorem dispatched_once_per_hash_uplink :
    let visit : Visit := .inOrder
    let copy : EndpointId → RouterFrame := fun id =>
      ⟨id, ⟨[0xFE, 0, 7, 1, 1, 0, 0, 0], id, 0⟩, ⟨.v1, ⟨1, 1⟩, 0, 7, 0, none, none⟩⟩
    let inputs : List Input :=
      [.event (.endpointAdded ⟨0⟩ "wifi" (some ⟨{ group := some "uplink" }, "wifi"⟩)),
        .event (.endpointAdded ⟨1⟩ "lte" (some ⟨{ group := some "uplink" }, "lte"⟩)),
        .event (.endpointAdded ⟨2⟩ "fc" (some ⟨{}, "fc"⟩)),
        .frame visit (copy ⟨0⟩) 0]
    let start := Hub.start (.new 64) 100 4096 fun _ => ⟨{}, .new 8⟩
    NoReuse inputs ∧ TimesOrdered (inputs ++ [.frame visit (copy ⟨1⟩) 1000000]) ∧
      ((start.run (fun _ => 0) inputs).router.handleFrame (fun _ => 0) visit (copy ⟨1⟩)
        1000000).2 = [⟨⟨1⟩, .addDedupDrop⟩] := by
  intro visit copy inputs start
  have hids : NoReuse inputs := by
    unfold NoReuse
    decide
  have htimes : TimesOrdered (inputs ++ [.frame visit (copy ⟨1⟩) 1000000]) := by
    unfold TimesOrdered
    decide
  refine ⟨hids, htimes, ?_⟩
  refine (dispatched_once_per_hash hids (by decide) htimes _ rfl).1 ?_
  exact ⟨[], ⟨⟨[0xFE, 0, 7, 1, 1, 0, 0, 0], ⟨0⟩, 0⟩, 0, false⟩, [], rfl, rfl, rfl, by decide,
    by decide⟩

end

end MavlinkRouter
