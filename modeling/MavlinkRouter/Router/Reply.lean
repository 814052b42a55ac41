import MavlinkRouter.Router.Learned

/-!
# Where a frame goes, by what has been heard where

Nobody configures which systems are behind an endpoint; the router finds out by listening. A
frame that names a target goes exactly to the endpoints at which the target is among the
sources heard most recently, so that an answer finds its way back to where the question came
from, and nowhere else.
-/

namespace MavlinkRouter

/-- The target of a frame, if it names one, is among the sources heard most recently. -/
def TargetHeard (header : ParsedHeader) (history : List NodeId) : Prop :=
  ∀ sys, header.targetSystem = some sys → sys ≠ 0 →
    (header.targetComponent = none ∨ header.targetComponent = some 0 →
      ∃ node, Library.MostRecent learnCapacity history node ∧ node.sys = sys) ∧
    ∀ comp, header.targetComponent = some comp → comp ≠ 0 →
      Library.MostRecent learnCapacity history ⟨sys, comp⟩

/-- A table of the most recent sources knows a target exactly if it has been heard. -/
theorem targetKnown_iff_heard {header : ParsedHeader} {nodes history : List NodeId}
    (hnodes : ∀ node, node ∈ nodes ↔ Library.MostRecent learnCapacity history node) :
    TargetKnown header nodes ↔ TargetHeard header history := by
  unfold TargetKnown TargetHeard
  simp only [hnodes]

/-- What passes for an endpoint, by what has been heard there. -/
def Passes (routerFrame : RouterFrame) (srcEndpointName : String) (identity : IdentityFlags)
    (history : List NodeId) : Prop :=
  identity.sniffer = true ∨
    ¬ Library.MostRecent learnCapacity history routerFrame.header.source ∧
    identity.filters.passesOutFilter routerFrame.header.msgid routerFrame.header.source
      srcEndpointName = true ∧
    TargetHeard routerFrame.header history

section

variable {inputs : List Input} {visit : Visit} {routerFrame : RouterFrame} {now : Instant}

/-- Delivery by history: in every run with increasing frame times a frame that is dispatched
reaches another endpoint, once, exactly if the endpoint is a sniffer, or the sources heard there
most recently include the frame's target and not its own source, and its out-filter lets the
frame pass. -/
theorem delivery_by_history (oneshot : List UInt8 → UInt64)
    (statsEvents : Library.Channel StatsEvent) (dedupMs : UInt64) (dedupWindowCapacity : ℕ)
    (ports : Ports) (hids : NoReuse inputs)
    (htimes : TimesIncrease (inputs ++ [.frame visit routerFrame now])) :
    let start := Hub.start statsEvents dedupMs dedupWindowCapacity ports
    let hub := start.run oneshot inputs
    let moments := start.moments oneshot (inputs ++ [.frame visit routerFrame now])
    ∀ src, hub.router.routable? routerFrame.endpointId = some src →
      (hub.router.dedup.checkAndInsert oneshot routerFrame.frame now).1 = false →
      ∀ dest state, hub.router.routable? dest = some state → dest ≠ routerFrame.endpointId →
        let pushed := pushesTo dest (hub.router.handleFrame oneshot visit routerFrame now).2
        let passes := Passes routerFrame src.endpointName state.identity
          (heard oneshot dest state.identity.group moments)
        (passes → pushed = [routerFrame.frame]) ∧ (¬ passes → pushed = []) := by
  intro start hub moments src hsrc hdedup dest state hstate hother pushed passes
  have hcounted : hub.router.GroupsCounted :=
    (accounted_run oneshot statsEvents dedupMs dedupWindowCapacity ports hids).groups
  have hremembers : Remembers oneshot (start.moments oneshot inputs) _ hub.router :=
    remembers_run oneshot statsEvents dedupMs dedupWindowCapacity ports hids htimes.of_append
  have hingests := hub.router.ingestSourceFrame_ingests oneshot routerFrame now
  -- The learn table that decides is the one after the source has been learned.
  have hafter : (hub.router.ingestSourceFrame oneshot routerFrame now).2.1.routable? dest =
      some state := by
    rw [Router.routable?, hingests.lookup_of_ne hother]
    exact hstate
  have hlearned : Remembers oneshot
      (start.moments oneshot inputs ++ [⟨hub, .frame visit routerFrame now⟩]) _ _ :=
    hremembers.ingests hcounted htimes.later hingests
  rw [← Hub.moments_snoc] at hlearned
  obtain ⟨table, htable, hnodes⟩ :=
    hlearned.effectiveLearn (hcounted.ingests hingests) hafter
  rw [← Router.handleFrame_fst oneshot visit] at htable
  have hreceives : Router.Receives hub.router
      (hub.router.handleFrame oneshot visit routerFrame now).1 routerFrame src.endpointName dest ↔
        passes := by
    rw [Router.receives_iff src.endpointName hother hstate htable, decide_eq_admitted, hnodes,
      targetKnown_iff_heard hnodes]
    rfl
  have houtcome : Router.Outcome hub.router _ routerFrame src.endpointName dest _ :=
    Router.handleFrame_outcome visit dest (hcounted.ingest_admitted hsrc hdedup)
  refine ⟨fun hpasses => ?_, fun hnot => ?_⟩
  · change List.filterMap _ _ = _
    rw [houtcome.of_receives (hreceives.mpr hpasses)]
    rfl
  · exact (houtcome.queue_of_not_receives (hreceives.not.mpr hnot) (hub.ports dest)).1

/-- A ground station is heard; an answer to it from the vehicle goes to its endpoint and not to
the camera's. -/
theorem delivery_by_history_answer :
    let visit : Visit := .inOrder
    let question : RouterFrame :=
      ⟨⟨0⟩, ⟨[0xFE, 0, 7, 255, 190, 0, 0, 0], ⟨0⟩, 0⟩, ⟨.v1, ⟨255, 190⟩, 0, 7, 0, none, none⟩⟩
    let answer : RouterFrame :=
      ⟨⟨1⟩, ⟨[0xFE, 2, 7, 1, 1, 77, 255, 190, 0, 0], ⟨1⟩, 0⟩,
        ⟨.v1, ⟨1, 1⟩, 77, 7, 2, some 255, some 190⟩⟩
    let inputs : List Input :=
      [.event (.endpointAdded ⟨0⟩ "ground" (some ⟨{}, "ground"⟩)),
        .event (.endpointAdded ⟨1⟩ "vehicle" (some ⟨{}, "vehicle"⟩)),
        .event (.endpointAdded ⟨2⟩ "camera" (some ⟨{}, "camera"⟩)),
        .frame visit question 1]
    let hub := (Hub.start (.new 64) 0 16 fun _ => ⟨{}, .new 8⟩).run (fun _ => 0) inputs
    NoReuse inputs ∧ TimesIncrease (inputs ++ [.frame visit answer 2]) ∧
      pushesTo ⟨0⟩ (hub.router.handleFrame (fun _ => 0) visit answer 2).2 = [answer.frame] ∧
      pushesTo ⟨2⟩ (hub.router.handleFrame (fun _ => 0) visit answer 2).2 = [] := by
  intro visit question answer inputs hub
  have hids : NoReuse inputs := by
    unfold NoReuse
    decide
  have htimes : TimesIncrease (inputs ++ [.frame visit answer 2]) := by
    unfold TimesIncrease
    decide
  have hdelivery := delivery_by_history (fun _ => 0) (.new 64) 0 16 (fun _ => ⟨{}, .new 8⟩) hids
    htimes _ rfl rfl
  have hground : Library.MostRecent learnCapacity [(⟨255, 190⟩ : NodeId)] ⟨255, 190⟩ :=
    ⟨[], [], rfl, List.not_mem_nil, by decide⟩
  refine ⟨hids, htimes, (hdelivery ⟨0⟩ _ rfl (by decide)).1 (.inr ⟨?_, rfl, ?_⟩),
    (hdelivery ⟨2⟩ _ rfl (by decide)).2 ?_⟩
  · rintro ⟨older, newer, hsplit, -, -⟩
    have hmem : (⟨1, 1⟩ : NodeId) ∈ [(⟨255, 190⟩ : NodeId)] := by
      rw [show [(⟨255, 190⟩ : NodeId)] = older ++ ⟨1, 1⟩ :: newer from hsplit]
      simp
    revert hmem
    decide
  · rintro sys ⟨⟩ -
    refine ⟨fun hnone => ?_, ?_⟩
    · rcases hnone with hnone | hnone <;> cases hnone
    · rintro comp ⟨⟩ -
      exact hground
  · rintro (hsniffer | ⟨-, -, hheard⟩)
    · cases hsniffer
    · obtain ⟨older, newer, hsplit, -⟩ := (hheard 255 rfl (by decide)).2 190 rfl (by decide)
      have hempty : [] = older ++ (⟨255, 190⟩ : NodeId) :: newer := hsplit
      simp at hempty

end

end MavlinkRouter
