import MavlinkRouter.Library.Execution

/-!
# Fair runs

A system of actors takes steps one after the other, and steps of its surroundings may come in
between. If every step of an actor lowers a rank in a well-founded order, the surroundings
leave the rank as it is, and until the end some actor can go on and stays able to, then
every fair run comes to an end.
-/

namespace Library

variable {σ τ ρ α : Type*}

/-- Actors `τ` that act on states `σ`, and what may happen around them. -/
structure Actors (σ τ : Type*) where
  acts : τ → σ → σ → Prop
  around : σ → σ → Prop

namespace Actors

variable {actors : Actors σ τ} {run : ℕ → σ}

def Enabled (actors : Actors σ τ) (actor : τ) (state : σ) : Prop :=
  ∃ next, actors.acts actor state next

/-- A run takes a step at a time, or nothing happens. -/
def IsRun (actors : Actors σ τ) (run : ℕ → σ) : Prop :=
  ∀ n, (∃ actor, actors.acts actor (run n) (run (n + 1))) ∨ actors.around (run n) (run (n + 1)) ∨
    run (n + 1) = run n

/-- Weak fairness: no actor is enabled for ever without acting. -/
def Fair (actors : Actors σ τ) (run : ℕ → σ) : Prop :=
  ∀ actor n, ∃ m ≥ n, ¬ actors.Enabled actor (run m) ∨ actors.acts actor (run m) (run (m + 1))

/-- What every step keeps holds all along a run. -/
theorem IsRun.invariant (hrun : actors.IsRun run) {motive : σ → Prop} (hstart : motive (run 0))
    (hacts : ∀ {actor state next}, motive state → actors.acts actor state next → motive next)
    (haround : ∀ {state next}, motive state → actors.around state next → motive next) (n : ℕ) :
    motive (run n) := by
  induction n with
  | zero => exact hstart
  | succ n ih =>
    rcases hrun n with ⟨actor, hact⟩ | hsurroundings | hsame
    · exact hacts ih hact
    · exact haround ih hsurroundings
    · rw [hsame]
      exact ih

/-- Why the runs from good states end: a rank, and for every state that is not final an actor
that is ready, which means that it is enabled for as long as no actor acts. -/
structure Terminates [Preorder ρ] (actors : Actors σ τ) (good final : σ → Prop)
    (rank : σ → ρ) (ready : τ → σ → Prop) : Prop where
  good_acts : ∀ {actor state next}, good state → actors.acts actor state next → good next
  good_around : ∀ {state next}, good state → actors.around state next → good next
  rank_acts : ∀ {actor state next}, good state → actors.acts actor state next →
    rank next < rank state
  rank_around : ∀ {state next}, actors.around state next → rank next = rank state
  exists_ready : ∀ {state}, good state → ¬ final state → ∃ actor, ready actor state
  enabled : ∀ {actor state}, good state → ready actor state → actors.Enabled actor state
  ready_around : ∀ {actor state next}, ready actor state → actors.around state next →
    ready actor next

/-- Every fair run from a good state reaches a final one. -/
theorem Terminates.exists_final [Preorder ρ] [WellFoundedLT ρ] {good final : σ → Prop}
    {rank : σ → ρ} {ready : τ → σ → Prop} (h : Terminates actors good final rank ready)
    (hrun : actors.IsRun run) (hfair : actors.Fair run) (hgood : good (run 0)) :
    ∃ n, final (run n) := by
  have hall : ∀ n, good (run n) := hrun.invariant hgood h.good_acts h.good_around
  -- At a moment of least rank no actor acts any more.
  obtain ⟨n, hleast⟩ : ∃ n, ∀ m, ¬ rank (run m) < rank (run n) := by
    obtain ⟨-, ⟨n, rfl⟩, hmin⟩ :=
      wellFounded_lt.has_min (Set.range fun n => rank (run n)) (Set.range_nonempty _)
    exact ⟨n, fun m => hmin _ ⟨m, rfl⟩⟩
  refine ⟨n, by_contra fun hfinal => ?_⟩
  obtain ⟨actor, hready⟩ := h.exists_ready (hall n) hfinal
  have hstays : ∀ k, rank (run (n + k)) = rank (run n) ∧ ready actor (run (n + k)) := by
    intro k
    induction k with
    | zero => exact ⟨rfl, hready⟩
    | succ k ih =>
      obtain ⟨hrank, hstill⟩ := ih
      rcases hrun (n + k) with ⟨other, hact⟩ | hsurroundings | hsame
      · exact absurd (hrank ▸ h.rank_acts (hall _) hact) (hleast _)
      · exact ⟨(h.rank_around hsurroundings).trans hrank, h.ready_around hstill hsurroundings⟩
      · rw [← Nat.add_assoc, hsame]
        exact ⟨hrank, hstill⟩
  obtain ⟨m, hm, hdisabled | hact⟩ := hfair actor n
  · obtain ⟨k, rfl⟩ := Nat.exists_eq_add_of_le hm
    exact hdisabled (h.enabled (hall _) (hstays k).2)
  · obtain ⟨k, rfl⟩ := Nat.exists_eq_add_of_le hm
    exact hleast _ ((hstays k).1 ▸ h.rank_acts (hall _) hact)

section Step

variable {step : σ → α → Option σ} {actor? : α → Option τ} {start final : σ} {actions : List α}

/-- The actors of a step function whose actions may belong to one. -/
def ofStep (step : σ → α → Option σ) (actor? : α → Option τ) : Actors σ τ where
  acts := fun actor state next =>
    ∃ action, actor? action = some actor ∧ step state action = some next
  around := fun state next => ∃ action, actor? action = none ∧ step state action = some next

/-- The states of an execution, with the last one for ever. -/
def replay (step : σ → α → Option σ) (start : σ) (actions : List α) (n : ℕ) : σ :=
  (execute step start (actions.take n)).getD start

private theorem execute_take (h : execute step start actions = some final) (n : ℕ) :
    execute step start (actions.take n) = some (replay step start actions n) := by
  rw [← List.take_append_drop n actions, execute, List.foldlM_append] at h
  obtain ⟨state, hstate, -⟩ := Option.bind_eq_some_iff.mp h
  have htake : execute step start (actions.take n) = some state := hstate
  rw [replay, htake, Option.getD_some]

/-- Every execution is the beginning of a run. -/
theorem isRun_replay (h : execute step start actions = some final) :
    (ofStep step actor?).IsRun (replay step start actions) := by
  intro n
  rcases Nat.lt_or_ge n actions.length with hlt | hge
  · have hnext := execute_take h (n + 1)
    rw [List.take_succ_eq_append_getElem hlt, execute_snoc] at hnext
    obtain ⟨before, hbefore, hstep⟩ := hnext
    obtain rfl := Option.some.inj ((execute_take h n).symm.trans hbefore)
    cases hactor : actor? actions[n] with
    | none => exact .inr (.inl ⟨_, hactor, hstep⟩)
    | some actor => exact .inl ⟨actor, _, hactor, hstep⟩
  · refine .inr (.inr ?_)
    rw [replay, replay, List.take_of_length_le hge, List.take_of_length_le (Nat.le_succ_of_le hge)]

/-- An execution after which no actor is enabled is a fair run. -/
theorem fair_replay (h : execute step start actions = some final)
    (hdisabled : ∀ actor, ¬ (ofStep step actor?).Enabled actor final) :
    (ofStep step actor?).Fair (replay step start actions) := by
  intro actor n
  refine ⟨max n actions.length, le_max_left _ _, .inl ?_⟩
  have hlast := execute_take h (max n actions.length)
  rw [List.take_of_length_le (le_max_right _ _), h] at hlast
  rw [← Option.some.inj hlast]
  exact hdisabled actor

end Step

end Actors

end Library
