import Mathlib

/-!
# Executions of a partial step function

A system takes one action at a time, and an action that is not enabled in a state has no
successor. What holds at the start and is kept by every enabled action holds after every
execution.
-/

namespace Library

variable {σ α : Type*} {step : σ → α → Option σ}

/-- Take the actions one after the other. -/
def execute (step : σ → α → Option σ) (start : σ) (actions : List α) : Option σ :=
  actions.foldlM step start

/-- The last action of an execution is enabled in the state its other actions lead to. -/
theorem execute_snoc {start state : σ} {actions : List α} {action : α} :
    execute step start (actions ++ [action]) = some state ↔
      ∃ before, execute step start actions = some before ∧ step before action = some state := by
  simp [execute, List.foldlM_append, Option.bind_eq_some_iff]

/-- The first action of an execution is enabled at its start. -/
theorem execute_cons {start state : σ} {action : α} {actions : List α} :
    execute step start (action :: actions) = some state ↔
      ∃ next, step start action = some next ∧ execute step next actions = some state := by
  simp [execute, Option.bind_eq_some_iff]

/-- Induction along an execution, for facts about a state and the actions that led to it. -/
theorem execute_induction {start : σ} {motive : List α → σ → Prop} (hstart : motive [] start)
    (hstep : ∀ {actions before action after}, motive actions before →
      step before action = some after → motive (actions ++ [action]) after)
    {actions : List α} {state : σ} (h : execute step start actions = some state) :
    motive actions state := by
  induction actions using List.reverseRecOn generalizing state with
  | nil =>
    obtain rfl := Option.some.inj h
    exact hstart
  | append_singleton actions action ih =>
    obtain ⟨before, hbefore, hlast⟩ := execute_snoc.mp h
    exact hstep (ih hbefore) hlast

/-- What holds at the start and is kept by every enabled action holds along executions. -/
theorem execute_invariant {start : σ} {motive : σ → Prop} (hstart : motive start)
    (hstep : ∀ {before action after}, motive before → step before action = some after →
      motive after)
    {actions : List α} {state : σ} (h : execute step start actions = some state) :
    motive state :=
  execute_induction (motive := fun _ reached => motive reached) hstart hstep h

/-- Every action is good in the state in which it is taken. -/
def Along (step : σ → α → Option σ) (good : σ → α → Prop) (start : σ) (actions : List α) : Prop :=
  ∀ earlier action before, earlier ++ [action] <+: actions →
    execute step start earlier = some before → good before action

/-- Nothing has to be checked without an action. -/
theorem along_nil {good : σ → α → Prop} {start : σ} : Along step good start [] := by
  intro earlier action before hinit
  exact absurd (List.prefix_nil.mp hinit) (by simp)

/-- The first action is good at the start, and the others where it leads. -/
theorem along_cons {good : σ → α → Prop} {start : σ} {action : α} {actions : List α} :
    Along step good start (action :: actions) ↔
      good start action ∧ ∀ next ∈ step start action, Along step good next actions := by
  constructor
  · intro h
    refine ⟨h [] action start (List.prefix_append [action] actions) rfl, ?_⟩
    intro next hnext earlier last before hinit hbefore
    exact h (action :: earlier) last before (List.cons_prefix_cons.mpr ⟨rfl, hinit⟩)
      (execute_cons.mpr ⟨next, hnext, hbefore⟩)
  · rintro ⟨hfirst, hothers⟩ earlier last before hinit hbefore
    cases earlier with
    | nil =>
      obtain ⟨rfl, -⟩ := List.cons_prefix_cons.mp hinit
      cases hbefore
      exact hfirst
    | cons first earlier =>
      obtain ⟨rfl, hshorter⟩ := List.cons_prefix_cons.mp hinit
      obtain ⟨next, hnext, hrun⟩ := execute_cons.mp hbefore
      exact hothers next hnext earlier last before hshorter hrun

instance decidableAlong {good : σ → α → Prop} [∀ state action, Decidable (good state action)] :
    ∀ (start : σ) (actions : List α), Decidable (Along step good start actions)
  | _, [] => .isTrue along_nil
  | _, _ :: actions =>
    have : ∀ next, Decidable (Along step good next actions) :=
      fun next => decidableAlong next actions
    decidable_of_iff _ along_cons.symm

/-- The last action of a run is good in the state the others lead to. -/
theorem along_snoc {good : σ → α → Prop} {start before : σ} {actions : List α} {action : α}
    (hrun : execute step start actions = some before) :
    Along step good start (actions ++ [action]) ↔
      Along step good start actions ∧ good before action := by
  constructor
  · intro h
    refine ⟨fun earlier last state hinit => ?_, ?_⟩
    · exact h earlier last state (hinit.trans (List.prefix_append _ _))
    · exact h actions action before (List.prefix_refl _) hrun
  · rintro ⟨hearlier, hlast⟩ earlier last state hinit hstate
    rcases List.prefix_concat_iff.mp hinit with heq | hshorter
    · obtain ⟨rfl, hlast'⟩ := List.append_inj' heq rfl
      cases hlast'
      cases hstate.symm.trans hrun
      exact hlast
    · exact hearlier earlier last state hshorter hstate

/-- Induction along an execution all of whose actions are good. -/
theorem along_induction {good : σ → α → Prop} {start : σ} {motive : List α → σ → Prop}
    (hstart : motive [] start)
    (hstep : ∀ {actions before action after}, motive actions before → good before action →
      step before action = some after → motive (actions ++ [action]) after)
    {actions : List α} {state : σ} (halong : Along step good start actions)
    (h : execute step start actions = some state) : motive actions state := by
  induction actions using List.reverseRecOn generalizing state with
  | nil =>
    obtain rfl := Option.some.inj h
    exact hstart
  | append_singleton actions action ih =>
    obtain ⟨before, hbefore, hlast⟩ := execute_snoc.mp h
    obtain ⟨hearlier, hgood⟩ := (along_snoc hbefore).mp halong
    exact hstep (ih hearlier hbefore) hgood hlast

end Library
