import Mathlib.Logic.Basic

/-!
# Runs of a partial step function

A concurrent program is a partial function `next` on states: an action names
the thread that moves and the answers of its environment, and it is undefined
where the thread cannot move.  `Steps next ok` are the runs whose every action
is taken in a state that `ok` admits; plain reachability is the case where
everything is admitted.  Concrete runs are replayed by evaluation.
-/

namespace TransitionSystem

variable {σ : Type*} {α : Type*}

/-- Actions lead from one state to another, each admitted by `ok` in the
state it is taken in. -/
inductive Steps (next : σ → α → Option σ) (ok : σ → α → Prop) (start : σ) :
    σ → Prop where
  | refl : Steps next ok start start
  | tail {middle final : σ} {action : α} :
      Steps next ok start middle →
      ok middle action →
      next middle action = some final →
      Steps next ok start final

/-- Some run leads from one state to another. -/
abbrev Reaches (next : σ → α → Option σ) (start final : σ) : Prop :=
  Steps next (fun _ _ => True) start final

variable {next : σ → α → Option σ} {ok : σ → α → Prop}
variable {start middle final : σ}

/-- The induction rule of runs: what holds at the start and survives every
admitted action holds at the end. -/
theorem Steps.invariant (inv : σ → Prop)
    (run : Steps next ok start final) (initial : inv start)
    (preserved : ∀ state action target, inv state → ok state action →
      next state action = some target → inv target) :
    inv final := by
  induction run with
  | refl => exact initial
  | tail _ admitted step held => exact preserved _ _ _ held admitted step

/-- `Steps.invariant` in the presence of an invariant proved before. -/
theorem Steps.invariant_under (base inv : σ → Prop)
    (run : Steps next ok start final)
    (holdsBase : base start)
    (keepsBase : ∀ state action target, base state →
      next state action = some target → base target)
    (initial : inv start)
    (preserved : ∀ state action target, base state → inv state →
      ok state action → next state action = some target → inv target) :
    inv final := by
  have both : base final ∧ inv final := by
    apply run.invariant fun state => base state ∧ inv state
    · exact ⟨holdsBase, initial⟩
    · intro state action target held admitted step
      exact ⟨keepsBase _ _ _ held.1 step,
        preserved _ _ _ held.1 held.2 admitted step⟩
  exact both.2

/-- A run stays a run when more actions are admitted. -/
theorem Steps.mono {weaker : σ → α → Prop}
    (run : Steps next ok start final)
    (admits : ∀ state action, ok state action → weaker state action) :
    Steps next weaker start final := by
  induction run with
  | refl => exact .refl
  | tail _ admitted step before =>
      exact .tail before (admits _ _ admitted) step

theorem Steps.trans (first : Steps next ok start middle)
    (second : Steps next ok middle final) :
    Steps next ok start final := by
  induction second with
  | refl => exact first
  | tail _ admitted step before => exact .tail before admitted step

/-- Take the actions of a list in order, each only where `ok` admits it. -/
def replay (next : σ → α → Option σ) (ok : σ → α → Prop)
    [∀ state action, Decidable (ok state action)] :
    σ → List α → Option σ
  | state, [] => some state
  | state, action :: actions =>
      if ok state action then
        (next state action).bind fun target => replay next ok target actions
      else none

theorem steps_of_replay [∀ state action, Decidable (ok state action)]
    {actions : List α} (replayed : replay next ok start actions = some final) :
    Steps next ok start final := by
  induction actions generalizing start with
  | nil =>
      simp only [replay, Option.some.injEq] at replayed
      subst final
      exact .refl
  | cons action actions induction =>
      simp only [replay] at replayed
      split at replayed
      · rename_i admitted
        obtain ⟨target, step, rest⟩ := Option.bind_eq_some_iff.mp replayed
        exact (Steps.tail .refl admitted step).trans (induction rest)
      · cases replayed

/-- The state after a list of actions that can be taken. -/
def stateAfter (next : σ → α → Option σ) (ok : σ → α → Prop)
    [∀ state action, Decidable (ok state action)]
    (start : σ) (actions : List α) : σ :=
  (replay next ok start actions).getD start

theorem steps_stateAfter [∀ state action, Decidable (ok state action)]
    {actions : List α}
    (taken : (replay next ok start actions).isSome = true) :
    Steps next ok start (stateAfter next ok start actions) := by
  obtain ⟨final, replayed⟩ := Option.isSome_iff_exists.mp taken
  simpa [stateAfter, replayed] using steps_of_replay replayed

end TransitionSystem
