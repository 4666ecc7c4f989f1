import Mathlib.Logic.Basic

/-!
# Two runs of a computation

Two computations agree when they succeed with related values, or fail in the
same way.  The rules follow the steps that both of them take.
-/

namespace TwoRuns

variable {ε α β γ δ : Type}

/-- Both succeed with related values, or both fail with the same failure. -/
def Agree (related : α → β → Prop) : Except ε α → Except ε β → Prop
  | .ok first, .ok second => related first second
  | .error first, .error second => first = second
  | _, _ => False

variable {related : α → β → Prop} {final : γ → δ → Prop}
variable {first : Except ε α} {second : Except ε β}

theorem Agree.mono {weaker : α → β → Prop} (agree : Agree related first second)
    (implies : ∀ value other, related value other → weaker value other) :
    Agree weaker first second := by
  cases first <;> cases second <;>
    first
    | exact implies _ _ agree
    | exact agree

/-- The rule for a step that is followed by others. -/
theorem Agree.bind {next : α → Except ε γ} {otherNext : β → Except ε δ}
    (agree : Agree related first second)
    (continues : ∀ value other, related value other →
      Agree final (next value) (otherNext other)) :
    Agree final (first >>= next) (second >>= otherNext) := by
  cases first <;> cases second
  · exact agree
  · exact agree.elim
  · exact agree.elim
  · exact continues _ _ agree

/-- The same step in both runs. -/
theorem agree_same {same : Except ε α} : Agree Eq same same := by
  cases same <;> rfl

end TwoRuns
