/-!
# How a computation ends

A computation that can fail ends well when its value satisfies a postcondition
and any failure of it is one that is put up with.  The rules follow the steps of
the computation.
-/

namespace Outcome

variable {ε α β : Type} {harmless : ε → Prop}

/-- The value satisfies the postcondition, or the failure is harmless. -/
def Ends (harmless : ε → Prop) (post : α → Prop) : Except ε α → Prop
  | .ok value => post value
  | .error failure => harmless failure

@[simp] theorem ends_ok {post : α → Prop} {value : α} :
    Ends harmless post (.ok value) ↔ post value := Iff.rfl

@[simp] theorem ends_error {post : α → Prop} {failure : ε} :
    Ends harmless post (.error failure : Except ε α) ↔ harmless failure :=
  Iff.rfl

variable {post after : α → Prop} {result : Except ε α}

theorem Ends.mono (ends : Ends harmless post result)
    (weaker : ∀ value, post value → after value) :
    Ends harmless after result := by
  cases result with
  | ok value => exact weaker value ends
  | error failure => exact ends

/-- The rule for a step that is followed by others. -/
theorem Ends.bind {final : β → Prop} {next : α → Except ε β}
    (ends : Ends harmless post result)
    (continues : ∀ value, post value → Ends harmless final (next value)) :
    Ends harmless final (result >>= next) := by
  cases result with
  | ok value => exact continues value ends
  | error failure => exact ends

theorem Ends.of_error (ends : Ends harmless post result) {failure : ε}
    (fails : result = .error failure) : harmless failure := by
  subst fails
  exact ends

theorem Ends.of_ok (ends : Ends harmless post result) {value : α}
    (succeeds : result = .ok value) : post value := by
  subst succeeds
  exact ends

/-- The rule for a loop: an invariant of what has been gone through and the
state is kept by each step. -/
theorem foldlM_ends {σ : Type} {step : σ → α → Except ε σ}
    {invariant : List α → σ → Prop} {items : List α} {initial : σ}
    (starts : invariant [] initial)
    (keeps : ∀ before item state, item ∈ items → invariant before state →
      Ends harmless (invariant (before ++ [item])) (step state item)) :
    Ends harmless (invariant items) (items.foldlM step initial) := by
  have loop : ∀ (behind before : List α) (state : σ),
      (∀ item ∈ behind, item ∈ items) → invariant before state →
        Ends harmless (invariant (before ++ behind))
          (behind.foldlM step state) := by
    intro behind
    induction behind with
    | nil =>
        intro before state _ holds
        rw [List.append_nil]
        exact holds
    | cons item behind induction =>
        intro before state listed holds
        rw [List.foldlM_cons]
        apply (keeps before item state (listed item List.mem_cons_self)
          holds).bind
        intro next nextHolds
        rw [List.append_cons]
        apply induction _ _ _ nextHolds
        intro later member
        exact listed later (List.mem_cons_of_mem _ member)
  exact loop items [] initial (fun _ listed => listed) starts

end Outcome
