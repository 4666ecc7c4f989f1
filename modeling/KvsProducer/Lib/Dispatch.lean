import Mathlib.Data.List.Basic

/-!
# Calls in order until one decides

Calls are made one after the other.  The answer to a call may depend on the
calls before it, and decides whether the next one is made.
-/

namespace Dispatch

variable {Call Answer Result : Type*}
variable (answer : List Call → Call → Answer)
variable (decision : Answer → Option Result) (final : Result)

/-- The calls that are made, and the result. -/
def dispatch : List Call → List Call → List Call × Result
  | _, [] => ([], final)
  | made, call :: rest =>
      match decision (answer made call) with
      | some result => ([call], result)
      | none =>
          let (later, result) := dispatch (made ++ [call]) rest
          (call :: later, result)

/-- No call of the list decides. -/
def Passes (made calls : List Call) : Prop :=
  ∀ before call after, calls = before ++ call :: after →
    decision (answer (made ++ before) call) = none

variable {answer : List Call → Call → Answer}
variable {decision : Answer → Option Result} {final : Result}
variable {made calls : List Call} {call : Call}

theorem passes_nil : Passes answer decision made [] := by
  intro before call after same
  cases before <;> cases same

theorem passes_cons :
    Passes answer decision made (call :: calls) ↔
      decision (answer made call) = none ∧
        Passes answer decision (made ++ [call]) calls := by
  constructor
  · intro passes
    refine ⟨by simpa using passes [] call calls rfl, ?_⟩
    intro before other after same
    rw [List.append_assoc]
    exact passes (call :: before) other after (congrArg (call :: ·) same)
  · rintro ⟨first, later⟩ before other after same
    cases before with
    | nil =>
        cases same
        simpa using first
    | cons head before =>
        obtain ⟨rfl, rest⟩ := List.cons_eq_cons.mp same
        simpa [List.append_assoc] using later before other after rest

/-- All calls are made and none decides, or the last one that is made is the
first that decides. -/
theorem dispatch_cases (made calls : List Call) :
    (dispatch answer decision final made calls = (calls, final) ∧
        Passes answer decision made calls) ∨
      ∃ before call after result, calls = before ++ call :: after ∧
        dispatch answer decision final made calls =
          (before ++ [call], result) ∧
        Passes answer decision made before ∧
        decision (answer (made ++ before) call) = some result := by
  induction calls generalizing made with
  | nil => exact .inl ⟨rfl, passes_nil⟩
  | cons call rest induction =>
      unfold dispatch
      cases decides : decision (answer made call) with
      | some result =>
          refine .inr ⟨[], call, rest, result, rfl, rfl, passes_nil, ?_⟩
          rw [List.append_nil]
          exact decides
      | none =>
          rcases induction (made ++ [call]) with ⟨all, passes⟩ |
              ⟨before, last, after, result, same, some, passes, decided⟩
          · exact .inl ⟨by rw [all], passes_cons.mpr ⟨decides, passes⟩⟩
          · refine .inr ⟨call :: before, last, after, result, ?_, ?_,
              passes_cons.mpr ⟨decides, passes⟩, ?_⟩
            · rw [same]
              rfl
            · rw [some]
              rfl
            · rw [List.append_assoc] at decided
              exact decided

end Dispatch
