import Mathlib.Data.List.Basic

/-!
# Histories of a deterministic machine

A machine that answers every input is followed over a list of inputs.  The rules
follow the steps: what holds of a state is kept, and what a step leaves behind in
the state relates it to each later one.
-/

namespace Histories

variable {σ ι ω : Type}

/-- One step of the machine. -/
structure Record (σ ι ω : Type) where
  before : σ
  input : ι
  output : ω
  after : σ

def record (step : σ → ι → ω × σ) (before : σ) (input : ι) : Record σ ι ω :=
  { before := before
    input := input
    output := (step before input).1
    after := (step before input).2 }

/-- The steps that a list of inputs leads to. -/
def history (step : σ → ι → ω × σ) : σ → List ι → List (Record σ ι ω)
  | _, [] => []
  | state, input :: inputs =>
      record step state input ::
        history step (record step state input).after inputs

/-- The state that a list of inputs leads to. -/
def stateBehind (step : σ → ι → ω × σ) (start : σ) (inputs : List ι) : σ :=
  inputs.foldl (fun state input => (step state input).2) start

variable {step : σ → ι → ω × σ} {start : σ} {inputs : List ι}

/-- Each step is that of an input in the state behind the inputs before it. -/
theorem mem_history_iff {entry : Record σ ι ω} :
    entry ∈ history step start inputs ↔
      ∃ earlier input later, inputs = earlier ++ input :: later ∧
        entry = record step (stateBehind step start earlier) input := by
  induction inputs generalizing start with
  | nil => simp [history]
  | cons first rest induction =>
      rw [history, List.mem_cons, induction]
      constructor
      · rintro (rfl | ⟨earlier, input, later, rfl, rfl⟩)
        · exact ⟨[], first, rest, rfl, rfl⟩
        · exact ⟨first :: earlier, input, later, rfl, rfl⟩
      · rintro ⟨earlier, input, later, split, rfl⟩
        cases earlier with
        | nil =>
            obtain ⟨rfl, rfl⟩ := List.cons.inj split
            exact .inl rfl
        | cons head earlier =>
            obtain ⟨rfl, rfl⟩ := List.cons.inj split
            exact .inr ⟨earlier, input, later, rfl, rfl⟩

/-- The rule for states: an invariant holds before every step. -/
theorem forall_history {invariant : σ → Prop} (starts : invariant start)
    (keeps : ∀ state, ∀ input ∈ inputs, invariant state →
      invariant (record step state input).after) :
    ∀ entry ∈ history step start inputs, invariant entry.before ∧
      entry.input ∈ inputs ∧
      entry = record step entry.before entry.input := by
  induction inputs generalizing start with
  | nil =>
      intro _ listed
      cases listed
  | cons input inputs induction =>
      intro entry listed
      rcases List.mem_cons.mp listed with rfl | later
      · exact ⟨starts, List.mem_cons_self, rfl⟩
      · have next := keeps start input List.mem_cons_self starts
        obtain ⟨holds, listed, isRecord⟩ := induction next
          (fun state input member =>
            keeps state input (List.mem_cons_of_mem _ member)) entry later
        exact ⟨holds, List.mem_cons_of_mem _ listed, isRecord⟩

/-- The rule for pairs of steps: the first one leaves a mark, later steps keep
it, and each step is related to those whose marks it finds. -/
theorem pairwise_history {invariant : σ → Prop}
    {marked : Record σ ι ω → σ → Prop} {related : Record σ ι ω →
      Record σ ι ω → Prop}
    (starts : invariant start)
    (keeps : ∀ state, ∀ input ∈ inputs, invariant state →
      invariant (record step state input).after)
    (leaves : ∀ state, ∀ input ∈ inputs, invariant state →
      marked (record step state input) (record step state input).after)
    (stays : ∀ entry state, ∀ input ∈ inputs, invariant state →
      marked entry state → related entry (record step state input) ∧
        marked entry (record step state input).after) :
    (history step start inputs).Pairwise related := by
  have finds (entry : Record σ ι ω) : ∀ (inputs' : List ι) (state : σ),
      (∀ input ∈ inputs', input ∈ inputs) → invariant state →
        marked entry state →
          ∀ later ∈ history step state inputs', related entry later := by
    intro inputs'
    induction inputs' with
    | nil =>
        intro _ _ _ _ _ listed
        cases listed
    | cons input rest induction =>
        intro state among holds isMarked later listed
        have member := among input List.mem_cons_self
        obtain ⟨isRelated, still⟩ := stays entry state input member holds
          isMarked
        rcases List.mem_cons.mp listed with rfl | behind
        · exact isRelated
        · exact induction _ (fun other more =>
            among other (List.mem_cons_of_mem _ more))
            (keeps state input member holds) still later behind
  have pairs : ∀ (inputs' : List ι) (state : σ),
      (∀ input ∈ inputs', input ∈ inputs) → invariant state →
        (history step state inputs').Pairwise related := by
    intro inputs'
    induction inputs' with
    | nil =>
        intro _ _ _
        exact List.Pairwise.nil
    | cons input rest induction =>
        intro state among holds
        have member := among input List.mem_cons_self
        have rest (other : ι) (more : other ∈ rest) : other ∈ inputs :=
          among other (List.mem_cons_of_mem _ more)
        have next := keeps state input member holds
        refine List.Pairwise.cons ?_ (induction _ rest next)
        exact finds _ _ _ rest next (leaves state input member holds)
  exact pairs inputs start (fun _ listed => listed) starts

end Histories
