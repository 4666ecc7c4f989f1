import Mathlib.Logic.Basic

/-!
# A lock and its owner

A lock records the thread that owns it.  It guards the critical sections of a
set of threads when every thread inside one is the owner, so that at most one
is.  A thread takes a lock that is free and gives back a lock that it owns.
-/

namespace Lock

variable {ι : Type*} {owner after : Option ι} {holds holdsAfter : ι → Prop}
variable {thread other : ι}

/-- Every thread in its critical section owns the lock. -/
def Guards (owner : Option ι) (holds : ι → Prop) : Prop :=
  ∀ thread, holds thread → owner = some thread

theorem Guards.exclusive (guards : Guards owner holds)
    (one : holds thread) (another : holds other) : thread = other := by
  have owns := guards thread one
  rw [guards other another] at owns
  exact (Option.some.inj owns).symm

theorem Guards.outside (guards : Guards owner holds) (free : owner = none) :
    ¬ holds thread := by
  intro inside
  simp [guards thread inside] at free

/-- The rule for a step of one thread: nobody else enters a critical section,
the thread is in one only as the owner, and the lock is its own or free when it
changes. -/
theorem Guards.step (guards : Guards owner holds)
    (others : ∀ other, other ≠ thread → holdsAfter other → holds other)
    (own : holdsAfter thread →
      after = some thread ∨ holds thread ∧ after = owner)
    (change : after = owner ∨ owner = none ∨ holds thread) :
    Guards after holdsAfter := by
  intro other inside
  by_cases same : other = thread
  · subst same
    rcases own inside with taken | ⟨held, kept⟩
    · exact taken
    · rw [kept]
      exact guards other held
  · have insideBefore := others other same inside
    rcases change with kept | free | held
    · rw [kept]
      exact guards other insideBefore
    · exact (guards.outside free insideBefore).elim
    · exact (same (guards.exclusive insideBefore held)).elim

end Lock
