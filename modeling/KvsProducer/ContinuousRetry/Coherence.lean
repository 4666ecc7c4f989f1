import KvsProducer.ContinuousRetry.Reset
import KvsProducer.Lib.Lock

/-!
# What holds in every state of the continuous retry callbacks

The holder of `syncLock`, the objects in the table, and the reset threads: the
thread of an object that is not freed has its id recorded there, or its creator
is about to record it.  Only one thread can be running for such an object.
-/

namespace KvsProducer

namespace ContinuousRetry

open TransitionSystem

/-- The call is in the critical section in which it found no reset under way,
and has not created a thread. -/
def CallPc.Claims (pc : CallPc) (object : ObjectId) : Prop :=
  pc = .storing object ∨ pc = .creating object

/-- The call has taken the object out of the table. -/
def CallPc.Frees (pc : CallPc) (object : ObjectId) : Prop :=
  pc = .removed object ∨ (∃ thread, pc = .joining object thread) ∨
    pc = .freeing object

theorem CallPc.Claims.holds {pc : CallPc} {object : ObjectId}
    (claims : pc.Claims object) : pc.Holds := by
  rcases claims with rfl | rfl <;> trivial

theorem CallPc.Frees.object {pc : CallPc} {object : ObjectId}
    (frees : pc.Frees object) : pc.object = some object := by
  rcases frees with rfl | ⟨thread, rfl⟩ | rfl <;> rfl

namespace State

variable {state target : State} {id : CallId} {thread : ThreadId}

/-- A reset thread works on the object, for all that its id may not be
recorded yet. -/
def RunsOn (state : State) (thread : ThreadId) (object : ObjectId) : Prop :=
  (state.threads thread).object = object ∧ (state.threads thread).pc.Running

structure Coherent (state : State) : Prop where
  guards : Lock.Guards state.syncLock fun id => (state.calls id).pc.Holds
  referred : ∀ id object, (state.calls id).pc.object = some object →
    object < state.allocated
  worked : ∀ thread, (state.threads thread).pc ≠ .absent →
    (state.threads thread).object < state.allocated
  mapped : ∀ streamHandle object,
    state.pStreamMapping streamHandle = some object →
      object < state.allocated ∧ (state.objects object).live = true
  apart : ∀ streamHandle other object,
    state.pStreamMapping streamHandle = some object →
      state.pStreamMapping other = some object → streamHandle = other
  unmapped : ∀ id object, (state.calls id).pc.Frees object →
    ∀ streamHandle, state.pStreamMapping streamHandle ≠ some object
  claimed : ∀ id object, (state.calls id).pc.Claims object →
    (state.objects object).resetTid = none
  created : ∀ id object thread, (state.calls id).pc = .writing object thread →
    (state.objects object).resetTid = none ∧
      (state.threads thread).object = object ∧
      (state.threads thread).pc ≠ .absent
  recorded : ∀ thread object, state.RunsOn thread object →
    (state.objects object).live = true →
      (state.objects object).resetTid = some thread ∨
        ∃ id, (state.calls id).pc = .writing object thread

theorem initial_coherent : initial.Coherent := by
  constructor <;>
    simp [initial, Lock.Guards, CallPc.Holds, CallPc.object, CallPc.Frees,
      CallPc.Claims, RunsOn, ThreadPc.Running]

/-- At most one reset thread is running for an object that is not freed. -/
theorem Coherent.single (coherent : state.Coherent)
    {first second : ThreadId} {object : ObjectId}
    (runsFirst : state.RunsOn first object)
    (runsSecond : state.RunsOn second object)
    (live : (state.objects object).live = true) : first = second := by
  rcases coherent.recorded first object runsFirst live with
    firstTid | ⟨firstCall, firstWrites⟩ <;>
  rcases coherent.recorded second object runsSecond live with
    secondTid | ⟨secondCall, secondWrites⟩
  · rw [firstTid] at secondTid
    exact Option.some.inj secondTid
  · have invalid := (coherent.created _ _ _ secondWrites).1
    simp [firstTid] at invalid
  · have invalid := (coherent.created _ _ _ firstWrites).1
    simp [secondTid] at invalid
  · have same : firstCall = secondCall := by
      apply coherent.guards.exclusive <;>
        simp [firstWrites, secondWrites, CallPc.Holds]
    subst same
    rw [firstWrites] at secondWrites
    exact (CallPc.writing.inj secondWrites).2

section Call

variable {action : CallAction}

theorem CallStep.calls_of_ne {other : CallId}
    (step : CallStep state id action target) (different : other ≠ id) :
    target.calls other = state.calls other := by
  cases step <;> simp [different]

/-- Only a call that holds the lock, or takes it, changes it. -/
theorem CallStep.lock_cases (step : CallStep state id action target) :
    target.syncLock = state.syncLock ∨ state.syncLock = none ∨
      (state.calls id).pc.Holds := by
  cases step <;> simp_all [CallPc.Holds]

theorem CallStep.holds (step : CallStep state id action target)
    (holds : (target.calls id).pc.Holds) :
    target.syncLock = some id ∨
      (state.calls id).pc.Holds ∧ target.syncLock = state.syncLock := by
  cases step
  case invoke kind streamHandle host idle callable =>
      rcases kind.firstPc_cases with first | first <;>
        simp [first, CallPc.Holds] at holds
  all_goals simp_all [CallPc.Holds]

/-- What a call does to the id and the life of an object. -/
inductive ObjectEffect (state target : State) (id : CallId)
    (action : CallAction) (object : ObjectId) : Prop where
  | unchanged
      (resetTid : (target.objects object).resetTid =
        (state.objects object).resetTid)
      (live : (target.objects object).live = (state.objects object).live)
  | written {thread : ThreadId}
      (write : action = .writeTid)
      (writing : (state.calls id).pc = .writing object thread)
      (live : (state.objects object).live = true)
      (resetTid : (target.objects object).resetTid = some thread)
      (liveAfter : (target.objects object).live = true)
  | allocated
      (lookingUp : (state.calls id).pc = .lookingUp)
      (new : object = state.allocated)
      (resetTid : (target.objects object).resetTid = none)
      (liveAfter : (target.objects object).live = true)
  | freed
      (freeing : (state.calls id).pc = .freeing object)
      (resetTid : (target.objects object).resetTid =
        (state.objects object).resetTid)
      (freedAfter : (target.objects object).live = false)

theorem CallStep.objectEffect (step : CallStep state id action target)
    (object : ObjectId) : ObjectEffect state target id action object := by
  cases step
  case allocate lookingUp unmapped =>
      by_cases new : object = state.allocated
      · apply ObjectEffect.allocated lookingUp new <;>
          simp [new, CallbackStateMachine.initial]
      · apply ObjectEffect.unchanged <;> simp [new]
  case writeTid changed thread writing live =>
      by_cases same : object = changed
      · subst same
        apply ObjectEffect.written rfl writing live <;> simp [live]
      · apply ObjectEffect.unchanged <;> simp [same]
  case free changed freeing =>
      by_cases same : object = changed
      · subst same
        apply ObjectEffect.freed freeing <;> simp
      · apply ObjectEffect.unchanged <;> simp [same]
  case setReady changed obtained live kind =>
      by_cases same : object = changed
      · subst same
        apply ObjectEffect.unchanged <;> simp
      · apply ObjectEffect.unchanged <;> simp [same]
  case store changed storing live =>
      by_cases same : object = changed
      · subst same
        apply ObjectEffect.unchanged <;> simp
      · apply ObjectEffect.unchanged <;> simp [same]
  all_goals exact .unchanged rfl rfl

theorem CallStep.thread_cases (step : CallStep state id action target)
    (thread : ThreadId) :
    ((target.threads thread).pc = (state.threads thread).pc ∧
        (target.threads thread).object = (state.threads thread).object) ∨
      ∃ object, (state.calls id).pc = .creating object ∧
        (state.threads thread).pc = .absent ∧
        (target.calls id).pc = .writing object thread ∧
        target.threads thread = .created object := by
  cases step
  case createThread object created creating absent =>
      by_cases same : thread = created
      · subst same
        exact .inr ⟨object, creating, absent, by simp, by simp⟩
      · exact .inl (by simp [same])
  all_goals exact .inl (by simp)

theorem CallStep.allocated_le (step : CallStep state id action target) :
    state.allocated ≤ target.allocated := by
  cases step <;> simp

/-- A call comes to its object through the table. -/
theorem CallStep.refers (step : CallStep state id action target)
    {object : ObjectId} (refers : (target.calls id).pc.object = some object) :
    (state.calls id).pc.object = some object ∨
      state.pStreamMapping (state.calls id).streamHandle = some object ∨
      object = state.allocated ∧ target.allocated = state.allocated + 1 := by
  cases step
  case invoke kind streamHandle host idle callable =>
      rcases kind.firstPc_cases with first | first <;>
        simp [first, CallPc.object] at refers
  case lock entered lockFree =>
      rcases (state.calls id).kind.lockedPc_cases with locked | locked <;>
        simp [locked, CallPc.object] at refers
  all_goals simp_all [CallPc.object]

theorem CallStep.mapped_cases (step : CallStep state id action target)
    {streamHandle : StreamHandle} {object : ObjectId}
    (mapped : target.pStreamMapping streamHandle = some object) :
    state.pStreamMapping streamHandle = some object ∨
      streamHandle = (state.calls id).streamHandle ∧
        object = state.allocated ∧
        target.allocated = state.allocated + 1 ∧
        (target.objects object).live = true := by
  cases step
  case allocate lookingUp unmapped =>
      by_cases same : streamHandle = (state.calls id).streamHandle
      · subst same
        have new : state.allocated = object := by simpa using mapped
        subst new
        exact .inr ⟨rfl, rfl, rfl, by simp [CallbackStateMachine.initial]⟩
      · exact .inl (by simpa [same] using mapped)
  case unmap removedObject removing mappedBefore =>
      by_cases same : streamHandle = (state.calls id).streamHandle
      · simp [same] at mapped
      · exact .inl (by simpa [same] using mapped)
  all_goals exact .inl mapped

/-- A call that frees an object has taken it out of the table. -/
theorem CallStep.frees (step : CallStep state id action target)
    {object : ObjectId} (frees : (target.calls id).pc.Frees object) :
    (state.calls id).pc.Frees object ∨
      state.pStreamMapping (state.calls id).streamHandle = some object ∧
        target.pStreamMapping =
          Function.update state.pStreamMapping (state.calls id).streamHandle
            none := by
  cases step
  case invoke kind streamHandle host idle callable =>
      rcases kind.firstPc_cases with first | first <;>
        simp [first, CallPc.Frees] at frees
  case lock entered lockFree =>
      rcases (state.calls id).kind.lockedPc_cases with locked | locked <;>
        simp [locked, CallPc.Frees] at frees
  case unmap removedObject removing mapped =>
      have same : removedObject = object := by
        simpa [CallPc.Frees] using frees
      subst same
      exact .inr ⟨mapped, rfl⟩
  all_goals simp_all [CallPc.Frees]

theorem CallStep.claims (step : CallStep state id action target)
    {object : ObjectId} (claims : (target.calls id).pc.Claims object) :
    ((state.calls id).pc.Claims object ∨
        (state.objects object).resetTid = none) ∧
      (target.objects object).resetTid =
        (state.objects object).resetTid := by
  cases step
  case invoke kind streamHandle host idle callable =>
      rcases kind.firstPc_cases with first | first <;>
        simp [first, CallPc.Claims] at claims
  case lock entered lockFree =>
      rcases (state.calls id).kind.lockedPc_cases with locked | locked <;>
        simp [locked, CallPc.Claims] at claims
  all_goals simp_all [CallPc.Claims]

/-- A call that is about to record a thread has just created it. -/
theorem CallStep.writing (step : CallStep state id action target)
    {object : ObjectId} {thread : ThreadId}
    (writing : (target.calls id).pc = .writing object thread) :
    (state.calls id).pc = .creating object ∧
      target.objects = state.objects ∧
      target.threads thread = .created object := by
  cases step
  case invoke kind streamHandle host idle callable =>
      rcases kind.firstPc_cases with first | first <;>
        simp [first] at writing
  case lock entered lockFree =>
      rcases (state.calls id).kind.lockedPc_cases with locked | locked <;>
        simp [locked] at writing
  case createThread createdFor created creating absent =>
      obtain ⟨rfl, rfl⟩ : createdFor = object ∧ created = thread := by
        simpa using writing
      exact ⟨creating, rfl, by simp⟩
  all_goals simp_all

theorem Coherent.guards_callStep (coherent : state.Coherent)
    (step : CallStep state id action target) :
    Lock.Guards target.syncLock fun id => (target.calls id).pc.Holds := by
  apply coherent.guards.step
  · intro other different holds
    rwa [step.calls_of_ne different] at holds
  · exact step.holds
  · exact step.lock_cases

theorem Coherent.referred_callStep (coherent : state.Coherent)
    (step : CallStep state id action target) {other : CallId}
    {object : ObjectId}
    (refers : (target.calls other).pc.object = some object) :
    object < target.allocated := by
  have grows := step.allocated_le
  by_cases same : other = id
  · subst same
    rcases step.refers refers with before | mapped | ⟨new, next⟩
    · exact Nat.lt_of_lt_of_le (coherent.referred _ _ before) grows
    · exact Nat.lt_of_lt_of_le (coherent.mapped _ _ mapped).1 grows
    · rw [new, next]
      exact Nat.lt_succ_self _
  · rw [step.calls_of_ne same] at refers
    exact Nat.lt_of_lt_of_le (coherent.referred _ _ refers) grows

theorem Coherent.worked_callStep (coherent : state.Coherent)
    (step : CallStep state id action target)
    (present : (target.threads thread).pc ≠ .absent) :
    (target.threads thread).object < target.allocated := by
  have grows := step.allocated_le
  rcases step.thread_cases thread with ⟨samePc, sameObject⟩ |
    ⟨object, creating, -, -, created⟩
  · rw [samePc] at present
    rw [sameObject]
    exact Nat.lt_of_lt_of_le (coherent.worked thread present) grows
  · have bound : object < state.allocated := by
      apply coherent.referred id
      simp [creating, CallPc.object]
    simpa [created] using Nat.lt_of_lt_of_le bound grows

theorem Coherent.mapped_callStep (coherent : state.Coherent)
    (step : CallStep state id action target)
    {streamHandle : StreamHandle} {object : ObjectId}
    (mapped : target.pStreamMapping streamHandle = some object) :
    object < target.allocated ∧ (target.objects object).live = true := by
  rcases step.mapped_cases mapped with before | ⟨-, new, next, live⟩
  · obtain ⟨bound, live⟩ := coherent.mapped _ _ before
    refine ⟨Nat.lt_of_lt_of_le bound step.allocated_le, ?_⟩
    cases step.objectEffect object with
    | unchanged resetTid liveAfter => rwa [liveAfter]
    | written write writing liveBefore resetTid liveAfter => exact liveAfter
    | allocated lookingUp new resetTid liveAfter => exact liveAfter
    | freed freeing resetTid freedAfter =>
        have unmapped := coherent.unmapped id object (.inr (.inr freeing))
        exact (unmapped streamHandle before).elim
  · rw [new, next]
    exact ⟨Nat.lt_succ_self _, new ▸ live⟩

theorem Coherent.apart_callStep (coherent : state.Coherent)
    (step : CallStep state id action target)
    {streamHandle other : StreamHandle} {object : ObjectId}
    (mapped : target.pStreamMapping streamHandle = some object)
    (otherMapped : target.pStreamMapping other = some object) :
    streamHandle = other := by
  rcases step.mapped_cases mapped with before | ⟨here, new, -⟩ <;>
  rcases step.mapped_cases otherMapped with
    otherBefore | ⟨otherHere, otherNew, -⟩
  · exact coherent.apart _ _ _ before otherBefore
  · have bound := (coherent.mapped _ _ before).1
    exact (Nat.ne_of_lt bound otherNew).elim
  · have bound := (coherent.mapped _ _ otherBefore).1
    exact (Nat.ne_of_lt bound new).elim
  · exact here.trans otherHere.symm

theorem Coherent.unmapped_callStep (coherent : state.Coherent)
    (step : CallStep state id action target) {other : CallId}
    {object : ObjectId} (frees : (target.calls other).pc.Frees object)
    (streamHandle : StreamHandle) :
    target.pStreamMapping streamHandle ≠ some object := by
  intro mapped
  have keeps (freesBefore : (state.calls other).pc.Frees object) : False := by
    rcases step.mapped_cases mapped with before | ⟨-, new, -⟩
    · exact coherent.unmapped other object freesBefore _ before
    · have bound := coherent.referred other object freesBefore.object
      exact Nat.ne_of_lt bound new
  by_cases same : other = id
  · subst same
    rcases step.frees frees with freesBefore | ⟨mappedBefore, removed⟩
    · exact keeps freesBefore
    · rw [removed] at mapped
      by_cases here : streamHandle = (state.calls other).streamHandle
      · simp [here] at mapped
      · have still : state.pStreamMapping streamHandle = some object := by
          simpa [here] using mapped
        exact here (coherent.apart _ _ _ still mappedBefore)
  · rw [step.calls_of_ne same] at frees
    exact keeps frees

/-- The holder of the lock is the only call that touches the id of a thread. -/
theorem Coherent.resetTid_none_callStep (coherent : state.Coherent)
    (step : CallStep state id action target) {other : CallId}
    {object : ObjectId} (different : other ≠ id)
    (holds : (state.calls other).pc.Holds)
    (invalid : (state.objects object).resetTid = none) :
    (target.objects object).resetTid = none := by
  cases step.objectEffect object with
  | unchanged resetTid live => rw [resetTid, invalid]
  | written write writing live resetTid liveAfter =>
      have writes : (state.calls id).pc.Holds := by
        simp [writing, CallPc.Holds]
      exact (different (coherent.guards.exclusive holds writes)).elim
  | allocated lookingUp new resetTid liveAfter => exact resetTid
  | freed freeing resetTid freedAfter => rw [resetTid, invalid]

theorem Coherent.claimed_callStep (coherent : state.Coherent)
    (step : CallStep state id action target) {other : CallId}
    {object : ObjectId} (claims : (target.calls other).pc.Claims object) :
    (target.objects object).resetTid = none := by
  by_cases same : other = id
  · subst same
    obtain ⟨before, kept⟩ := step.claims claims
    rw [kept]
    rcases before with claimsBefore | invalid
    · exact coherent.claimed _ _ claimsBefore
    · exact invalid
  · rw [step.calls_of_ne same] at claims
    exact coherent.resetTid_none_callStep step same claims.holds
      (coherent.claimed _ _ claims)

theorem Coherent.created_callStep (coherent : state.Coherent)
    (step : CallStep state id action target) {other : CallId}
    {object : ObjectId}
    (writing : (target.calls other).pc = .writing object thread) :
    (target.objects object).resetTid = none ∧
      (target.threads thread).object = object ∧
      (target.threads thread).pc ≠ .absent := by
  by_cases same : other = id
  · subst same
    obtain ⟨creating, objects, created⟩ := step.writing writing
    rw [objects, created]
    exact ⟨coherent.claimed _ _ (.inr creating), rfl, by simp⟩
  · rw [step.calls_of_ne same] at writing
    obtain ⟨invalid, worksOn, present⟩ := coherent.created _ _ _ writing
    refine ⟨?_, ?_⟩
    · exact coherent.resetTid_none_callStep step same
        (by simp [writing, CallPc.Holds]) invalid
    · rcases step.thread_cases thread with ⟨samePc, sameObject⟩ |
        ⟨_, _, absent, _⟩
      · rw [samePc, sameObject]
        exact ⟨worksOn, present⟩
      · exact (present absent).elim

/-- A call that is about to record a thread does so, or crashes. -/
theorem CallStep.from_writing (step : CallStep state id action target)
    {object : ObjectId}
    (writing : (state.calls id).pc = .writing object thread)
    (live : (state.objects object).live = true) :
    (target.objects object).resetTid = some thread := by
  cases step <;> simp_all [CallPc.object]

theorem Coherent.recorded_callStep (coherent : state.Coherent)
    (step : CallStep state id action target) {object : ObjectId}
    (runs : target.RunsOn thread object)
    (live : (target.objects object).live = true) :
    (target.objects object).resetTid = some thread ∨
      ∃ other, (target.calls other).pc = .writing object thread := by
  rcases step.thread_cases thread with ⟨samePc, sameObject⟩ |
    ⟨createdFor, -, -, writing, created⟩
  · have runsBefore : state.RunsOn thread object := by
      simpa only [RunsOn, samePc, sameObject] using runs
    have keeps (liveBefore : (state.objects object).live = true)
        (resetTid : (target.objects object).resetTid =
          (state.objects object).resetTid) :
        (target.objects object).resetTid = some thread ∨
          ∃ other, (target.calls other).pc = .writing object thread := by
      rcases coherent.recorded _ _ runsBefore liveBefore with
        recorded | ⟨other, writing⟩
      · exact .inl (resetTid.trans recorded)
      · by_cases same : other = id
        · subst same
          exact .inl (step.from_writing writing liveBefore)
        · exact .inr ⟨other, by rwa [step.calls_of_ne same]⟩
    cases step.objectEffect object with
    | unchanged resetTid liveSame =>
        exact keeps (liveSame ▸ live) resetTid
    | written write writing liveBefore resetTid liveAfter =>
        left
        obtain ⟨invalid, worksOn, present⟩ := coherent.created _ _ _ writing
        rcases coherent.recorded _ _ runsBefore liveBefore with
          recordedBefore | ⟨other, otherWriting⟩
        · simp [invalid] at recordedBefore
        · have same : other = id := by
            apply coherent.guards.exclusive <;>
              simp [writing, otherWriting, CallPc.Holds]
          subst same
          rw [writing] at otherWriting
          rw [resetTid, (CallPc.writing.inj otherWriting).2]
    | allocated lookingUp new resetTid liveAfter =>
        have bound := coherent.worked thread runsBefore.2.1
        exact (Nat.ne_of_lt bound (runsBefore.1.trans new)).elim
    | freed freeing resetTid freedAfter =>
        simp [freedAfter] at live
  · have same : createdFor = object := by
      simpa [created] using runs.1
    subst same
    exact .inr ⟨id, writing⟩

theorem Coherent.callStep (coherent : state.Coherent)
    (step : CallStep state id action target) : target.Coherent where
  guards := coherent.guards_callStep step
  referred _ _ := coherent.referred_callStep step
  worked _ := coherent.worked_callStep step
  mapped _ _ := coherent.mapped_callStep step
  apart _ _ _ := coherent.apart_callStep step
  unmapped _ _ := coherent.unmapped_callStep step
  claimed _ _ := coherent.claimed_callStep step
  created _ _ _ := coherent.created_callStep step
  recorded _ _ := coherent.recorded_callStep step

end Call

section Thread

variable {action : ThreadAction} {other : ThreadId}

/-- A thread leaves the calls, the table and the lock alone. -/
theorem ThreadStep.frame (step : ThreadStep state thread action target) :
    target.calls = state.calls ∧ target.syncLock = state.syncLock ∧
      target.allocated = state.allocated ∧
      target.pStreamMapping = state.pStreamMapping := by
  cases step <;> exact ⟨rfl, rfl, rfl, rfl⟩

theorem ThreadStep.threads_of_ne
    (step : ThreadStep state thread action target)
    (different : other ≠ thread) :
    target.threads other = state.threads other := by
  cases step <;> simp [different]

theorem ThreadStep.moves (step : ThreadStep state thread action target) :
    (state.threads thread).pc.Running ∧
      (target.threads thread).pc ≠ .absent ∧
      (target.threads thread).object = (state.threads thread).object := by
  cases step <;> simp_all [ThreadPc.Running]
  case getStreamInfo outcome gettingInfo alone =>
      cases outcome <;> simp [InfoOutcome.nextPc]
  case resetStream succeeded resetting alone =>
      cases succeeded <;> simp [resetPc]

theorem ThreadStep.runsOn (step : ThreadStep state thread action target)
    {object : ObjectId} (runs : target.RunsOn other object) :
    state.RunsOn other object := by
  by_cases same : other = thread
  · subst same
    obtain ⟨running, -, sameObject⟩ := step.moves
    exact ⟨sameObject ▸ runs.1, running⟩
  · simpa only [RunsOn, step.threads_of_ne same] using runs

/-- What a thread does to an object: the running thread of a live object clears
its id, which is its end. -/
theorem ThreadStep.object_cases (step : ThreadStep state thread action target)
    (object : ObjectId) :
    (target.objects object).live = (state.objects object).live ∧
      ((target.objects object).resetTid = (state.objects object).resetTid ∨
        state.RunsOn thread object ∧
          (state.objects object).live = true ∧
          (target.objects object).resetTid = none ∧
          (target.threads thread).pc = .ended) := by
  cases step
  case clearTid clearing live =>
      by_cases same : object = (state.threads thread).object
      · subst same
        have runs : state.RunsOn thread (state.threads thread).object := by
          simp [RunsOn, ThreadPc.Running, clearing]
        exact ⟨by simp, .inr ⟨runs, live, by simp, by simp⟩⟩
      · exact ⟨by simp [same], .inl (by simp [same])⟩
  all_goals exact ⟨rfl, .inl rfl⟩

theorem Coherent.recorded_threadStep (coherent : state.Coherent)
    (step : ThreadStep state thread action target) {object : ObjectId}
    (runs : target.RunsOn other object)
    (live : (target.objects object).live = true) :
    (target.objects object).resetTid = some other ∨
      ∃ id, (target.calls id).pc = .writing object other := by
  obtain ⟨sameLive, effect⟩ := step.object_cases object
  rw [sameLive] at live
  rw [step.frame.1]
  have runsBefore := step.runsOn runs
  rcases coherent.recorded other object runsBefore live with
    recorded | writing
  · rcases effect with kept | ⟨runsCleared, -, -, ended⟩
    · exact .inl (kept.trans recorded)
    · have same := coherent.single runsBefore runsCleared live
      subst same
      exact (runs.2.2.1 ended).elim
  · exact .inr writing

theorem Coherent.threadStep (coherent : state.Coherent)
    (step : ThreadStep state thread action target) : target.Coherent := by
  obtain ⟨calls, syncLock, allocated, pStreamMapping⟩ := step.frame
  have resetTid {object : ObjectId}
      (invalid : (state.objects object).resetTid = none) :
      (target.objects object).resetTid = none := by
    rcases (step.object_cases object).2 with kept | ⟨-, -, cleared, -⟩
    · rw [kept, invalid]
    · exact cleared
  have present {other : ThreadId} {object : ObjectId}
      (worksOn : (state.threads other).object = object)
      (before : (state.threads other).pc ≠ .absent) :
      (target.threads other).object = object ∧
        (target.threads other).pc ≠ .absent := by
    by_cases same : other = thread
    · subst same
      obtain ⟨-, after, sameObject⟩ := step.moves
      exact ⟨sameObject.trans worksOn, after⟩
    · rw [step.threads_of_ne same]
      exact ⟨worksOn, before⟩
  constructor
  case guards => simpa only [calls, syncLock] using coherent.guards
  case referred => simpa only [calls, allocated] using coherent.referred
  case worked =>
      intro other presentAfter
      rw [allocated]
      by_cases same : other = thread
      · subst same
        obtain ⟨running, -, sameObject⟩ := step.moves
        rw [sameObject]
        exact coherent.worked other running.1
      · rw [step.threads_of_ne same] at presentAfter ⊢
        exact coherent.worked other presentAfter
  case mapped =>
      intro streamHandle object mapped
      rw [pStreamMapping] at mapped
      rw [allocated, (step.object_cases object).1]
      exact coherent.mapped _ _ mapped
  case apart => simpa only [pStreamMapping] using coherent.apart
  case unmapped =>
      simpa only [calls, pStreamMapping] using coherent.unmapped
  case claimed =>
      intro id object claims
      rw [calls] at claims
      exact resetTid (coherent.claimed _ _ claims)
  case created =>
      intro id object other writing
      rw [calls] at writing
      obtain ⟨invalid, worksOn, before⟩ := coherent.created _ _ _ writing
      exact ⟨resetTid invalid, present worksOn before⟩
  case recorded =>
      intro other object runs live
      exact coherent.recorded_threadStep step runs live

end Thread

theorem Coherent.next {action : Action}
    (coherent : state.Coherent)
    (step : state.next action = some target) : target.Coherent := by
  cases next_cases step with
  | call step => exact coherent.callStep step
  | thread step => exact coherent.threadStep step

end State

theorem Run.coherent {ok : State → Action → Prop} {state : State}
    (run : Run ok state) : state.Coherent := by
  apply run.invariant State.Coherent State.initial_coherent
  intro before action after coherent _ step
  exact coherent.next step

end ContinuousRetry

end KvsProducer
