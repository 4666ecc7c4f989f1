import KvsProducer.CurlApi.Silence

/-!
# An API call that is rejected after its thread was created

`hashTablePut` fails when the stream has an active request.  The call then asks
for the cancellation of the new thread and frees its request and start lock at
once.  The thread has no cancellation point between its start and its start
lock, other than a log message in one of the handlers, so it can go on to touch
what was freed.
-/

namespace KvsProducer

namespace CurlApi

open TransitionSystem

namespace State

variable {state target final : State} {id other : JobId}

/-- A call that fails after its thread was created leaves the collections and
all other jobs as they were. -/
theorem ApiStep.rejected_frame {action : ApiAction}
    (step : ApiStep state id action target)
    (rejected : (target.jobs id).call.pc.Rejected) :
    target.active = state.active ∧
      ∀ other, other ≠ id → target.jobs other = state.jobs other := by
  refine ⟨?_, fun _ => step.jobs_of_ne⟩
  rcases step.active_cases with unchanged | ⟨-, -, registered, -⟩
  · exact unchanged
  · simp [registered, CallPc.Rejected] at rejected

/-- The handler of the job never touches its request or start lock after they
were freed, in any continuation. -/
def Harmless (state : State) (job : JobId) : Prop :=
  ∀ final, Reaches State.next state final →
    (final.jobs job).handler.pc ≠ .crashed

theorem reaches_step (action : Action)
    (step : state.next action = some target) :
    Reaches State.next state target :=
  .tail .refl trivial step

/-- A thread that has not passed its start lock crashes when it goes on with
its request freed. -/
theorem crashes_of_freed
    (waiting : (state.jobs id).handler.pc.Waiting)
    (freed : (state.jobs id).request.life = .freed) :
    ¬ state.Harmless id := by
  intro harmless
  have atLock (before : State)
      (awaiting : (before.jobs id).handler.pc = .awaitStart)
      (freedBefore : (before.jobs id).request.life = .freed) :
      Reaches State.next before
        (before.setJob id ((before.jobs id).handlerAt .crashed)) := by
    apply reaches_step (.handler id .acquireStart)
    simp [State.next, handlerStep, awaiting, freedBefore]
  rcases waiting with entry | logging | awaiting
  · apply harmless (state.setJob id ((state.jobs id).handlerAt .crashed))
    · apply reaches_step (.handler id .enter)
      simp [State.next, handlerStep, entry, freed]
    · simp
  · let logged := state.setJob id ((state.jobs id).handlerAt .awaitStart)
    have log : Reaches State.next state logged := by
      apply reaches_step (.handler id .log)
      simp [State.next, handlerStep, logging, logged]
    apply harmless (logged.setJob id ((logged.jobs id).handlerAt .crashed))
    · exact log.trans (atLock logged (by simp [logged])
        (by simpa [logged] using freed))
    · simp
  · apply harmless _ (atLock state awaiting freed)
    simp

end State

/-- No rejected call is harmless: from every state in which a call with a new
thread meets an active request of its stream, some order of steps lets the
thread touch its request or start lock after they were freed. -/
theorem rejected_call_not_harmless
    {state : State} {job : JobId}
    (reachable : Reachable state)
    (created : (state.jobs job).call.pc = .threadCreated)
    (conflict : state.Conflict (state.jobs job)) :
    ¬ state.Harmless job := by
  intro harmless
  have lifecycle := (Run.coherent reachable).lifecycle job
  simp only [Job.Lifecycle, created] at lifecycle
  obtain ⟨waiting, -, live, -⟩ := lifecycle
  let refused := state.setJob job ((state.jobs job).callAt (.failing true))
  let cancelled := refused.setJob job
    ((refused.jobs job).cancelThread.callAt (.failing false))
  let freed := cancelled.setJob job
    ((cancelled.jobs job).freeRequest.callAt .freed)
  have refuse : state.next (.api job (.register true)) = some refused := by
    simp [State.next, State.apiStep, created, conflict, refused]
  have cancel : refused.next (.api job .cancelThread) = some cancelled := by
    simp [State.next, State.apiStep, refused, cancelled]
  have free : cancelled.next (.api job .freeRequest) = some freed := by
    simp [State.next, State.apiStep, cancelled, freed]
  have reached : Reaches State.next state freed :=
    .tail (.tail (.tail .refl trivial refuse) trivial cancel) trivial free
  have crashes : ¬ freed.Harmless job := by
    apply State.crashes_of_freed
    · simpa [freed, cancelled, refused] using waiting
    · simp [freed, cancelled, refused, Job.freeRequest_request, live]
  apply crashes
  intro final continued
  exact harmless final (reached.trans continued)

/-- PIC retries a call while the earlier one is active. -/
def retriedCall : List Action :=
  launch 0 .getStreamingEndpoint 7 ++
    ([.api 1 (.invoke .getStreamingEndpoint 7 0), .api 1 .lockCollection,
       .api 1 .checkShuttingDown, .api 1 (.createThread true)] : List Action)

theorem rejected_call_not_harmless_retried :
    ¬ (State.initial.after retriedCall).Harmless 1 := by
  have taken : State.initial.CanTake retriedCall := by decide
  exact rejected_call_not_harmless (steps_stateAfter taken) (by decide)
    (by decide)

/-- The thread of the retried call waits for its start lock when the call fails
and frees it. -/
def freedBeforeLock : List Action :=
  [.handler 1 .enter, .api 1 (.register true), .api 1 .cancelThread,
    .api 1 .freeRequest, .handler 1 .acquireStart]

theorem rejected_call_crashes :
    ¬ ∀ (state : State) (job : JobId), Reachable state →
      (state.jobs job).call.pc = .threadCreated →
      state.Conflict (state.jobs job) →
      state.Harmless job := by
  intro claim
  have taken : State.initial.CanTake retriedCall := by decide
  have crashed :
      (State.initial.after retriedCall).CanTake freedBeforeLock := by
    decide
  have harmless := claim _ 1 (steps_stateAfter taken) (by decide) (by decide)
  exact harmless _ (steps_stateAfter crashed) (by decide)

end CurlApi

end KvsProducer
