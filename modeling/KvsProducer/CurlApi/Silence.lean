import KvsProducer.CurlApi.StreamShutdown

/-!
# No event after a shutdown

A handler reads its `terminating` flag once more on its way out, removes itself
and only then delivers its events.  Once a stream shutdown has passed over both
collections, the handlers of the stream that have not read the flag clear by
then never deliver an event.
-/

namespace KvsProducer

namespace CurlApi

open TransitionSystem

/-- The handler has read its flag clear on its way out and has not finished. -/
def Handler.MayDeliver (handler : Handler) : Prop :=
  (handler.pc = .removing ∨ handler.pc = .notifying) ∧
      handler.requestTerminating = false ∨
    handler.pc = .reporting

instance (handler : Handler) : Decidable handler.MayDeliver :=
  inferInstanceAs (Decidable (_ ∨ _))

/-- The handler has read its flag on its way out. -/
def HandlerPc.Left (pc : HandlerPc) : Prop :=
  pc = .removing ∨ pc.Removed

/-- The call fails, or has failed, after its thread was created. -/
def CallPc.Rejected (pc : CallPc) : Prop :=
  pc = .failing true ∨ pc = .failing false ∨ pc = .freed ∨
    pc = .returned false

/-- The handler of the job will deliver nothing any more. -/
structure Job.Silenced (job : Job) : Prop where
  created : job.handler.pc ≠ .absent
  unread : ¬ job.handler.MayDeliver
  terminates : job.call.pc.Rejected ∨
    job.call.pc.Inserted ∧
      (job.request.terminating = true ∨ job.handler.pc.Left)

namespace State

variable {state target final : State} {id other : JobId}

/-- The events that the handler of a job has delivered. -/
def eventsOf (state : State) (job : JobId) : List Event :=
  state.events.filter fun event => event.job = job

theorem HandlerStep.eventsOf_of_ne {action : HandlerAction}
    (step : HandlerStep state id action target) (different : other ≠ id) :
    target.eventsOf other = state.eventsOf other := by
  have apart := Ne.symm different
  cases step
  case notify status endOfStream notifying unseen =>
      simp only [eventsOf, deliver_events, List.filter_append, setJob_events,
        Job.resultEvents]
      split
      · split <;> simp [apart]
      · simp [apart]
  case report reporting =>
      simp only [eventsOf, deliver_events, List.filter_append, setJob_events,
        Job.reportEvents]
      split <;> simp [apart]
  all_goals rfl

/-- Only a handler that has read its flag clear delivers events. -/
theorem HandlerStep.events_of_unread {action : HandlerAction}
    (step : HandlerStep state id action target)
    (unread : ¬ (state.jobs id).handler.MayDeliver) :
    target.events = state.events := by
  cases step
  case notify status endOfStream notifying unseen =>
      exact (unread (.inl ⟨.inr notifying, unseen⟩)).elim
  case report reporting => exact (unread (.inr reporting)).elim
  all_goals rfl

/-- The one moment at which a handler gets to deliver events is its read of
the flag on its way out. -/
theorem HandlerStep.mayDeliver_cases {action : HandlerAction}
    (step : HandlerStep state id action target)
    (delivers : (target.jobs id).handler.MayDeliver) :
    (state.jobs id).handler.MayDeliver ∨
      (state.jobs id).handler.pc = .exiting ∧
        (state.jobs id).request.terminating = false := by
  cases step
  case remove removing lockFree =>
      simp only [removeActive_jobs] at delivers
      split at delivers <;>
        simp_all [Handler.MayDeliver]
  case enter pc entry allocated next =>
      rcases next with rfl | rfl <;> simp [Handler.MayDeliver] at delivers
  all_goals
    simp_all [Handler.MayDeliver]
    try split at delivers <;> simp_all

theorem HandlerStep.left_kept {action : HandlerAction}
    (step : HandlerStep state id action target)
    (left : (state.jobs id).handler.pc.Left) :
    (target.jobs id).handler.pc.Left := by
  cases step
  case remove removing lockFree =>
      simp only [removeActive_jobs]
      split <;> simp [HandlerPc.Left, HandlerPc.Removed]
  all_goals simp_all [HandlerPc.Left, HandlerPc.Removed]

theorem HandlerStep.present {action : HandlerAction}
    (step : HandlerStep state id action target) :
    (target.jobs id).handler.pc ≠ .absent := by
  cases step
  case remove removing lockFree =>
      simp only [removeActive_jobs]
      split <;> simp
  case enter pc entry allocated next =>
      rcases next with rfl | rfl <;> simp
  all_goals
    simp
    try split <;> simp

theorem silenced_apiStep {action : ApiAction} {job : JobId}
    (silenced : (state.jobs job).Silenced)
    (coherent : state.Coherent)
    (step : ApiStep state id action target) :
    (target.jobs job).Silenced := by
  by_cases same : job = id
  · subst same
    have lifecycle := coherent.lifecycle job
    obtain ⟨created, unread, terminates⟩ := silenced
    have handler (kept : (target.jobs job).handler.pc =
        (state.jobs job).handler.pc)
        (keptRead : (target.jobs job).handler.requestTerminating =
          (state.jobs job).handler.requestTerminating)
        (goesOn : (target.jobs job).call.pc.Rejected ∨
          (target.jobs job).call.pc.Inserted ∧
            ((state.jobs job).request.terminating = true ∨
              (state.jobs job).handler.pc.Left)) :
        (target.jobs job).Silenced := by
      refine ⟨by rwa [kept], ?_, ?_⟩
      · simpa only [Handler.MayDeliver, kept, keptRead] using unread
      · rwa [step.terminating_eq, kept]
    cases step
    case createThread gated live =>
        simp only [Job.Lifecycle, gated] at lifecycle
        exact (created lifecycle).elim
    all_goals
      apply handler <;> simp_all [CallPc.Rejected, CallPc.Inserted]
  · rwa [step.jobs_of_ne same]

theorem silenced_handlerStep {action : HandlerAction} {job : JobId}
    (silenced : (state.jobs job).Silenced)
    (coherent : state.Coherent)
    (step : HandlerStep state id action target) :
    (target.jobs job).Silenced := by
  by_cases same : job = id
  · subst same
    refine ⟨step.present, ?_, ?_⟩
    · intro delivers
      rcases step.mayDeliver_cases delivers with before | ⟨exiting, clear⟩
      · exact silenced.unread before
      · have running : (state.jobs job).handler.pc.Running := by
          simp [HandlerPc.Running, exiting]
        obtain ⟨launched, -, -⟩ :=
          (coherent.lifecycle job).launched running
        rcases silenced.terminates with rejected | ⟨-, terminating | left⟩
        · rcases launched with at_pc | at_pc <;>
            simp [CallPc.Rejected, at_pc] at rejected
        · rw [clear] at terminating
          cases terminating
        · simp [HandlerPc.Left, HandlerPc.Removed, exiting] at left
    · rw [step.call_eq, step.terminating_eq]
      rcases silenced.terminates with
        rejected | ⟨inserted, terminating | left⟩
      · exact .inl rejected
      · exact .inr ⟨inserted, .inl terminating⟩
      · exact .inr ⟨inserted, .inr (step.left_kept left)⟩
  · rwa [coherent.jobs_of_ne step same]

theorem silenced_shutdownStep {action : ShutdownAction} {job : JobId}
    (silenced : (state.jobs job).Silenced)
    (step : ShutdownStep state id action target) :
    (target.jobs job).Silenced := by
  obtain ⟨created, unread, terminates⟩ := silenced
  refine ⟨by rwa [step.handler_eq], by rwa [step.handler_eq], ?_⟩
  rw [step.call_eq, step.handler_eq]
  rcases terminates with rejected | ⟨inserted, terminating | left⟩
  · exact .inl rejected
  · exact .inr ⟨inserted, .inl (step.terminating_mono terminating)⟩
  · exact .inr ⟨inserted, .inr left⟩

theorem silenced_next {action : Action} {job : JobId}
    (silenced : (state.jobs job).Silenced)
    (coherent : state.Coherent)
    (step : state.next action = some target) :
    (target.jobs job).Silenced ∧
      target.eventsOf job = state.eventsOf job := by
  cases next_cases step with
  | api step =>
      refine ⟨silenced_apiStep silenced coherent step, ?_⟩
      simp only [eventsOf, step.frame.2.2.2.2]
  | @handler id _ _ step =>
      refine ⟨silenced_handlerStep silenced coherent step, ?_⟩
      by_cases same : job = id
      · subst same
        simp only [eventsOf, step.events_of_unread silenced.unread]
      · exact step.eventsOf_of_ne same
  | shutdown step =>
      refine ⟨silenced_shutdownStep silenced step, ?_⟩
      simp only [eventsOf, step.frame.2.2]

/-- After the passes of a stream shutdown, every handler of the stream that
has not read its flag clear is silenced. -/
theorem Shutting.silences {call : ShutdownId} {streamHandle : StreamHandle}
    {resetStream : Bool} {job : JobId}
    (shutting : state.Shutting) (coherent : state.Coherent)
    (kind : (state.shutdowns call).kind = .stream streamHandle resetStream)
    (passed : 5 ≤ (state.shutdowns call).pc.stage)
    (sameStream : (state.jobs job).streamHandle = streamHandle)
    (created : (state.jobs job).handler.pc ≠ .absent)
    (unread : ¬ (state.jobs job).handler.MayDeliver) :
    (state.jobs job).Silenced := by
  refine ⟨created, unread, ?_⟩
  have lifecycle := coherent.lifecycle job
  have taken (collection : Collection) :
      collection.taken ≤ (state.shutdowns call).pc.stage := by
    have bounds := collection.taken_bounds
    omega
  have inserted (inserted : (state.jobs job).call.pc.Inserted) :
      (state.jobs job).request.terminating = true ∨
        (state.jobs job).handler.pc.Left := by
    by_cases removed : (state.jobs job).handler.pc.Removed
    · exact .inr (.inr removed)
    · left
      have active : job ∈ state.active (state.jobs job).collection :=
        (coherent.listed _ job).mpr ⟨rfl, inserted, removed⟩
      rcases shutting.terminates call streamHandle resetStream _ job kind
        (taken _) active sameStream with
        terminating | ⟨entries, visiting, -⟩
      · exact terminating
      · have bounds := (state.jobs job).collection.taken_bounds
        simp [visiting] at passed bounds
        omega
  have gateClosed := shutting.gateClosed call streamHandle resetStream job kind
    (taken _) sameStream
  cases pc : (state.jobs job).call.pc with
  | idle | entered | locked =>
      simp only [Job.Lifecycle, pc] at lifecycle
      exact (created lifecycle).elim
  | gated => exact (gateClosed (.inl pc)).elim
  | threadCreated => exact (gateClosed (.inr pc)).elim
  | registered => exact .inr ⟨.inl rfl, inserted (.inl pc)⟩
  | started => exact .inr ⟨.inr (.inl rfl), inserted (.inr (.inl pc))⟩
  | failing threadId => cases threadId <;> simp [CallPc.Rejected]
  | freed => simp [CallPc.Rejected]
  | returned succeeded =>
      cases succeeded with
      | true => exact .inr ⟨.inr (.inr rfl), inserted (.inr (.inr pc))⟩
      | false => simp [CallPc.Rejected]

end State

/-- No event after a shutdown: once a stream shutdown has passed over both
collections, a handler of the stream whose thread exists by then and that has
not read its flag clear delivers no further event, in any run. -/
theorem streamShutdown_silences
    {state final : State} {call : ShutdownId} {streamHandle : StreamHandle}
    {resetStream : Bool} {job : JobId}
    (reachable : Reachable state)
    (kind : (state.shutdowns call).kind = .stream streamHandle resetStream)
    (passed : 5 ≤ (state.shutdowns call).pc.stage)
    (sameStream : (state.jobs job).streamHandle = streamHandle)
    (created : (state.jobs job).handler.pc ≠ .absent)
    (unread : ¬ (state.jobs job).handler.MayDeliver)
    (run : Reaches State.next state final) :
    final.eventsOf job = state.eventsOf job := by
  have coherent := Run.coherent reachable
  have silenced := (Run.shutting reachable).silences coherent kind passed
    sameStream created unread
  have kept : (final.jobs job).Silenced ∧
      final.eventsOf job = state.eventsOf job := by
    apply run.invariant_under State.Coherent
      fun later => (later.jobs job).Silenced ∧
        later.eventsOf job = state.eventsOf job
    · exact coherent
    · intro before action after coherent step
      exact coherent.next step
    · exact ⟨silenced, rfl⟩
    · intro before action after coherent held _ step
      obtain ⟨silencedAfter, sameEvents⟩ :=
        State.silenced_next held.1 coherent step
      exact ⟨silencedAfter, sameEvents.trans held.2⟩
  exact kept.2

/-- A call that has launched its handler. -/
def launch (job : JobId) (api : Api) (streamHandle : StreamHandle) :
    List Action :=
  [.api job (.invoke api streamHandle 0), .api job .lockCollection,
    .api job .checkShuttingDown, .api job (.createThread true),
    .api job (.register true), .api job .releaseStart,
    .api job .unlockCollection, .handler job .enter]

/-- A reset passes over both collections with a handler about to call. -/
def passOverHandler : List Action :=
  launch 0 .describeStream 7 ++
    ([.handler 0 .acquireStart, .handler 0 (.prepare .success),
       .shutdown 0 (.invokeStream 7 true), .shutdown 0 .check,
       .shutdown 0 .acquire, .shutdown 0 .visit, .shutdown 0 .release,
       .shutdown 0 .acquire, .shutdown 0 .release] : List Action)

/-- The handler leaves, and the reset returns. -/
def leaveSilently : List Action :=
  [.handler 0 .checkBefore,
    .handler 0 (.checkCompleted
      { type := .undefined
        start := 0
        stop := 0
        size := 0 }),
    .handler 0 .readTerminating, .handler 0 .remove, .shutdown 0 .poll,
    .shutdown 0 .poll, .shutdown 0 .finish,
    .handler 0 (.notify .success false)]

theorem streamShutdown_silences_reset :
    let state := State.initial.after passOverHandler
    let final := state.after leaveSilently
    (state.jobs 0).handler.pc = .beforePerform ∧
      (final.jobs 0).handler.pc = .finished ∧
      (final.shutdowns 0).pc = .returned .performed ∧
      final.eventsOf 0 = state.eventsOf 0 := by
  have passed : State.initial.CanTake passOverHandler := by decide
  have left :
      (State.initial.after passOverHandler).CanTake leaveSilently := by
    decide
  refine ⟨by decide, by decide, by decide, ?_⟩
  exact @streamShutdown_silences _ _ 0 7 true 0 (steps_stateAfter passed) rfl
    (by decide) rfl (by decide) (by decide)
    (steps_stateAfter left)

/-- A shutdown is in progress while a handler of the stream is about to
leave. -/
def shutdownInProgress : List Action :=
  launch 0 .describeStream 7 ++
    ([.handler 0 .acquireStart, .handler 0 (.prepare .nullArg),
       .shutdown 0 (.invokeStream 7 false), .shutdown 0 .check] : List Action)

/-- A second shutdown of the stream returns at once. -/
def returnsAtOnce : List Action :=
  [.shutdown 1 (.invokeStream 7 false), .shutdown 1 .check]

def delivers : List Action :=
  [.handler 0 .readTerminating, .handler 0 .remove,
    .handler 0 (.notify .success false)]

/-- A shutdown call that finds another one in progress returns a success at
once, and the handlers of the stream deliver their events after it. -/
theorem delivers_after_return :
    ¬ ∀ (before after final : State) (call : ShutdownId) (job : JobId)
      (streamHandle : StreamHandle) (resetStream : Bool) (outcome : Outcome),
      Reachable before → (before.shutdowns call).pc = .idle →
      (before.jobs job).handler.pc ≠ .absent →
      (before.jobs job).streamHandle = streamHandle →
      Reaches State.next before after →
      after.shutdowns call =
        { kind := .stream streamHandle resetStream
          pc := .returned outcome } →
      outcome = .performed ∨ outcome = .already →
      Reaches State.next after final →
      final.eventsOf job = after.eventsOf job := by
  intro claim
  have started : State.initial.CanTake shutdownInProgress := by decide
  have returned :
      (State.initial.after shutdownInProgress).CanTake returnsAtOnce := by
    decide
  have delivered :
      ((State.initial.after shutdownInProgress).after returnsAtOnce).CanTake
        delivers := by
    decide
  have silent := claim _ _ _ 1 0 7 false .already (steps_stateAfter started)
    (by decide) (by decide) (by decide) (steps_stateAfter returned) (by decide)
    (.inr rfl) (steps_stateAfter delivered)
  exact absurd silent (by decide)

end CurlApi

end KvsProducer
