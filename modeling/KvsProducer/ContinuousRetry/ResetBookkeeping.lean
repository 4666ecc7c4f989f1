import KvsProducer.ContinuousRetry.Coherence

/-!
# The recorded reset thread

The creator of a reset thread writes its id after the thread was started, and
the thread clears the id at its end.  A thread that ends first leaves its id
recorded for good, and the stream is never reset again.
-/

namespace KvsProducer

namespace ContinuousRetry

open TransitionSystem

namespace State

variable {state target final : State}

/-- A reset thread of the stream is running or about to run. -/
def Resetting (state : State) (streamHandle : StreamHandle)
    (thread : ThreadId) : Prop :=
  ∃ object, state.pStreamMapping streamHandle = some object ∧
    state.RunsOn thread object

/-- At most one reset thread runs for a stream, and when there is none the next
retriable error starts one. -/
structure Bookkept (state : State) : Prop where
  single : ∀ streamHandle first second,
    state.Resetting streamHandle first →
      state.Resetting streamHandle second → first = second
  invalid : ∀ streamHandle object,
    state.pStreamMapping streamHandle = some object →
      (∀ thread, ¬ state.Resetting streamHandle thread) →
        (state.objects object).resetTid = none

/-- The thread id that a step writes. -/
def writtenTid (state : State) : Action → Option ThreadId
  | .call id .writeTid =>
      match (state.calls id).pc with
      | .writing _ thread => some thread
      | _ => none
  | _ => none

/-- The thread whose id is written has not ended. -/
def WritesRunning (state : State) (action : Action) : Prop :=
  ∀ thread, state.writtenTid action = some thread →
    (state.threads thread).pc.Running

instance (state : State) (action : Action) :
    Decidable (state.WritesRunning action) :=
  match written : state.writtenTid action with
  | none => .isTrue (by simp [WritesRunning, written])
  | some thread =>
      decidable_of_iff (state.threads thread).pc.Running
        (by simp [WritesRunning, written])

/-- The threads that are recorded in objects that are not freed are running. -/
def RecordsRunning (state : State) : Prop :=
  ∀ thread object, (state.objects object).live = true →
    (state.objects object).resetTid = some thread →
      state.RunsOn thread object

theorem CallStep.runsOn_kept {id : CallId} {action : CallAction}
    {thread : ThreadId} {object : ObjectId}
    (step : CallStep state id action target)
    (runs : state.RunsOn thread object) : target.RunsOn thread object := by
  rcases step.thread_cases thread with ⟨samePc, sameObject⟩ |
    ⟨_, _, absent, _⟩
  · simpa only [RunsOn, samePc, sameObject] using runs
  · exact (runs.2.1 absent).elim

theorem ThreadStep.runsOn_kept {action : ThreadAction}
    {thread other : ThreadId} {object : ObjectId}
    (step : ThreadStep state thread action target)
    (runs : state.RunsOn other object)
    (live : (state.objects object).live = true) :
    target.RunsOn other object ∨
      (target.objects object).resetTid = none := by
  by_cases same : other = thread
  · subst same
    obtain ⟨worksOn, running⟩ := runs
    subst worksOn
    cases step
    case clearTid clearing liveBefore => exact .inr (by simp)
    case crash crashing freed => simp [live] at freed
    case getStreamInfo outcome gettingInfo alone =>
        cases outcome <;>
          simp [RunsOn, InfoOutcome.nextPc, ThreadPc.Running]
    case resetStream succeeded resetting alone =>
        cases succeeded <;> simp [RunsOn, resetPc, ThreadPc.Running]
    all_goals simp [RunsOn, ThreadPc.Running]
  · left
    simpa only [RunsOn, step.threads_of_ne same] using runs

theorem RecordsRunning.next {action : Action}
    (records : state.RecordsRunning) (coherent : state.Coherent)
    (writes : state.WritesRunning action)
    (step : state.next action = some target) : target.RecordsRunning := by
  intro thread object live recorded
  cases next_cases step with
  | call step =>
      cases step.objectEffect object with
      | unchanged resetTid sameLive =>
          apply step.runsOn_kept
          apply records thread object
          · rwa [← sameLive]
          · rwa [← resetTid]
      | written write writing liveBefore resetTid liveAfter =>
          subst write
          have same := resetTid.symm.trans recorded
          cases same
          obtain ⟨-, worksOn, -⟩ := coherent.created _ _ _ writing
          have running := writes thread (by simp [writtenTid, writing])
          exact step.runsOn_kept ⟨worksOn, running⟩
      | allocated lookingUp new resetTid liveAfter =>
          simp [resetTid] at recorded
      | freed freeing resetTid freedAfter => simp [freedAfter] at live
  | thread step =>
      obtain ⟨sameLive, effect⟩ := step.object_cases object
      rw [sameLive] at live
      rcases effect with kept | ⟨-, -, cleared, -⟩
      · rw [kept] at recorded
        rcases step.runsOn_kept (records thread object live recorded) live with
          runs | cleared
        · exact runs
        · simp [kept, recorded] at cleared
      · simp [cleared] at recorded

theorem Coherent.single_resetting (coherent : state.Coherent)
    {streamHandle : StreamHandle} {first second : ThreadId}
    (resetsFirst : state.Resetting streamHandle first)
    (resetsSecond : state.Resetting streamHandle second) :
    first = second := by
  obtain ⟨object, mapped, runsFirst⟩ := resetsFirst
  obtain ⟨other, otherMapped, runsSecond⟩ := resetsSecond
  rw [mapped] at otherMapped
  cases otherMapped
  exact coherent.single runsFirst runsSecond (coherent.mapped _ _ mapped).2

/-- The id of a thread that has ended is what the condition keeps out: written
to an object in the table, it leaves the stream without a thread and with a
valid id. -/
theorem Coherent.not_bookkept_of_write {id : CallId} {object : ObjectId}
    {thread : ThreadId} {streamHandle : StreamHandle}
    (coherent : state.Coherent)
    (writing : (state.calls id).pc = .writing object thread)
    (mapped : state.pStreamMapping streamHandle = some object)
    (ended : ¬ (state.threads thread).pc.Running)
    (step : state.next (.call id .writeTid) = some target) :
    ¬ target.Bookkept := by
  intro bookkept
  have live := (coherent.mapped _ _ mapped).2
  have written : target = (state.setObject object
      { state.objects object with resetTid := some thread }).callAt id
        .releasing := by
    simp only [State.next, State.callStep, writing, if_pos live] at step
    exact (Option.some.inj step).symm
  have alone (other : ThreadId) : ¬ target.Resetting streamHandle other := by
    rintro ⟨otherObject, otherMapped, runs⟩
    have same : object = otherObject := by
      simpa [written, mapped] using otherMapped
    subst same
    have runsBefore : state.RunsOn other object := by
      simpa [written, RunsOn] using runs
    rcases coherent.recorded other object runsBefore live with
      recorded | ⟨otherCall, otherWriting⟩
    · simp [(coherent.created _ _ _ writing).1] at recorded
    · have sameCall : otherCall = id := by
        apply coherent.guards.exclusive <;>
          simp [writing, otherWriting, CallPc.Holds]
      subst sameCall
      rw [writing] at otherWriting
      cases otherWriting
      exact ended runsBefore.2
  have invalid := bookkept.invalid streamHandle object
    (by simpa [written] using mapped) alone
  simp [written] at invalid

/-- A valid id is recorded for a stream that no thread resets. -/
structure Wedged (state : State) (object : ObjectId) : Prop where
  known : object < state.allocated
  valid : (state.objects object).live = true →
    (state.objects object).resetTid ≠ none
  alone : (state.objects object).live = true →
    ∀ thread, ¬ state.RunsOn thread object

theorem Wedged.next {object : ObjectId} {action : Action}
    (wedged : state.Wedged object) (coherent : state.Coherent)
    (step : state.next action = some target) : target.Wedged object := by
  obtain ⟨known, valid, alone⟩ := wedged
  cases next_cases step with
  | @call id action _ step =>
      have bound := Nat.lt_of_lt_of_le known step.allocated_le
      have noThread (live : (state.objects object).live = true)
          (thread : ThreadId) : ¬ target.RunsOn thread object := by
        intro runs
        rcases step.thread_cases thread with ⟨samePc, sameObject⟩ |
          ⟨createdFor, creating, -, -, created⟩
        · apply alone live thread
          simpa only [RunsOn, samePc, sameObject] using runs
        · have same : createdFor = object := by simpa [created] using runs.1
          subst same
          exact valid live (coherent.claimed _ _ (.inr creating))
      cases step.objectEffect object with
      | unchanged resetTid sameLive =>
          refine ⟨bound, ?_, ?_⟩
          · rwa [sameLive, resetTid]
          · rwa [sameLive]
      | written write writing live resetTid liveAfter =>
          exact (valid live (coherent.created _ _ _ writing).1).elim
      | allocated lookingUp new resetTid liveAfter =>
          exact (Nat.ne_of_lt known new).elim
      | freed freeing resetTid freedAfter =>
          refine ⟨bound, ?_, ?_⟩ <;> simp [freedAfter]
  | thread step =>
      obtain ⟨sameLive, effect⟩ := step.object_cases object
      refine ⟨by rwa [step.frame.2.2.1], ?_, ?_⟩
      · intro live
        rw [sameLive] at live
        rcases effect with kept | ⟨runs, -⟩
        · rw [kept]
          exact valid live
        · exact (alone live _ runs).elim
      · intro live thread runs
        rw [sameLive] at live
        exact alone live thread (step.runsOn runs)

/-- Once a stream is left with the id of a thread that has ended, no reset is
started for it as long as its object is there, whatever errors are reported. -/
theorem Wedged.never_resets {object : ObjectId}
    (wedged : state.Wedged object) (coherent : state.Coherent)
    (run : Reaches State.next state final)
    (live : (final.objects object).live = true) (thread : ThreadId) :
    ¬ final.RunsOn thread object := by
  have kept : final.Wedged object := by
    apply run.invariant_under State.Coherent fun later => later.Wedged object
    · exact coherent
    · intro before action after coherent step
      exact coherent.next step
    · exact wedged
    · intro before action after coherent wedged _ step
      exact wedged.next coherent step
  exact kept.alone live thread

end State

/-- The bookkeeping of the reset threads, in any run in which no creator writes
the id of a thread that has ended. -/
theorem reset_bookkept {state : State}
    (run : Run State.WritesRunning state) : state.Bookkept := by
  have coherent := run.coherent
  have records : state.RecordsRunning := by
    apply run.invariant_under State.Coherent State.RecordsRunning
    · exact State.initial_coherent
    · intro before action after coherent step
      exact coherent.next step
    · intro thread object live
      simp [State.initial] at live
    · intro before action after coherent records writes step
      exact records.next coherent writes step
  refine ⟨fun _ _ _ => coherent.single_resetting, ?_⟩
  intro streamHandle object mapped alone
  cases recorded : (state.objects object).resetTid with
  | none => rfl
  | some thread =>
      have live := (coherent.mapped _ _ mapped).2
      exact (alone thread
        ⟨object, mapped, records thread object live recorded⟩).elim

/-- A retriable error report up to the creation of a reset thread. -/
def reportError (id : CallId) (streamHandle : StreamHandle)
    (thread : ThreadId) : List Action :=
  [.call id (.invoke (.errorReport 0 0 .retriable) streamHandle none),
    .call id .lock, .call id (.lookUp true), .call id .unlock, .call id .lock,
    .call id .check, .call id .store, .call id (.createThread (some thread))]

def recordThread (id : CallId) : List Action :=
  [.call id .writeTid, .call id .unlock]

/-- A reset that succeeds. -/
def resetStream (thread : ThreadId) : List Action :=
  [.thread thread .start, .thread thread (.getStreamInfo .online),
    .thread thread (.resetStream true), .thread thread .clearTid]

/-- Two errors, one after the reset of the other. -/
def resetTwice : List Action :=
  reportError 0 7 1 ++ recordThread 0 ++ resetStream 1 ++
    reportError 1 7 2 ++ recordThread 1

theorem reset_bookkept_twice :
    (stateAfter State.next State.WritesRunning State.initial
      resetTwice).Bookkept := by
  have taken : (replay State.next State.WritesRunning State.initial
      resetTwice).isSome = true := by
    decide
  exact reset_bookkept (steps_stateAfter taken)

/-- The steps of retriable error reports and of reset threads. -/
def Action.ofErrorReports : Action → Bool
  | .call _ (.invoke (.errorReport _ _ .retriable) _ _) => true
  | .call _ (.invoke _ _ _) => false
  | _ => true

/-- The states of runs of retriable error reports. -/
abbrev ErrorRun (state : State) : Prop :=
  Run (fun _ action => action.ofErrorReports = true) state

abbrev afterErrors (actions : List Action) : State :=
  stateAfter State.next (fun _ action => action.ofErrorReports = true)
    State.initial actions

/-- The thread ends before its creator goes on. -/
def threadEndsFirst : List Action :=
  reportError 0 7 1 ++ resetStream 1

theorem reset_not_bookkept :
    ¬ ∀ state, ErrorRun state → state.Bookkept := by
  intro claim
  have taken : (replay State.next
      (fun _ action => action.ofErrorReports = true) State.initial
      threadEndsFirst).isSome = true := by
    decide
  have run := steps_stateAfter taken
  have writing :
      ((afterErrors threadEndsFirst).calls 0).pc = .writing 0 1 := by
    decide
  have mapped : (afterErrors threadEndsFirst).pStreamMapping 7 = some 0 := by
    decide
  have ended : ¬ ((afterErrors threadEndsFirst).threads 1).pc.Running := by
    decide
  have writes : ((afterErrors threadEndsFirst).next
      (.call 0 .writeTid)).isSome = true := by
    decide
  obtain ⟨target, step⟩ := Option.isSome_iff_exists.mp writes
  exact (Run.coherent run).not_bookkept_of_write writing mapped ended step
    (claim target (run.tail rfl step))

end ContinuousRetry

end KvsProducer
