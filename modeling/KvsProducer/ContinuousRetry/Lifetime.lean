import KvsProducer.ContinuousRetry.Coherence

/-!
# The lifetime of the objects

`freeStreamMapping` joins the recorded reset thread before it frees an object,
and both are done under the lock.  So a reset thread always works on a live
object.  `getStreamMapping` gives up the lock before its caller looks at the
object, and nothing keeps the object alive from there on.
-/

namespace KvsProducer

namespace ContinuousRetry

open TransitionSystem

/-- The call came to its object in the critical section that it is in. -/
def CallPc.Keeps (pc : CallPc) (object : ObjectId) : Prop :=
  pc.object = some object ∧ pc ≠ .obtained object ∧ pc ≠ .checking object

theorem CallPc.Keeps.holds {pc : CallPc} {object : ObjectId}
    (keeps : pc.Keeps object) : pc.Holds := by
  obtain ⟨refers, notObtained, notChecking⟩ := keeps
  cases pc <;> simp_all [CallPc.object, Holds]

/-- A call has an object outside of the lock only where it has obtained it. -/
theorem CallPc.obtained_or_holds {pc : CallPc} {object : ObjectId}
    (refers : pc.object = some object) : pc = .obtained object ∨ pc.Holds := by
  cases pc <;> simp_all [CallPc.object, Holds]

namespace State

variable {state target final : State} {id : CallId} {thread : ThreadId}
variable {object : ObjectId}

/-- No call and no reset thread has gone on with a freed object. -/
def Safe (state : State) : Prop :=
  (∀ id, (state.calls id).pc ≠ .crashed) ∧
    ∀ thread, (state.threads thread).pc ≠ .crashed

/-- What holds of the live objects in every state. -/
structure Guarded (state : State) : Prop where
  kept : ∀ id object, (state.calls id).pc.Keeps object →
    (state.objects object).live = true
  worked : ∀ thread object, state.RunsOn thread object →
    (state.objects object).live = true
  awaited : ∀ id object thread, (state.calls id).pc = .joining object thread →
    ∀ other, state.RunsOn other object → other = thread
  joined : ∀ id object, (state.calls id).pc = .freeing object →
    ∀ thread, ¬ state.RunsOn thread object
  uncrashed : ∀ thread, (state.threads thread).pc ≠ .crashed

theorem initial_guarded : initial.Guarded := by
  constructor <;>
    simp [initial, CallPc.Keeps, CallPc.object, RunsOn, ThreadPc.Running]

section Call

variable {action : CallAction}

theorem CallStep.live (step : CallStep state id action target)
    (live : (state.objects object).live = true) :
    (target.objects object).live = true ∨
      (state.calls id).pc = .freeing object ∧ action = .free := by
  cases step
  case free freed freeing =>
      by_cases same : object = freed
      · subst same
        exact .inr ⟨freeing, rfl⟩
      · exact .inl (by simpa [same] using live)
  case allocate lookingUp unmapped =>
      by_cases new : object = state.allocated
      · exact .inl (by simp [new, CallbackStateMachine.initial])
      · exact .inl (by simpa [new] using live)
  case setReady changed obtained liveBefore kind =>
      by_cases same : object = changed
      · exact .inl (by simp [same, liveBefore])
      · exact .inl (by simpa [same] using live)
  case store changed storing liveBefore =>
      by_cases same : object = changed
      · exact .inl (by simp [same, liveBefore])
      · exact .inl (by simpa [same] using live)
  case writeTid changed written writing liveBefore =>
      by_cases same : object = changed
      · exact .inl (by simp [same, liveBefore])
      · exact .inl (by simpa [same] using live)
  all_goals exact .inl live

theorem CallStep.new_live (step : CallStep state id action target)
    (next : target.allocated = state.allocated + 1) :
    (target.objects state.allocated).live = true := by
  cases step
  case allocate lookingUp unmapped => simp [CallbackStateMachine.initial]
  all_goals simp at next

/-- How a call comes to an object that it keeps: through the table, by a look
at the object, or with the object that it has kept. -/
theorem CallStep.keeps (step : CallStep state id action target)
    (keeps : (target.calls id).pc.Keeps object) :
    (state.calls id).pc.Keeps object ∨
      (state.objects object).live = true ∨
      (target.objects object).live = true ∨
      state.pStreamMapping (state.calls id).streamHandle = some object := by
  cases step
  case invoke kind streamHandle host idle callable =>
      rcases kind.firstPc_cases with first | first <;>
        simp [first, CallPc.Keeps, CallPc.object] at keeps
  case lock entered lockFree =>
      rcases (state.calls id).kind.lockedPc_cases with locked | locked <;>
        simp [locked, CallPc.Keeps, CallPc.object] at keeps
  case allocate lookingUp unmapped =>
      have new : state.allocated = object := by
        simpa [CallPc.Keeps, CallPc.object] using keeps
      subst new
      simp [CallbackStateMachine.initial]
  all_goals simp_all [CallPc.Keeps, CallPc.object]

theorem CallStep.joining (step : CallStep state id action target)
    (joining : (target.calls id).pc = .joining object thread) :
    action = .readTid ∧ target = state.callAt id (.joining object thread) ∧
      (state.calls id).pc = .removed object ∧
      (state.objects object).resetTid = some thread := by
  cases step
  case invoke kind streamHandle host idle callable =>
      rcases kind.firstPc_cases with first | first <;>
        simp [first] at joining
  case lock entered lockFree =>
      rcases (state.calls id).kind.lockedPc_cases with locked | locked <;>
        simp [locked] at joining
  case readValid read recorded removed live valid =>
      obtain ⟨rfl, rfl⟩ : read = object ∧ recorded = thread := by
        simpa using joining
      exact ⟨rfl, rfl, removed, valid⟩
  all_goals simp_all

/-- A call that is about to free an object has seen its thread end, or has
found no thread recorded. -/
theorem CallStep.freeing (step : CallStep state id action target)
    (freeing : (target.calls id).pc = .freeing object) :
    (∀ other, target.RunsOn other object → state.RunsOn other object) ∧
      ((state.calls id).pc = .removed object ∧
          (state.objects object).resetTid = none ∨
        ∃ thread, (state.calls id).pc = .joining object thread ∧
          (state.threads thread).pc = .ended) := by
  cases step
  case invoke kind streamHandle host idle callable =>
      rcases kind.firstPc_cases with first | first <;>
        simp [first] at freeing
  case lock entered lockFree =>
      rcases (state.calls id).kind.lockedPc_cases with locked | locked <;>
        simp [locked] at freeing
  all_goals simp_all [RunsOn]

/-- A call that holds the lock keeps the others from creating threads. -/
theorem Coherent.runsOn_of_holds (coherent : state.Coherent)
    (step : CallStep state id action target) {other : CallId}
    (different : other ≠ id) (holds : (state.calls other).pc.Holds)
    (runs : target.RunsOn thread object) : state.RunsOn thread object := by
  rcases step.thread_cases thread with ⟨samePc, sameObject⟩ |
    ⟨createdFor, creating, -⟩
  · simpa only [RunsOn, samePc, sameObject] using runs
  · have same : other = id := by
      apply coherent.guards.exclusive holds
      simp [creating, CallPc.Holds]
    exact (different same).elim

/-- A call that has taken a live object out of the table finds its running
thread recorded. -/
theorem Coherent.recorded_of_removed (coherent : state.Coherent)
    (removed : (state.calls id).pc = .removed object)
    (live : (state.objects object).live = true)
    (runs : state.RunsOn thread object) :
    (state.objects object).resetTid = some thread := by
  rcases coherent.recorded _ _ runs live with recorded | ⟨other, writing⟩
  · exact recorded
  · have same : other = id := by
      apply coherent.guards.exclusive <;>
        simp [writing, removed, CallPc.Holds]
    subst same
    simp [removed] at writing

theorem Guarded.kept_callStep (guarded : state.Guarded)
    (coherent : state.Coherent) (step : CallStep state id action target)
    {other : CallId} (keeps : (target.calls other).pc.Keeps object) :
    (target.objects object).live = true := by
  have stays (live : (state.objects object).live = true) :
      (target.objects object).live = true := by
    rcases step.live live with kept | ⟨freeing, freed⟩
    · exact kept
    · by_cases same : other = id
      · subst same
        subst freed
        cases step <;> simp_all [CallPc.Keeps, CallPc.object]
      · rw [step.calls_of_ne same] at keeps
        have frees : (state.calls id).pc.Holds := by
          simp [freeing, CallPc.Holds]
        exact (same (coherent.guards.exclusive keeps.holds frees)).elim
  by_cases same : other = id
  · subst same
    rcases step.keeps keeps with before | live | liveAfter | mapped
    · exact stays (guarded.kept _ _ before)
    · exact stays live
    · exact liveAfter
    · exact stays (coherent.mapped _ _ mapped).2
  · rw [step.calls_of_ne same] at keeps
    exact stays (guarded.kept _ _ keeps)

theorem Guarded.worked_callStep (guarded : state.Guarded)
    (step : CallStep state id action target)
    (runs : target.RunsOn thread object) :
    (target.objects object).live = true := by
  rcases step.thread_cases thread with ⟨samePc, sameObject⟩ |
    ⟨createdFor, creating, -, writing, created⟩
  · have runsBefore : state.RunsOn thread object := by
      simpa only [RunsOn, samePc, sameObject] using runs
    rcases step.live (guarded.worked _ _ runsBefore) with live | ⟨freeing, -⟩
    · exact live
    · exact (guarded.joined _ _ freeing _ runsBefore).elim
  · have same : createdFor = object := by simpa [created] using runs.1
    subst same
    have live : (state.objects createdFor).live = true := by
      apply guarded.kept id
      simp [creating, CallPc.Keeps, CallPc.object]
    rcases step.live live with liveAfter | ⟨freeing, -⟩
    · exact liveAfter
    · simp [creating] at freeing

theorem Guarded.awaited_callStep (guarded : state.Guarded)
    (coherent : state.Coherent) (step : CallStep state id action target)
    {other : CallId} {running : ThreadId}
    (joining : (target.calls other).pc = .joining object thread)
    (runs : target.RunsOn running object) : running = thread := by
  by_cases same : other = id
  · subst same
    obtain ⟨-, target_eq, removed, recorded⟩ := step.joining joining
    have before : state.RunsOn running object := by
      simpa only [RunsOn, target_eq, callAt_threads] using runs
    have live : (state.objects object).live = true := by
      apply guarded.kept other
      simp [removed, CallPc.Keeps, CallPc.object]
    have recordedRunning :=
      coherent.recorded_of_removed removed live before
    rw [recorded] at recordedRunning
    exact (Option.some.inj recordedRunning).symm
  · rw [step.calls_of_ne same] at joining
    apply guarded.awaited other object thread joining
    apply coherent.runsOn_of_holds step same _ runs
    simp [joining, CallPc.Holds]

theorem Guarded.joined_callStep (guarded : state.Guarded)
    (coherent : state.Coherent) (step : CallStep state id action target)
    {other : CallId} (freeing : (target.calls other).pc = .freeing object) :
    ¬ target.RunsOn thread object := by
  intro runs
  by_cases same : other = id
  · subst same
    obtain ⟨before, ⟨removed, invalid⟩ | ⟨joined, joining, ended⟩⟩ :=
      step.freeing freeing
    · have live : (state.objects object).live = true := by
        apply guarded.kept other
        simp [removed, CallPc.Keeps, CallPc.object]
      have recorded :=
        coherent.recorded_of_removed removed live (before _ runs)
      simp [invalid] at recorded
    · have running := before _ runs
      have same := guarded.awaited _ _ _ joining _ running
      subst same
      exact running.2.2.1 ended
  · rw [step.calls_of_ne same] at freeing
    apply guarded.joined other object freeing thread
    apply coherent.runsOn_of_holds step same _ runs
    simp [freeing, CallPc.Holds]

theorem Guarded.callStep (guarded : state.Guarded)
    (coherent : state.Coherent) (step : CallStep state id action target) :
    target.Guarded where
  kept _ _ := guarded.kept_callStep coherent step
  worked _ _ := guarded.worked_callStep step
  awaited _ _ _ joining _ := guarded.awaited_callStep coherent step joining
  joined _ _ freeing _ := guarded.joined_callStep coherent step freeing
  uncrashed thread := by
    rcases step.thread_cases thread with ⟨samePc, -⟩ |
      ⟨object, -, -, -, created⟩
    · rw [samePc]
      exact guarded.uncrashed thread
    · simp [created]

end Call

theorem Guarded.threadStep {action : ThreadAction} (guarded : state.Guarded)
    (step : ThreadStep state thread action target) : target.Guarded := by
  obtain ⟨calls, -⟩ := step.frame
  constructor
  case kept =>
      intro id object keeps
      rw [calls] at keeps
      rw [(step.object_cases object).1]
      exact guarded.kept id object keeps
  case worked =>
      intro other object runs
      rw [(step.object_cases object).1]
      exact guarded.worked other object (step.runsOn runs)
  case awaited =>
      intro id object awaited joining other runs
      rw [calls] at joining
      exact guarded.awaited id object awaited joining other (step.runsOn runs)
  case joined =>
      intro id object freeing other runs
      rw [calls] at freeing
      exact guarded.joined id object freeing other (step.runsOn runs)
  case uncrashed =>
      intro other crashed
      by_cases same : other = thread
      · subst same
        have live := guarded.worked other _ ⟨rfl, step.moves.1⟩
        cases step
        case crash running freed => simp [live] at freed
        case getStreamInfo outcome gettingInfo alone =>
            cases outcome <;> simp [InfoOutcome.nextPc] at crashed
        case resetStream succeeded resetting alone =>
            cases succeeded <;> simp [resetPc] at crashed
        all_goals simp at crashed
      · rw [step.threads_of_ne same] at crashed
        exact guarded.uncrashed other crashed

theorem Guarded.next {action : Action} (guarded : state.Guarded)
    (coherent : state.Coherent) (step : state.next action = some target) :
    target.Guarded := by
  cases next_cases step with
  | call step => exact guarded.callStep coherent step
  | thread step => exact guarded.threadStep step

end State

theorem Run.guarded {ok : State → Action → Prop} {state : State}
    (run : Run ok state) : state.Guarded := by
  apply run.invariant_under State.Coherent State.Guarded
  · exact State.initial_coherent
  · intro before action after coherent step
    exact coherent.next step
  · exact State.initial_guarded
  · intro before action after coherent guarded _ step
    exact guarded.next coherent step

/-- The call that a step is taken by. -/
def Action.caller : Action → Option CallId
  | .call id _ => some id
  | .thread _ _ => none

namespace State

variable {state target : State} {id other : CallId} {object : ObjectId}

/-- The object that a step frees. -/
def freedObject (state : State) : Action → Option ObjectId
  | .call id .free =>
      match (state.calls id).pc with
      | .freeing object => some object
      | _ => none
  | _ => none

/-- No call has obtained the object that the step frees. -/
def FreesUnused (state : State) (action : Action) : Prop :=
  ∀ object ∈ state.freedObject action,
    ∀ other, (state.calls other).pc ≠ .obtained object

/-- The calls work on live objects. -/
def CallsLive (state : State) : Prop :=
  ∀ id object, (state.calls id).pc.object = some object →
    (state.objects object).live = true

theorem CallsLive.callStep {action : CallAction} (calls : state.CallsLive)
    (coherent : state.Coherent)
    (unused : state.FreesUnused (.call id action))
    (step : CallStep state id action target) : target.CallsLive := by
  intro other object refers
  have stays (live : (state.objects object).live = true) :
      (target.objects object).live = true := by
    rcases step.live live with kept | ⟨freeing, freed⟩
    · exact kept
    · subst freed
      by_cases same : other = id
      · subst same
        cases step <;> simp_all [CallPc.object]
      · rw [step.calls_of_ne same] at refers
        rcases CallPc.obtained_or_holds refers with obtained | holds
        · have freed : object ∈ state.freedObject (.call id .free) := by
            simp [freedObject, freeing]
          exact (unused object freed other obtained).elim
        · have frees : (state.calls id).pc.Holds := by
            simp [freeing, CallPc.Holds]
          exact (same (coherent.guards.exclusive holds frees)).elim
  by_cases same : other = id
  · subst same
    rcases step.refers refers with before | mapped | ⟨new, next⟩
    · exact stays (calls _ _ before)
    · exact stays (coherent.mapped _ _ mapped).2
    · rw [new]
      exact step.new_live next
  · rw [step.calls_of_ne same] at refers
    exact stays (calls _ _ refers)

theorem CallsLive.next {action : Action} (calls : state.CallsLive)
    (coherent : state.Coherent) (unused : state.FreesUnused action)
    (step : state.next action = some target) : target.CallsLive := by
  cases next_cases step with
  | call step => exact calls.callStep coherent unused step
  | thread step =>
      intro id object refers
      rw [step.frame.1] at refers
      rw [(step.object_cases object).1]
      exact calls id object refers

theorem CallStep.uncrashed {action : CallAction} (calls : state.CallsLive)
    (step : CallStep state id action target) :
    (target.calls id).pc ≠ .crashed := by
  cases step
  case crash refers freed => simp [calls id _ refers] at freed
  case invoke kind streamHandle host idle callable =>
      rcases kind.firstPc_cases with first | first <;> simp [first]
  case lock entered lockFree =>
      rcases (state.calls id).kind.lockedPc_cases with locked | locked <;>
        simp [locked]
  case access obtained live => simp [obtained]
  all_goals simp

/-- A call that comes to an object is a call of one of the four handlers. -/
def Handles (state : State) : Prop :=
  ∀ id, (state.calls id).pc = .entered ∨ (state.calls id).pc = .lookingUp ∨
      (∃ object, (state.calls id).pc = .lookedUp object) ∨
      (∃ object, (state.calls id).pc = .obtained object) →
    (state.calls id).kind.needsLock = true ∧
      ((state.calls id).pc ≠ .entered →
        (state.calls id).kind.closes = false)

theorem Handles.next {action : Action} (handles : state.Handles)
    (step : state.next action = some target) : target.Handles := by
  cases next_cases step with
  | @call id action _ step =>
      intro other at_pc
      by_cases same : other = id
      · subst same
        have before := handles other
        cases step
        case invoke kind streamHandle host idle callable =>
            cases needs : kind.needsLock <;>
              simp_all [CallKind.firstPc]
        case lock entered lockFree =>
            cases closes : (state.calls other).kind.closes <;>
              simp_all [CallKind.lockedPc]
        all_goals simp_all
      · rw [step.calls_of_ne same] at at_pc ⊢
        exact handles other at_pc
  | thread step => simpa only [Handles, step.frame.1] using handles

theorem not_safe_of_crash (state : State) (id : CallId) :
    ¬ (state.callAt id .crashed).Safe := by
  intro safe
  have uncrashed := safe.1 id
  simp at uncrashed

/-- A call crashes that has obtained an object which was freed, unless it has to
take the lock first. -/
theorem next_access_freed (obtained : (state.calls id).pc = .obtained object)
    (freed : (state.objects object).live = false)
    (handler : (state.calls id).kind = .ready ∨
      (state.calls id).kind = .connectionStale ∨
      (state.calls id).kind = .latencyPressure) :
    state.next (.call id .access) = some (state.callAt id .crashed) := by
  rcases handler with kind | kind | kind <;>
    simp [State.next, State.callStep, obtained, freed, kind]

theorem reaches_check_freed
    (obtained : (state.calls id).pc = .obtained object)
    (freed : (state.objects object).live = false)
    (lockFree : state.syncLock = none)
    {uploadHandle : UploadHandle} {erroredTimecode : Nat}
    {statusCode : StatusCode}
    (kind : (state.calls id).kind =
      .errorReport uploadHandle erroredTimecode statusCode) :
    ∃ final, Reaches State.next state final ∧ ¬ final.Safe := by
  have lock : state.next (.call id .lock) = some
      ((state.callAt id (.checking object)).setLock (some id)) := by
    simp [State.next, State.callStep, obtained, kind, lockFree]
  have check : ((state.callAt id (.checking object)).setLock
      (some id)).next (.call id .check) = some
        (((state.callAt id (.checking object)).setLock (some id)).callAt id
          .crashed) := by
    simp [State.next, State.callStep, freed]
  exact ⟨_, .tail (.tail .refl trivial lock) trivial check,
    not_safe_of_crash _ _⟩

/-- What the condition keeps out: a call that has obtained an object goes on
with it when the object was freed, at once or in its second critical section. -/
theorem Handles.crash_of_free (handles : state.Handles)
    (freeing : (state.calls id).pc = .freeing object)
    (obtained : (state.calls other).pc = .obtained object)
    (step : state.next (.call id .free) = some target) :
    ∃ final, Reaches State.next target final ∧ ¬ final.Safe := by
  have different : other ≠ id := by
    rintro rfl
    simp [freeing] at obtained
  have freed : target = (state.setObject object
      { state.objects object with live := false }).callAt id
        .releasing := by
    simp only [State.next, State.callStep, freeing] at step
    exact (Option.some.inj step).symm
  have sameCall : target.calls other = state.calls other := by
    simp [freed, different]
  have obtainedAfter : (target.calls other).pc = .obtained object := by
    rw [sameCall, obtained]
  have freedAfter : (target.objects object).live = false := by
    simp [freed]
  obtain ⟨needsLock, opens⟩ :=
    handles other (.inr (.inr (.inr ⟨object, obtained⟩)))
  have opens := opens (by simp [obtained])
  have crashes (handler : (state.calls other).kind = .ready ∨
      (state.calls other).kind = .connectionStale ∨
      (state.calls other).kind = .latencyPressure) :
      ∃ final, Reaches State.next target final ∧ ¬ final.Safe := by
    have access := next_access_freed obtainedAfter freedAfter
      (by rwa [sameCall])
    exact ⟨_, .tail .refl trivial access, not_safe_of_crash _ _⟩
  cases kind : (state.calls other).kind with
  | connectionStale => exact crashes (.inr (.inl kind))
  | latencyPressure => exact crashes (.inr (.inr kind))
  | ready => exact crashes (.inl kind)
  | errorReport uploadHandle erroredTimecode statusCode =>
      have unlock : target.next (.call id .unlock) =
          some ((target.endCall id).setLock none) := by
        simp [State.next, State.callStep, freed]
      have sameUnlocked :
          ((target.endCall id).setLock none).calls other =
            state.calls other := by
        simp [different, sameCall]
      obtain ⟨final, reaches, crashed⟩ := reaches_check_freed
        (sameUnlocked ▸ obtained) (by simpa using freedAfter)
        (setLock_syncLock _ none) (sameUnlocked ▸ kind)
      exact ⟨final, (Steps.tail .refl trivial unlock).trans reaches, crashed⟩
  | shutdown restart =>
      cases restart <;>
        simp [kind, CallKind.closes, CallKind.needsLock] at needsLock opens
  | closed => simp [kind, CallKind.closes] at opens

end State

theorem Run.handles {ok : State → Action → Prop} {state : State}
    (run : Run ok state) : state.Handles := by
  apply run.invariant State.Handles
  · intro id at_pc
    simp [State.initial] at at_pc
  · intro before action after handles _ step
    exact handles.next step

/-- Nothing accesses a freed object, in any run in which an object is freed only
when no call has obtained it. -/
theorem freed_unaccessed {state : State}
    (run : Run State.FreesUnused state) : state.Safe := by
  refine ⟨?_, run.guarded.uncrashed⟩
  have live_and_safe : state.CallsLive ∧
      ∀ id, (state.calls id).pc ≠ .crashed := by
    apply run.invariant_under State.Coherent fun state =>
      state.CallsLive ∧ ∀ id, (state.calls id).pc ≠ .crashed
    · exact State.initial_coherent
    · intro before action after coherent step
      exact coherent.next step
    · simp [State.initial, State.CallsLive, CallPc.object]
    · rintro before action after coherent ⟨calls, uncrashed⟩ unused step
      refine ⟨calls.next coherent unused step, fun other => ?_⟩
      cases State.next_cases step with
      | @call id action _ step =>
          by_cases same : other = id
          · subst same
            exact step.uncrashed calls
          · rw [step.calls_of_ne same]
            exact uncrashed other
      | thread step =>
          rw [step.frame.1]
          exact uncrashed other
  exact live_and_safe.2

namespace State

variable {state target : State}

/-- `FreesUnused` where only the first calls are made, so that it can be
decided. -/
def FreesUnusedAmong (count : Nat) (state : State) (action : Action) : Prop :=
  (∀ id ∈ action.caller, id < count) ∧
    ∀ object ∈ state.freedObject action,
      ∀ other < count, (state.calls other).pc ≠ .obtained object

instance (count : Nat) (state : State) (action : Action) :
    Decidable (state.FreesUnusedAmong count action) :=
  inferInstanceAs (Decidable (_ ∧ _))

/-- The calls from some id on are not made. -/
def IdleFrom (count : Nat) (state : State) : Prop :=
  ∀ id, count ≤ id → (state.calls id).pc = .idle

theorem IdleFrom.next {count : Nat} {action : Action}
    (idle : state.IdleFrom count)
    (among : state.FreesUnusedAmong count action)
    (step : state.next action = some target) : target.IdleFrom count := by
  intro other bound
  cases next_cases step with
  | @call id action _ step =>
      have callerBound := among.1 id rfl
      have different : other ≠ id := by
        rintro rfl
        exact Nat.not_lt_of_le bound callerBound
      rw [step.calls_of_ne different]
      exact idle other bound
  | thread step =>
      rw [step.frame.1]
      exact idle other bound

theorem IdleFrom.freesUnused {count : Nat} {action : Action}
    (idle : state.IdleFrom count)
    (among : state.FreesUnusedAmong count action) :
    state.FreesUnused action := by
  intro object freed other
  by_cases bound : other < count
  · exact among.2 object freed other bound
  · rw [idle other (Nat.le_of_not_lt bound)]
    simp

end State

theorem Run.freesUnused {count : Nat} {state : State}
    (run : Run (State.FreesUnusedAmong count) state) :
    Run State.FreesUnused state ∧ state.IdleFrom count := by
  induction run with
  | refl => exact ⟨.refl, fun _ _ => rfl⟩
  | tail _ among step before =>
      obtain ⟨runBefore, idle⟩ := before
      exact ⟨runBefore.tail (idle.freesUnused among) step,
        idle.next among step⟩

/-- The stream becomes ready. -/
def streamReady (id : CallId) (streamHandle : StreamHandle) : List Action :=
  [.call id (.invoke .ready streamHandle none), .call id .lock,
    .call id (.lookUp true), .call id .unlock]

/-- The stream is closed while no reset is under way. -/
def streamClosed (id : CallId) (streamHandle : StreamHandle) : List Action :=
  [.call id (.invoke .closed streamHandle none), .call id .lock,
    .call id .remove, .call id .readTid, .call id .free]

theorem freed_unaccessed_closed :
    (stateAfter State.next (State.FreesUnusedAmong 2) State.initial
      (streamReady 0 7 ++ ([.call 0 .access] : List Action) ++
        streamClosed 1 7)).Safe := by
  have taken : (replay State.next (State.FreesUnusedAmong 2) State.initial
      (streamReady 0 7 ++ ([.call 0 .access] : List Action) ++
        streamClosed 1 7)).isSome = true := by
    decide
  exact freed_unaccessed (Run.freesUnused (steps_stateAfter taken)).1

/-- The stream is closed before the handler goes on. -/
theorem freed_accessed : ¬ ∀ state, Reachable state → state.Safe := by
  intro claim
  have taken : (replay State.next (fun _ _ => True) State.initial
      (streamReady 0 7 ++ streamClosed 1 7 ++
        ([.call 0 .access] : List Action))).isSome = true := by
    decide
  have uncrashed := (claim _ (steps_stateAfter taken)).1 0
  revert uncrashed
  decide

end ContinuousRetry

end KvsProducer
