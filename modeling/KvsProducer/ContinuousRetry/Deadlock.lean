import KvsProducer.ContinuousRetry.Lifetime
import KvsProducer.ContinuousRetry.ResetBookkeeping

/-!
# Closing a stream during a reset

`freeStreamMapping` joins the reset thread while it holds `syncLock`.  PIC calls
the stream's handlers on that thread, and most of them come to `syncLock`
first, so that the two wait for each other.
-/

namespace KvsProducer

namespace ContinuousRetry

open TransitionSystem

/-- The call comes to `syncLock` next, for the first or for the second time. -/
def Call.Waits (call : Call) : Prop :=
  match call.pc, call.kind with
  | .entered, _ => True
  | .obtained _, .errorReport _ _ _ => True
  | _, _ => False

instance (call : Call) : Decidable call.Waits := by
  unfold Call.Waits
  split <;> infer_instance

namespace State

variable {state target final : State} {id host : CallId} {thread : ThreadId}
variable {object : ObjectId}

/-- The thread has a call under way that waits for the lock. -/
def Blocked (state : State) (thread : ThreadId) : Prop :=
  ∃ host ∈ (state.threads thread).hosting, (state.calls host).Waits

instance (state : State) (thread : ThreadId) :
    Decidable (state.Blocked thread) :=
  match hosting : (state.threads thread).hosting with
  | none => .isFalse (by simp [Blocked, hosting])
  | some host =>
      decidable_of_iff (state.calls host).Waits (by simp [Blocked, hosting])

/-- The holder of the lock joins a thread that waits for the lock. -/
def Deadlocked (state : State) : Prop :=
  ∃ id object thread, state.syncLock = some id ∧
    (state.calls id).pc = .joining object thread ∧ state.Blocked thread

/-- The thread that a step goes to wait for. -/
def awaitedThread (state : State) : Action → Option ThreadId
  | .call id .readTid =>
      match (state.calls id).pc with
      | .removed object => (state.objects object).resetTid
      | _ => none
  | _ => none

/-- The thread on which a step calls a handler that comes to the lock. -/
def callingThread : Action → Option ThreadId
  | .call _ (.invoke kind _ host) => if kind.needsLock then host else none
  | _ => none

/-- The thread that the holder of the lock joins. -/
def joinedThread (state : State) : Option ThreadId :=
  state.syncLock.bind fun id =>
    match (state.calls id).pc with
    | .joining _ thread => some thread
    | _ => none

/-- No thread is joined that waits for the lock, and none that is joined calls
a handler that comes to the lock. -/
def JoinsUnblocked (state : State) (action : Action) : Prop :=
  (∀ thread ∈ state.awaitedThread action, ¬ state.Blocked thread) ∧
    ∀ thread ∈ callingThread action, state.joinedThread ≠ some thread

instance (state : State) (action : Action) :
    Decidable (state.JoinsUnblocked action) :=
  inferInstanceAs (Decidable (_ ∧ _))

/-- The calls that the threads are in. -/
structure Hosted (state : State) : Prop where
  called : ∀ thread id, (state.threads thread).hosting = some id →
    (state.calls id).pc ≠ .idle
  hosts : ∀ thread id, (state.threads thread).hosting = some id →
    (state.threads thread).pc.Hosts

theorem initial_hosted : initial.Hosted := by
  constructor <;> simp [initial]

theorem hosting_of_endCall
    (hosting : ((state.endCall id).threads thread).hosting = some host) :
    (state.threads thread).hosting = some host := by
  simp only [endCall] at hosting
  split at hosting
  · simp at hosting
  · exact hosting

section Call

variable {action : CallAction}

theorem CallStep.hosting (step : CallStep state id action target)
    (hosting : (target.threads thread).hosting = some host) :
    (state.threads thread).hosting = some host ∨
      host = id ∧ (state.threads thread).pc.Hosts ∧
        callingThread (.call id action) = some thread := by
  cases step
  case invoke kind streamHandle caller idle callable =>
      simp only [State.invoke] at hosting
      split at hosting
      · rename_i calling
        obtain ⟨rfl, needs⟩ := calling
        have same : id = host := by simpa using hosting
        exact .inr ⟨same.symm, callable.1, by simp [callingThread, needs]⟩
      · exact .inl hosting
  case createThread object created creating absent =>
      by_cases same : thread = created
      · simp [same] at hosting
      · exact .inl (by simpa [same] using hosting)
  case setReady | finish | failMapping | unlock =>
      exact .inl (hosting_of_endCall hosting)
  all_goals exact .inl hosting

theorem CallStep.leaves_idle (step : CallStep state id action target) :
    (target.calls id).pc ≠ .idle := by
  cases step
  case invoke kind streamHandle caller idle callable =>
      rcases kind.firstPc_cases with first | first <;> simp [first]
  case lock entered lockFree =>
      rcases (state.calls id).kind.lockedPc_cases with locked | locked <;>
        simp [locked]
  case access obtained live => simp [obtained]
  all_goals simp

/-- A call that comes to the lock has just been made, or gives up the lock. -/
theorem CallStep.waits (step : CallStep state id action target)
    (waits : (target.calls id).Waits) :
    (state.calls id).pc = .idle ∨ (state.calls id).Waits ∨
      (state.calls id).pc.Holds := by
  cases step
  case lock entered lockFree =>
      rcases (state.calls id).kind.lockedPc_cases with locked | locked <;>
        simp [locked, Call.Waits] at waits
  all_goals simp_all [Call.Waits, CallPc.Holds]

theorem CallStep.hosts (step : CallStep state id action target)
    (hosts : (state.threads thread).pc.Hosts) :
    (target.threads thread).pc.Hosts := by
  rcases step.thread_cases thread with ⟨samePc, -⟩ | ⟨_, _, absent, _⟩
  · rwa [samePc]
  · simp [absent, ThreadPc.Hosts] at hosts

theorem Hosted.callStep (hosted : state.Hosted)
    (step : CallStep state id action target) : target.Hosted := by
  constructor
  case called =>
      intro thread host hosting
      by_cases same : host = id
      · subst same
        exact step.leaves_idle
      · rw [step.calls_of_ne same]
        rcases step.hosting hosting with before | ⟨caller, -⟩
        · exact hosted.called thread host before
        · exact (same caller).elim
  case hosts =>
      intro thread host hosting
      rcases step.hosting hosting with before | ⟨-, hosts, -⟩
      · exact step.hosts (hosted.hosts thread host before)
      · exact step.hosts hosts

end Call

theorem ThreadStep.hosting {action : ThreadAction} {other : ThreadId}
    (step : ThreadStep state thread action target) :
    (target.threads other).hosting = (state.threads other).hosting := by
  by_cases same : other = thread
  · subst same
    cases step <;> simp
  · rw [step.threads_of_ne same]

theorem ThreadStep.stays {action : ThreadAction}
    (step : ThreadStep state thread action target)
    (hosts : (state.threads thread).pc.Hosts)
    (hosting : (state.threads thread).hosting = some host) :
    (state.objects (state.threads thread).object).live = false := by
  cases step <;> simp_all [ThreadPc.Hosts]

theorem Hosted.threadStep {action : ThreadAction} (hosted : state.Hosted)
    (guarded : state.Guarded)
    (step : ThreadStep state thread action target) : target.Hosted := by
  constructor
  case called =>
      intro other host hosting
      rw [step.hosting] at hosting
      rw [step.frame.1]
      exact hosted.called other host hosting
  case hosts =>
      intro other host hosting
      rw [step.hosting] at hosting
      have hosts := hosted.hosts other host hosting
      by_cases same : other = thread
      · subst same
        have live := guarded.worked other _ ⟨rfl, step.moves.1⟩
        simp [step.stays hosts hosting] at live
      · rwa [step.threads_of_ne same]

/-- No call joins a thread that waits for the lock. -/
def Unlocked (state : State) : Prop :=
  ∀ id object thread, (state.calls id).pc = .joining object thread →
    ¬ state.Blocked thread

theorem Coherent.joinedThread (coherent : state.Coherent)
    (joining : (state.calls id).pc = .joining object thread) :
    state.joinedThread = some thread := by
  have owns : state.syncLock = some id := by
    apply coherent.guards
    simp [joining, CallPc.Holds]
  simp [State.joinedThread, owns, joining]

/-- While a call joins a thread, only a handler that PIC calls there can make
the thread wait for the lock. -/
theorem Coherent.blocked (coherent : state.Coherent) (hosted : state.Hosted)
    {action : CallAction} (step : CallStep state id action target)
    {joiner : CallId} (different : joiner ≠ id)
    (joining : (state.calls joiner).pc = .joining object thread)
    (blocked : target.Blocked thread) :
    state.Blocked thread ∨ callingThread (.call id action) = some thread := by
  obtain ⟨host, hosting, waits⟩ := blocked
  rcases step.hosting hosting with before | ⟨-, -, calling⟩
  · left
    refine ⟨host, before, ?_⟩
    by_cases same : host = id
    · subst same
      rcases step.waits waits with idle | waitsBefore | holds
      · exact (hosted.called thread host before idle).elim
      · exact waitsBefore
      · have joinerHolds : (state.calls joiner).pc.Holds := by
          simp [joining, CallPc.Holds]
        exact (different (coherent.guards.exclusive joinerHolds holds)).elim
    · rwa [step.calls_of_ne same] at waits
  · exact .inr calling

theorem Unlocked.callStep (unlocked : state.Unlocked)
    (coherent : state.Coherent) (hosted : state.Hosted)
    {action : CallAction}
    (unblocked : state.JoinsUnblocked (.call id action))
    (step : CallStep state id action target) : target.Unlocked := by
  intro joiner object thread joining blocked
  by_cases same : joiner = id
  · subst same
    obtain ⟨rfl, rfl, removed, recorded⟩ := step.joining joining
    have awaited : thread ∈ state.awaitedThread (.call joiner .readTid) := by
      simp [awaitedThread, removed, recorded]
    obtain ⟨host, hosting, waits⟩ := blocked
    have different : host ≠ joiner := by
      rintro rfl
      simp [Call.Waits] at waits
    apply unblocked.1 thread awaited
    exact ⟨host, hosting, by simpa [different] using waits⟩
  · rw [step.calls_of_ne same] at joining
    rcases coherent.blocked hosted step same joining blocked with
      before | calling
    · exact unlocked joiner object thread joining before
    · exact unblocked.2 thread calling (coherent.joinedThread joining)

theorem Unlocked.next {action : Action} (unlocked : state.Unlocked)
    (coherent : state.Coherent) (hosted : state.Hosted)
    (unblocked : state.JoinsUnblocked action)
    (step : state.next action = some target) : target.Unlocked := by
  cases next_cases step with
  | call step => exact unlocked.callStep coherent hosted unblocked step
  | thread step =>
      rintro joiner object thread joining ⟨host, hosting, waits⟩
      rw [step.frame.1] at joining waits
      rw [step.hosting] at hosting
      exact unlocked joiner object thread joining ⟨host, hosting, waits⟩

theorem Unlocked.not_deadlocked (unlocked : state.Unlocked) :
    ¬ state.Deadlocked := by
  rintro ⟨id, object, thread, -, joining, blocked⟩
  exact unlocked id object thread joining blocked

/-- To go to wait for a thread that waits for the lock is a deadlock. -/
theorem Coherent.deadlocked_of_awaited (coherent : state.Coherent)
    (guarded : state.Guarded) {action : Action}
    (awaited : thread ∈ state.awaitedThread action)
    (blocked : state.Blocked thread)
    (step : state.next action = some target) : target.Deadlocked := by
  simp only [awaitedThread] at awaited
  split at awaited
  · rename_i id
    split at awaited
    · rename_i object removed
      have live : (state.objects object).live = true := by
        apply guarded.kept id
        simp [removed, CallPc.Keeps, CallPc.object]
      have owns : state.syncLock = some id := by
        apply coherent.guards
        simp [removed, CallPc.Holds]
      have target_eq : target = state.callAt id (.joining object thread) := by
        simp only [State.next, State.callStep, removed, if_pos live,
          Option.mem_def.mp awaited] at step
        exact (Option.some.inj step).symm
      obtain ⟨host, hosting, waits⟩ := blocked
      have different : host ≠ id := by
        rintro rfl
        simp [Call.Waits, removed] at waits
      subst target_eq
      refine ⟨id, object, thread, owns, by simp, host, hosting, ?_⟩
      simpa [different] using waits
    · simp at awaited
  · simp at awaited

theorem next_invoke {kind : CallKind} {streamHandle : StreamHandle}
    {caller : Option ThreadId}
    (step : state.next (.call id (.invoke kind streamHandle caller)) =
      some target) :
    (state.calls id).pc = .idle ∧
      target = state.invoke id kind streamHandle caller := by
  cases at_pc : (state.calls id).pc <;>
    simp only [State.next, State.callStep, at_pc, reduceCtorEq] at step
  case idle =>
      obtain ⟨-, target_eq⟩ := Option.ite_none_right_eq_some.mp step
      exact ⟨rfl, (Option.some.inj target_eq).symm⟩

/-- To call a handler that comes to the lock on a thread that is joined is a
deadlock. -/
theorem deadlocked_of_calling {action : Action}
    (calling : thread ∈ callingThread action)
    (joined : state.joinedThread = some thread)
    (step : state.next action = some target) : target.Deadlocked := by
  obtain ⟨joiner, owns, joining⟩ := Option.bind_eq_some_iff.mp joined
  split at joining
  · rename_i object other at_pc
    cases joining
    simp only [callingThread] at calling
    split at calling
    · rename_i id kind streamHandle caller
      obtain ⟨needs, called⟩ := Option.ite_none_right_eq_some.mp calling
      subst called
      obtain ⟨idle, rfl⟩ := next_invoke step
      have different : joiner ≠ id := by
        rintro rfl
        simp [idle] at at_pc
      have entered : kind.firstPc = .entered := by
        simp [CallKind.firstPc, needs]
      refine ⟨joiner, object, thread, owns, ?_, id, ?_, ?_⟩
      · simp [different, at_pc]
      · simp [State.invoke, needs]
      · simp [Call.Waits, entered]
    · simp at calling
  · simp at joining

/-- Every step that the condition keeps out is a deadlock. -/
theorem Coherent.deadlocked_of_not_unblocked (coherent : state.Coherent)
    (guarded : state.Guarded) {action : Action}
    (not_unblocked : ¬ state.JoinsUnblocked action)
    (step : state.next action = some target) : target.Deadlocked := by
  simp only [JoinsUnblocked, not_and_or, not_forall, not_not] at not_unblocked
  rcases not_unblocked with ⟨thread, awaited, blocked⟩ |
    ⟨thread, calling, joined⟩
  · exact coherent.deadlocked_of_awaited guarded awaited blocked step
  · exact deadlocked_of_calling calling joined step

end State

theorem Run.hosted {ok : State → Action → Prop} {state : State}
    (run : Run ok state) : state.Hosted := by
  induction run with
  | refl => exact State.initial_hosted
  | tail before _ step hosted =>
      cases State.next_cases step with
      | call step => exact hosted.callStep step
      | thread step => exact hosted.threadStep (Run.guarded before) step

/-- No call that joins a reset thread keeps it from the lock, in any run in
which no joined thread comes to the lock. -/
theorem close_not_deadlocked {state : State}
    (run : Run State.JoinsUnblocked state) : ¬ state.Deadlocked := by
  have unlocked : state.Unlocked := by
    induction run with
    | refl =>
        intro id object thread joining
        simp [State.initial] at joining
    | tail before unblocked step unlocked =>
        exact unlocked.next (Run.coherent before) (Run.hosted before)
          unblocked step
  exact unlocked.not_deadlocked

/-- PIC calls no handler that comes to the lock on a reset thread. -/
def State.CallsElsewhere (_ : State) (action : Action) : Prop :=
  State.callingThread action = none

theorem Run.hosting_eq_none {state : State}
    (run : Run State.CallsElsewhere state) (thread : ThreadId) :
    (state.threads thread).hosting = none := by
  induction run with
  | refl => simp [State.initial]
  | tail before elsewhere step induction =>
      cases State.next_cases step with
      | call step =>
          apply Option.eq_none_iff_forall_ne_some.mpr
          intro host hosting
          rcases step.hosting hosting with earlier | ⟨-, -, calling⟩
          · simp [induction] at earlier
          · cases calling.symm.trans elsewhere
      | thread step => rw [step.hosting, induction]

/-- The condition on the calls of PIC alone: closing a stream is never in a
deadlock when the handlers that come to the lock are called on other threads. -/
theorem callsElsewhere_not_deadlocked {state : State}
    (run : Run State.CallsElsewhere state) : ¬ state.Deadlocked := by
  rintro ⟨-, -, thread, -, -, host, hosting, -⟩
  rw [Run.hosting_eq_none run thread] at hosting
  cases hosting

/-- A retriable error, up to the reset of the stream in PIC. -/
def resetUnderWay : List Action :=
  reportError 0 7 1 ++ recordThread 0 ++
    [.thread 1 .start, .thread 1 (.getStreamInfo .online)]

/-- The stream is closed, which waits for the reset. -/
def closeDuringReset : List Action :=
  [.call 1 (.invoke .closed 7 none), .call 1 .lock, .call 1 .remove,
    .call 1 .readTid]

/-- The reset ends without a call of the stream's handlers. -/
def resetEnds : List Action :=
  [.thread 1 (.resetStream true), .thread 1 .clearTid, .call 1 .join]

theorem close_not_deadlocked_resetEnds :
    ¬ (stateAfter State.next State.JoinsUnblocked State.initial
      (resetUnderWay ++ closeDuringReset ++ resetEnds)).Deadlocked := by
  have taken : (replay State.next State.JoinsUnblocked State.initial
      (resetUnderWay ++ closeDuringReset ++ resetEnds)).isSome = true := by
    decide
  exact close_not_deadlocked (steps_stateAfter taken)

/-- The stream becomes ready while it is reset. -/
theorem close_deadlocked :
    ¬ ∀ state, Reachable state → ¬ state.Deadlocked := by
  intro claim
  have taken : (replay State.next (fun _ _ => True) State.initial
      (resetUnderWay ++ closeDuringReset ++
        ([.call 2 (.invoke .ready 7 (some 1))] : List Action))).isSome =
          true := by
    decide
  apply claim _ (steps_stateAfter taken)
  refine ⟨1, 0, 1, ?_, ?_, 2, ?_, ?_⟩ <;> decide

end ContinuousRetry

end KvsProducer
