import KvsProducer.ContinuousRetry.State

/-!
# The stream callbacks

The handlers of the continuous retry callbacks, with `getStreamMapping` and
`freeStreamMapping`.  Each critical section of `syncLock` is taken apart into
its accesses, since the reset threads work on the same objects without the
lock.  The handlers of staleness and of latency are any number of accesses to
their object.
-/

namespace KvsProducer

namespace ContinuousRetry

inductive CallAction where
  | invoke (kind : CallKind) (streamHandle : StreamHandle)
      (host : Option ThreadId)
  | lock
  | lookUp (allocated : Bool)
  | unlock
  | access
  | finish
  | check
  | store
  | createThread (thread : Option ThreadId)
  | writeTid
  | remove
  | readTid
  | join
  | free
  deriving DecidableEq, Repr

/-- The call comes to `syncLock`; an error report does when it passes the
gates. -/
def CallKind.needsLock : CallKind → Bool
  | .errorReport _ _ statusCode => statusCode == .retriable
  | .shutdown restart => !restart
  | _ => true

/-- The call frees the mapping of its stream. -/
def CallKind.closes : CallKind → Bool
  | .shutdown restart => !restart
  | .closed => true
  | _ => false

def CallKind.firstPc (kind : CallKind) : CallPc :=
  if kind.needsLock then .entered else .returned

/-- A call starts outside of the lock, without an object. -/
theorem CallKind.firstPc_cases (kind : CallKind) :
    kind.firstPc = .entered ∨ kind.firstPc = .returned := by
  cases needs : kind.needsLock <;> simp [firstPc, needs]

/-- Where a call is with its first lock: in `freeStreamMapping` or in
`getStreamMapping`. -/
def CallKind.lockedPc (kind : CallKind) : CallPc :=
  if kind.closes then .removing else .lookingUp

theorem CallKind.lockedPc_cases (kind : CallKind) :
    kind.lockedPc = .removing ∨ kind.lockedPc = .lookingUp := by
  cases closes : kind.closes <;> simp [lockedPc, closes]

/-- A thread that `THREAD_CREATE` has created for an object. -/
@[simps] def ResetThread.created (object : ObjectId) : ResetThread :=
  { object := object
    streamHandle := none
    pc := .entry
    hosting := none }

/-- PIC makes the callbacks of a stream on the thread that resets it, other
than those that close it. -/
def ThreadPc.Hosts (pc : ThreadPc) : Prop :=
  pc = .gettingInfo ∨ pc = .resetting ∨ pc = .notifying

instance (pc : ThreadPc) : Decidable pc.Hosts :=
  inferInstanceAs (Decidable (_ ∨ _))

namespace State

/-- A call may be made from outside, or on a reset thread that is in PIC and
has no call under way. -/
def Callable (state : State) (kind : CallKind) : Option ThreadId → Prop
  | none => True
  | some thread =>
      (state.threads thread).pc.Hosts ∧
        (state.threads thread).hosting = none ∧ kind.closes = false

instance (state : State) (kind : CallKind) (host : Option ThreadId) :
    Decidable (state.Callable kind host) :=
  match host with
  | none => .isTrue trivial
  | some _ => inferInstanceAs (Decidable (_ ∧ _))

@[simps calls objects allocated pStreamMapping syncLock]
def invoke (state : State) (id : CallId) (kind : CallKind)
    (streamHandle : StreamHandle) (host : Option ThreadId) : State :=
  { state with
    calls := Function.update state.calls id
      { kind := kind
        streamHandle := streamHandle
        host := host
        pc := kind.firstPc }
    threads := fun thread =>
      if host = some thread ∧ kind.needsLock = true then
        { state.threads thread with hosting := some id }
      else state.threads thread }

@[simp] theorem invoke_pc (state : State) (id : CallId) (kind : CallKind)
    (streamHandle : StreamHandle) (host : Option ThreadId)
    (thread : ThreadId) :
    ((state.invoke id kind streamHandle host).threads thread).pc =
      (state.threads thread).pc := by
  simp only [invoke]
  split <;> rfl

@[simp] theorem invoke_object (state : State) (id : CallId) (kind : CallKind)
    (streamHandle : StreamHandle) (host : Option ThreadId)
    (thread : ThreadId) :
    ((state.invoke id kind streamHandle host).threads thread).object =
      (state.threads thread).object := by
  simp only [invoke]
  split <;> rfl

/-- `getStreamMapping` allocates an object and puts it into the table; when one
of the two fails there is no object. -/
@[simps] def allocate (state : State) (streamHandle : StreamHandle) : State :=
  { state with
    objects :=
      Function.update state.objects state.allocated .initial
    allocated := state.allocated + 1
    pStreamMapping :=
      Function.update state.pStreamMapping streamHandle
        (some state.allocated) }

/-- What an error report leaves in the object for the reset thread. -/
def stored (call : Call) (object : CallbackStateMachine) :
    CallbackStateMachine :=
  match call.kind with
  | .errorReport uploadHandle erroredTimecode _ =>
      { object with
        streamHandle := some call.streamHandle
        uploadHandle := uploadHandle
        erroredTimecode := erroredTimecode }
  | _ => object

@[simp] theorem stored_resetTid (call : Call) (object : CallbackStateMachine) :
    (stored call object).resetTid = object.resetTid := by
  cases kind : call.kind <;> simp [stored, kind]

@[simp] theorem stored_live (call : Call) (object : CallbackStateMachine) :
    (stored call object).live = object.live := by
  cases kind : call.kind <;> simp [stored, kind]

def callStep (state : State) (id : CallId) (action : CallAction) :
    Option State :=
  let call := state.calls id
  match action, call.pc with
  | .invoke kind streamHandle host, .idle =>
      if state.Callable kind host then
        some (state.invoke id kind streamHandle host)
      else none
  | .lock, .entered =>
      if state.syncLock = none then
        some ((state.callAt id call.kind.lockedPc).setLock (some id))
      else none
  | .lookUp allocated, .lookingUp =>
      match state.pStreamMapping call.streamHandle with
      | some object => some (state.callAt id (.lookedUp (some object)))
      | none =>
          if allocated then
            some ((state.allocate call.streamHandle).callAt id
              (.lookedUp (some state.allocated)))
          else some (state.callAt id (.lookedUp none))
  | .unlock, .lookedUp (some object) =>
      some ((state.callAt id (.obtained object)).setLock none)
  | .unlock, .lookedUp none => some ((state.endCall id).setLock none)
  | .access, .obtained object =>
      match call.kind with
      | .ready =>
          if (state.objects object).live then
            some ((state.setObject object
              { state.objects object with streamReady := true }).endCall id)
          else some (state.callAt id .crashed)
      | .connectionStale | .latencyPressure =>
          if (state.objects object).live then some state
          else some (state.callAt id .crashed)
      | _ => none
  | .finish, .obtained _ =>
      match call.kind with
      | .connectionStale | .latencyPressure => some (state.endCall id)
      | _ => none
  -- the second critical section, of `continuousRetryStreamErrorReportHandler`
  | .lock, .obtained object =>
      match call.kind with
      | .errorReport _ _ _ =>
          if state.syncLock = none then
            some ((state.callAt id (.checking object)).setLock (some id))
          else none
      | _ => none
  | .check, .checking object =>
      if (state.objects object).live then
        match (state.objects object).resetTid with
        | none => some (state.callAt id (.storing object))
        | some _ => some (state.callAt id .releasing)
      else some (state.callAt id .crashed)
  | .store, .storing object =>
      if (state.objects object).live then
        some ((state.setObject object
          (stored call (state.objects object))).callAt id (.creating object))
      else some (state.callAt id .crashed)
  | .createThread none, .creating _ => some (state.callAt id .releasing)
  | .createThread (some thread), .creating object =>
      if (state.threads thread).pc = .absent then
        some ((state.setThread thread (.created object)).callAt id
          (.writing object thread))
      else none
  | .writeTid, .writing object thread =>
      if (state.objects object).live then
        some ((state.setObject object
          { state.objects object with resetTid := some thread }).callAt id
            .releasing)
      else some (state.callAt id .crashed)
  | .remove, .removing =>
      match state.pStreamMapping call.streamHandle with
      | some object =>
          some ((state.setMapping call.streamHandle none).callAt id
            (.removed object))
      | none => some (state.callAt id .releasing)
  | .readTid, .removed object =>
      if (state.objects object).live then
        match (state.objects object).resetTid with
        | some thread => some (state.callAt id (.joining object thread))
        | none => some (state.callAt id (.freeing object))
      else some (state.callAt id .crashed)
  | .join, .joining object thread =>
      if (state.threads thread).pc = .ended then
        some (state.callAt id (.freeing object))
      else none
  | .free, .freeing object =>
      some ((state.setObject object
        { state.objects object with live := false }).callAt id .releasing)
  | .unlock, .releasing => some ((state.endCall id).setLock none)
  | _, _ => none

/-- What the steps of a call can do.  A call that goes on with a freed object
crashes. -/
inductive CallStep (state : State) (id : CallId) :
    CallAction → State → Prop where
  | invoke {kind : CallKind} {streamHandle : StreamHandle}
      {host : Option ThreadId}
      (idle : (state.calls id).pc = .idle)
      (callable : state.Callable kind host) :
      CallStep state id (.invoke kind streamHandle host)
        (state.invoke id kind streamHandle host)
  | lock
      (entered : (state.calls id).pc = .entered)
      (lockFree : state.syncLock = none) :
      CallStep state id .lock
        ((state.callAt id (state.calls id).kind.lockedPc).setLock (some id))
  | found {object : ObjectId}
      (lookingUp : (state.calls id).pc = .lookingUp)
      (mapped :
        state.pStreamMapping (state.calls id).streamHandle = some object)
      {allocated : Bool} :
      CallStep state id (.lookUp allocated)
        (state.callAt id (.lookedUp (some object)))
  | allocate
      (lookingUp : (state.calls id).pc = .lookingUp)
      (unmapped :
        state.pStreamMapping (state.calls id).streamHandle = none) :
      CallStep state id (.lookUp true)
        ((state.allocate (state.calls id).streamHandle).callAt id
          (.lookedUp (some state.allocated)))
  | failAllocate
      (lookingUp : (state.calls id).pc = .lookingUp)
      (unmapped :
        state.pStreamMapping (state.calls id).streamHandle = none) :
      CallStep state id (.lookUp false)
        (state.callAt id (.lookedUp none))
  | obtain {object : ObjectId}
      (lookedUp : (state.calls id).pc = .lookedUp (some object)) :
      CallStep state id .unlock
        ((state.callAt id (.obtained object)).setLock none)
  | failMapping
      (lookedUp : (state.calls id).pc = .lookedUp none) :
      CallStep state id .unlock ((state.endCall id).setLock none)
  | crash {action : CallAction} {object : ObjectId}
      (refers : (state.calls id).pc.object = some object)
      (freed : (state.objects object).live = false) :
      CallStep state id action (state.callAt id .crashed)
  | setReady {object : ObjectId}
      (obtained : (state.calls id).pc = .obtained object)
      (live : (state.objects object).live = true)
      (kind : (state.calls id).kind = .ready) :
      CallStep state id .access
        ((state.setObject object
          { state.objects object with streamReady := true }).endCall id)
  | access {object : ObjectId}
      (obtained : (state.calls id).pc = .obtained object)
      (live : (state.objects object).live = true) :
      CallStep state id .access state
  | finish {object : ObjectId}
      (obtained : (state.calls id).pc = .obtained object) :
      CallStep state id .finish (state.endCall id)
  | lockAgain {object : ObjectId}
      (obtained : (state.calls id).pc = .obtained object)
      (lockFree : state.syncLock = none) :
      CallStep state id .lock
        ((state.callAt id (.checking object)).setLock (some id))
  | passCheck {object : ObjectId}
      (checking : (state.calls id).pc = .checking object)
      (live : (state.objects object).live = true)
      (invalid : (state.objects object).resetTid = none) :
      CallStep state id .check (state.callAt id (.storing object))
  | exitEarly {object : ObjectId}
      (checking : (state.calls id).pc = .checking object)
      (live : (state.objects object).live = true)
      (valid : (state.objects object).resetTid ≠ none) :
      CallStep state id .check (state.callAt id .releasing)
  | store {object : ObjectId}
      (storing : (state.calls id).pc = .storing object)
      (live : (state.objects object).live = true) :
      CallStep state id .store
        ((state.setObject object
          (stored (state.calls id) (state.objects object))).callAt id
            (.creating object))
  | failCreate {object : ObjectId}
      (creating : (state.calls id).pc = .creating object) :
      CallStep state id (.createThread none) (state.callAt id .releasing)
  | createThread {object : ObjectId} {thread : ThreadId}
      (creating : (state.calls id).pc = .creating object)
      (absent : (state.threads thread).pc = .absent) :
      CallStep state id (.createThread (some thread))
        ((state.setThread thread (.created object)).callAt id
          (.writing object thread))
  | writeTid {object : ObjectId} {thread : ThreadId}
      (writing : (state.calls id).pc = .writing object thread)
      (live : (state.objects object).live = true) :
      CallStep state id .writeTid
        ((state.setObject object
          { state.objects object with resetTid := some thread }).callAt id
            .releasing)
  | unmap {object : ObjectId}
      (removing : (state.calls id).pc = .removing)
      (mapped :
        state.pStreamMapping (state.calls id).streamHandle = some object) :
      CallStep state id .remove
        ((state.setMapping (state.calls id).streamHandle none).callAt id
          (.removed object))
  | notMapped
      (removing : (state.calls id).pc = .removing)
      (unmapped :
        state.pStreamMapping (state.calls id).streamHandle = none) :
      CallStep state id .remove (state.callAt id .releasing)
  | readValid {object : ObjectId} {thread : ThreadId}
      (removed : (state.calls id).pc = .removed object)
      (live : (state.objects object).live = true)
      (valid : (state.objects object).resetTid = some thread) :
      CallStep state id .readTid (state.callAt id (.joining object thread))
  | readInvalid {object : ObjectId}
      (removed : (state.calls id).pc = .removed object)
      (live : (state.objects object).live = true)
      (invalid : (state.objects object).resetTid = none) :
      CallStep state id .readTid (state.callAt id (.freeing object))
  | join {object : ObjectId} {thread : ThreadId}
      (joining : (state.calls id).pc = .joining object thread)
      (ended : (state.threads thread).pc = .ended) :
      CallStep state id .join (state.callAt id (.freeing object))
  | free {object : ObjectId}
      (freeing : (state.calls id).pc = .freeing object) :
      CallStep state id .free
        ((state.setObject object
          { state.objects object with live := false }).callAt id .releasing)
  | unlock
      (releasing : (state.calls id).pc = .releasing) :
      CallStep state id .unlock ((state.endCall id).setLock none)

theorem callStep_cases
    {state target : State} {id : CallId} {action : CallAction}
    (step : state.callStep id action = some target) :
    CallStep state id action target := by
  have crashes {object : ObjectId} {pc : CallPc}
      (at_pc : (state.calls id).pc = pc) (refers : pc.object = some object)
      (freed : ¬ (state.objects object).live = true) :
      CallStep state id action (state.callAt id .crashed) := by
    apply CallStep.crash (at_pc ▸ refers)
    simpa using freed
  simp only [callStep] at step
  split at step
  case h_1 idle =>
      obtain ⟨callable, target_eq⟩ := Option.ite_none_right_eq_some.mp step
      cases target_eq
      exact .invoke idle callable
  case h_2 entered =>
      obtain ⟨lockFree, target_eq⟩ := Option.ite_none_right_eq_some.mp step
      cases target_eq
      exact .lock entered lockFree
  case h_3 allocated lookingUp =>
      split at step
      · rename_i object mapped
        cases step
        exact .found lookingUp mapped
      · rename_i unmapped
        cases allocated with
        | true =>
            cases step
            exact .allocate lookingUp unmapped
        | false =>
            cases step
            exact .failAllocate lookingUp unmapped
  case h_4 object lookedUp =>
      cases step
      exact .obtain lookedUp
  case h_5 lookedUp =>
      cases step
      exact .failMapping lookedUp
  case h_6 object obtained =>
      split at step
      case h_1 kind =>
          split at step
          · rename_i live
            cases step
            exact .setReady obtained live kind
          · rename_i freed
            cases step
            exact crashes obtained rfl freed
      case h_4 => cases step
      all_goals
        split at step
        · rename_i live
          cases step
          exact .access obtained live
        · rename_i freed
          cases step
          exact crashes obtained rfl freed
  case h_7 object obtained =>
      split at step <;> cases step
      all_goals exact .finish obtained
  case h_8 object obtained =>
      split at step
      · obtain ⟨lockFree, target_eq⟩ :=
          Option.ite_none_right_eq_some.mp step
        cases target_eq
        exact .lockAgain obtained lockFree
      · cases step
  case h_9 object checking =>
      split at step
      · rename_i live
        split at step
        · rename_i invalid
          cases step
          exact .passCheck checking live invalid
        · rename_i thread valid
          cases step
          exact .exitEarly checking live (by simp [valid])
      · rename_i freed
        cases step
        exact crashes checking rfl freed
  case h_10 object storing =>
      split at step
      · rename_i live
        cases step
        exact .store storing live
      · rename_i freed
        cases step
        exact crashes storing rfl freed
  case h_11 object creating =>
      cases step
      exact .failCreate creating
  case h_12 thread object creating =>
      obtain ⟨absent, target_eq⟩ := Option.ite_none_right_eq_some.mp step
      cases target_eq
      exact .createThread creating absent
  case h_13 object thread writing =>
      split at step
      · rename_i live
        cases step
        exact .writeTid writing live
      · rename_i freed
        cases step
        exact crashes writing rfl freed
  case h_14 removing =>
      split at step
      · rename_i object mapped
        cases step
        exact .unmap removing mapped
      · rename_i unmapped
        cases step
        exact .notMapped removing unmapped
  case h_15 object removed =>
      split at step
      · rename_i live
        split at step
        · rename_i thread valid
          cases step
          exact .readValid removed live valid
        · rename_i invalid
          cases step
          exact .readInvalid removed live invalid
      · rename_i freed
        cases step
        exact crashes removed rfl freed
  case h_16 object thread joining =>
      obtain ⟨ended, target_eq⟩ := Option.ite_none_right_eq_some.mp step
      cases target_eq
      exact .join joining ended
  case h_17 object freeing =>
      cases step
      exact .free freeing
  case h_18 releasing =>
      cases step
      exact .unlock releasing
  case h_19 => cases step

end State

end ContinuousRetry

end KvsProducer
