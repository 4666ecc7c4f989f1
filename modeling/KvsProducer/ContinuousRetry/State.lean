import Mathlib.Logic.Function.Basic
import Mathlib.Tactic.Simps.Basic

/-!
# The state of the continuous retry callbacks

The calls of the stream callbacks, the reset threads that they create, and the
objects that both work on.  An object is allocated by `getStreamMapping` and
freed by `freeStreamMapping`; its identifier is never used again.
-/

namespace KvsProducer

namespace ContinuousRetry

abbrev StreamHandle := Nat

abbrev UploadHandle := Nat

/-- A `TID` other than `INVALID_TID_VALUE`. -/
abbrev ThreadId := Nat

abbrev ObjectId := Nat

abbrev CallId := Nat

/-- `CallbackStateMachine`, without the two state machines in it.  `none` is
the invalid value of a thread or stream. -/
structure CallbackStateMachine where
  live : Bool
  streamReady : Bool
  resetTid : Option ThreadId
  streamHandle : Option StreamHandle
  uploadHandle : UploadHandle
  erroredTimecode : Nat
  deriving DecidableEq, Repr

/-- The error codes that `continuousRetryStreamErrorReportHandler` tells apart:
`STATUS_CONTINUOUS_RETRY_RESET_FAILED`, those that pass its gates, and those
that do not. -/
inductive StatusCode where
  | resetFailed
  | retriable
  | other
  deriving DecidableEq, Repr

inductive CallKind where
  | connectionStale
  | latencyPressure
  | ready
  | errorReport (uploadHandle : UploadHandle) (erroredTimecode : Nat)
      (statusCode : StatusCode)
  | shutdown (restart : Bool)
  | closed
  deriving DecidableEq, Repr

/-- Where a call is: in `getStreamMapping` until `obtained`, in the handler's
own code or in `freeStreamMapping` after that. -/
inductive CallPc where
  | idle
  | entered
  | lookingUp
  | lookedUp (object : Option ObjectId)
  | obtained (object : ObjectId)
  | checking (object : ObjectId)
  | storing (object : ObjectId)
  | creating (object : ObjectId)
  | writing (object : ObjectId) (thread : ThreadId)
  | removing
  | removed (object : ObjectId)
  | joining (object : ObjectId) (thread : ThreadId)
  | freeing (object : ObjectId)
  | releasing
  | returned
  | crashed
  deriving DecidableEq, Repr

/-- A call of one of the callbacks.  `host` is the reset thread on which PIC
makes the call. -/
structure Call where
  kind : CallKind
  streamHandle : StreamHandle
  host : Option ThreadId
  pc : CallPc
  deriving DecidableEq, Repr

/-- A reset thread touches nothing after it has cleared its id, so that is where
it ends. -/
inductive ThreadPc where
  | absent
  | entry
  | gettingInfo
  | resetting
  | reporting
  | notifying
  | clearing
  | ended
  | crashed
  deriving DecidableEq, Repr

/-- `continuousRetryStreamRestartHandler` with its argument, its local variable
and the callback that it is in. -/
structure ResetThread where
  object : ObjectId
  streamHandle : Option StreamHandle
  pc : ThreadPc
  hosting : Option CallId
  deriving DecidableEq, Repr

/-- The arguments of the error report that a failed reset ends with. -/
structure ErrorReport where
  streamHandle : Option StreamHandle
  uploadHandle : UploadHandle
  erroredTimecode : Nat
  deriving DecidableEq, Repr

/-- `ContinuousRetryStreamCallbacks` with all calls, threads and objects; the
objects from `allocated` on are unused. -/
structure State where
  calls : CallId → Call
  threads : ThreadId → ResetThread
  objects : ObjectId → CallbackStateMachine
  allocated : Nat
  pStreamMapping : StreamHandle → Option ObjectId
  syncLock : Option CallId
  reports : List ErrorReport

/-- The values that `getStreamMapping` sets. -/
def CallbackStateMachine.initial : CallbackStateMachine :=
  { live := true
    streamReady := false
    resetTid := none
    streamHandle := none
    uploadHandle := 0
    erroredTimecode := 0 }

/-- `createContinuousRetryStreamCallbacks` -/
def State.initial : State :=
  { calls := fun _ =>
      { kind := .ready
        streamHandle := 0
        host := none
        pc := .idle }
    threads := fun _ =>
      { object := 0
        streamHandle := none
        pc := .absent
        hosting := none }
    objects := fun _ =>
      { CallbackStateMachine.initial with live := false }
    allocated := 0
    pStreamMapping := fun _ => none
    syncLock := none
    reports := [] }

/-- The thread exists and has not ended. -/
def ThreadPc.Running (pc : ThreadPc) : Prop :=
  pc ≠ .absent ∧ pc ≠ .ended ∧ pc ≠ .crashed

instance (pc : ThreadPc) : Decidable pc.Running :=
  inferInstanceAs (Decidable (_ ∧ _))

/-- The call is between a lock and an unlock of `syncLock`. -/
def CallPc.Holds : CallPc → Prop
  | .idle | .entered | .obtained _ | .returned | .crashed => False
  | _ => True

/-- The object that a call works on. -/
def CallPc.object : CallPc → Option ObjectId
  | .lookedUp object => object
  | .obtained object | .checking object | .storing object | .creating object
  | .writing object _ | .removed object | .joining object _
  | .freeing object => some object
  | _ => none

namespace State

@[simps] def callAt (state : State) (id : CallId) (pc : CallPc) : State :=
  { state with
    calls := Function.update state.calls id { state.calls id with pc := pc } }

@[simps] def setThread (state : State) (id : ThreadId) (value : ResetThread) :
    State :=
  { state with threads := Function.update state.threads id value }

@[simps] def threadAt (state : State) (id : ThreadId) (pc : ThreadPc) : State :=
  { state with
    threads :=
      Function.update state.threads id { state.threads id with pc := pc } }

@[simps] def setObject (state : State) (object : ObjectId)
    (value : CallbackStateMachine) : State :=
  { state with objects := Function.update state.objects object value }

@[simps] def setMapping (state : State) (streamHandle : StreamHandle)
    (object : Option ObjectId) : State :=
  { state with
    pStreamMapping :=
      Function.update state.pStreamMapping streamHandle object }

@[simps] def setLock (state : State) (owner : Option CallId) : State :=
  { state with syncLock := owner }

/-- The call returns, and its host goes on. -/
@[simps calls objects allocated pStreamMapping syncLock]
def endCall (state : State) (id : CallId) : State :=
  { state.callAt id .returned with
    threads := fun thread =>
      if (state.calls id).host = some thread then
        { state.threads thread with hosting := none }
      else state.threads thread }

@[simp] theorem endCall_pc (state : State) (id : CallId) (thread : ThreadId) :
    ((state.endCall id).threads thread).pc = (state.threads thread).pc := by
  simp only [endCall]
  split <;> rfl

@[simp] theorem endCall_object (state : State) (id : CallId)
    (thread : ThreadId) :
    ((state.endCall id).threads thread).object =
      (state.threads thread).object := by
  simp only [endCall]
  split <;> rfl

end State

end ContinuousRetry

end KvsProducer
