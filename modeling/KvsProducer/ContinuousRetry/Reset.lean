import KvsProducer.ContinuousRetry.Call
import KvsProducer.Lib.TransitionSystem

/-!
# The reset threads, and the whole system

`continuousRetryStreamRestartHandler` works on its object without the lock.
While it is in PIC, or in the error report of a failed reset, it may have one
of the callbacks under way, and goes on when that has returned.
-/

namespace KvsProducer

namespace ContinuousRetry

open TransitionSystem

/-- What `kinesisVideoStreamGetStreamInfo` tells the thread. -/
inductive InfoOutcome where
  | failed
  | offline
  | online
  deriving DecidableEq, Repr

inductive ThreadAction where
  | start
  | getStreamInfo (outcome : InfoOutcome)
  | resetStream (succeeded : Bool)
  | report
  | finishReport
  | clearTid
  deriving DecidableEq, Repr

/-- Where the thread goes on: an offline stream is left alone, which is not an
error. -/
def InfoOutcome.nextPc : InfoOutcome → ThreadPc
  | .failed => .reporting
  | .offline => .clearing
  | .online => .resetting

def resetPc (succeeded : Bool) : ThreadPc :=
  if succeeded then .clearing else .reporting

@[simps] def ResetThread.begin (thread : ResetThread)
    (object : CallbackStateMachine) : ResetThread :=
  { thread with
    streamHandle := object.streamHandle
    pc := .gettingInfo }

def CallbackStateMachine.errorReport (object : CallbackStateMachine) :
    ErrorReport :=
  { streamHandle := object.streamHandle
    uploadHandle := object.uploadHandle
    erroredTimecode := object.erroredTimecode }

namespace State

def threadStep (state : State) (id : ThreadId) (action : ThreadAction) :
    Option State :=
  let thread := state.threads id
  let object := state.objects thread.object
  match action, thread.pc with
  | .start, .entry =>
      if object.live then some (state.setThread id (thread.begin object))
      else some (state.threadAt id .crashed)
  | .getStreamInfo outcome, .gettingInfo =>
      if thread.hosting = none then some (state.threadAt id outcome.nextPc)
      else none
  | .resetStream succeeded, .resetting =>
      if thread.hosting = none then
        some (state.threadAt id (resetPc succeeded))
      else none
  | .report, .reporting =>
      if object.live then
        some
          { state.threadAt id .notifying with
            reports := state.reports ++ [object.errorReport] }
      else some (state.threadAt id .crashed)
  | .finishReport, .notifying =>
      if thread.hosting = none then some (state.threadAt id .clearing)
      else none
  | .clearTid, .clearing =>
      if object.live then
        some ((state.setObject thread.object
          { object with resetTid := none }).threadAt id .ended)
      else some (state.threadAt id .crashed)
  | _, _ => none

/-- What the steps of a reset thread can do. -/
inductive ThreadStep (state : State) (id : ThreadId) :
    ThreadAction → State → Prop where
  | start
      (entry : (state.threads id).pc = .entry)
      (live : (state.objects (state.threads id).object).live = true) :
      ThreadStep state id .start
        (state.setThread id ((state.threads id).begin
          (state.objects (state.threads id).object)))
  | getStreamInfo {outcome : InfoOutcome}
      (gettingInfo : (state.threads id).pc = .gettingInfo)
      (alone : (state.threads id).hosting = none) :
      ThreadStep state id (.getStreamInfo outcome)
        (state.threadAt id outcome.nextPc)
  | resetStream {succeeded : Bool}
      (resetting : (state.threads id).pc = .resetting)
      (alone : (state.threads id).hosting = none) :
      ThreadStep state id (.resetStream succeeded)
        (state.threadAt id (resetPc succeeded))
  | report
      (reporting : (state.threads id).pc = .reporting)
      (live : (state.objects (state.threads id).object).live = true) :
      ThreadStep state id .report
        { state.threadAt id .notifying with
          reports := state.reports ++
            [(state.objects (state.threads id).object).errorReport] }
  | finishReport
      (notifying : (state.threads id).pc = .notifying)
      (alone : (state.threads id).hosting = none) :
      ThreadStep state id .finishReport (state.threadAt id .clearing)
  | clearTid
      (clearing : (state.threads id).pc = .clearing)
      (live : (state.objects (state.threads id).object).live = true) :
      ThreadStep state id .clearTid
        ((state.setObject (state.threads id).object
          { state.objects (state.threads id).object with
            resetTid := none }).threadAt id .ended)
  | crash {action : ThreadAction}
      (running : (state.threads id).pc.Running)
      (freed : (state.objects (state.threads id).object).live = false) :
      ThreadStep state id action (state.threadAt id .crashed)

theorem threadStep_cases
    {state target : State} {id : ThreadId} {action : ThreadAction}
    (step : state.threadStep id action = some target) :
    ThreadStep state id action target := by
  have crashes {pc : ThreadPc}
      (at_pc : (state.threads id).pc = pc) (running : pc.Running)
      (freed : ¬ (state.objects (state.threads id).object).live = true) :
      ThreadStep state id action (state.threadAt id .crashed) := by
    apply ThreadStep.crash (at_pc ▸ running)
    simpa using freed
  simp only [threadStep] at step
  split at step
  case h_1 entry =>
      split at step
      · rename_i live
        cases step
        exact .start entry live
      · rename_i freed
        cases step
        exact crashes entry (by decide) freed
  case h_2 outcome gettingInfo =>
      obtain ⟨alone, target_eq⟩ := Option.ite_none_right_eq_some.mp step
      cases target_eq
      exact .getStreamInfo gettingInfo alone
  case h_3 succeeded resetting =>
      obtain ⟨alone, target_eq⟩ := Option.ite_none_right_eq_some.mp step
      cases target_eq
      exact .resetStream resetting alone
  case h_4 reporting =>
      split at step
      · rename_i live
        cases step
        exact .report reporting live
      · rename_i freed
        cases step
        exact crashes reporting (by decide) freed
  case h_5 notifying =>
      obtain ⟨alone, target_eq⟩ := Option.ite_none_right_eq_some.mp step
      cases target_eq
      exact .finishReport notifying alone
  case h_6 clearing =>
      split at step
      · rename_i live
        cases step
        exact .clearTid clearing live
      · rename_i freed
        cases step
        exact crashes clearing (by decide) freed
  case h_7 => cases step

end State

inductive Action where
  | call (id : CallId) (action : CallAction)
  | thread (id : ThreadId) (action : ThreadAction)
  deriving DecidableEq, Repr

namespace State

def next (state : State) : Action → Option State
  | .call id action => state.callStep id action
  | .thread id action => state.threadStep id action

/-- What the steps of the system can do. -/
inductive Step (state : State) : Action → State → Prop where
  | call {id : CallId} {action : CallAction} {target : State}
      (step : CallStep state id action target) :
      Step state (.call id action) target
  | thread {id : ThreadId} {action : ThreadAction} {target : State}
      (step : ThreadStep state id action target) :
      Step state (.thread id action) target

theorem next_cases
    {state target : State} {action : Action}
    (step : state.next action = some target) :
    Step state action target := by
  cases action with
  | call id action => exact .call (callStep_cases step)
  | thread id action => exact .thread (threadStep_cases step)

end State

/-- The states of runs whose every action meets the condition. -/
abbrev Run (ok : State → Action → Prop) (state : State) : Prop :=
  Steps State.next ok State.initial state

abbrev Reachable (state : State) : Prop :=
  Reaches State.next State.initial state

end ContinuousRetry

end KvsProducer
