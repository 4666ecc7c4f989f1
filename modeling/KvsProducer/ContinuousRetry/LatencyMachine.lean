import KvsProducer.Common.Text
import KvsProducer.Lib.Histories

/-!
# The stream latency state machine

Latency pressure is answered with a reset of the connection, then with nothing,
and then with resets again, as long as the pressure stays.  After an action the
machine is quiet for a while, and back to normal some time later.  A report is
given by what the handler finds: the time, whether the stream is ready, and what
the reset would return.
-/

namespace KvsProducer

namespace ContinuousRetry

open Histories

/-- `STREAM_CALLBACK_HANDLING_STATE` -/
inductive HandlingState where
  | normal
  | resetConnection
  | resetStream
  | throttlePipeline
  | infiniteRetry
  deriving DecidableEq, Repr

/-- The fields of `StreamLatencyStateMachine` and of
`ConnectionStaleStateMachine`, which are the same, without the pointer to the
object. -/
structure PressureStateMachine where
  currentState : HandlingState
  currTime : Nat
  quietTime : Nat
  backToNormalTime : Nat
  deriving DecidableEq, Repr

/-- What a report finds. -/
structure PressureReport where
  time : Nat
  time_lt : time < 2 ^ 64
  streamReady : Bool
  resetStatus : Nat

/-- What a handler returns, and whether it has called
`kinesisVideoStreamResetConnection`. -/
structure Handled where
  retStatus : Nat
  resetConnection : Bool
  deriving DecidableEq, Repr

namespace PressureStateMachine

/-- The values that `getStreamMapping` sets. -/
def initial : PressureStateMachine :=
  { currentState := .normal
    currTime := 0
    quietTime := 0
    backToNormalTime := 0 }

/-- The two deadlines behind an action. -/
def updateTimestamp (machine : PressureStateMachine)
    (gracePeriod verificationPeriod : Nat) : PressureStateMachine :=
  let quietTime := (machine.currTime + gracePeriod) % 2 ^ 64
  { machine with
    quietTime := quietTime
    backToNormalTime := (quietTime + verificationPeriod) % 2 ^ 64 }

end PressureStateMachine

abbrev StreamLatencyStateMachine := PressureStateMachine

def GRACE_PERIOD_STREAM_LATENCY_STATE_MACHINE : Nat :=
  30 * Common.HUNDREDS_OF_NANOS_IN_A_SECOND

def VERIFICATION_PERIOD_STREAM_LATENCY_STATE_MACHINE : Nat :=
  60 * Common.HUNDREDS_OF_NANOS_IN_A_SECOND

namespace StreamLatencyStateMachine

/-- `STREAM_LATENCY_STATE_MACHINE_UPDATE_TIMESTAMP` -/
def updated (machine : StreamLatencyStateMachine) : StreamLatencyStateMachine :=
  machine.updateTimestamp GRACE_PERIOD_STREAM_LATENCY_STATE_MACHINE
    VERIFICATION_PERIOD_STREAM_LATENCY_STATE_MACHINE

/-- `streamLatencyStateMachineToResetConnectionState`, which does not look at
what the reset returns. -/
def toResetConnectionState (machine : StreamLatencyStateMachine)
    (report : PressureReport) : Handled × StreamLatencyStateMachine :=
  ({ retStatus := 0, resetConnection := report.streamReady },
    updated { machine with currentState := .resetConnection })

/-- `streamLatencyStateMachineSetThrottlePipelineState` -/
def setThrottlePipelineState (machine : StreamLatencyStateMachine) :
    StreamLatencyStateMachine :=
  updated { machine with currentState := .throttlePipeline }

/-- `streamLatencyStateMachineSetInfiniteRetryState` -/
def setInfiniteRetryState (machine : StreamLatencyStateMachine) :
    StreamLatencyStateMachine :=
  { machine with currentState := .infiniteRetry }

/-- `streamLatencyStateMachineDoInfiniteRetry` -/
def doInfiniteRetry (machine : StreamLatencyStateMachine)
    (report : PressureReport) : Handled × StreamLatencyStateMachine :=
  if report.streamReady then
    ({ retStatus := report.resetStatus, resetConnection := true },
      updated machine)
  else ({ retStatus := 0, resetConnection := false }, updated machine)

/-- What the handler does when the machine is not quiet. -/
def act (machine : StreamLatencyStateMachine) (report : PressureReport) :
    Handled × StreamLatencyStateMachine :=
  match machine.currentState with
  | .normal => toResetConnectionState machine report
  | .resetConnection =>
      ({ retStatus := 0, resetConnection := false },
        setThrottlePipelineState machine)
  | .throttlePipeline =>
      ({ retStatus := 0, resetConnection := false },
        setInfiniteRetryState machine)
  | .infiniteRetry => doInfiniteRetry machine report
  | .resetStream => ({ retStatus := 0, resetConnection := false }, machine)

/-- `streamLatencyStateMachineHandleStreamLatency` -/
def handleStreamLatency (machine : StreamLatencyStateMachine)
    (report : PressureReport) : Handled × StreamLatencyStateMachine :=
  let timed := { machine with currTime := report.time }
  let current :=
    if timed.backToNormalTime < timed.currTime then
      { timed with currentState := .normal }
    else timed
  if current.quietTime < current.currTime then act current report
  else ({ retStatus := 0, resetConnection := false }, current)

end StreamLatencyStateMachine

abbrev PressureRecord := Record PressureStateMachine PressureReport Handled

/-- What a machine does from the creation of the mapping on. -/
def latencyHistory (reports : List PressureReport) : List PressureRecord :=
  history StreamLatencyStateMachine.handleStreamLatency
    PressureStateMachine.initial reports

/-- The report is not ignored. -/
def Acts (entry : PressureRecord) : Prop :=
  entry.before.quietTime < entry.input.time

/-- Both deadlines are set. -/
def HasDeadlines (machine : PressureStateMachine) : Prop :=
  machine.backToNormalTime =
    machine.quietTime + VERIFICATION_PERIOD_STREAM_LATENCY_STATE_MACHINE

/-- The discipline of the machine over a lifetime of the mapping. -/
structure LatencyDiscipline (entries : List PressureRecord) : Prop where
  quietTime : ∀ entry ∈ entries,
    entry.after.quietTime ≠ entry.before.quietTime →
      entry.before.quietTime < entry.after.quietTime
  deadlines : ∀ entry ∈ entries, Acts entry → HasDeadlines entry.after
  deadlinesStay : entries.Pairwise fun acting later =>
    Acts acting → HasDeadlines later.after
  resetsApart : entries.Pairwise fun first later =>
    first.output.resetConnection = true →
      later.output.resetConnection = true →
        first.input.time + 30 * Common.HUNDREDS_OF_NANOS_IN_A_SECOND <
          later.input.time
  ready : ∀ entry ∈ entries,
    entry.output.resetConnection = true → entry.input.streamReady = true
  retried : ∀ entry ∈ entries,
    entry.after.currentState = .infiniteRetry →
      entry.before.currentState = .infiniteRetry ∨
        entry.before.currentState = .throttlePipeline
  throttled : ∀ entry ∈ entries,
    entry.after.currentState = .throttlePipeline →
      entry.before.currentState = .throttlePipeline ∨
        entry.before.currentState = .resetConnection
  backToNormal : ∀ entry ∈ entries,
    entry.before.backToNormalTime < entry.input.time →
      (entry.output, entry.after) =
        StreamLatencyStateMachine.handleStreamLatency
          { entry.before with currentState := .normal } entry.input

/-! ### One report -/

/-- The time is not so late that a deadline would wrap around. -/
def PressureReport.Early (report : PressureReport) : Prop :=
  report.time < 2 ^ 64 - (GRACE_PERIOD_STREAM_LATENCY_STATE_MACHINE +
    VERIFICATION_PERIOD_STREAM_LATENCY_STATE_MACHINE)

instance (report : PressureReport) : Decidable report.Early :=
  inferInstanceAs (Decidable (_ < _))

/-- The deadlines are in their order, and they are set unless the machine has
not acted yet. -/
structure PressureStateMachine.Timed (machine : PressureStateMachine) :
    Prop where
  ordered : machine.quietTime ≤ machine.backToNormalTime
  deadlines : HasDeadlines machine ∨ machine.currentState = .normal

/-- A machine in a state, at the time of its last action. -/
def acted (state : HandlingState) (time : Nat) : PressureStateMachine :=
  { currentState := state
    currTime := time
    quietTime := time + GRACE_PERIOD_STREAM_LATENCY_STATE_MACHINE
    backToNormalTime := time + GRACE_PERIOD_STREAM_LATENCY_STATE_MACHINE +
      VERIFICATION_PERIOD_STREAM_LATENCY_STATE_MACHINE }

theorem updated_eq {machine : StreamLatencyStateMachine}
    {report : PressureReport} (early : report.Early)
    (current : machine.currTime = report.time) :
    machine.updated = acted machine.currentState report.time := by
  have graceFits : report.time + GRACE_PERIOD_STREAM_LATENCY_STATE_MACHINE <
      2 ^ 64 := by
    simp only [PressureReport.Early] at early
    omega
  have fits : report.time + GRACE_PERIOD_STREAM_LATENCY_STATE_MACHINE +
      VERIFICATION_PERIOD_STREAM_LATENCY_STATE_MACHINE < 2 ^ 64 := by
    simp only [PressureReport.Early] at early
    omega
  simp only [StreamLatencyStateMachine.updated, acted,
    PressureStateMachine.updateTimestamp, current,
    Nat.mod_eq_of_lt graceFits, Nat.mod_eq_of_lt fits]

/-- What a report does to a machine. -/
inductive Handles (machine : StreamLatencyStateMachine)
    (report : PressureReport) : Handled × StreamLatencyStateMachine → Prop where
  | ignores (quiet : report.time ≤ machine.quietTime) (retStatus : Nat) :
      Handles machine report
        (⟨retStatus, false⟩, { machine with currTime := report.time })
  | resets (acts : machine.quietTime < report.time)
      (normal : machine.currentState = .normal ∨
        machine.backToNormalTime < report.time) (retStatus : Nat) :
      Handles machine report
        (⟨retStatus, report.streamReady⟩, acted .resetConnection report.time)
  | throttles (acts : machine.quietTime < report.time)
      (state : machine.currentState = .resetConnection) (retStatus : Nat) :
      Handles machine report
        (⟨retStatus, false⟩, acted .throttlePipeline report.time)
  | givesUp (acts : machine.quietTime < report.time)
      (state : machine.currentState = .throttlePipeline) (retStatus : Nat) :
      Handles machine report
        (⟨retStatus, false⟩,
          { machine with
            currentState := .infiniteRetry
            currTime := report.time })
  | retries (acts : machine.quietTime < report.time)
      (state : machine.currentState = .infiniteRetry) (retStatus : Nat) :
      Handles machine report
        (⟨retStatus, report.streamReady⟩, acted .infiniteRetry report.time)
  | rests (acts : machine.quietTime < report.time)
      (state : machine.currentState = .resetStream) (retStatus : Nat) :
      Handles machine report
        (⟨retStatus, false⟩,
          { machine with
            currentState := .resetStream
            currTime := report.time })

section OneReport

variable {machine : StreamLatencyStateMachine} {report : PressureReport}

theorem handles (early : report.Early) (timed : machine.Timed) :
    Handles machine report (machine.handleStreamLatency report) := by
  have moves (state : HandlingState) :
      StreamLatencyStateMachine.updated
          { machine with currTime := report.time, currentState := state } =
        acted state report.time :=
    updated_eq early rfl
  have ordered := timed.ordered
  by_cases late : machine.backToNormalTime < report.time
  · have acts : machine.quietTime < report.time := by omega
    simp only [StreamLatencyStateMachine.handleStreamLatency, if_pos late,
      if_pos acts, StreamLatencyStateMachine.act,
      StreamLatencyStateMachine.toResetConnectionState, moves]
    exact .resets acts (.inr late) 0
  · by_cases acts : machine.quietTime < report.time
    · simp only [StreamLatencyStateMachine.handleStreamLatency, if_neg late,
        if_pos acts, StreamLatencyStateMachine.act]
      cases state : machine.currentState with
      | normal =>
          simp only [StreamLatencyStateMachine.toResetConnectionState, moves]
          exact .resets acts (.inl state) 0
      | resetConnection =>
          simp only [StreamLatencyStateMachine.setThrottlePipelineState, moves]
          exact .throttles acts state 0
      | resetStream => exact .rests acts state 0
      | throttlePipeline => exact .givesUp acts state 0
      | infiniteRetry =>
          have retries := Handles.retries acts state
          simp only [StreamLatencyStateMachine.doInfiniteRetry, moves]
          cases ready : report.streamReady with
          | true =>
              simp only [ready] at retries
              exact retries report.resetStatus
          | false =>
              simp only [ready] at retries
              exact retries 0
    · simp only [StreamLatencyStateMachine.handleStreamLatency, if_neg late,
        if_neg acts]
      exact .ignores (Nat.not_lt.mp acts) 0

variable {result : Handled × StreamLatencyStateMachine}

theorem acted_timed (state : HandlingState) (time : Nat) :
    (acted state time).Timed := by
  constructor
  case ordered =>
      simp only [acted]
      omega
  case deadlines => exact .inl rfl

theorem Handles.timed (handled : Handles machine report result)
    (timed : machine.Timed) : result.2.Timed := by
  cases handled with
  | ignores quiet retStatus => exact ⟨timed.ordered, timed.deadlines⟩
  | resets acts normal retStatus => exact acted_timed _ _
  | throttles acts state retStatus => exact acted_timed _ _
  | givesUp acts state retStatus =>
      refine ⟨timed.ordered, .inl ?_⟩
      apply timed.deadlines.resolve_right
      rw [state]
      exact HandlingState.noConfusion
  | retries acts state retStatus => exact acted_timed _ _
  | rests acts state retStatus =>
      refine ⟨timed.ordered, .inl ?_⟩
      apply timed.deadlines.resolve_right
      rw [state]
      exact HandlingState.noConfusion

/-- The quiet time is never put back. -/
theorem Handles.quietTime (handled : Handles machine report result) :
    result.2.quietTime = machine.quietTime ∨
      machine.quietTime < result.2.quietTime := by
  have later (state : HandlingState) (acts : machine.quietTime < report.time) :
      machine.quietTime < (acted state report.time).quietTime :=
    Nat.lt_of_lt_of_le acts (Nat.le_add_right _ _)
  cases handled with
  | ignores quiet retStatus => exact .inl rfl
  | resets acts normal retStatus => exact .inr (later _ acts)
  | throttles acts state retStatus => exact .inr (later _ acts)
  | givesUp acts state retStatus => exact .inl rfl
  | retries acts state retStatus => exact .inr (later _ acts)
  | rests acts state retStatus => exact .inl rfl

/-- Deadlines that are set stay set, and an action sets them. -/
theorem Handles.deadlines (handled : Handles machine report result)
    (timed : machine.Timed)
    (set : HasDeadlines machine ∨ machine.quietTime < report.time) :
    HasDeadlines result.2 := by
  have other {state : HandlingState} (isState : machine.currentState = state)
      (notNormal : state ≠ .normal) : HasDeadlines machine :=
    timed.deadlines.resolve_right (isState ▸ notNormal)
  cases handled with
  | ignores quiet retStatus =>
      exact set.resolve_right (Nat.not_lt.mpr quiet)
  | resets acts normal retStatus => rfl
  | throttles acts state retStatus => rfl
  | givesUp acts state retStatus => exact other state HandlingState.noConfusion
  | retries acts state retStatus => rfl
  | rests acts state retStatus => exact other state HandlingState.noConfusion

/-- A reset is issued when the machine is not quiet and the stream is ready, and
makes the machine quiet. -/
theorem Handles.reset (handled : Handles machine report result)
    (issued : result.1.resetConnection = true) :
    machine.quietTime < report.time ∧ report.streamReady = true ∧
      result.2.quietTime =
        report.time + GRACE_PERIOD_STREAM_LATENCY_STATE_MACHINE := by
  cases handled with
  | ignores quiet retStatus => cases issued
  | resets acts normal retStatus => exact ⟨acts, issued, rfl⟩
  | throttles acts state retStatus => cases issued
  | givesUp acts state retStatus => cases issued
  | retries acts state retStatus => exact ⟨acts, issued, rfl⟩
  | rests acts state retStatus => cases issued

theorem Handles.retried (handled : Handles machine report result)
    (isState : result.2.currentState = .infiniteRetry) :
    machine.currentState = .infiniteRetry ∨
      machine.currentState = .throttlePipeline := by
  cases handled with
  | ignores quiet retStatus => exact .inl isState
  | resets acts normal retStatus => cases isState
  | throttles acts state retStatus => cases isState
  | givesUp acts state retStatus => exact .inr state
  | retries acts state retStatus => exact .inl state
  | rests acts state retStatus => cases isState

theorem Handles.throttled (handled : Handles machine report result)
    (isState : result.2.currentState = .throttlePipeline) :
    machine.currentState = .throttlePipeline ∨
      machine.currentState = .resetConnection := by
  cases handled with
  | ignores quiet retStatus => exact .inl isState
  | resets acts normal retStatus => cases isState
  | throttles acts state retStatus => exact .inr state
  | givesUp acts state retStatus => cases isState
  | retries acts state retStatus => cases isState
  | rests acts state retStatus => cases isState

/-- Behind the verification period, the state does not matter. -/
theorem handleStreamLatency_late
    (late : machine.backToNormalTime < report.time) :
    machine.handleStreamLatency report =
      StreamLatencyStateMachine.handleStreamLatency
        { machine with currentState := .normal } report := by
  simp only [StreamLatencyStateMachine.handleStreamLatency, if_pos late]

end OneReport

/-! ### Every history -/

theorem initial_timed : PressureStateMachine.initial.Timed :=
  ⟨Nat.le_refl _, .inr rfl⟩

/-- The machine keeps its discipline over every lifetime of the mapping. -/
theorem latency_discipline (reports : List PressureReport)
    (early : ∀ report ∈ reports, report.Early) :
    LatencyDiscipline (latencyHistory reports) := by
  have keeps : ∀ (machine : StreamLatencyStateMachine), ∀ report ∈ reports,
      machine.Timed → (machine.handleStreamLatency report).2.Timed := by
    intro machine report listed timed
    exact (handles (early report listed) timed).timed timed
  have steps := forall_history initial_timed keeps
  have step : ∀ entry ∈ latencyHistory reports,
      entry.before.Timed ∧
        Handles entry.before entry.input (entry.output, entry.after) := by
    intro entry listed
    obtain ⟨timed, isReport, isRecord⟩ := steps entry listed
    refine ⟨timed, ?_⟩
    rw [isRecord]
    exact handles (early _ isReport) timed
  constructor
  case quietTime =>
      intro entry listed changed
      exact (step entry listed).2.quietTime.resolve_left changed
  case deadlines =>
      intro entry listed acts
      obtain ⟨timed, handled⟩ := step entry listed
      exact handled.deadlines timed (.inr acts)
  case deadlinesStay =>
      apply @pairwise_history _ _ _ _ _ _ _
        (fun acting machine => Acts acting → HasDeadlines machine) _
        initial_timed keeps
      · intro machine report listed timed acts
        have handled := handles (early report listed) timed
        exact handled.deadlines timed (.inr acts)
      · intro acting machine report listed timed set
        have handled := handles (early report listed) timed
        have stay (acts : Acts acting) :=
          handled.deadlines timed (.inl (set acts))
        exact ⟨stay, stay⟩
  case resetsApart =>
      -- each reset leaves the machine quiet until its grace period is over
      apply @pairwise_history _ _ _ _ _ _ _
        (fun first machine => first.output.resetConnection = true →
          first.input.time + GRACE_PERIOD_STREAM_LATENCY_STATE_MACHINE ≤
            machine.quietTime) _ initial_timed keeps
      · intro machine report listed timed issued
        have handled := handles (early report listed) timed
        exact Nat.le_of_eq (handled.reset issued).2.2.symm
      · intro first machine report listed timed quiet
        have handled := handles (early report listed) timed
        constructor
        · intro issued again
          have acts := (handled.reset again).1
          exact Nat.lt_of_le_of_lt (quiet issued) acts
        · intro issued
          have before := quiet issued
          have after := handled.quietTime
          simp only [record]
          omega
  case ready =>
      intro entry listed issued
      exact ((step entry listed).2.reset issued).2.1
  case retried =>
      intro entry listed isState
      exact (step entry listed).2.retried isState
  case throttled =>
      intro entry listed isState
      exact (step entry listed).2.throttled isState
  case backToNormal =>
      intro entry listed late
      obtain ⟨-, -, isRecord⟩ := steps entry listed
      rw [← handleStreamLatency_late late, isRecord]
      rfl

/-- Half a minute and a bit more, twice, and then every minute. -/
def sampleReports : List PressureReport :=
  [{ time := 10000000, time_lt := by decide, streamReady := true,
     resetStatus := 0 },
    { time := 320000000, time_lt := by decide, streamReady := true,
      resetStatus := 0 },
    { time := 640000000, time_lt := by decide, streamReady := false,
      resetStatus := 0 },
    { time := 650000000, time_lt := by decide, streamReady := true,
      resetStatus := 1 }]

theorem latency_discipline_sample :
    (latencyHistory sampleReports).map (fun entry =>
        (entry.after.currentState, entry.output.resetConnection)) =
      [(.resetConnection, true), (.throttlePipeline, false),
        (.infiniteRetry, false), (.infiniteRetry, true)] ∧
      LatencyDiscipline (latencyHistory sampleReports) := by
  constructor
  · decide
  · apply latency_discipline
    decide

end ContinuousRetry

end KvsProducer
