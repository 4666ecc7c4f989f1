import KvsProducer.ContinuousRetry.LatencyMachine

/-!
# The connection stale state machine

The machine has the deadlines of the stream latency state machine, but nothing
takes it back to normal: it resets the connection once in the lifetime of the
mapping.
-/

namespace KvsProducer

namespace ContinuousRetry

open Histories

abbrev ConnectionStaleStateMachine := PressureStateMachine

def GRACE_PERIOD_CONNECTION_STALE_STATE_MACHINE : Nat :=
  30 * Common.HUNDREDS_OF_NANOS_IN_A_SECOND

def VERIFICATION_PERIOD_CONNECTION_STALE_STATE_MACHINE : Nat :=
  60 * Common.HUNDREDS_OF_NANOS_IN_A_SECOND

namespace ConnectionStaleStateMachine

/-- `CONNECTION_STALE_STATE_MACHINE_UPDATE_TIMESTAMP` -/
def updated (machine : ConnectionStaleStateMachine) :
    ConnectionStaleStateMachine :=
  machine.updateTimestamp GRACE_PERIOD_CONNECTION_STALE_STATE_MACHINE
    VERIFICATION_PERIOD_CONNECTION_STALE_STATE_MACHINE

/-- `connectionStaleStateMachineSetResetConnectionState` -/
def setResetConnectionState (machine : ConnectionStaleStateMachine)
    (report : PressureReport) : Handled × ConnectionStaleStateMachine :=
  let moved := updated { machine with currentState := .resetConnection }
  if report.streamReady then
    ({ retStatus := report.resetStatus, resetConnection := true }, moved)
  else ({ retStatus := 0, resetConnection := false }, moved)

/-- `connectionStaleStateMachineHandleConnectionStale` -/
def handleConnectionStale (machine : ConnectionStaleStateMachine)
    (report : PressureReport) : Handled × ConnectionStaleStateMachine :=
  let timed := { machine with currTime := report.time }
  if timed.quietTime < timed.currTime then
    match timed.currentState with
    | .normal => setResetConnectionState timed report
    | .resetConnection =>
        ({ retStatus := 0, resetConnection := false }, updated timed)
    | _ => ({ retStatus := 0, resetConnection := false }, timed)
  else ({ retStatus := 0, resetConnection := false }, timed)

end ConnectionStaleStateMachine

/-- What a machine does from the creation of the mapping on. -/
def staleHistory (reports : List PressureReport) : List PressureRecord :=
  history ConnectionStaleStateMachine.handleConnectionStale
    PressureStateMachine.initial reports

/-- The machine recovers over a lifetime of the mapping: behind the verification
period it resets the connection again, as from the normal state, and it does not
do so too often. -/
structure StaleRecovers (entries : List PressureRecord) : Prop where
  resets : ∀ entry ∈ entries,
    entry.before.backToNormalTime < entry.input.time →
      entry.input.streamReady = true → entry.output.resetConnection = true
  backToNormal : ∀ entry ∈ entries,
    entry.before.backToNormalTime < entry.input.time →
      entry.before.quietTime < entry.input.time →
        (entry.output, entry.after) =
          ConnectionStaleStateMachine.handleConnectionStale
            { entry.before with currentState := .normal } entry.input
  resetsApart : entries.Pairwise fun first later =>
    first.output.resetConnection = true →
      later.output.resetConnection = true →
        first.input.time + GRACE_PERIOD_CONNECTION_STALE_STATE_MACHINE <
          later.input.time

/-- The report finds the machine as it was created, is not late, or does not
find the stream ready. -/
def Recoverable (entry : PressureRecord) : Prop :=
  entry.before.currentState = .normal ∨
    entry.input.time ≤ entry.before.backToNormalTime ∨
    entry.input.streamReady = false

/-! ### One report -/

/-- The machine is as it was created, or it has acted. -/
def Acted (machine : ConnectionStaleStateMachine) : Prop :=
  machine.currentState = .normal ∧ machine.quietTime = 0 ∧
      machine.backToNormalTime = 0 ∨
    machine.currentState = .resetConnection

section OneReport

variable {machine : ConnectionStaleStateMachine} {report : PressureReport}

theorem handleConnectionStale_ignores
    (quiet : ¬ machine.quietTime < report.time) :
    machine.handleConnectionStale report =
      (⟨0, false⟩, { machine with currTime := report.time }) := by
  simp only [ConnectionStaleStateMachine.handleConnectionStale, if_neg quiet]

theorem handleConnectionStale_normal
    (acts : machine.quietTime < report.time)
    (normal : machine.currentState = .normal) :
    machine.handleConnectionStale report =
      ConnectionStaleStateMachine.setResetConnectionState
        { machine with currTime := report.time } report := by
  simp only [ConnectionStaleStateMachine.handleConnectionStale, if_pos acts,
    normal]

theorem handleConnectionStale_acted
    (acts : machine.quietTime < report.time)
    (state : machine.currentState = .resetConnection) :
    machine.handleConnectionStale report =
      (⟨0, false⟩, ConnectionStaleStateMachine.updated
        { machine with currTime := report.time }) := by
  simp only [ConnectionStaleStateMachine.handleConnectionStale, if_pos acts,
    state]

theorem setResetConnectionState_reset :
    (machine.setResetConnectionState report).1.resetConnection =
      report.streamReady := by
  cases ready : report.streamReady with
  | true => simp [ConnectionStaleStateMachine.setResetConnectionState, ready]
  | false => simp [ConnectionStaleStateMachine.setResetConnectionState, ready]

theorem setResetConnectionState_machine :
    (machine.setResetConnectionState report).2 =
      ConnectionStaleStateMachine.updated
        { machine with currentState := .resetConnection } := by
  simp only [ConnectionStaleStateMachine.setResetConnectionState]
  split
  · rfl
  · rfl

/-- A machine that has acted stays in its state and does not reset the
connection. -/
theorem handleConnectionStale_stays
    (state : machine.currentState = .resetConnection) :
    (machine.handleConnectionStale report).1.resetConnection = false ∧
      (machine.handleConnectionStale report).2.currentState =
        .resetConnection := by
  by_cases acts : machine.quietTime < report.time
  · rw [handleConnectionStale_acted acts state]
    exact ⟨rfl, state⟩
  · rw [handleConnectionStale_ignores acts]
    exact ⟨rfl, state⟩

theorem handleConnectionStale_keeps (acted : Acted machine) :
    Acted (machine.handleConnectionStale report).2 := by
  rcases acted with ⟨normal, quiet, back⟩ | state
  · by_cases acts : machine.quietTime < report.time
    · right
      rw [handleConnectionStale_normal acts normal,
        setResetConnectionState_machine]
      rfl
    · left
      rw [handleConnectionStale_ignores acts]
      exact ⟨normal, quiet, back⟩
  · exact .inr (handleConnectionStale_stays state).2

theorem handleConnectionStale_resets (acted : Acted machine)
    (issued : (machine.handleConnectionStale report).1.resetConnection =
      true) :
    (machine.handleConnectionStale report).2.currentState =
      .resetConnection := by
  by_cases acts : machine.quietTime < report.time
  · rcases acted with ⟨normal, -, -⟩ | state
    · rw [handleConnectionStale_normal acts normal,
        setResetConnectionState_machine]
      rfl
    · exact (handleConnectionStale_stays state).2
  · rw [handleConnectionStale_ignores acts] at issued
    cases issued

/-- Where the stream is not ready, a machine that has acted does what a machine
in the normal state does. -/
theorem handleConnectionStale_unready
    (acts : machine.quietTime < report.time)
    (state : machine.currentState = .resetConnection)
    (unready : report.streamReady = false) :
    machine.handleConnectionStale report =
      ConnectionStaleStateMachine.handleConnectionStale
        { machine with currentState := .normal } report := by
  have normal := @handleConnectionStale_normal
    { machine with currentState := .normal } report acts rfl
  rw [handleConnectionStale_acted acts state, normal]
  simp only [ConnectionStaleStateMachine.setResetConnectionState, unready,
    Bool.false_eq_true, if_false, state]

end OneReport

/-! ### Every history -/

theorem initial_acted : Acted PressureStateMachine.initial :=
  .inl ⟨rfl, rfl, rfl⟩

section Histories

variable {reports : List PressureReport}

theorem staleHistory_step :
    ∀ entry ∈ staleHistory reports, Acted entry.before ∧
      (entry.output, entry.after) =
        ConnectionStaleStateMachine.handleConnectionStale entry.before
          entry.input := by
  have steps := @forall_history _ _ _
    ConnectionStaleStateMachine.handleConnectionStale _ reports Acted
    initial_acted (fun _ _ _ acted => handleConnectionStale_keeps acted)
  intro entry listed
  obtain ⟨acted, -, isRecord⟩ := steps entry listed
  refine ⟨acted, ?_⟩
  rw [isRecord]
  rfl

/-- Two resets are never too close, since there is never a second one. -/
theorem staleHistory_resetsApart :
    (staleHistory reports).Pairwise fun first later =>
      first.output.resetConnection = true →
        later.output.resetConnection = true →
          first.input.time + GRACE_PERIOD_CONNECTION_STALE_STATE_MACHINE <
            later.input.time := by
  apply @pairwise_history _ _ _ _ _ _ _
    (fun first machine => first.output.resetConnection = true →
      machine.currentState = .resetConnection) _ initial_acted
    (fun _ _ _ acted => handleConnectionStale_keeps acted)
  · intro machine report _ acted issued
    exact handleConnectionStale_resets acted issued
  · intro first machine report _ acted left
    constructor
    · intro issued again
      have stays := (@handleConnectionStale_stays _ report (left issued)).1
      exact absurd (again.symm.trans stays) Bool.noConfusion
    · intro issued
      exact (handleConnectionStale_stays (left issued)).2

end Histories

/-- The lifetimes in which the machine recovers. -/
theorem staleRecovers_iff (reports : List PressureReport) :
    StaleRecovers (staleHistory reports) ↔
      ∀ entry ∈ staleHistory reports, Recoverable entry := by
  constructor
  · intro recovers entry listed
    obtain ⟨acted, step⟩ := staleHistory_step entry listed
    by_contra unrecoverable
    simp only [Recoverable, not_or, Nat.not_le, Bool.not_eq_false]
      at unrecoverable
    obtain ⟨notNormal, late, ready⟩ := unrecoverable
    have state := acted.resolve_left fun unused => notNormal unused.1
    have issued := recovers.resets entry listed late ready
    have stays := (@handleConnectionStale_stays _ entry.input state).1
    rw [← step] at stays
    exact absurd (issued.symm.trans stays) Bool.noConfusion
  · intro recoverable
    constructor
    case resets =>
        intro entry listed late ready
        obtain ⟨acted, step⟩ := staleHistory_step entry listed
        rcases recoverable entry listed with normal | early | unready
        · have acts : entry.before.quietTime < entry.input.time := by
            rcases acted with ⟨-, quiet, back⟩ | state
            · omega
            · exact absurd (normal.symm.trans state) HandlingState.noConfusion
          have output := congrArg (·.1.resetConnection) step
          rw [handleConnectionStale_normal acts normal,
            setResetConnectionState_reset, ready] at output
          exact output
        · exact absurd early (Nat.not_le.mpr late)
        · exact absurd (ready.symm.trans unready) Bool.noConfusion
    case backToNormal =>
        intro entry listed late acts
        obtain ⟨acted, step⟩ := staleHistory_step entry listed
        rw [step]
        rcases recoverable entry listed with normal | early | unready
        · rw [← normal]
        · exact absurd early (Nat.not_le.mpr late)
        · rcases acted with ⟨normal, -⟩ | state
          · rw [← normal]
          · exact handleConnectionStale_unready acts state unready
    case resetsApart => exact staleHistory_resetsApart

/-! ### The condition on the reports -/

/-- The quiet time that an action at a time sets. -/
def quietUntil (time : Nat) : Nat :=
  (time + GRACE_PERIOD_CONNECTION_STALE_STATE_MACHINE) % 2 ^ 64

/-- The end of the verification period that an action at a time sets. -/
def verifiedAt (time : Nat) : Nat :=
  (quietUntil time + VERIFICATION_PERIOD_CONNECTION_STALE_STATE_MACHINE) %
    2 ^ 64

/-- A report that is not quiet is acted on. -/
def actOn (acted : Option Nat) (report : PressureReport) : Option Nat :=
  if acted.elim 0 quietUntil < report.time then some report.time else acted

/-- The time of the last report that is acted on. -/
def lastActed (reports : List PressureReport) : Option Nat :=
  reports.foldl actOn none

/-- Behind the first report that is acted on, a report is not later than the
verification period of the last one before it, or the stream is not ready. -/
def RecoverableReports (reports : List PressureReport) : Prop :=
  ∀ earlier report later, reports = earlier ++ report :: later →
    ∀ time ∈ lastActed earlier,
      report.time ≤ verifiedAt time ∨ report.streamReady = false

/-- The machine is as the last action has left it. -/
def ActedAt (machine : ConnectionStaleStateMachine) : Option Nat → Prop
  | none => machine.currentState = .normal ∧ machine.quietTime = 0
  | some time =>
      machine.currentState = .resetConnection ∧
        machine.quietTime = quietUntil time ∧
        machine.backToNormalTime = verifiedAt time

section Reports

variable {machine : ConnectionStaleStateMachine} {report : PressureReport}
variable {acted : Option Nat} {reports : List PressureReport}

theorem ActedAt.quietTime (actedAt : ActedAt machine acted) :
    machine.quietTime = acted.elim 0 quietUntil := by
  cases acted with
  | none => exact actedAt.2
  | some time =>
      rw [Option.elim_some]
      exact actedAt.2.1

theorem updated_actedAt (state : machine.currentState = .resetConnection) :
    ActedAt (ConnectionStaleStateMachine.updated machine)
      (some machine.currTime) := by
  simp only [ConnectionStaleStateMachine.updated,
    PressureStateMachine.updateTimestamp, ActedAt, verifiedAt, quietUntil, state,
    and_self]

theorem ActedAt.handle (actedAt : ActedAt machine acted) :
    ActedAt (machine.handleConnectionStale report).2
      (actOn acted report) := by
  by_cases acts : machine.quietTime < report.time
  · have acted_lt := acts
    rw [actedAt.quietTime] at acted_lt
    rw [actOn, if_pos acted_lt]
    cases acted with
    | none =>
        rw [handleConnectionStale_normal acts actedAt.1,
          setResetConnectionState_machine]
        exact updated_actedAt rfl
    | some time =>
        rw [handleConnectionStale_acted acts actedAt.1]
        exact updated_actedAt actedAt.1
  · have notActed := acts
    rw [actedAt.quietTime] at notActed
    rw [actOn, if_neg notActed, handleConnectionStale_ignores acts]
    cases acted with
    | none => exact actedAt
    | some time => exact actedAt

theorem stateBehind_actedAt :
    ActedAt (stateBehind ConnectionStaleStateMachine.handleConnectionStale
      PressureStateMachine.initial reports) (lastActed reports) := by
  induction reports using List.reverseRecOn with
  | nil => exact ⟨rfl, rfl⟩
  | append_singleton earlier report induction =>
      rw [stateBehind, lastActed, List.foldl_append, List.foldl_append,
        List.foldl_cons, List.foldl_nil, List.foldl_cons, List.foldl_nil]
      exact induction.handle

/-- What each report finds is said by the reports before it. -/
theorem recoverable_iff_reports :
    (∀ entry ∈ staleHistory reports, Recoverable entry) ↔
      RecoverableReports reports := by
  have found (earlier : List PressureReport) (report : PressureReport) :
      Recoverable (record ConnectionStaleStateMachine.handleConnectionStale
          (stateBehind ConnectionStaleStateMachine.handleConnectionStale
            PressureStateMachine.initial earlier) report) ↔
        ∀ time ∈ lastActed earlier,
          report.time ≤ verifiedAt time ∨ report.streamReady = false := by
    have actedAt := @stateBehind_actedAt earlier
    unfold Recoverable record
    cases acted : lastActed earlier with
    | none =>
        rw [acted] at actedAt
        simp [actedAt.1]
    | some time =>
        rw [acted] at actedAt
        simp [actedAt.1, actedAt.2.2]
  constructor
  · intro recoverable earlier report later split
    rw [← found]
    exact recoverable _ (mem_history_iff.mpr
      ⟨earlier, report, later, split, rfl⟩)
  · intro recoverable entry listed
    obtain ⟨earlier, report, later, split, rfl⟩ := mem_history_iff.mp listed
    exact (found earlier report).mpr (recoverable earlier report later split)

end Reports

theorem sampleReset_time_lt : 10000000 < 2 ^ 64 := by
  decide

/-- A reset, and a report a hundred seconds later. -/
def sampleStaleReports : List PressureReport :=
  [{ time := 10000000, time_lt := sampleReset_time_lt, streamReady := true,
     resetStatus := 0 },
    { time := 1010000000, time_lt := by decide, streamReady := true,
      resetStatus := 0 }]

/-- The second report is ignored. -/
theorem not_staleRecovers :
    ¬ StaleRecovers (staleHistory sampleStaleReports) := by
  intro recovers
  have resets := recovers.resets
  simp only [staleHistory, sampleStaleReports, history,
    List.forall_mem_cons] at resets
  obtain ⟨-, second, -⟩ := resets
  have issued := second (by decide) rfl
  revert issued
  decide

end ContinuousRetry

end KvsProducer
