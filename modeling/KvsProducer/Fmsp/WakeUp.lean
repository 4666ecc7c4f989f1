import KvsProducer.Fmsp.Step

/-!
# No lost START

The send loop tests `bSuspend` before it enters `pFnSuspend`, and the receive
loop clears the flag and signals without the mutex.  A signal between the test
and the wait wakes nobody.  A START is also undone by the send loop itself, when
it suspends at the end of a segment or because it has seen no client.
-/

namespace KvsProducer

namespace Fmsp

open TransitionSystem

@[simp] theorem SendPc.signal_ne_waiting {pc : SendPc} :
    pc.signal ≠ .waiting false := by
  cases pc <;> simp [signal]

@[simp] theorem SendPc.signal_eq_suspending {pc : SendPc} :
    pc.signal = .suspending ↔ pc = .suspending := by
  cases pc <;> simp [signal]

namespace Server

/-- While a START stands whose signal has been given, the send loop does not
wait for another one. -/
def StartHeeded (server : Server) : Prop :=
  server.started = true → server.recv ≠ .signal → server.send ≠ .waiting false

/-- The signal of a START is not given between the test of the send loop and
its wait, and the send loop does not suspend while a START stands. -/
def KeepsStart (server : Server) : ServerAction → Prop
  | .recv .proceed =>
      server.recv = .signal → server.started = true →
        server.send ≠ .suspending
  | .send .proceed =>
      server.send = .suspendAbsent ∨ server.send = .finished →
        server.started = false
  | _ => True

instance (server : Server) (action : ServerAction) :
    Decidable (server.KeepsStart action) :=
  match action with
  | .recv .proceed => inferInstanceAs (Decidable (_ → _ → _))
  | .send .proceed => inferInstanceAs (Decidable (_ ∨ _ → _))
  | .recv (.command _) | .recv .clientGone => inferInstanceAs (Decidable True)
  | .send .wakeSpuriously | .send (.fetch _) =>
      inferInstanceAs (Decidable True)
  | .main _ => inferInstanceAs (Decidable True)

/-- A START that stands has left `bSuspend` clear, and once it is signalled the
send loop is not on its way into the wait. -/
structure Heeding (server : Server) : Prop where
  running : server.started = true → server.bSuspend = false
  ended : server.recv = .storeReset ∨ server.recv = .storeStop →
    server.started = false
  awake : server.started = true → server.recv ≠ .signal →
    server.send ≠ .suspending ∧ server.send ≠ .waiting false

variable {kind : ServerKind} {server target final : Server}

theorem initial_heeding : initial.Heeding := by
  constructor <;> simp [initial]

theorem disconnect_heeding : server.disconnect.Heeding := by
  constructor <;> simp [Server.disconnect]

theorem Heeding.finishFrame {frame : Frame} (heeding : server.Heeding) :
    (server.finishFrame frame).Heeding where
  running := heeding.running
  ended := heeding.ended
  awake _ _ := by
    unfold Server.finishFrame
    dsimp only
    split <;> simp

theorem Heeding.recv {action : RecvStepAction} (heeding : server.Heeding)
    (admitted : server.KeepsStart (.recv action))
    (step : RecvStep kind server action target) : target.Heeding := by
  obtain ⟨running, ended, awake⟩ := heeding
  cases step
  case signal signalling =>
      refine ⟨running, ?_, ?_⟩
      · simp
      · intro started _
        refine ⟨?_, SendPc.signal_ne_waiting⟩
        simpa using admitted signalling started
  case clientGone => exact disconnect_heeding
  all_goals constructor <;> simp_all [Server.disconnect]

theorem Heeding.send {action : SendStepAction} (heeding : server.Heeding)
    (admitted : server.KeepsStart (.send action))
    (step : SendStep kind server action target) : target.Heeding := by
  obtain ⟨running, ended, awake⟩ := heeding
  cases step
  case suspendAbsent storing =>
      have undone : server.started = false := admitted (.inl storing)
      constructor <;> simp_all
  case finish finished =>
      have undone : server.started = false := admitted (.inr finished)
      constructor <;> simp_all
  case fetch frame fetching =>
      unfold select
      split <;> exact ⟨running, ended, by simp⟩
  case skipAbsent => exact Heeding.finishFrame ⟨running, ended, awake⟩
  case skipSuspended => exact Heeding.finishFrame ⟨running, ended, awake⟩
  case sendFrame frame sending =>
      apply Heeding.finishFrame
      exact ⟨running, ended, awake⟩
  all_goals constructor <;> simp_all

theorem Heeding.next {action : ServerAction} (heeding : server.Heeding)
    (admitted : server.KeepsStart action)
    (step : server.next kind action = some target) : target.Heeding := by
  cases action with
  | recv action => exact heeding.recv admitted (recvNext_step step)
  | send action => exact heeding.send admitted (sendNext_step step)
  | main action =>
      obtain rfl := Option.some.inj step
      cases action with
      | closeClient => exact disconnect_heeding
      | acceptClient => exact ⟨heeding.running, heeding.ended, heeding.awake⟩

/-- When no START is signalled between the test and the wait, and the send loop
does not suspend while one stands, the send loop never waits without a signal
while a START stands. -/
theorem start_heeded
    (run : Steps (next kind) KeepsStart initial final) :
    final.StartHeeded := by
  have heeding : final.Heeding := by
    apply run.invariant Heeding initial_heeding
    intro server action target held admitted step
    exact held.next admitted step
  intro started signalled
  exact (heeding.awake started signalled).2

/-- The send loop waits before the client configures and starts it. -/
def startWaiting : List ServerAction :=
  [.send .proceed, .send .proceed, .main .acceptClient,
    .recv (.command (.config 0 100)), .recv .proceed, .recv .proceed,
    .recv (.command .start), .recv .proceed, .recv .proceed, .send .proceed]

/-- The signal comes after the test and before the wait. -/
def startBetween : List ServerAction :=
  [.send .proceed, .main .acceptClient, .recv (.command (.config 0 100)),
    .recv .proceed, .recv .proceed, .recv (.command .start), .recv .proceed,
    .recv .proceed, .send .proceed]

theorem start_heeded_waiting :
    (stateAfter (next .playback) KeepsStart initial startWaiting).StartHeeded :=
  start_heeded (steps_stateAfter (by decide))

/-- The signal is lost, and the client gets no frames. -/
theorem start_not_heeded :
    ¬ (∀ final, Reaches (next .playback) initial final →
        final.StartHeeded) ∧
      ¬ ∀ final, Reaches (next .liveview) initial final →
        final.StartHeeded := by
  have lost (kind : ServerKind) :
      ∃ final, Reaches (next kind) initial final ∧ final.started = true ∧
        final.recv = .receiving ∧ final.send = .waiting false := by
    refine ⟨_, @steps_stateAfter _ _ _ (fun _ _ => True) _ _ startBetween ?_,
      ?_⟩
    · cases kind <;> decide
    · cases kind <;> decide
  constructor
  · intro claimed
    obtain ⟨final, run, started, receiving, waiting⟩ := lost .playback
    apply claimed final run started
    · simp [receiving]
    · exact waiting
  · intro claimed
    obtain ⟨final, run, started, receiving, waiting⟩ := lost .liveview
    apply claimed final run started
    · simp [receiving]
    · exact waiting

end Server

end Fmsp

end KvsProducer
