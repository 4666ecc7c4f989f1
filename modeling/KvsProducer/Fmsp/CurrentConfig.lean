import KvsProducer.Fmsp.Step

/-!
# The configuration of the frames sent

The send loop copies the configuration and forgets the started state when it
has been suspended, and the playback loop also when it finds `bRenew` set.  The
receive loop accepts a CONFIG and a START without waiting for either.
-/

namespace KvsProducer

namespace Fmsp

open TransitionSystem

/-- The frame was selected by the configuration at the last START, and a video
frame from its target time on was the first to be selected since. -/
def SentFrame.Current (sent : SentFrame) : Prop :=
  sent.segment = some sent.times ∧
    ∃ frame, sent.first = some frame ∧ frame.isVideo = true ∧
      sent.times.target ≤ frame.pts

/-- The commands that are accepted only while the send loop is suspended. -/
def RecvPc.Suspended : RecvPc → Prop
  | .storeTarget _ | .storeArrival _ | .storeStart => True
  | _ => False

namespace Server

def SentCurrent (server : Server) : Prop :=
  ∀ sent ∈ server.sent, sent.Current

/-- The copies are those of the configuration, and nothing is started. -/
def Fresh (server : Server) : Prop :=
  server.copied = server.config ∧ server.bStart = false

instance (server : Server) : Decidable server.Fresh :=
  inferInstanceAs (Decidable (_ ∧ _))

/-- The send loop will copy the configuration before it selects another frame,
or it has copied it and started nothing. -/
def Prepared (kind : ServerKind) (server : Server) : Prop :=
  match server.send with
  | .test | .testRenew =>
      kind = .playback ∧ server.bRenew = true ∨ server.Fresh
  | .loadTarget => server.copied.arrival = server.config.arrival
  | .checkClient | .checkRun | .fetch => server.Fresh
  | .selected _ | .connected _ | .sending _ => False
  | _ => True

instance (kind : ServerKind) (server : Server) :
    Decidable (server.Prepared kind) := by
  unfold Prepared
  split <;> infer_instance

/-- A START is accepted only when the send loop is prepared for it. -/
def KeepsConfig (kind : ServerKind) (server : Server) (action : ServerAction) :
    Prop :=
  action = .recv .proceed → server.recv = .storeStart → server.Prepared kind

instance (kind : ServerKind) (server : Server) (action : ServerAction) :
    Decidable (server.KeepsConfig kind action) :=
  inferInstanceAs (Decidable (_ → _ → _))

/-- How far the receive loop has stored the last configuration. -/
def Stored (server : Server) : Prop :=
  match server.recv with
  | .storeTarget times => server.config = times
  | .storeArrival arrival => server.config = ⟨server.times.target, arrival⟩
  | _ => server.config = server.times

/-- The copies are those of the segment, which has begun if it is started. -/
def Selecting (server : Server) : Prop :=
  server.segment = some server.copied ∧
    (server.bStart = true → server.first ≠ none)

/-- Where the send loop selects or sends frames, or is bound to go on to do so,
it does it for the segment. -/
def SendReady (kind : ServerKind) (server : Server) : Prop :=
  match server.send with
  | .fetch => server.Selecting
  | .selected _ | .connected _ | .sending _ =>
      server.Selecting ∧ server.first ≠ none
  | .checkClient | .checkRun => server.bSuspend = false → server.Selecting
  | .test | .testRenew =>
      server.bSuspend = false →
        kind = .playback ∧ server.bRenew = true ∨ server.Selecting
  | .loadTarget =>
      server.bSuspend = false → server.copied.arrival = server.times.arrival
  | _ => True

structure Consistent (kind : ServerKind) (server : Server) : Prop where
  stored : server.Stored
  suspended : server.recv.Suspended → server.bSuspend = true
  inForce : server.bSuspend = false → server.segment = some server.times
  begun : ∀ frame, server.first = some frame →
    ∃ times, server.segment = some times ∧ frame.isVideo = true ∧
      times.target ≤ frame.pts
  ready : server.SendReady kind
  current : server.SentCurrent

variable {kind : ServerKind} {server target final : Server}

theorem initial_consistent : initial.Consistent kind := by
  constructor <;> simp [initial, Stored, RecvPc.Suspended, SendReady, SentCurrent]

/-- A step of another thread keeps the send loop ready if it clears neither
`bSuspend` nor `bRenew`, and changes the configuration of a suspended server
only. -/
theorem SendReady.mono (ready : server.SendReady kind)
    (send : target.send = server.send)
    (copied : target.copied = server.copied)
    (bStart : target.bStart = server.bStart)
    (segment : target.segment = server.segment)
    (first : target.first = server.first)
    (bRenew : server.bRenew = true → target.bRenew = true)
    (running : target.bSuspend = false →
      server.bSuspend = false ∧ target.times = server.times) :
    target.SendReady kind := by
  have selecting : server.Selecting → target.Selecting := by
    unfold Selecting
    rw [copied, bStart, segment, first]
    exact id
  have continues (selects : server.bSuspend = false → server.Selecting)
      (still : target.bSuspend = false) : target.Selecting :=
    selecting (selects (running still).1)
  have renews
      (selects : server.bSuspend = false →
        kind = .playback ∧ server.bRenew = true ∨ server.Selecting)
      (still : target.bSuspend = false) :
      kind = .playback ∧ target.bRenew = true ∨ target.Selecting :=
    (selects (running still).1).imp (And.imp_right bRenew) selecting
  revert ready
  unfold SendReady
  rw [send, first]
  cases server.send
  case fetch => exact selecting
  case selected | connected | sending => exact And.imp_left selecting
  case checkClient | checkRun => exact continues
  case test | testRenew => exact renews
  case loadTarget =>
      intro loaded still
      rw [copied, (running still).2]
      exact loaded (running still).1
  all_goals exact id

/-- A START that the send loop is prepared for is served with the last
configuration. -/
theorem Prepared.ready (prepared : server.Prepared kind)
    (stored : server.config = server.times) {recv : RecvPc} {started : Bool} :
    SendReady kind
      { server with
        bSuspend := false
        segment := some server.config
        first := none
        started := started
        recv := recv } := by
  have selecting (fresh : server.Fresh) :
      some server.config = some server.copied ∧
        (server.bStart = true → (none : Option Frame) ≠ none) := by
    refine ⟨congrArg some fresh.1.symm, ?_⟩
    simp [fresh.2]
  revert prepared
  unfold Prepared SendReady Selecting
  dsimp only
  cases server.send
  case test | testRenew => exact fun prepared _ => prepared.imp_right selecting
  case loadTarget =>
      intro loaded _
      rw [loaded, stored]
  case checkClient | checkRun => exact fun fresh _ => selecting fresh
  case fetch => exact selecting
  case selected | connected | sending => exact False.elim
  all_goals exact id

theorem Consistent.recv {action : RecvStepAction}
    (consistent : server.Consistent kind)
    (admitted : server.KeepsConfig kind (.recv action))
    (step : RecvStep kind server action target) : target.Consistent kind := by
  obtain ⟨stored, suspended, inForce, begun, ready, current⟩ := consistent
  cases step
  case storeStart storing =>
      have same : server.config = server.times := by
        simpa [Stored, storing] using stored
      refine ⟨same, False.elim, fun _ => congrArg some same, ?_, ?_, current⟩
      · simp
      · exact (admitted rfl storing).ready same
  case signal signalling =>
      refine ⟨?_, False.elim, inForce, begun, ?_, current⟩
      · simpa [Stored, signalling] using stored
      · revert ready
        unfold SendReady
        dsimp only
        cases server.send <;> exact id
  all_goals
    refine ⟨?_, ?_, ?_, begun, ready.mono rfl rfl rfl rfl rfl ?_ ?_, current⟩
    all_goals simp_all [Stored, RecvPc.Suspended, Server.disconnect]

theorem Consistent.finishFrame {frame : Frame}
    (consistent : server.Consistent kind) (selecting : server.Selecting) :
    (server.finishFrame frame).Consistent kind where
  stored := consistent.stored
  suspended := consistent.suspended
  inForce := consistent.inForce
  begun := consistent.begun
  ready := by
    by_cases stops : server.isStop frame = true
    · simp only [SendReady, Server.finishFrame, if_pos stops]
    · simp only [SendReady, Server.finishFrame, if_neg stops]
      exact fun _ => .inr selecting
  current := consistent.current

theorem Consistent.sendFrame {frame : Frame}
    (consistent : server.Consistent kind) (selecting : server.Selecting)
    (begun : server.first ≠ none) :
    (server.sendFrame frame).Consistent kind where
  stored := consistent.stored
  suspended := consistent.suspended
  inForce := consistent.inForce
  begun := consistent.begun
  ready := consistent.ready
  current := by
    intro sent listed
    rcases List.mem_append.mp listed with before | new
    · exact consistent.current sent before
    · obtain rfl := List.mem_singleton.mp new
      obtain ⟨first, same⟩ := Option.ne_none_iff_exists'.mp begun
      obtain ⟨times, segment, isVideo, late⟩ := consistent.begun first same
      obtain rfl : server.copied = times :=
        Option.some.inj (selecting.1.symm.trans segment)
      exact ⟨selecting.1, first, same, isVideo, late⟩

/-- The first frame selected is one that begins the segment. -/
theorem Consistent.select {frame : Frame}
    (consistent : server.Consistent kind) (selecting : server.Selecting) :
    (server.select frame).Consistent kind := by
  obtain ⟨stored, suspended, inForce, begun, ready, current⟩ := consistent
  unfold Server.select
  split
  · rename_i selects
    refine ⟨stored, suspended, inForce, ?_, ?_, current⟩
    · intro first same
      cases before : server.first with
      | some earlier =>
          obtain rfl : earlier = first := by simpa [before] using same
          exact begun earlier before
      | none =>
          obtain rfl : frame = first := by simpa [before] using same
          have notStarted : server.bStart = false := by
            apply eq_false_of_ne_true
            intro started
            exact selecting.2 started before
          have begins : server.begins frame = true := by
            simpa [notStarted] using selects
          obtain ⟨late, isVideo⟩ : server.copied.target ≤ frame.pts ∧
              frame.isVideo = true := by
            simpa [Server.begins] using begins
          exact ⟨server.copied, selecting.1, isVideo, late⟩
    · have begun : (server.first <|> some frame) ≠ none := by
        cases server.first <;> simp
      exact ⟨⟨selecting.1, fun _ => begun⟩, begun⟩
  · refine ⟨stored, suspended, inForce, begun, ?_, current⟩
    exact fun _ => .inr selecting

theorem Consistent.send {action : SendStepAction}
    (consistent : server.Consistent kind)
    (step : SendStep kind server action target) : target.Consistent kind := by
  have consistentBefore := consistent
  obtain ⟨stored, suspended, inForce, begun, ready, current⟩ := consistent
  unfold SendReady at ready
  cases step
  case fetch frame fetching =>
      rw [fetching] at ready
      exact consistentBefore.select ready
  case skipAbsent frame selected absent =>
      rw [selected] at ready
      exact consistentBefore.finishFrame ready.1
  case skipSuspended frame connected suspended =>
      rw [connected] at ready
      exact consistentBefore.finishFrame ready.1
  case sendFrame frame sending =>
      rw [sending] at ready
      exact (consistentBefore.sendFrame ready.1 ready.2).finishFrame ready.1
  case loadTarget loading =>
      have loaded : server.bSuspend = false →
          server.copied.arrival = server.times.arrival := by
        simpa only [loading] using ready
      refine ⟨stored, suspended, inForce, begun, ?_, current⟩
      intro still
      refine ⟨(inForce still).trans ?_, ?_⟩
      · simp [loaded still]
      · simp
  all_goals
    refine ⟨stored, ?_, ?_, begun, ?_, current⟩
    all_goals simp_all [SendReady, Selecting]

theorem Consistent.next {action : ServerAction}
    (consistent : server.Consistent kind)
    (admitted : server.KeepsConfig kind action)
    (step : server.next kind action = some target) :
    target.Consistent kind := by
  cases action with
  | recv action => exact consistent.recv admitted (recvNext_step step)
  | send action => exact consistent.send (sendNext_step step)
  | main action =>
      obtain rfl := Option.some.inj step
      obtain ⟨stored, suspended, inForce, begun, ready, current⟩ := consistent
      cases action with
      | closeClient =>
          exact ⟨stored, suspended, inForce, begun, ready, current⟩
      | acceptClient =>
          exact ⟨stored, suspended, inForce, begun, ready, current⟩

/-- When the send loop is prepared for each START that is accepted, it sends
frames of the segment only, from a video frame on. -/
theorem sent_current
    (run : Steps (next kind) (KeepsConfig kind) initial final) :
    final.SentCurrent := by
  have consistent : final.Consistent kind := by
    apply run.invariant (Consistent kind) initial_consistent
    intro server action target held admitted step
    exact held.next admitted step
  exact consistent.current

/-- The client configures and starts a segment that ends with its first frame,
which the send loop sends. -/
def oneSegment (kind : ServerKind) : List ServerAction :=
  [ServerAction.send .proceed, .send .proceed, .main .acceptClient,
    .recv (.command (.config 0 10)), .recv .proceed, .recv .proceed,
    .recv (.command .start), .recv .proceed, .recv .proceed] ++
  List.replicate (if kind = .playback then 8 else 6)
    (ServerAction.send .proceed) ++
  [ServerAction.send (.fetch (some ⟨10, true⟩))] ++
  List.replicate 4 (ServerAction.send .proceed)

/-- The next segment is configured and started before the send loop has come
back to its test, and there is no video frame yet. -/
def nextSegment (kind : ServerKind) : List ServerAction :=
  [ServerAction.recv (.command (.config 100 200)), .recv .proceed,
    .recv .proceed, .recv (.command .start), .recv .proceed,
    .recv .proceed] ++
  List.replicate (if kind = .playback then 4 else 3)
    (ServerAction.send .proceed) ++
  [ServerAction.send (.fetch (some ⟨11, false⟩))] ++
  List.replicate 3 (ServerAction.send .proceed)

theorem sent_current_oneSegment :
    (stateAfter (next .playback) (KeepsConfig .playback) initial
      (oneSegment .playback)).SentCurrent :=
  sent_current (steps_stateAfter (by decide))

/-- The audio frame is sent by the times of the segment before, and as a part
of it. -/
theorem sent_not_current :
    ¬ (∀ final, Reaches (next .playback) initial final →
        final.SentCurrent) ∧
      ¬ ∀ final, Reaches (next .liveview) initial final →
        final.SentCurrent := by
  have stale (kind : ServerKind) :
      ∃ final, Reaches (next kind) initial final ∧
        SentFrame.mk ⟨11, false⟩ ⟨0, 10⟩ (some ⟨100, 200⟩)
          (some ⟨11, false⟩) ∈ final.sent := by
    refine ⟨_, @steps_stateAfter _ _ _ (fun _ _ => True) _ _
      (oneSegment kind ++ nextSegment kind) ?_, ?_⟩
    · cases kind <;> decide
    · cases kind <;> decide
  constructor
  · intro claimed
    obtain ⟨final, run, sent⟩ := stale .playback
    simpa using (claimed final run _ sent).1
  · intro claimed
    obtain ⟨final, run, sent⟩ := stale .liveview
    simpa using (claimed final run _ sent).1

end Server

end Fmsp

end KvsProducer
