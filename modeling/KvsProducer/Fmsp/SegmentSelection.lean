import KvsProducer.Fmsp.Step
import KvsProducer.Lib.Segments

/-!
# The frames sent after a wake-up

Between a wake-up of the playback loop and the next command only the send loop
moves.  It copies the configuration once, and then the frames that it obtains
are sent from the first one that begins the segment on, until one has ended it.
-/

namespace KvsProducer

namespace Fmsp

open TransitionSystem Segments

/-- A video frame from the target time on. -/
def Times.begins (times : Times) (frame : Frame) : Bool :=
  times.target ≤ frame.pts && frame.isVideo

/-- A frame from the arrival time on, which is no bound if it is negative. -/
def Times.ends (times : Times) (frame : Frame) : Bool :=
  times.arrival ≤ frame.pts && 0 ≤ times.arrival

/-- The segment among the frames that are obtained. -/
def Times.segment (times : Times) (obtained : List Frame) : List Frame :=
  Segments.segment times.begins times.ends obtained

/-- The mark `IsStop` that a frame was sent with. -/
def SentFrame.isStop (sent : SentFrame) : Bool := sent.times.ends sent.frame

/-- The frame that is selected and not yet sent. -/
def SendPc.inTransit : SendPc → List Frame
  | .selected frame | .connected frame | .sending frame => [frame]
  | _ => []

/-- The frame that a step obtains. -/
def SendStepAction.obtained : SendStepAction → List Frame
  | .fetch (some frame) => [frame]
  | _ => []

@[simp] theorem obtained_proceed :
    SendStepAction.proceed.obtained = [] := rfl

/-- The frames that steps obtain. -/
def obtainedFrames (actions : List SendStepAction) : List Frame :=
  actions.flatMap SendStepAction.obtained

/-- Where a suspended loop is, as long as nothing else suspends it. -/
def SendPc.Idle : SendPc → Prop
  | .suspendAbsent | .fetch | .selected _ | .connected _ | .sending _
  | .finished => False
  | _ => True

/-- Where a loop is that has its copies and no frame. -/
def SendPc.Looping : SendPc → Prop
  | .test | .testRenew | .checkClient | .checkRun | .fetch => True
  | _ => False

namespace Server

/-- The loop is bound to copy the configuration. -/
def Loading (times : Times) (server : Server) : Prop :=
  match server.send with
  | .woken | .clearRenew => True
  | .testRenew => server.bRenew = true
  | .loadArrival => server.bRenew = false
  | .loadTarget =>
      server.bRenew = false ∧ server.copied.arrival = times.arrival
  | _ => False

/-- What the send loop is at, once it has obtained the frames and in the absence
of commands. -/
inductive Phase (times : Times) (obtained : List Frame) (server : Server) :
    Prop where
  | idle
      (suspended : server.bSuspend = true)
      (pc : server.send.Idle)
  | loading
      (running : server.bSuspend = false)
      (nothing : obtained = [])
      (pc : server.Loading times)
  | looping
      (running : server.bSuspend = false)
      (current : server.bRenew = false)
      (copied : server.copied = times)
      (started : server.bStart = obtained.any times.begins)
      (unfinished : ∀ frame ∈ times.segment obtained, times.ends frame = false)
      (pc : server.send.Looping)
  | transit {frame : Frame}
      (running : server.bSuspend = false)
      (current : server.bRenew = false)
      (copied : server.copied = times)
      (started : server.bStart = true)
      (begun : obtained.any times.begins = true)
      (pc : server.send = .selected frame ∨ server.send = .connected frame ∨
        server.send = .sending frame)
  | finished
      (pc : server.send = .finished)

/-- The server has obtained the frames since it woke up. -/
structure Follows (start : Server) (obtained : List Frame) (server : Server) :
    Prop where
  connected : server.clientConnected = true
  times : server.times = start.times
  sent : ∃ since, server.sent = start.sent ++ since ∧
    (∀ sent ∈ since, sent.times = start.times) ∧
    since.map (·.frame) ++ server.send.inTransit =
      start.times.segment obtained
  phase : server.Phase start.times obtained

variable {start server target final : Server} {obtained : List Frame}

/-- A step without a frame keeps the client and what was sent. -/
theorem SendStep.quiet {action : SendStepAction}
    (step : SendStep .playback server action target)
    (noTransit : server.send.inTransit = []) (nothing : action.obtained = []) :
    target.sent = server.sent ∧ target.send.inTransit = [] ∧
      target.clientConnected = server.clientConnected ∧
      target.times = server.times := by
  cases step
  case fetch frame fetching => cases nothing
  case sendConnected frame selected connected =>
      rw [selected] at noTransit
      cases noTransit
  case skipAbsent frame selected absent =>
      rw [selected] at noTransit
      cases noTransit
  case sendRunning frame connected running =>
      rw [connected] at noTransit
      cases noTransit
  case skipSuspended frame connected suspended =>
      rw [connected] at noTransit
      cases noTransit
  case sendFrame frame sending =>
      rw [sending] at noTransit
      cases noTransit
  all_goals exact ⟨rfl, rfl, rfl, rfl⟩

section Phases

variable {action : SendStepAction} {times : Times}

theorem Phase.idle_step (suspended : server.bSuspend = true)
    (pc : server.send.Idle) (connected : server.clientConnected = true)
    (step : SendStep .playback server action target) :
    target.Phase times obtained ∧ action.obtained = [] := by
  cases step
  all_goals first
    | exact ⟨.idle suspended trivial, rfl⟩
    | simp_all [SendPc.Idle]

theorem Phase.loading_step (running : server.bSuspend = false)
    (pc : server.Loading times) (same : server.times = times)
    (step : SendStep .playback server action target) :
    target.Phase times [] ∧ action.obtained = [] := by
  unfold Loading at pc
  cases step
  case renew woken playback =>
      exact ⟨.loading running rfl rfl, rfl⟩
  case renewed testing renew =>
      exact ⟨.loading running rfl trivial, rfl⟩
  case clearRenew clearing =>
      exact ⟨.loading running rfl rfl, rfl⟩
  case loadArrival loading =>
      rw [loading] at pc
      refine ⟨.loading running rfl ⟨pc, ?_⟩, rfl⟩
      simp [same]
  case loadTarget loading =>
      rw [loading] at pc
      obtain ⟨current, arrival⟩ := pc
      refine ⟨.looping running current ?_ rfl ?_ trivial, rfl⟩
      · simp [arrival, same]
      · intro frame listed
        cases listed
  all_goals simp_all

/-- What a step of a loop that has its copies leaves: the frame that it selects
comes to the segment. -/
structure Looped (times : Times) (obtained : List Frame) (server : Server)
    (action : SendStepAction) (target : Server) : Prop where
  phase : target.Phase times (obtained ++ action.obtained)
  sent : target.sent = server.sent
  connected : target.clientConnected = server.clientConnected
  sameTimes : target.times = server.times
  segment : times.segment (obtained ++ action.obtained) =
    times.segment obtained ++ target.send.inTransit

/-- A frame that is selected belongs to the segment, and one that is not does
not. -/
theorem Phase.select_step {frame : Frame} (running : server.bSuspend = false)
    (current : server.bRenew = false) (copied : server.copied = times)
    (started : server.bStart = obtained.any times.begins)
    (unfinished : ∀ frame ∈ times.segment obtained,
      times.ends frame = false) :
    Looped times obtained server (.fetch (some frame))
      (server.select frame) := by
  have begins : server.begins frame = times.begins frame := by
    rw [Server.begins, copied]
    rfl
  have grows : (obtained ++ [frame]).any times.begins =
      (obtained.any times.begins || times.begins frame) := by
    simp
  unfold Server.select
  rw [begins, started, ← grows]
  cases begun : obtained.any times.begins with
  | true =>
      rw [begun, Bool.true_or] at grows
      rw [if_pos grows]
      refine ⟨.transit running current copied rfl grows (.inl rfl), rfl, rfl,
        rfl, ?_⟩
      exact segment_concat begun unfinished
  | false =>
      have empty : times.segment obtained = [] := segment_eq_nil begun
      rw [begun, Bool.false_or] at grows
      cases first : times.begins frame with
      | true =>
          rw [first] at grows
          rw [if_pos grows]
          refine ⟨.transit running current copied rfl grows (.inl rfl), rfl,
            rfl, rfl, ?_⟩
          rw [empty]
          exact segment_begin begun first
      | false =>
          rw [first] at grows
          have still : times.segment (obtained ++ [frame]) = [] :=
            segment_eq_nil grows
          rw [if_neg (by simp [grows])]
          refine ⟨.looping running current copied ?_ ?_ trivial, rfl, rfl, rfl,
            ?_⟩
          · exact grows.symm
          · intro other listed
            rw [SendStepAction.obtained, still] at listed
            cases listed
          · rw [SendStepAction.obtained, still, empty]
            rfl

theorem Phase.looping_step (running : server.bSuspend = false)
    (current : server.bRenew = false) (copied : server.copied = times)
    (started : server.bStart = obtained.any times.begins)
    (unfinished : ∀ frame ∈ times.segment obtained, times.ends frame = false)
    (pc : server.send.Looping) (connected : server.clientConnected = true)
    (step : SendStep .playback server action target) :
    Looped times obtained server action target := by
  have stays (action : SendStepAction) (nothing : action.obtained = [])
      (send : SendPc) (looping : send.Looping)
      (noTransit : send.inTransit = []) :
      Looped times obtained server action { server with send := send } := by
    constructor
    case phase =>
        rw [nothing, List.append_nil]
        exact .looping running current copied started unfinished looping
    case segment =>
        rw [nothing, noTransit, List.append_nil, List.append_nil]
    all_goals rfl
  cases step
  case testPlayback testing _ playback =>
      exact stays _ rfl .testRenew trivial rfl
  case keep testing _ => exact stays _ rfl .checkClient trivial rfl
  case clientPresent checking _ => exact stays _ rfl .checkRun trivial rfl
  case run checking _ => exact stays _ rfl .fetch trivial rfl
  case fetchNothing fetching => exact stays _ rfl .test trivial rfl
  case fetch frame fetching =>
      exact Phase.select_step running current copied started unfinished
  all_goals simp_all [SendPc.Looping]

end Phases

/-- A step that obtains nothing and sends nothing. -/
theorem Follows.silent {action : SendStepAction}
    (follows : Follows start obtained server)
    (step : SendStep .playback server action target)
    (noTransit : server.send.inTransit = [])
    (next : target.Phase start.times obtained ∧ action.obtained = []) :
    Follows start (obtained ++ action.obtained) target := by
  obtain ⟨phase, nothing⟩ := next
  obtain ⟨connected, times, ⟨since, sent, current, segment⟩, -⟩ := follows
  obtain ⟨sameSent, quiet, sameClient, sameTimes⟩ :=
    SendStep.quiet step noTransit nothing
  rw [nothing, List.append_nil]
  refine ⟨sameClient.trans connected, sameTimes.trans times,
    ⟨since, sameSent.trans sent, current, ?_⟩, phase⟩
  rw [quiet, ← noTransit]
  exact segment

theorem Follows.sendFrame {frame : Frame}
    (follows : Follows start obtained server)
    (running : server.bSuspend = false) (current : server.bRenew = false)
    (copied : server.copied = start.times) (started : server.bStart = true)
    (begun : obtained.any start.times.begins = true)
    (sending : server.send = .sending frame) :
    Follows start obtained ((server.sendFrame frame).finishFrame frame) := by
  obtain ⟨connected, times, ⟨since, sent, currentSent, segment⟩, -⟩ := follows
  rw [sending, SendPc.inTransit] at segment
  have stops : (server.sendFrame frame).isStop frame =
      start.times.ends frame := by
    rw [← copied]
    rfl
  refine ⟨connected, times,
    ⟨since ++ [⟨frame, server.copied, server.segment, server.first⟩], ?_, ?_,
      ?_⟩, ?_⟩
  · rw [← List.append_assoc, ← sent]
    rfl
  · intro other listed
    rcases List.mem_append.mp listed with before | last
    · exact currentSent other before
    · rw [List.mem_singleton.mp last]
      exact copied
  · rw [← segment, List.map_append, finishFrame, stops]
    cases start.times.ends frame <;> simp [SendPc.inTransit]
  · rw [finishFrame, stops]
    cases ends : start.times.ends frame with
    | true => exact .finished rfl
    | false =>
        refine .looping running current copied (started.trans begun.symm) ?_
          trivial
        intro other listed
        rw [← segment] at listed
        rcases List.mem_append.mp listed with before | last
        · apply not_ends_of_mem_dropLast
          rw [← Segments.segment, ← Times.segment, ← segment,
            List.dropLast_concat]
          exact before
        · rw [List.mem_singleton.mp last]
          exact ends

theorem Follows.step {action : SendStepAction}
    (follows : Follows start obtained server)
    (step : SendStep .playback server action target) :
    Follows start (obtained ++ action.obtained) target := by
  cases follows.phase with
  | idle suspended pc =>
      have noTransit : server.send.inTransit = [] := by
        cases send : server.send <;> simp_all [SendPc.Idle, SendPc.inTransit]
      exact follows.silent step noTransit
        (Phase.idle_step suspended pc follows.connected step)
  | loading running nothing pc =>
      subst nothing
      have noTransit : server.send.inTransit = [] := by
        cases send : server.send <;> simp_all [Loading, SendPc.inTransit]
      exact follows.silent step noTransit
        (Phase.loading_step running pc follows.times step)
  | looping running current copied started unfinished pc =>
      have looped := Phase.looping_step running current copied started
        unfinished pc follows.connected step
      have noTransit : server.send.inTransit = [] := by
        cases send : server.send <;> simp_all [SendPc.Looping, SendPc.inTransit]
      obtain ⟨connected, times, ⟨since, sent, currentSent, segment⟩, -⟩ :=
        follows
      rw [noTransit, List.append_nil] at segment
      refine ⟨looped.connected.trans connected, looped.sameTimes.trans times,
        ⟨since, looped.sent.trans sent, currentSent, ?_⟩, looped.phase⟩
      rw [segment]
      exact looped.segment.symm
  | transit running current copied started begun pc =>
      have connected := follows.connected
      cases step
      case sendConnected frame selected _ =>
          obtain ⟨-, times, ⟨since, sent, currentSent, segment⟩, -⟩ := follows
          rw [selected] at segment
          rw [obtained_proceed, List.append_nil]
          exact ⟨connected, times, ⟨since, sent, currentSent, segment⟩,
            .transit running current copied started begun (.inr (.inl rfl))⟩
      case sendRunning frame isConnected _ =>
          obtain ⟨-, times, ⟨since, sent, currentSent, segment⟩, -⟩ := follows
          rw [isConnected] at segment
          rw [obtained_proceed, List.append_nil]
          exact ⟨connected, times, ⟨since, sent, currentSent, segment⟩,
            .transit running current copied started begun (.inr (.inr rfl))⟩
      case sendFrame frame sending =>
          rw [obtained_proceed, List.append_nil]
          exact follows.sendFrame running current copied started begun sending
      all_goals simp_all
  | finished pc =>
      have noTransit : server.send.inTransit = [] := by
        rw [pc]
        rfl
      apply follows.silent step noTransit
      cases step
      case finish => exact ⟨.idle rfl trivial, rfl⟩
      all_goals simp_all

theorem Follows.replay {actions : List SendStepAction}
    (follows : Follows start obtained server)
    (replayed : replay (next .playback) (fun _ _ => True) server
      (actions.map .send) = some final) :
    Follows start (obtained ++ obtainedFrames actions) final := by
  induction actions generalizing server obtained with
  | nil =>
      cases replayed
      rw [obtainedFrames, List.flatMap_nil, List.append_nil]
      exact follows
  | cons action rest induction =>
      rw [List.map_cons, TransitionSystem.replay, if_pos trivial]
        at replayed
      obtain ⟨between, step, later⟩ := Option.bind_eq_some_iff.mp replayed
      rw [obtainedFrames, List.flatMap_cons, ← List.append_assoc]
      exact induction (follows.step (sendNext_step step)) later

theorem Follows.wake (woken : server.send = .woken)
    (connected : server.clientConnected = true) :
    Follows server [] server := by
  refine ⟨connected, rfl, ⟨[], ?_, ?_, ?_⟩, ?_⟩
  · rw [List.append_nil]
  · intro sent listed
    cases listed
  · rw [woken]
    rfl
  · cases suspended : server.bSuspend with
    | true =>
        apply Phase.idle suspended
        rw [woken]
        trivial
    | false =>
        apply Phase.loading suspended rfl
        rw [Loading, woken]
        trivial

/-- After a wake-up, what is sent up to the next command is the segment of the
frames that are obtained, up to the one in transit, and no frame but the last one
is marked as the end. -/
theorem sent_segment (server final : Server) (actions : List SendStepAction)
    (woken : server.send = .woken)
    (connected : server.clientConnected = true)
    (replayed : replay (next .playback) (fun _ _ => True) server
      (actions.map .send) = some final) :
    ∃ since, final.sent = server.sent ++ since ∧
      since.map (·.frame) ++ final.send.inTransit =
        server.times.segment (obtainedFrames actions) ∧
      (∀ sent ∈ since, sent.isStop = server.times.ends sent.frame) ∧
      ∀ sent ∈ since.dropLast, sent.isStop = false := by
  have follows := (Follows.wake woken connected).replay replayed
  obtain ⟨-, -, ⟨since, sent, current, segment⟩, -⟩ := follows
  have marked (sent : SentFrame) (listed : sent ∈ since) :
      sent.isStop = server.times.ends sent.frame := by
    rw [SentFrame.isStop, current sent listed]
  refine ⟨since, sent, segment, marked, ?_⟩
  intro sent listed
  rw [marked sent ((List.dropLast_sublist since).subset listed)]
  apply not_ends_of_mem_dropLast
  rw [List.nil_append] at segment
  rw [← Segments.segment, ← Times.segment, ← segment]
  apply mem_dropLast_append
  rw [← List.map_dropLast]
  exact List.mem_map_of_mem listed

/-- A loop that has been woken up for a segment from the time 10 through the
time 20. -/
def wokenServer : Server :=
  { initial with
    bSuspend := false
    clientConnected := true
    times := ⟨10, 20⟩
    send := .woken }

/-- Frames out of order: a video frame that is early, an audio frame, the first
frame of the segment, an early one and the one that ends it, and one more. -/
def sampleActions : List SendStepAction :=
  let proceeds (count : Nat) : List SendStepAction :=
    List.replicate count .proceed
  let fetches (frame : Frame) : List SendStepAction := [.fetch (some frame)]
  proceeds 7 ++ fetches ⟨5, true⟩ ++ proceeds 4 ++ fetches ⟨12, false⟩ ++
    proceeds 4 ++ fetches ⟨11, true⟩ ++ proceeds 7 ++ fetches ⟨9, true⟩ ++
    proceeds 7 ++ fetches ⟨21, false⟩ ++ proceeds 6

theorem sent_segment_sample :
    ∃ final since,
      replay (next .playback) (fun _ _ => True) wokenServer
        (sampleActions.map .send) = some final ∧
      final.sent = wokenServer.sent ++ since ∧
      since.map (·.frame) = [⟨11, true⟩, ⟨9, true⟩, ⟨21, false⟩] ∧
      ∀ sent ∈ since.dropLast, sent.isStop = false := by
  obtain ⟨final, replayed⟩ : ∃ final,
      replay (next .playback) (fun _ _ => True) wokenServer
        (sampleActions.map .send) = some final := ⟨_, rfl⟩
  obtain ⟨since, sent, segment, -, unmarked⟩ :=
    sent_segment wokenServer final sampleActions rfl rfl replayed
  have suspended : final.send.inTransit = [] := by
    cases replayed
    rfl
  rw [suspended, List.append_nil] at segment
  exact ⟨final, since, replayed, sent, segment, unmarked⟩

end Server

end Fmsp

end KvsProducer
