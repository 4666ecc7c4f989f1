import KvsProducer.Fmsp.Streaming

/-!
# The steps of a server

What a step of each thread can do, with its guard and its effect.
-/

namespace KvsProducer

namespace Fmsp

open TransitionSystem

namespace Server

/-- What the steps of a receive loop can do. -/
inductive RecvStep (kind : ServerKind) (server : Server) :
    RecvStepAction → Server → Prop where
  | resetPlayback {name : List UInt8}
      (receiving : server.recv = .receiving)
      (connected : server.clientConnected = true)
      (playback : kind = .playback) :
      RecvStep kind server (.command (.reset name))
        { server with started := false, bRenew := true, recv := .storeReset }
  | resetLiveview {name : List UInt8}
      (receiving : server.recv = .receiving)
      (connected : server.clientConnected = true)
      (liveview : kind = .liveview)
      (running : server.bSuspend = false) :
      RecvStep kind server (.command (.reset name))
        { server with started := false, recv := .storeReset }
  | config {targetTs arrivalTs : Int}
      (receiving : server.recv = .receiving)
      (connected : server.clientConnected = true)
      (suspended : server.bSuspend = true) :
      RecvStep kind server (.command (.config targetTs arrivalTs))
        { server with
          config := ⟨targetTs, arrivalTs⟩
          recv := .storeTarget ⟨targetTs, arrivalTs⟩ }
  | start
      (receiving : server.recv = .receiving)
      (connected : server.clientConnected = true)
      (suspended : server.bSuspend = true) :
      RecvStep kind server (.command .start) { server with recv := .storeStart }
  | stop
      (receiving : server.recv = .receiving)
      (connected : server.clientConnected = true)
      (running : server.bSuspend = false) :
      RecvStep kind server (.command .stop)
        { server with started := false, recv := .storeStop }
  | refuse {command : Command}
      (receiving : server.recv = .receiving)
      (connected : server.clientConnected = true)
      (running : server.bSuspend = false) :
      RecvStep kind server (.command command) server
  | refuseEnd {command : Command}
      (receiving : server.recv = .receiving)
      (connected : server.clientConnected = true)
      (suspended : server.bSuspend = true) :
      RecvStep kind server (.command command) { server with started := false }
  | clientGone
      (receiving : server.recv = .receiving)
      (connected : server.clientConnected = true) :
      RecvStep kind server .clientGone server.disconnect
  | storeReset
      (storing : server.recv = .storeReset) :
      RecvStep kind server .proceed
        { server with bSuspend := true, recv := .receiving }
  | storeTarget {times : Times}
      (storing : server.recv = .storeTarget times) :
      RecvStep kind server .proceed
        { server with
          times := { server.times with target := times.target }
          recv := .storeArrival times.arrival }
  | storeArrival {arrival : Int}
      (storing : server.recv = .storeArrival arrival) :
      RecvStep kind server .proceed
        { server with
          times := { server.times with arrival := arrival }
          recv := .receiving }
  | storeStart
      (storing : server.recv = .storeStart) :
      RecvStep kind server .proceed
        { server with
          bSuspend := false
          segment := some server.config
          first := none
          started := server.clientConnected
          recv := .signal }
  | signal
      (signalling : server.recv = .signal) :
      RecvStep kind server .proceed
        { server with send := server.send.signal, recv := .receiving }
  | storeStop
      (storing : server.recv = .storeStop) :
      RecvStep kind server .proceed
        { server with bSuspend := true, recv := .closeClient }
  | closeClient
      (closing : server.recv = .closeClient) :
      RecvStep kind server .proceed { server.disconnect with recv := .receiving }

/-- What the steps of a send loop can do. -/
inductive SendStep (kind : ServerKind) (server : Server) :
    SendStepAction → Server → Prop where
  | testSuspended
      (testing : server.send = .test)
      (suspended : server.bSuspend = true) :
      SendStep kind server .proceed { server with send := .suspending }
  | testPlayback
      (testing : server.send = .test)
      (running : server.bSuspend = false)
      (playback : kind = .playback) :
      SendStep kind server .proceed { server with send := .testRenew }
  | testLiveview
      (testing : server.send = .test)
      (running : server.bSuspend = false)
      (liveview : kind = .liveview) :
      SendStep kind server .proceed { server with send := .checkClient }
  | wait
      (suspending : server.send = .suspending) :
      SendStep kind server .proceed { server with send := .waiting false }
  | wakeUp
      (signalled : server.send = .waiting true) :
      SendStep kind server .proceed { server with send := .woken }
  | wakeSpuriously
      (waiting : server.send = .waiting false) :
      SendStep kind server .wakeSpuriously { server with send := .woken }
  | renew
      (woken : server.send = .woken)
      (playback : kind = .playback) :
      SendStep kind server .proceed
        { server with bRenew := true, send := .testRenew }
  | reload
      (woken : server.send = .woken)
      (liveview : kind = .liveview) :
      SendStep kind server .proceed { server with send := .loadArrival }
  | renewed
      (testing : server.send = .testRenew)
      (renew : server.bRenew = true) :
      SendStep kind server .proceed { server with send := .clearRenew }
  | keep
      (testing : server.send = .testRenew)
      (current : server.bRenew = false) :
      SendStep kind server .proceed { server with send := .checkClient }
  | clearRenew
      (clearing : server.send = .clearRenew) :
      SendStep kind server .proceed
        { server with bRenew := false, send := .loadArrival }
  | loadArrival
      (loading : server.send = .loadArrival) :
      SendStep kind server .proceed
        { server with
          copied := { server.copied with arrival := server.times.arrival }
          send := .loadTarget }
  | loadTarget
      (loading : server.send = .loadTarget) :
      SendStep kind server .proceed
        { server with
          copied := { server.copied with target := server.times.target }
          bStart := false
          send := .checkClient }
  | clientPresent
      (checking : server.send = .checkClient)
      (connected : server.clientConnected = true) :
      SendStep kind server .proceed { server with send := .checkRun }
  | clientAbsent
      (checking : server.send = .checkClient)
      (absent : server.clientConnected = false) :
      SendStep kind server .proceed { server with send := .suspendAbsent }
  | suspendAbsent
      (storing : server.send = .suspendAbsent) :
      SendStep kind server .proceed
        { server with bSuspend := true, send := .checkRun }
  | runSuspended
      (checking : server.send = .checkRun)
      (suspended : server.bSuspend = true) :
      SendStep kind server .proceed { server with send := .test }
  | run
      (checking : server.send = .checkRun)
      (running : server.bSuspend = false) :
      SendStep kind server .proceed { server with send := .fetch }
  | fetchNothing
      (fetching : server.send = .fetch) :
      SendStep kind server (.fetch none) { server with send := .test }
  | fetch {frame : Frame}
      (fetching : server.send = .fetch) :
      SendStep kind server (.fetch (some frame)) (server.select frame)
  | sendConnected {frame : Frame}
      (selected : server.send = .selected frame)
      (connected : server.clientConnected = true) :
      SendStep kind server .proceed { server with send := .connected frame }
  | skipAbsent {frame : Frame}
      (selected : server.send = .selected frame)
      (absent : server.clientConnected = false) :
      SendStep kind server .proceed (server.finishFrame frame)
  | sendRunning {frame : Frame}
      (connected : server.send = .connected frame)
      (running : server.bSuspend = false) :
      SendStep kind server .proceed { server with send := .sending frame }
  | skipSuspended {frame : Frame}
      (connected : server.send = .connected frame)
      (suspended : server.bSuspend = true) :
      SendStep kind server .proceed (server.finishFrame frame)
  | sendFrame {frame : Frame}
      (sending : server.send = .sending frame) :
      SendStep kind server .proceed ((server.sendFrame frame).finishFrame frame)
  | finish
      (finished : server.send = .finished) :
      SendStep kind server .proceed
        { server with bSuspend := true, send := .test }

variable {kind : ServerKind} {server target : Server}

theorem recvNext_step {action : RecvStepAction}
    (step : server.recvNext kind action = some target) :
    RecvStep kind server action target := by
  cases action with
  | command command =>
      simp only [recvNext] at step
      split at step
      · rename_i guard
        obtain ⟨receiving, connected⟩ := guard
        obtain rfl := Option.some.inj step
        cases command with
        | reset name =>
            cases kind with
            | playback => exact .resetPlayback receiving connected rfl
            | liveview =>
                simp only [takeCommand]
                split
                · exact .refuseEnd receiving connected ‹_›
                · exact .resetLiveview receiving connected rfl
                    (eq_false_of_ne_true ‹_›)
        | config targetTs arrivalTs =>
            simp only [takeCommand]
            split
            · exact .config receiving connected ‹_›
            · exact .refuse receiving connected (eq_false_of_ne_true ‹_›)
        | start =>
            simp only [takeCommand]
            split
            · exact .start receiving connected ‹_›
            · exact .refuse receiving connected (eq_false_of_ne_true ‹_›)
        | stop =>
            simp only [takeCommand]
            split
            · exact .refuseEnd receiving connected ‹_›
            · exact .stop receiving connected (eq_false_of_ne_true ‹_›)
      · cases step
  | clientGone =>
      simp only [recvNext] at step
      split at step
      · rename_i guard
        obtain rfl := Option.some.inj step
        exact .clientGone guard.1 guard.2
      · cases step
  | proceed =>
      simp only [recvNext] at step
      split at step
      · cases step
      all_goals
        rename_i pc
        obtain rfl := Option.some.inj step
      · exact .storeReset pc
      · exact .storeTarget pc
      · exact .storeArrival pc
      · exact .storeStart pc
      · exact .signal pc
      · exact .storeStop pc
      · exact .closeClient pc

theorem sendProceed_step (step : server.sendProceed kind = some target) :
    SendStep kind server .proceed target := by
  unfold sendProceed at step
  split at step
  case h_1 testing =>
      split at step
      · obtain rfl := Option.some.inj step
        exact .testSuspended testing ‹_›
      · obtain rfl := Option.some.inj step
        have running : server.bSuspend = false := eq_false_of_ne_true ‹_›
        cases kind with
        | playback => exact .testPlayback testing running rfl
        | liveview => exact .testLiveview testing running rfl
  case h_2 suspending =>
      obtain rfl := Option.some.inj step
      exact .wait suspending
  case h_3 signalled waiting =>
      split at step
      · obtain rfl := Option.some.inj step
        subst signalled
        exact .wakeUp waiting
      · cases step
  case h_4 woken =>
      cases kind with
      | playback =>
          obtain rfl := Option.some.inj step
          exact .renew woken rfl
      | liveview =>
          obtain rfl := Option.some.inj step
          exact .reload woken rfl
  case h_5 testing =>
      obtain rfl := Option.some.inj step
      split
      · exact .renewed testing ‹_›
      · exact .keep testing (eq_false_of_ne_true ‹_›)
  case h_6 clearing =>
      obtain rfl := Option.some.inj step
      exact .clearRenew clearing
  case h_7 loading =>
      obtain rfl := Option.some.inj step
      exact .loadArrival loading
  case h_8 loading =>
      obtain rfl := Option.some.inj step
      exact .loadTarget loading
  case h_9 checking =>
      obtain rfl := Option.some.inj step
      split
      · exact .clientPresent checking ‹_›
      · exact .clientAbsent checking (eq_false_of_ne_true ‹_›)
  case h_10 storing =>
      obtain rfl := Option.some.inj step
      exact .suspendAbsent storing
  case h_11 checking =>
      obtain rfl := Option.some.inj step
      split
      · exact .runSuspended checking ‹_›
      · exact .run checking (eq_false_of_ne_true ‹_›)
  case h_12 fetching => cases step
  case h_13 frame selected =>
      split at step
      · obtain rfl := Option.some.inj step
        exact .sendConnected selected ‹_›
      · obtain rfl := Option.some.inj step
        exact .skipAbsent selected (eq_false_of_ne_true ‹_›)
  case h_14 frame connected =>
      split at step
      · obtain rfl := Option.some.inj step
        exact .skipSuspended connected ‹_›
      · obtain rfl := Option.some.inj step
        exact .sendRunning connected (eq_false_of_ne_true ‹_›)
  case h_15 frame sending =>
      obtain rfl := Option.some.inj step
      exact .sendFrame sending
  case h_16 finished =>
      obtain rfl := Option.some.inj step
      exact .finish finished

theorem sendNext_step {action : SendStepAction}
    (step : server.sendNext kind action = some target) :
    SendStep kind server action target := by
  cases action with
  | proceed => exact sendProceed_step step
  | wakeSpuriously =>
      simp only [sendNext] at step
      split at step
      · rename_i waiting
        obtain rfl := Option.some.inj step
        exact .wakeSpuriously waiting
      · cases step
  | fetch frame =>
      simp only [sendNext] at step
      split at step
      · rename_i fetching
        cases frame with
        | none =>
            obtain rfl := Option.some.inj step
            exact .fetchNothing fetching
        | some frame =>
            obtain rfl := Option.some.inj step
            exact .fetch fetching
      · cases step

end Server

end Fmsp

end KvsProducer
