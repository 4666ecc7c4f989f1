import KvsProducer.Fmsp.Framing

/-!
# The receive loop and the send loop of a server

A server shares `Send.bSuspend`, `Send.bRenew`, the client's socket and the two
times of the configuration between its threads, and no lock protects any of
them.  Every load and store is a step of its own, as is each call that blocks
or signals; what a thread does with its own variables goes with the access
before it.  The loops run until the server is destroyed, which is left out.
-/

namespace KvsProducer

namespace Fmsp

/-- What selects a frame of `FmspFramePlaybackInfo_u`. -/
structure Frame where
  pts : Int
  isVideo : Bool
  deriving DecidableEq, Repr

/-- `TargetTs` and `ArrivalTs`, or the send loop's copies of them. -/
structure Times where
  target : Int
  arrival : Int
  deriving DecidableEq, Repr

/-- Where the receive loop is in its `switch`, between the test of `bSuspend`
and the end of the command. -/
inductive RecvPc where
  | receiving
  | storeReset
  | storeTarget (times : Times)
  | storeArrival (arrival : Int)
  | storeStart
  | signal
  | storeStop
  | closeClient
  deriving DecidableEq, Repr

/-- Where the send loop is.  It is `suspending` in `pFnSuspend` before the wait,
and `selected` with the frame that it is about to send. -/
inductive SendPc where
  | test
  | suspending
  | waiting (signalled : Bool)
  | woken
  | testRenew
  | clearRenew
  | loadArrival
  | loadTarget
  | checkClient
  | suspendAbsent
  | checkRun
  | fetch
  | selected (frame : Frame)
  | connected (frame : Frame)
  | sending (frame : Frame)
  | finished
  deriving DecidableEq, Repr

/-- `pthread_cond_signal` wakes the thread that waits; there is no more than
one. -/
def SendPc.signal : SendPc → SendPc
  | .waiting _ => .waiting true
  | pc => pc

/-- A frame that was sent, with the times it was selected by.  `segment` is the
configuration at the last START accepted before it was sent, and `first` is the
first frame selected since. -/
structure SentFrame where
  frame : Frame
  times : Times
  segment : Option Times
  first : Option Frame
  deriving DecidableEq, Repr

/-- The state of one server.  The fields from `config` on are no part of the
program: the last configuration accepted, the one in force at the last START
accepted, the first frame selected since, whether a START stands, and the
frames sent. -/
structure Server where
  bSuspend : Bool
  bRenew : Bool
  clientConnected : Bool
  times : Times
  recv : RecvPc
  send : SendPc
  copied : Times
  bStart : Bool
  config : Times
  segment : Option Times
  first : Option Frame
  started : Bool
  sent : List SentFrame
  deriving DecidableEq, Repr

/-- Steps of the receive loop: a command arrives and reaches its first access,
the `switch` goes on, or the loop finds that the client is gone. -/
inductive RecvStepAction where
  | command (command : Command)
  | proceed
  | clientGone
  deriving DecidableEq, Repr

/-- Steps of the send loop.  `fetch` has the frame that
`OryxStreamingGetFrame` or `OryxStreamingGetLiveFrame` returned; `none` when it
failed, or when the loop sent the package of a codec change instead. -/
inductive SendStepAction where
  | proceed
  | wakeSpuriously
  | fetch (frame : Option Frame)
  deriving DecidableEq, Repr

/-- Steps of the main loop when it accepts a client. -/
inductive MainStepAction where
  | closeClient
  | acceptClient
  deriving DecidableEq, Repr

inductive ServerAction where
  | recv (action : RecvStepAction)
  | send (action : SendStepAction)
  | main (action : MainStepAction)
  deriving DecidableEq, Repr

namespace Server

variable (kind : ServerKind)

/-- `FmspServerConstruct` -/
def initial : Server where
  bSuspend := true
  bRenew := false
  clientConnected := false
  times := ⟨0, 0⟩
  recv := .receiving
  send := .test
  copied := ⟨0, 0⟩
  bStart := false
  config := ⟨0, 0⟩
  segment := none
  first := none
  started := false
  sent := []

/-- The first access that the `switch` makes for a command. -/
def takeCommand (server : Server) : Command → Server
  | .reset _ =>
      match kind with
      -- The test of `bSuspend` is commented out here.
      | .playback =>
          { server with started := false, bRenew := true, recv := .storeReset }
      | .liveview =>
          if server.bSuspend then { server with started := false }
          else { server with started := false, recv := .storeReset }
  | .config targetTs arrivalTs =>
      if server.bSuspend then
        { server with
          config := ⟨targetTs, arrivalTs⟩
          recv := .storeTarget ⟨targetTs, arrivalTs⟩ }
      else server
  | .start =>
      if server.bSuspend then { server with recv := .storeStart } else server
  | .stop =>
      if server.bSuspend then { server with started := false }
      else { server with started := false, recv := .storeStop }

def disconnect (server : Server) : Server :=
  { server with clientConnected := false, started := false }

def recvNext (server : Server) : RecvStepAction → Option Server
  | .command command =>
      if server.recv = .receiving ∧ server.clientConnected then
        some (server.takeCommand kind command)
      else none
  | .clientGone =>
      if server.recv = .receiving ∧ server.clientConnected then
        some server.disconnect
      else none
  | .proceed =>
      match server.recv with
      | .receiving => none
      | .storeReset => some { server with bSuspend := true, recv := .receiving }
      | .storeTarget times =>
          some { server with
            times := { server.times with target := times.target }
            recv := .storeArrival times.arrival }
      | .storeArrival arrival =>
          some { server with
            times := { server.times with arrival := arrival }
            recv := .receiving }
      | .storeStart =>
          some { server with
            bSuspend := false
            segment := some server.config
            first := none
            started := server.clientConnected
            recv := .signal }
      | .signal =>
          some { server with send := server.send.signal, recv := .receiving }
      | .storeStop =>
          some { server with bSuspend := true, recv := .closeClient }
      | .closeClient => some { server.disconnect with recv := .receiving }

/-- `IsStop` is `FMSP_STREAMING_MEDIA_FINISH`. -/
def isStop (server : Server) (frame : Frame) : Bool :=
  server.copied.arrival ≤ frame.pts && 0 ≤ server.copied.arrival

/-- What follows the sending of a frame, or the decision not to send it. -/
def finishFrame (server : Server) (frame : Frame) : Server :=
  { server with send := if server.isStop frame then .finished else .test }

/-- The frame begins the segment. -/
def begins (server : Server) (frame : Frame) : Bool :=
  server.copied.target ≤ frame.pts && frame.isVideo

def select (server : Server) (frame : Frame) : Server :=
  if server.bStart || server.begins frame then
    { server with
      bStart := true
      first := server.first <|> some frame
      send := .selected frame }
  else { server with send := .test }

def sendFrame (server : Server) (frame : Frame) : Server :=
  { server with
    sent := server.sent ++
      [⟨frame, server.copied, server.segment, server.first⟩] }

/-- The playback loop reloads the configuration when `bRenew` is set, and the
liveview loop when it has been suspended. -/
def sendProceed (server : Server) : Option Server :=
  match server.send with
  | .test =>
      if server.bSuspend then some { server with send := .suspending }
      else
        some { server with
          send := if kind = .playback then .testRenew else .checkClient }
  | .suspending => some { server with send := .waiting false }
  | .waiting signalled =>
      if signalled then some { server with send := .woken } else none
  | .woken =>
      match kind with
      | .playback => some { server with bRenew := true, send := .testRenew }
      | .liveview => some { server with send := .loadArrival }
  | .testRenew =>
      some { server with
        send := if server.bRenew then .clearRenew else .checkClient }
  | .clearRenew => some { server with bRenew := false, send := .loadArrival }
  | .loadArrival =>
      some { server with
        copied := { server.copied with arrival := server.times.arrival }
        send := .loadTarget }
  | .loadTarget =>
      some { server with
        copied := { server.copied with target := server.times.target }
        bStart := false
        send := .checkClient }
  | .checkClient =>
      some { server with
        send := if server.clientConnected then .checkRun else .suspendAbsent }
  | .suspendAbsent => some { server with bSuspend := true, send := .checkRun }
  | .checkRun =>
      some { server with send := if server.bSuspend then .test else .fetch }
  | .fetch => none
  | .selected frame =>
      if server.clientConnected then
        some { server with send := .connected frame }
      else some (server.finishFrame frame)
  | .connected frame =>
      if server.bSuspend then some (server.finishFrame frame)
      else some { server with send := .sending frame }
  | .sending frame => some ((server.sendFrame frame).finishFrame frame)
  | .finished => some { server with bSuspend := true, send := .test }

def sendNext (server : Server) : SendStepAction → Option Server
  | .proceed => server.sendProceed kind
  | .wakeSpuriously =>
      if server.send = .waiting false then some { server with send := .woken }
      else none
  | .fetch frame =>
      if server.send = .fetch then
        match frame with
        | some frame => some (server.select frame)
        | none => some { server with send := .test }
      else none

def mainNext (server : Server) : MainStepAction → Server
  | .closeClient => server.disconnect
  | .acceptClient => { server with clientConnected := true }

def next (server : Server) : ServerAction → Option Server
  | .recv action => server.recvNext kind action
  | .send action => server.sendNext kind action
  | .main action => some (server.mainNext action)

end Server

end Fmsp

end KvsProducer
