import KvsProducer.Lib.TransitionSystem
import Mathlib.Tactic.Simps.Basic

/-!
# One upload session

The handler thread of an upload in `curlCompleteSync`, with `postReadCallback`
as libcurl invokes it inside `curl_easy_perform`, the notifications that reach
`notifyDataAvailable`, and the pass of a shutdown over the request.  The
notifications and the pass hold `activeUploadsLock`, so at most one of them is
under way.  Every read and write of a flag is a step of its own.
-/

namespace KvsProducer

namespace CurlSession

open TransitionSystem

inductive HandlerPc where
  | beforeCheck
  | clear
  | blocked
  | performing
  | left
  | returned
  deriving DecidableEq, Repr

/-- The results of `getKinesisVideoStreamData` that the callback tells apart. -/
inductive DataStatus where
  | success
  | noMoreDataAvailable
  | endOfStream
  | awaitingPersistedAck
  | uploadHandleAborted
  | other
  deriving DecidableEq, Repr

/-- The result of the callback: a number of bytes, `CURL_READFUNC_PAUSE` or
`CURL_READFUNC_ABORT`. -/
inductive ReadResult where
  | wrote (size : Nat)
  | pause
  | abort
  deriving DecidableEq, Repr

inductive CallbackPc where
  | checkPaused
  | checkEndOfStream
  | checkTerminating
  | reading (iter : Nat)
  | cleanUp (result : ReadResult)
  | returning (result : ReadResult)
  deriving DecidableEq, Repr

/-- The upload as libcurl sees it: outside the read callback it is paused when
the last callback has returned `CURL_READFUNC_PAUSE` and no unpause came after
that; after a callback has returned 0 or `CURL_READFUNC_ABORT` there is no
further one. -/
inductive Upload where
  | outside (paused : Bool)
  | inside (pc : CallbackPc)
  | finished
  deriving DecidableEq, Repr

/-- `dataAvailableCurl` and, for a persisted ACK, `fragmentAckReceivedCurl`. -/
inductive Notification where
  | dataAvailable
  | fragmentAck
  deriving DecidableEq, Repr

inductive NotifierPc where
  | outside
  | checkEndOfStream (notification : Notification)
  | checkTerminating
  | checkTerminated
  | checkPaused
  | clearPaused
  | unpause
  deriving DecidableEq, Repr

inductive PassPc where
  | before
  | storeTerminating
  | loadBlocked
  | checkTerminated
  | unpause
  | storeTerminated
  | finished
  deriving DecidableEq, Repr

/-- The flags of the request and of its response, the threads, and what the
two protocols are about: `issued` tells that `terminateCurlSession` was called,
`fresh` that the notification under way arrived after the last read that
returned no data, and `lost` that such a notification has ended without an
unpause. -/
structure Session where
  terminating : Bool
  blockedInCurl : Bool
  paused : Bool
  endOfStream : Bool
  terminated : Bool
  handler : HandlerPc
  upload : Upload
  notifier : NotifierPc
  pass : PassPc
  issued : Bool
  fresh : Bool
  lost : Bool
  deriving DecidableEq, Repr

/-- `createCurlResponse` leaves the upload paused. -/
def Session.initial : Session :=
  { terminating := false
    blockedInCurl := false
    paused := true
    endOfStream := false
    terminated := false
    handler := .beforeCheck
    upload := .outside false
    notifier := .outside
    pass := .before
    issued := false
    fresh := false
    lost := false }

inductive HandlerAction where
  | checkTerminating
  | storeBlocked
  | enterPerform
  | leavePerform
  | clearBlocked
  deriving DecidableEq, Repr

inductive CallbackAction where
  | invoke
  | checkPaused
  | checkEndOfStream
  | checkTerminating
  | getData (status : DataStatus) (size : Nat)
  | cleanUp
  | return
  deriving DecidableEq, Repr

inductive NotifierAction where
  | arrive (notification : Notification)
  | checkEndOfStream
  | checkTerminating
  | checkTerminated
  | checkPaused
  | clearPaused
  | unpause
  deriving DecidableEq, Repr

inductive PassAction where
  | acquire
  | storeTerminating
  | loadBlocked
  | checkTerminated
  | unpause
  | storeTerminated
  deriving DecidableEq, Repr

inductive Action where
  | handler (action : HandlerAction)
  | callback (action : CallbackAction)
  | notifier (action : NotifierAction)
  | pass (action : PassAction)
  deriving DecidableEq, Repr

def MAX_GET_DATA_ITER : Nat := 6

/-- The condition of the `do` loop of the callback, after its `iter`-th read. -/
def readsAgain (iter : Nat) (status : DataStatus) (size : Nat) : Prop :=
  iter < MAX_GET_DATA_ITER ∧ size = 0 ∧
    (status = .success ∨ status = .noMoreDataAvailable)

instance (iter : Nat) (status : DataStatus) (size : Nat) :
    Decidable (readsAgain iter status size) :=
  inferInstanceAs (Decidable (_ ∧ _))

/-- The `switch` of the callback on the status of its last read. -/
def DataStatus.result (status : DataStatus) (size : Nat) : ReadResult :=
  match status with
  | .success | .noMoreDataAvailable | .awaitingPersistedAck =>
      if size = 0 then .pause else .wrote size
  | .endOfStream => .wrote size
  | .uploadHandleAborted | .other => .abort

/-- What libcurl makes of the result of the callback. -/
def ReadResult.upload : ReadResult → Upload
  | .pause => .outside true
  | .abort | .wrote 0 => .finished
  | .wrote _ => .outside false

/-- The statuses on which the callback sets `endOfStream`. -/
def DataStatus.ends (status : DataStatus) : Bool :=
  status == .endOfStream || status == .uploadHandleAborted

/-- `dataAvailableCurl` looks at `terminating` too, `fragmentAckReceivedCurl`
does not. -/
def Notification.afterEndOfStream : Notification → NotifierPc
  | .dataAvailable => .checkTerminating
  | .fragmentAck => .checkTerminated

namespace Session

/-- `curl_easy_pause` with `CURLPAUSE_SEND_CONT`: it resumes an upload that is
paused; a callback under way may still return `CURL_READFUNC_PAUSE`. -/
@[simps] def continueUpload (session : Session) : Session :=
  { session with
    upload :=
      match session.upload with
      | .outside _ => .outside false
      | upload => upload }

/-- The notification ends without an unpause. -/
@[simps] def dismiss (session : Session) : Session :=
  { session with
    notifier := .outside
    fresh := false
    lost := session.lost || session.fresh }

def handlerStep (session : Session) : HandlerAction → Option Session
  | .checkTerminating =>
      if session.handler = .beforeCheck then
        if session.terminating then
          some { session with handler := .returned }
        else some { session with handler := .clear }
      else none
  | .storeBlocked =>
      if session.handler = .clear then
        some
          { session with
            handler := .blocked
            blockedInCurl := true }
      else none
  | .enterPerform =>
      if session.handler = .blocked then
        some { session with handler := .performing }
      else none
  | .leavePerform =>
      match session.upload with
      | .inside _ => none
      | _ =>
          if session.handler = .performing then
            some { session with handler := .left }
          else none
  | .clearBlocked =>
      if session.handler = .left then
        some
          { session with
            handler := .returned
            blockedInCurl := false }
      else none

/-- The steps of `postReadCallback`, which libcurl may invoke as long as the
upload is not finished, also while it is paused. -/
def callbackStep (session : Session) (action : CallbackAction) :
    Option Session :=
  match action, session.upload with
  | .invoke, .outside _ =>
      if session.handler = .performing then
        some { session with upload := .inside .checkPaused }
      else none
  | .checkPaused, .inside .checkPaused =>
      if session.paused then
        some { session with upload := .inside (.cleanUp .pause) }
      else some { session with upload := .inside .checkEndOfStream }
  | .checkEndOfStream, .inside .checkEndOfStream =>
      if session.endOfStream then
        some { session with upload := .inside (.cleanUp (.wrote 0)) }
      else some { session with upload := .inside .checkTerminating }
  | .checkTerminating, .inside .checkTerminating =>
      if session.terminating then
        some { session with upload := .inside (.cleanUp (.wrote 0)) }
      else some { session with upload := .inside (.reading 0) }
  | .getData status size, .inside (.reading iter) =>
      let read : Session :=
        { session with
          fresh := session.fresh && size ≠ 0
          lost := session.lost && size ≠ 0 }
      if readsAgain (iter + 1) status size then
        some { read with upload := .inside (.reading (iter + 1)) }
      else
        some
          { read with
            endOfStream := session.endOfStream || status.ends
            upload := .inside (.cleanUp (status.result size)) }
  | .cleanUp, .inside (.cleanUp result) =>
      some
        { session with
          paused := session.paused || result == .pause
          terminated :=
            session.terminated || result == .abort || result == .wrote 0
          upload := .inside (.returning result) }
  | .return, .inside (.returning result) =>
      some { session with upload := result.upload }
  | _, _ => none

/-- Nobody holds `activeUploadsLock`. -/
abbrev LockFree (session : Session) : Prop :=
  session.notifier = .outside ∧
    (session.pass = .before ∨ session.pass = .finished)

def notifierStep (session : Session) (action : NotifierAction) :
    Option Session :=
  match action, session.notifier with
  | .arrive notification, .outside =>
      if session.LockFree then
        some
          { session with
            notifier := .checkEndOfStream notification
            fresh := true }
      else none
  | .checkEndOfStream, .checkEndOfStream notification =>
      if session.endOfStream then some session.dismiss
      else some { session with notifier := notification.afterEndOfStream }
  | .checkTerminating, .checkTerminating =>
      if session.terminating then some session.dismiss
      else some { session with notifier := .checkTerminated }
  | .checkTerminated, .checkTerminated =>
      if session.terminated then some session.dismiss
      else some { session with notifier := .checkPaused }
  | .checkPaused, .checkPaused =>
      if session.paused then some { session with notifier := .clearPaused }
      else some session.dismiss
  | .clearPaused, .clearPaused =>
      some
        { session with
          notifier := .unpause
          paused := false }
  | .unpause, .unpause =>
      some
        { session.continueUpload with
          notifier := .outside
          fresh := false }
  | _, _ => none

/-- The pass over the request, with `terminateCurlSession` from
`checkTerminated` on. -/
def passStep (session : Session) (action : PassAction) : Option Session :=
  match action, session.pass with
  | .acquire, .before =>
      if session.LockFree then some { session with pass := .storeTerminating }
      else none
  | .storeTerminating, .storeTerminating =>
      some
        { session with
          pass := .loadBlocked
          terminating := true }
  | .loadBlocked, .loadBlocked =>
      if session.blockedInCurl then
        some
          { session with
            pass := .checkTerminated
            issued := true }
      else some { session with pass := .finished }
  | .checkTerminated, .checkTerminated =>
      if session.terminated then some { session with pass := .finished }
      else some { session with pass := .unpause }
  | .unpause, .unpause =>
      some { session.continueUpload with pass := .storeTerminated }
  | .storeTerminated, .storeTerminated =>
      some
        { session with
          pass := .finished
          terminated := true }
  | _, _ => none

def next (session : Session) : Action → Option Session
  | .handler action => session.handlerStep action
  | .callback action => session.callbackStep action
  | .notifier action => session.notifierStep action
  | .pass action => session.passStep action

end Session

end CurlSession

end KvsProducer
