import KvsProducer.CurlSession.Session

/-!
# The steps of an upload session

What a step of each thread can do, with its guard and its effect.  Every
invariant of the session is a case analysis over these.
-/

namespace KvsProducer

namespace CurlSession

open TransitionSystem

namespace Session

/-- What the steps of `curlCompleteSync` can do. -/
inductive HandlerStep (session : Session) :
    HandlerAction → Session → Prop where
  | skip
      (beforeCheck : session.handler = .beforeCheck)
      (terminating : session.terminating = true) :
      HandlerStep session .checkTerminating
        { session with handler := .returned }
  | proceed
      (beforeCheck : session.handler = .beforeCheck)
      (live : session.terminating = false) :
      HandlerStep session .checkTerminating { session with handler := .clear }
  | storeBlocked
      (clear : session.handler = .clear) :
      HandlerStep session .storeBlocked
        { session with
          handler := .blocked
          blockedInCurl := true }
  | enterPerform
      (blocked : session.handler = .blocked) :
      HandlerStep session .enterPerform { session with handler := .performing }
  | leavePerform
      (performing : session.handler = .performing)
      (idle : ∀ pc, session.upload ≠ .inside pc) :
      HandlerStep session .leavePerform { session with handler := .left }
  | clearBlocked
      (left : session.handler = .left) :
      HandlerStep session .clearBlocked
        { session with
          handler := .returned
          blockedInCurl := false }

/-- What the steps of `postReadCallback` can do. -/
inductive CallbackStep (session : Session) :
    CallbackAction → Session → Prop where
  | invoke {paused : Bool}
      (outside : session.upload = .outside paused)
      (performing : session.handler = .performing) :
      CallbackStep session .invoke
        { session with upload := .inside .checkPaused }
  | pauseAgain
      (checking : session.upload = .inside .checkPaused)
      (paused : session.paused = true) :
      CallbackStep session .checkPaused
        { session with upload := .inside (.cleanUp .pause) }
  | passPaused
      (checking : session.upload = .inside .checkPaused)
      (clear : session.paused = false) :
      CallbackStep session .checkPaused
        { session with upload := .inside .checkEndOfStream }
  | closeEnded
      (checking : session.upload = .inside .checkEndOfStream)
      (ended : session.endOfStream = true) :
      CallbackStep session .checkEndOfStream
        { session with upload := .inside (.cleanUp (.wrote 0)) }
  | passEndOfStream
      (checking : session.upload = .inside .checkEndOfStream)
      (open_ : session.endOfStream = false) :
      CallbackStep session .checkEndOfStream
        { session with upload := .inside .checkTerminating }
  | closeTerminating
      (checking : session.upload = .inside .checkTerminating)
      (terminating : session.terminating = true) :
      CallbackStep session .checkTerminating
        { session with upload := .inside (.cleanUp (.wrote 0)) }
  | passTerminating
      (checking : session.upload = .inside .checkTerminating)
      (live : session.terminating = false) :
      CallbackStep session .checkTerminating
        { session with upload := .inside (.reading 0) }
  | readAgain {status : DataStatus} {size iter : Nat}
      (reading : session.upload = .inside (.reading iter))
      (again : readsAgain (iter + 1) status size) :
      CallbackStep session (.getData status size)
        { session with
          fresh := session.fresh && size ≠ 0
          lost := session.lost && size ≠ 0
          upload := .inside (.reading (iter + 1)) }
  | readLast {status : DataStatus} {size iter : Nat}
      (reading : session.upload = .inside (.reading iter))
      (last : ¬ readsAgain (iter + 1) status size) :
      CallbackStep session (.getData status size)
        { session with
          fresh := session.fresh && size ≠ 0
          lost := session.lost && size ≠ 0
          endOfStream := session.endOfStream || status.ends
          upload := .inside (.cleanUp (status.result size)) }
  | cleanUp {result : ReadResult}
      (cleaning : session.upload = .inside (.cleanUp result)) :
      CallbackStep session .cleanUp
        { session with
          paused := session.paused || result == .pause
          terminated :=
            session.terminated || result == .abort || result == .wrote 0
          upload := .inside (.returning result) }
  | return {result : ReadResult}
      (returning : session.upload = .inside (.returning result)) :
      CallbackStep session .return { session with upload := result.upload }

/-- What the steps of a notification can do. -/
inductive NotifierStep (session : Session) :
    NotifierAction → Session → Prop where
  | arrive {notification : Notification}
      (lockFree : session.LockFree) :
      NotifierStep session (.arrive notification)
        { session with
          notifier := .checkEndOfStream notification
          fresh := true }
  | dismissEnded {notification : Notification}
      (checking : session.notifier = .checkEndOfStream notification)
      (ended : session.endOfStream = true) :
      NotifierStep session .checkEndOfStream session.dismiss
  | passEndOfStream {notification : Notification}
      (checking : session.notifier = .checkEndOfStream notification)
      (open_ : session.endOfStream = false) :
      NotifierStep session .checkEndOfStream
        { session with notifier := notification.afterEndOfStream }
  | dismissTerminating
      (checking : session.notifier = .checkTerminating)
      (terminating : session.terminating = true) :
      NotifierStep session .checkTerminating session.dismiss
  | passTerminating
      (checking : session.notifier = .checkTerminating)
      (live : session.terminating = false) :
      NotifierStep session .checkTerminating
        { session with notifier := .checkTerminated }
  | dismissTerminated
      (checking : session.notifier = .checkTerminated)
      (terminated : session.terminated = true) :
      NotifierStep session .checkTerminated session.dismiss
  | passTerminated
      (checking : session.notifier = .checkTerminated)
      (live : session.terminated = false) :
      NotifierStep session .checkTerminated
        { session with notifier := .checkPaused }
  | passPaused
      (checking : session.notifier = .checkPaused)
      (paused : session.paused = true) :
      NotifierStep session .checkPaused
        { session with notifier := .clearPaused }
  | dismissClear
      (checking : session.notifier = .checkPaused)
      (clear : session.paused = false) :
      NotifierStep session .checkPaused session.dismiss
  | clearPaused
      (clearing : session.notifier = .clearPaused) :
      NotifierStep session .clearPaused
        { session with
          notifier := .unpause
          paused := false }
  | unpause
      (unpausing : session.notifier = .unpause) :
      NotifierStep session .unpause
        { session.continueUpload with
          notifier := .outside
          fresh := false }

/-- What the steps of a shutdown pass can do. -/
inductive PassStep (session : Session) : PassAction → Session → Prop where
  | acquire
      (before : session.pass = .before)
      (lockFree : session.LockFree) :
      PassStep session .acquire { session with pass := .storeTerminating }
  | storeTerminating
      (storing : session.pass = .storeTerminating) :
      PassStep session .storeTerminating
        { session with
          pass := .loadBlocked
          terminating := true }
  | issue
      (loading : session.pass = .loadBlocked)
      (blocked : session.blockedInCurl = true) :
      PassStep session .loadBlocked
        { session with
          pass := .checkTerminated
          issued := true }
  | skip
      (loading : session.pass = .loadBlocked)
      (unblocked : session.blockedInCurl = false) :
      PassStep session .loadBlocked { session with pass := .finished }
  | passTerminated
      (checking : session.pass = .checkTerminated)
      (live : session.terminated = false) :
      PassStep session .checkTerminated { session with pass := .unpause }
  | skipTerminated
      (checking : session.pass = .checkTerminated)
      (terminated : session.terminated = true) :
      PassStep session .checkTerminated { session with pass := .finished }
  | unpause
      (unpausing : session.pass = .unpause) :
      PassStep session .unpause
        { session.continueUpload with pass := .storeTerminated }
  | storeTerminated
      (storing : session.pass = .storeTerminated) :
      PassStep session .storeTerminated
        { session with
          pass := .finished
          terminated := true }

/-- What the steps of the session can do. -/
inductive Step (session : Session) : Action → Session → Prop where
  | handler {action : HandlerAction} {target : Session} :
      HandlerStep session action target →
      Step session (.handler action) target
  | callback {action : CallbackAction} {target : Session} :
      CallbackStep session action target →
      Step session (.callback action) target
  | notifier {action : NotifierAction} {target : Session} :
      NotifierStep session action target →
      Step session (.notifier action) target
  | pass {action : PassAction} {target : Session} :
      PassStep session action target →
      Step session (.pass action) target

variable {session target : Session}

theorem handlerStep_cases {action : HandlerAction}
    (step : session.handlerStep action = some target) :
    HandlerStep session action target := by
  cases action <;> simp only [handlerStep] at step
  case checkTerminating =>
      obtain ⟨beforeCheck, branch⟩ := Option.ite_none_right_eq_some.mp step
      split at branch
      · rename_i terminating
        cases branch
        exact .skip beforeCheck terminating
      · rename_i live
        cases branch
        exact .proceed beforeCheck (by simpa using live)
  case storeBlocked =>
      obtain ⟨clear, target_eq⟩ := Option.ite_none_right_eq_some.mp step
      cases target_eq
      exact .storeBlocked clear
  case enterPerform =>
      obtain ⟨blocked, target_eq⟩ := Option.ite_none_right_eq_some.mp step
      cases target_eq
      exact .enterPerform blocked
  case leavePerform =>
      split at step
      · cases step
      · rename_i idle
        obtain ⟨performing, target_eq⟩ :=
          Option.ite_none_right_eq_some.mp step
        cases target_eq
        exact .leavePerform performing idle
  case clearBlocked =>
      obtain ⟨left, target_eq⟩ := Option.ite_none_right_eq_some.mp step
      cases target_eq
      exact .clearBlocked left

theorem callbackStep_cases {action : CallbackAction}
    (step : session.callbackStep action = some target) :
    CallbackStep session action target := by
  simp only [callbackStep] at step
  split at step
  case h_1 outside =>
      obtain ⟨performing, target_eq⟩ := Option.ite_none_right_eq_some.mp step
      cases target_eq
      exact .invoke outside performing
  case h_2 checking =>
      split at step
      · rename_i paused
        cases step
        exact .pauseAgain checking paused
      · rename_i clear
        cases step
        exact .passPaused checking (by simpa using clear)
  case h_3 checking =>
      split at step
      · rename_i ended
        cases step
        exact .closeEnded checking ended
      · rename_i clear
        cases step
        exact .passEndOfStream checking (by simpa using clear)
  case h_4 checking =>
      split at step
      · rename_i terminating
        cases step
        exact .closeTerminating checking terminating
      · rename_i live
        cases step
        exact .passTerminating checking (by simpa using live)
  case h_5 status size iter reading =>
      split at step
      · rename_i again
        cases step
        exact .readAgain reading again
      · rename_i last
        cases step
        exact .readLast reading last
  case h_6 result cleaning =>
      cases step
      exact .cleanUp cleaning
  case h_7 result returning =>
      cases step
      exact .return returning
  case h_8 => cases step

theorem notifierStep_cases {action : NotifierAction}
    (step : session.notifierStep action = some target) :
    NotifierStep session action target := by
  simp only [notifierStep] at step
  split at step
  case h_1 notification outside =>
      obtain ⟨lockFree, target_eq⟩ := Option.ite_none_right_eq_some.mp step
      cases target_eq
      exact .arrive lockFree
  case h_2 notification checking =>
      split at step
      · rename_i ended
        cases step
        exact .dismissEnded checking ended
      · rename_i clear
        cases step
        exact .passEndOfStream checking (by simpa using clear)
  case h_3 checking =>
      split at step
      · rename_i terminating
        cases step
        exact .dismissTerminating checking terminating
      · rename_i live
        cases step
        exact .passTerminating checking (by simpa using live)
  case h_4 checking =>
      split at step
      · rename_i terminated
        cases step
        exact .dismissTerminated checking terminated
      · rename_i live
        cases step
        exact .passTerminated checking (by simpa using live)
  case h_5 checking =>
      split at step
      · rename_i paused
        cases step
        exact .passPaused checking paused
      · rename_i clear
        cases step
        exact .dismissClear checking (by simpa using clear)
  case h_6 clearing =>
      cases step
      exact .clearPaused clearing
  case h_7 unpausing =>
      cases step
      exact .unpause unpausing
  case h_8 => cases step

theorem passStep_cases {action : PassAction}
    (step : session.passStep action = some target) :
    PassStep session action target := by
  simp only [passStep] at step
  split at step
  case h_1 before =>
      obtain ⟨lockFree, target_eq⟩ := Option.ite_none_right_eq_some.mp step
      cases target_eq
      exact .acquire before lockFree
  case h_2 storing =>
      cases step
      exact .storeTerminating storing
  case h_3 loading =>
      split at step
      · rename_i blocked
        cases step
        exact .issue loading blocked
      · rename_i unblocked
        cases step
        exact .skip loading (by simpa using unblocked)
  case h_4 checking =>
      split at step
      · rename_i terminated
        cases step
        exact .skipTerminated checking terminated
      · rename_i live
        cases step
        exact .passTerminated checking (by simpa using live)
  case h_5 unpausing =>
      cases step
      exact .unpause unpausing
  case h_6 storing =>
      cases step
      exact .storeTerminated storing
  case h_7 => cases step

theorem next_cases {action : Action}
    (step : session.next action = some target) :
    Step session action target := by
  cases action with
  | handler action => exact .handler (handlerStep_cases step)
  | callback action => exact .callback (callbackStep_cases step)
  | notifier action => exact .notifier (notifierStep_cases step)
  | pass action => exact .pass (passStep_cases step)

end Session

/-- The states of runs whose every action meets the condition. -/
abbrev Run (ok : Session → Action → Prop) (session : Session) : Prop :=
  Steps Session.next ok Session.initial session

abbrev Reachable (session : Session) : Prop :=
  Reaches Session.next Session.initial session

end CurlSession

end KvsProducer
