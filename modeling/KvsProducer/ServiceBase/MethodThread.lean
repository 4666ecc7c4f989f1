import KvsProducer.Lib.TransitionSystem
import KvsProducer.Common.Text

/-!
# The method thread of a service

`methodThread` takes items from a `MethodQueue` and handles them one after the
other; any number of threads put items into it with `EnqueuenMethod`.  The queue
has a mutex and a condition variable.  `ServiceBaseDeinit` and the destructor of
the queue each set a flag of their own.
-/

namespace KvsProducer

namespace ServiceBase

open TransitionSystem

structure MethodItem where
  method : Bytes
  data : Bytes
  deriving DecidableEq, Repr

/-- The line that the method thread is about to execute; `lock` to `take` are in
`Dequeue`.  In the wait it does not hold the mutex, and leaves it after a
notification or spuriously. -/
inductive ThreadPc where
  | created
  | test
  | lock
  | checkEmpty
  | predicate
  | waiting (notified : Bool)
  | recheck
  | checkStop
  | take
  | handling (item : MethodItem)
  | leaving
  | exited
  deriving DecidableEq, Repr

/-- The line that a call of `EnqueuenMethod` is about to execute in `Enqueue`. -/
inductive CallPc where
  | lock (item : MethodItem)
  | push (item : MethodItem)
  | notify
  | unlock
  | returned
  deriving DecidableEq, Repr

/-- The line that `~MethodQueue` is about to execute. -/
inductive DestructorPc where
  | lock
  | store
  | notify
  | clear
  | finished
  deriving DecidableEq, Repr

/-- The line that `ServiceBaseDeinit` is about to execute: the store, or the
loop that looks at `mMethodTrhead_Running` so many times more. -/
inductive DeinitPc where
  | store
  | polling (left : Nat)
  | returned
  deriving DecidableEq, Repr

/-- Who may hold the mutex; a call is named by its place among the calls. -/
inductive Party where
  | thread
  | call (index : Nat)
  | destructor
  deriving DecidableEq, Repr

/-- A service with its threads, and the items that have been put into the queue
and those that have been handled. -/
structure Service where
  mQueue : List MethodItem
  mQueueMutex : Option Party
  mStop : Bool
  mMethodTrhead_Stop : Bool
  mMethodTrhead_Running : Bool
  thread : ThreadPc
  calls : List CallPc
  destructor : DestructorPc
  deinit : DeinitPc
  enqueued : List MethodItem
  handled : List MethodItem
  deriving DecidableEq, Repr

def Service.initial : Service where
  mQueue := []
  mQueueMutex := none
  mStop := false
  mMethodTrhead_Stop := false
  mMethodTrhead_Running := false
  thread := .created
  calls := []
  destructor := .lock
  deinit := .store
  enqueued := []
  handled := []

/-- `notify_one` and `notify_all`: the method thread is the only one that
waits. -/
def ThreadPc.notified : ThreadPc → ThreadPc
  | .waiting _ => .waiting true
  | pc => pc

inductive Action where
  | thread
  | wakeSpuriously
  | call (item : MethodItem)
  | caller (index : Nat)
  | destructor
  | deinit
  deriving DecidableEq, Repr

namespace Service

/-- One line of `methodThread` or of `Dequeue`. -/
def threadStep (service : Service) : Option Service :=
  match service.thread with
  | .created =>
      some { service with
        thread := .test
        mMethodTrhead_Running := true }
  | .test =>
      if service.mMethodTrhead_Stop then
        some { service with thread := .leaving }
      else some { service with thread := .lock }
  | .lock =>
      if service.mQueueMutex = none then
        some { service with
          thread := .checkEmpty
          mQueueMutex := some .thread }
      else none
  | .checkEmpty =>
      if service.mQueue.isEmpty then
        some { service with thread := .predicate }
      else some { service with thread := .recheck }
  | .predicate =>
      if service.mStop || !service.mQueue.isEmpty then
        some { service with thread := .recheck }
      else
        some { service with
          thread := .waiting false
          mQueueMutex := none }
  | .waiting notified =>
      if notified = true ∧ service.mQueueMutex = none then
        some { service with
          thread := .predicate
          mQueueMutex := some .thread }
      else none
  | .recheck =>
      if service.mQueue.isEmpty then
        some { service with
          thread := .test
          mQueueMutex := none }
      else some { service with thread := .checkStop }
  | .checkStop =>
      if service.mStop then
        some { service with
          mQueue := []
          thread := .test
          mQueueMutex := none }
      else some { service with thread := .take }
  | .take =>
      match service.mQueue with
      | [] => none
      | item :: rest =>
          some { service with
            mQueue := rest
            thread := .handling item
            mQueueMutex := none }
  | .handling item =>
      some { service with
        thread := .test
        handled := service.handled ++ [item] }
  | .leaving =>
      some { service with
        thread := .exited
        mMethodTrhead_Running := false }
  | .exited => none

def setCall (service : Service) (index : Nat) (pc : CallPc) : Service :=
  { service with calls := service.calls.set index pc }

/-- One line of a call of `Enqueue`. -/
def callStep (service : Service) (index : Nat) : CallPc → Option Service
  | .lock item =>
      if service.mQueueMutex = none then
        some { service.setCall index (.push item) with
          mQueueMutex := some (.call index) }
      else none
  | .push item =>
      some { service.setCall index .notify with
        mQueue := service.mQueue ++ [item]
        enqueued := service.enqueued ++ [item] }
  | .notify =>
      some { service.setCall index .unlock with
        thread := service.thread.notified }
  | .unlock =>
      some { service.setCall index .returned with mQueueMutex := none }
  | .returned => none

/-- One line of `~MethodQueue`; the scope of the lock ends with the store. -/
def destructorStep (service : Service) : Option Service :=
  match service.destructor with
  | .lock =>
      if service.mQueueMutex = none then
        some { service with
          destructor := .store
          mQueueMutex := some .destructor }
      else none
  | .store =>
      some { service with
        destructor := .notify
        mStop := true
        mQueueMutex := none }
  | .notify =>
      some { service with
        destructor := .clear
        thread := service.thread.notified }
  | .clear =>
      some { service with
        destructor := .finished
        mQueue := [] }
  | .finished => none

/-- One line of `ServiceBaseDeinit`. -/
def deinitStep (service : Service) : Option Service :=
  match service.deinit with
  | .store =>
      some { service with
        deinit := .polling 10
        mMethodTrhead_Stop := true }
  | .polling 0 => some { service with deinit := .returned }
  | .polling (left + 1) =>
      some { service with
        deinit :=
          if service.mMethodTrhead_Running then .polling left else .returned }
  | .returned => none

def next (service : Service) : Action → Option Service
  | .thread => service.threadStep
  | .wakeSpuriously =>
      if service.thread = .waiting false then
        some { service with thread := .waiting true }
      else none
  | .call item =>
      some { service with calls := service.calls ++ [.lock item] }
  | .caller index =>
      (service.calls[index]?).bind fun pc => service.callStep index pc
  | .destructor => service.destructorStep
  | .deinit => service.deinitStep

/-! ### What a step can do -/

/-- What the steps of the method thread can do. -/
inductive ThreadStep (service : Service) : Service → Prop where
  | start
      (created : service.thread = .created) :
      ThreadStep service
        { service with
          thread := .test
          mMethodTrhead_Running := true }
  | leaveLoop
      (testing : service.thread = .test)
      (stopped : service.mMethodTrhead_Stop = true) :
      ThreadStep service { service with thread := .leaving }
  | enterLoop
      (testing : service.thread = .test)
      (live : service.mMethodTrhead_Stop = false) :
      ThreadStep service { service with thread := .lock }
  | lock
      (locking : service.thread = .lock)
      (free : service.mQueueMutex = none) :
      ThreadStep service
        { service with
          thread := .checkEmpty
          mQueueMutex := some .thread }
  | seeEmpty
      (checking : service.thread = .checkEmpty)
      (empty : service.mQueue = []) :
      ThreadStep service { service with thread := .predicate }
  | seeItems
      (checking : service.thread = .checkEmpty)
      (items : service.mQueue ≠ []) :
      ThreadStep service { service with thread := .recheck }
  | passPredicate
      (testing : service.thread = .predicate)
      (passes : service.mStop = true ∨ service.mQueue ≠ []) :
      ThreadStep service { service with thread := .recheck }
  | wait
      (testing : service.thread = .predicate)
      (live : service.mStop = false)
      (empty : service.mQueue = []) :
      ThreadStep service
        { service with
          thread := .waiting false
          mQueueMutex := none }
  | wake
      (waiting : service.thread = .waiting true)
      (free : service.mQueueMutex = none) :
      ThreadStep service
        { service with
          thread := .predicate
          mQueueMutex := some .thread }
  | giveUp
      (checking : service.thread = .recheck)
      (empty : service.mQueue = []) :
      ThreadStep service
        { service with
          thread := .test
          mQueueMutex := none }
  | passRecheck
      (checking : service.thread = .recheck)
      (items : service.mQueue ≠ []) :
      ThreadStep service { service with thread := .checkStop }
  | drop
      (checking : service.thread = .checkStop)
      (stopped : service.mStop = true) :
      ThreadStep service
        { service with
          mQueue := []
          thread := .test
          mQueueMutex := none }
  | passStop
      (checking : service.thread = .checkStop)
      (live : service.mStop = false) :
      ThreadStep service { service with thread := .take }
  | take {item : MethodItem} {rest : List MethodItem}
      (taking : service.thread = .take)
      (items : service.mQueue = item :: rest) :
      ThreadStep service
        { service with
          mQueue := rest
          thread := .handling item
          mQueueMutex := none }
  | handle {item : MethodItem}
      (handling : service.thread = .handling item) :
      ThreadStep service
        { service with
          thread := .test
          handled := service.handled ++ [item] }
  | leave
      (leaving : service.thread = .leaving) :
      ThreadStep service
        { service with
          thread := .exited
          mMethodTrhead_Running := false }

/-- What the steps of a call can do. -/
inductive CallStep (service : Service) (index : Nat) :
    CallPc → Service → Prop where
  | lock {item : MethodItem}
      (free : service.mQueueMutex = none) :
      CallStep service index (.lock item)
        { service.setCall index (.push item) with
          mQueueMutex := some (.call index) }
  | push {item : MethodItem} :
      CallStep service index (.push item)
        { service.setCall index .notify with
          mQueue := service.mQueue ++ [item]
          enqueued := service.enqueued ++ [item] }
  | notify :
      CallStep service index .notify
        { service.setCall index .unlock with
          thread := service.thread.notified }
  | unlock :
      CallStep service index .unlock
        { service.setCall index .returned with mQueueMutex := none }

/-- What the steps of the destructor can do. -/
inductive DestructorStep (service : Service) : Service → Prop where
  | lock
      (locking : service.destructor = .lock)
      (free : service.mQueueMutex = none) :
      DestructorStep service
        { service with
          destructor := .store
          mQueueMutex := some .destructor }
  | store
      (storing : service.destructor = .store) :
      DestructorStep service
        { service with
          destructor := .notify
          mStop := true
          mQueueMutex := none }
  | notify
      (notifying : service.destructor = .notify) :
      DestructorStep service
        { service with
          destructor := .clear
          thread := service.thread.notified }
  | clear
      (clearing : service.destructor = .clear) :
      DestructorStep service
        { service with
          destructor := .finished
          mQueue := [] }

/-- What the steps of the service can do. -/
inductive Step (service : Service) : Action → Service → Prop where
  | thread {target : Service} :
      ThreadStep service target → Step service .thread target
  | wakeSpuriously
      (waiting : service.thread = .waiting false) :
      Step service .wakeSpuriously { service with thread := .waiting true }
  | call {item : MethodItem} :
      Step service (.call item)
        { service with calls := service.calls ++ [.lock item] }
  | caller {index : Nat} {pc : CallPc} {target : Service}
      (calling : service.calls[index]? = some pc) :
      CallStep service index pc target → Step service (.caller index) target
  | destructor {target : Service} :
      DestructorStep service target → Step service .destructor target
  | stop
      (storing : service.deinit = .store) :
      Step service .deinit
        { service with
          deinit := .polling 10
          mMethodTrhead_Stop := true }
  | poll {pc : DeinitPc} :
      Step service .deinit { service with deinit := pc }

variable {service target : Service}

theorem threadStep_cases (step : service.threadStep = some target) :
    ThreadStep service target := by
  unfold threadStep at step
  split at step
  case h_1 created =>
      cases step
      exact .start created
  case h_2 testing =>
      split at step
      · rename_i stopped
        cases step
        exact .leaveLoop testing stopped
      · rename_i live
        cases step
        exact .enterLoop testing (by simpa using live)
  case h_3 locking =>
      obtain ⟨free, target_eq⟩ := Option.ite_none_right_eq_some.mp step
      cases target_eq
      exact .lock locking free
  case h_4 checking =>
      split at step
      · rename_i empty
        cases step
        exact .seeEmpty checking (List.isEmpty_iff.mp empty)
      · rename_i items
        cases step
        exact .seeItems checking (by simpa using items)
  case h_5 testing =>
      split at step
      · rename_i passes
        cases step
        exact .passPredicate testing (by simpa using passes)
      · rename_i fails
        cases step
        have both : service.mStop = false ∧ service.mQueue = [] := by
          simpa using fails
        exact .wait testing both.1 both.2
  case h_6 notified waiting =>
      obtain ⟨⟨woken, free⟩, target_eq⟩ :=
        Option.ite_none_right_eq_some.mp step
      cases target_eq
      subst woken
      exact .wake waiting free
  case h_7 checking =>
      split at step
      · rename_i empty
        cases step
        exact .giveUp checking (List.isEmpty_iff.mp empty)
      · rename_i items
        cases step
        exact .passRecheck checking (by simpa using items)
  case h_8 checking =>
      split at step
      · rename_i stopped
        cases step
        exact .drop checking stopped
      · rename_i live
        cases step
        exact .passStop checking (by simpa using live)
  case h_9 taking =>
      split at step
      · cases step
      · rename_i item rest items
        cases step
        exact .take taking items
  case h_10 item handling =>
      cases step
      exact .handle handling
  case h_11 leaving =>
      cases step
      exact .leave leaving
  case h_12 => cases step

theorem callStep_cases {index : Nat} {pc : CallPc}
    (step : service.callStep index pc = some target) :
    CallStep service index pc target := by
  cases pc <;> simp only [callStep] at step
  case lock item =>
      obtain ⟨free, target_eq⟩ := Option.ite_none_right_eq_some.mp step
      cases target_eq
      exact .lock free
  case push item =>
      cases step
      exact .push
  case notify =>
      cases step
      exact .notify
  case unlock =>
      cases step
      exact .unlock
  case returned => cases step

theorem destructorStep_cases (step : service.destructorStep = some target) :
    DestructorStep service target := by
  unfold destructorStep at step
  split at step
  case h_1 locking =>
      obtain ⟨free, target_eq⟩ := Option.ite_none_right_eq_some.mp step
      cases target_eq
      exact .lock locking free
  case h_2 storing =>
      cases step
      exact .store storing
  case h_3 notifying =>
      cases step
      exact .notify notifying
  case h_4 clearing =>
      cases step
      exact .clear clearing
  case h_5 => cases step

theorem next_step {action : Action}
    (step : service.next action = some target) :
    Step service action target := by
  cases action <;> simp only [next] at step
  case thread => exact .thread (threadStep_cases step)
  case wakeSpuriously =>
      obtain ⟨waiting, target_eq⟩ := Option.ite_none_right_eq_some.mp step
      cases target_eq
      exact .wakeSpuriously waiting
  case call item =>
      cases step
      exact .call
  case caller index =>
      obtain ⟨pc, calling, taken⟩ := Option.bind_eq_some_iff.mp step
      exact .caller calling (callStep_cases taken)
  case destructor => exact .destructor (destructorStep_cases step)
  case deinit =>
      unfold deinitStep at step
      split at step
      · rename_i storing
        cases step
        exact .stop storing
      · cases step
        exact .poll
      · cases step
        exact .poll
      · cases step

end Service

end ServiceBase

end KvsProducer
