import KvsProducer.ServiceBase.Delivery

/-!
# The method thread drains the queue

Whenever no call is in `Enqueue`, the method thread alone gets to its wait, and
has handled everything by then; how many lines it needs is bounded.
`ServiceBaseDeinit` lets it handle one more item, and does not wake it.
-/

namespace KvsProducer

namespace ServiceBase

open TransitionSystem

/-- The lines to the next wait or the next look at the loop condition. -/
def ThreadPc.rank : ThreadPc → Nat
  | .created | .handling _ => 8
  | .test => 7
  | .lock => 6
  | .checkEmpty | .waiting true => 5
  | .predicate => 4
  | .recheck => 3
  | .checkStop => 2
  | .take => 1
  | .waiting false | .leaving | .exited => 0

theorem ThreadPc.rank_le (pc : ThreadPc) : pc.rank ≤ 8 := by
  cases pc with
  | waiting notified => cases notified <;> simp [ThreadPc.rank]
  | _ => simp [ThreadPc.rank]

/-- The thread has left the loop. -/
def ThreadPc.Left (pc : ThreadPc) : Prop := pc = .leaving ∨ pc = .exited

@[simp] theorem ThreadPc.notified_left {pc : ThreadPc} :
    pc.notified.Left ↔ pc.Left := by
  cases pc <;> simp [notified, Left]

namespace Service

/-- How many lines are at most left to the wait. -/
def work (service : Service) : Nat :=
  8 * service.mQueue.length + service.thread.rank

/-- The thread leaves its loop after the stop only. -/
def Looping (service : Service) : Prop :=
  service.thread.Left → service.mMethodTrhead_Stop = true

variable {service target start final : Service}

theorem Looping.next {action : Action} (looping : service.Looping)
    (step : service.next action = some target) : target.Looping := by
  cases next_step step with
  | thread step =>
      cases step
      case leaveLoop testing stopped => exact fun _ => stopped
      case leave leaving => exact fun _ => looping (.inl leaving)
      all_goals
        intro left
        rcases left with left | left <;> cases left
  | wakeSpuriously waiting =>
      intro left
      rcases left with left | left <;> cases left
  | call => exact looping
  | caller calling step =>
      cases step
      case notify => exact fun left => looping (ThreadPc.notified_left.mp left)
      all_goals exact looping
  | destructor step =>
      cases step
      case notify => exact fun left => looping (ThreadPc.notified_left.mp left)
      all_goals exact looping
  | stop storing => exact fun _ => rfl
  | poll => exact looping

theorem looping_of_reaches (run : Reaches Service.next initial final) :
    final.Looping := by
  apply run.invariant Looping
  · intro left
    rcases left with left | left <;> cases left
  · intro service action target held _ step
    exact held.next step

/-- Nobody but the thread holds the mutex, and nothing is stopped. -/
structure Alone (service : Service) : Prop where
  delivering : service.Delivering
  looping : service.Looping
  own : service.mQueueMutex = none ∨ service.mQueueMutex = some .thread
  live : service.mStop = false
  going : service.mMethodTrhead_Stop = false

theorem Alone.free (alone : service.Alone)
    (outside : ¬ service.thread.Locked) : service.mQueueMutex = none := by
  rcases alone.own with free | own
  · exact free
  · exact absurd ((alone.delivering.guarded .thread).mpr own) outside

theorem Alone.items (alone : service.Alone)
    (saw : service.thread.SawItem) : service.mQueue ≠ [] := by
  rcases alone.delivering.saw saw with stopped | items
  · exact absurd (alone.live.symm.trans stopped) nofun
  · exact items

theorem Alone.threadStep (alone : service.Alone)
    (taken : service.threadStep = some target) : target.Alone := by
  have step := threadStep_cases taken
  obtain ⟨-, -, stop, -⟩ := step.frame
  have taken : service.next .thread = some target := taken
  refine ⟨alone.delivering.next taken, alone.looping.next taken, ?_,
    stop.trans alone.live, ?_⟩
  · have own := alone.own
    cases step
    case lock => exact .inr rfl
    case wake => exact .inr rfl
    case wait => exact .inl rfl
    case giveUp => exact .inl rfl
    case drop => exact .inl rfl
    case take => exact .inl rfl
    all_goals exact own
  · have going := alone.going
    cases step <;> exact going

/-- The thread has a line to execute unless it waits, and gets closer to it. -/
theorem Alone.progress (alone : service.Alone)
    (awake : service.thread ≠ .waiting false) :
    ∃ target, service.threadStep = some target ∧
      target.work < service.work := by
  have live := alone.live
  have going := alone.going
  have items := alone.items
  have free := alone.free
  have looping := alone.looping
  cases thread : service.thread with
  | created =>
      refine
        ⟨{ service with
            thread := .test
            mMethodTrhead_Running := true },
          ?_, ?_⟩
      · simp only [Service.threadStep, thread]
      · simp [work, thread, ThreadPc.rank]
  | test =>
      refine ⟨{ service with thread := .lock }, ?_, ?_⟩
      · simp only [Service.threadStep, thread, going]
        rfl
      · simp [work, thread, ThreadPc.rank]
  | lock =>
      have unlocked : service.mQueueMutex = none := free (by
        simp [thread, ThreadPc.Locked])
      refine
        ⟨{ service with
            thread := .checkEmpty
            mQueueMutex := some .thread },
          ?_, ?_⟩
      · simp only [Service.threadStep, thread]
        exact if_pos unlocked
      · simp [work, thread, ThreadPc.rank]
  | checkEmpty =>
      cases queue : service.mQueue with
      | nil =>
          refine ⟨{ service with thread := .predicate }, ?_, ?_⟩
          · simp only [Service.threadStep, thread, queue]
            rfl
          · simp [work, thread, queue, ThreadPc.rank]
      | cons item rest =>
          refine ⟨{ service with thread := .recheck }, ?_, ?_⟩
          · simp only [Service.threadStep, thread, queue]
            rfl
          · simp [work, thread, queue, ThreadPc.rank]
  | predicate =>
      cases queue : service.mQueue with
      | nil =>
          refine
            ⟨{ service with
                thread := .waiting false
                mQueueMutex := none },
              ?_, ?_⟩
          · simp only [Service.threadStep, thread, queue, live]
            rfl
          · simp [work, thread, queue, ThreadPc.rank]
      | cons item rest =>
          refine ⟨{ service with thread := .recheck }, ?_, ?_⟩
          · simp only [Service.threadStep, thread, queue, live]
            rfl
          · simp [work, thread, queue, ThreadPc.rank]
  | waiting notified =>
      have woken : notified = true := by
        cases notified with
        | false => exact absurd thread awake
        | true => rfl
      subst woken
      have unlocked : service.mQueueMutex = none := free (by
        simp [thread, ThreadPc.Locked])
      refine
        ⟨{ service with
            thread := .predicate
            mQueueMutex := some .thread },
          ?_, ?_⟩
      · simp only [Service.threadStep, thread]
        exact if_pos ⟨trivial, unlocked⟩
      · simp [work, thread, ThreadPc.rank]
  | recheck =>
      obtain ⟨item, rest, queue⟩ := List.exists_cons_of_ne_nil
        (items (by simp [thread, ThreadPc.SawItem]))
      refine ⟨{ service with thread := .checkStop }, ?_, ?_⟩
      · simp only [Service.threadStep, thread, queue]
        rfl
      · simp [work, thread, queue, ThreadPc.rank]
  | checkStop =>
      refine ⟨{ service with thread := .take }, ?_, ?_⟩
      · simp only [Service.threadStep, thread, live]
        rfl
      · simp [work, thread, ThreadPc.rank]
  | take =>
      obtain ⟨item, rest, queue⟩ := List.exists_cons_of_ne_nil
        (items (by simp [thread, ThreadPc.SawItem]))
      refine
        ⟨{ service with
            mQueue := rest
            thread := .handling item
            mQueueMutex := none },
          ?_, ?_⟩
      · simp only [Service.threadStep, thread, queue]
      · simp only [work, thread, queue, ThreadPc.rank, List.length_cons]
        omega
  | handling item =>
      refine
        ⟨{ service with
            thread := .test
            handled := service.handled ++ [item] },
          ?_, ?_⟩
      · simp only [Service.threadStep, thread]
      · simp [work, thread, ThreadPc.rank]
  | leaving =>
      have stopped := looping (.inl thread)
      exact absurd (going.symm.trans stopped) Bool.false_ne_true
  | exited =>
      have stopped := looping (.inr thread)
      exact absurd (going.symm.trans stopped) Bool.false_ne_true

theorem ThreadStep.enqueued (taken : service.threadStep = some target) :
    target.enqueued = service.enqueued :=
  (threadStep_cases taken).frame.2.2.2

/-- The thread alone gets to its wait in so many lines. -/
theorem Alone.drains (alone : service.Alone) :
    ∃ count ≤ service.work, ∃ target,
      replay next (fun _ _ => True) service (List.replicate count .thread) =
        some target ∧
      target.Alone ∧ target.thread = .waiting false ∧
      target.enqueued = service.enqueued := by
  generalize bound : service.work = left
  induction left using Nat.strong_induction_on generalizing service with
  | _ left induction =>
      by_cases waiting : service.thread = .waiting false
      · exact ⟨0, Nat.zero_le _, service, rfl, alone, waiting, rfl⟩
      · obtain ⟨middle, step, less⟩ := alone.progress waiting
        obtain ⟨count, within, target, run, rest⟩ := induction middle.work
          (bound ▸ less) (alone.threadStep step) rfl
        refine ⟨count + 1, by omega, target, ?_, ?_⟩
        · rw [List.replicate_succ, replay, if_pos trivial]
          exact (Option.bind_eq_some_iff).mpr ⟨middle, step, run⟩
        · obtain ⟨aloneThen, waitingThen, enqueued⟩ := rest
          exact ⟨aloneThen, waitingThen,
            enqueued.trans (ThreadStep.enqueued step)⟩

/-- From every reachable state in which nothing is stopped and no call is in
`Enqueue`, the method thread alone handles everything that was enqueued and
waits, in at most eight lines an item and eight more. -/
theorem methodThread_drains (run : Reaches next initial service)
    (own : service.mQueueMutex = none ∨ service.mQueueMutex = some .thread)
    (live : service.mStop = false)
    (going : service.mMethodTrhead_Stop = false) :
    ∃ count ≤ 8 * service.mQueue.length + 8, ∃ target,
      replay next (fun _ _ => True) service (List.replicate count .thread) =
        some target ∧
      target.thread = .waiting false ∧ target.mQueue = [] ∧
      target.handled = service.enqueued := by
  have alone : service.Alone :=
    ⟨initial_delivering.run run, looping_of_reaches run, own, live, going⟩
  obtain ⟨count, within, target, steps, after, waiting, enqueued⟩ :=
    alone.drains
  have bound := service.thread.rank_le
  have free := after.free (by simp [waiting, ThreadPc.Locked])
  have empty := after.delivering.idle waiting free
  refine ⟨count, ?_, target, steps, waiting, empty, ?_⟩
  · rw [work] at within
    omega
  · have parts := after.delivering.kept after.live
    rw [empty, waiting, enqueued] at parts
    simpa [ThreadPc.inHand] using parts.symm

end Service

/-- One call has put its item into the queue, and the thread has gone into the
wait before. -/
def oneCall : Service :=
  stateAfter Service.next (fun _ _ => True) .initial
    (List.replicate 5 .thread ++ [.call sampleItem] ++
      List.replicate 4 (.caller 0))

theorem methodThread_drains_oneCall :
    ∃ count ≤ 16, ∃ target,
      replay Service.next (fun _ _ => True) oneCall
        (List.replicate count .thread) = some target ∧
      target.thread = .waiting false ∧ target.mQueue = [] ∧
      target.handled = [sampleItem] := by
  have run : Reaches Service.next .initial oneCall :=
    steps_stateAfter (by decide +kernel)
  exact Service.methodThread_drains run (Or.inl (by decide +kernel))
    (by decide +kernel) (by decide +kernel)

/-! ### ServiceBaseDeinit -/

/-- How many items the thread handles at most before it looks at the loop
condition again. -/
def ThreadPc.pending : ThreadPc → Nat
  | .created | .test | .leaving | .exited => 0
  | _ => 1

@[simp] theorem ThreadPc.notified_eq_created {pc : ThreadPc} :
    pc.notified = .created ↔ pc = .created := by
  cases pc <;> simp [notified]

@[simp] theorem ThreadPc.notified_eq_exited {pc : ThreadPc} :
    pc.notified = .exited ↔ pc = .exited := by
  cases pc <;> simp [notified]

@[simp] theorem ThreadPc.notified_pending {pc : ThreadPc} :
    pc.notified.pending = pc.pending := by
  cases pc <;> rfl

namespace Service

variable {service target start final : Service}

/-- The loop is to be left, and the items handled since are among those that
were pending. -/
structure Ending (start service : Service) : Prop where
  stopped : service.mMethodTrhead_Stop = true
  handled : ∃ last, service.handled = start.handled ++ last ∧
    last.length + service.thread.pending ≤ start.thread.pending

theorem Ending.of_frame (ending : start.Ending service)
    (stop : target.mMethodTrhead_Stop = service.mMethodTrhead_Stop)
    (handled : target.handled = service.handled)
    (pending : target.thread.pending ≤ service.thread.pending) :
    start.Ending target := by
  obtain ⟨stopped, last, before, bound⟩ := ending
  exact ⟨stop.trans stopped, last, handled.trans before, by omega⟩

theorem Ending.threadStep (ending : start.Ending service)
    (step : ThreadStep service target) : start.Ending target := by
  cases step
  case enterLoop testing live =>
      exact absurd (live.symm.trans ending.stopped) nofun
  case handle item handling =>
      obtain ⟨stopped, last, before, bound⟩ := ending
      rw [handling] at bound
      refine ⟨stopped, last ++ [item], ?_, ?_⟩
      · rw [before, List.append_assoc]
      · simpa [ThreadPc.pending] using bound
  all_goals
    refine ending.of_frame ?stop ?handled ?pending
    case stop => rfl
    case handled => rfl
    case pending => simp [*, ThreadPc.pending]

theorem Ending.next {action : Action} (ending : start.Ending service)
    (step : service.next action = some target) : start.Ending target := by
  cases next_step step with
  | thread step => exact ending.threadStep step
  | wakeSpuriously waiting =>
      have pending : (ThreadPc.waiting true).pending =
          service.thread.pending := by rw [waiting]; rfl
      exact ending.of_frame (by rfl) (by rfl) (Nat.le_of_eq pending)
  | call => exact ending.of_frame (by rfl) (by rfl) (Nat.le_refl _)
  | caller calling step =>
      cases step
      case notify =>
          exact ending.of_frame (by rfl) (by rfl)
            (Nat.le_of_eq ThreadPc.notified_pending)
      all_goals exact ending.of_frame (by rfl) (by rfl) (Nat.le_refl _)
  | destructor step =>
      cases step
      case notify =>
          exact ending.of_frame (by rfl) (by rfl)
            (Nat.le_of_eq ThreadPc.notified_pending)
      all_goals exact ending.of_frame (by rfl) (by rfl) (Nat.le_refl _)
  | stop storing =>
      obtain ⟨-, last, handled⟩ := ending
      exact ⟨rfl, last, handled⟩
  | poll => exact ending.of_frame (by rfl) (by rfl) (Nat.le_refl _)

/-- After `ServiceBaseDeinit` has set its flag the thread handles one more item
at most, whatever is enqueued, and none if it is at the head of its loop. -/
theorem deinit_handles_one (stopped : start.mMethodTrhead_Stop = true)
    (run : Reaches next start final) :
    ∃ last, final.handled = start.handled ++ last ∧
      last.length ≤ start.thread.pending := by
  have ending : start.Ending final := by
    apply run.invariant (start.Ending ·)
    · exact ⟨stopped, [], (List.append_nil _).symm, by simp⟩
    · intro service action target held _ step
      exact held.next step
  obtain ⟨-, last, handled, bound⟩ := ending
  exact ⟨last, handled, by omega⟩

/-- Nothing is put into the queue, and it is not destroyed. -/
def Quiet (service : Service) : Action → Prop
  | .caller index => ∀ item, service.calls[index]? ≠ some (.push item)
  | .destructor => False
  | _ => True

/-- The thread is in the wait of `Dequeue`, and there is nothing to wake up
for. -/
structure Idle (start service : Service) : Prop where
  waits : service.thread = .predicate ∨
    ∃ notified, service.thread = .waiting notified
  empty : service.mQueue = []
  live : service.mStop = false
  handled : service.handled = start.handled
  running : service.mMethodTrhead_Running = start.mMethodTrhead_Running

theorem Idle.threadStep (idle : start.Idle service)
    (step : ThreadStep service target) : start.Idle target := by
  obtain ⟨waits, empty, live, handled, running⟩ := idle
  cases step
  case passPredicate testing passes =>
      rcases passes with stopped | items
      · exact absurd (live.symm.trans stopped) nofun
      · exact absurd empty items
  case wait => exact ⟨.inr ⟨false, rfl⟩, empty, live, handled, running⟩
  case wake => exact ⟨.inl rfl, empty, live, handled, running⟩
  all_goals
    rcases waits with testing | ⟨notified, waiting⟩ <;> simp_all

theorem Idle.next {action : Action} (idle : start.Idle service)
    (quiet : service.Quiet action)
    (step : service.next action = some target) : start.Idle target := by
  have woken : service.thread.notified = .predicate ∨
      ∃ notified, service.thread.notified = .waiting notified := by
    rcases idle.waits with testing | ⟨notified, waiting⟩
    · exact .inl (by rw [testing]; rfl)
    · exact .inr ⟨true, by rw [waiting]; rfl⟩
  cases next_step step with
  | thread step => exact idle.threadStep step
  | wakeSpuriously waiting =>
      exact ⟨.inr ⟨true, rfl⟩, idle.empty, idle.live, idle.handled,
        idle.running⟩
  | call =>
      exact ⟨idle.waits, idle.empty, idle.live, idle.handled, idle.running⟩
  | caller calling step =>
      cases step
      case push item => exact absurd calling (quiet item)
      case notify =>
          exact ⟨woken, idle.empty, idle.live, idle.handled, idle.running⟩
      all_goals
        exact ⟨idle.waits, idle.empty, idle.live, idle.handled, idle.running⟩
  | destructor step => exact quiet.elim
  | stop storing =>
      exact ⟨idle.waits, idle.empty, idle.live, idle.handled, idle.running⟩
  | poll =>
      exact ⟨idle.waits, idle.empty, idle.live, idle.handled, idle.running⟩

/-- The flag is set while the thread is between its two assignments. -/
def Flagged (service : Service) : Prop :=
  service.thread ≠ .created → service.thread ≠ .exited →
    service.mMethodTrhead_Running = true

theorem Flagged.next {action : Action} (flagged : service.Flagged)
    (step : service.next action = some target) : target.Flagged := by
  have notified : service.thread.notified ≠ .created →
      service.thread.notified ≠ .exited →
      service.mMethodTrhead_Running = true := by
    rw [ne_eq, ne_eq, ThreadPc.notified_eq_created, ThreadPc.notified_eq_exited]
    exact flagged
  cases next_step step with
  | thread step =>
      cases step
      case start created => exact fun _ _ => rfl
      case leave leaving => exact fun _ exited => absurd rfl exited
      all_goals exact fun _ _ => flagged (by simp [*]) (by simp [*])
  | wakeSpuriously waiting =>
      exact fun _ _ => flagged (by simp [waiting]) (by simp [waiting])
  | caller calling step =>
      cases step
      case notify => exact notified
      all_goals exact flagged
  | destructor step =>
      cases step
      case notify => exact notified
      all_goals exact flagged
  | call => exact flagged
  | stop storing => exact flagged
  | poll => exact flagged

theorem running_of_waiting (run : Reaches Service.next initial service)
    (waiting : service.thread = .waiting false) :
    service.mMethodTrhead_Running = true := by
  have flagged : service.Flagged := by
    apply run.invariant Flagged
    · exact fun created => absurd rfl created
    · intro service action target held _ step
      exact held.next step
  exact flagged (by simp [waiting]) (by simp [waiting])

/-- `ServiceBaseDeinit` does not wake the thread: once it waits at an empty
queue it stays in the wait, and running, until something is enqueued or the
queue is destroyed. -/
theorem deinit_leaves_waiting (run : Reaches next initial start)
    (waiting : start.thread = .waiting false)
    (free : start.mQueueMutex = none) (live : start.mStop = false)
    (quiet : Steps next Quiet start final) :
    final.mMethodTrhead_Running = true ∧
      (final.thread = .predicate ∨
        ∃ notified, final.thread = .waiting notified) ∧
      final.handled = start.handled := by
  have idle : start.Idle final := by
    apply quiet.invariant (start.Idle ·)
    · exact ⟨.inr ⟨false, waiting⟩,
        (initial_delivering.run run).idle waiting free, live, rfl, rfl⟩
    · intro service action target held admitted step
      exact held.next admitted step
  exact ⟨idle.running.trans (running_of_waiting run waiting), idle.waits,
    idle.handled⟩

instance (service : Service) (action : Action) :
    Decidable (service.Quiet action) :=
  match action with
  | .caller index =>
      match calling : service.calls[index]? with
      | some (.push item) => isFalse fun quiet => quiet item calling
      | none | some (.lock _) | some .notify | some .unlock
      | some .returned => isTrue (by simp [Quiet, calling])
  | .destructor => isFalse id
  | .thread | .wakeSpuriously | .call _ | .deinit => isTrue trivial

end Service

/-- The item of the call is in hand when the flag is set. -/
def stoppedHandling : Service :=
  stateAfter Service.next (fun _ _ => True) oneCall
    (List.replicate 5 .thread ++ [.deinit])

/-- Another item is enqueued, and the thread gets as far as it can. -/
def stoppedThread : Service :=
  stateAfter Service.next (fun _ _ => True) stoppedHandling
    ([.call otherItem] ++ List.replicate 4 (.caller 1) ++
      List.replicate 3 .thread)

theorem deinit_handles_one_sample :
    ∃ last, stoppedThread.handled = stoppedHandling.handled ++ last ∧
      last.length ≤ stoppedHandling.thread.pending :=
  Service.deinit_handles_one (by decide +kernel)
    (steps_stateAfter (by decide +kernel))

/-- The thread waits at the empty queue. -/
def waitingThread : Service :=
  stateAfter Service.next (fun _ _ => True) .initial
    (List.replicate 5 .thread)

/-- `ServiceBaseDeinit` runs to its end. -/
def deinitReturned : Service :=
  stateAfter Service.next Service.Quiet waitingThread
    (List.replicate 12 .deinit)

example : deinitReturned.deinit = .returned := by decide +kernel

theorem deinit_leaves_waiting_sample :
    deinitReturned.mMethodTrhead_Running = true ∧
      (deinitReturned.thread = .predicate ∨
        ∃ notified, deinitReturned.thread = .waiting notified) ∧
      deinitReturned.handled = waitingThread.handled :=
  Service.deinit_leaves_waiting (steps_stateAfter (by decide +kernel))
    (by decide +kernel) (by decide +kernel) (by decide +kernel)
    (steps_stateAfter (by decide +kernel))

end ServiceBase

end KvsProducer
