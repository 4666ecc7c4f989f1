import KvsProducer.Lib.Lock
import KvsProducer.ServiceBase.MethodThread

/-!
# Every item is handled once, in order

The mutex guards the queue, except for the `clear` of the destructor, which
comes when nothing is taken any more.  What has been handled, the item in hand
and the queue are the items in the order in which they were enqueued.  A
notification is given in the critical section of the `push_back`, so the method
thread does not wait for one while there is an item.
-/

namespace KvsProducer

namespace ServiceBase

open TransitionSystem

/-- The thread is between taking the mutex and giving it back. -/
def ThreadPc.Locked : ThreadPc → Prop
  | .checkEmpty | .predicate | .recheck | .checkStop | .take => True
  | _ => False

def CallPc.Locked : CallPc → Prop
  | .push _ | .notify | .unlock => True
  | _ => False

/-- The destructor has set `mStop`. -/
def DestructorPc.Stored : DestructorPc → Prop
  | .lock | .store => False
  | _ => True

/-- The item that has left the queue and is not handled yet. -/
def ThreadPc.inHand : ThreadPc → List MethodItem
  | .handling item => [item]
  | _ => []

/-- `Dequeue` has seen an item in the queue, or the stop. -/
def ThreadPc.SawItem : ThreadPc → Prop
  | .recheck | .checkStop | .take => True
  | _ => False

@[simp] theorem ThreadPc.notified_locked {pc : ThreadPc} :
    pc.notified.Locked ↔ pc.Locked := by
  cases pc <;> simp [notified, Locked]

@[simp] theorem ThreadPc.notified_inHand {pc : ThreadPc} :
    pc.notified.inHand = pc.inHand := by
  cases pc <;> rfl

@[simp] theorem ThreadPc.notified_sawItem {pc : ThreadPc} :
    pc.notified.SawItem ↔ pc.SawItem := by
  cases pc <;> simp [notified, SawItem]

@[simp] theorem ThreadPc.notified_eq_take {pc : ThreadPc} :
    pc.notified = .take ↔ pc = .take := by
  cases pc <;> simp [notified]

@[simp] theorem ThreadPc.notified_ne_waiting {pc : ThreadPc} :
    pc.notified ≠ .waiting false := by
  cases pc <;> simp [notified]

namespace Service

/-- The parties in their critical sections. -/
def Holds (service : Service) : Party → Prop
  | .thread => service.thread.Locked
  | .call index => ∃ pc, service.calls[index]? = some pc ∧ pc.Locked
  | .destructor => service.destructor = .store

/-- The mutex is held by the party that is in its critical section. -/
def Guarded (service : Service) : Prop :=
  ∀ party, service.Holds party ↔ service.mQueueMutex = some party

/-- What relates the queue, the histories and the threads. -/
structure Delivering (service : Service) : Prop where
  guarded : service.Guarded
  stored : service.mStop = true ↔ service.destructor.Stored
  early : service.thread = .take → service.mStop = false
  saw : service.thread.SawItem → service.mStop = true ∨ service.mQueue ≠ []
  taken : service.handled ++ service.thread.inHand <+: service.enqueued
  kept : service.mStop = false →
    service.enqueued =
      service.handled ++ service.thread.inHand ++ service.mQueue
  awake : service.thread = .waiting false → service.mQueue ≠ [] →
    ∃ index : Nat, service.calls[index]? = some .notify
  awakeStopped : service.thread = .waiting false → service.mStop = true →
    service.destructor = .notify

variable {service target final : Service} {party other : Party}

theorem Guarded.guards (guarded : service.Guarded) :
    Lock.Guards service.mQueueMutex service.Holds :=
  fun party => (guarded party).mp

theorem Guarded.acquire (guarded : service.Guarded)
    (free : service.mQueueMutex = none) (inside : target.Holds party)
    (others : ∀ other, other ≠ party → (target.Holds other ↔
      service.Holds other))
    (owns : target.mQueueMutex = some party) : target.Guarded := by
  intro other
  rw [owns, Option.some.injEq]
  by_cases same : other = party
  · subst same
    exact ⟨fun _ => rfl, fun _ => inside⟩
  · rw [others other same]
    constructor
    · exact fun holds => absurd holds (guarded.guards.outside free)
    · exact fun equal => absurd equal.symm same

theorem Guarded.release (guarded : service.Guarded)
    (held : service.Holds party) (left : ¬ target.Holds party)
    (others : ∀ other, other ≠ party → (target.Holds other ↔
      service.Holds other))
    (free : target.mQueueMutex = none) : target.Guarded := by
  intro other
  rw [free]
  constructor
  · intro holds
    by_cases same : other = party
    · exact absurd (same ▸ holds) left
    · rw [others other same] at holds
      exact absurd (guarded.guards.exclusive holds held) same
  · intro equal
    cases equal

theorem Guarded.keep (guarded : service.Guarded)
    (same : ∀ other, target.Holds other ↔ service.Holds other)
    (owner : target.mQueueMutex = service.mQueueMutex) : target.Guarded := by
  intro other
  rw [same, owner]
  exact guarded other

theorem initial_delivering : initial.Delivering where
  guarded party := by
    cases party <;> simp [Holds, initial, ThreadPc.Locked]
  stored := by simp [initial, DestructorPc.Stored]
  early := by simp [initial]
  saw := by simp [initial, ThreadPc.SawItem]
  taken := by simp [initial, ThreadPc.inHand]
  kept := by simp [initial, ThreadPc.inHand]
  awake := by simp [initial]
  awakeStopped := by simp [initial]

/-! ### The steps keep it -/

theorem ThreadStep.frame (step : ThreadStep service target) :
    target.calls = service.calls ∧ target.destructor = service.destructor ∧
      target.mStop = service.mStop ∧ target.enqueued = service.enqueued := by
  cases step <;> exact ⟨rfl, rfl, rfl, rfl⟩

theorem ThreadStep.others (step : ThreadStep service target)
    (different : other ≠ .thread) :
    target.Holds other ↔ service.Holds other := by
  obtain ⟨calls, destructor, -⟩ := step.frame
  cases other with
  | thread => exact absurd rfl different
  | call index => rw [Holds, Holds, calls]
  | destructor => rw [Holds, Holds, destructor]

theorem Guarded.threadStep (guarded : service.Guarded)
    (step : ThreadStep service target) : target.Guarded := by
  have others (other : Party) (different : other ≠ .thread) :=
    step.others different
  have keep (owner : target.mQueueMutex = service.mQueueMutex)
      (own : target.thread.Locked ↔ service.thread.Locked) :
      target.Guarded := by
    apply guarded.keep _ owner
    intro other
    by_cases same : other = .thread
    · subst same
      exact own
    · exact others other same
  have release (locked : service.thread.Locked)
      (left : ¬ target.thread.Locked) (free : target.mQueueMutex = none) :
      target.Guarded :=
    @Guarded.release _ _ .thread guarded locked left others free
  have acquire (free : service.mQueueMutex = none)
      (inside : target.thread.Locked)
      (owns : target.mQueueMutex = some .thread) : target.Guarded :=
    @Guarded.acquire _ _ .thread guarded free inside others owns
  cases step
  case lock locking free => exact acquire free trivial rfl
  case wake waiting free => exact acquire free trivial rfl
  case wait testing live empty =>
      apply release _ id rfl
      rw [testing]
      trivial
  case giveUp checking empty =>
      apply release _ id rfl
      rw [checking]
      trivial
  case drop checking stopped =>
      apply release _ id rfl
      rw [checking]
      trivial
  case take item rest taking items =>
      apply release _ id rfl
      rw [taking]
      trivial
  all_goals
    apply keep rfl
    simp [*, ThreadPc.Locked]

theorem CallStep.others {index : Nat} {pc : CallPc}
    (step : CallStep service index pc target)
    (different : other ≠ .call index) :
    target.Holds other ↔ service.Holds other := by
  have calls (place : Nat) (elsewhere : place ≠ index) :
      target.calls[place]? = service.calls[place]? := by
    cases step <;> exact List.getElem?_set_ne elsewhere.symm
  cases other with
  | thread => cases step <;> simp [Holds, setCall]
  | call place =>
      have elsewhere : place ≠ index := by
        intro same
        exact different (congrArg Party.call same)
      rw [Holds, Holds, calls place elsewhere]
  | destructor => cases step <;> simp [Holds, setCall]

theorem Guarded.callStep {index : Nat} {pc : CallPc}
    (guarded : service.Guarded) (calling : service.calls[index]? = some pc)
    (step : CallStep service index pc target) : target.Guarded := by
  have others (other : Party) (different : other ≠ .call index) :=
    step.others different
  have here (after : CallPc) :
      (service.setCall index after).calls[index]? = some after := by
    obtain ⟨within, -⟩ := List.getElem?_eq_some_iff.mp calling
    exact List.getElem?_set_self within
  have holds (locked : pc.Locked) : service.Holds (.call index) :=
    ⟨pc, calling, locked⟩
  have keep (locked : pc.Locked) (inside : target.Holds (.call index))
      (owner : target.mQueueMutex = service.mQueueMutex) :
      target.Guarded := by
    apply guarded.keep _ owner
    intro other
    by_cases same : other = .call index
    · subst same
      exact ⟨fun _ => holds locked, fun _ => inside⟩
    · exact others other same
  cases step
  case lock item free =>
      apply @Guarded.acquire _ _ (.call index) guarded free _ others rfl
      exact ⟨.push item, here _, trivial⟩
  case push item => exact keep trivial ⟨.notify, here _, trivial⟩ rfl
  case notify => exact keep trivial ⟨.unlock, here _, trivial⟩ rfl
  case unlock =>
      apply @Guarded.release _ _ (.call index) guarded (holds trivial) _
        others rfl
      intro inside
      obtain ⟨after, found, locked⟩ := inside
      have same : some CallPc.returned = some after :=
        (here .returned).symm.trans found
      cases same
      exact locked

theorem DestructorStep.others (step : DestructorStep service target)
    (different : other ≠ .destructor) :
    target.Holds other ↔ service.Holds other := by
  cases other with
  | thread => cases step <;> simp [Holds]
  | call index => cases step <;> rfl
  | destructor => exact absurd rfl different

theorem Guarded.destructorStep (guarded : service.Guarded)
    (step : DestructorStep service target) : target.Guarded := by
  have others (other : Party) (different : other ≠ .destructor) :=
    step.others different
  have keep (outside : service.destructor ≠ .store)
      (stays : target.destructor ≠ .store)
      (owner : target.mQueueMutex = service.mQueueMutex) :
      target.Guarded := by
    apply guarded.keep _ owner
    intro other
    by_cases same : other = .destructor
    · subst same
      exact iff_of_false stays outside
    · exact others other same
  cases step
  case lock locking free =>
      exact @Guarded.acquire _ _ .destructor guarded free rfl others rfl
  case store storing =>
      exact @Guarded.release _ _ .destructor guarded storing nofun others rfl
  case notify notifying => exact keep (by simp [notifying]) nofun rfl
  case clear clearing => exact keep (by simp [clearing]) nofun rfl

theorem Delivering.threadStep (delivering : service.Delivering)
    (step : ThreadStep service target) : target.Delivering := by
  have guarded := delivering.guarded.threadStep step
  obtain ⟨-, stored, early, saw, taken, kept, awake, awakeStopped⟩ := delivering
  cases step
  case start created =>
      rw [created] at taken kept
      exact ⟨guarded, stored, nofun, nofun, taken, kept, nofun, nofun⟩
  case leaveLoop testing stopped =>
      rw [testing] at taken kept
      exact ⟨guarded, stored, nofun, nofun, taken, kept, nofun, nofun⟩
  case enterLoop testing live =>
      rw [testing] at taken kept
      exact ⟨guarded, stored, nofun, nofun, taken, kept, nofun, nofun⟩
  case lock locking free =>
      rw [locking] at taken kept
      exact ⟨guarded, stored, nofun, nofun, taken, kept, nofun, nofun⟩
  case seeEmpty checking empty =>
      rw [checking] at taken kept
      exact ⟨guarded, stored, nofun, nofun, taken, kept, nofun, nofun⟩
  case seeItems checking items =>
      rw [checking] at taken kept
      exact ⟨guarded, stored, nofun, fun _ => .inr items, taken, kept, nofun,
        nofun⟩
  case passPredicate testing passes =>
      rw [testing] at taken kept
      exact ⟨guarded, stored, nofun, fun _ => passes, taken, kept, nofun,
        nofun⟩
  case wait testing live empty =>
      rw [testing] at taken kept
      refine ⟨guarded, stored, nofun, nofun, taken, kept, ?_, ?_⟩
      · exact fun _ items => absurd empty items
      · intro _ stopped
        exact absurd (live.symm.trans stopped) nofun
  case wake waiting free =>
      rw [waiting] at taken kept
      exact ⟨guarded, stored, nofun, nofun, taken, kept, nofun, nofun⟩
  case giveUp checking empty =>
      rw [checking] at taken kept
      exact ⟨guarded, stored, nofun, nofun, taken, kept, nofun, nofun⟩
  case passRecheck checking items =>
      rw [checking] at taken kept
      exact ⟨guarded, stored, nofun, fun _ => .inr items, taken, kept, nofun,
        nofun⟩
  case drop checking stopped =>
      rw [checking] at taken
      refine ⟨guarded, stored, nofun, nofun, taken, ?_, nofun, nofun⟩
      intro live
      exact absurd (live.symm.trans stopped) nofun
  case passStop checking live =>
      rw [checking] at taken kept saw
      exact ⟨guarded, stored, fun _ => live, fun _ => saw trivial, taken, kept,
        nofun, nofun⟩
  case take item rest taking items =>
      rw [taking] at kept
      have parts := kept (early taking)
      rw [items] at parts
      refine ⟨guarded, stored, nofun, nofun, ⟨rest, ?_⟩, ?_, nofun, nofun⟩
      · simp [parts, ThreadPc.inHand]
      · intro _
        simp [parts, ThreadPc.inHand]
  case handle item handling =>
      rw [handling] at taken kept
      refine ⟨guarded, stored, nofun, nofun, ?_, ?_, nofun, nofun⟩
      · simpa [ThreadPc.inHand] using taken
      · simpa [ThreadPc.inHand] using kept
  case leave leaving =>
      rw [leaving] at taken kept
      exact ⟨guarded, stored, nofun, nofun, taken, kept, nofun, nofun⟩

theorem Delivering.callStep {index : Nat} {pc : CallPc}
    (delivering : service.Delivering)
    (calling : service.calls[index]? = some pc)
    (step : CallStep service index pc target) : target.Delivering := by
  have guarded := delivering.guarded.callStep calling step
  obtain ⟨within, -⟩ := List.getElem?_eq_some_iff.mp calling
  have elsewhere {place : Nat} {after : CallPc}
      (notifying : service.calls[place]? = some .notify)
      (other : pc ≠ .notify) :
      (service.setCall index after).calls[place]? = some .notify := by
    have different : index ≠ place := by
      intro same
      subst same
      exact other (Option.some.inj (calling.symm.trans notifying))
    exact (List.getElem?_set_ne different).trans notifying
  obtain ⟨-, stored, early, saw, taken, kept, awake, awakeStopped⟩ := delivering
  cases step
  case lock item free =>
      refine ⟨guarded, stored, early, saw, taken, kept, ?_, awakeStopped⟩
      intro waiting items
      obtain ⟨place, notifying⟩ := awake waiting items
      exact ⟨place, elsewhere notifying nofun⟩
  case push item =>
      refine ⟨guarded, stored, early, ?_, ?_, ?_, ?_, awakeStopped⟩
      · exact fun _ => .inr (by simp)
      · exact taken.trans (List.prefix_append _ _)
      · intro live
        have parts := kept live
        calc service.enqueued ++ [item]
            = (service.handled ++ service.thread.inHand ++ service.mQueue) ++
                [item] := by rw [← parts]
          _ = service.handled ++ service.thread.inHand ++
                (service.mQueue ++ [item]) := List.append_assoc _ _ _
      · exact fun _ _ => ⟨index, List.getElem?_set_self within⟩
  case notify =>
      have hand : service.thread.notified.inHand = service.thread.inHand :=
        ThreadPc.notified_inHand
      refine ⟨guarded, stored, ?_, ?_, ?_, ?_, ?_, ?_⟩
      · exact fun taking => early (ThreadPc.notified_eq_take.mp taking)
      · exact fun found => saw (ThreadPc.notified_sawItem.mp found)
      · exact hand ▸ taken
      · exact hand ▸ kept
      · exact fun waiting => absurd waiting ThreadPc.notified_ne_waiting
      · exact fun waiting => absurd waiting ThreadPc.notified_ne_waiting
  case unlock =>
      refine ⟨guarded, stored, early, saw, taken, kept, ?_, awakeStopped⟩
      intro waiting items
      obtain ⟨place, notifying⟩ := awake waiting items
      exact ⟨place, elsewhere notifying nofun⟩

theorem Delivering.destructorStep (delivering : service.Delivering)
    (step : DestructorStep service target) : target.Delivering := by
  have guarded := delivering.guarded.destructorStep step
  have guards := delivering.guarded.guards
  obtain ⟨-, stored, early, saw, taken, kept, awake, awakeStopped⟩ := delivering
  cases step
  case lock locking free =>
      refine ⟨guarded, ?_, early, saw, taken, kept, awake, ?_⟩
      · simpa [locking, DestructorPc.Stored] using stored
      · intro waiting stopped
        have notifying := awakeStopped waiting stopped
        rw [locking] at notifying
        cases notifying
  case store storing =>
      refine ⟨guarded, ?_, ?_, fun _ => .inl rfl, taken, nofun, awake,
        fun _ _ => rfl⟩
      · exact iff_of_true rfl trivial
      · intro taking
        have holds : service.Holds .thread := by
          change service.thread = .take at taking
          rw [Holds, taking]
          trivial
        have same := @Lock.Guards.exclusive Party _ _ .thread .destructor
          guards holds storing
        cases same
  case notify notifying =>
      have stopped : service.mStop = true := by
        rw [stored, notifying]
        trivial
      have hand : service.thread.notified.inHand = service.thread.inHand :=
        ThreadPc.notified_inHand
      refine ⟨guarded, ?_, ?_, ?_, ?_, ?_, ?_, ?_⟩
      · exact iff_of_true stopped trivial
      · exact fun taking => early (ThreadPc.notified_eq_take.mp taking)
      · exact fun _ => .inl stopped
      · exact hand ▸ taken
      · exact hand ▸ kept
      · exact fun waiting => absurd waiting ThreadPc.notified_ne_waiting
      · exact fun waiting => absurd waiting ThreadPc.notified_ne_waiting
  case clear clearing =>
      have stopped : service.mStop = true := by
        rw [stored, clearing]
        trivial
      refine ⟨guarded, ?_, early, fun _ => .inl stopped, taken, ?_, ?_, ?_⟩
      · exact iff_of_true stopped trivial
      · exact fun live => absurd (stopped.symm.trans live) nofun
      · exact fun _ items => absurd rfl items
      · intro waiting _
        have notifying := awakeStopped waiting stopped
        rw [clearing] at notifying
        cases notifying

theorem Delivering.next {action : Action} (delivering : service.Delivering)
    (step : service.next action = some target) : target.Delivering := by
  cases next_step step with
  | thread step => exact delivering.threadStep step
  | wakeSpuriously waiting =>
      obtain ⟨guarded, stored, early, saw, taken, kept, awake, awakeStopped⟩ :=
        delivering
      rw [waiting] at taken kept
      refine ⟨guarded.keep ?_ rfl, stored, nofun, nofun, taken, kept, nofun,
        nofun⟩
      intro other
      cases other with
      | thread =>
          rw [Holds, Holds, waiting]
          rfl
      | call index => rfl
      | destructor => rfl
  | call =>
      obtain ⟨guarded, stored, early, saw, taken, kept, awake, awakeStopped⟩ :=
        delivering
      refine ⟨guarded.keep ?_ rfl, stored, early, saw, taken, kept, ?_,
        awakeStopped⟩
      · intro other
        cases other with
        | thread => rfl
        | call index =>
            simp only [Holds, List.getElem?_append]
            split
            · rfl
            · rename_i item outside
              have missing : service.calls[index]? = none := by
                simpa using outside
              rw [missing]
              constructor
              · intro ⟨pc, found, locked⟩
                have fresh : pc = .lock item := by
                  simpa using List.mem_of_getElem? found
                rw [fresh] at locked
                exact locked.elim
              · intro ⟨pc, found, _⟩
                cases found
        | destructor => rfl
      · intro waiting items
        obtain ⟨place, notifying⟩ := awake waiting items
        obtain ⟨within, -⟩ := List.getElem?_eq_some_iff.mp notifying
        exact ⟨place, (List.getElem?_append_left within).trans notifying⟩
  | caller calling step => exact delivering.callStep calling step
  | destructor step => exact delivering.destructorStep step
  | stop storing =>
      obtain ⟨guarded, stored, early, saw, taken, kept, awake, awakeStopped⟩ :=
        delivering
      refine ⟨guarded.keep ?_ rfl, stored, early, saw, taken, kept, awake,
        awakeStopped⟩
      intro other
      cases other <;> rfl
  | poll =>
      obtain ⟨guarded, stored, early, saw, taken, kept, awake, awakeStopped⟩ :=
        delivering
      refine ⟨guarded.keep ?_ rfl, stored, early, saw, taken, kept, awake,
        awakeStopped⟩
      intro other
      cases other <;> rfl

theorem Delivering.run {start : Service} (delivering : start.Delivering)
    (run : Reaches Service.next start final) : final.Delivering := by
  apply run.invariant Delivering delivering
  intro service action target held _ step
  exact held.next step

/-- While nobody holds the mutex, a thread that waits for a notification has
nothing to do. -/
theorem Delivering.idle (delivering : service.Delivering)
    (waiting : service.thread = .waiting false)
    (free : service.mQueueMutex = none) : service.mQueue = [] := by
  by_contra items
  obtain ⟨index, notifying⟩ := delivering.awake waiting items
  have holds : service.Holds (.call index) := ⟨.notify, notifying, trivial⟩
  exact delivering.guarded.guards.outside free holds

/-- In every run, what has been handled and the item in hand are the first items
that were enqueued, and the others are in the queue until the queue is
destroyed.  No item waits for a notification that has been given, and no item is
taken from an empty queue. -/
theorem items_delivered (run : Reaches next initial final) :
    final.handled ++ final.thread.inHand <+: final.enqueued ∧
      (final.mStop = false →
        final.enqueued =
          final.handled ++ final.thread.inHand ++ final.mQueue) ∧
      (final.thread = .waiting false → final.mQueueMutex = none →
        final.mStop = false → final.handled = final.enqueued) ∧
      (final.thread = .take → final.mQueue ≠ []) := by
  have delivering := initial_delivering.run run
  refine ⟨delivering.taken, delivering.kept, ?_, ?_⟩
  · intro waiting free live
    have parts := delivering.kept live
    rw [delivering.idle waiting free, waiting] at parts
    simpa [ThreadPc.inHand] using parts.symm
  · intro taking
    rcases delivering.saw (taking ▸ trivial) with stopped | items
    · exact absurd ((delivering.early taking).symm.trans stopped) nofun
    · exact items

end Service

/-- Two calls; the second one puts its item into the queue first, and the first
one while this item is handled.  Then the thread waits. -/
def twoCalls (first second : MethodItem) : List Action :=
  [.call first, .call second, .thread] ++ List.replicate 4 (.caller 1) ++
    List.replicate 6 .thread ++ List.replicate 4 (.caller 0) ++
    List.replicate 12 .thread

def sampleItem : MethodItem := ⟨bytes "cmd1", bytes "str"⟩

def otherItem : MethodItem := ⟨bytes "cmd2", bytes "str"⟩

/-- The state after the two calls. -/
def afterTwoCalls : Service :=
  stateAfter Service.next (fun _ _ => True) .initial
    (twoCalls sampleItem otherItem)

theorem items_delivered_twoCalls :
    afterTwoCalls.handled = afterTwoCalls.enqueued ∧
      afterTwoCalls.enqueued = [otherItem, sampleItem] := by
  have run : Reaches Service.next .initial afterTwoCalls :=
    steps_stateAfter (by decide +kernel)
  obtain ⟨-, -, idle, -⟩ := Service.items_delivered run
  exact ⟨idle (by decide +kernel) (by decide +kernel) (by decide +kernel),
    by decide +kernel⟩

end ServiceBase

end KvsProducer
