import KvsProducer.CurlApi.Silence

/-!
# The client shutdown

`curlApiCallbacksShutdown` marks the streams that have an active request when
it starts, and relies on these marks alone to keep API calls out.  They stay,
and calls on these streams are turned away.  A call on a stream without a mark
gets in, also after the polls have found the collections empty, and a mark that
is there already makes the shutdown fail.
-/

namespace KvsProducer

namespace CurlApi

open TransitionSystem

/-- The poll of the client shutdown has found the collection empty. -/
def ShutdownPc.HasDrained (collection : Collection) (pc : ShutdownPc) : Prop :=
  collection.drained ≤ pc.stage ∨ pc = .returned .performed

instance (collection : Collection) (pc : ShutdownPc) :
    Decidable (pc.HasDrained collection) :=
  inferInstanceAs (Decidable (_ ∨ _))

/-- After the client shutdown has found the collection of a call empty, the
call does not pass its look at `pStreamsShuttingDown`, unless its stream is one
of those that had an active request when the shutdown marked them. -/
def ClientUndisturbed (call : ShutdownId) (requested : List StreamHandle)
    (state : State) : Action → Prop
  | .api id .checkShuttingDown =>
      (state.jobs id).streamHandle ∉ requested →
        state.streamsShuttingDown (state.jobs id).streamHandle = false →
          ¬ (state.shutdowns call).pc.HasDrained (state.jobs id).collection
  | _ => True

/-- The call has passed the marking of the streams, which has not failed. -/
def ShutdownPc.HasMarked (pc : ShutdownPc) : Prop :=
  0 < pc.stage ∨ pc = .returned .performed ∨ pc = .returned .tooMany

namespace State

variable {state target : State} {id : JobId} {call : ShutdownId}

/-- The stream is marked, and no shutdown of the stream is in progress, which
would remove the mark. -/
structure Barred (streamHandle : StreamHandle) (state : State) : Prop where
  marked : state.streamsShuttingDown streamHandle = true
  alone : ∀ other resetStream,
    (state.shutdowns other).kind = .stream streamHandle resetStream →
    (state.shutdowns other).pc.stage = 0

theorem Barred.next {streamHandle : StreamHandle} {action : Action}
    (barred : Barred streamHandle state)
    (step : state.next action = some target) : Barred streamHandle target := by
  obtain ⟨marked, alone⟩ := barred
  cases next_cases step with
  | api step =>
      obtain ⟨shutdowns, marks, -⟩ := step.frame
      exact ⟨marks ▸ marked, shutdowns ▸ alone⟩
  | handler step =>
      obtain ⟨shutdowns, marks, -⟩ := step.frame
      exact ⟨marks ▸ marked, shutdowns ▸ alone⟩
  | @shutdown id own _ step =>
      constructor
      case marked =>
          apply step.mark_kept marked
          intro resetStream kind finishing
          have idle := alone id resetStream kind
          simp [finishing] at idle
      case alone =>
          intro other resetStream kind
          by_cases same : other = id
          · subst same
            by_contra performing
            obtain ⟨before, earlier | unmarked⟩ :=
              step.performing_cases kind (Nat.pos_of_ne_zero performing)
            · have idle := alone other resetStream before
              omega
            · rw [marked] at unmarked
              cases unmarked.1
          · rw [step.shutdowns_of_ne same] at kind ⊢
            exact alone other resetStream kind

/-- What holds of a client shutdown that has marked its streams: they are
barred; past the poll of a collection the collection is empty and no call is on
its way in. -/
structure Draining (call : ShutdownId) (requested : List StreamHandle)
    (state : State) : Prop where
  client : (state.shutdowns call).kind = .client
  past : (state.shutdowns call).pc.HasMarked
  barred : ∀ streamHandle ∈ requested, Barred streamHandle state
  empty : ∀ collection,
    (state.shutdowns call).pc.HasDrained collection →
    state.active collection = []
  closed : ∀ collection job,
    (state.shutdowns call).pc.HasDrained collection →
    (state.jobs job).collection = collection →
    ¬ (state.jobs job).call.pc.Admitted

variable {requested : List StreamHandle}

theorem Draining.apiStep {action : ApiAction}
    (draining : Draining call requested state)
    (undisturbed : ClientUndisturbed call requested state (.api id action))
    (taken : state.next (.api id action) = some target)
    (step : ApiStep state id action target) :
    Draining call requested target where
  client := step.frame.1 ▸ draining.client
  past := step.frame.1 ▸ draining.past
  barred streamHandle listed := (draining.barred streamHandle listed).next taken
  empty := by
    intro collection drained
    rw [step.frame.1] at drained
    have before := draining.empty collection drained
    rcases step.active_cases with unchanged | ⟨created, -, -, inserted⟩
    · rw [unchanged]
      exact before
    · have apart : collection ≠ (state.jobs id).collection := by
        intro same
        exact draining.closed collection id drained same.symm (.inr created)
      rw [inserted, Function.update_of_ne apart]
      exact before
  closed := by
    intro collection job drained sameCollection admitted
    rw [step.frame.1] at drained
    obtain ⟨sameApi, -, before | ⟨rfl, rfl, unmarked⟩⟩ :=
      step.admitted_cases admitted
    · rw [Job.collection, sameApi] at sameCollection
      exact draining.closed collection job drained sameCollection before
    · rw [Job.collection, sameApi] at sameCollection
      subst sameCollection
      by_cases listed : (state.jobs job).streamHandle ∈ requested
      · rw [(draining.barred _ listed).marked] at unmarked
        cases unmarked
      · exact undisturbed listed unmarked drained

theorem Draining.handlerStep {action : HandlerAction}
    (draining : Draining call requested state)
    (taken : state.next (.handler id action) = some target)
    (step : HandlerStep state id action target) :
    Draining call requested target where
  client := step.frame.1 ▸ draining.client
  past := step.frame.1 ▸ draining.past
  barred streamHandle listed := (draining.barred streamHandle listed).next taken
  empty := by
    intro collection drained
    rw [step.frame.1] at drained
    have sublist := step.active_sublist collection
    rw [draining.empty collection drained] at sublist
    exact List.sublist_nil.mp sublist
  closed := by
    intro collection job drained
    rw [step.frame.1] at drained
    rw [Job.collection, step.call_eq]
    exact draining.closed collection job drained

theorem ShutdownStep.hasMarked {action : ShutdownAction}
    (step : ShutdownStep state id action target)
    (client : (state.shutdowns id).kind = .client)
    (past : (state.shutdowns id).pc.HasMarked) :
    (target.shutdowns id).kind = .client ∧
      (target.shutdowns id).pc.HasMarked := by
  cases step
  case acquire collection acquiring lockFree =>
      have bounds := collection.taken_bounds
      refine ⟨by simp [client], .inl ?_⟩
      simp
      omega
  case visit collection job rest visiting =>
      have bounds := collection.taken_bounds
      refine ⟨by simp [client], .inl ?_⟩
      simp
      omega
  case release collection visiting =>
      have after :=
        ShutdownPc.stage_afterVisit (state.shutdowns id).kind collection
      refine ⟨by simp [client], .inl ?_⟩
      simp only [setLock_shutdowns, setShutdown_shutdowns, Function.update_self]
      omega
  case poll collection polling lockFree gone =>
      have bounds := collection.drained_bounds
      refine ⟨by simp [client], .inl ?_⟩
      simp only [setShutdown_shutdowns, Function.update_self,
        ShutdownPc.stage_afterPoll]
      omega
  all_goals simp_all [ShutdownPc.HasMarked]

/-- A client shutdown whose poll has found the collection empty had found it
so before the step, or the step is that poll. -/
theorem ShutdownStep.hasDrained_cases {action : ShutdownAction}
    {collection : Collection}
    (step : ShutdownStep state id action target)
    (client : (target.shutdowns id).kind = .client)
    (drained : (target.shutdowns id).pc.HasDrained collection) :
    (state.shutdowns id).kind = .client ∧
      ((state.shutdowns id).pc.HasDrained collection ∨
        state.LockFree collection ∧
          state.targets (state.shutdowns id).kind collection = []) := by
  rcases drained with late | returned
  · obtain ⟨keptKind, before | poll⟩ := step.drained_cases late
    · exact ⟨keptKind ▸ client, .inl (.inl before)⟩
    · exact ⟨keptKind ▸ client, .inr poll⟩
  · have bounds := collection.drained_bounds
    cases step
    case finishStream streamHandle resetStream finishing kind =>
        simp [kind] at client
    case finishClient finishing kind =>
        exact ⟨kind, .inl (.inl (by simp [finishing, bounds.2]))⟩
    case release released visiting =>
        cases released <;> simp [ShutdownPc.afterVisit] at returned
        split at returned <;> simp at returned
    case poll polled polling lockFree gone =>
        cases polled <;> simp [ShutdownPc.afterPoll] at returned
    all_goals simp at returned

theorem targets_client {collection : Collection} :
    state.targets .client collection = state.active collection := by
  simp [targets, Targets, ShutdownKind.target]

theorem Coherent.activeStreams_nodup (coherent : state.Coherent) :
    state.activeStreams.Nodup := by
  apply List.Nodup.map_on _ (coherent.distinct _)
  intro one oneActive other otherActive same
  exact coherent.streams one other oneActive otherActive same

/-- A client shutdown that marks its streams, none of which is marked, drains the
collections from then on. -/
theorem mark_draining (coherent : state.Coherent) (shutting : state.Shutting)
    (unmarked : ∀ streamHandle ∈ state.activeStreams,
      state.streamsShuttingDown streamHandle = false)
    (marks : state.next (.shutdown call .mark) = some target) :
    Draining call state.activeStreams target := by
  have succeeds :=
    markStreams_succeeds coherent.activeStreams_nodup unmarked
  have undrained (collection : Collection) :
      ¬ (ShutdownPc.acquiring .activeRequests).HasDrained collection := by
    have bounds := collection.drained_bounds
    simp only [ShutdownPc.HasDrained, ShutdownPc.stage,
      Collection.taken_activeRequests, reduceCtorEq, or_false]
    omega
  have step : ShutdownStep state call .mark target := by
    cases next_cases marks with
    | shutdown step => exact step
  cases step
  case failMark marked kind marking failed =>
      rw [failed] at succeeds
      cases succeeds
  case mark marked kind marking succeeded =>
      constructor
      case client => simp [kind]
      case past => exact .inl (by simp)
      case barred =>
          intro streamHandle listed
          constructor
          case marked =>
              have marks := markStreams_marks succeeds streamHandle listed
              rwa [succeeded] at marks
          case alone =>
              intro other resetStream otherKind
              by_cases same : other = call
              · subst same
                simp [kind] at otherKind
              · simp only [setShutdown_shutdowns,
                  Function.update_of_ne same] at otherKind ⊢
                by_contra performing
                have earlier := shutting.marked other streamHandle resetStream
                  otherKind (Nat.pos_of_ne_zero performing)
                rw [unmarked streamHandle listed] at earlier
                cases earlier
      case empty =>
          intro collection drained
          simp [undrained] at drained
      case closed =>
          intro collection job drained
          simp [undrained] at drained

theorem Draining.shutdownStep {action : ShutdownAction}
    (draining : Draining call requested state)
    (coherent : state.Coherent)
    (taken : state.next (.shutdown id action) = some target)
    (step : ShutdownStep state id action target) :
    Draining call requested target where
  client := by
    by_cases same : call = id
    · subst same
      exact (step.hasMarked draining.client draining.past).1
    · rw [step.shutdowns_of_ne same]
      exact draining.client
  past := by
    by_cases same : call = id
    · subst same
      exact (step.hasMarked draining.client draining.past).2
    · rw [step.shutdowns_of_ne same]
      exact draining.past
  barred streamHandle listed := (draining.barred streamHandle listed).next taken
  empty := by
    intro collection drained
    rw [step.frame.1]
    by_cases same : call = id
    · subst same
      have client := (step.hasMarked draining.client draining.past).1
      obtain ⟨before, earlier | ⟨-, gone⟩⟩ :=
        step.hasDrained_cases client drained
      · exact draining.empty collection earlier
      · rwa [before, targets_client] at gone
    · rw [step.shutdowns_of_ne same] at drained
      exact draining.empty collection drained
  closed := by
    intro collection job drained
    rw [Job.collection, step.call_eq]
    intro sameCollection admitted
    by_cases same : call = id
    · subst same
      have client := (step.hasMarked draining.client draining.past).1
      obtain ⟨-, earlier | ⟨lockFree, -⟩⟩ := step.hasDrained_cases client drained
      · exact draining.closed collection job earlier sameCollection admitted
      · have held := coherent.apiHolds job admitted.holdsLock
        rw [Job.collection, sameCollection, lockFree] at held
        cases held
    · rw [step.shutdowns_of_ne same] at drained
      exact draining.closed collection job drained sameCollection admitted

end State

instance (call : ShutdownId) (requested : List StreamHandle) (state : State) :
    DecidablePred (ClientUndisturbed call requested state)
  | .api _ .checkShuttingDown => inferInstanceAs (Decidable (_ → _ → _))
  | .api _ (.invoke _ _ _) | .api _ .lockCollection
  | .api _ (.createRequest _) | .api _ .abandonRequest
  | .api _ (.createThread _)
  | .api _ (.register _) | .api _ .releaseStart | .api _ .cancelThread
  | .api _ .freeRequest | .api _ .unlockCollection
  | .shutdown _ _ | .handler _ _ => .isTrue trivial

/-- A client shutdown with an active request, up to its marking. -/
def clientShutdownStart : List Action :=
  launch 0 .tagResource 7 ++
    ([.shutdown 0 .invokeClient, .shutdown 0 .check,
       .shutdown 0 .setShutdown] : List Action)

/-- The rest of it, up to its return; a call on the same stream comes later. -/
def clientShutdownRest : List Action :=
  [.shutdown 0 .acquire, .shutdown 0 .visit,
    .shutdown 0 .release, .shutdown 0 .acquire, .shutdown 0 .release,
    .handler 0 .acquireStart, .handler 0 (.prepare .nullArg),
    .handler 0 .readTerminating, .handler 0 .remove,
    .shutdown 0 .poll, .shutdown 0 .poll, .shutdown 0 .finish,
    .api 2 (.invoke .describeStream 7 0), .api 2 .lockCollection,
    .api 2 .checkShuttingDown, .api 2 .freeRequest, .api 2 .unlockCollection]

def clientShutdownRun : List Action :=
  clientShutdownStart ++ .shutdown 0 .mark :: clientShutdownRest

/-- A call on a new stream after the client shutdown has returned. -/
def callAfterShutdown : List Action :=
  clientShutdownRun ++ launch 1 .createStream 8

/-- A client shutdown that meets the mark of a stream shutdown in progress. -/
def meetsMark : List Action :=
  launch 0 .tagResource 7 ++
    ([.shutdown 1 (.invokeStream 7 false), .shutdown 1 .check,
       .shutdown 0 .invokeClient, .shutdown 0 .check, .shutdown 0 .setShutdown,
       .shutdown 0 .mark] : List Action)

end CurlApi

end KvsProducer
