import KvsProducer.CurlApi.Silence

/-!
# The endpoint cache

`getStreamingEndpointCurlHandler` stores its endpoint buffer whenever it
reaches its cleanup with a success status.  The exits on `terminating` have
one without an endpoint, and a cleanup after the shutdown has dropped the entry
puts an entry back.
-/

namespace KvsProducer

namespace CurlApi

open TransitionSystem

/-- `curl_easy_perform` has returned. -/
def HandlerPc.Answered (pc : HandlerPc) : Prop :=
  pc = .performed ∨ pc = .afterCall ∨ pc = .storing ∨ pc = .exiting ∨
    pc = .removing ∨ pc.Removed

/-- The endpoint buffer and the response of a handler of
`getStreamingEndpointCurl` are those of an answered, trustworthy call. -/
structure Job.Faithful (job : Job) : Prop where
  answered : job.handler.transfer ≠ none → job.handler.pc.Answered
  performed : job.call.api = .getStreamingEndpoint →
    job.handler.pc = .performed →
    ∀ transfer ∈ job.handler.transfer, transfer.Trustworthy
  called : job.call.api = .getStreamingEndpoint →
    job.handler.pc = .afterCall →
    ∃ transfer ∈ job.handler.transfer, transfer.Trustworthy ∧
      job.handler.callInfo.responseData = transfer.responseData
  stores : job.handler.pc = .storing →
    job.call.api = .getStreamingEndpoint ∧
    ∃ transfer ∈ job.handler.transfer, transfer.result = .ok ∧
      ∃ text ∈ dataEndpointValues transfer.responseData,
        job.handler.streamingEndpoint = some text

/-- The handler does not see `terminating` set at its checks, and its call is
answered with a trustworthy response. -/
def Job.Answers (job : Job) : HandlerAction → Prop
  | .checkBefore | .checkAfter _ | .checkCompleted _ =>
      job.request.terminating = false
  | .perform transfer => transfer.Trustworthy
  | _ => True

instance (job : Job) : DecidablePred job.Answers
  | .checkBefore | .checkAfter _ | .checkCompleted _ =>
      inferInstanceAs (Decidable (_ = _))
  | .perform transfer => inferInstanceAs (Decidable transfer.Trustworthy)
  | .enter | .log | .acceptCancel | .acquireStart | .prepare _ | .store _
  | .readTerminating | .remove | .notify _ _ | .report => .isTrue trivial

/-- The handlers of `getStreamingEndpointCurl` are answered. -/
def EndpointAnswered (state : State) : Action → Prop
  | .handler id action =>
      (state.jobs id).call.api = .getStreamingEndpoint →
        (state.jobs id).Answers action
  | _ => True

instance (state : State) : DecidablePred (EndpointAnswered state)
  | .handler _ _ => inferInstanceAs (Decidable (_ → _))
  | .api _ _ | .shutdown _ _ => .isTrue trivial

namespace Job.Faithful

variable {job other : Job}

theorem unanswered (faithful : job.Faithful)
    (early : ¬ job.handler.pc.Answered) : job.handler.transfer = none := by
  by_contra transferred
  exact early (faithful.answered transferred)

theorem congr (faithful : job.Faithful)
    (api : other.call.api = job.call.api)
    (pc : other.handler.pc = job.handler.pc)
    (transfer : other.handler.transfer = job.handler.transfer)
    (callInfo : other.handler.callInfo = job.handler.callInfo)
    (endpoint :
      other.handler.streamingEndpoint = job.handler.streamingEndpoint) :
    other.Faithful := by
  obtain ⟨answered, performed, called, stores⟩ := faithful
  constructor
  · rwa [transfer, pc]
  · rwa [api, pc, transfer]
  · rwa [api, pc, transfer, callInfo]
  · rwa [pc, api, transfer, endpoint]

/-- A handler that goes on without an endpoint stays faithful. -/
theorem move (faithful : job.Faithful)
    (transfer : other.handler.transfer = job.handler.transfer)
    (answered : job.handler.pc.Answered → other.handler.pc.Answered)
    (elsewhere : other.handler.pc ≠ .performed ∧
      other.handler.pc ≠ .afterCall ∧ other.handler.pc ≠ .storing) :
    other.Faithful where
  answered left := answered (faithful.answered (transfer ▸ left))
  performed _ performed := (elsewhere.1 performed).elim
  called _ after := (elsewhere.2.1 after).elim
  stores storing := (elsewhere.2.2 storing).elim

end Job.Faithful

namespace State

variable {state target : State} {id : JobId}

/-- The text is a `DataEndpoint` of a completed response to a request of
`getStreamingEndpointCurl` for the stream. -/
def Extracted (state : State) (streamHandle : StreamHandle) (text : Bytes) :
    Prop :=
  ∃ job, (state.jobs job).call.api = .getStreamingEndpoint ∧
    (state.jobs job).call.pc ≠ .idle ∧
    (state.jobs job).streamHandle = streamHandle ∧
    ∃ transfer ∈ (state.jobs job).handler.transfer, transfer.result = .ok ∧
      text ∈ dataEndpointValues transfer.responseData

/-- Every entry of the cache has been extracted for its stream. -/
def CacheExtracted (state : State) : Prop :=
  ∀ streamHandle, ∀ tracker ∈ state.cachedEndpoints streamHandle,
    ∃ text, tracker.streamingEndpoint = some text ∧
      state.Extracted streamHandle text

theorem ApiStep.faithful {action : ApiAction} {job : JobId}
    (faithful : (state.jobs job).Faithful)
    (coherent : state.Coherent)
    (step : ApiStep state id action target) :
    (target.jobs job).Faithful := by
  by_cases same : job = id
  · subst same
    have lifecycle := coherent.lifecycle job
    have unanswered (absent : (state.jobs job).handler.pc = .absent) :
        (state.jobs job).handler.transfer = none := by
      apply faithful.unanswered
      simp [HandlerPc.Answered, HandlerPc.Removed, absent]
    cases step
    case invoke api streamHandle currentTime idle =>
        simp only [Job.Lifecycle, idle] at lifecycle
        constructor <;> simp [unanswered lifecycle, lifecycle]
    case createThread gated live =>
        simp only [Job.Lifecycle, gated] at lifecycle
        constructor <;> simp [unanswered lifecycle]
    all_goals apply faithful.congr <;> simp
  · rwa [step.jobs_of_ne same]

/-- A handler of `getStreamingEndpointCurl` that meets the condition does not
find `terminating` set. -/
theorem not_endpoint_of_terminating {action : HandlerAction}
    (answered : EndpointAnswered state (.handler id action))
    (looks : (state.jobs id).Answers action →
      (state.jobs id).request.terminating = false)
    (terminating : (state.jobs id).request.terminating = true) :
    (state.jobs id).call.api ≠ .getStreamingEndpoint := by
  intro endpoint
  have clear := looks (answered endpoint)
  rw [terminating] at clear
  cases clear

theorem HandlerStep.faithful {action : HandlerAction}
    (faithful : (state.jobs id).Faithful)
    (step : HandlerStep state id action target)
    (answered : EndpointAnswered state (.handler id action)) :
    (target.jobs id).Faithful := by
  cases step
  case enter pc entry allocated next =>
      have unanswered : (state.jobs id).handler.transfer = none := by
        apply faithful.unanswered
        simp [HandlerPc.Answered, HandlerPc.Removed, entry]
      rcases next with rfl | rfl <;> constructor <;> simp [unanswered]
  case skipCall before terminating =>
      have unanswered : (state.jobs id).handler.transfer = none := by
        apply faithful.unanswered
        simp [HandlerPc.Answered, HandlerPc.Removed, before]
      have notEndpoint :=
        not_endpoint_of_terminating answered (fun clear => clear) terminating
      constructor <;> simp [unanswered, notEndpoint]
  case perform transfer inCurl =>
      constructor
      · simp [HandlerPc.Answered]
      · intro endpoint _
        have trustworthy : transfer.Trustworthy :=
          answered (by simpa using endpoint)
        simpa using trustworthy
      · simp
      · simp
  case skipClassify terminated performed terminating =>
      have notEndpoint :=
        not_endpoint_of_terminating answered (fun clear => clear) terminating
      constructor <;> simp [HandlerPc.Answered, notEndpoint]
  case classify terminated transfer performed clear left =>
      have trustworthy (endpoint :
          (state.jobs id).call.api = .getStreamingEndpoint) :
          transfer.Trustworthy :=
        faithful.performed endpoint performed transfer left
      constructor
      · simp [HandlerPc.Answered]
      · simp
      · intro endpoint _
        exact ⟨transfer, by simp [left], trustworthy (by simpa using endpoint),
          by simp⟩
      · simp
  case skipExtract beyond after terminating =>
      have notEndpoint :=
        not_endpoint_of_terminating answered (fun clear => clear) terminating
      constructor <;> simp [HandlerPc.Answered, notEndpoint]
  case extract beyond status endpoint after clear extracted =>
      rw [setJob_jobs, Function.update_self]
      by_cases storing : (state.jobs id).call.api = .getStreamingEndpoint ∧
        status = .success
      · obtain ⟨isEndpoint, success⟩ := storing
        subst success
        obtain ⟨transfer, left, trustworthy, sameData⟩ :=
          faithful.called isEndpoint after
        simp only [Api.extract, if_pos isEndpoint] at extracted
        obtain ⟨completed, text, member, held⟩ :=
          trustworthy.extracts sameData (by rw [extracted])
        rw [extracted] at held
        constructor
        · simp [HandlerPc.Answered, isEndpoint]
        · simp [isEndpoint]
        · simp [isEndpoint]
        · intro _
          exact ⟨isEndpoint, transfer, left, completed, text, member, held⟩
      · constructor <;> simp [HandlerPc.Answered, storing]
  case remove removing lockFree =>
      simp only [removeActive_jobs]
      split <;> constructor <;> simp [HandlerPc.Answered, HandlerPc.Removed]
  all_goals
    apply faithful.move <;>
      simp_all [HandlerPc.Answered, HandlerPc.Removed]

theorem ApiStep.transfer_eq {action : ApiAction} {job : JobId}
    (step : ApiStep state id action target) :
    (target.jobs job).handler.transfer =
      (state.jobs job).handler.transfer := by
  by_cases same : job = id
  · subst same
    cases step <;> simp
  · rw [step.jobs_of_ne same]

theorem ApiStep.begun_kept {action : ApiAction} {job : JobId}
    (step : ApiStep state id action target)
    (begun : (state.jobs job).call.pc ≠ .idle) :
    (target.jobs job).call.pc ≠ .idle := by
  by_cases same : job = id
  · subst same
    cases step <;> first | contradiction | simp_all
  · rwa [step.jobs_of_ne same]

/-- The answer of a call is not overwritten. -/
theorem HandlerStep.transfer_kept {action : HandlerAction} {job : JobId}
    {transfer : Transfer}
    (step : HandlerStep state id action target)
    (faithful : (state.jobs id).Faithful)
    (left : transfer ∈ (state.jobs job).handler.transfer) :
    transfer ∈ (target.jobs job).handler.transfer := by
  by_cases same : job = id
  · subst same
    cases step
    case perform answer inCurl =>
        have answered := faithful.answered (by simp [Option.mem_def.mp left])
        simp [HandlerPc.Answered, HandlerPc.Removed, inCurl] at answered
    case remove removing lockFree =>
        simp only [removeActive_jobs]
        split <;> simpa using left
    all_goals simpa using left
  · rwa [step.handler_of_ne same]

theorem Extracted.keep {streamHandle : StreamHandle} {text : Bytes}
    (extracted : state.Extracted streamHandle text)
    (begun : ∀ job, (state.jobs job).call.pc ≠ .idle →
      (target.jobs job).call.pc ≠ .idle ∧
        (target.jobs job).call.api = (state.jobs job).call.api ∧
        (target.jobs job).streamHandle = (state.jobs job).streamHandle)
    (kept : ∀ job, ∀ transfer ∈ (state.jobs job).handler.transfer,
      transfer ∈ (target.jobs job).handler.transfer) :
    target.Extracted streamHandle text := by
  obtain ⟨job, endpoint, jobBegun, sameStream, transfer, left, extracted⟩ :=
    extracted
  obtain ⟨stillBegun, keptApi, keptStream⟩ := begun job jobBegun
  exact ⟨job, keptApi.trans endpoint, stillBegun, keptStream.trans sameStream,
    transfer, kept job transfer left, extracted⟩

theorem CacheExtracted.keep
    (cached : state.CacheExtracted)
    (subset : ∀ streamHandle, ∀ tracker ∈ target.cachedEndpoints streamHandle,
      tracker ∈ state.cachedEndpoints streamHandle)
    (keeps : ∀ streamHandle text, state.Extracted streamHandle text →
      target.Extracted streamHandle text) :
    target.CacheExtracted := by
  intro streamHandle tracker member
  obtain ⟨text, held, extracted⟩ :=
    cached streamHandle tracker (subset streamHandle tracker member)
  exact ⟨text, held, keeps streamHandle text extracted⟩

theorem cacheExtracted_apiStep {action : ApiAction}
    (cached : state.CacheExtracted)
    (step : ApiStep state id action target) :
    target.CacheExtracted := by
  apply cached.keep
  · rw [step.frame.2.2.1]
    exact fun _ _ member => member
  · intro streamHandle text extracted
    apply extracted.keep
    · intro job begun
      exact ⟨step.begun_kept begun, step.identity begun⟩
    · intro job transfer left
      rwa [step.transfer_eq]

/-- A shutdown call only drops entries of the cache. -/
theorem ShutdownStep.endpoint_cases {action : ShutdownAction}
    (step : ShutdownStep state id action target)
    (streamHandle : StreamHandle) :
    target.cachedEndpoints streamHandle =
        state.cachedEndpoints streamHandle ∨
      target.cachedEndpoints streamHandle = none := by
  cases step
  case dropEndpoint dropped resetStream dropping kind =>
      by_cases same : streamHandle = dropped
      · subst same
        simp
      · simp [same]
  case finishClient finishing kind => simp
  all_goals exact .inl rfl

theorem cacheExtracted_shutdownStep {action : ShutdownAction}
    (cached : state.CacheExtracted)
    (step : ShutdownStep state id action target) :
    target.CacheExtracted := by
  apply cached.keep
  · intro streamHandle tracker member
    rcases step.endpoint_cases streamHandle with same | dropped
    · rwa [same] at member
    · rw [dropped] at member
      cases member
  · intro streamHandle text extracted
    apply extracted.keep
    · intro job begun
      simpa [step.call_eq] using begun
    · intro job transfer left
      rwa [step.handler_eq]

theorem cacheExtracted_handlerStep {action : HandlerAction}
    (cached : state.CacheExtracted)
    (faithful : (state.jobs id).Faithful)
    (coherent : state.Coherent)
    (step : HandlerStep state id action target) :
    target.CacheExtracted := by
  have keeps (streamHandle : StreamHandle) (text : Bytes)
      (extracted : state.Extracted streamHandle text) :
      target.Extracted streamHandle text := by
    apply extracted.keep
    · intro job begun
      simpa [step.call_eq] using begun
    · intro job transfer left
      exact step.transfer_kept faithful left
  by_cases stores : ∃ allocated, action = .store allocated
  · obtain ⟨allocated, isStore⟩ := stores
    subst isStore
    intro streamHandle tracker member
    cases step with
    | store storing =>
        obtain ⟨endpoint, transfer, left, completed, text, given, held⟩ :=
          faithful.stores storing
        have begun : (state.jobs id).call.pc ≠ .idle := by
          have running : (state.jobs id).handler.pc.Running := by
            simp [HandlerPc.Running, storing]
          obtain ⟨started | returned, -⟩ :=
            (coherent.lifecycle id).launched running
          · simp [started]
          · simp [returned]
        have extracted : state.Extracted (state.jobs id).streamHandle text :=
          ⟨id, endpoint, begun, rfl, transfer, left, completed, given⟩
        simp only [storeEndpoint_cachedEndpoints, setJob_cachedEndpoints]
          at member
        split at member
        · by_cases same : streamHandle = (state.jobs id).streamHandle
          · subst same
            simp at member
            subst member
            exact ⟨text, held, keeps _ _ extracted⟩
          · rw [Function.update_of_ne same] at member
            obtain ⟨text, held, extracted⟩ := cached streamHandle tracker member
            exact ⟨text, held, keeps _ _ extracted⟩
        · obtain ⟨text, held, extracted⟩ := cached streamHandle tracker member
          exact ⟨text, held, keeps _ _ extracted⟩
  · apply cached.keep _ keeps
    intro streamHandle tracker member
    cases step
    case store allocated storing => exact (stores ⟨_, rfl⟩).elim
    all_goals exact member

/-- The invariant of runs that meet `EndpointAnswered`. -/
structure EndpointsSound (state : State) : Prop where
  faithful : ∀ job, (state.jobs job).Faithful
  cached : state.CacheExtracted

theorem initial_endpointsSound : initial.EndpointsSound where
  faithful := by
    intro job
    constructor <;> simp [initial, Job.idle]
  cached := by simp [CacheExtracted, initial]

theorem EndpointsSound.next {action : Action}
    (sound : state.EndpointsSound) (coherent : state.Coherent)
    (answered : EndpointAnswered state action)
    (step : state.next action = some target) :
    target.EndpointsSound := by
  cases next_cases step with
  | api step =>
      constructor
      · intro job
        exact step.faithful (sound.faithful job) coherent
      · exact cacheExtracted_apiStep sound.cached step
  | @handler id _ _ step =>
      constructor
      · intro job
        by_cases same : job = id
        · subst same
          exact step.faithful (sound.faithful job) answered
        · rw [coherent.jobs_of_ne step same]
          exact sound.faithful job
      · exact cacheExtracted_handlerStep sound.cached (sound.faithful id)
          coherent step
  | shutdown step =>
      constructor
      · intro job
        rcases step.job_cases with same | terminated
        · rw [same]
          exact sound.faithful job
        · rw [terminated]
          obtain ⟨answered, performed, called, stores⟩ := sound.faithful job
          exact ⟨answered, performed, called, stores⟩
      · exact cacheExtracted_shutdownStep sound.cached step

end State

/-- In every run in which no handler of `getStreamingEndpointCurl` sees
`terminating` set at its checks and every answer is trustworthy, the entries
of the cache are endpoints extracted from completed responses for their
stream. -/
theorem cache_extracted {state : State} (run : Run EndpointAnswered state) :
    state.CacheExtracted := by
  have sound : state.EndpointsSound := by
    apply run.invariant_under State.Coherent State.EndpointsSound
    · exact State.initial_coherent
    · intro state action target coherent step
      exact coherent.next step
    · exact State.initial_endpointsSound
    · intro state action target coherent sound answered step
      exact sound.next coherent answered step
  exact sound.cached

/-- What an unfilled element of the array of tokens may hold. -/
def unfilledToken : JsmnTok :=
  { type := .undefined
    start := 0
    stop := 0
    size := 0 }

/-- A call of `getStreamingEndpointCurl` that is answered with an endpoint. -/
def answeredCall : List Action :=
  launch 0 .getStreamingEndpoint 7 ++
    ([.handler 0 .acquireStart, .handler 0 (.prepare .success),
       .handler 0 .checkBefore,
       .handler 0 (.perform
         { result := .ok
           responseCode := HTTP_STATUS_CODE_OK
           responseData := bytes "\x7b\"DataEndpoint\":\"e\"\x7d" }),
       .handler 0 (.checkAfter false),
       .handler 0 (.checkCompleted unfilledToken), .handler 0 (.store true)] :
      List Action)

theorem cache_extracted_answeredCall :
    let state :=
      stateAfter State.next EndpointAnswered State.initial answeredCall
    state.cachedEndpoints 7 =
        some
          { endpointLastUpdateTime := 0
            streamingEndpoint := some (bytes "e") } ∧
      state.CacheExtracted := by
  have taken : (replay State.next EndpointAnswered State.initial
      answeredCall).isSome = true := by
    decide +kernel
  exact ⟨by decide +kernel, cache_extracted (steps_stateAfter taken)⟩

/-- A stream shutdown terminates a request before its handler makes the
call. -/
def terminatedCall : List Action :=
  launch 0 .getStreamingEndpoint 7 ++
    ([.handler 0 .acquireStart, .handler 0 (.prepare .success),
       .shutdown 0 (.invokeStream 7 true), .shutdown 0 .check,
       .shutdown 0 .acquire, .shutdown 0 .visit, .shutdown 0 .release,
       .handler 0 .checkBefore, .handler 0 (.checkCompleted unfilledToken),
       .handler 0 (.store true)] : List Action)

/-- A handler that skips its call because it is terminated stores its
uninitialised endpoint buffer. -/
theorem caches_unextracted :
    ¬ ∀ state : State, Reachable state → state.CacheExtracted := by
  intro claim
  have taken : State.initial.CanTake terminatedCall := by decide
  have cached :
      (State.initial.after terminatedCall).cachedEndpoints 7 =
        some
          { endpointLastUpdateTime := 0
            streamingEndpoint := none } := by
    decide
  obtain ⟨text, held, -⟩ := claim _ (steps_stateAfter taken) 7 _ cached
  cases held

/-! ### The entry of a closed stream -/

/-- No handler of the stream updates the cache between the drop of its entry
by the call and the return of the call. -/
def StoresOutside (call : ShutdownId) (streamHandle : StreamHandle)
    (state : State) : Action → Prop
  | .handler id (.store _) =>
      (state.jobs id).streamHandle = streamHandle →
        (state.shutdowns call).pc.stage < 6
  | _ => True

/-- The call has dropped the cached endpoint of the stream that it closes. -/
def State.Dropped (state : State) (call : ShutdownId)
    (streamHandle : StreamHandle) : Prop :=
  (state.shutdowns call).kind = .stream streamHandle false →
    6 ≤ (state.shutdowns call).pc.stage →
    state.cachedEndpoints streamHandle = none

namespace State

variable {state target : State} {id : JobId}

theorem ShutdownStep.dropped {action : ShutdownAction} {call : ShutdownId}
    {streamHandle : StreamHandle}
    (dropped : state.Dropped call streamHandle)
    (step : ShutdownStep state id action target) :
    target.Dropped call streamHandle := by
  intro kind late
  have keeps (before : state.cachedEndpoints streamHandle = none) :
      target.cachedEndpoints streamHandle = none := by
    rcases step.endpoint_cases streamHandle with same | gone
    · exact same.trans before
    · exact gone
  by_cases same : call = id
  · subst same
    cases step
    case acquire collection acquiring lockFree =>
        have bounds := collection.taken_bounds
        simp at late
        omega
    case visit collection job rest visiting =>
        have bounds := collection.taken_bounds
        simp at late
        omega
    case release collection visiting =>
        have stillStream : (state.shutdowns call).kind =
            .stream streamHandle false := by
          simpa using kind
        cases collection <;>
          simp [ShutdownPc.afterVisit, stillStream] at late
    case dropEndpoint resetStream dropping ownStream =>
        simp [ownStream] at kind
        simp [kind]
    case poll collection polling lockFree gone =>
        apply dropped (by simpa using kind)
        have bounds := collection.drained_bounds
        simp [polling]
        omega
    all_goals simp at late
  · rw [step.shutdowns_of_ne same] at kind late
    exact keeps (dropped kind late)

theorem HandlerStep.dropped {action : HandlerAction} {call : ShutdownId}
    {streamHandle : StreamHandle}
    (dropped : state.Dropped call streamHandle)
    (outside : StoresOutside call streamHandle state (.handler id action))
    (step : HandlerStep state id action target) :
    target.Dropped call streamHandle := by
  intro kind late
  rw [step.frame.1] at kind late
  have before := dropped kind late
  cases step
  case store allocated storing =>
      have different : streamHandle ≠ (state.jobs id).streamHandle := by
        intro same
        have early := outside same.symm
        omega
      simp only [storeEndpoint_cachedEndpoints, setJob_cachedEndpoints]
      split
      · rwa [Function.update_of_ne different]
      · exact before
  all_goals exact before

end State

/-- In every run in which no handler of the stream updates the cache between
the drop of its entry and the return of the call, the cache has no entry of
the stream when the call that closes it returns. -/
theorem closed_stream_uncached
    {state target : State} {call : ShutdownId} {streamHandle : StreamHandle}
    (run : Run (StoresOutside call streamHandle) state)
    (kind : (state.shutdowns call).kind = .stream streamHandle false)
    (finishing : (state.shutdowns call).pc = .finishing)
    (step : state.next (.shutdown call .finish) = some target) :
    (target.shutdowns call).pc = .returned .performed ∧
      target.cachedEndpoints streamHandle = none := by
  have dropped : state.Dropped call streamHandle := by
    apply run.invariant fun state => state.Dropped call streamHandle
    · simp [State.Dropped, State.initial]
    · intro before action after dropped outside step
      cases State.next_cases step with
      | api step =>
          rw [State.Dropped, step.frame.1, step.frame.2.2.1]
          exact dropped
      | handler step => exact step.dropped dropped outside
      | shutdown step => exact step.dropped dropped
  have uncached := dropped kind (by simp [finishing])
  cases State.next_cases step with
  | shutdown step =>
      cases step with
      | finishStream at_pc ownStream =>
          exact ⟨by simp, uncached⟩
      | finishClient at_pc client =>
          rw [kind] at client
          cases client

instance (call : ShutdownId) (streamHandle : StreamHandle) (state : State) :
    DecidablePred (StoresOutside call streamHandle state)
  | .handler _ (.store _) => inferInstanceAs (Decidable (_ → _))
  | .handler _ .enter | .handler _ .log | .handler _ .acceptCancel
  | .handler _ .acquireStart | .handler _ (.prepare _)
  | .handler _ .checkBefore | .handler _ (.perform _)
  | .handler _ (.checkAfter _) | .handler _ (.checkCompleted _)
  | .handler _ .readTerminating | .handler _ .remove
  | .handler _ (.notify _ _) | .handler _ .report
  | .api _ _ | .shutdown _ _ => .isTrue trivial

/-- A handler of a closing stream stores its endpoint before the drop, or
after it. -/
def closingRun (storesFirst : Bool) : List Action :=
  let store : Action := .handler 0 (.store true)
  let drop : Action := .shutdown 0 .dropEndpoint
  launch 0 .getStreamingEndpoint 7 ++
    ([.handler 0 .acquireStart, .handler 0 (.prepare .success),
       .shutdown 0 (.invokeStream 7 false), .shutdown 0 .check,
       .shutdown 0 .acquire, .shutdown 0 .visit, .shutdown 0 .release,
       .shutdown 0 .acquire, .shutdown 0 .release,
       .handler 0 .checkBefore, .handler 0 (.checkCompleted unfilledToken)] :
      List Action) ++
    (if storesFirst then [store, drop] else [drop, store]) ++
    ([.handler 0 .readTerminating, .handler 0 .remove,
       .shutdown 0 .poll, .shutdown 0 .poll] : List Action)

theorem closed_stream_uncached_closingRun :
    ∃ state target : State,
      Run (StoresOutside 0 7) state ∧
      state.next (.shutdown 0 .finish) = some target ∧
      target.cachedEndpoints 7 = none := by
  have taken : (replay State.next (StoresOutside 0 7) State.initial
      (closingRun true)).isSome = true := by
    decide
  have run := steps_stateAfter taken
  exact ⟨_, _, run, rfl,
    (closed_stream_uncached run (by decide) (by decide) rfl).2⟩

/-- A handler that reaches its cleanup after the drop puts an entry of the
closed stream back. -/
theorem closed_stream_cached :
    ¬ ∀ (state target : State) (call : ShutdownId)
      (streamHandle : StreamHandle),
      Reachable state →
      (state.shutdowns call).kind = .stream streamHandle false →
      (state.shutdowns call).pc = .finishing →
      state.next (.shutdown call .finish) = some target →
      target.cachedEndpoints streamHandle = none := by
  intro claim
  have taken : State.initial.CanTake (closingRun false) := by decide
  have uncached := claim _ _ 0 7 (steps_stateAfter taken) (by decide)
    (by decide) rfl
  exact absurd uncached (by decide)

end CurlApi

end KvsProducer
