import KvsProducer.CurlApi.Api

/-!
# The handler threads

`createStreamCurlHandler`, `describeStreamCurlHandler`,
`getStreamingEndpointCurlHandler`, `tagResourceCurlHandler` and
`putStreamCurlHandler`, with `curlCompleteSync` inside.  They share their
course; what the first two extract from the response goes into the payload of
their event only and is left out here, as is `blockedInCurl`, which no handler
reads.
-/

namespace KvsProducer

namespace CurlApi

/-- The steps of a handler thread, with the answers of its environment: the
status of the preparation of the call, what `curl_easy_perform` leaves, whether
the response was force terminated by then, what lies beyond the tokens,
whether memory is available, and the status that PIC answers an event with. -/
inductive HandlerAction where
  | enter
  | log
  | acceptCancel
  | acquireStart
  | prepare (status : Status)
  | checkBefore
  | perform (transfer : Transfer)
  | checkAfter (terminated : Bool)
  | checkCompleted (beyond : JsmnTok)
  | store (allocated : Bool)
  | readTerminating
  | remove
  | notify (status : Status) (endOfStream : Bool)
  | report
  deriving DecidableEq, Repr

/-- The part of the handler between its look at `terminating` after the call
and its `CleanUp` label: the status and the endpoint buffer. -/
def Api.extract (api : Api) (beyond : JsmnTok) (callInfo : CallInfo) :
    Status × Option Bytes :=
  if api = .getStreamingEndpoint then extractEndpoint beyond callInfo
  else if callInfo.callResult = .notSet then (.invalidOperation, none)
  else (.success, none)

/-- The `CleanUp` label: `getStreamingEndpointCurlHandler` stores its endpoint
buffer when the status is a success. -/
@[simps] def Job.cleanUp (status : Status) (endpoint : Option Bytes)
    (job : Job) : Job :=
  { job with
    handler :=
      { job.handler with
        pc :=
          if job.call.api = .getStreamingEndpoint ∧ status = .success
          then .storing
          else .exiting
        retStatus := status
        streamingEndpoint := endpoint } }

@[simps] def Job.perform (transfer : Transfer) (job : Job) : Job :=
  { job with
    handler :=
      { job.handler with
        pc := .performed
        transfer := some transfer
        callInfo := .received transfer } }

/-- The end of `curlCompleteSync` for a request that is not terminating. -/
@[simps] def Job.classify (terminated : Bool) (transfer : Transfer)
    (job : Job) : Job :=
  { job with
    handler :=
      { job.handler with
        pc := .afterCall
        callInfo := classifyTransfer terminated transfer } }

@[simps] def Job.readTerminating (job : Job) : Job :=
  { job with
    handler :=
      { job.handler with
        pc := .removing
        requestTerminating := job.request.terminating } }

@[simps] def Job.notified (status : Status) (job : Job) : Job :=
  { job with
    handler :=
      { job.handler with
        pc := .reporting
        retStatus :=
          if job.call.api = .putStream then job.handler.retStatus
          else status } }

/-- The events between the removal and `notifyCallResult`. -/
def Job.resultEvents (id : JobId) (endOfStream : Bool) (job : Job) :
    List Event :=
  if job.call.api = .putStream then
    if endOfStream then [] else [{ job := id, kind := .streamTerminated }]
  else [{ job := id, kind := .callResult }]

/-- `notifyCallResult`, with an error report callback installed. -/
def Job.reportEvents (id : JobId) (job : Job) : List Event :=
  if job.handler.retStatus = .success ∨ job.handler.retStatus = .nullArg
  then []
  else [{ job := id, kind := .errorReport }]

namespace State

/-- The entries that an exiting handler removes: the entry of its stream from
the table of requests, the entries of its stream with its upload handle from
the list of uploads.  The handles are compared as the numbers that they are
before the counter wraps; `SelectsUpload` compares them in 64 bits. -/
def Removes (state : State) (id other : JobId) : Prop :=
  other ∈ state.active (state.jobs id).collection ∧
    (state.jobs other).streamHandle = (state.jobs id).streamHandle ∧
    ((state.jobs id).collection = .activeUploads →
      (state.jobs other).request.uploadHandle =
        (state.jobs id).request.uploadHandle)

instance (state : State) (id other : JobId) :
    Decidable (state.Removes id other) :=
  inferInstanceAs (Decidable (_ ∧ _))

@[simp] theorem removes_handlerAt
    {state : State} {id other : JobId} {pc : HandlerPc} :
    (state.setJob id ((state.jobs id).handlerAt pc)).Removes id other ↔
      state.Removes id other := by
  by_cases same : other = id
  · subst same
    simp [Removes]
  · simp [Removes, same]

/-- The shutdown functions called with `fromCurlThread`: the entries are
removed and their requests freed. -/
@[simps] def removeActive (state : State) (id : JobId) : State :=
  { state with
    jobs := fun other =>
      if state.Removes id other then (state.jobs other).freeRequest
      else state.jobs other
    active := Function.update state.active (state.jobs id).collection
      ((state.active (state.jobs id).collection).filter
        fun other => ¬ state.Removes id other) }

/-- The endpoint cache after the cleanup of `getStreamingEndpointCurlHandler`:
nothing is stored for a new stream when there is no memory. -/
@[simps] def storeEndpoint (state : State) (job : Job) (allocated : Bool) :
    State :=
  { state with
    cachedEndpoints :=
      if state.cachedEndpoints job.streamHandle ≠ none ∨ allocated then
        Function.update state.cachedEndpoints job.streamHandle
          (some
            { endpointLastUpdateTime := job.call.currentTime
              streamingEndpoint := job.handler.streamingEndpoint })
      else state.cachedEndpoints }

@[simps] def deliver (state : State) (events : List Event) : State :=
  { state with events := state.events ++ events }

def handlerStep (state : State) (id : JobId) (action : HandlerAction) :
    Option State :=
  let job := state.jobs id
  match action with
  | .enter =>
      if job.handler.pc = .entry then
        if job.request.life = .freed then
          some (state.setJob id (job.handlerAt .crashed))
        else if job.call.api = .createStream then
          some (state.setJob id (job.handlerAt .logging))
        else some (state.setJob id (job.handlerAt .awaitStart))
      else none
  | .log =>
      if job.handler.pc = .logging then
        some (state.setJob id (job.handlerAt .awaitStart))
      else none
  -- the log message of createStreamCurlHandler is a cancellation point
  | .acceptCancel =>
      if job.handler.pc = .logging ∧ job.handler.cancelPending then
        some (state.setJob id (job.handlerAt .cancelled))
      else none
  | .acquireStart =>
      if job.handler.pc = .awaitStart then
        if job.request.life = .freed then
          some (state.setJob id (job.handlerAt .crashed))
        else if job.request.startLocked then none
        else some (state.setJob id (job.handlerAt .signing))
      else none
  | .prepare status =>
      if job.handler.pc = .signing then
        if status = .success then
          some (state.setJob id (job.handlerAt .beforePerform))
        else some (state.setJob id (job.cleanUp status none))
      else none
  | .checkBefore =>
      if job.handler.pc = .beforePerform then
        if job.request.terminating then
          some (state.setJob id (job.handlerAt .afterCall))
        else some (state.setJob id (job.handlerAt .inCurl))
      else none
  | .perform transfer =>
      if job.handler.pc = .inCurl then
        some (state.setJob id (job.perform transfer))
      else none
  | .checkAfter terminated =>
      if job.handler.pc = .performed then
        if job.request.terminating then
          some (state.setJob id (job.handlerAt .afterCall))
        else job.handler.transfer.map fun transfer =>
          state.setJob id (job.classify terminated transfer)
      else none
  | .checkCompleted beyond =>
      if job.handler.pc = .afterCall then
        if job.request.terminating then
          some (state.setJob id (job.cleanUp .success none))
        else
          let (status, endpoint) :=
            job.call.api.extract beyond job.handler.callInfo
          some (state.setJob id (job.cleanUp status endpoint))
      else none
  | .store allocated =>
      if job.handler.pc = .storing then
        some ((state.setJob id (job.handlerAt .exiting)).storeEndpoint job
          allocated)
      else none
  | .readTerminating =>
      if job.handler.pc = .exiting then
        some (state.setJob id job.readTerminating)
      else none
  | .remove =>
      if job.handler.pc = .removing ∧ state.LockFree job.collection then
        some ((state.setJob id (job.handlerAt .notifying)).removeActive id)
      else none
  | .notify status endOfStream =>
      if job.handler.pc = .notifying then
        if job.handler.requestTerminating then
          some (state.setJob id (job.handlerAt .finished))
        else
          some ((state.setJob id (job.notified status)).deliver
            (job.resultEvents id endOfStream))
      else none
  | .report =>
      if job.handler.pc = .reporting then
        some ((state.setJob id (job.handlerAt .finished)).deliver
          (job.reportEvents id))
      else none

/-- What the steps of a handler thread can do. -/
inductive HandlerStep (state : State) (id : JobId) :
    HandlerAction → State → Prop where
  | crashAtEntry
      (entry : (state.jobs id).handler.pc = .entry)
      (freed : (state.jobs id).request.life = .freed) :
      HandlerStep state id .enter
        (state.setJob id ((state.jobs id).handlerAt .crashed))
  | enter {pc : HandlerPc}
      (entry : (state.jobs id).handler.pc = .entry)
      (allocated : (state.jobs id).request.life ≠ .freed)
      (next : pc = .logging ∨ pc = .awaitStart) :
      HandlerStep state id .enter
        (state.setJob id ((state.jobs id).handlerAt pc))
  | log
      (logging : (state.jobs id).handler.pc = .logging) :
      HandlerStep state id .log
        (state.setJob id ((state.jobs id).handlerAt .awaitStart))
  | acceptCancel
      (logging : (state.jobs id).handler.pc = .logging)
      (pending : (state.jobs id).handler.cancelPending = true) :
      HandlerStep state id .acceptCancel
        (state.setJob id ((state.jobs id).handlerAt .cancelled))
  | crashAtLock
      (awaiting : (state.jobs id).handler.pc = .awaitStart)
      (freed : (state.jobs id).request.life = .freed) :
      HandlerStep state id .acquireStart
        (state.setJob id ((state.jobs id).handlerAt .crashed))
  | acquireStart
      (awaiting : (state.jobs id).handler.pc = .awaitStart)
      (allocated : (state.jobs id).request.life ≠ .freed)
      (unlocked : (state.jobs id).request.startLocked = false) :
      HandlerStep state id .acquireStart
        (state.setJob id ((state.jobs id).handlerAt .signing))
  | prepare
      (signing : (state.jobs id).handler.pc = .signing) :
      HandlerStep state id (.prepare .success)
        (state.setJob id ((state.jobs id).handlerAt .beforePerform))
  | failPrepare {status : Status}
      (signing : (state.jobs id).handler.pc = .signing)
      (failed : status ≠ .success) :
      HandlerStep state id (.prepare status)
        (state.setJob id ((state.jobs id).cleanUp status none))
  | skipCall
      (before : (state.jobs id).handler.pc = .beforePerform)
      (terminating : (state.jobs id).request.terminating = true) :
      HandlerStep state id .checkBefore
        (state.setJob id ((state.jobs id).handlerAt .afterCall))
  | startCall
      (before : (state.jobs id).handler.pc = .beforePerform)
      (clear : (state.jobs id).request.terminating = false) :
      HandlerStep state id .checkBefore
        (state.setJob id ((state.jobs id).handlerAt .inCurl))
  | perform {transfer : Transfer}
      (inCurl : (state.jobs id).handler.pc = .inCurl) :
      HandlerStep state id (.perform transfer)
        (state.setJob id ((state.jobs id).perform transfer))
  | skipClassify {terminated : Bool}
      (performed : (state.jobs id).handler.pc = .performed)
      (terminating : (state.jobs id).request.terminating = true) :
      HandlerStep state id (.checkAfter terminated)
        (state.setJob id ((state.jobs id).handlerAt .afterCall))
  | classify {terminated : Bool} {transfer : Transfer}
      (performed : (state.jobs id).handler.pc = .performed)
      (clear : (state.jobs id).request.terminating = false)
      (left : (state.jobs id).handler.transfer = some transfer) :
      HandlerStep state id (.checkAfter terminated)
        (state.setJob id ((state.jobs id).classify terminated transfer))
  | skipExtract {beyond : JsmnTok}
      (after : (state.jobs id).handler.pc = .afterCall)
      (terminating : (state.jobs id).request.terminating = true) :
      HandlerStep state id (.checkCompleted beyond)
        (state.setJob id ((state.jobs id).cleanUp .success none))
  | extract {beyond : JsmnTok} {status : Status} {endpoint : Option Bytes}
      (after : (state.jobs id).handler.pc = .afterCall)
      (clear : (state.jobs id).request.terminating = false)
      (extracted :
        (state.jobs id).call.api.extract beyond
          (state.jobs id).handler.callInfo = (status, endpoint)) :
      HandlerStep state id (.checkCompleted beyond)
        (state.setJob id ((state.jobs id).cleanUp status endpoint))
  | store {allocated : Bool}
      (storing : (state.jobs id).handler.pc = .storing) :
      HandlerStep state id (.store allocated)
        ((state.setJob id
          ((state.jobs id).handlerAt .exiting)).storeEndpoint
            (state.jobs id) allocated)
  | readTerminating
      (exiting : (state.jobs id).handler.pc = .exiting) :
      HandlerStep state id .readTerminating
        (state.setJob id (state.jobs id).readTerminating)
  | remove
      (removing : (state.jobs id).handler.pc = .removing)
      (lockFree : state.LockFree (state.jobs id).collection) :
      HandlerStep state id .remove
        ((state.setJob id
          ((state.jobs id).handlerAt .notifying)).removeActive id)
  | keepSilent {status : Status} {endOfStream : Bool}
      (notifying : (state.jobs id).handler.pc = .notifying)
      (seen : (state.jobs id).handler.requestTerminating = true) :
      HandlerStep state id (.notify status endOfStream)
        (state.setJob id ((state.jobs id).handlerAt .finished))
  | notify {status : Status} {endOfStream : Bool}
      (notifying : (state.jobs id).handler.pc = .notifying)
      (unseen : (state.jobs id).handler.requestTerminating = false) :
      HandlerStep state id (.notify status endOfStream)
        ((state.setJob id ((state.jobs id).notified status)).deliver
          ((state.jobs id).resultEvents id endOfStream))
  | report
      (reporting : (state.jobs id).handler.pc = .reporting) :
      HandlerStep state id .report
        ((state.setJob id ((state.jobs id).handlerAt .finished)).deliver
          ((state.jobs id).reportEvents id))

theorem handlerStep_cases
    {state target : State} {id : JobId} {action : HandlerAction}
    (step : state.handlerStep id action = some target) :
    HandlerStep state id action target := by
  cases action <;>
    simp only [handlerStep, Option.ite_none_right_eq_some] at step <;>
    obtain ⟨at_pc, branch⟩ := step
  case enter =>
      split at branch
      · rename_i freed
        cases branch
        exact .crashAtEntry at_pc freed
      · rename_i allocated
        split at branch
        · cases branch
          exact .enter at_pc allocated (.inl rfl)
        · cases branch
          exact .enter at_pc allocated (.inr rfl)
  case log =>
      cases branch
      exact .log at_pc
  case acceptCancel =>
      cases branch
      exact .acceptCancel at_pc.1 at_pc.2
  case acquireStart =>
      split at branch
      · rename_i freed
        cases branch
        exact .crashAtLock at_pc freed
      · rename_i allocated
        split at branch
        · cases branch
        · rename_i unlocked
          cases branch
          exact .acquireStart at_pc allocated (by simpa using unlocked)
  case prepare status =>
      split at branch
      · rename_i success
        cases branch
        subst success
        exact .prepare at_pc
      · rename_i failed
        cases branch
        exact .failPrepare at_pc failed
  case checkBefore =>
      split at branch
      · rename_i terminating
        cases branch
        exact .skipCall at_pc terminating
      · rename_i clear
        cases branch
        exact .startCall at_pc (by simpa using clear)
  case perform transfer =>
      cases branch
      exact .perform at_pc
  case checkAfter terminated =>
      split at branch
      · rename_i terminating
        cases branch
        exact .skipClassify at_pc terminating
      · rename_i clear
        obtain ⟨transfer, left, target_eq⟩ := Option.map_eq_some_iff.mp branch
        subst target_eq
        exact .classify at_pc (by simpa using clear) left
  case checkCompleted beyond =>
      split at branch
      · rename_i terminating
        cases branch
        exact .skipExtract at_pc terminating
      · rename_i clear
        cases branch
        exact .extract at_pc (by simpa using clear) rfl
  case store allocated =>
      cases branch
      exact .store at_pc
  case readTerminating =>
      cases branch
      exact .readTerminating at_pc
  case remove =>
      cases branch
      exact .remove at_pc.1 at_pc.2
  case notify status endOfStream =>
      split at branch
      · rename_i seen
        cases branch
        exact .keepSilent at_pc seen
      · rename_i unseen
        cases branch
        exact .notify at_pc (by simpa using unseen)
  case report =>
      cases branch
      exact .report at_pc

variable {state target : State} {id other : JobId} {action : HandlerAction}

theorem HandlerStep.call_eq (step : HandlerStep state id action target) :
    (target.jobs other).call = (state.jobs other).call := by
  by_cases same : other = id
  · subst same
    cases step
    case remove =>
        simp only [removeActive_jobs]
        split <;> simp
    all_goals simp
  · cases step
    case remove =>
        simp only [removeActive_jobs]
        split <;> simp [same]
    all_goals simp [same]

theorem HandlerStep.handler_of_ne (step : HandlerStep state id action target)
    (different : other ≠ id) :
    (target.jobs other).handler = (state.jobs other).handler := by
  cases step
  case remove =>
      simp only [removeActive_jobs]
      split <;> simp [different]
  all_goals simp [different]

/-- Of the requests, a handler only frees those it removes. -/
theorem HandlerStep.request_cases (step : HandlerStep state id action target) :
    (target.jobs other).request = (state.jobs other).request ∨
      action = .remove ∧ state.Removes id other ∧
        (target.jobs other).request =
          (state.jobs other).freeRequest.request := by
  cases step
  case remove =>
      by_cases removes : state.Removes id other
      · refine .inr ⟨rfl, removes, ?_⟩
        by_cases same : other = id
        · subst same
          simp [removes, Job.freeRequest_request]
        · simp [removes, same]
      · left
        by_cases same : other = id
        · subst same
          simp [removes]
        · simp [removes, same]
  all_goals
    left
    by_cases same : other = id
    · subst same
      simp
    · simp [same]

/-- A handler leaves the shutdown calls, the marks and the locks alone. -/
theorem HandlerStep.frame (step : HandlerStep state id action target) :
    target.shutdowns = state.shutdowns ∧
      target.streamsShuttingDown = state.streamsShuttingDown ∧
      target.activeLock = state.activeLock ∧
      target.shutdown = state.shutdown ∧
      target.streamingRequestCount = state.streamingRequestCount := by
  cases step <;> exact ⟨rfl, rfl, rfl, rfl, rfl⟩

end State

end CurlApi

end KvsProducer
