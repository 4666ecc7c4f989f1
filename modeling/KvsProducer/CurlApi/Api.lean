import KvsProducer.CurlApi.State

/-!
# The API calls

`createStreamCurl`, `describeStreamCurl`, `getStreamingEndpointCurl`,
`tagResourceCurl` and `putStreamCurl`.  They differ in the collection they
register in and in the moment the request is created: `putStreamCurl` creates
it under the lock, after the look at `pStreamsShuttingDown`.  The argument
checks before the request is created fail without touching the shared state
and are left out.
-/

namespace KvsProducer

namespace CurlApi

/-- The steps of an API call, with the answers of its environment: whether an
allocation, a thread creation or an insertion succeeds.  The construction of a
request for streaming can also fail when it has already counted the request. -/
inductive ApiAction where
  | invoke (api : Api) (streamHandle : StreamHandle) (currentTime : Nat)
  | lockCollection
  | checkShuttingDown
  | createRequest (created : Bool)
  | abandonRequest
  | createThread (created : Bool)
  | register (stored : Bool)
  | releaseStart
  | cancelThread
  | freeRequest
  | unlockCollection
  deriving DecidableEq, Repr

@[simps] def Job.callAt (job : Job) (pc : CallPc) : Job :=
  { job with call := { job.call with pc := pc } }

@[simps] def Job.handlerAt (job : Job) (pc : HandlerPc) : Job :=
  { job with handler := { job.handler with pc := pc } }

@[simps] def Job.setLife (job : Job) (life : RequestLife) : Job :=
  { job with request := { job.request with life := life } }

@[simps] def Job.setStartLocked (job : Job) (startLocked : Bool) : Job :=
  { job with request := { job.request with startLocked := startLocked } }

/-- The call begins: all but `putStreamCurl` create their request at once. -/
@[simps] def Job.invoke (api : Api) (streamHandle : StreamHandle)
    (currentTime : Nat) (job : Job) : Job :=
  { job with
    call :=
      { api := api
        streamHandle := streamHandle
        currentTime := currentTime
        pc := .entered }
    request :=
      { job.request with
        life := if api = .putStream then .unallocated else .live } }

/-- `createCurlRequest` for an upload, with the next upload handle. -/
@[simps] def Job.createUpload (uploadHandle : UploadHandle) (job : Job) : Job :=
  { job with
    request :=
      { job.request with
        life := .live
        uploadHandle := uploadHandle } }

/-- `THREAD_CREATE` with the start lock held. -/
@[simps] def Job.createThread (job : Job) : Job :=
  { call := { job.call with pc := .threadCreated }
    request := { job.request with startLocked := true }
    handler :=
      { job.handler with
        pc := .entry
        cancelPending := false } }

/-- `THREAD_CANCEL` asks for the cancellation; when it takes effect is up to
the handler thread. -/
@[simps] def Job.cancelThread (job : Job) : Job :=
  { job with handler := { job.handler with cancelPending := true } }

/-- `freeCurlRequest`, which accepts a request that was never created. -/
def Job.freeRequest (job : Job) : Job :=
  if job.request.life = .live then job.setLife .freed else job

@[simp] theorem Job.freeRequest_call (job : Job) :
    job.freeRequest.call = job.call := by
  unfold freeRequest
  split <;> rfl

@[simp] theorem Job.freeRequest_handler (job : Job) :
    job.freeRequest.handler = job.handler := by
  unfold freeRequest
  split <;> rfl

theorem Job.freeRequest_request (job : Job) :
    job.freeRequest.request =
      { job.request with
        life :=
          if job.request.life = .live then .freed else job.request.life } := by
  unfold freeRequest
  split
  · simp [setLife]
  · rfl

namespace State

/-- `hashTablePut` fails on a stream that has an entry; the list of uploads
has no keys. -/
def Conflict (state : State) (job : Job) : Prop :=
  job.collection = .activeRequests ∧
    ∃ other ∈ state.active .activeRequests,
      (state.jobs other).streamHandle = job.streamHandle

instance (state : State) (job : Job) : Decidable (state.Conflict job) :=
  inferInstanceAs (Decidable (_ ∧ _))

def apiStep (state : State) (id : JobId) (action : ApiAction) : Option State :=
  let job := state.jobs id
  match action with
  | .invoke api streamHandle currentTime =>
      if job.call.pc = .idle then
        some (state.setJob id (job.invoke api streamHandle currentTime))
      else none
  | .lockCollection =>
      if job.call.pc = .entered ∧ state.LockFree job.collection then
        some ((state.setJob id (job.callAt .locked)).setLock job.collection
          (some (.api id)))
      else none
  | .checkShuttingDown =>
      if job.call.pc = .locked then
        if state.streamsShuttingDown job.streamHandle then
          some (state.setJob id (job.callAt (.failing false)))
        else some (state.setJob id (job.callAt .gated))
      else none
  | .createRequest created =>
      if job.call.pc = .gated ∧ job.request.life = .unallocated then
        if created then
          some
            { state.setJob id (job.createUpload state.streamingRequestCount)
              with streamingRequestCount := state.streamingRequestCount + 1 }
        else some (state.setJob id (job.callAt (.failing false)))
      else none
  | .abandonRequest =>
      if job.call.pc = .gated ∧ job.request.life = .unallocated then
        some
          { state.setJob id (job.callAt (.failing false))
            with streamingRequestCount := state.streamingRequestCount + 1 }
      else none
  | .createThread created =>
      if job.call.pc = .gated ∧ job.request.life = .live then
        if created then some (state.setJob id job.createThread)
        else some (state.setJob id (job.callAt (.failing false)))
      else none
  | .register stored =>
      if job.call.pc = .threadCreated then
        if stored ∧ ¬ state.Conflict job then
          some ((state.setJob id (job.callAt .registered)).setActive
            job.collection (state.active job.collection ++ [id]))
        else some (state.setJob id (job.callAt (.failing true)))
      else none
  | .releaseStart =>
      if job.call.pc = .registered then
        some (state.setJob id ((job.callAt .started).setStartLocked false))
      else none
  | .cancelThread =>
      if job.call.pc = .failing true then
        some (state.setJob id (job.cancelThread.callAt (.failing false)))
      else none
  | .freeRequest =>
      if job.call.pc = .failing false then
        some (state.setJob id (job.freeRequest.callAt .freed))
      else none
  | .unlockCollection =>
      if job.call.pc = .started then
        some ((state.setJob id (job.callAt (.returned true))).setLock
          job.collection none)
      else if job.call.pc = .freed then
        some ((state.setJob id (job.callAt (.returned false))).setLock
          job.collection none)
      else none

/-- What the steps of an API call can do. -/
inductive ApiStep (state : State) (id : JobId) :
    ApiAction → State → Prop where
  | invoke {api : Api} {streamHandle : StreamHandle} {currentTime : Nat}
      (idle : (state.jobs id).call.pc = .idle) :
      ApiStep state id (.invoke api streamHandle currentTime)
        (state.setJob id
          ((state.jobs id).invoke api streamHandle currentTime))
  | lockCollection
      (entered : (state.jobs id).call.pc = .entered)
      (lockFree : state.LockFree (state.jobs id).collection) :
      ApiStep state id .lockCollection
        ((state.setJob id ((state.jobs id).callAt .locked)).setLock
          (state.jobs id).collection (some (.api id)))
  | reject
      (locked : (state.jobs id).call.pc = .locked)
      (marked : state.streamsShuttingDown (state.jobs id).streamHandle = true) :
      ApiStep state id .checkShuttingDown
        (state.setJob id ((state.jobs id).callAt (.failing false)))
  | pass
      (locked : (state.jobs id).call.pc = .locked)
      (unmarked :
        state.streamsShuttingDown (state.jobs id).streamHandle = false) :
      ApiStep state id .checkShuttingDown
        (state.setJob id ((state.jobs id).callAt .gated))
  | createRequest
      (gated : (state.jobs id).call.pc = .gated)
      (unallocated : (state.jobs id).request.life = .unallocated) :
      ApiStep state id (.createRequest true)
        { state.setJob id
            ((state.jobs id).createUpload state.streamingRequestCount)
          with streamingRequestCount := state.streamingRequestCount + 1 }
  | noRequest
      (gated : (state.jobs id).call.pc = .gated)
      (unallocated : (state.jobs id).request.life = .unallocated) :
      ApiStep state id (.createRequest false)
        (state.setJob id ((state.jobs id).callAt (.failing false)))
  | abandonRequest
      (gated : (state.jobs id).call.pc = .gated)
      (unallocated : (state.jobs id).request.life = .unallocated) :
      ApiStep state id .abandonRequest
        { state.setJob id ((state.jobs id).callAt (.failing false))
          with streamingRequestCount := state.streamingRequestCount + 1 }
  | createThread
      (gated : (state.jobs id).call.pc = .gated)
      (live : (state.jobs id).request.life = .live) :
      ApiStep state id (.createThread true)
        (state.setJob id (state.jobs id).createThread)
  | noThread
      (gated : (state.jobs id).call.pc = .gated)
      (live : (state.jobs id).request.life = .live) :
      ApiStep state id (.createThread false)
        (state.setJob id ((state.jobs id).callAt (.failing false)))
  | register
      (created : (state.jobs id).call.pc = .threadCreated)
      (noConflict : ¬ state.Conflict (state.jobs id)) :
      ApiStep state id (.register true)
        ((state.setJob id ((state.jobs id).callAt .registered)).setActive
          (state.jobs id).collection
          (state.active (state.jobs id).collection ++ [id]))
  | noRegister {stored : Bool}
      (created : (state.jobs id).call.pc = .threadCreated)
      (refused : stored = true → state.Conflict (state.jobs id)) :
      ApiStep state id (.register stored)
        (state.setJob id ((state.jobs id).callAt (.failing true)))
  | releaseStart
      (registered : (state.jobs id).call.pc = .registered) :
      ApiStep state id .releaseStart
        (state.setJob id
          (((state.jobs id).callAt .started).setStartLocked false))
  | cancelThread
      (failing : (state.jobs id).call.pc = .failing true) :
      ApiStep state id .cancelThread
        (state.setJob id ((state.jobs id).cancelThread.callAt (.failing false)))
  | freeRequest
      (failing : (state.jobs id).call.pc = .failing false) :
      ApiStep state id .freeRequest
        (state.setJob id ((state.jobs id).freeRequest.callAt .freed))
  | succeed
      (started : (state.jobs id).call.pc = .started) :
      ApiStep state id .unlockCollection
        ((state.setJob id ((state.jobs id).callAt (.returned true))).setLock
          (state.jobs id).collection none)
  | fail
      (freed : (state.jobs id).call.pc = .freed) :
      ApiStep state id .unlockCollection
        ((state.setJob id ((state.jobs id).callAt (.returned false))).setLock
          (state.jobs id).collection none)

theorem apiStep_cases
    {state target : State} {id : JobId} {action : ApiAction}
    (step : state.apiStep id action = some target) :
    ApiStep state id action target := by
  cases action <;>
    simp only [apiStep, Option.ite_none_right_eq_some] at step
  case invoke =>
      obtain ⟨idle, target_eq⟩ := step
      cases target_eq
      exact .invoke idle
  case lockCollection =>
      obtain ⟨⟨entered, lockFree⟩, target_eq⟩ := step
      cases target_eq
      exact .lockCollection entered lockFree
  case checkShuttingDown =>
      obtain ⟨locked, branch⟩ := step
      split at branch
      · rename_i marked
        cases branch
        exact .reject locked marked
      · rename_i unmarked
        cases branch
        exact .pass locked (by simpa using unmarked)
  case createRequest created =>
      obtain ⟨⟨gated, unallocated⟩, branch⟩ := step
      cases created with
      | true =>
          cases branch
          exact .createRequest gated unallocated
      | false =>
          cases branch
          exact .noRequest gated unallocated
  case abandonRequest =>
      obtain ⟨⟨gated, unallocated⟩, target_eq⟩ := step
      cases target_eq
      exact .abandonRequest gated unallocated
  case createThread created =>
      obtain ⟨⟨gated, live⟩, branch⟩ := step
      cases created with
      | true =>
          cases branch
          exact .createThread gated live
      | false =>
          cases branch
          exact .noThread gated live
  case register stored =>
      obtain ⟨created, branch⟩ := step
      split at branch
      · rename_i accepted
        cases branch
        obtain ⟨rfl, noConflict⟩ := accepted
        exact .register created noConflict
      · rename_i refused
        cases branch
        exact .noRegister created (by tauto)
  case releaseStart =>
      obtain ⟨registered, target_eq⟩ := step
      cases target_eq
      exact .releaseStart registered
  case cancelThread =>
      obtain ⟨failing, target_eq⟩ := step
      cases target_eq
      exact .cancelThread failing
  case freeRequest =>
      obtain ⟨failing, target_eq⟩ := step
      cases target_eq
      exact .freeRequest failing
  case unlockCollection =>
      split at step
      · rename_i started
        cases step
        exact .succeed started
      · obtain ⟨freed, target_eq⟩ :=
          Option.ite_none_right_eq_some.mp step
        cases target_eq
        exact .fail freed

variable {state target : State} {id other : JobId} {action : ApiAction}

theorem ApiStep.jobs_of_ne (step : ApiStep state id action target)
    (different : other ≠ id) :
    target.jobs other = state.jobs other := by
  cases step <;> simp [different]

/-- An API call leaves the shutdown calls and their marks, the endpoint cache
and the events alone. -/
theorem ApiStep.frame (step : ApiStep state id action target) :
    target.shutdowns = state.shutdowns ∧
      target.streamsShuttingDown = state.streamsShuttingDown ∧
      target.cachedEndpoints = state.cachedEndpoints ∧
      target.shutdown = state.shutdown ∧
      target.events = state.events := by
  cases step <;> exact ⟨rfl, rfl, rfl, rfl, rfl⟩

/-- Once a call has begun, its stream and its kind stay. -/
theorem ApiStep.identity (step : ApiStep state id action target)
    (begun : (state.jobs other).call.pc ≠ .idle) :
    (target.jobs other).call.api = (state.jobs other).call.api ∧
      (target.jobs other).streamHandle = (state.jobs other).streamHandle := by
  by_cases same : other = id
  · subst same
    cases step <;> first | contradiction | simp [Job.streamHandle]
  · rw [step.jobs_of_ne same]
    exact ⟨rfl, rfl⟩

/-- An API call inserts its own request, when its thread has been created. -/
theorem ApiStep.active_cases (step : ApiStep state id action target) :
    target.active = state.active ∨
      (state.jobs id).call.pc = .threadCreated ∧
        ¬ state.Conflict (state.jobs id) ∧
        target.jobs id = (state.jobs id).callAt .registered ∧
        target.active = Function.update state.active (state.jobs id).collection
          (state.active (state.jobs id).collection ++ [id]) := by
  cases step
  case register created noConflict =>
      exact .inr ⟨created, noConflict, by simp, rfl⟩
  all_goals exact .inl rfl

end State

end CurlApi

end KvsProducer
