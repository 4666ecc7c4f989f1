import KvsProducer.CurlApi.EmulatedCalls

/-!
# The registry of uploads

`createCurlRequest` numbers the requests for streaming; the handle of an upload
is its number in 64 bits.  `dataAvailableCurl` and `fragmentAckReceivedCurl`
look an upload up by its handle, and an exiting handler removes its own request
by it.  A notification is a step of its own at any point: the lock of the list
can be taken again by the thread that holds it.
-/

namespace KvsProducer

namespace CurlApi

open TransitionSystem

def INVALID_UPLOAD_HANDLE_VALUE : Nat := 2 ^ 64 - 1

/-- `CurlRequest::uploadHandle`, of the type `UINT64` -/
def Job.uploadHandle (job : Job) : UploadHandle :=
  job.request.uploadHandle % 2 ^ 64

namespace State

/-- `findRequestWithUploadHandle` -/
def findRequestWithUploadHandle (state : State) (uploadHandle : UploadHandle) :
    Option JobId :=
  if uploadHandle = INVALID_UPLOAD_HANDLE_VALUE then none
  else
    (state.active .activeUploads).find? fun job =>
      (state.jobs job).uploadHandle = uploadHandle

/-- The entries that `curlApiCallbacksShutdownActiveUploads` works on when it is
called with the stream and the handle of an exiting handler. -/
def SelectsUpload (state : State) (id other : JobId) : Prop :=
  other ∈ state.active .activeUploads ∧
    (state.jobs other).streamHandle = (state.jobs id).streamHandle ∧
    ((state.jobs id).uploadHandle = INVALID_UPLOAD_HANDLE_VALUE ∨
      (state.jobs id).uploadHandle = (state.jobs other).uploadHandle)

/-- The job has an upload request, which may have been freed. -/
def IsUpload (state : State) (job : JobId) : Prop :=
  (state.jobs job).collection = .activeUploads ∧
    (state.jobs job).request.life ≠ .unallocated

end State

/-- What PIC tells an upload.  Whether its response is at the end of the stream
is up to the response. -/
inductive Notification where
  | dataAvailable (uploadHandle : UploadHandle)
  | fragmentAck (uploadHandle : UploadHandle) (persisted : Bool)
  deriving DecidableEq, Repr

def Notification.uploadHandle : Notification → UploadHandle
  | .dataAvailable uploadHandle => uploadHandle
  | .fragmentAck uploadHandle _ => uploadHandle

/-- The upload whose response is notified by `dataAvailableCurl` or
`fragmentAckReceivedCurl`. -/
def State.notified (state : State) (endOfStream : Bool)
    (notification : Notification) : Option JobId := do
  let job ← state.findRequestWithUploadHandle notification.uploadHandle
  if endOfStream then none
  else
    match notification with
    | .dataAvailable _ =>
        if (state.jobs job).request.terminating then none else some job
    | .fragmentAck _ persisted => if persisted then some job else none

/-- The callbacks with the notifications that have been delivered. -/
structure UploadRegistry where
  state : State
  delivered : List (UploadHandle × JobId)

inductive UploadAction where
  | step (action : Action)
  | notify (notification : Notification) (endOfStream : Bool)
  deriving DecidableEq, Repr

namespace UploadRegistry

def initial : UploadRegistry :=
  { state := .initial
    delivered := [] }

def next (registry : UploadRegistry) : UploadAction → Option UploadRegistry
  | .step action =>
      (registry.state.next action).map fun target =>
        { registry with state := target }
  | .notify notification endOfStream =>
      match registry.state.notified endOfStream notification with
      | none => some registry
      | some job =>
          some
            { registry with
              delivered := registry.delivered ++
                [(notification.uploadHandle, job)] }

end UploadRegistry

/-- The handles tell the uploads apart. -/
structure State.TellsUploads (state : State) : Prop where
  distinct : ∀ one other, state.IsUpload one → state.IsUpload other →
    (state.jobs one).uploadHandle = (state.jobs other).uploadHandle →
    one = other
  valid : ∀ job, state.IsUpload job →
    (state.jobs job).uploadHandle ≠ INVALID_UPLOAD_HANDLE_VALUE

/-- The handle of an upload that has been registered, of one that was there
before, and of one that failed: no two are the same.  A look-up finds the
registered upload with the handle; an exiting handler removes and frees its own
request; a notification has gone to the upload with the handle. -/
structure UploadRegistry.Sound (registry : UploadRegistry) : Prop where
  tells : registry.state.TellsUploads
  registered : (registry.state.active .activeUploads).Nodup ∧
    ∀ job ∈ registry.state.active .activeUploads,
      registry.state.IsUpload job ∧
        (registry.state.jobs job).request.life = .live
  finds : ∀ uploadHandle job,
    registry.state.findRequestWithUploadHandle uploadHandle = some job ↔
      job ∈ registry.state.active .activeUploads ∧
        (registry.state.jobs job).uploadHandle = uploadHandle
  exits : ∀ id target, (registry.state.jobs id).collection = .activeUploads →
    registry.state.next (.handler id .remove) = some target →
    (∀ other, registry.state.SelectsUpload id other ↔ other = id) ∧
      target.active = Function.update registry.state.active .activeUploads
        ((registry.state.active .activeUploads).filter (· ≠ id)) ∧
      (registry.state.jobs id).request.life = .live ∧
      (target.jobs id).request.life = .freed ∧
      ∀ other, other ≠ id → target.jobs other = registry.state.jobs other
  delivers : ∀ uploadHandle job, (uploadHandle, job) ∈ registry.delivered →
    registry.state.IsUpload job ∧
      (registry.state.jobs job).uploadHandle = uploadHandle

namespace State

variable {state target : State} {id job : JobId}

/-- While the numbers fit, they are the handles. -/
theorem Coherent.tellsUploads (coherent : state.Coherent)
    (few : state.streamingRequestCount < 2 ^ 64) : state.TellsUploads := by
  have number (job : JobId) (upload : state.IsUpload job) :
      (state.jobs job).uploadHandle =
          (state.jobs job).request.uploadHandle ∧
        (state.jobs job).request.uploadHandle < 2 ^ 64 - 1 := by
    have below : @LT.lt Nat _ (state.jobs job).request.uploadHandle
        state.streamingRequestCount :=
      coherent.counted job upload.1 upload.2
    refine ⟨Nat.mod_eq_of_lt (Nat.lt_trans below few), ?_⟩
    exact Nat.lt_of_lt_of_le below (Nat.le_sub_one_of_lt few)
  constructor
  case distinct =>
      intro one other oneUpload otherUpload same
      rw [(number one oneUpload).1, (number other otherUpload).1] at same
      exact coherent.handles one other oneUpload.1 oneUpload.2 otherUpload.1
        otherUpload.2 same
  case valid =>
      intro job upload
      obtain ⟨same, below⟩ := number job upload
      rw [same]
      exact Nat.ne_of_lt below

theorem Coherent.registered (coherent : state.Coherent)
    (listed : job ∈ state.active .activeUploads) :
    state.IsUpload job ∧ (state.jobs job).request.life = .live ∧
      (state.jobs job).call.pc ≠ .idle := by
  obtain ⟨upload, inList⟩ := (coherent.listed _ _).mp listed
  have live := (coherent.lifecycle job).live inList
  refine ⟨⟨upload, by simp [live]⟩, live, ?_⟩
  rcases inList.1 with at_pc | at_pc | at_pc <;> simp [at_pc]

theorem findRequestWithUploadHandle_iff (coherent : state.Coherent)
    (tells : state.TellsUploads) {uploadHandle : UploadHandle} :
    state.findRequestWithUploadHandle uploadHandle = some job ↔
      job ∈ state.active .activeUploads ∧
        (state.jobs job).uploadHandle = uploadHandle := by
  unfold findRequestWithUploadHandle
  constructor
  · intro found
    split at found
    · cases found
    · refine ⟨List.mem_of_find?_eq_some found, ?_⟩
      simpa using List.find?_some found
  · rintro ⟨listed, rfl⟩
    have upload := (coherent.registered listed).1
    rw [if_neg (tells.valid job upload)]
    cases found : (state.active .activeUploads).find? fun other =>
        (state.jobs other).uploadHandle = (state.jobs job).uploadHandle with
    | none =>
        have missed := List.find?_eq_none.mp found job listed
        simp at missed
    | some other =>
        have otherUpload :=
          (coherent.registered (List.mem_of_find?_eq_some found)).1
        have same := List.find?_some found
        rw [tells.distinct other job otherUpload upload (by simpa using same)]

/-- Among the registered uploads an exiting handler selects its own. -/
theorem selectsUpload_iff {other : JobId} (coherent : state.Coherent)
    (tells : state.TellsUploads) (listed : id ∈ state.active .activeUploads) :
    state.SelectsUpload id other ↔ other = id := by
  have upload := (coherent.registered listed).1
  constructor
  · rintro ⟨otherListed, -, invalid | same⟩
    · exact (tells.valid id upload invalid).elim
    · exact tells.distinct other id (coherent.registered otherListed).1 upload
        same.symm
  · rintro rfl
    exact ⟨listed, rfl, .inr rfl⟩

theorem exit_upload (coherent : state.Coherent) (tells : state.TellsUploads)
    (upload : (state.jobs id).collection = .activeUploads)
    (exits : state.next (.handler id .remove) = some target) :
    (∀ other, state.SelectsUpload id other ↔ other = id) ∧
      target.active = Function.update state.active .activeUploads
        ((state.active .activeUploads).filter (· ≠ id)) ∧
      (state.jobs id).request.life = .live ∧
      (target.jobs id).request.life = .freed ∧
      ∀ other, other ≠ id → target.jobs other = state.jobs other := by
  cases next_cases exits with
  | handler step =>
      have keeps (other : JobId) (different : other ≠ id) :=
        coherent.jobs_of_ne step different
      cases step with
      | remove removing lockFree =>
          have inList := (coherent.lifecycle id).listed_of_removing removing
          have listed : id ∈ state.active .activeUploads :=
            (coherent.listed _ _).mpr ⟨upload, inList⟩
          refine ⟨fun other => selectsUpload_iff coherent tells listed, ?_,
            (coherent.lifecycle id).live inList, ?_, keeps⟩
          · rw [coherent.removed_active removing, upload]
          · rw [coherent.removed_jobs removing, Function.update_self]
            rfl

theorem freeRequest_keeps {job : Job}
    (allocated : job.request.life ≠ .unallocated) :
    job.freeRequest.request.life ≠ .unallocated ∧
      job.freeRequest.request.uploadHandle = job.request.uploadHandle := by
  rw [Job.freeRequest_request]
  refine ⟨?_, rfl⟩
  simp only
  split
  · simp
  · exact allocated

theorem next_keeps_request {action : Action}
    (step : state.next action = some target)
    (allocated : (state.jobs job).request.life ≠ .unallocated)
    (begun : (state.jobs job).call.pc ≠ .idle) :
    (target.jobs job).request.life ≠ .unallocated ∧
      (target.jobs job).request.uploadHandle =
        (state.jobs job).request.uploadHandle := by
  cases next_cases step with
  | @api id _ _ step =>
      by_cases same : job = id
      · subst same
        cases step
        case invoke idle => exact (begun idle).elim
        case createRequest unallocated => exact (allocated unallocated).elim
        case freeRequest failing =>
            simpa using freeRequest_keeps allocated
        all_goals simpa using allocated
      · rw [step.jobs_of_ne same]
        exact ⟨allocated, rfl⟩
  | handler step =>
      rcases step.request_cases with same | ⟨-, -, freed⟩
      · rw [same]
        exact ⟨allocated, rfl⟩
      · rw [freed]
        exact freeRequest_keeps allocated
  | shutdown step =>
      rcases step.job_cases with same | terminated
      · rw [same]
        exact ⟨allocated, rfl⟩
      · rw [terminated]
        exact ⟨allocated, rfl⟩

theorem next_keeps_call {action : Action}
    (step : state.next action = some target)
    (begun : (state.jobs job).call.pc ≠ .idle) :
    (target.jobs job).call.api = (state.jobs job).call.api ∧
      (target.jobs job).call.pc ≠ .idle := by
  cases next_cases step with
  | api step => exact ⟨(step.identity begun).1, step.begun_kept begun⟩
  | handler step =>
      rw [step.call_eq]
      exact ⟨rfl, begun⟩
  | shutdown step =>
      rw [step.call_eq]
      exact ⟨rfl, begun⟩

end State

/-- Who has been notified is the upload with the handle. -/
def UploadRegistry.Delivers (registry : UploadRegistry) : Prop :=
  ∀ uploadHandle job, (uploadHandle, job) ∈ registry.delivered →
    registry.state.IsUpload job ∧
      (registry.state.jobs job).call.pc ≠ .idle ∧
      (registry.state.jobs job).uploadHandle = uploadHandle

namespace UploadRegistry

variable {registry target : UploadRegistry}

theorem notified_cases {state : State} (coherent : state.Coherent)
    {endOfStream : Bool} {notification : Notification} {job : JobId}
    (notifies : state.notified endOfStream notification = some job) :
    state.IsUpload job ∧ (state.jobs job).call.pc ≠ .idle ∧
      (state.jobs job).uploadHandle = notification.uploadHandle := by
  simp only [State.notified, Option.bind_eq_bind,
    Option.bind_eq_some_iff] at notifies
  obtain ⟨other, found, delivered⟩ := notifies
  have same : other = job := by
    split at delivered
    · cases delivered
    · cases notification <;> simp_all
  subst same
  unfold State.findRequestWithUploadHandle at found
  split at found
  · cases found
  · obtain ⟨upload, -, begun⟩ :=
      coherent.registered (List.mem_of_find?_eq_some found)
    exact ⟨upload, begun, by simpa using List.find?_some found⟩

theorem Delivers.next {action : UploadAction} (delivers : registry.Delivers)
    (coherent : registry.state.Coherent)
    (step : registry.next action = some target) : target.Delivers := by
  cases action with
  | step action =>
      obtain ⟨state, next, rfl⟩ := Option.map_eq_some_iff.mp step
      intro uploadHandle job delivered
      obtain ⟨⟨upload, allocated⟩, begun, rfl⟩ :=
        delivers uploadHandle job delivered
      obtain ⟨stillAllocated, handle⟩ :=
        State.next_keeps_request next allocated begun
      obtain ⟨api, stillBegun⟩ := State.next_keeps_call next begun
      refine ⟨⟨?_, stillAllocated⟩, stillBegun, congrArg (· % 2 ^ 64) handle⟩
      rw [Job.collection, api]
      exact upload
  | notify notification endOfStream =>
      simp only [UploadRegistry.next] at step
      split at step
      · cases step
        exact delivers
      · rename_i job notifies
        cases step
        intro uploadHandle other delivered
        rcases List.mem_append.mp delivered with before | last
        · exact delivers uploadHandle other before
        · cases List.mem_singleton.mp last
          exact notified_cases coherent notifies

theorem coherent_next {action : UploadAction}
    (coherent : registry.state.Coherent)
    (step : registry.next action = some target) : target.state.Coherent := by
  cases action with
  | step action =>
      obtain ⟨state, next, rfl⟩ := Option.map_eq_some_iff.mp step
      exact coherent.next next
  | notify notification endOfStream =>
      simp only [UploadRegistry.next] at step
      split at step <;> cases step <;> exact coherent

end UploadRegistry

/-- In every run in which fewer than 2^64 requests have been constructed for
streaming, the registry is sound. -/
theorem uploads_sound {registry : UploadRegistry}
    (run : Reaches UploadRegistry.next .initial registry)
    (few : registry.state.streamingRequestCount < 2 ^ 64) :
    registry.Sound := by
  obtain ⟨coherent, delivers⟩ :
      registry.state.Coherent ∧ registry.Delivers := by
    apply run.invariant fun registry =>
      registry.state.Coherent ∧ registry.Delivers
    · refine ⟨State.initial_coherent, ?_⟩
      intro uploadHandle job delivered
      cases delivered
    · intro before action after held _ step
      exact ⟨UploadRegistry.coherent_next held.1 step,
        held.2.next held.1 step⟩
  have tells := coherent.tellsUploads few
  constructor
  case tells => exact tells
  case registered =>
      refine ⟨coherent.distinct _, fun job listed => ?_⟩
      obtain ⟨upload, live, -⟩ := coherent.registered listed
      exact ⟨upload, live⟩
  case finds =>
      intro uploadHandle job
      exact State.findRequestWithUploadHandle_iff coherent tells
  case exits =>
      intro id target upload exits
      exact State.exit_upload coherent tells upload exits
  case delivers =>
      intro uploadHandle job delivered
      obtain ⟨upload, -, handle⟩ := delivers uploadHandle job delivered
      exact ⟨upload, handle⟩

/-! ### Some runs -/

/-- An upload of the stream is replaced by another one while it still runs. -/
def rotationRun : List UploadAction :=
  let putStream (job : JobId) : List Action :=
    [.api job (.invoke .putStream 7 0), .api job .lockCollection,
      .api job .checkShuttingDown, .api job (.createRequest true),
      .api job (.createThread true), .api job (.register true),
      .api job .releaseStart, .api job .unlockCollection, .handler job .enter]
  let failed : List Action :=
    [.api 1 (.invoke .putStream 7 0), .api 1 .lockCollection,
      .api 1 .checkShuttingDown, .api 1 .abandonRequest, .api 1 .freeRequest,
      .api 1 .unlockCollection]
  let exit : List Action :=
    [.handler 0 .acquireStart, .handler 0 (.prepare .invalidOperation),
      .handler 0 .readTerminating, .handler 0 .remove]
  (putStream 0 ++ failed ++ putStream 2).map .step ++
    [.notify (.dataAvailable 2) false, .notify (.dataAvailable 1) false] ++
    exit.map .step ++
    [.notify (.fragmentAck 0 true) false, .notify (.fragmentAck 2 true) false]

theorem uploads_sound_rotationRun :
    let registry := stateAfter UploadRegistry.next (fun _ _ => True) .initial
      rotationRun
    registry.state.active .activeUploads = [2] ∧
      registry.delivered = [(2, 2), (2, 2)] ∧ registry.Sound := by
  have taken : (replay UploadRegistry.next (fun _ _ => True) .initial
      rotationRun).isSome = true := by
    decide +kernel
  refine ⟨by decide +kernel, by decide +kernel,
    uploads_sound (steps_stateAfter taken) ?_⟩
  have three : (stateAfter UploadRegistry.next (fun _ _ => True) .initial
      rotationRun).state.streamingRequestCount = 3 := by
    decide +kernel
  rw [three]
  decide

namespace State

variable {state : State} {id : JobId}

/-- A call of `putStreamCurl` up to the construction of its request. -/
theorem reaches_gated {streamHandle : StreamHandle}
    (idle : state.jobs id = .idle)
    (lockFree : state.LockFree .activeUploads)
    (unmarked : state.streamsShuttingDown streamHandle = false) :
    ∃ gated, Reaches State.next state gated ∧
      (gated.jobs id).call.api = .putStream ∧
      (gated.jobs id).call.pc = .gated ∧
      (gated.jobs id).request.life = .unallocated ∧
      gated.streamsShuttingDown = state.streamsShuttingDown ∧
      gated.streamingRequestCount = state.streamingRequestCount ∧
      gated.active = state.active ∧
      ∀ other, other ≠ id → gated.jobs other = state.jobs other := by
  let entered := state.setJob id (Job.idle.invoke .putStream streamHandle 0)
  let locked := (entered.setJob id
    ((entered.jobs id).callAt .locked)).setLock .activeUploads (some (.api id))
  let gated := locked.setJob id ((locked.jobs id).callAt .gated)
  have invoke : state.next (.api id (.invoke .putStream streamHandle 0)) =
      some entered := by
    simp [State.next, State.apiStep, idle, Job.idle, entered]
  have lock : entered.next (.api id .lockCollection) = some locked := by
    simpa [State.next, State.apiStep, Api.collection, entered, locked]
      using lockFree
  have look : locked.next (.api id .checkShuttingDown) = some gated := by
    simp [State.next, State.apiStep, entered, locked, gated, unmarked]
  refine ⟨gated, .tail (.tail (.tail .refl trivial invoke) trivial lock)
    trivial look, ?_⟩
  refine ⟨?_, ?_, ?_, rfl, rfl, rfl, ?_⟩
  · simp [gated, locked, entered]
  · simp [gated]
  · simp [gated, locked, entered]
  · intro other different
    simp [gated, locked, entered, different]

/-- The construction fails when it has counted the request. -/
theorem reaches_abandoned {streamHandle : StreamHandle}
    (idle : state.jobs id = .idle)
    (lockFree : state.LockFree .activeUploads)
    (unmarked : state.streamsShuttingDown streamHandle = false) :
    ∃ target, Reaches State.next state target ∧
      target.LockFree .activeUploads ∧
      target.streamsShuttingDown = state.streamsShuttingDown ∧
      target.streamingRequestCount = state.streamingRequestCount + 1 ∧
      target.active = state.active ∧
      ∀ other, other ≠ id → target.jobs other = state.jobs other := by
  obtain ⟨gated, reached, isPut, atGate, unallocated, marks, count, active,
    others⟩ := reaches_gated idle lockFree unmarked
  let failed : State :=
    { gated.setJob id ((gated.jobs id).callAt (.failing false))
      with streamingRequestCount := gated.streamingRequestCount + 1 }
  let freed := failed.setJob id ((failed.jobs id).freeRequest.callAt .freed)
  let target := (freed.setJob id
    ((freed.jobs id).callAt (.returned false))).setLock .activeUploads none
  have abandon : gated.next (.api id .abandonRequest) = some failed := by
    simp [State.next, State.apiStep, atGate, unallocated, failed]
  have free : failed.next (.api id .freeRequest) = some freed := by
    simp [State.next, State.apiStep, failed, freed]
  have unlock : freed.next (.api id .unlockCollection) = some target := by
    simp [State.next, State.apiStep, freed, target, failed, isPut,
      Api.collection]
  refine ⟨target, .tail (.tail (.tail reached trivial abandon) trivial free)
    trivial unlock, by simp [target, LockFree], marks, congrArg (· + 1) count, active,
    ?_⟩
  intro other different
  rw [← others other different]
  simp [target, freed, failed, different]

theorem reaches_registered {streamHandle : StreamHandle}
    (idle : state.jobs id = .idle)
    (lockFree : state.LockFree .activeUploads)
    (unmarked : state.streamsShuttingDown streamHandle = false) :
    ∃ target, Reaches State.next state target ∧
      target.LockFree .activeUploads ∧
      target.streamsShuttingDown = state.streamsShuttingDown ∧
      target.streamingRequestCount = state.streamingRequestCount + 1 ∧
      target.active .activeUploads = state.active .activeUploads ++ [id] ∧
      (target.jobs id).request.uploadHandle = state.streamingRequestCount ∧
      ∀ other, other ≠ id → target.jobs other = state.jobs other := by
  obtain ⟨gated, reached, isPut, atGate, unallocated, marks, count, active,
    others⟩ := reaches_gated idle lockFree unmarked
  let created : State :=
    { gated.setJob id
        ((gated.jobs id).createUpload gated.streamingRequestCount)
      with streamingRequestCount := gated.streamingRequestCount + 1 }
  let threaded := created.setJob id (created.jobs id).createThread
  let registered := (threaded.setJob id
    ((threaded.jobs id).callAt .registered)).setActive .activeUploads
      (threaded.active .activeUploads ++ [id])
  let started := registered.setJob id
    (((registered.jobs id).callAt .started).setStartLocked false)
  let target := (started.setJob id
    ((started.jobs id).callAt (.returned true))).setLock .activeUploads none
  have create : gated.next (.api id (.createRequest true)) =
      some created := by
    simp [State.next, State.apiStep, atGate, unallocated, created]
  have thread : created.next (.api id (.createThread true)) =
      some threaded := by
    simp [State.next, State.apiStep, atGate, created, threaded]
  have register : threaded.next (.api id (.register true)) =
      some registered := by
    simp [State.next, State.apiStep, State.Conflict, threaded, created,
      registered, isPut, Api.collection]
  have start : registered.next (.api id .releaseStart) = some started := by
    simp [State.next, State.apiStep, registered, started]
  have unlock : started.next (.api id .unlockCollection) = some target := by
    simp [State.next, State.apiStep, started, target, registered, threaded,
      created, isPut, Api.collection]
  refine ⟨target, .tail (.tail (.tail (.tail (.tail reached trivial create)
    trivial thread) trivial register) trivial start) trivial unlock,
    by simp [target, LockFree], marks, congrArg (· + 1) count, ?_, ?_, ?_⟩
  · simp [target, started, registered, threaded, created, active]
  · simp [target, started, registered, threaded, created, count]
  · intro other different
    rw [← others other different]
    simp [target, started, registered, threaded, created, different]


/-- An upload is registered, and more requests are constructed and fail. -/
theorem reaches_counted (count : Nat) :
    ∃ state, Reachable state ∧ state.LockFree .activeUploads ∧
      state.streamsShuttingDown 7 = false ∧
      state.streamingRequestCount = count + 1 ∧
      state.active .activeUploads = [0] ∧
      (state.jobs 0).request.uploadHandle = 0 ∧
      ∀ job : Nat, count < job → state.jobs job = .idle := by
  induction count with
  | zero =>
      obtain ⟨target, reached, lockFree, marks, counted, active, handle,
        others⟩ := @reaches_registered .initial 0 7 rfl rfl rfl
      refine ⟨target, reached, lockFree, congrFun marks 7, counted, active,
        handle, ?_⟩
      intro job later
      exact others job (Nat.ne_of_gt later)
  | succ count induction =>
      obtain ⟨state, reachable, lockFree, unmarked, counted, active, handle,
        idle⟩ := induction
      obtain ⟨target, reached, stillFree, marks, more, sameActive, others⟩ :=
        reaches_abandoned (idle (count + 1) (Nat.lt_succ_self count)) lockFree
          unmarked
      refine ⟨target, reachable.trans reached, stillFree,
        (congrFun marks 7).trans unmarked, ?_, ?_, ?_, ?_⟩
      · rw [more, counted]
      · rw [sameActive, active]
      · rw [others 0 (Nat.succ_ne_zero count).symm, handle]
      · intro job later
        rw [others job (Nat.ne_of_gt later)]
        exact idle job (Nat.lt_of_succ_lt later)

end State

theorem reaches_registry {state : State} (reached : Reachable state) :
    Reaches UploadRegistry.next .initial
      { state := state
        delivered := [] } := by
  induction reached with
  | refl => exact .refl
  | @tail middle final action _ _ step reached =>
      have same : UploadRegistry.next
          { state := middle
            delivered := [] } (.step action) =
          some
            { state := final
              delivered := [] } := by
        simp [UploadRegistry.next, step]
      exact .tail reached trivial same

/-- After 2^64 requests the handles begin again: two uploads are registered with
the handle 0. -/
theorem uploads_collide :
    ¬ ∀ registry : UploadRegistry,
      Reaches UploadRegistry.next .initial registry → registry.Sound := by
  intro claim
  obtain ⟨state, reachable, lockFree, unmarked, counted, active, handle,
    idle⟩ := State.reaches_counted (2 ^ 64 - 1)
  obtain ⟨target, reached, -, -, -, registered, last, others⟩ :=
    State.reaches_registered
      (idle (2 ^ 64) (Nat.pred_lt_of_lt (Nat.two_pow_pos 64))) lockFree unmarked
  have sound := claim _ (reaches_registry (reachable.trans reached))
  have first : (target.jobs 0).uploadHandle = 0 := by
    rw [Job.uploadHandle, others 0 (Nat.ne_of_lt (Nat.two_pow_pos 64)), handle,
      Nat.zero_mod]
  have second : (target.jobs (2 ^ 64 : Nat)).uploadHandle = 0 := by
    rw [Job.uploadHandle, last, counted,
      Nat.sub_add_cancel (Nat.two_pow_pos 64), Nat.mod_self]
  have listed (job : JobId) (isOne : job ∈ [0, 2 ^ 64]) :
      target.IsUpload job := by
    refine (sound.registered.2 job ?_).1
    rw [registered, active]
    exact isOne
  have same := sound.tells.distinct 0 (2 ^ 64 : Nat)
    (listed 0 List.mem_cons_self) (listed _ (by simp))
    (first.trans second.symm)
  exact Nat.ne_of_lt (Nat.two_pow_pos 64) same

end CurlApi

end KvsProducer
