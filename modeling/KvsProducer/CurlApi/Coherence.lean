import KvsProducer.CurlApi.System
import Mathlib.Data.List.Nodup

/-!
# Coherence of calls, threads and collections

The invariant that all results on the system rest on.  Who is inside the
critical section of a collection holds its lock; how far a handler is agrees
with how far its call is; a collection lists exactly the registered jobs whose
handlers have not removed themselves; the keys of its entries are distinct, so
that an exiting handler removes and frees exactly its own request.
-/

namespace KvsProducer

namespace CurlApi

open TransitionSystem

/-- The call holds the lock of its collection. -/
def CallPc.HoldsLock (pc : CallPc) : Prop :=
  pc ≠ .idle ∧ pc ≠ .entered ∧ pc ≠ .returned true ∧ pc ≠ .returned false

/-- The call has registered its request. -/
def CallPc.Inserted (pc : CallPc) : Prop :=
  pc = .registered ∨ pc = .started ∨ pc = .returned true

/-- The thread has been created and has not passed its start lock. -/
def HandlerPc.Waiting (pc : HandlerPc) : Prop :=
  pc = .entry ∨ pc = .logging ∨ pc = .awaitStart

/-- The thread has passed its start lock. -/
def HandlerPc.Running (pc : HandlerPc) : Prop :=
  pc ≠ .absent ∧ pc ≠ .entry ∧ pc ≠ .logging ∧ pc ≠ .awaitStart ∧
    pc ≠ .cancelled ∧ pc ≠ .crashed

/-- The thread has removed itself from its collection. -/
def HandlerPc.Removed (pc : HandlerPc) : Prop :=
  pc = .notifying ∨ pc = .reporting ∨ pc = .finished

/-- How far the handler is, given how far its call is, with what holds of the
request at that point. -/
def Job.Lifecycle (job : Job) : Prop :=
  match job.call.pc with
  | .idle | .entered | .locked | .gated => job.handler.pc = .absent
  | .threadCreated | .registered =>
      job.handler.pc.Waiting ∧ job.handler.cancelPending = false ∧
        job.request.life = .live ∧ job.request.startLocked = true
  | .started | .returned true =>
      (job.handler.pc.Waiting ∨ job.handler.pc.Running) ∧
        job.handler.cancelPending = false ∧
        (¬ job.handler.pc.Removed → job.request.life = .live)
  | .failing _ =>
      job.handler.pc = .absent ∨
        (job.handler.pc.Waiting ∨ job.handler.pc = .cancelled) ∧
          job.request.life = .live ∧ job.request.startLocked = true
  | .freed | .returned false =>
      job.handler.pc = .absent ∨
        (job.handler.pc.Waiting ∨ job.handler.pc = .cancelled ∨
          job.handler.pc = .crashed) ∧ job.request.life = .freed

variable {job later : Job}

/-- A handler past its start lock belongs to a call that has launched it, and
its request is live until it removes itself. -/
theorem Job.Lifecycle.launched (lifecycle : job.Lifecycle)
    (running : job.handler.pc.Running) :
    (job.call.pc = .started ∨ job.call.pc = .returned true) ∧
      job.handler.cancelPending = false ∧
      (¬ job.handler.pc.Removed → job.request.life = .live) := by
  simp only [HandlerPc.Running] at running
  simp only [Job.Lifecycle, HandlerPc.Waiting] at lifecycle
  split at lifecycle <;> simp_all

theorem Job.Lifecycle.keep_running (lifecycle : job.Lifecycle)
    (running : job.handler.pc.Running)
    (sameCall : later.call = job.call)
    (sameLife : later.request.life = job.request.life)
    (sameCancel : later.handler.cancelPending = job.handler.cancelPending)
    (goesOn : later.handler.pc.Running)
    (order : job.handler.pc.Removed → later.handler.pc.Removed) :
    later.Lifecycle := by
  obtain ⟨launched, notPending, live⟩ := lifecycle.launched running
  have kept : (later.handler.pc.Waiting ∨ later.handler.pc.Running) ∧
      later.handler.cancelPending = false ∧
      (¬ later.handler.pc.Removed → later.request.life = .live) := by
    refine ⟨.inr goesOn, sameCancel.trans notPending, ?_⟩
    intro notRemoved
    rw [sameLife]
    exact live fun removed => notRemoved (order removed)
  rcases launched with started | returned
  · simpa only [Job.Lifecycle, sameCall, started] using kept
  · simpa only [Job.Lifecycle, sameCall, returned] using kept

theorem Job.Lifecycle.keep_waiting (lifecycle : job.Lifecycle)
    (waiting : job.handler.pc.Waiting)
    (sameCall : later.call = job.call)
    (sameRequest : later.request = job.request)
    (sameCancel : later.handler.cancelPending = job.handler.cancelPending)
    (goesOn : later.handler.pc.Waiting) :
    later.Lifecycle := by
  have notRemoved : ¬ job.handler.pc.Removed := by
    rcases waiting with at_pc | at_pc | at_pc <;>
      simp [HandlerPc.Removed, at_pc]
  have present : job.handler.pc ≠ .absent := by
    rcases waiting with at_pc | at_pc | at_pc <;> simp [at_pc]
  simp only [Job.Lifecycle, sameCall, sameRequest, sameCancel] at lifecycle ⊢
  split at lifecycle <;> simp_all

theorem Job.Lifecycle.crash (lifecycle : job.Lifecycle)
    (waiting : job.handler.pc.Waiting)
    (freed : job.request.life = .freed) :
    (job.handlerAt .crashed).Lifecycle := by
  have notRemoved : ¬ job.handler.pc.Removed := by
    rcases waiting with at_pc | at_pc | at_pc <;>
      simp [HandlerPc.Removed, at_pc]
  have present : job.handler.pc ≠ .absent := by
    rcases waiting with at_pc | at_pc | at_pc <;> simp [at_pc]
  simp only [Job.Lifecycle, Job.handlerAt_call, Job.handlerAt_request,
    Job.handlerAt_handler_pc] at lifecycle ⊢
  split at lifecycle <;> simp_all

theorem Job.Lifecycle.cancel (lifecycle : job.Lifecycle)
    (logging : job.handler.pc = .logging)
    (pending : job.handler.cancelPending = true) :
    (job.handlerAt .cancelled).Lifecycle := by
  simp only [Job.Lifecycle, Job.handlerAt_call, Job.handlerAt_request,
    Job.handlerAt_handler_pc] at lifecycle ⊢
  split at lifecycle <;> simp_all

/-- The handler passes its start lock, which only a call that has launched it
has released. -/
theorem Job.Lifecycle.acquireStart (lifecycle : job.Lifecycle)
    (awaiting : job.handler.pc = .awaitStart)
    (allocated : job.request.life ≠ .freed)
    (unlocked : job.request.startLocked = false) :
    (job.handlerAt .signing).Lifecycle := by
  simp only [Job.Lifecycle, Job.handlerAt_call, Job.handlerAt_request,
    Job.handlerAt_handler_pc, Job.handlerAt_handler_cancelPending]
    at lifecycle ⊢
  split at lifecycle <;>
    simp_all [HandlerPc.Running, HandlerPc.Removed]

/-- The job is registered in its collection. -/
def Job.Listed (job : Job) : Prop :=
  job.call.pc.Inserted ∧ ¬ job.handler.pc.Removed

theorem Job.Lifecycle.live (lifecycle : job.Lifecycle) (listed : job.Listed) :
    job.request.life = .live := by
  obtain ⟨inserted, notRemoved⟩ := listed
  simp only [Job.Lifecycle] at lifecycle
  rcases inserted with at_pc | at_pc | at_pc <;> simp_all

theorem Job.Lifecycle.listed_of_removing (lifecycle : job.Lifecycle)
    (removing : job.handler.pc = .removing) : job.Listed := by
  have running : job.handler.pc.Running := by
    simp [HandlerPc.Running, removing]
  obtain ⟨launched, -, -⟩ := lifecycle.launched running
  exact ⟨.inr launched, by simp [HandlerPc.Removed, removing]⟩

namespace State

structure Coherent (state : State) : Prop where
  apiHolds : ∀ id, (state.jobs id).call.pc.HoldsLock →
    state.activeLock (state.jobs id).collection = some (.api id)
  shutdownHolds : ∀ id collection entries,
    (state.shutdowns id).pc = .visiting collection entries →
    state.activeLock collection = some (.shutdown id)
  lifecycle : ∀ id, (state.jobs id).Lifecycle
  listed : ∀ collection id, id ∈ state.active collection ↔
    (state.jobs id).collection = collection ∧ (state.jobs id).Listed
  distinct : ∀ collection, (state.active collection).Nodup
  streams : ∀ one other, one ∈ state.active .activeRequests →
    other ∈ state.active .activeRequests →
    (state.jobs one).streamHandle = (state.jobs other).streamHandle →
    one = other
  counted : ∀ id, (state.jobs id).collection = .activeUploads →
    (state.jobs id).request.life ≠ .unallocated →
    (state.jobs id).request.uploadHandle < state.streamingRequestCount
  handles : ∀ one other, (state.jobs one).collection = .activeUploads →
    (state.jobs one).request.life ≠ .unallocated →
    (state.jobs other).collection = .activeUploads →
    (state.jobs other).request.life ≠ .unallocated →
    (state.jobs one).request.uploadHandle =
      (state.jobs other).request.uploadHandle →
    one = other

theorem initial_coherent : initial.Coherent where
  apiHolds := by simp [initial, Job.idle, CallPc.HoldsLock]
  shutdownHolds := by simp [initial]
  lifecycle := by simp [initial, Job.idle, Job.Lifecycle]
  listed := by simp [initial, Job.idle, Job.Listed, CallPc.Inserted]
  distinct := by simp [initial]
  streams := by simp [initial]
  counted := by simp [initial, Job.idle]
  handles := by simp [initial, Job.idle]

variable {state target : State} {id other : JobId}

/-! ### Steps of an API call -/

theorem Coherent.lock_kept_api {action : ApiAction} {collection : Collection}
    {owner : LockOwner}
    (coherent : state.Coherent)
    (step : ApiStep state id action target)
    (held : state.activeLock collection = some owner)
    (different : owner ≠ .api id) :
    target.activeLock collection = some owner := by
  have release (holds : (state.jobs id).call.pc.HoldsLock) :
      collection ≠ (state.jobs id).collection := by
    intro same
    have own := coherent.apiHolds id holds
    rw [← same, held] at own
    exact different (Option.some.inj own)
  cases step
  case lockCollection entered lockFree =>
      have apart : collection ≠ (state.jobs id).collection := by
        intro same
        rw [same, lockFree] at held
        cases held
      simpa [apart] using held
  case succeed started =>
      have apart := release (by simp [CallPc.HoldsLock, started])
      simpa [apart] using held
  case fail freed =>
      have apart := release (by simp [CallPc.HoldsLock, freed])
      simpa [apart] using held
  all_goals simpa using held

theorem Coherent.own_lock_api {action : ApiAction}
    (coherent : state.Coherent)
    (step : ApiStep state id action target)
    (holds : (target.jobs id).call.pc.HoldsLock) :
    target.activeLock (target.jobs id).collection = some (.api id) := by
  have own := coherent.apiHolds id
  cases step <;> simp_all [CallPc.HoldsLock]

theorem lifecycle_apiStep {action : ApiAction}
    (before : (state.jobs id).Lifecycle)
    (step : ApiStep state id action target) :
    (target.jobs id).Lifecycle := by
  cases step
  case freeRequest failing =>
      simp only [Job.Lifecycle, failing] at before
      rcases before with absent | ⟨waiting | cancelled, live, -⟩
      · simp [Job.Lifecycle, absent]
      · simp [Job.Lifecycle, waiting, live, Job.freeRequest_request]
      · simp [Job.Lifecycle, cancelled, live, Job.freeRequest_request]
  all_goals simp_all [Job.Lifecycle, HandlerPc.Waiting]

theorem Coherent.listed_apiStep {action : ApiAction}
    (coherent : state.Coherent)
    (step : ApiStep state id action target)
    (collection : Collection) (job : JobId) :
    job ∈ target.active collection ↔
      (target.jobs job).collection = collection ∧
        (target.jobs job).Listed := by
  have before := coherent.listed collection job
  by_cases same : job = id
  · subst same
    have lifecycle := coherent.lifecycle job
    cases step
    case register created noConflict =>
        simp only [Job.Lifecycle, created] at lifecycle
        have notRemoved : ¬ (state.jobs job).handler.pc.Removed := by
          rcases lifecycle.1 with at_pc | at_pc | at_pc <;>
            simp [HandlerPc.Removed, at_pc]
        by_cases here : collection = (state.jobs job).collection
        · subst here
          simp [Job.Listed, CallPc.Inserted, notRemoved]
        · have elsewhere := Ne.symm here
          simp_all [Job.Listed]
    all_goals simp_all [Job.Listed, CallPc.Inserted]
  · rw [step.jobs_of_ne same]
    rcases step.active_cases with unchanged | ⟨-, -, -, inserted⟩
    · rw [unchanged]
      exact before
    · by_cases here : collection = (state.jobs id).collection
      · subst here
        simpa [inserted, same] using before
      · simpa [inserted, here] using before

theorem Coherent.streams_apiStep {action : ApiAction}
    (coherent : state.Coherent)
    (step : ApiStep state id action target)
    (one other : JobId)
    (oneActive : one ∈ target.active .activeRequests)
    (otherActive : other ∈ target.active .activeRequests)
    (same : (target.jobs one).streamHandle =
      (target.jobs other).streamHandle) :
    one = other := by
  have begun (job : JobId) (active : job ∈ state.active .activeRequests) :
      (target.jobs job).streamHandle = (state.jobs job).streamHandle := by
    apply (step.identity _).2
    obtain ⟨-, inserted, -⟩ := (coherent.listed _ job).mp active
    rcases inserted with at_pc | at_pc | at_pc <;> simp [at_pc]
  rcases step.active_cases with
    unchanged | ⟨created, noConflict, registered, inserted⟩
  · rw [unchanged] at oneActive otherActive
    rw [begun one oneActive, begun other otherActive] at same
    exact coherent.streams one other oneActive otherActive same
  · have own :
        (target.jobs id).streamHandle = (state.jobs id).streamHandle := by
      rw [registered]
      rfl
    by_cases requests : (state.jobs id).collection = .activeRequests
    · rw [inserted, requests, Function.update_self, List.mem_append,
        List.mem_singleton] at oneActive otherActive
      have noOther (job : JobId) (active : job ∈ state.active .activeRequests)
          (equal : (state.jobs job).streamHandle =
            (state.jobs id).streamHandle) : False :=
        noConflict ⟨requests, job, active, equal⟩
      rcases oneActive with oneActive | rfl <;>
      rcases otherActive with otherActive | rfl
      · rw [begun one oneActive, begun other otherActive] at same
        exact coherent.streams one other oneActive otherActive same
      · rw [begun one oneActive, own] at same
        exact (noOther one oneActive same).elim
      · rw [begun other otherActive, own] at same
        exact (noOther other otherActive same.symm).elim
      · rfl
    · rw [inserted, Function.update_of_ne (Ne.symm requests)] at oneActive
      rw [inserted, Function.update_of_ne (Ne.symm requests)] at otherActive
      rw [begun one oneActive, begun other otherActive] at same
      exact coherent.streams one other oneActive otherActive same

/-- An upload request has its handle from before the step, or it is the one
created by the step, with the next handle. -/
theorem ApiStep.upload_cases {action : ApiAction} {job : JobId}
    (step : ApiStep state id action target)
    (upload : (target.jobs job).collection = .activeUploads)
    (allocated : (target.jobs job).request.life ≠ .unallocated) :
    ((state.jobs job).collection = .activeUploads ∧
      (state.jobs job).request.life ≠ .unallocated ∧
      (target.jobs job).request.uploadHandle =
        (state.jobs job).request.uploadHandle ∧
      state.streamingRequestCount ≤ target.streamingRequestCount) ∨
    job = id ∧
      (target.jobs job).request.uploadHandle = state.streamingRequestCount ∧
      target.streamingRequestCount = state.streamingRequestCount + 1 := by
  by_cases same : job = id
  · subst same
    cases step
    case invoke api streamHandle currentTime idle =>
        cases api <;> simp_all [Api.collection]
    case freeRequest failing =>
        by_cases live : (state.jobs job).request.life = .live
        · simp_all [Job.freeRequest_request]
        · simp_all [Job.freeRequest_request]
    all_goals simp_all
  · rw [step.jobs_of_ne same] at upload allocated ⊢
    refine .inl ⟨upload, allocated, rfl, ?_⟩
    cases step <;> simp

theorem Coherent.apiStep {action : ApiAction}
    (coherent : state.Coherent)
    (step : ApiStep state id action target) :
    target.Coherent where
  apiHolds := by
    intro job holds
    by_cases same : job = id
    · subst same
      exact coherent.own_lock_api step holds
    · rw [step.jobs_of_ne same] at holds ⊢
      apply coherent.lock_kept_api step (coherent.apiHolds job holds)
      simp [same]
  shutdownHolds := by
    intro call collection entries visiting
    rw [step.frame.1] at visiting
    exact coherent.lock_kept_api step
      (coherent.shutdownHolds call collection entries visiting) (by simp)
  lifecycle := by
    intro job
    by_cases same : job = id
    · subst same
      exact lifecycle_apiStep (coherent.lifecycle job) step
    · rw [step.jobs_of_ne same]
      exact coherent.lifecycle job
  listed := coherent.listed_apiStep step
  distinct := by
    intro collection
    rcases step.active_cases with unchanged | ⟨created, -, -, inserted⟩
    · rw [unchanged]
      exact coherent.distinct collection
    · by_cases here : collection = (state.jobs id).collection
      · have absent : id ∉ state.active collection := by
          rw [coherent.listed]
          simp [Job.Listed, CallPc.Inserted, created]
        rw [inserted, here, Function.update_self]
        rw [here] at absent
        rw [← List.concat_eq_append]
        exact (coherent.distinct _).concat absent
      · rw [inserted, Function.update_of_ne here]
        exact coherent.distinct collection
  streams := coherent.streams_apiStep step
  counted := by
    intro job upload allocated
    rcases step.upload_cases upload allocated with
      ⟨upload, allocated, handle, count⟩ | ⟨-, handle, count⟩
    · rw [handle]
      exact Nat.lt_of_lt_of_le (coherent.counted job upload allocated) count
    · rw [handle, count]
      exact Nat.lt_succ_self _
  handles := by
    intro one other oneUpload oneAllocated otherUpload otherAllocated same
    rcases step.upload_cases oneUpload oneAllocated with
      ⟨oneUpload, oneAllocated, oneHandle, -⟩ | ⟨rfl, oneHandle, -⟩ <;>
    rcases step.upload_cases otherUpload otherAllocated with
      ⟨otherUpload, otherAllocated, otherHandle, -⟩ | ⟨rfl, otherHandle, -⟩
    · exact coherent.handles one other oneUpload oneAllocated otherUpload
        otherAllocated (oneHandle.symm.trans (same.trans otherHandle))
    · have below := coherent.counted one oneUpload oneAllocated
      rw [← oneHandle, same, otherHandle] at below
      exact (Nat.lt_irrefl _ below).elim
    · have below := coherent.counted other otherUpload otherAllocated
      rw [← otherHandle, ← same, oneHandle] at below
      exact (Nat.lt_irrefl _ below).elim
    · rfl

/-! ### Steps of a handler -/

/-- An exiting handler removes exactly its own request. -/
theorem Coherent.removes_iff (coherent : state.Coherent)
    (removing : (state.jobs id).handler.pc = .removing) :
    state.Removes id other ↔ other = id := by
  have listed := (coherent.lifecycle id).listed_of_removing removing
  have member : id ∈ state.active (state.jobs id).collection :=
    (coherent.listed _ id).mpr ⟨rfl, listed⟩
  constructor
  · intro ⟨otherMember, sameStream, sameHandle⟩
    obtain ⟨sameCollection, otherListed⟩ :=
      (coherent.listed _ other).mp otherMember
    cases collection : (state.jobs id).collection with
    | activeRequests =>
        rw [collection] at member otherMember
        exact coherent.streams other id otherMember member sameStream
    | activeUploads =>
        have live := (coherent.lifecycle id).live listed
        have otherLive := (coherent.lifecycle other).live otherListed
        exact coherent.handles other id (sameCollection.trans collection)
          (by simp [otherLive]) collection (by simp [live])
          (sameHandle collection)
  · intro same
    subst same
    exact ⟨member, rfl, fun _ => rfl⟩

theorem Coherent.removed_jobs (coherent : state.Coherent)
    (removing : (state.jobs id).handler.pc = .removing) :
    ((state.setJob id
        ((state.jobs id).handlerAt .notifying)).removeActive id).jobs =
      Function.update state.jobs id
        (((state.jobs id).handlerAt .notifying).setLife .freed) := by
  have live : (state.jobs id).request.life = .live :=
    (coherent.lifecycle id).live
      ((coherent.lifecycle id).listed_of_removing removing)
  funext other
  by_cases same : other = id
  · subst same
    simp [coherent.removes_iff removing, Job.freeRequest, live]
  · simp [coherent.removes_iff removing, same]

theorem Coherent.removed_active (coherent : state.Coherent)
    (removing : (state.jobs id).handler.pc = .removing) :
    ((state.setJob id
        ((state.jobs id).handlerAt .notifying)).removeActive id).active =
      Function.update state.active (state.jobs id).collection
        ((state.active (state.jobs id).collection).filter (· ≠ id)) := by
  simp only [removeActive, removes_handlerAt, coherent.removes_iff removing]
  simp
  rfl

/-- A handler leaves the jobs of the others alone. -/
theorem Coherent.jobs_of_ne {action : HandlerAction}
    (coherent : state.Coherent)
    (step : HandlerStep state id action target)
    (different : other ≠ id) :
    target.jobs other = state.jobs other := by
  cases step
  case remove removing lockFree =>
      rw [coherent.removed_jobs removing, Function.update_of_ne different]
  all_goals simp [different]

/-- A handler that is not removing itself stays where it was in its
collection. -/
theorem HandlerStep.removed_iff {action : HandlerAction}
    (step : HandlerStep state id action target)
    (notRemove : action ≠ .remove) :
    (target.jobs id).handler.pc.Removed ↔
      (state.jobs id).handler.pc.Removed := by
  cases step
  case enter pc entry allocated next =>
      rcases next with rfl | rfl <;> simp [HandlerPc.Removed, entry]
  case remove => contradiction
  all_goals
    simp [HandlerPc.Removed, *]
    try split <;> simp

theorem HandlerStep.active_eq {action : HandlerAction}
    (step : HandlerStep state id action target)
    (notRemove : action ≠ .remove) :
    target.active = state.active := by
  cases step
  case remove => contradiction
  all_goals rfl

theorem lifecycle_handlerStep {action : HandlerAction}
    (coherent : state.Coherent)
    (step : HandlerStep state id action target) :
    (target.jobs id).Lifecycle := by
  have before := coherent.lifecycle id
  cases step
  case crashAtEntry entry freed =>
      simpa using before.crash (.inl entry) freed
  case crashAtLock awaiting freed =>
      simpa using before.crash (.inr (.inr awaiting)) freed
  case enter pc entry allocated next =>
      apply before.keep_waiting (.inl entry) <;>
        simp [HandlerPc.Waiting, next]
  case log logging =>
      apply before.keep_waiting (.inr (.inl logging)) <;>
        simp [HandlerPc.Waiting]
  case acceptCancel logging pending =>
      rw [setJob_jobs, Function.update_self]
      exact before.cancel logging pending
  case acquireStart awaiting allocated unlocked =>
      rw [setJob_jobs, Function.update_self]
      exact before.acquireStart awaiting allocated unlocked
  case remove removing lockFree =>
      rw [coherent.removed_jobs removing, Function.update_self]
      have running : (state.jobs id).handler.pc.Running := by
        simp [HandlerPc.Running, removing]
      obtain ⟨started | returned, notPending, -⟩ := before.launched running
      · simp [Job.Lifecycle, started, notPending, HandlerPc.Running,
          HandlerPc.Removed]
      · simp [Job.Lifecycle, returned, notPending, HandlerPc.Running,
          HandlerPc.Removed]
  all_goals
    apply before.keep_running <;>
      simp [*, HandlerPc.Running, HandlerPc.Removed]
    try split <;> simp

theorem Coherent.listed_handlerStep {action : HandlerAction}
    (coherent : state.Coherent)
    (step : HandlerStep state id action target)
    (collection : Collection) (job : JobId) :
    job ∈ target.active collection ↔
      (target.jobs job).collection = collection ∧
        (target.jobs job).Listed := by
  have before := coherent.listed collection job
  by_cases remove : action = .remove
  · subst remove
    cases step with
    | remove removing lockFree =>
        rw [coherent.removed_jobs removing, coherent.removed_active removing]
        by_cases same : job = id
        · subst same
          by_cases here : collection = (state.jobs job).collection
          · subst here
            simp [Job.Listed, HandlerPc.Removed]
          · have elsewhere := Ne.symm here
            simp_all [Job.Listed, HandlerPc.Removed]
        · by_cases here : collection = (state.jobs id).collection
          · subst here
            simpa [same] using before
          · simpa [same, here] using before
  · rw [step.active_eq remove]
    by_cases same : job = id
    · subst same
      simpa [Job.Listed, step.call_eq, step.removed_iff remove] using before
    · rw [coherent.jobs_of_ne step same]
      exact before

theorem HandlerStep.active_sublist {action : HandlerAction}
    (step : HandlerStep state id action target) (collection : Collection) :
    (target.active collection).Sublist (state.active collection) := by
  by_cases remove : action = .remove
  · subst remove
    cases step with
    | remove removing lockFree =>
        by_cases here : collection = (state.jobs id).collection
        · subst here
          simp
        · simp [here]
  · rw [step.active_eq remove]

theorem HandlerStep.active_subset {action : HandlerAction}
    (step : HandlerStep state id action target)
    {collection : Collection} {job : JobId}
    (member : job ∈ target.active collection) :
    job ∈ state.active collection :=
  (step.active_sublist collection).subset member

theorem HandlerStep.upload_eq {action : HandlerAction} {job : JobId}
    (step : HandlerStep state id action target)
    (upload : (target.jobs job).collection = .activeUploads)
    (allocated : (target.jobs job).request.life ≠ .unallocated) :
    (state.jobs job).collection = .activeUploads ∧
      (state.jobs job).request.life ≠ .unallocated ∧
      (target.jobs job).request.uploadHandle =
        (state.jobs job).request.uploadHandle := by
  simp only [Job.collection, step.call_eq] at upload
  rcases step.request_cases with same | ⟨-, -, freed⟩
  · rw [same] at allocated ⊢
    exact ⟨upload, allocated, rfl⟩
  · rw [freed, Job.freeRequest_request] at allocated ⊢
    refine ⟨upload, ?_, rfl⟩
    intro unallocated
    simp [unallocated] at allocated

theorem Coherent.handlerStep {action : HandlerAction}
    (coherent : state.Coherent)
    (step : HandlerStep state id action target) :
    target.Coherent where
  apiHolds := by
    intro job holds
    simp only [Job.collection, step.call_eq, step.frame.2.2.1] at holds ⊢
    exact coherent.apiHolds job holds
  shutdownHolds := by
    intro call collection entries visiting
    rw [step.frame.1] at visiting
    rw [step.frame.2.2.1]
    exact coherent.shutdownHolds call collection entries visiting
  lifecycle := by
    intro job
    by_cases same : job = id
    · subst same
      exact lifecycle_handlerStep coherent step
    · rw [coherent.jobs_of_ne step same]
      exact coherent.lifecycle job
  listed := coherent.listed_handlerStep step
  distinct := by
    intro collection
    exact (coherent.distinct collection).sublist
      (step.active_sublist collection)
  streams := by
    intro one other oneActive otherActive same
    simp only [Job.streamHandle, step.call_eq] at same
    exact coherent.streams one other (step.active_subset oneActive)
      (step.active_subset otherActive) same
  counted := by
    intro job upload allocated
    obtain ⟨upload, allocated, handle⟩ := step.upload_eq upload allocated
    rw [handle, step.frame.2.2.2.2]
    exact coherent.counted job upload allocated
  handles := by
    intro one other oneUpload oneAllocated otherUpload otherAllocated same
    obtain ⟨oneUpload, oneAllocated, oneHandle⟩ :=
      step.upload_eq oneUpload oneAllocated
    obtain ⟨otherUpload, otherAllocated, otherHandle⟩ :=
      step.upload_eq otherUpload otherAllocated
    exact coherent.handles one other oneUpload oneAllocated otherUpload
      otherAllocated (oneHandle.symm.trans (same.trans otherHandle))

/-! ### Steps of a shutdown call -/

theorem Coherent.lock_kept_shutdown {action : ShutdownAction}
    {collection : Collection} {owner : LockOwner}
    (coherent : state.Coherent)
    (step : ShutdownStep state id action target)
    (held : state.activeLock collection = some owner)
    (different : owner ≠ .shutdown id) :
    target.activeLock collection = some owner := by
  cases step
  case acquire acquired acquiring lockFree =>
      have apart : collection ≠ acquired := by
        intro same
        rw [same, lockFree] at held
        cases held
      simpa [apart] using held
  case release released visiting =>
      have own := coherent.shutdownHolds id released [] visiting
      have apart : collection ≠ released := by
        intro same
        rw [← same, held] at own
        exact different (Option.some.inj own)
      simpa [apart] using held
  all_goals simpa using held

theorem Coherent.own_lock_shutdown {action : ShutdownAction}
    {collection : Collection} {entries : List JobId}
    (coherent : state.Coherent)
    (step : ShutdownStep state id action target)
    (visiting : (target.shutdowns id).pc = .visiting collection entries) :
    target.activeLock collection = some (.shutdown id) := by
  cases step
  case acquire acquired acquiring lockFree =>
      simp at visiting
      simp [visiting]
  case visit visited job rest before =>
      simp at visiting
      obtain ⟨rfl, rfl⟩ := visiting
      exact coherent.shutdownHolds id visited (job :: rest) before
  case release released before =>
      simp [ShutdownPc.afterVisit_ne_visiting] at visiting
  case poll polled polling lockFree gone =>
      simp [ShutdownPc.afterPoll_ne_visiting] at visiting
  all_goals simp at visiting

theorem ShutdownStep.upload_eq {action : ShutdownAction} {job : JobId}
    (step : ShutdownStep state id action target)
    (upload : (target.jobs job).collection = .activeUploads)
    (allocated : (target.jobs job).request.life ≠ .unallocated) :
    (state.jobs job).collection = .activeUploads ∧
      (state.jobs job).request.life ≠ .unallocated ∧
      (target.jobs job).request.uploadHandle =
        (state.jobs job).request.uploadHandle := by
  rcases step.job_cases with same | terminated
  · rw [same] at upload allocated ⊢
    exact ⟨upload, allocated, rfl⟩
  · rw [terminated] at upload allocated ⊢
    exact ⟨upload, allocated, rfl⟩

theorem Coherent.shutdownStep {action : ShutdownAction}
    (coherent : state.Coherent)
    (step : ShutdownStep state id action target) :
    target.Coherent where
  apiHolds := by
    intro job holds
    simp only [Job.collection, step.call_eq] at holds ⊢
    exact coherent.lock_kept_shutdown step (coherent.apiHolds job holds)
      (by simp)
  shutdownHolds := by
    intro call collection entries visiting
    by_cases same : call = id
    · subst same
      exact coherent.own_lock_shutdown step visiting
    · rw [step.shutdowns_of_ne same] at visiting
      apply coherent.lock_kept_shutdown step
        (coherent.shutdownHolds call collection entries visiting)
      simp [same]
  lifecycle := by
    intro job
    have before := coherent.lifecycle job
    rcases step.job_cases with same | terminated
    · rwa [same]
    · rw [terminated]
      exact before
  listed := by
    intro collection job
    rw [step.frame.1, Job.Listed, step.handler_eq, Job.collection, step.call_eq]
    exact coherent.listed collection job
  distinct := by
    rw [step.frame.1]
    exact coherent.distinct
  streams := by
    intro one other oneActive otherActive same
    rw [step.frame.1] at oneActive otherActive
    simp only [Job.streamHandle, step.call_eq] at same
    exact coherent.streams one other oneActive otherActive same
  counted := by
    intro job upload allocated
    obtain ⟨upload, allocated, handle⟩ := step.upload_eq upload allocated
    rw [handle, step.frame.2.1]
    exact coherent.counted job upload allocated
  handles := by
    intro one other oneUpload oneAllocated otherUpload otherAllocated same
    obtain ⟨oneUpload, oneAllocated, oneHandle⟩ :=
      step.upload_eq oneUpload oneAllocated
    obtain ⟨otherUpload, otherAllocated, otherHandle⟩ :=
      step.upload_eq otherUpload otherAllocated
    exact coherent.handles one other oneUpload oneAllocated otherUpload
      otherAllocated (oneHandle.symm.trans (same.trans otherHandle))

theorem Coherent.next {action : Action}
    (coherent : state.Coherent)
    (step : state.next action = some target) :
    target.Coherent := by
  cases next_cases step with
  | api step => exact coherent.apiStep step
  | handler step => exact coherent.handlerStep step
  | shutdown step => exact coherent.shutdownStep step

end State

theorem Run.coherent {ok : State → Action → Prop} {state : State}
    (run : Run ok state) : state.Coherent :=
  run.invariant State.Coherent State.initial_coherent
    fun _ _ _ coherent _ step => coherent.next step

end CurlApi

end KvsProducer
