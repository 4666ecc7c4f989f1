import KvsProducer.CurlApi.Coherence

/-!
# What a stream shutdown guarantees

From the moment the pass over a collection takes its lock until the stream is
unmarked, nothing of the stream is inserted in that collection; the pass sets
`terminating` on all its entries; the polls see them leave.  So the removal
finds neither collection with an entry of the stream, and a handler that has
not read its flag clear by the end of the passes stays silent for good.
-/

namespace KvsProducer

namespace CurlApi

open TransitionSystem

/-- The stage at which the pass has taken the lock of the collection. -/
def Collection.taken : Collection → Nat
  | .activeRequests => 2
  | .activeUploads => 4

/-- The stage at which the poll has found the collection without entries. -/
def Collection.drained : Collection → Nat
  | .activeRequests => 7
  | .activeUploads => 8

@[simp] theorem Collection.taken_activeRequests :
    activeRequests.taken = 2 := rfl

@[simp] theorem Collection.taken_activeUploads :
    activeUploads.taken = 4 := rfl

@[simp] theorem Collection.drained_activeRequests :
    activeRequests.drained = 7 := rfl

@[simp] theorem Collection.drained_activeUploads :
    activeUploads.drained = 8 := rfl

theorem Collection.taken_bounds (collection : Collection) :
    2 ≤ collection.taken ∧ collection.taken ≤ 4 := by
  cases collection <;> simp [taken]

theorem Collection.drained_bounds (collection : Collection) :
    7 ≤ collection.drained ∧ collection.drained ≤ 8 := by
  cases collection <;> simp [drained]

/-- The progress of a shutdown call that performs the shutdown. -/
@[simp] def ShutdownPc.stage : ShutdownPc → Nat
  | .idle | .entered | .flagged | .marking | .returned _ => 0
  | .acquiring collection => collection.taken - 1
  | .visiting collection _ => collection.taken
  | .dropping => 5
  | .polling collection => collection.drained - 1
  | .finishing => 8

theorem ShutdownPc.stage_afterVisit
    (kind : ShutdownKind) (collection : Collection) :
    (afterVisit kind collection).stage ≤ 6 ∧
      (afterVisit kind collection).stage ≤ collection.taken + 2 ∧
      collection.taken < (afterVisit kind collection).stage := by
  cases collection with
  | activeRequests => simp [afterVisit, Collection.taken]
  | activeUploads =>
      simp only [afterVisit, Collection.taken]
      split <;> simp [Collection.drained]

@[simp] theorem ShutdownPc.stage_afterPoll (collection : Collection) :
    (afterPoll collection).stage = collection.drained := by
  cases collection <;> rfl

/-- The call has passed the look at `pStreamsShuttingDown` and has not
registered its request. -/
def CallPc.Admitted (pc : CallPc) : Prop :=
  pc = .gated ∨ pc = .threadCreated

theorem CallPc.Admitted.holdsLock {pc : CallPc} (admitted : pc.Admitted) :
    pc.HoldsLock := by
  rcases admitted with rfl | rfl <;> simp [CallPc.HoldsLock]

namespace State

variable {state target final : State} {id other : JobId}

/-- What holds of the stream shutdowns in progress, among them and with
respect to the jobs of their streams. -/
structure Shutting (state : State) : Prop where
  marked : ∀ call streamHandle resetStream,
    (state.shutdowns call).kind = .stream streamHandle resetStream →
    0 < (state.shutdowns call).pc.stage →
    state.streamsShuttingDown streamHandle = true
  alone : ∀ one other streamHandle resetOne resetOther,
    (state.shutdowns one).kind = .stream streamHandle resetOne →
    (state.shutdowns other).kind = .stream streamHandle resetOther →
    0 < (state.shutdowns one).pc.stage →
    0 < (state.shutdowns other).pc.stage →
    one = other
  gateClosed : ∀ call streamHandle resetStream job,
    (state.shutdowns call).kind = .stream streamHandle resetStream →
    (state.jobs job).collection.taken ≤ (state.shutdowns call).pc.stage →
    (state.jobs job).streamHandle = streamHandle →
    ¬ (state.jobs job).call.pc.Admitted
  entries : ∀ call collection entries job,
    (state.shutdowns call).pc = .visiting collection entries →
    job ∈ entries →
    (state.jobs job).call.pc ≠ .idle ∧
      state.Targets (state.shutdowns call).kind job
  terminates : ∀ call streamHandle resetStream collection job,
    (state.shutdowns call).kind = .stream streamHandle resetStream →
    collection.taken ≤ (state.shutdowns call).pc.stage →
    job ∈ state.active collection →
    (state.jobs job).streamHandle = streamHandle →
    (state.jobs job).request.terminating = true ∨
      ∃ entries, (state.shutdowns call).pc = .visiting collection entries ∧
        job ∈ entries
  drained : ∀ call streamHandle resetStream collection job,
    (state.shutdowns call).kind = .stream streamHandle resetStream →
    collection.drained ≤ (state.shutdowns call).pc.stage →
    job ∈ state.active collection →
    (state.jobs job).streamHandle ≠ streamHandle

theorem initial_shutting : initial.Shutting where
  marked := by simp [initial]
  alone := by simp [initial]
  gateClosed := by simp [initial]
  entries := by simp [initial]
  terminates := by simp [initial]
  drained := by simp [initial]

/-! ### Steps of an API call -/

theorem ApiStep.terminating_eq {action : ApiAction}
    (step : ApiStep state id action target) :
    (target.jobs other).request.terminating =
      (state.jobs other).request.terminating := by
  by_cases same : other = id
  · subst same
    cases step <;> simp [Job.freeRequest_request]
  · rw [step.jobs_of_ne same]

theorem Coherent.begun_of_active (coherent : state.Coherent)
    {collection : Collection} {job : JobId}
    (active : job ∈ state.active collection) :
    (state.jobs job).call.pc ≠ .idle := by
  obtain ⟨-, inserted, -⟩ := (coherent.listed collection job).mp active
  rcases inserted with at_pc | at_pc | at_pc <;> simp [at_pc]

/-- A call that is admitted after a step was admitted before, or it has just
found its stream unmarked. -/
theorem ApiStep.admitted_cases {action : ApiAction}
    (step : ApiStep state id action target)
    (admitted : (target.jobs other).call.pc.Admitted) :
    (target.jobs other).call.api = (state.jobs other).call.api ∧
      (target.jobs other).streamHandle = (state.jobs other).streamHandle ∧
      ((state.jobs other).call.pc.Admitted ∨
        other = id ∧ action = .checkShuttingDown ∧
          state.streamsShuttingDown (state.jobs other).streamHandle =
            false) := by
  by_cases same : other = id
  · subst same
    cases step <;> simp_all [CallPc.Admitted]
  · rw [step.jobs_of_ne same] at admitted ⊢
    exact ⟨rfl, rfl, .inl admitted⟩

/-- A job of the stream that is in a collection after a step of an API call
was in it before, unless its call was admitted. -/
theorem Coherent.active_apiStep {action : ApiAction}
    {collection : Collection} {job : JobId}
    (coherent : state.Coherent)
    (step : ApiStep state id action target)
    (active : job ∈ target.active collection) :
    (target.jobs job).streamHandle = (state.jobs job).streamHandle ∧
      (job ∈ state.active collection ∨
        (state.jobs job).collection = collection ∧
          (state.jobs job).call.pc.Admitted) := by
  rcases step.active_cases with unchanged | ⟨created, -, registered, inserted⟩
  · rw [unchanged] at active
    exact ⟨(step.identity (coherent.begun_of_active active)).2, .inl active⟩
  · have sameStream (begun : (state.jobs job).call.pc ≠ .idle) :=
      (step.identity begun).2
    by_cases here : collection = (state.jobs id).collection
    · rw [inserted, here, Function.update_self, List.mem_append,
        List.mem_singleton] at active
      rcases active with active | rfl
      · rw [here]
        exact ⟨sameStream (coherent.begun_of_active active), .inl active⟩
      · refine ⟨sameStream (by simp [created]), .inr ⟨here.symm, ?_⟩⟩
        exact .inr created
    · rw [inserted, Function.update_of_ne here] at active
      exact ⟨sameStream (coherent.begun_of_active active), .inl active⟩

theorem Shutting.apiStep {action : ApiAction}
    (shutting : state.Shutting) (coherent : state.Coherent)
    (step : ApiStep state id action target) :
    target.Shutting where
  marked := by
    rw [step.frame.1, step.frame.2.1]
    exact shutting.marked
  alone := by
    rw [step.frame.1]
    exact shutting.alone
  gateClosed := by
    intro call streamHandle resetStream job kind taken sameStream admitted
    rw [step.frame.1] at kind taken
    obtain ⟨sameApi, keptStream, before⟩ := step.admitted_cases admitted
    rw [Job.collection, sameApi] at taken
    rw [keptStream] at sameStream
    rcases before with before | ⟨-, -, unmarked⟩
    · exact shutting.gateClosed call streamHandle resetStream job kind taken
        sameStream before
    · have performing : 0 < (state.shutdowns call).pc.stage := by
        have bounds := (state.jobs job).call.api.collection.taken_bounds
        omega
      have marked :=
        shutting.marked call streamHandle resetStream kind performing
      rw [sameStream, marked] at unmarked
      cases unmarked
  entries := by
    intro call collection entries job visiting member
    rw [step.frame.1] at visiting ⊢
    obtain ⟨begun, targeted⟩ :=
      shutting.entries call collection entries job visiting member
    constructor
    · by_cases same : job = id
      · subst same
        cases step <;> first | contradiction | simp_all
      · rwa [step.jobs_of_ne same]
    · intro streamHandle sameTarget
      rw [(step.identity begun).2]
      exact targeted streamHandle sameTarget
  terminates := by
    intro call streamHandle resetStream collection job kind taken active
      sameStream
    rw [step.frame.1] at kind taken ⊢
    rw [step.terminating_eq]
    obtain ⟨keptStream, before | ⟨here, admitted⟩⟩ :=
      coherent.active_apiStep step active
    · rw [keptStream] at sameStream
      exact shutting.terminates call streamHandle resetStream collection job
        kind taken before sameStream
    · rw [keptStream] at sameStream
      rw [← here] at taken
      exact (shutting.gateClosed call streamHandle resetStream job kind taken
        sameStream admitted).elim
  drained := by
    intro call streamHandle resetStream collection job kind drained active
      sameStream
    rw [step.frame.1] at kind drained
    obtain ⟨keptStream, before | ⟨here, admitted⟩⟩ :=
      coherent.active_apiStep step active
    · rw [keptStream] at sameStream
      exact shutting.drained call streamHandle resetStream collection job kind
        drained before sameStream
    · rw [keptStream] at sameStream
      have taken :
          (state.jobs job).collection.taken ≤
            (state.shutdowns call).pc.stage := by
        rw [here]
        have taken := collection.taken_bounds
        have bounds := collection.drained_bounds
        omega
      exact shutting.gateClosed call streamHandle resetStream job kind taken
        sameStream admitted

/-! ### Steps of a handler -/

theorem HandlerStep.terminating_eq {action : HandlerAction}
    (step : HandlerStep state id action target) :
    (target.jobs other).request.terminating =
      (state.jobs other).request.terminating := by
  rcases step.request_cases with same | ⟨-, -, freed⟩
  · rw [same]
  · rw [freed, Job.freeRequest_request]

theorem Shutting.handlerStep {action : HandlerAction}
    (shutting : state.Shutting)
    (step : HandlerStep state id action target) :
    target.Shutting where
  marked := by
    rw [step.frame.1, step.frame.2.1]
    exact shutting.marked
  alone := by
    rw [step.frame.1]
    exact shutting.alone
  gateClosed := by
    intro call streamHandle resetStream job
    rw [step.frame.1, Job.collection, Job.streamHandle, step.call_eq]
    exact shutting.gateClosed call streamHandle resetStream job
  entries := by
    intro call collection entries job visiting member
    rw [step.frame.1] at visiting ⊢
    simp only [Targets, Job.streamHandle, step.call_eq]
    exact shutting.entries call collection entries job visiting member
  terminates := by
    intro call streamHandle resetStream collection job kind taken active
    rw [step.frame.1] at kind taken ⊢
    rw [step.terminating_eq, Job.streamHandle, step.call_eq]
    exact shutting.terminates call streamHandle resetStream collection job
      kind taken (step.active_subset active)
  drained := by
    intro call streamHandle resetStream collection job kind drained active
    rw [step.frame.1] at kind drained
    rw [Job.streamHandle, step.call_eq]
    exact shutting.drained call streamHandle resetStream collection job kind
      drained (step.active_subset active)

/-! ### Steps of a shutdown call -/

theorem ShutdownStep.terminating_mono {action : ShutdownAction} {job : JobId}
    (step : ShutdownStep state id action target)
    (terminating : (state.jobs job).request.terminating = true) :
    (target.jobs job).request.terminating = true := by
  rcases step.job_cases with same | terminated
  · rwa [same]
  · rw [terminated]
    rfl

theorem ShutdownStep.mark_kept {action : ShutdownAction}
    {streamHandle : StreamHandle}
    (step : ShutdownStep state id action target)
    (marked : state.streamsShuttingDown streamHandle = true)
    (unfinished : ∀ resetStream,
      (state.shutdowns id).kind = .stream streamHandle resetStream →
      (state.shutdowns id).pc ≠ .finishing) :
    target.streamsShuttingDown streamHandle = true := by
  cases step
  case markStream marking resetStream entered kind unmarked =>
      simp [Function.update_apply, marked]
  case mark marked' kind marking succeeded =>
      have kept := markStreams_keeps marked state.activeStreams
      rwa [succeeded] at kept
  case failMark marked' kind marking failed =>
      have kept := markStreams_keeps marked state.activeStreams
      rwa [failed] at kept
  case finishStream finished resetStream finishing kind =>
      by_cases same : streamHandle = finished
      · subst same
        exact (unfinished resetStream kind finishing).elim
      · simpa [same] using marked
  all_goals exact marked

/-- A stream shutdown that performs after its step performed before it, or it
has just found its stream unmarked. -/
theorem ShutdownStep.performing_cases {action : ShutdownAction}
    {streamHandle : StreamHandle} {resetStream : Bool}
    (step : ShutdownStep state id action target)
    (kind : (target.shutdowns id).kind = .stream streamHandle resetStream)
    (performing : 0 < (target.shutdowns id).pc.stage) :
    (state.shutdowns id).kind = .stream streamHandle resetStream ∧
      (0 < (state.shutdowns id).pc.stage ∧
          (state.shutdowns id).pc ≠ .finishing ∨
        state.streamsShuttingDown streamHandle = false ∧
          target.streamsShuttingDown streamHandle = true) := by
  cases step
  case release collection visiting =>
      have bounds := collection.taken_bounds
      simp_all
      omega
  case acquire collection acquiring lockFree =>
      have bounds := collection.taken_bounds
      simp_all
      omega
  case visit collection job rest visiting => simp_all
  case poll collection polling lockFree gone =>
      have bounds := collection.drained_bounds
      simp_all
      omega
  all_goals simp_all

/-- The lock of the collection had been taken before the step, or the step
takes it. -/
theorem ShutdownStep.taken_cases {action : ShutdownAction}
    {collection : Collection}
    (step : ShutdownStep state id action target)
    (taken : collection.taken ≤ (target.shutdowns id).pc.stage) :
    (target.shutdowns id).kind = (state.shutdowns id).kind ∧
      (collection.taken ≤ (state.shutdowns id).pc.stage ∨
        state.LockFree collection ∧
          (target.shutdowns id).pc = .visiting collection
            (state.targets (state.shutdowns id).kind collection)) := by
  have bounds := collection.taken_bounds
  cases step
  case acquire acquired acquiring lockFree =>
      cases collection <;> cases acquired <;>
        simp_all [LockFree]
  case release released visiting =>
      have after :=
        ShutdownPc.stage_afterVisit (state.shutdowns id).kind released
      cases collection <;> cases released <;>
        simp_all [ShutdownPc.afterVisit]
  case poll polled polling lockFree gone =>
      have polledBounds := polled.drained_bounds
      simp_all
      omega
  all_goals simp_all <;> omega

/-- The poll had found the collection without entries before the step, or the
step is that poll. -/
theorem ShutdownStep.drained_cases {action : ShutdownAction}
    {collection : Collection}
    (step : ShutdownStep state id action target)
    (drained : collection.drained ≤ (target.shutdowns id).pc.stage) :
    (target.shutdowns id).kind = (state.shutdowns id).kind ∧
      (collection.drained ≤ (state.shutdowns id).pc.stage ∨
        state.LockFree collection ∧
          state.targets (state.shutdowns id).kind collection = []) := by
  have bounds := collection.drained_bounds
  cases step
  case acquire acquired acquiring lockFree =>
      have acquiredBounds := acquired.taken_bounds
      simp_all
      omega
  case visit visited job rest visiting =>
      have visitedBounds := visited.taken_bounds
      simp_all
  case release released visiting =>
      have after :=
        ShutdownPc.stage_afterVisit (state.shutdowns id).kind released
      simp_all
      omega
  case poll polled polling lockFree gone =>
      cases collection <;> cases polled <;>
        simp_all [ShutdownPc.afterPoll, LockFree]
  all_goals simp_all <;> omega

/-- The entries that a pass has still to visit were to be visited before, or
the step takes the lock. -/
theorem ShutdownStep.entries_cases {action : ShutdownAction}
    {collection : Collection} {entries : List JobId} {job : JobId}
    (step : ShutdownStep state id action target)
    (visiting : (target.shutdowns id).pc = .visiting collection entries)
    (member : job ∈ entries) :
    (target.shutdowns id).kind = (state.shutdowns id).kind ∧
      ((∃ before, (state.shutdowns id).pc = .visiting collection before ∧
          job ∈ before) ∨
        job ∈ state.targets (state.shutdowns id).kind collection) := by
  cases step
  case acquire acquired acquiring lockFree =>
      simp at visiting
      obtain ⟨rfl, rfl⟩ := visiting
      simp [member]
  case visit visited first rest before =>
      simp at visiting
      obtain ⟨rfl, rfl⟩ := visiting
      exact ⟨by simp, .inl ⟨_, before, List.mem_cons_of_mem _ member⟩⟩
  case release released before =>
      simp [ShutdownPc.afterVisit_ne_visiting] at visiting
  case poll polled polling lockFree gone =>
      simp [ShutdownPc.afterPoll_ne_visiting] at visiting
  all_goals simp at visiting

/-- A visit of a pass that goes on: the entry visited is terminating, the
others remain to be visited. -/
theorem ShutdownStep.visiting_cases {action : ShutdownAction}
    {collection : Collection} {entries : List JobId} {job : JobId}
    (step : ShutdownStep state id action target)
    (visiting : (state.shutdowns id).pc = .visiting collection entries)
    (member : job ∈ entries) :
    (target.jobs job).request.terminating = true ∨
      ∃ rest, (target.shutdowns id).pc = .visiting collection rest ∧
        job ∈ rest := by
  cases step
  case visit visited first rest before =>
      rw [before] at visiting
      cases visiting
      rcases List.mem_cons.mp member with rfl | remains
      · left
        simp
      · right
        exact ⟨rest, by simp, remains⟩
  case release released before =>
      rw [before] at visiting
      cases visiting
      cases member
  all_goals simp_all

theorem mem_targets {kind : ShutdownKind} {collection : Collection}
    {job : JobId} :
    job ∈ state.targets kind collection ↔
      job ∈ state.active collection ∧ state.Targets kind job := by
  simp [targets]

theorem targets_stream {streamHandle : StreamHandle} {resetStream : Bool}
    {job : JobId} :
    state.Targets (.stream streamHandle resetStream) job ↔
      (state.jobs job).streamHandle = streamHandle := by
  simp [Targets, ShutdownKind.target]

theorem Shutting.shutdownStep {action : ShutdownAction}
    (shutting : state.Shutting) (coherent : state.Coherent)
    (step : ShutdownStep state id action target) :
    target.Shutting where
  marked := by
    intro call streamHandle resetStream kind performing
    by_cases same : call = id
    · subst same
      obtain ⟨kept, ⟨before, unfinished⟩ | ⟨-, marked⟩⟩ :=
        step.performing_cases kind performing
      · have marked :=
          shutting.marked call streamHandle resetStream kept before
        exact step.mark_kept marked fun _ _ => unfinished
      · exact marked
    · rw [step.shutdowns_of_ne same] at kind performing
      have marked :=
        shutting.marked call streamHandle resetStream kind performing
      apply step.mark_kept marked
      intro resetOther kindOther finishing
      exact same (shutting.alone call id streamHandle resetStream resetOther
        kind kindOther performing (by simp [finishing]))
  alone := by
    have distinct (call : ShutdownId) (streamHandle : StreamHandle)
        (resetCall resetOwn : Bool) (different : call ≠ id)
        (kindCall : (target.shutdowns call).kind =
          .stream streamHandle resetCall)
        (kindOwn : (target.shutdowns id).kind = .stream streamHandle resetOwn)
        (performingCall : 0 < (target.shutdowns call).pc.stage)
        (performingOwn : 0 < (target.shutdowns id).pc.stage) : False := by
      rw [step.shutdowns_of_ne different] at kindCall performingCall
      obtain ⟨kept, ⟨before, -⟩ | ⟨unmarked, -⟩⟩ :=
        step.performing_cases kindOwn performingOwn
      · exact different (shutting.alone call id streamHandle resetCall resetOwn
          kindCall kept performingCall before)
      · have marked := shutting.marked call streamHandle resetCall kindCall
          performingCall
        rw [unmarked] at marked
        cases marked
    intro one other streamHandle resetOne resetOther kindOne kindOther
      performingOne performingOther
    by_cases oneOwn : one = id
    · by_cases otherOwn : other = id
      · exact oneOwn.trans otherOwn.symm
      · subst oneOwn
        exact (distinct other streamHandle resetOther resetOne otherOwn
          kindOther kindOne performingOther performingOne).elim
    · by_cases otherOwn : other = id
      · subst otherOwn
        exact (distinct one streamHandle resetOne resetOther oneOwn kindOne
          kindOther performingOne performingOther).elim
      · rw [step.shutdowns_of_ne oneOwn] at kindOne performingOne
        rw [step.shutdowns_of_ne otherOwn] at kindOther performingOther
        exact shutting.alone one other streamHandle resetOne resetOther kindOne
          kindOther performingOne performingOther
  gateClosed := by
    intro call streamHandle resetStream job kind taken sameStream admitted
    simp only [Job.collection, Job.streamHandle, step.call_eq]
      at taken sameStream admitted
    by_cases same : call = id
    · subst same
      obtain ⟨keptKind, before | ⟨lockFree, -⟩⟩ := step.taken_cases taken
      · rw [keptKind] at kind
        exact shutting.gateClosed call streamHandle resetStream job kind before
          sameStream admitted
      · have held := coherent.apiHolds job admitted.holdsLock
        rw [Job.collection, lockFree] at held
        cases held
    · rw [step.shutdowns_of_ne same] at kind taken
      exact shutting.gateClosed call streamHandle resetStream job kind taken
        sameStream admitted
  entries := by
    intro call collection entries job visiting member
    simp only [Targets, Job.streamHandle, step.call_eq]
    by_cases same : call = id
    · subst same
      obtain ⟨keptKind, ⟨before, visitingBefore, memberBefore⟩ | targeted⟩ :=
        step.entries_cases visiting member
      · rw [keptKind]
        exact shutting.entries call collection before job visitingBefore
          memberBefore
      · obtain ⟨active, targeted⟩ := mem_targets.mp targeted
        rw [keptKind]
        exact ⟨coherent.begun_of_active active, targeted⟩
    · rw [step.shutdowns_of_ne same] at visiting ⊢
      exact shutting.entries call collection entries job visiting member
  terminates := by
    intro call streamHandle resetStream collection job kind taken active
      sameStream
    rw [step.frame.1] at active
    rw [Job.streamHandle, step.call_eq] at sameStream
    by_cases same : call = id
    · subst same
      obtain ⟨keptKind, before | ⟨-, visits⟩⟩ := step.taken_cases taken
      · rw [keptKind] at kind
        rcases shutting.terminates call streamHandle resetStream collection job
          kind before active sameStream with
          terminating | ⟨entries, visiting, member⟩
        · exact .inl (step.terminating_mono terminating)
        · exact step.visiting_cases visiting member
      · rw [keptKind] at kind
        refine .inr ⟨_, visits, mem_targets.mpr ⟨active, ?_⟩⟩
        rw [kind]
        exact targets_stream.mpr sameStream
    · rw [step.shutdowns_of_ne same] at kind taken ⊢
      rcases shutting.terminates call streamHandle resetStream collection job
        kind taken active sameStream with terminating | visiting
      · exact .inl (step.terminating_mono terminating)
      · exact .inr visiting
  drained := by
    intro call streamHandle resetStream collection job kind drained active
      sameStream
    rw [step.frame.1] at active
    rw [Job.streamHandle, step.call_eq] at sameStream
    by_cases same : call = id
    · subst same
      obtain ⟨keptKind, before | ⟨-, gone⟩⟩ := step.drained_cases drained
      · rw [keptKind] at kind
        exact shutting.drained call streamHandle resetStream collection job kind
          before active sameStream
      · rw [keptKind] at kind
        have member : job ∈ state.targets (state.shutdowns call).kind
            collection := by
          rw [mem_targets, kind, targets_stream]
          exact ⟨active, sameStream⟩
        rw [gone] at member
        cases member
    · rw [step.shutdowns_of_ne same] at kind drained
      exact shutting.drained call streamHandle resetStream collection job kind
        drained active sameStream

theorem Shutting.next {action : Action}
    (shutting : state.Shutting) (coherent : state.Coherent)
    (step : state.next action = some target) :
    target.Shutting := by
  cases next_cases step with
  | api step => exact shutting.apiStep coherent step
  | handler step => exact shutting.handlerStep step
  | shutdown step => exact shutting.shutdownStep coherent step

end State

theorem Run.shutting {ok : State → Action → Prop} {state : State}
    (run : Run ok state) : state.Shutting := by
  apply run.invariant_under State.Coherent State.Shutting
  · exact State.initial_coherent
  · intro state action target coherent step
    exact coherent.next step
  · exact State.initial_shutting
  · intro state action target coherent shutting _ step
    exact shutting.next coherent step

/-! ### Isolation of the stream -/

/-- The step inserts nothing of the stream in the collection. -/
def InsertsNothing (state target : State) (streamHandle : StreamHandle)
    (collection : Collection) : Prop :=
  ∀ job ∈ target.active collection,
    (target.jobs job).streamHandle = streamHandle →
    job ∈ state.active collection

namespace State

variable {state target : State} {call : ShutdownId}
variable {streamHandle : StreamHandle} {resetStream : Bool}

theorem Shutting.insertsNothing {action : Action} {collection : Collection}
    (shutting : state.Shutting) (coherent : state.Coherent)
    (step : state.next action = some target)
    (kind : (state.shutdowns call).kind = .stream streamHandle resetStream)
    (taken : collection.taken ≤ (state.shutdowns call).pc.stage) :
    InsertsNothing state target streamHandle collection := by
  intro job active sameStream
  cases next_cases step with
  | api step =>
      obtain ⟨keptStream, before | ⟨here, admitted⟩⟩ :=
        coherent.active_apiStep step active
      · exact before
      · rw [keptStream] at sameStream
        rw [← here] at taken
        exact (shutting.gateClosed call streamHandle resetStream job kind taken
          sameStream admitted).elim
  | handler step => exact step.active_subset active
  | shutdown step => rwa [step.frame.1] at active

/-- The steps of a stream shutdown leave the jobs of other streams alone. -/
theorem Shutting.jobs_of_other_stream {action : ShutdownAction} {job : JobId}
    (shutting : state.Shutting)
    (step : ShutdownStep state call action target)
    (kind : (state.shutdowns call).kind = .stream streamHandle resetStream)
    (different : (state.jobs job).streamHandle ≠ streamHandle) :
    target.jobs job = state.jobs job := by
  cases step
  case visit collection visited rest visiting =>
      have notVisited : job ≠ visited := by
        intro same
        subst same
        obtain ⟨-, targeted⟩ := shutting.entries call collection _ job visiting
          List.mem_cons_self
        rw [kind, targets_stream] at targeted
        exact different targeted
      simp [notVisited]
  all_goals rfl

end State

/-- Stream shutdown isolates the stream.  From the moment its pass has taken
the lock of a collection nothing of the stream is inserted there; when the
stream is unmarked neither collection has an entry of it; and no job of
another stream is touched. -/
theorem streamShutdown_isolates
    {state target : State} {action : Action} {call : ShutdownId}
    {streamHandle : StreamHandle} {resetStream : Bool}
    (reachable : Reachable state)
    (step : state.next action = some target)
    (kind : (state.shutdowns call).kind = .stream streamHandle resetStream) :
    (∀ collection : Collection,
      collection.taken ≤ (state.shutdowns call).pc.stage →
      InsertsNothing state target streamHandle collection) ∧
    ((state.shutdowns call).pc = .finishing →
      ∀ collection, ∀ job ∈ state.active collection,
        (state.jobs job).streamHandle ≠ streamHandle) ∧
    (∀ own, action = .shutdown call own →
      target.active = state.active ∧
        ∀ job, (state.jobs job).streamHandle ≠ streamHandle →
          target.jobs job = state.jobs job) := by
  have coherent := Run.coherent reachable
  have shutting := Run.shutting reachable
  refine ⟨?_, ?_, ?_⟩
  · intro collection taken
    exact shutting.insertsNothing coherent step kind taken
  · intro finishing collection job active
    apply shutting.drained call streamHandle resetStream collection job kind
      _ active
    have bounds := collection.drained_bounds
    simp [finishing, bounds.2]
  · intro own ownStep
    subst ownStep
    cases State.next_cases step with
    | shutdown step =>
        refine ⟨step.frame.1, ?_⟩
        intro job different
        exact shutting.jobs_of_other_stream step kind different

/-- A stream shutdown about to unmark its stream, next to an active request of
another stream. -/
def aboutToFinish : List Action :=
  [.api 0 (.invoke .createStream 8 0), .api 0 .lockCollection,
    .api 0 .checkShuttingDown, .api 0 (.createThread true),
    .api 0 (.register true), .api 0 .releaseStart, .api 0 .unlockCollection,
    .shutdown 0 (.invokeStream 7 false), .shutdown 0 .check,
    .shutdown 0 .acquire, .shutdown 0 .release, .shutdown 0 .acquire,
    .shutdown 0 .release, .shutdown 0 .dropEndpoint, .shutdown 0 .poll,
    .shutdown 0 .poll]

theorem streamShutdown_isolates_at_finish :
    ((State.initial.after aboutToFinish).shutdowns 0).pc = .finishing ∧
      ∀ collection,
        ∀ job ∈ (State.initial.after aboutToFinish).active collection,
          ((State.initial.after aboutToFinish).jobs job).streamHandle ≠ 7 := by
  have taken : State.initial.CanTake aboutToFinish := by decide
  have isolates := @streamShutdown_isolates _ _ (.shutdown 0 .finish) 0 7 false
    (steps_stateAfter taken) rfl rfl
  exact ⟨by decide, isolates.2.1 (by decide)⟩

/-- A call is admitted, then its stream is marked. -/
def admittedBeforeMark : List Action :=
  [.api 0 (.invoke .createStream 7 0), .api 0 .lockCollection,
    .api 0 .checkShuttingDown, .shutdown 0 (.invokeStream 7 false),
    .shutdown 0 .check, .api 0 (.createThread true)]

/-- Between the mark and the pass, a call that was admitted before the mark
still inserts its request. -/
theorem inserts_after_mark :
    ¬ ∀ (state target : State) (action : Action) (call : ShutdownId)
      (streamHandle : StreamHandle) (resetStream : Bool)
      (collection : Collection),
      Reachable state → state.next action = some target →
      (state.shutdowns call).kind = .stream streamHandle resetStream →
      0 < (state.shutdowns call).pc.stage →
      InsertsNothing state target streamHandle collection := by
  intro claim
  have taken : State.initial.CanTake admittedBeforeMark := by decide
  have inserted := claim _ _ (.api 0 (.register true)) 0 7 false
    .activeRequests (steps_stateAfter taken) rfl rfl (by decide)
  exact absurd (inserted 0 (by decide) (by decide)) (by decide)

end CurlApi

end KvsProducer
