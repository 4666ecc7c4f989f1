import KvsProducer.CurlApi.Handler

/-!
# The shutdown calls

`shutdownStreamCurl` and `curlApiCallbacksShutdown`.  Both pass over the two
collections, setting `terminating` under the lock of the collection, and then
poll until their entries are gone.  A poll that finds an entry changes nothing:
only the last one is a step.  `terminateCurlSession`, which a pass calls on a
request that is blocked in curl, acts on the response only and is left to the
answers that the handlers get.
-/

namespace KvsProducer

namespace CurlApi

inductive ShutdownAction where
  | invokeStream (streamHandle : StreamHandle) (resetStream : Bool)
  | invokeClient
  | check
  | setShutdown
  | mark
  | acquire
  | visit
  | release
  | dropEndpoint
  | poll
  | finish
  deriving DecidableEq, Repr

/-- The size of the array that a pass over the requests of all streams copies
the table to. -/
def hashEntryCount : Nat := 2 * 100

/-- `curlApiCallbacksMarkStreamShuttingdownCallback` for the streams of the
table: `hashTablePut` fails on a stream that is marked already, which ends the
iteration.  The flag tells whether all puts succeeded. -/
def markStreams (marked : StreamHandle → Bool) :
    List StreamHandle → Bool × (StreamHandle → Bool)
  | [] => (true, marked)
  | streamHandle :: rest =>
      if marked streamHandle then (false, marked)
      else markStreams (Function.update marked streamHandle true) rest

theorem markStreams_keeps {marked : StreamHandle → Bool}
    {streamHandle : StreamHandle} (before : marked streamHandle = true)
    (streams : List StreamHandle) :
    (markStreams marked streams).2 streamHandle = true := by
  induction streams generalizing marked with
  | nil => exact before
  | cons first rest induction =>
      by_cases conflict : marked first = true
      · simpa [markStreams, conflict] using before
      · simp only [markStreams, if_neg conflict]
        apply induction
        by_cases same : streamHandle = first
        · simp [same]
        · simpa [Function.update_apply, same] using before

theorem markStreams_succeeds {marked : StreamHandle → Bool}
    {streams : List StreamHandle}
    (different : streams.Nodup)
    (unmarked : ∀ streamHandle ∈ streams, marked streamHandle = false) :
    (markStreams marked streams).1 = true := by
  induction streams generalizing marked with
  | nil => rfl
  | cons first rest induction =>
      obtain ⟨absent, restDifferent⟩ := List.nodup_cons.mp different
      simp only [markStreams, unmarked first List.mem_cons_self]
      apply induction restDifferent
      intro streamHandle member
      have other : streamHandle ≠ first := by
        intro same
        exact absent (same ▸ member)
      rw [Function.update_of_ne other]
      exact unmarked streamHandle (List.mem_cons_of_mem _ member)

theorem markStreams_marks {marked : StreamHandle → Bool}
    {streams : List StreamHandle}
    (succeeds : (markStreams marked streams).1 = true) :
    ∀ streamHandle ∈ streams,
      (markStreams marked streams).2 streamHandle = true := by
  induction streams generalizing marked with
  | nil => simp
  | cons first rest induction =>
      simp only [markStreams] at succeeds ⊢
      split at succeeds
      · cases succeeds
      · rename_i unmarked
        rw [if_neg unmarked]
        intro streamHandle listed
        rcases List.mem_cons.mp listed with rfl | later
        · exact markStreams_keeps (by simp) rest
        · exact induction succeeds streamHandle later

@[simps] def Job.terminate (job : Job) : Job :=
  { job with request := { job.request with terminating := true } }

def ShutdownPc.afterVisit (kind : ShutdownKind) : Collection → ShutdownPc
  | .activeRequests => .acquiring .activeUploads
  | .activeUploads =>
      match kind with
      | .stream _ false => .dropping
      | _ => .polling .activeRequests

def ShutdownPc.afterPoll : Collection → ShutdownPc
  | .activeRequests => .polling .activeUploads
  | .activeUploads => .finishing

theorem ShutdownPc.afterVisit_ne_visiting
    {kind : ShutdownKind} {visited collection : Collection}
    {entries : List JobId} :
    afterVisit kind visited ≠ .visiting collection entries := by
  cases visited with
  | activeRequests => simp [afterVisit]
  | activeUploads =>
      simp only [afterVisit]
      split <;> simp

theorem ShutdownPc.afterPoll_ne_visiting
    {polled collection : Collection} {entries : List JobId} :
    afterPoll polled ≠ .visiting collection entries := by
  cases polled <;> simp [afterPoll]

namespace State

/-- The entry is one that the shutdown works on. -/
def Targets (state : State) (kind : ShutdownKind) (job : JobId) : Prop :=
  ∀ streamHandle, kind.target = some streamHandle →
    (state.jobs job).streamHandle = streamHandle

instance (state : State) (kind : ShutdownKind) (job : JobId) :
    Decidable (state.Targets kind job) :=
  match target : kind.target with
  | none => .isTrue (by simp [Targets, target])
  | some streamHandle =>
      decidable_of_iff ((state.jobs job).streamHandle = streamHandle)
        (by simp [Targets, target])

/-- The entries of a collection that the shutdown works on. -/
def targets (state : State) (kind : ShutdownKind) (collection : Collection) :
    List JobId :=
  (state.active collection).filter fun job => state.Targets kind job

/-- The streams in the table of requests. -/
def activeStreams (state : State) : List StreamHandle :=
  (state.active .activeRequests).map fun job => (state.jobs job).streamHandle

def shutdownStep (state : State) (id : ShutdownId) (action : ShutdownAction) :
    Option State :=
  let call := state.shutdowns id
  match action with
  | .invokeStream streamHandle resetStream =>
      if call.pc = .idle then
        some
          { state with
            shutdowns := Function.update state.shutdowns id
              { kind := .stream streamHandle resetStream
                pc := .entered } }
      else none
  | .invokeClient =>
      if call.pc = .idle then
        some
          { state with
            shutdowns := Function.update state.shutdowns id
              { kind := .client
                pc := .entered } }
      else none
  | .check =>
      if call.pc = .entered then
        match call.kind with
        | .stream streamHandle _ =>
            if state.streamsShuttingDown streamHandle then
              some (state.setShutdown id (.returned .already))
            else
              some
                { state.setShutdown id (.acquiring .activeRequests) with
                  streamsShuttingDown :=
                    Function.update state.streamsShuttingDown streamHandle
                      true }
        | .client =>
            if state.shutdown then
              some (state.setShutdown id (.returned .already))
            else some (state.setShutdown id .flagged)
      else none
  | .setShutdown =>
      if call.pc = .flagged then
        some { state.setShutdown id .marking with shutdown := true }
      else none
  -- the table is iterated without its lock: these are its entries of one moment
  | .mark =>
      if call.kind = .client ∧ call.pc = .marking then
        let (succeeded, marked) :=
          markStreams state.streamsShuttingDown state.activeStreams
        some
          { state.setShutdown id
              (if succeeded then .acquiring .activeRequests
              else .returned .markFailed) with
            streamsShuttingDown := marked }
      else none
  | .acquire =>
      match call.pc with
      | .acquiring collection =>
          if state.LockFree collection then
            if call.kind = .client ∧ collection = .activeRequests ∧
                hashEntryCount <
                  (state.targets call.kind collection).length then
              some (state.setShutdown id (.returned .tooMany))
            else
              some ((state.setShutdown id
                (.visiting collection
                  (state.targets call.kind collection))).setLock collection
                    (some (.shutdown id)))
          else none
      | _ => none
  | .visit =>
      match call.pc with
      | .visiting collection (job :: rest) =>
          some ((state.setShutdown id (.visiting collection rest)).setJob job
            (state.jobs job).terminate)
      | _ => none
  | .release =>
      match call.pc with
      | .visiting collection [] =>
          some ((state.setShutdown id
            (.afterVisit call.kind collection)).setLock collection none)
      | _ => none
  | .dropEndpoint =>
      match call.kind with
      | .stream streamHandle _ =>
          if call.pc = .dropping then
            some
              { state.setShutdown id (.polling .activeRequests) with
                cachedEndpoints :=
                  Function.update state.cachedEndpoints streamHandle none }
          else none
      | .client => none
  | .poll =>
      match call.pc with
      | .polling collection =>
          if state.LockFree collection ∧
              state.targets call.kind collection = [] then
            some (state.setShutdown id (.afterPoll collection))
          else none
      | _ => none
  | .finish =>
      if call.pc = .finishing then
        match call.kind with
        | .stream streamHandle _ =>
            some
              { state.setShutdown id (.returned .performed) with
                streamsShuttingDown :=
                  Function.update state.streamsShuttingDown streamHandle
                    false }
        | .client =>
            some
              { state.setShutdown id (.returned .performed) with
                cachedEndpoints := fun _ => none }
      else none

/-- What the steps of a shutdown call can do. -/
inductive ShutdownStep (state : State) (id : ShutdownId) :
    ShutdownAction → State → Prop where
  | invokeStream {streamHandle : StreamHandle} {resetStream : Bool}
      (idle : (state.shutdowns id).pc = .idle) :
      ShutdownStep state id (.invokeStream streamHandle resetStream)
        { state with
          shutdowns := Function.update state.shutdowns id
            { kind := .stream streamHandle resetStream
              pc := .entered } }
  | invokeClient
      (idle : (state.shutdowns id).pc = .idle) :
      ShutdownStep state id .invokeClient
        { state with
          shutdowns := Function.update state.shutdowns id
            { kind := .client
              pc := .entered } }
  | already
      (entered : (state.shutdowns id).pc = .entered) :
      ShutdownStep state id .check (state.setShutdown id (.returned .already))
  | markStream {streamHandle : StreamHandle} {resetStream : Bool}
      (entered : (state.shutdowns id).pc = .entered)
      (kind : (state.shutdowns id).kind = .stream streamHandle resetStream)
      (unmarked : state.streamsShuttingDown streamHandle = false) :
      ShutdownStep state id .check
        { state.setShutdown id (.acquiring .activeRequests) with
          streamsShuttingDown :=
            Function.update state.streamsShuttingDown streamHandle true }
  | readShutdown
      (entered : (state.shutdowns id).pc = .entered)
      (kind : (state.shutdowns id).kind = .client) :
      ShutdownStep state id .check (state.setShutdown id .flagged)
  | setShutdown
      (flagged : (state.shutdowns id).pc = .flagged) :
      ShutdownStep state id .setShutdown
        { state.setShutdown id .marking with shutdown := true }
  | mark {marked : StreamHandle → Bool}
      (kind : (state.shutdowns id).kind = .client)
      (marking : (state.shutdowns id).pc = .marking)
      (succeeded :
        markStreams state.streamsShuttingDown state.activeStreams =
          (true, marked)) :
      ShutdownStep state id .mark
        { state.setShutdown id (.acquiring .activeRequests) with
          streamsShuttingDown := marked }
  | failMark {marked : StreamHandle → Bool}
      (kind : (state.shutdowns id).kind = .client)
      (marking : (state.shutdowns id).pc = .marking)
      (failed :
        markStreams state.streamsShuttingDown state.activeStreams =
          (false, marked)) :
      ShutdownStep state id .mark
        { state.setShutdown id (.returned .markFailed) with
          streamsShuttingDown := marked }
  | tooMany
      (acquiring : (state.shutdowns id).pc = .acquiring .activeRequests) :
      ShutdownStep state id .acquire
        (state.setShutdown id (.returned .tooMany))
  | acquire {collection : Collection}
      (acquiring : (state.shutdowns id).pc = .acquiring collection)
      (lockFree : state.LockFree collection) :
      ShutdownStep state id .acquire
        ((state.setShutdown id
          (.visiting collection
            (state.targets (state.shutdowns id).kind collection))).setLock
              collection (some (.shutdown id)))
  | visit {collection : Collection} {job : JobId} {rest : List JobId}
      (visiting :
        (state.shutdowns id).pc = .visiting collection (job :: rest)) :
      ShutdownStep state id .visit
        ((state.setShutdown id (.visiting collection rest)).setJob job
          (state.jobs job).terminate)
  | release {collection : Collection}
      (visiting : (state.shutdowns id).pc = .visiting collection []) :
      ShutdownStep state id .release
        ((state.setShutdown id
          (.afterVisit (state.shutdowns id).kind collection)).setLock
            collection none)
  | dropEndpoint {streamHandle : StreamHandle} {resetStream : Bool}
      (dropping : (state.shutdowns id).pc = .dropping)
      (kind : (state.shutdowns id).kind = .stream streamHandle resetStream) :
      ShutdownStep state id .dropEndpoint
        { state.setShutdown id (.polling .activeRequests) with
          cachedEndpoints :=
            Function.update state.cachedEndpoints streamHandle none }
  | poll {collection : Collection}
      (polling : (state.shutdowns id).pc = .polling collection)
      (lockFree : state.LockFree collection)
      (gone : state.targets (state.shutdowns id).kind collection = []) :
      ShutdownStep state id .poll
        (state.setShutdown id (.afterPoll collection))
  | finishStream {streamHandle : StreamHandle} {resetStream : Bool}
      (finishing : (state.shutdowns id).pc = .finishing)
      (kind : (state.shutdowns id).kind = .stream streamHandle resetStream) :
      ShutdownStep state id .finish
        { state.setShutdown id (.returned .performed) with
          streamsShuttingDown :=
            Function.update state.streamsShuttingDown streamHandle false }
  | finishClient
      (finishing : (state.shutdowns id).pc = .finishing)
      (kind : (state.shutdowns id).kind = .client) :
      ShutdownStep state id .finish
        { state.setShutdown id (.returned .performed) with
          cachedEndpoints := fun _ => none }

theorem shutdownStep_cases
    {state target : State} {id : ShutdownId} {action : ShutdownAction}
    (step : state.shutdownStep id action = some target) :
    ShutdownStep state id action target := by
  cases action <;> simp only [shutdownStep] at step
  case invokeStream streamHandle resetStream =>
      obtain ⟨idle, target_eq⟩ := Option.ite_none_right_eq_some.mp step
      cases target_eq
      exact .invokeStream idle
  case invokeClient =>
      obtain ⟨idle, target_eq⟩ := Option.ite_none_right_eq_some.mp step
      cases target_eq
      exact .invokeClient idle
  case check =>
      obtain ⟨entered, branch⟩ := Option.ite_none_right_eq_some.mp step
      split at branch
      · rename_i streamHandle resetStream kind
        split at branch
        · cases branch
          exact .already entered
        · rename_i unmarked
          cases branch
          exact .markStream entered kind (by simpa using unmarked)
      · rename_i kind
        split at branch
        · cases branch
          exact .already entered
        · cases branch
          exact .readShutdown entered kind
  case setShutdown =>
      obtain ⟨flagged, target_eq⟩ := Option.ite_none_right_eq_some.mp step
      cases target_eq
      exact .setShutdown flagged
  case mark =>
      obtain ⟨⟨kind, marking⟩, target_eq⟩ :=
        Option.ite_none_right_eq_some.mp step
      cases target_eq
      cases result : markStreams state.streamsShuttingDown
        state.activeStreams with
      | mk succeeded marked =>
          cases succeeded with
          | true => exact .mark kind marking result
          | false => exact .failMark kind marking result
  case acquire =>
      split at step
      · rename_i collection acquiring
        obtain ⟨lockFree, branch⟩ := Option.ite_none_right_eq_some.mp step
        split at branch
        · rename_i exceeded
          obtain ⟨-, rfl, -⟩ := exceeded
          cases branch
          exact .tooMany acquiring
        · cases branch
          exact .acquire acquiring lockFree
      · cases step
  case visit =>
      split at step
      · rename_i collection job rest visiting
        cases step
        exact .visit visiting
      · cases step
  case release =>
      split at step
      · rename_i collection visiting
        cases step
        exact .release visiting
      · cases step
  case dropEndpoint =>
      split at step
      · rename_i streamHandle resetStream kind
        obtain ⟨dropping, target_eq⟩ := Option.ite_none_right_eq_some.mp step
        cases target_eq
        exact .dropEndpoint dropping kind
      · cases step
  case poll =>
      split at step
      · rename_i collection polling
        obtain ⟨⟨lockFree, gone⟩, target_eq⟩ :=
          Option.ite_none_right_eq_some.mp step
        cases target_eq
        exact .poll polling lockFree gone
      · cases step
  case finish =>
      obtain ⟨finishing, branch⟩ := Option.ite_none_right_eq_some.mp step
      split at branch
      · rename_i streamHandle resetStream kind
        cases branch
        exact .finishStream finishing kind
      · rename_i kind
        cases branch
        exact .finishClient finishing kind

variable {state target : State} {id other : ShutdownId}
variable {action : ShutdownAction}

theorem ShutdownStep.shutdowns_of_ne
    (step : ShutdownStep state id action target) (different : other ≠ id) :
    target.shutdowns other = state.shutdowns other := by
  cases step <;> simp [different]

/-- A shutdown call leaves the collections and the events alone. -/
theorem ShutdownStep.frame (step : ShutdownStep state id action target) :
    target.active = state.active ∧
      target.streamingRequestCount = state.streamingRequestCount ∧
      target.events = state.events := by
  cases step <;> exact ⟨rfl, rfl, rfl⟩

/-- All that a shutdown call does to a job is to set `terminating`. -/
theorem ShutdownStep.job_cases {job : JobId}
    (step : ShutdownStep state id action target) :
    target.jobs job = state.jobs job ∨
      target.jobs job = (state.jobs job).terminate := by
  cases step
  case visit collection visited rest visiting =>
      by_cases same : job = visited
      · right
        subst same
        simp
      · left
        simp [same]
  all_goals exact .inl rfl

theorem ShutdownStep.call_eq {job : JobId}
    (step : ShutdownStep state id action target) :
    (target.jobs job).call = (state.jobs job).call := by
  rcases step.job_cases with same | terminated
  · rw [same]
  · rw [terminated]
    rfl

theorem ShutdownStep.handler_eq {job : JobId}
    (step : ShutdownStep state id action target) :
    (target.jobs job).handler = (state.jobs job).handler := by
  rcases step.job_cases with same | terminated
  · rw [same]
  · rw [terminated]
    rfl

end State

end CurlApi

end KvsProducer
