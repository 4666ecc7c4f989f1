import KvsProducer.CurlApi.StreamShutdown

/-!
# The threads of getStreamingEndpoint

`getStreamingEndpointCurlHandler` is given the answers of its environment in
advance; a handler thread of the system gets them step by step, among the steps
of all other threads.  Every such thread computes what the function computes
from the answers that the thread was given.
-/

namespace KvsProducer

namespace CurlApi

open TransitionSystem

/-- The handler has been given the answers of the environment, and where it
has seen `terminating` set, the flag is still set. -/
structure Job.AnsweredBy (job : Job) (env : HandlerEnv) : Prop where
  transfer : job.handler.transfer = env.performed
  terminating : env.terminatingFrom ≤ 3 → job.request.terminating = true

/-- The response is as it was initialised. -/
structure Handler.Fresh (handler : Handler) : Prop where
  transfer : handler.transfer = none
  callInfo : handler.callInfo = .initial

/-- How far a handler thread is in the computation of the function. -/
def Job.Follows (job : Job) : Prop :=
  match job.handler.pc with
  | .performed =>
      ∃ transfer, job.handler.transfer = some transfer ∧
        job.handler.callInfo = .received transfer
  | .afterCall =>
      ∃ env, job.AnsweredBy env ∧ env.signStatus = .success ∧
        curlCompleteSync env = (.success, job.handler.callInfo)
  | .storing =>
      job.call.api = .getStreamingEndpoint ∧
        job.handler.retStatus = .success ∧
        ∃ env, job.AnsweredBy env ∧
          completeCall env =
            (.success, job.handler.streamingEndpoint, job.handler.callInfo)
  | .exiting =>
      job.call.api = .getStreamingEndpoint →
        ∃ env, job.AnsweredBy env ∧
          completeCall env =
            (job.handler.retStatus, job.handler.streamingEndpoint,
              job.handler.callInfo)
  | .removing | .notifying =>
      job.call.api = .getStreamingEndpoint →
        ∃ env, job.AnsweredBy env ∧
          completeCall env =
            (job.handler.retStatus, job.handler.streamingEndpoint,
              job.handler.callInfo) ∧
          env.terminating 3 = job.handler.requestTerminating
  | .reporting | .finished => True
  | _ => job.handler.Fresh

variable {job other : Job} {env : HandlerEnv}

theorem Job.AnsweredBy.congr (answered : job.AnsweredBy env)
    (transfer : other.handler.transfer = job.handler.transfer)
    (terminating : job.request.terminating = true →
      other.request.terminating = true) :
    other.AnsweredBy env where
  transfer := transfer.trans answered.transfer
  terminating seen := terminating (answered.terminating seen)

/-- While the flag is clear, the handler has not seen it set. -/
theorem Job.AnsweredBy.unseen (answered : job.AnsweredBy env)
    (clear : job.request.terminating = false)
    (point : Nat) (within : point ≤ 3) : env.terminating point = false := by
  rw [HandlerEnv.terminating, decide_eq_false_iff_not]
  intro seen
  have terminating := answered.terminating (Nat.le_trans seen within)
  rw [clear] at terminating
  cases terminating

/-- Once the flag is set, the handler may see it at its next look. -/
theorem Job.AnsweredBy.seenAt {point : Nat} (answered : job.AnsweredBy env)
    (late : 0 < point) (terminating : job.request.terminating = true) :
    job.AnsweredBy (env.seenAt point) where
  transfer := by rw [answered.transfer, env.performed_seenAt late]
  terminating _ := terminating

/-- What another thread may do to a job: its handler stays but for a
cancellation request, and `terminating` is never cleared. -/
theorem Job.Follows.congr (follows : job.Follows)
    (api : other.call.api = job.call.api)
    (handler :
      other.handler =
        { job.handler with cancelPending := other.handler.cancelPending })
    (terminating : job.request.terminating = true →
      other.request.terminating = true) :
    other.Follows := by
  have answered (env : HandlerEnv) (before : job.AnsweredBy env) :
      other.AnsweredBy env :=
    before.congr (by rw [handler]) terminating
  unfold Job.Follows at follows ⊢
  rw [api, handler]
  cases pc : job.handler.pc <;> simp only [pc] at follows ⊢
  case afterCall =>
      obtain ⟨env, given, computed⟩ := follows
      exact ⟨env, answered env given, computed⟩
  case storing =>
      obtain ⟨isEndpoint, success, env, given, computed⟩ := follows
      exact ⟨isEndpoint, success, env, answered env given, computed⟩
  case exiting =>
      intro isEndpoint
      obtain ⟨env, given, computed⟩ := follows isEndpoint
      exact ⟨env, answered env given, computed⟩
  case removing =>
      intro isEndpoint
      obtain ⟨env, given, computed⟩ := follows isEndpoint
      exact ⟨env, answered env given, computed⟩
  case notifying =>
      intro isEndpoint
      obtain ⟨env, given, computed⟩ := follows isEndpoint
      exact ⟨env, answered env given, computed⟩
  case performed => exact follows
  all_goals exact ⟨follows.transfer, follows.callInfo⟩

theorem Job.follows_of_fresh (fresh : other.handler.Fresh)
    (early : ¬ other.handler.pc.Running ∨ other.handler.pc = .signing ∨
      other.handler.pc = .beforePerform ∨ other.handler.pc = .inCurl) :
    other.Follows := by
  unfold Job.Follows
  split <;> simp_all [HandlerPc.Running]

theorem Job.cleanUp_follows {status : Status} {endpoint : Option Bytes}
    (completes : job.call.api = .getStreamingEndpoint →
      ∃ env, job.AnsweredBy env ∧
        completeCall env = (status, endpoint, job.handler.callInfo)) :
    (job.cleanUp status endpoint).Follows := by
  have answered (env : HandlerEnv) (before : job.AnsweredBy env) :
      (job.cleanUp status endpoint).AnsweredBy env :=
    before.congr rfl (fun terminating => terminating)
  by_cases stores : job.call.api = .getStreamingEndpoint ∧ status = .success
  · obtain ⟨isEndpoint, success⟩ := stores
    subst success
    obtain ⟨env, given, computed⟩ := completes isEndpoint
    have storing : (job.cleanUp .success endpoint).handler.pc = .storing := by
      simp [isEndpoint]
    simp only [Job.Follows, storing]
    exact ⟨isEndpoint, rfl, env, answered env given, computed⟩
  · have exiting : (job.cleanUp status endpoint).handler.pc = .exiting := by
      simp [stores]
    simp only [Job.Follows, exiting]
    intro isEndpoint
    obtain ⟨env, given, computed⟩ := completes isEndpoint
    exact ⟨env, answered env given, computed⟩

namespace State

variable {state target : State} {id : JobId}

theorem ApiStep.follows {action : ApiAction} {job : JobId}
    (follows : (state.jobs job).Follows) (coherent : state.Coherent)
    (step : ApiStep state id action target) :
    (target.jobs job).Follows := by
  have keeps : (state.jobs job).request.terminating = true →
      (target.jobs job).request.terminating = true := by
    rw [step.terminating_eq]
    exact fun terminating => terminating
  by_cases same : job = id
  · subst same
    have lifecycle := coherent.lifecycle job
    cases step
    case invoke api streamHandle currentTime idle =>
        simp only [Job.Lifecycle, idle] at lifecycle
        simp only [Job.Follows, lifecycle] at follows
        simpa [Job.Follows, lifecycle] using follows
    case createThread gated live =>
        simp only [Job.Lifecycle, gated] at lifecycle
        simp only [Job.Follows, lifecycle] at follows
        simpa [Job.Follows] using ⟨follows.transfer, follows.callInfo⟩
    case cancelThread failing =>
        exact follows.congr (by simp) (by simp [Job.cancelThread]) keeps
    all_goals exact follows.congr (by simp) (by simp) keeps
  · rwa [step.jobs_of_ne same]

theorem HandlerStep.follows {action : HandlerAction}
    (follows : (state.jobs id).Follows) (coherent : state.Coherent)
    (step : HandlerStep state id action target) :
    (target.jobs id).Follows := by
  cases step
  case failPrepare status signing failed =>
      simp only [Job.Follows, signing] at follows
      rw [setJob_jobs, Function.update_self]
      apply Job.cleanUp_follows
      intro isEndpoint
      refine ⟨{ HandlerEnv.unanswered with signStatus := status },
        ⟨?_, ?_⟩, ?_⟩
      · simp [HandlerEnv.performed, Status.failed, failed, follows.transfer]
      · simp [HandlerEnv.unanswered, HandlerEnv.answered]
      · simp [completeCall, Status.failed, failed, follows.callInfo]
  case skipCall before terminating =>
      simp only [Job.Follows, before] at follows
      simp only [Job.Follows, setJob_jobs, Function.update_self,
        Job.handlerAt_handler_pc]
      refine ⟨HandlerEnv.unanswered.seenAt 0, ⟨?_, ?_⟩, rfl, ?_⟩
      · simpa [HandlerEnv.performed, HandlerEnv.terminating_seenAt] using
          follows.transfer
      · intro _
        simpa using terminating
      · simp [curlCompleteSync, HandlerEnv.unanswered, HandlerEnv.answered,
          HandlerEnv.terminating, follows.callInfo]
  case perform transfer inCurl =>
      simp [Job.Follows]
  case skipClassify terminated performed terminating =>
      simp only [Job.Follows, performed] at follows
      obtain ⟨transfer, left, received⟩ := follows
      simp only [Job.Follows, setJob_jobs, Function.update_self,
        Job.handlerAt_handler_pc]
      refine ⟨(HandlerEnv.answered transfer).seenAt 1, ⟨?_, ?_⟩, rfl, ?_⟩
      · rw [HandlerEnv.performed_seenAt Nat.one_pos]
        exact left
      · intro _
        simpa using terminating
      · simp [curlCompleteSync, HandlerEnv.answered, received,
          HandlerEnv.terminating, Status.failed]
  case classify terminated transfer performed clear left =>
      simp only [Job.Follows, setJob_jobs, Function.update_self,
        Job.classify_handler_pc]
      refine ⟨{ HandlerEnv.answered transfer with terminated := terminated },
        ⟨?_, ?_⟩, rfl, ?_⟩
      · exact left
      · simp [HandlerEnv.answered]
      · simp [curlCompleteSync, HandlerEnv.answered, HandlerEnv.terminating,
          Status.failed]
  case skipExtract beyond after terminating =>
      simp only [Job.Follows, after] at follows
      obtain ⟨env, answered, signed, synced⟩ := follows
      rw [setJob_jobs, Function.update_self]
      apply Job.cleanUp_follows
      intro isEndpoint
      refine ⟨env.seenAt 2, answered.seenAt Nat.two_pos terminating, ?_⟩
      apply completeCall_of_terminating
      · exact signed
      · rwa [curlCompleteSync_seenAt Nat.one_lt_two]
      · exact HandlerEnv.terminating_seenAt
  case extract beyond status endpoint after clear extracted =>
      simp only [Job.Follows, after] at follows
      obtain ⟨env, answered, signed, synced⟩ := follows
      rw [setJob_jobs, Function.update_self]
      apply Job.cleanUp_follows
      intro isEndpoint
      have unseen := answered.unseen clear
      refine ⟨{ env with beyond := beyond },
        ⟨answered.transfer, answered.terminating⟩, ?_⟩
      simp only [Api.extract, if_pos isEndpoint] at extracted
      have completed :=
        @completeCall_of_clear { env with beyond := beyond } _ signed synced
          (unseen 2 (by decide))
      rwa [extracted] at completed
  case store allocated storing =>
      simp only [Job.Follows, storing] at follows
      obtain ⟨-, success, env, answered, computed⟩ := follows
      simp only [Job.Follows, storeEndpoint_jobs, setJob_jobs,
        Function.update_self, Job.handlerAt_handler_pc]
      intro _
      refine ⟨env, answered.congr rfl fun terminating => terminating, ?_⟩
      simpa [success] using computed
  case readTerminating exiting =>
      simp only [Job.Follows, exiting] at follows
      simp only [Job.Follows, setJob_jobs, Function.update_self,
        Job.readTerminating_handler_pc]
      intro isEndpoint
      obtain ⟨env, answered, computed⟩ := follows isEndpoint
      by_cases terminating : (state.jobs id).request.terminating = true
      · refine ⟨env.seenAt 3, ?_, ?_, ?_⟩
        · exact (answered.seenAt (by decide) terminating).congr rfl
            fun terminating => terminating
        · rwa [completeCall_seenAt (by decide)]
        · simpa [HandlerEnv.terminating_seenAt] using terminating.symm
      · refine ⟨env, ?_, computed, ?_⟩
        · exact answered.congr rfl fun terminating => terminating
        · have clear := Bool.eq_false_iff.mpr terminating
          rw [Job.readTerminating_handler_requestTerminating, clear]
          exact answered.unseen clear 3 (by decide)
  case remove removing lockFree =>
      simp only [Job.Follows, removing] at follows
      rw [coherent.removed_jobs removing, Function.update_self]
      simp only [Job.Follows, Job.setLife_handler, Job.handlerAt_handler_pc]
      intro isEndpoint
      obtain ⟨env, answered, computed⟩ := follows isEndpoint
      exact ⟨env, answered.congr rfl fun terminating => terminating, computed⟩
  case keepSilent notifying seen => simp [Job.Follows]
  case notify notifying unseen => simp [Job.Follows]
  case report reporting => simp [Job.Follows]
  case enter pc entry allocated next =>
      simp only [Job.Follows, entry] at follows
      apply Job.follows_of_fresh
      · simpa using ⟨follows.transfer, follows.callInfo⟩
      · rcases next with rfl | rfl <;> simp [HandlerPc.Running]
  all_goals
    simp only [Job.Follows, *] at follows
    apply Job.follows_of_fresh
    · simpa using ⟨follows.transfer, follows.callInfo⟩
    · simp [HandlerPc.Running]

theorem Coherent.follows_next {action : Action}
    (coherent : state.Coherent)
    (follows : ∀ job, (state.jobs job).Follows)
    (step : state.next action = some target) (job : JobId) :
    (target.jobs job).Follows := by
  cases next_cases step with
  | api step => exact step.follows (follows job) coherent
  | @handler id _ _ step =>
      by_cases same : job = id
      · subst same
        exact step.follows (follows job) coherent
      · rw [coherent.jobs_of_ne step same]
        exact follows job
  | shutdown step =>
      rcases step.job_cases with same | terminated
      · rw [same]
        exact follows job
      · rw [terminated]
        exact (follows job).congr rfl rfl fun _ => rfl

end State

theorem Run.follows {ok : State → Action → Prop} {state : State}
    (run : Run ok state) (job : JobId) : (state.jobs job).Follows := by
  have all : ∀ job, (state.jobs job).Follows := by
    apply run.invariant_under State.Coherent
      fun state => ∀ job, (state.jobs job).Follows
    · exact State.initial_coherent
    · intro state action target coherent step
      exact coherent.next step
    · intro job
      exact ⟨rfl, rfl⟩
    · intro state action target coherent follows _ step
      exact coherent.follows_next follows step
  exact all job

variable {ok : State → Action → Prop} {state target : State} {id : JobId}

/-- Every handler of `getStreamingEndpointCurl` that stores its endpoint
buffer stores what the function does. -/
theorem Run.stores_endpoint (run : Run ok state)
    (step : state.next (.handler id (.store true)) = some target) :
    ∃ env, (state.jobs id).AnsweredBy env ∧
      (target.cachedEndpoints (state.jobs id).streamHandle).map
          (·.streamingEndpoint) =
        (getStreamingEndpointCurlHandler env).stored := by
  have follows := run.follows id
  cases State.next_cases step with
  | handler step =>
      cases step with
      | store storing =>
          simp only [Job.Follows, storing] at follows
          obtain ⟨-, -, env, answered, computed⟩ := follows
          refine ⟨env, answered, ?_⟩
          simp [getStreamingEndpointCurlHandler, computed, Status.failed]

/-- Every handler of `getStreamingEndpointCurl` that is about to notify PIC
notifies it as the function does. -/
theorem Run.notifies_endpoint (run : Run ok state)
    (endpoint : (state.jobs id).call.api = .getStreamingEndpoint)
    (notifying : (state.jobs id).handler.pc = .notifying) :
    ∃ env, (state.jobs id).AnsweredBy env ∧
      (getStreamingEndpointCurlHandler env).notified =
        if (state.jobs id).handler.requestTerminating then none
        else some ((state.jobs id).handler.callInfo.callResult,
          (state.jobs id).handler.streamingEndpoint) := by
  have follows := run.follows id
  simp only [Job.Follows, notifying] at follows
  obtain ⟨env, answered, computed, seen⟩ := follows endpoint
  refine ⟨env, answered, ?_⟩
  simp [getStreamingEndpointCurlHandler, computed, seen]

/-- A handler that is about to tell PIC of a success has had an answer with
status 200, and holds an endpoint that the body gives exactly when the body
carries one. -/
theorem Run.reports_endpoint_iff (run : Run ok state)
    (endpoint : (state.jobs id).call.api = .getStreamingEndpoint)
    (notifying : (state.jobs id).handler.pc = .notifying)
    (unseen : (state.jobs id).handler.requestTerminating = false)
    (success : (state.jobs id).handler.callInfo.callResult = .ok) :
    ∃ transfer ∈ (state.jobs id).handler.transfer,
      transfer.result = .ok ∧
      transfer.responseCode = HTTP_STATUS_CODE_OK ∧
      ((∃ text, (state.jobs id).handler.streamingEndpoint = some text ∧
          text ∈ dataEndpointValues transfer.responseData ∧
          text.length ≤ MAX_URI_CHAR_LEN) ↔
        CarriesEndpoint transfer.responseData) := by
  obtain ⟨env, answered, notified⟩ := run.notifies_endpoint endpoint notifying
  rw [unseen, success] at notified
  obtain ⟨reported, extracted⟩ := notified_ok_iff.mp notified
  obtain ⟨signed, prepared, never, completed, code⟩ := reported
  have carries :=
    @extractEndpoint_carries_iff env.beyond _
      (classifyTransfer_ne_notSet env.terminated env.transfer)
  rw [classifyTransfer_responseData, ← extracted] at carries
  refine ⟨env.transfer, ?_, completed, code, carries⟩
  have performed : env.performed = some env.transfer := by
    have clear : env.terminating 0 = false := by
      rw [HandlerEnv.terminating, decide_eq_false_iff_not]
      omega
    simp [HandlerEnv.performed, signed, prepared, clear, Status.failed]
  exact answered.transfer.trans performed

end CurlApi

end KvsProducer
