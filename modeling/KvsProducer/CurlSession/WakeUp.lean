import KvsProducer.CurlSession.Termination

/-!
# No lost wake-up

The read callback sets `paused` in its cleanup, after the read that returned no
data, and libcurl pauses the upload only when the callback returns.  A
notification does nothing when it sees `paused` clear.  It is lost when it
looks at the flag of an upload that is about to be paused, or that is paused
in curl with its flag cleared too early.
-/

namespace KvsProducer

namespace CurlSession

open TransitionSystem

/-- The upload is paused in curl, or will be once the callback under way
returns. -/
def Upload.Pausing (upload : Upload) : Prop :=
  upload = .outside true ∨ upload = .inside (.cleanUp .pause) ∨
    upload = .inside (.returning .pause)

instance (upload : Upload) : Decidable upload.Pausing :=
  inferInstanceAs (Decidable (_ ∨ _))

/-- The callback under way has found `paused` clear, and will not set it unless
a read returns no data. -/
def Upload.Admitted : Upload → Prop
  | .inside .checkEndOfStream | .inside .checkTerminating
  | .inside (.reading _) => True
  | .inside (.cleanUp result) | .inside (.returning result) => result ≠ .pause
  | _ => False

/-- The callback under way has found `endOfStream` clear and may read. -/
def Upload.Reads : Upload → Prop
  | .inside .checkTerminating | .inside (.reading _) => True
  | _ => False

/-- There will be no further callback. -/
def Upload.Ended : Upload → Prop
  | .inside (.returning result) => result = .abort ∨ result = .wrote 0
  | .finished => True
  | _ => False

@[simp] theorem Upload.pausing_cleanUp {result : ReadResult} :
    (inside (.cleanUp result)).Pausing ↔ result = .pause := by
  simp [Pausing]

@[simp] theorem Upload.pausing_returning {result : ReadResult} :
    (inside (.returning result)).Pausing ↔ result = .pause := by
  simp [Pausing]

theorem Upload.Ended.not_pausing {upload : Upload} (ended : upload.Ended) :
    ¬ upload.Pausing := by
  rintro (rfl | rfl | rfl) <;> simp [Ended] at ended

theorem DataStatus.result_eq_pause {status : DataStatus} {size : Nat}
    (pauses : status.result size = .pause) :
    size = 0 ∧ status.ends = false := by
  cases status <;> simp_all [result, ends]

namespace ReadResult

variable {result : ReadResult}

@[simp] theorem upload_pausing : result.upload.Pausing ↔ result = .pause := by
  rcases result with (_ | size) | _ | _ <;> simp [upload, Upload.Pausing]

@[simp] theorem upload_not_admitted : ¬ result.upload.Admitted := by
  rcases result with (_ | size) | _ | _ <;> simp [upload, Upload.Admitted]

@[simp] theorem upload_not_reads : ¬ result.upload.Reads := by
  rcases result with (_ | size) | _ | _ <;> simp [upload, Upload.Reads]

theorem upload_ended (ended : (Upload.inside (.returning result)).Ended) :
    result.upload.Ended := by
  rcases ended with rfl | rfl <;> trivial

end ReadResult

namespace Session

variable {session target : Session}

/-- The upload is paused in curl although a notification that came after the
last read without data has ended, with no unpause issued for it. -/
structure LostWakeUp (session : Session) : Prop where
  paused : session.upload = .outside true
  lost : session.lost = true

/-- A notification under way does not see `paused` clear on an upload that is
paused in curl, or about to be, unless an empty read came after it. -/
def SeesPause (session : Session) (action : Action) : Prop :=
  action = .notifier .checkPaused →
    ¬ (session.upload.Pausing ∧ session.paused = false ∧
      session.fresh = true)

instance (session : Session) (action : Action) :
    Decidable (session.SeesPause action) :=
  inferInstanceAs (Decidable (_ → _))

/-- No notification is lost on an upload that is paused or about to be, and the
notifications that end at one of the other flags are not needed. -/
structure Heeding (session : Session) : Prop where
  pausing : session.upload.Pausing → session.lost = false
  paused : session.paused = true → session.lost = false
  admitted : session.upload.Admitted → session.paused = false
  reads : session.upload.Reads → session.endOfStream = false
  ended : session.endOfStream = true →
    session.paused = false ∧ ¬ session.upload.Pausing
  terminated : session.terminated = true →
    session.paused = false ∧ session.upload.Ended

theorem initial_heeding : initial.Heeding := by
  constructor <;> simp [initial, Upload.Admitted, Upload.Reads]

theorem Heeding.not_lost (heeding : session.Heeding) :
    ¬ session.LostWakeUp := by
  rintro ⟨paused, lost⟩
  have kept := heeding.pausing (.inl paused)
  simp [lost] at kept

theorem Heeding.handlerStep {action : HandlerAction}
    (heeding : session.Heeding)
    (step : HandlerStep session action target) : target.Heeding := by
  obtain ⟨pausing, paused, admitted, reads, ended, terminated⟩ := heeding
  cases step <;>
    exact ⟨pausing, paused, admitted, reads, ended, terminated⟩

theorem Heeding.callbackStep {action : CallbackAction}
    (heeding : session.Heeding) (live : session.terminating = false)
    (step : CallbackStep session action target) : target.Heeding := by
  obtain ⟨pausing, paused, admitted, reads, ended, terminated⟩ := heeding
  cases step
  case readLast status size iter reading last =>
      have clear : session.paused = false := by
        simpa [reading, Upload.Admitted] using admitted
      have «open» : session.endOfStream = false := by
        simpa [reading, Upload.Reads] using reads
      have unterminated : session.terminated = false := by
        simpa [reading, Upload.Ended] using terminated
      refine ⟨?_, ?_, ?_, ?_, ?_, ?_⟩
      · intro pauses
        have result : status.result size = .pause := by simpa using pauses
        simp [(DataStatus.result_eq_pause result).1]
      · simp [clear]
      · intro _
        exact clear
      · simp [Upload.Reads]
      · intro endsNow
        refine ⟨clear, ?_⟩
        intro pauses
        have result : status.result size = .pause := by simpa using pauses
        simp [«open», (DataStatus.result_eq_pause result).2] at endsNow
      · simp [unterminated]
  case cleanUp result cleaning =>
      rw [cleaning] at pausing admitted ended terminated
      have unterminated : session.terminated = false := by
        simpa [Upload.Ended] using terminated
      by_cases pauses : result = .pause
      · subst pauses
        have kept : session.lost = false := by simpa using pausing
        have «open» : session.endOfStream = false := by simpa using ended
        constructor <;>
          simp [kept, «open», unterminated, Upload.Admitted, Upload.Reads]
      · have clear : session.paused = false := admitted pauses
        constructor <;>
          simp [clear, pauses, unterminated, Upload.Pausing, Upload.Reads,
            Upload.Ended]
  case «return» result returning =>
      rw [returning] at pausing ended terminated
      refine ⟨?_, paused, ?_, ?_, ?_, ?_⟩
      · simpa using pausing
      · intro admittedAfter
        exact (ReadResult.upload_not_admitted admittedAfter).elim
      · intro readsAfter
        exact (ReadResult.upload_not_reads readsAfter).elim
      · simpa using ended
      · intro terminatedBefore
        obtain ⟨clear, endedBefore⟩ := terminated terminatedBefore
        exact ⟨clear, ReadResult.upload_ended endedBefore⟩
  all_goals
    constructor <;>
      simp_all [Upload.Pausing, Upload.Admitted, Upload.Reads, Upload.Ended]

/-- A notification that ends without an unpause on an upload that is not about
to be paused, while `paused` is clear, leaves nothing waiting for it. -/
theorem Heeding.dismiss (heeding : session.Heeding)
    (unneeded : session.fresh = true →
      session.paused = false ∧ ¬ session.upload.Pausing) :
    session.dismiss.Heeding := by
  obtain ⟨pausing, paused, admitted, reads, ended, terminated⟩ := heeding
  have stale (needed : session.paused = true ∨ session.upload.Pausing) :
      session.fresh = false := by
    apply Bool.eq_false_iff.mpr
    intro fresh
    obtain ⟨clear, apart⟩ := unneeded fresh
    rcases needed with seen | pauses
    · simp [clear] at seen
    · exact apart pauses
  refine ⟨?_, ?_, admitted, reads, ended, terminated⟩
  · intro pauses
    simp [pausing pauses, stale (.inr pauses)]
  · intro seen
    simp [paused seen, stale (.inl seen)]

theorem Heeding.continueUpload (heeding : session.Heeding) :
    session.continueUpload.Heeding := by
  obtain ⟨pausing, paused, admitted, reads, ended, terminated⟩ := heeding
  have same (inside : ∀ paused, session.upload ≠ .outside paused) :
      session.continueUpload.upload = session.upload := by
    cases upload : session.upload <;> simp_all
  by_cases inside : ∀ paused, session.upload ≠ .outside paused
  · constructor <;> simp_all
  · simp only [not_forall, not_not] at inside
    obtain ⟨pausedBefore, outside⟩ := inside
    constructor <;>
      simp_all [Upload.Pausing, Upload.Admitted, Upload.Reads, Upload.Ended]

theorem Heeding.notifierStep {action : NotifierAction}
    (heeding : session.Heeding) (live : session.terminating = false)
    (seen : session.SeesPause (.notifier action))
    (step : NotifierStep session action target) : target.Heeding := by
  have kept := heeding
  obtain ⟨pausing, paused, admitted, reads, ended, terminated⟩ := heeding
  cases step
  case dismissEnded notification checking endOfStream =>
      exact kept.dismiss fun _ => ended endOfStream
  case dismissTerminating checking terminating =>
      simp [live] at terminating
  case dismissTerminated checking terminatedBefore =>
      obtain ⟨clear, endedBefore⟩ := terminated terminatedBefore
      exact kept.dismiss fun _ => ⟨clear, endedBefore.not_pausing⟩
  case dismissClear checking clear =>
      apply kept.dismiss
      intro fresh
      refine ⟨clear, ?_⟩
      intro pauses
      exact seen rfl ⟨pauses, clear, fresh⟩
  case clearPaused clearing =>
      refine ⟨pausing, by simp, fun _ => rfl, reads, ?_, ?_⟩
      · intro endOfStream
        exact ⟨rfl, (ended endOfStream).2⟩
      · intro terminatedBefore
        exact ⟨rfl, (terminated terminatedBefore).2⟩
  case unpause unpausing =>
      obtain ⟨pausing, paused, admitted, reads, ended, terminated⟩ :=
        kept.continueUpload
      exact ⟨pausing, paused, admitted, reads, ended, terminated⟩
  all_goals exact ⟨pausing, paused, admitted, reads, ended, terminated⟩

/-- A notification that is lost on an upload about to be paused stays lost when
the callback returns. -/
theorem reaches_lostWakeUp (pausing : session.upload.Pausing)
    (lost : session.lost = true) :
    ∃ final, Reaches Session.next session final ∧ final.LostWakeUp := by
  have returns (before : Session)
      (returning : before.upload = .inside (.returning .pause))
      (lostBefore : before.lost = true) :
      ∃ final, Reaches Session.next before final ∧ final.LostWakeUp := by
    refine ⟨{ before with upload := .outside true }, ?_, rfl, lostBefore⟩
    apply Steps.tail .refl trivial
    show before.next (.callback .return) = _
    simp [Session.next, callbackStep, returning, ReadResult.upload]
  rcases pausing with paused | cleaning | returning
  · exact ⟨session, .refl, paused, lost⟩
  · let cleaned : Session :=
      { session with
        paused := true
        upload := .inside (.returning .pause) }
    have cleans : session.next (.callback .cleanUp) = some cleaned := by
      have kept : (session.terminated || ReadResult.pause == .abort ||
          ReadResult.pause == .wrote 0) = session.terminated := by
        show (session.terminated || false || false) = session.terminated
        simp
      simp [Session.next, callbackStep, cleaning, cleaned, kept]
    obtain ⟨final, run, lostFinal⟩ := returns cleaned rfl lost
    exact ⟨final, (Steps.tail .refl trivial cleans).trans run, lostFinal⟩
  · exact returns session returning lost

/-- A wake-up is lost whenever a notification does not see the pause. -/
theorem lost_of_not_seesPause {action : Action}
    (step : session.next action = some target)
    (missed : ¬ session.SeesPause action) :
    ∃ final, Reaches Session.next target final ∧ final.LostWakeUp := by
  simp only [SeesPause, not_forall, not_not] at missed
  obtain ⟨rfl, pausing, clear, fresh⟩ := missed
  cases next_cases step with
  | notifier step =>
      cases step with
      | passPaused checking paused => simp [clear] at paused
      | dismissClear checking _ =>
          exact reaches_lostWakeUp pausing (by simp [fresh])

/-- As long as no pass has set `terminating`, the session heeds its
notifications. -/
def HeedingWhileLive (session : Session) : Prop :=
  session.terminating = false → session.Heeding

theorem HeedingWhileLive.next {action : Action}
    (heeding : session.HeedingWhileLive) (coherent : session.Coherent)
    (seen : session.SeesPause action)
    (step : session.next action = some target) : target.HeedingWhileLive := by
  intro liveAfter
  cases next_cases step with
  | handler step =>
      have live : session.terminating = false := by
        cases step <;> exact liveAfter
      exact (heeding live).handlerStep step
  | callback step =>
      have live : session.terminating = false := by
        cases step <;> exact liveAfter
      exact (heeding live).callbackStep live step
  | notifier step =>
      have live : session.terminating = false := by
        cases step <;> exact liveAfter
      exact (heeding live).notifierStep live seen step
  | pass step =>
      cases step with
      | acquire before lockFree =>
          obtain ⟨pausing, paused, admitted, reads, ended, terminated⟩ :=
            heeding liveAfter
          exact ⟨pausing, paused, admitted, reads, ended, terminated⟩
      | storeTerminating storing => simp at liveAfter
      | _ =>
          have stored : session.pass.Stored := by simp_all [PassPc.Stored]
          have set := coherent.terminating.mpr stored
          simp [set] at liveAfter

end Session

/-- The wake-up is not lost in a run whose notifications see the pause, whatever
else is under way, as long as no pass has set `terminating`. -/
theorem Run.heeding {session : Session}
    (run : Run Session.SeesPause session) : session.HeedingWhileLive := by
  apply run.invariant_under Session.Coherent Session.HeedingWhileLive
  · exact Session.initial_coherent
  · intro before action after coherent step
    exact coherent.next step
  · intro _
    exact Session.initial_heeding
  · intro before action after coherent heeding seen step
    exact heeding.next coherent seen step

/-- The steps of the upload and of the notifications. -/
def Action.OfUpload : Action → Prop
  | .pass _ => False
  | _ => True

instance (action : Action) : Decidable action.OfUpload :=
  match action with
  | .pass _ => .isFalse id
  | .handler _ | .callback _ | .notifier _ => .isTrue trivial

theorem Run.live {ok : Session → Action → Prop} {session : Session}
    (run : Run (fun session action => action.OfUpload ∧ ok session action)
      session) :
    session.terminating = false := by
  apply run.invariant fun session => session.terminating = false
  · rfl
  · intro before action after live admitted step
    cases Session.next_cases step with
    | handler step => cases step <;> exact live
    | callback step => cases step <;> exact live
    | notifier step => cases step <;> exact live
    | pass step => exact admitted.1.elim

/-- No lost wake-up, in any run of the upload and its notifications in which no
notification sees `paused` clear on an upload that is paused in curl, or about
to be, without an empty read after its arrival. -/
theorem wakeUp_not_lost {session : Session}
    (run : Run
      (fun session action => action.OfUpload ∧ session.SeesPause action)
      session) :
    ¬ session.LostWakeUp := by
  have seen : Run Session.SeesPause session :=
    run.mono fun _ _ admitted => admitted.2
  exact (seen.heeding run.live).not_lost

/-- The handler enters curl. -/
def enterCurl : List Action :=
  [.handler .checkTerminating, .handler .storeBlocked, .handler .enterPerform]

/-- A notification that clears the flag and unpauses. -/
def notify : List Action :=
  [.notifier (.arrive .dataAvailable), .notifier .checkEndOfStream,
    .notifier .checkTerminating, .notifier .checkTerminated,
    .notifier .checkPaused, .notifier .clearPaused, .notifier .unpause]

/-- A notification that finds the flag clear. -/
def notifyClear : List Action :=
  [.notifier (.arrive .dataAvailable), .notifier .checkEndOfStream,
    .notifier .checkTerminating, .notifier .checkTerminated,
    .notifier .checkPaused]

/-- A callback that finds no data, up to its cleanup. -/
def readNothing : List Action :=
  ([.callback .invoke, .callback .checkPaused, .callback .checkEndOfStream,
     .callback .checkTerminating] : List Action) ++
    List.replicate MAX_GET_DATA_ITER
      (.callback (.getData .noMoreDataAvailable 0))

/-- The callback sets the flag and returns the pause. -/
def pauseUpload : List Action :=
  [.callback .cleanUp, .callback .return]

theorem wakeUp_not_lost_notified :
    ¬ (stateAfter Session.next
      (fun session action => action.OfUpload ∧ session.SeesPause action)
      Session.initial
      (enterCurl ++ notify ++ readNothing ++ pauseUpload ++
        notify)).LostWakeUp := by
  have taken : (replay Session.next
      (fun session action => action.OfUpload ∧ session.SeesPause action)
      Session.initial
      (enterCurl ++ notify ++ readNothing ++ pauseUpload ++
        notify)).isSome = true := by
    decide
  exact wakeUp_not_lost (steps_stateAfter taken)

/-- The frame comes after the last empty read and before the cleanup of the
callback. -/
theorem wakeUp_lost :
    ¬ ∀ session, Steps Session.next (fun _ action => action.OfUpload)
      Session.initial session → ¬ session.LostWakeUp := by
  intro claim
  have taken : (replay Session.next (fun _ action => action.OfUpload)
      Session.initial
      (enterCurl ++ notify ++ readNothing ++ notifyClear ++
        pauseUpload)).isSome = true := by
    decide
  exact claim _ (steps_stateAfter taken) ⟨by decide, by decide⟩

end CurlSession

end KvsProducer
