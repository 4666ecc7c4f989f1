import KvsProducer.CurlSession.Step

/-!
# No lost termination

The handler looks at `terminating` and then sets `blockedInCurl`; the pass sets
`terminating` and then looks at `blockedInCurl`.  When the pass finds the
handler between its two steps it issues nothing, and the read callback is the
only one left to see `terminating`.  It does unless the upload is paused.
-/

namespace KvsProducer

namespace CurlSession

open TransitionSystem

/-- The handler is in `curl_easy_perform`, or enters it whatever happens. -/
def HandlerPc.Performs (pc : HandlerPc) : Prop :=
  pc = .clear ∨ pc = .blocked ∨ pc = .performing

instance (pc : HandlerPc) : Decidable pc.Performs :=
  inferInstanceAs (Decidable (_ ∨ _))

/-- The pass has set `terminating`. -/
def PassPc.Stored (pc : PassPc) : Prop :=
  pc ≠ .before ∧ pc ≠ .storeTerminating

/-- The pass is in `terminateCurlSession`. -/
def PassPc.Issuing (pc : PassPc) : Prop :=
  pc = .checkTerminated ∨ pc = .unpause ∨ pc = .storeTerminated

/-- With `terminating` set and `paused` clear, the callback under way or the
next one closes the upload. -/
def Upload.Closes : Upload → Prop
  | .outside paused => paused = false
  | .inside (.cleanUp result) | .inside (.returning result) => result = .wrote 0
  | .inside (.reading _) => False
  | .inside _ | .finished => True

namespace Session

variable {session target : Session}

/-- No read callback observes `terminating` any more: the next one looks at
`paused` first, or there is none because the upload is paused in curl. -/
def Unobserving (session : Session) : Prop :=
  session.paused = true ∨ session.upload = .outside true

instance (session : Session) : Decidable session.Unobserving :=
  inferInstanceAs (Decidable (_ ∨ _))

/-- The pass is over without `terminateCurlSession`, the handler is in curl or
on its way into it, and no read callback will observe `terminating`. -/
structure LostTermination (session : Session) : Prop where
  finished : session.pass = .finished
  unissued : session.issued = false
  performs : session.handler.Performs
  unobserving : session.Unobserving

/-- What relates the threads to the flags they write. -/
structure Coherent (session : Session) : Prop where
  outside : session.handler = .beforeCheck ∨ session.handler = .clear ∨
    session.handler = .blocked → session.upload = .outside false
  blocked : session.blockedInCurl = true ↔ session.handler = .blocked ∨
    session.handler = .performing ∨ session.handler = .left
  terminating : session.terminating = true ↔ session.pass.Stored
  issued : session.pass.Issuing → session.issued = true
  unissued : session.pass = .loadBlocked ∨ ¬ session.pass.Stored →
    session.issued = false

theorem initial_coherent : initial.Coherent where
  outside _ := rfl
  blocked := by simp [initial]
  terminating := by simp [initial, PassPc.Stored]
  issued := by simp [initial, PassPc.Issuing]
  unissued _ := rfl

theorem continueUpload_of_outside {paused : Bool}
    (outside : session.upload = .outside paused) :
    session.continueUpload.upload = .outside false := by
  simp [continueUpload, outside]

theorem Coherent.handlerStep {action : HandlerAction}
    (coherent : session.Coherent)
    (step : HandlerStep session action target) : target.Coherent := by
  obtain ⟨outside, blocked, terminating, issued, unissued⟩ := coherent
  cases step <;> constructor <;> simp_all

theorem Coherent.callbackStep {action : CallbackAction}
    (coherent : session.Coherent)
    (step : CallbackStep session action target) : target.Coherent := by
  obtain ⟨outside, blocked, terminating, issued, unissued⟩ := coherent
  cases step
  case invoke paused performing callable =>
      exact ⟨by simp [callable], blocked, terminating, issued, unissued⟩
  all_goals
    refine ⟨?_, blocked, terminating, issued, unissued⟩
    intro early
    have := outside early
    simp_all

theorem Coherent.notifierStep {action : NotifierAction}
    (coherent : session.Coherent)
    (step : NotifierStep session action target) : target.Coherent := by
  obtain ⟨outside, blocked, terminating, issued, unissued⟩ := coherent
  cases step
  case unpause unpausing =>
      refine ⟨?_, blocked, terminating, issued, unissued⟩
      intro early
      exact continueUpload_of_outside (outside early)
  all_goals exact ⟨outside, blocked, terminating, issued, unissued⟩

theorem Coherent.passStep {action : PassAction}
    (coherent : session.Coherent)
    (step : PassStep session action target) : target.Coherent := by
  obtain ⟨outside, blocked, terminating, issued, unissued⟩ := coherent
  cases step
  case unpause unpausing =>
      refine ⟨?_, blocked, ?_, ?_, ?_⟩
      · intro early
        exact continueUpload_of_outside (outside early)
      · simpa [PassPc.Stored, unpausing] using terminating
      · intro issuing
        exact issued (by simp [PassPc.Issuing, unpausing])
      · simp [PassPc.Stored]
  all_goals
    refine ⟨outside, blocked, ?_, ?_, ?_⟩ <;>
      simp_all [PassPc.Stored, PassPc.Issuing]

theorem Coherent.next {action : Action}
    (coherent : session.Coherent)
    (step : session.next action = some target) : target.Coherent := by
  cases next_cases step with
  | handler step => exact coherent.handlerStep step
  | callback step => exact coherent.callbackStep step
  | notifier step => exact coherent.notifierStep step
  | pass step => exact coherent.passStep step

/-- A handler that is in curl, or on its way into it, when a pass that issued
nothing is over has its upload closed by the next read callback. -/
def Closing (session : Session) : Prop :=
  session.pass = .finished → session.issued = false →
    session.handler.Performs →
    session.paused = false ∧ session.upload.Closes

theorem Closing.not_lost (closing : session.Closing) :
    ¬ session.LostTermination := by
  intro lost
  obtain ⟨clear, closes⟩ := closing lost.finished lost.unissued lost.performs
  rcases lost.unobserving with paused | paused
  · simp [clear] at paused
  · simp [paused, Upload.Closes] at closes

/-- The pass does not find the handler between its look at `terminating` and
its write of `blockedInCurl` while the upload is paused. -/
def FindsHandler (session : Session) (action : Action) : Prop :=
  action = .pass .loadBlocked →
    ¬ (session.handler = .clear ∧ session.paused = true)

instance (session : Session) (action : Action) :
    Decidable (session.FindsHandler action) :=
  inferInstanceAs (Decidable (_ → _))

theorem Coherent.terminating_of_finished (coherent : session.Coherent)
    (finished : session.pass = .finished) : session.terminating = true := by
  apply coherent.terminating.mpr
  simp [PassPc.Stored, finished]

theorem closing_handlerStep {action : HandlerAction}
    (closing : session.Closing) (coherent : session.Coherent)
    (step : HandlerStep session action target) : target.Closing := by
  intro finished unissued performs
  cases step
  case proceed beforeCheck live =>
      have terminating := coherent.terminating_of_finished finished
      simp [live] at terminating
  case storeBlocked clear =>
      exact closing finished unissued (.inl clear)
  case enterPerform blocked =>
      exact closing finished unissued (.inr (.inl blocked))
  all_goals simp [HandlerPc.Performs] at performs

theorem closing_callbackStep {action : CallbackAction}
    (closing : session.Closing) (coherent : session.Coherent)
    (step : CallbackStep session action target) : target.Closing := by
  intro finished unissued performs
  have before : session.paused = false ∧ session.upload.Closes := by
    cases step <;> exact closing finished unissued performs
  have terminating : session.terminating = true := by
    cases step <;> exact coherent.terminating_of_finished finished
  obtain ⟨clear, closes⟩ := before
  cases step
  case cleanUp result cleaning =>
      simp only [cleaning, Upload.Closes] at closes
      subst closes
      exact ⟨by simp [clear], rfl⟩
  case «return» result returning =>
      simp only [returning, Upload.Closes] at closes
      subst closes
      exact ⟨clear, trivial⟩
  all_goals simp_all [Upload.Closes]

theorem Upload.Closes.continueUpload (closes : session.upload.Closes) :
    session.continueUpload.upload.Closes := by
  cases upload : session.upload <;>
    simp_all [Upload.Closes]

theorem closing_notifierStep {action : NotifierAction}
    (closing : session.Closing)
    (step : NotifierStep session action target) : target.Closing := by
  intro finished unissued performs
  cases step
  case clearPaused clearing =>
      exact ⟨rfl, (closing finished unissued performs).2⟩
  case unpause unpausing =>
      obtain ⟨clear, closes⟩ := closing finished unissued performs
      exact ⟨clear, Upload.Closes.continueUpload closes⟩
  all_goals exact closing finished unissued performs

theorem closing_passStep {action : PassAction}
    (coherent : session.Coherent)
    (found : session.FindsHandler (.pass action))
    (step : PassStep session action target) : target.Closing := by
  intro finished unissued performs
  cases step
  case skip loading unblocked =>
      -- the handler has not set the flag yet, so it is still before it
      have clear : session.handler = .clear := by
        have apart := mt coherent.blocked.mpr (by simp [unblocked])
        simp only [not_or] at apart
        rcases performs with clear | blocked | performing
        · exact clear
        · exact (apart.1 blocked).elim
        · exact (apart.2.1 performing).elim
      have outside := coherent.outside (.inr (.inl clear))
      have seen : session.paused = false := by
        simpa [clear] using found rfl
      exact ⟨seen, by simp [outside, Upload.Closes]⟩
  case skipTerminated checking terminated =>
      have issued := coherent.issued (.inl checking)
      simp [issued] at unissued
  case storeTerminated storing =>
      have issued := coherent.issued (.inr (.inr storing))
      simp [issued] at unissued
  all_goals simp at finished

theorem Coherent.unblocked_of_clear (coherent : session.Coherent)
    (clear : session.handler = .clear) : session.blockedInCurl = false := by
  apply Bool.eq_false_iff.mpr
  intro blocked
  simpa [clear] using coherent.blocked.mp blocked

/-- The termination is lost as soon as the pass does find the handler there. -/
theorem Coherent.lost_of_not_findsHandler {action : Action}
    (coherent : session.Coherent)
    (step : session.next action = some target)
    (missed : ¬ session.FindsHandler action) : target.LostTermination := by
  simp only [FindsHandler, not_forall, not_not] at missed
  obtain ⟨rfl, clear, paused⟩ := missed
  cases next_cases step with
  | pass step =>
      cases step with
      | issue loading blocked =>
          simp [coherent.unblocked_of_clear clear] at blocked
      | skip loading unblocked =>
          exact
            { finished := rfl
              unissued := coherent.unissued (.inl loading)
              performs := .inl clear
              unobserving := .inl paused }

theorem Closing.next {action : Action}
    (closing : session.Closing) (coherent : session.Coherent)
    (found : session.FindsHandler action)
    (step : session.next action = some target) : target.Closing := by
  cases next_cases step with
  | handler step => exact closing_handlerStep closing coherent step
  | callback step => exact closing_callbackStep closing coherent step
  | notifier step => exact closing_notifierStep closing step
  | pass step => exact closing_passStep coherent found step

end Session

/-- No lost termination, in any run in which no pass finds the handler of a
paused upload between its look at `terminating` and its write of
`blockedInCurl`. -/
theorem termination_not_lost {session : Session}
    (run : Run Session.FindsHandler session) :
    ¬ session.LostTermination := by
  have closing : session.Closing := by
    apply run.invariant_under Session.Coherent Session.Closing
    · exact Session.initial_coherent
    · intro before action after coherent step
      exact coherent.next step
    · intro finished
      simp [Session.initial] at finished
    · intro before action after coherent closing found step
      exact closing.next coherent found step
  exact closing.not_lost

/-- A pass that finds the handler in curl. -/
def passInCurl : List Action :=
  [.handler .checkTerminating, .handler .storeBlocked, .handler .enterPerform,
    .callback .invoke, .callback .checkPaused, .callback .cleanUp,
    .callback .return, .pass .acquire, .pass .storeTerminating,
    .pass .loadBlocked, .pass .checkTerminated, .pass .unpause,
    .pass .storeTerminated]

theorem termination_not_lost_passInCurl :
    ¬ (stateAfter Session.next Session.FindsHandler Session.initial
      passInCurl).LostTermination := by
  have taken : (replay Session.next Session.FindsHandler Session.initial
      passInCurl).isSome = true := by
    decide
  exact termination_not_lost (steps_stateAfter taken)

/-- A pass that comes between the two steps of the handler, which then enters
curl with an upload that is paused from the start. -/
def passBetween : List Action :=
  [.handler .checkTerminating, .pass .acquire, .pass .storeTerminating,
    .pass .loadBlocked, .handler .storeBlocked, .handler .enterPerform,
    .callback .invoke, .callback .checkPaused, .callback .cleanUp,
    .callback .return]

theorem termination_lost :
    ¬ ∀ session, Reachable session → ¬ session.LostTermination := by
  intro claim
  have taken : (replay Session.next (fun _ _ => True) Session.initial
      passBetween).isSome = true := by
    decide
  apply claim _ (steps_stateAfter taken)
  exact ⟨by decide, by decide, by decide, by decide⟩

end CurlSession

end KvsProducer
