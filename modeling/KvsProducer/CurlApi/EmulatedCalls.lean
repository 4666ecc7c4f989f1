import KvsProducer.CurlApi.EndpointCache
import Mathlib.Algebra.Group.Nat.Defs

/-!
# Emulated calls

`createStreamCachingCurl`, `describeStreamCachingCurl`,
`getStreamingEndpointCachingCurl` and `tagResourceCachingCurl` answer a call
themselves while the cache has an endpoint of the stream that is recent enough.
The decision is written twice.  A run records the last endpoint that has been
stored for each stream, and the calls that have been answered so.
-/

namespace KvsProducer

namespace CurlApi

open TransitionSystem

/-- `API_CALL_CACHE_TYPE` -/
inductive CacheType where
  | none
  | endpointOnly
  | all
  deriving DecidableEq, Repr

def MAX_ENDPOINT_CACHE_UPDATE_PERIOD : Nat := 24 * 36000000000

/-- The settings that `createCurlApiCallbacks` admits. -/
structure CacheSettings where
  cacheType : CacheType
  cacheUpdatePeriod : Nat
  period_le : cacheUpdatePeriod ≤ MAX_ENDPOINT_CACHE_UPDATE_PERIOD
  deriving Repr

/-- The first byte of the endpoint, where a buffer that was never initialised
holds any bytes. -/
def EndpointTracker.first (tracker : EndpointTracker) (uninitialised : Bytes) :
    UInt8 :=
  (tracker.streamingEndpoint.getD uninitialised).headD 0

section Decision

variable (settings : CacheSettings) (cached : Option EndpointTracker)
variable (uninitialised : Bytes) (curTime : Nat)

/-- `checkApiCallEmulation`, with what `hashTableGet` finds -/
def checkApiCallEmulation : Bool :=
  match settings.cacheType with
  | .none => false
  | .endpointOnly => true
  | .all =>
      match cached with
      | none => false
      | some pEndpointTracker =>
          if pEndpointTracker.first uninitialised = 0 ∨
              (pEndpointTracker.endpointLastUpdateTime +
                settings.cacheUpdatePeriod) % 2 ^ 64 ≤ curTime then false
          else true

/-- The decision of `getStreamingEndpointCachingCurl`, with the endpoint that it
reports -/
def getStreamingEndpointCachingCurl : Option (Option Bytes) :=
  match settings.cacheType with
  | .none => none
  | .endpointOnly | .all =>
      match cached with
      | none => none
      | some pEndpointTracker =>
          if pEndpointTracker.first uninitialised = 0 ∨
              (pEndpointTracker.endpointLastUpdateTime +
                settings.cacheUpdatePeriod) % 2 ^ 64 ≤ curTime then none
          else some pEndpointTracker.streamingEndpoint

end Decision

/-- What a call is answered with that is emulated. -/
inductive EmulatedResult where
  | ok
  | endpoint (streamingEndpoint : Option Bytes)
  deriving DecidableEq, Repr

/-- The caching function of an API: `none` if it makes the call. -/
def Api.emulate (settings : CacheSettings) (cached : Option EndpointTracker)
    (uninitialised : Bytes) (curTime : Nat) : Api → Option EmulatedResult
  | .createStream | .describeStream | .tagResource =>
      if checkApiCallEmulation settings cached uninitialised curTime then
        some .ok
      else none
  | .getStreamingEndpoint =>
      (getStreamingEndpointCachingCurl settings cached uninitialised
        curTime).map .endpoint
  | .putStream => none

/-- A call that has been emulated, with the entry that was last stored for its
stream. -/
structure EmulatedCall where
  streamHandle : StreamHandle
  time : Nat
  result : EmulatedResult
  lastStored : Option EndpointTracker
  deriving DecidableEq, Repr

structure CachingState where
  state : State
  lastStored : StreamHandle → Option EndpointTracker
  emulated : List EmulatedCall

def CachingState.initial : CachingState :=
  { state := .initial
    lastStored := fun _ => none
    emulated := [] }

/-- A step of the callbacks, or a call of a caching function; it reads the clock
for its decision, and again for the request. -/
inductive CachingAction where
  | step (action : Action)
  | call (id : JobId) (api : Api) (streamHandle : StreamHandle)
      (curTime currentTime : Nat) (uninitialised : Bytes)
  deriving DecidableEq, Repr

/-- The entry that a step stores. -/
def State.storedBy (state : State) :
    Action → Option (StreamHandle × EndpointTracker)
  | .handler id (.store allocated) =>
      if state.cachedEndpoints (state.jobs id).streamHandle ≠ none ∨
          allocated = true then
        some
          ((state.jobs id).streamHandle,
            { endpointLastUpdateTime := (state.jobs id).call.currentTime
              streamingEndpoint := (state.jobs id).handler.streamingEndpoint })
      else none
  | _ => none

namespace CachingState

/-- A step of the callbacks, with the record of what it stores. -/
def step (caching : CachingState) (action : Action) : Option CachingState :=
  (caching.state.next action).map fun target =>
    { caching with
      state := target
      lastStored :=
        match caching.state.storedBy action with
        | none => caching.lastStored
        | some (streamHandle, tracker) =>
            Function.update caching.lastStored streamHandle (some tracker) }

def next (settings : CacheSettings) (caching : CachingState) :
    CachingAction → Option CachingState
  | .step action => caching.step action
  | .call id api streamHandle curTime currentTime uninitialised =>
      match api.emulate settings (caching.state.cachedEndpoints streamHandle)
          uninitialised curTime with
      | none => caching.step (.api id (.invoke api streamHandle currentTime))
      | some result =>
          some
            { caching with
              emulated := caching.emulated ++
                [{ streamHandle := streamHandle
                   time := curTime
                   result := result
                   lastStored := caching.lastStored streamHandle }] }

end CachingState

/-- The reading of the clock that a request is created with. -/
def Action.currentTime? : Action → Option Nat
  | .api _ (.invoke _ _ currentTime) => some currentTime
  | _ => none

/-- All readings of the clock are below 2^63. -/
def ClockInRange (_ : CachingState) : CachingAction → Prop
  | .step action => ∀ currentTime ∈ action.currentTime?, currentTime < 2 ^ 63
  | .call _ _ _ curTime currentTime _ => curTime < 2 ^ 63 ∧ currentTime < 2 ^ 63

/-- An endpoint that is reported is the one that was last stored, and its age is
below the period. -/
def EmulatedCall.Fresh (settings : CacheSettings) (call : EmulatedCall) : Prop :=
  ∀ streamingEndpoint, call.result = .endpoint streamingEndpoint →
    ∃ tracker ∈ call.lastStored,
      streamingEndpoint = tracker.streamingEndpoint ∧
        (call.time : Int) - tracker.endpointLastUpdateTime <
          settings.cacheUpdatePeriod

/-- With the whole cache the two decisions are the same. -/
theorem emulation_agrees {settings : CacheSettings}
    (all : settings.cacheType = .all) (cached : Option EndpointTracker)
    (uninitialised : Bytes) (curTime : Nat) :
    checkApiCallEmulation settings cached uninitialised curTime =
      (getStreamingEndpointCachingCurl settings cached uninitialised
        curTime).isSome := by
  simp only [checkApiCallEmulation, getStreamingEndpointCachingCurl, all]
  cases cached with
  | none => rfl
  | some tracker =>
      simp only
      split <;> rfl

theorem emulate_none {settings : CacheSettings}
    (uncached : settings.cacheType = .none) (api : Api)
    (cached : Option EndpointTracker) (uninitialised : Bytes) (curTime : Nat) :
    api.emulate settings cached uninitialised curTime = none := by
  cases api <;>
    simp [Api.emulate, checkApiCallEmulation, getStreamingEndpointCachingCurl,
      uncached]

/-- An endpoint that is reported is that of an entry that is not too old. -/
theorem emulate_endpoint {settings : CacheSettings} {api : Api}
    {cached : Option EndpointTracker} {uninitialised : Bytes} {curTime : Nat}
    {streamingEndpoint : Option Bytes}
    (emulates : api.emulate settings cached uninitialised curTime =
      some (.endpoint streamingEndpoint)) :
    ∃ tracker ∈ cached, streamingEndpoint = tracker.streamingEndpoint ∧
      curTime < (tracker.endpointLastUpdateTime +
        settings.cacheUpdatePeriod) % 2 ^ 64 := by
  have reports : getStreamingEndpointCachingCurl settings cached uninitialised
      curTime = some streamingEndpoint := by
    cases api <;> simp_all [Api.emulate]
  have found : ∃ tracker ∈ cached,
      (if tracker.first uninitialised = 0 ∨
          (tracker.endpointLastUpdateTime +
            settings.cacheUpdatePeriod) % 2 ^ 64 ≤ curTime then none
        else some tracker.streamingEndpoint) = some streamingEndpoint := by
    unfold getStreamingEndpointCachingCurl at reports
    split at reports
    case h_1 => cases reports
    all_goals
      cases cached with
      | none => cases reports
      | some tracker => exact ⟨tracker, rfl, reports⟩
  obtain ⟨tracker, isCached, current⟩ := found
  rw [Option.ite_none_left_eq_some, not_or, Nat.not_le,
    Option.some.injEq] at current
  exact ⟨tracker, isCached, current.2.symm, current.1.2⟩

/-- The record agrees with the cache, and with the clock. -/
structure CachingState.Sound (settings : CacheSettings)
    (caching : CachingState) : Prop where
  cached : ∀ streamHandle, ∀ tracker ∈
    caching.state.cachedEndpoints streamHandle,
      caching.lastStored streamHandle = some tracker
  invoked : ∀ job, (caching.state.jobs job).call.currentTime < 2 ^ 63
  stored : ∀ streamHandle, ∀ tracker ∈ caching.lastStored streamHandle,
    tracker.endpointLastUpdateTime < 2 ^ 63
  fresh : ∀ call ∈ caching.emulated, call.Fresh settings
  uncached : settings.cacheType = .none → caching.emulated = []

theorem initial_sound (settings : CacheSettings) :
    CachingState.initial.Sound settings where
  cached := by simp [CachingState.initial, State.initial]
  invoked := by
    intro job
    exact Nat.two_pow_pos 63
  stored := by simp [CachingState.initial]
  fresh := by simp [CachingState.initial]
  uncached _ := rfl

/-- What a step leaves in the cache is what it stores, or was there before. -/
theorem cachedEndpoints_cases {state target : State} {action : Action}
    (step : state.next action = some target) {streamHandle : StreamHandle}
    {tracker : EndpointTracker}
    (left : tracker ∈ target.cachedEndpoints streamHandle) :
    state.storedBy action = some (streamHandle, tracker) ∨
      tracker ∈ state.cachedEndpoints streamHandle ∧
        ∀ other, state.storedBy action ≠ some (streamHandle, other) := by
  cases State.next_cases step with
  | api step =>
      rw [step.frame.2.2.1] at left
      exact .inr ⟨left, by simp [State.storedBy]⟩
  | shutdown step =>
      right
      rcases step.endpoint_cases streamHandle with same | dropped
      · rw [same] at left
        exact ⟨left, by simp [State.storedBy]⟩
      · rw [dropped] at left
        cases left
  | @handler id handlerAction _ step =>
      cases step
      case store allocated storing =>
          simp only [State.storeEndpoint_cachedEndpoints,
            State.setJob_cachedEndpoints] at left
          simp only [State.storedBy]
          split at left
          · rename_i stores
            rw [if_pos stores]
            by_cases same : streamHandle = (state.jobs id).streamHandle
            · subst same
              simp only [Function.update_self, Option.mem_def,
                Option.some.injEq] at left
              subst left
              exact .inl rfl
            · rw [Function.update_of_ne same] at left
              right
              refine ⟨left, ?_⟩
              intro other stored
              cases stored
              exact same rfl
          · rename_i full
            rw [if_neg full]
            exact .inr ⟨left, by simp⟩
      all_goals exact .inr ⟨left, by simp [State.storedBy]⟩

theorem currentTime_lt {state target : State} {action : Action} {bound : Nat}
    (step : state.next action = some target)
    (invoked : ∀ job, (state.jobs job).call.currentTime < bound)
    (inRange : ∀ currentTime ∈ action.currentTime?, currentTime < bound)
    (job : JobId) :
    (target.jobs job).call.currentTime < bound := by
  cases State.next_cases step with
  | @api id _ _ step =>
      by_cases same : job = id
      · subst same
        have before := invoked job
        cases step
        case invoke api streamHandle currentTime idle =>
            simpa using inRange currentTime rfl
        all_goals simpa using before
      · rw [step.jobs_of_ne same]
        exact invoked job
  | handler step =>
      rw [step.call_eq]
      exact invoked job
  | shutdown step =>
      rw [step.call_eq]
      exact invoked job

theorem storedBy_currentTime {state : State} {action : Action}
    {streamHandle : StreamHandle} {tracker : EndpointTracker} {bound : Nat}
    (stores : state.storedBy action = some (streamHandle, tracker))
    (invoked : ∀ job, (state.jobs job).call.currentTime < bound) :
    tracker.endpointLastUpdateTime < bound := by
  unfold State.storedBy at stores
  split at stores
  · rename_i id allocated
    rw [Option.ite_none_right_eq_some, Option.some.injEq] at stores
    obtain ⟨-, isStored⟩ := stores
    cases isStored
    exact invoked id
  · cases stores

namespace CachingState.Sound

variable {settings : CacheSettings} {caching target : CachingState}

theorem step {action : Action} (sound : caching.Sound settings)
    (inRange : ∀ currentTime ∈ action.currentTime?, currentTime < 2 ^ 63)
    (steps : caching.step action = some target) :
    target.Sound settings := by
  obtain ⟨state, next, rfl⟩ := Option.map_eq_some_iff.mp steps
  constructor
  case cached =>
      intro streamHandle tracker left
      rcases cachedEndpoints_cases next left with stored | ⟨before, others⟩
      · simp [stored]
      · cases stores : caching.state.storedBy action with
        | none => exact sound.cached streamHandle tracker before
        | some entry =>
            obtain ⟨other, tracker⟩ := entry
            have different : streamHandle ≠ other := by
              rintro rfl
              exact others tracker stores
            simp only
            rw [Function.update_of_ne different]
            exact sound.cached streamHandle _ before
  case invoked => exact currentTime_lt next sound.invoked inRange
  case stored =>
      intro streamHandle tracker recorded
      cases stores : caching.state.storedBy action with
      | none =>
          simp only [stores] at recorded
          exact sound.stored streamHandle tracker recorded
      | some entry =>
          obtain ⟨other, stored⟩ := entry
          simp only [stores] at recorded
          by_cases same : streamHandle = other
          · subst same
            rw [Function.update_self, Option.mem_def,
              Option.some.injEq] at recorded
            subst recorded
            exact storedBy_currentTime stores sound.invoked
          · rw [Function.update_of_ne same] at recorded
            exact sound.stored streamHandle tracker recorded
  case fresh => exact sound.fresh
  case uncached => exact sound.uncached

theorem emulate {api : Api} {streamHandle : StreamHandle} {curTime : Nat}
    {uninitialised : Bytes} {result : EmulatedResult}
    (sound : caching.Sound settings)
    (emulates : api.emulate settings
      (caching.state.cachedEndpoints streamHandle) uninitialised curTime =
        some result) :
    CachingState.Sound settings
      { caching with
        emulated := caching.emulated ++
          [{ streamHandle := streamHandle
             time := curTime
             result := result
             lastStored := caching.lastStored streamHandle }] } where
  cached := sound.cached
  invoked := sound.invoked
  stored := sound.stored
  fresh := by
    intro call listed
    rcases List.mem_append.mp listed with before | last
    · exact sound.fresh call before
    · rw [List.mem_singleton] at last
      subst last
      rintro streamingEndpoint rfl
      obtain ⟨tracker, cached, reports, current⟩ := emulate_endpoint emulates
      have stored := sound.cached streamHandle tracker cached
      have early := sound.stored streamHandle tracker stored
      have short := settings.period_le
      rw [MAX_ENDPOINT_CACHE_UPDATE_PERIOD] at short
      rw [Nat.mod_eq_of_lt (by omega)] at current
      exact ⟨tracker, stored, reports, by simp only; omega⟩
  uncached isNone := by
    rw [emulate_none isNone] at emulates
    cases emulates

theorem next {action : CachingAction} (sound : caching.Sound settings)
    (inRange : ClockInRange caching action)
    (steps : caching.next settings action = some target) :
    target.Sound settings := by
  cases action with
  | step action => exact sound.step inRange steps
  | call id api streamHandle curTime currentTime uninitialised =>
      simp only [CachingState.next] at steps
      split at steps
      · refine sound.step ?_ steps
        rintro _ ⟨⟩
        exact inRange.2
      · rename_i emulates
        cases steps
        exact sound.emulate emulates

end CachingState.Sound

/-- In every run, an endpoint that is reported without a call is the one that
was last stored for the stream, and younger than the period; the two decisions
agree when the whole cache is used, and no call is emulated without the
cache. -/
theorem emulated_fresh {settings : CacheSettings} {caching : CachingState}
    (run : Steps (CachingState.next settings) ClockInRange .initial caching) :
    (∀ call ∈ caching.emulated, call.Fresh settings) ∧
      (settings.cacheType = .all →
        ∀ cached uninitialised curTime,
          checkApiCallEmulation settings cached uninitialised curTime =
            (getStreamingEndpointCachingCurl settings cached uninitialised
              curTime).isSome) ∧
      (settings.cacheType = .none → caching.emulated = []) := by
  have sound : caching.Sound settings := by
    apply run.invariant fun caching => caching.Sound settings
    · exact initial_sound settings
    · intro before action after sound inRange steps
      exact sound.next inRange steps
  exact ⟨sound.fresh, emulation_agrees, sound.uncached⟩

/-- The whole cache, with a period of forty minutes. -/
def sampleSettings : CacheSettings where
  cacheType := .all
  cacheUpdatePeriod := 24000000000
  period_le := by decide

instance (caching : CachingState) : DecidablePred (ClockInRange caching)
  | .step action => inferInstanceAs (Decidable
      (∀ currentTime ∈ action.currentTime?, currentTime < 2 ^ 63))
  | .call _ _ _ _ _ _ => inferInstanceAs (Decidable (_ ∧ _))

/-- An endpoint is stored, reported while it is young, and fetched again. -/
def emulatedRun : List CachingAction :=
  answeredCall.map .step ++
    [.call 1 .getStreamingEndpoint 7 23999999999 0 [],
      .call 2 .describeStream 7 23999999999 0 [],
      .call 3 .getStreamingEndpoint 7 24000000000 24000000000 []]

theorem emulated_fresh_emulatedRun :
    let caching := stateAfter (CachingState.next sampleSettings) ClockInRange
      .initial emulatedRun
    caching.emulated.map (·.result) = [.endpoint (some (bytes "e")), .ok] ∧
      ∀ call ∈ caching.emulated, call.Fresh sampleSettings := by
  have taken : (replay (CachingState.next sampleSettings) ClockInRange .initial
      emulatedRun).isSome = true := by
    decide +kernel
  exact ⟨by decide +kernel, (emulated_fresh (steps_stateAfter taken)).1⟩

end CurlApi

end KvsProducer
