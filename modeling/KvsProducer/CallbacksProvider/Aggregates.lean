import KvsProducer.CallbacksProvider.Chains
import KvsProducer.Lib.Dispatch

/-!
# The aggregates over the chains

PIC calls an aggregate with the provider as the custom data.  The aggregate
calls the callbacks of its name in the chain, each with its own custom data.
-/

namespace KvsProducer

namespace Callbacks

open Dispatch

/-- An argument: a number or a pointer. -/
abbrev Word := Nat

/-- The call of a callback. -/
structure Invocation where
  fn : FnPtr
  customData : Word
  args : List Word
  deriving DecidableEq, Repr

/-- The calls that an aggregate has made, and the status that it returns. -/
abbrev ChainRun := List Invocation × StatusCode

section Aggregates

variable (answer : List Invocation → Invocation → StatusCode)

/-- The loop of the aggregates: `retStatus` and the calls made so far. -/
def aggregateLoop {Fn : Type} (field : Fn) (args : List Word) :
    StatusCode → List Invocation → List (CallbackRecord Fn) → ChainRun
  | retStatus, _, [] => ([], retStatus)
  | retStatus, made, callbacks :: rest =>
      match callbacks.fn field with
      | none => aggregateLoop field args retStatus made rest
      | some fn =>
          let invocation : Invocation :=
            { fn := fn
              customData := callbacks.customData
              args := args }
          let retStatus := answer made invocation
          if ¬ retStatus ≠ STATUS_STOP_CALLBACK_CHAIN then
            ([invocation], STATUS_SUCCESS)
          else if retStatus ≠ STATUS_SUCCESS then ([invocation], retStatus)
          else
            let (later, result) := aggregateLoop field args retStatus
              (made ++ [invocation]) rest
            (invocation :: later, result)

variable (customData : Option CallbacksProvider)

/-- The body of the aggregates. -/
def aggregate (chain : Chain) (field : chain.Fn) (args : List Word) :
    ChainRun :=
  match customData with
  | none => ([], STATUS_INVALID_ARG)
  | some pCallbacksProvider =>
      aggregateLoop answer field args STATUS_SUCCESS []
        (pCallbacksProvider.chains chain)

/-! #### Auth callback aggregates -/

def getDeviceCertificateAggregate (buffer size expiration : Word) : ChainRun :=
  aggregate answer customData .auth .getDeviceCertificateFn
    [buffer, size, expiration]

def getSecurityTokenAggregate (buffer size expiration : Word) : ChainRun :=
  aggregate answer customData .auth .getSecurityTokenFn
    [buffer, size, expiration]

def getDeviceFingerprintAggregate (fingerprint : Word) : ChainRun :=
  aggregate answer customData .auth .getDeviceFingerprintFn [fingerprint]

def deviceCertToTokenAggregate (deviceName
    pServiceCallContext : Word) : ChainRun :=
  aggregate answer customData .auth .deviceCertToTokenFn
    [deviceName, pServiceCallContext]

def getStreamingTokenAggregate (streamName accessMode
    pServiceCallContext : Word) : ChainRun :=
  aggregate answer customData .auth .getStreamingTokenFn
    [streamName, accessMode, pServiceCallContext]

/-! #### Producer callback aggregates -/

def storageOverflowPressureAggregate (remainingBytes : Word) : ChainRun :=
  aggregate answer customData .producer .storageOverflowPressureFn
    [remainingBytes]

def clientReadyAggregate (clientHandle : Word) : ChainRun :=
  aggregate answer customData .producer .clientReadyFn [clientHandle]

def clientShutdownAggregate (clientHandle : Word) : ChainRun :=
  aggregate answer customData .producer .clientShutdownFn [clientHandle]

/-! #### Api callback aggregates -/

def createStreamAggregate (deviceName streamName contentType kmsKeyId
    retentionPeriod pServiceCallContext : Word) : ChainRun :=
  aggregate answer customData .api .createStreamFn
    [deviceName, streamName, contentType, kmsKeyId, retentionPeriod,
      pServiceCallContext]

def describeStreamAggregate (streamName
    pServiceCallContext : Word) : ChainRun :=
  aggregate answer customData .api .describeStreamFn
    [streamName, pServiceCallContext]

def getStreamingEndpointAggregate (streamName apiName
    pServiceCallContext : Word) : ChainRun :=
  aggregate answer customData .api .getStreamingEndpointFn
    [streamName, apiName, pServiceCallContext]

def putStreamAggregate (streamName containerType streamStart isAbsolute
    fragmentAcks streamingEndpoint pServiceCallContext : Word) : ChainRun :=
  aggregate answer customData .api .putStreamFn
    [streamName, containerType, streamStart, isAbsolute, fragmentAcks,
      streamingEndpoint, pServiceCallContext]

def tagResourceAggregate (resourceArn tagCount tags
    pServiceCallContext : Word) : ChainRun :=
  aggregate answer customData .api .tagResourceFn
    [resourceArn, tagCount, tags, pServiceCallContext]

def createDeviceAggregate (deviceName pServiceCallContext : Word) : ChainRun :=
  aggregate answer customData .api .createDeviceFn
    [deviceName, pServiceCallContext]

/-! #### Stream callback aggregates -/

def streamUnderflowReportAggregate (streamHandle : Word) : ChainRun :=
  aggregate answer customData .stream .streamUnderflowReportFn [streamHandle]

def bufferDurationOverflowPressureAggregate (streamHandle
    remainingDuration : Word) : ChainRun :=
  aggregate answer customData .stream .bufferDurationOverflowPressureFn
    [streamHandle, remainingDuration]

def streamLatencyPressureAggregate (streamHandle
    bufferDuration : Word) : ChainRun :=
  aggregate answer customData .stream .streamLatencyPressureFn
    [streamHandle, bufferDuration]

def streamConnectionStaleAggregate (streamHandle
    stalenessDuration : Word) : ChainRun :=
  aggregate answer customData .stream .streamConnectionStaleFn
    [streamHandle, stalenessDuration]

def droppedFrameReportAggregate (streamHandle
    frameTimestamp : Word) : ChainRun :=
  aggregate answer customData .stream .droppedFrameReportFn
    [streamHandle, frameTimestamp]

def droppedFragmentReportAggregate (streamHandle
    fragmentTimestamp : Word) : ChainRun :=
  aggregate answer customData .stream .droppedFragmentReportFn
    [streamHandle, fragmentTimestamp]

def streamErrorReportAggregate (streamHandle uploadHandle errorTimestamp
    errorStatus : Word) : ChainRun :=
  aggregate answer customData .stream .streamErrorReportFn
    [streamHandle, uploadHandle, errorTimestamp, errorStatus]

def fragmentAckReceivedAggregate (streamHandle uploadHandle
    pFragmentAck : Word) : ChainRun :=
  aggregate answer customData .stream .fragmentAckReceivedFn
    [streamHandle, uploadHandle, pFragmentAck]

def streamDataAvailableAggregate (streamHandle streamName uploadHandle
    availableDuration availableSize : Word) : ChainRun :=
  aggregate answer customData .stream .streamDataAvailableFn
    [streamHandle, streamName, uploadHandle, availableDuration, availableSize]

def streamReadyAggregate (streamHandle : Word) : ChainRun :=
  aggregate answer customData .stream .streamReadyFn [streamHandle]

def streamShutdownAggregate (streamHandle resetStream : Word) : ChainRun :=
  aggregate answer customData .stream .streamShutdownFn
    [streamHandle, resetStream]

def streamClosedAggregate (streamHandle uploadHandle : Word) : ChainRun :=
  aggregate answer customData .stream .streamClosedFn
    [streamHandle, uploadHandle]

end Aggregates

/-- A call of an aggregate. -/
inductive AggregateCall where
  | getDeviceCertificate (buffer size expiration : Word)
  | getSecurityToken (buffer size expiration : Word)
  | getDeviceFingerprint (fingerprint : Word)
  | deviceCertToToken (deviceName pServiceCallContext : Word)
  | getStreamingToken (streamName accessMode pServiceCallContext : Word)
  | storageOverflowPressure (remainingBytes : Word)
  | clientReady (clientHandle : Word)
  | clientShutdown (clientHandle : Word)
  | createStream (deviceName streamName contentType kmsKeyId retentionPeriod
      pServiceCallContext : Word)
  | describeStream (streamName pServiceCallContext : Word)
  | getStreamingEndpoint (streamName apiName pServiceCallContext : Word)
  | putStream (streamName containerType streamStart isAbsolute fragmentAcks
      streamingEndpoint pServiceCallContext : Word)
  | tagResource (resourceArn tagCount tags pServiceCallContext : Word)
  | createDevice (deviceName pServiceCallContext : Word)
  | streamUnderflowReport (streamHandle : Word)
  | bufferDurationOverflowPressure (streamHandle remainingDuration : Word)
  | streamLatencyPressure (streamHandle bufferDuration : Word)
  | streamConnectionStale (streamHandle stalenessDuration : Word)
  | droppedFrameReport (streamHandle frameTimestamp : Word)
  | droppedFragmentReport (streamHandle fragmentTimestamp : Word)
  | streamErrorReport (streamHandle uploadHandle errorTimestamp
      errorStatus : Word)
  | fragmentAckReceived (streamHandle uploadHandle pFragmentAck : Word)
  | streamDataAvailable (streamHandle streamName uploadHandle availableDuration
      availableSize : Word)
  | streamReady (streamHandle : Word)
  | streamShutdown (streamHandle resetStream : Word)
  | streamClosed (streamHandle uploadHandle : Word)
  deriving DecidableEq, Repr

namespace AggregateCall

def run (answer : List Invocation → Invocation → StatusCode)
    (customData : Option CallbacksProvider) : AggregateCall → ChainRun
  | .getDeviceCertificate buffer size expiration =>
      getDeviceCertificateAggregate answer customData buffer size expiration
  | .getSecurityToken buffer size expiration =>
      getSecurityTokenAggregate answer customData buffer size expiration
  | .getDeviceFingerprint fingerprint =>
      getDeviceFingerprintAggregate answer customData fingerprint
  | .deviceCertToToken deviceName pServiceCallContext =>
      deviceCertToTokenAggregate answer customData deviceName
        pServiceCallContext
  | .getStreamingToken streamName accessMode pServiceCallContext =>
      getStreamingTokenAggregate answer customData streamName accessMode
        pServiceCallContext
  | .storageOverflowPressure remainingBytes =>
      storageOverflowPressureAggregate answer customData remainingBytes
  | .clientReady clientHandle =>
      clientReadyAggregate answer customData clientHandle
  | .clientShutdown clientHandle =>
      clientShutdownAggregate answer customData clientHandle
  | .createStream deviceName streamName contentType kmsKeyId retentionPeriod
      pServiceCallContext =>
      createStreamAggregate answer customData deviceName streamName contentType
        kmsKeyId retentionPeriod pServiceCallContext
  | .describeStream streamName pServiceCallContext =>
      describeStreamAggregate answer customData streamName pServiceCallContext
  | .getStreamingEndpoint streamName apiName pServiceCallContext =>
      getStreamingEndpointAggregate answer customData streamName apiName
        pServiceCallContext
  | .putStream streamName containerType streamStart isAbsolute fragmentAcks
      streamingEndpoint pServiceCallContext =>
      putStreamAggregate answer customData streamName containerType streamStart
        isAbsolute fragmentAcks streamingEndpoint pServiceCallContext
  | .tagResource resourceArn tagCount tags pServiceCallContext =>
      tagResourceAggregate answer customData resourceArn tagCount tags
        pServiceCallContext
  | .createDevice deviceName pServiceCallContext =>
      createDeviceAggregate answer customData deviceName pServiceCallContext
  | .streamUnderflowReport streamHandle =>
      streamUnderflowReportAggregate answer customData streamHandle
  | .bufferDurationOverflowPressure streamHandle remainingDuration =>
      bufferDurationOverflowPressureAggregate answer customData streamHandle
        remainingDuration
  | .streamLatencyPressure streamHandle bufferDuration =>
      streamLatencyPressureAggregate answer customData streamHandle
        bufferDuration
  | .streamConnectionStale streamHandle stalenessDuration =>
      streamConnectionStaleAggregate answer customData streamHandle
        stalenessDuration
  | .droppedFrameReport streamHandle frameTimestamp =>
      droppedFrameReportAggregate answer customData streamHandle frameTimestamp
  | .droppedFragmentReport streamHandle fragmentTimestamp =>
      droppedFragmentReportAggregate answer customData streamHandle
        fragmentTimestamp
  | .streamErrorReport streamHandle uploadHandle errorTimestamp errorStatus =>
      streamErrorReportAggregate answer customData streamHandle uploadHandle
        errorTimestamp errorStatus
  | .fragmentAckReceived streamHandle uploadHandle pFragmentAck =>
      fragmentAckReceivedAggregate answer customData streamHandle uploadHandle
        pFragmentAck
  | .streamDataAvailable streamHandle streamName uploadHandle availableDuration
      availableSize =>
      streamDataAvailableAggregate answer customData streamHandle streamName
        uploadHandle availableDuration availableSize
  | .streamReady streamHandle =>
      streamReadyAggregate answer customData streamHandle
  | .streamShutdown streamHandle resetStream =>
      streamShutdownAggregate answer customData streamHandle resetStream
  | .streamClosed streamHandle uploadHandle =>
      streamClosedAggregate answer customData streamHandle uploadHandle

/-- The chain and the callback that the aggregate is for. -/
def target : AggregateCall → (chain : Chain) × chain.Fn
  | .getDeviceCertificate .. => ⟨.auth, .getDeviceCertificateFn⟩
  | .getSecurityToken .. => ⟨.auth, .getSecurityTokenFn⟩
  | .getDeviceFingerprint .. => ⟨.auth, .getDeviceFingerprintFn⟩
  | .deviceCertToToken .. => ⟨.auth, .deviceCertToTokenFn⟩
  | .getStreamingToken .. => ⟨.auth, .getStreamingTokenFn⟩
  | .storageOverflowPressure .. => ⟨.producer, .storageOverflowPressureFn⟩
  | .clientReady .. => ⟨.producer, .clientReadyFn⟩
  | .clientShutdown .. => ⟨.producer, .clientShutdownFn⟩
  | .createStream .. => ⟨.api, .createStreamFn⟩
  | .describeStream .. => ⟨.api, .describeStreamFn⟩
  | .getStreamingEndpoint .. => ⟨.api, .getStreamingEndpointFn⟩
  | .putStream .. => ⟨.api, .putStreamFn⟩
  | .tagResource .. => ⟨.api, .tagResourceFn⟩
  | .createDevice .. => ⟨.api, .createDeviceFn⟩
  | .streamUnderflowReport .. => ⟨.stream, .streamUnderflowReportFn⟩
  | .bufferDurationOverflowPressure .. =>
      ⟨.stream, .bufferDurationOverflowPressureFn⟩
  | .streamLatencyPressure .. => ⟨.stream, .streamLatencyPressureFn⟩
  | .streamConnectionStale .. => ⟨.stream, .streamConnectionStaleFn⟩
  | .droppedFrameReport .. => ⟨.stream, .droppedFrameReportFn⟩
  | .droppedFragmentReport .. => ⟨.stream, .droppedFragmentReportFn⟩
  | .streamErrorReport .. => ⟨.stream, .streamErrorReportFn⟩
  | .fragmentAckReceived .. => ⟨.stream, .fragmentAckReceivedFn⟩
  | .streamDataAvailable .. => ⟨.stream, .streamDataAvailableFn⟩
  | .streamReady .. => ⟨.stream, .streamReadyFn⟩
  | .streamShutdown .. => ⟨.stream, .streamShutdownFn⟩
  | .streamClosed .. => ⟨.stream, .streamClosedFn⟩

def args : AggregateCall → List Word
  | .getDeviceCertificate buffer size expiration => [buffer, size, expiration]
  | .getSecurityToken buffer size expiration => [buffer, size, expiration]
  | .getDeviceFingerprint fingerprint => [fingerprint]
  | .deviceCertToToken deviceName pServiceCallContext =>
      [deviceName, pServiceCallContext]
  | .getStreamingToken streamName accessMode pServiceCallContext =>
      [streamName, accessMode, pServiceCallContext]
  | .storageOverflowPressure remainingBytes => [remainingBytes]
  | .clientReady clientHandle => [clientHandle]
  | .clientShutdown clientHandle => [clientHandle]
  | .createStream deviceName streamName contentType kmsKeyId retentionPeriod
      pServiceCallContext =>
      [deviceName, streamName, contentType, kmsKeyId, retentionPeriod,
        pServiceCallContext]
  | .describeStream streamName pServiceCallContext =>
      [streamName, pServiceCallContext]
  | .getStreamingEndpoint streamName apiName pServiceCallContext =>
      [streamName, apiName, pServiceCallContext]
  | .putStream streamName containerType streamStart isAbsolute fragmentAcks
      streamingEndpoint pServiceCallContext =>
      [streamName, containerType, streamStart, isAbsolute, fragmentAcks,
        streamingEndpoint, pServiceCallContext]
  | .tagResource resourceArn tagCount tags pServiceCallContext =>
      [resourceArn, tagCount, tags, pServiceCallContext]
  | .createDevice deviceName pServiceCallContext =>
      [deviceName, pServiceCallContext]
  | .streamUnderflowReport streamHandle => [streamHandle]
  | .bufferDurationOverflowPressure streamHandle remainingDuration =>
      [streamHandle, remainingDuration]
  | .streamLatencyPressure streamHandle bufferDuration =>
      [streamHandle, bufferDuration]
  | .streamConnectionStale streamHandle stalenessDuration =>
      [streamHandle, stalenessDuration]
  | .droppedFrameReport streamHandle frameTimestamp =>
      [streamHandle, frameTimestamp]
  | .droppedFragmentReport streamHandle fragmentTimestamp =>
      [streamHandle, fragmentTimestamp]
  | .streamErrorReport streamHandle uploadHandle errorTimestamp errorStatus =>
      [streamHandle, uploadHandle, errorTimestamp, errorStatus]
  | .fragmentAckReceived streamHandle uploadHandle pFragmentAck =>
      [streamHandle, uploadHandle, pFragmentAck]
  | .streamDataAvailable streamHandle streamName uploadHandle availableDuration
      availableSize =>
      [streamHandle, streamName, uploadHandle, availableDuration, availableSize]
  | .streamReady streamHandle => [streamHandle]
  | .streamShutdown streamHandle resetStream => [streamHandle, resetStream]
  | .streamClosed streamHandle uploadHandle => [streamHandle, uploadHandle]

end AggregateCall

/-! ### The reference -/

/-- The calls of the callbacks that are not `NULL`, in the order of the chain,
each with its own custom data. -/
def CallbacksProvider.invocations (provider : CallbacksProvider) (chain : Chain)
    (field : chain.Fn) (args : List Word) : List Invocation :=
  (provider.chains chain).filterMap fun callbacks =>
    (callbacks.fn field).map fun fn =>
      { fn := fn
        customData := callbacks.customData
        args := args }

/-- What a status means for the chain: go on, or return a status. -/
def verdict (status : StatusCode) : Option StatusCode :=
  if status = STATUS_SUCCESS then none
  else if status = STATUS_STOP_CALLBACK_CHAIN then some STATUS_SUCCESS
  else some status

/-- The reference fold. -/
def referenceFold (answer : List Invocation → Invocation → StatusCode)
    (invocations : List Invocation) : ChainRun :=
  dispatch answer verdict STATUS_SUCCESS [] invocations

/-- All calls are made and succeed, or the last that is made is the first that
does not succeed; then it has failed, or stopped the chain. -/
def InOrder (answer : List Invocation → Invocation → StatusCode)
    (invocations : List Invocation) (run : ChainRun) : Prop :=
  (run = (invocations, STATUS_SUCCESS) ∧
      ∀ before invocation after,
        invocations = before ++ invocation :: after →
        answer before invocation = STATUS_SUCCESS) ∨
    ∃ before last after, invocations = before ++ last :: after ∧
      run.1 = before ++ [last] ∧
      (∀ earlier invocation later, before = earlier ++ invocation :: later →
        answer earlier invocation = STATUS_SUCCESS) ∧
      (answer before last = STATUS_STOP_CALLBACK_CHAIN ∧
          run.2 = STATUS_SUCCESS ∨
        answer before last ≠ STATUS_SUCCESS ∧
          answer before last ≠ STATUS_STOP_CALLBACK_CHAIN ∧
          run.2 = answer before last)

@[simp] theorem verdict_eq_none {status : StatusCode} :
    verdict status = none ↔ status = STATUS_SUCCESS := by
  unfold verdict
  split
  · simp_all
  · split <;> simp_all

theorem verdict_eq_some {status result : StatusCode} :
    verdict status = some result ↔
      status = STATUS_STOP_CALLBACK_CHAIN ∧ result = STATUS_SUCCESS ∨
        status ≠ STATUS_SUCCESS ∧ status ≠ STATUS_STOP_CALLBACK_CHAIN ∧
          result = status := by
  unfold verdict
  split
  · rename_i success
    subst success
    simp [STATUS_SUCCESS, STATUS_STOP_CALLBACK_CHAIN, STATUS_PRODUCER_BASE]
  · split <;> simp_all [eq_comm]

variable {answer : List Invocation → Invocation → StatusCode}

theorem referenceFold_inOrder (invocations : List Invocation) :
    InOrder answer invocations (referenceFold answer invocations) := by
  rcases @dispatch_cases _ _ _ answer verdict STATUS_SUCCESS [] invocations with
    ⟨all, passes⟩ |
    ⟨before, last, after, result, same, some, passes, decided⟩
  · left
    refine ⟨all, fun before invocation after same => ?_⟩
    exact verdict_eq_none.mp (passes before invocation after same)
  · right
    refine ⟨before, last, after, same, congrArg Prod.fst some, ?_, ?_⟩
    · intro earlier invocation later isBefore
      exact verdict_eq_none.mp (passes earlier invocation later isBefore)
    · have status : (referenceFold answer invocations).2 = result :=
        congrArg Prod.snd some
      rw [status]
      exact verdict_eq_some.mp decided

/-- The loop is the reference fold over the callbacks of the chain. -/
theorem aggregateLoop_eq {Fn : Type} (field : Fn) (args : List Word)
    (made : List Invocation) (chain : List (CallbackRecord Fn)) :
    aggregateLoop answer field args STATUS_SUCCESS made chain =
      dispatch answer verdict STATUS_SUCCESS made
        (chain.filterMap fun callbacks =>
          (callbacks.fn field).map fun fn =>
            { fn := fn
              customData := callbacks.customData
              args := args }) := by
  induction chain generalizing made with
  | nil => rfl
  | cons callbacks rest induction =>
      unfold aggregateLoop
      cases pointer : callbacks.fn field with
      | none =>
          rw [List.filterMap_cons_none (by rw [pointer]; rfl)]
          exact induction made
      | some fn =>
          rw [List.filterMap_cons_some (by rw [pointer]; rfl), dispatch]
          dsimp only
          generalize answer made _ = status
          by_cases stops : status = STATUS_STOP_CALLBACK_CHAIN
          · rw [if_pos (not_not_intro stops), stops]
            rfl
          · rw [if_neg (not_not_intro stops)]
            by_cases succeeds : status = STATUS_SUCCESS
            · rw [if_neg (not_not_intro succeeds), verdict, if_pos succeeds,
                succeeds, induction]
            · rw [if_pos succeeds, verdict, if_neg succeeds, if_neg stops]

/-- Every aggregate is the reference fold over the callbacks of its own name in
its own chain, with the arguments that it is called with. -/
theorem aggregates_fold
    (answer : List Invocation → Invocation → StatusCode)
    (provider : CallbacksProvider) (call : AggregateCall) :
    let invocations :=
      provider.invocations call.target.1 call.target.2 call.args
    call.run answer (some provider) = referenceFold answer invocations ∧
      InOrder answer invocations (call.run answer (some provider)) := by
  intro invocations
  have same : call.run answer (some provider) =
      referenceFold answer invocations := by
    cases call <;> exact aggregateLoop_eq ..
  rw [same]
  exact ⟨rfl, referenceFold_inOrder invocations⟩

end Callbacks

end KvsProducer
