import Mathlib.Logic.Function.Basic

/-!
# The callbacks provider

The provider holds the callbacks that PIC calls, the platform callbacks and four
chains of callbacks.  A chain has room for `callbackChainCount` entries behind
the structure.
-/

namespace KvsProducer

namespace Callbacks

/-- `STATUS`, as a number -/
abbrev StatusCode := Nat

def STATUS_SUCCESS : StatusCode := 0
def STATUS_NULL_ARG : StatusCode := 1
def STATUS_INVALID_ARG : StatusCode := 2
def STATUS_PRODUCER_BASE : StatusCode := 0x15000000
def STATUS_STOP_CALLBACK_CHAIN : StatusCode := STATUS_PRODUCER_BASE + 0x1
def STATUS_MAX_CALLBACK_CHAIN : StatusCode := STATUS_PRODUCER_BASE + 0x2
def STATUS_INVALID_PLATFORM_CALLBACKS_VERSION : StatusCode :=
  STATUS_PRODUCER_BASE + 0x3
def STATUS_INVALID_PRODUCER_CALLBACKS_VERSION : StatusCode :=
  STATUS_PRODUCER_BASE + 0x4
def STATUS_INVALID_STREAM_CALLBACKS_VERSION : StatusCode :=
  STATUS_PRODUCER_BASE + 0x5
def STATUS_INVALID_AUTH_CALLBACKS_VERSION : StatusCode :=
  STATUS_PRODUCER_BASE + 0x6
def STATUS_INVALID_API_CALLBACKS_VERSION : StatusCode :=
  STATUS_PRODUCER_BASE + 0x7
def STATUS_DUPLICATE_PRODUCER_CALLBACK_FREE_FUNC : StatusCode :=
  STATUS_PRODUCER_BASE + 0x19
def STATUS_DUPLICATE_STREAM_CALLBACK_FREE_FUNC : StatusCode :=
  STATUS_PRODUCER_BASE + 0x1a
def STATUS_DUPLICATE_AUTH_CALLBACK_FREE_FUNC : StatusCode :=
  STATUS_PRODUCER_BASE + 0x1b
def STATUS_DUPLICATE_API_CALLBACK_FREE_FUNC : StatusCode :=
  STATUS_PRODUCER_BASE + 0x1c

def PLATFORM_CALLBACKS_CURRENT_VERSION : Nat := 0
def PRODUCER_CALLBACKS_CURRENT_VERSION : Nat := 0
def STREAM_CALLBACKS_CURRENT_VERSION : Nat := 0
def AUTH_CALLBACKS_CURRENT_VERSION : Nat := 0
def API_CALLBACKS_CURRENT_VERSION : Nat := 0

/-! ### The functions of the callback records -/

inductive PlatformFn where
  | getCurrentTimeFn
  | getRandomNumberFn
  | createMutexFn
  | lockMutexFn
  | unlockMutexFn
  | tryLockMutexFn
  | freeMutexFn
  | createConditionVariableFn
  | signalConditionVariableFn
  | broadcastConditionVariableFn
  | waitConditionVariableFn
  | freeConditionVariableFn
  | logPrintFn
  deriving DecidableEq, Repr

inductive ProducerFn where
  | storageOverflowPressureFn
  | clientReadyFn
  | clientShutdownFn
  deriving DecidableEq, Repr

inductive StreamFn where
  | streamUnderflowReportFn
  | bufferDurationOverflowPressureFn
  | streamLatencyPressureFn
  | streamConnectionStaleFn
  | droppedFrameReportFn
  | droppedFragmentReportFn
  | streamErrorReportFn
  | fragmentAckReceivedFn
  | streamDataAvailableFn
  | streamReadyFn
  | streamClosedFn
  | streamShutdownFn
  deriving DecidableEq, Repr

inductive AuthFn where
  | getSecurityTokenFn
  | getDeviceCertificateFn
  | deviceCertToTokenFn
  | getDeviceFingerprintFn
  | getStreamingTokenFn
  deriving DecidableEq, Repr

inductive ApiFn where
  | createStreamFn
  | describeStreamFn
  | getStreamingEndpointFn
  | putStreamFn
  | tagResourceFn
  | createDeviceFn
  deriving DecidableEq, Repr

/-- The function pointers of `ClientCallbacks`. -/
inductive ClientFn where
  | platform (fn : PlatformFn)
  | producer (fn : ProducerFn)
  | stream (fn : StreamFn)
  | auth (fn : AuthFn)
  | api (fn : ApiFn)
  deriving DecidableEq, Repr

/-- The aggregates over the chains. -/
inductive Aggregate where
  | storageOverflowPressureAggregate
  | clientReadyAggregate
  | clientShutdownAggregate
  | streamUnderflowReportAggregate
  | bufferDurationOverflowPressureAggregate
  | streamLatencyPressureAggregate
  | streamConnectionStaleAggregate
  | droppedFrameReportAggregate
  | droppedFragmentReportAggregate
  | streamErrorReportAggregate
  | fragmentAckReceivedAggregate
  | streamDataAvailableAggregate
  | streamReadyAggregate
  | streamClosedAggregate
  | streamShutdownAggregate
  | getSecurityTokenAggregate
  | getDeviceCertificateAggregate
  | deviceCertToTokenAggregate
  | getDeviceFingerprintAggregate
  | getStreamingTokenAggregate
  | createStreamAggregate
  | describeStreamAggregate
  | getStreamingEndpointAggregate
  | putStreamAggregate
  | tagResourceAggregate
  | createDeviceAggregate
  deriving DecidableEq, Repr

/-- The free functions of the callbacks that the library itself creates. -/
inductive FreeFn where
  | freeApiCallbacksCurl
  | continuousRetryStreamFreeHandler
  | freeStaticAuthCallbacksFunc
  | freeIotAuthCallbacksFunc
  | freeFileAuthCallbacksFunc
  deriving DecidableEq, Repr

/-- The callbacks that the library provides itself. -/
inductive LibraryFn where
  | createStreamCachingCurl
  | describeStreamCachingCurl
  | getStreamingEndpointCachingCurl
  | tagResourceCachingCurl
  | createDeviceCurl
  | putStreamCurl
  | dataAvailableCurl
  | streamClosedCurl
  | fragmentAckReceivedCurl
  | shutdownStreamCurl
  | clientShutdownCurl
  | getStreamingTokenStaticFunc
  | getSecurityTokenStaticFunc
  | getStreamingTokenIotFunc
  | getSecurityTokenIotFunc
  | getStreamingTokenFileFunc
  | getSecurityTokenFileFunc
  | continuousRetryStreamConnectionStaleHandler
  | continuousRetryStreamErrorReportHandler
  | continuousRetryStreamLatencyPressureHandler
  | continuousRetryStreamReadyHandler
  | continuousRetryStreamShutdownHandler
  | continuousRetryStreamClosedHandler
  deriving DecidableEq, Repr

/-- A function: an aggregate, the aggregate or the default of a platform
callback, a function of the library, or any other code. -/
inductive FnPtr where
  | aggregate (aggregate : Aggregate)
  | platformAggregate (fn : PlatformFn)
  | platformDefault (fn : PlatformFn)
  | library (fn : LibraryFn)
  | free (fn : FreeFn)
  | code (address : Nat)
  deriving DecidableEq, Repr

/-- A record of callbacks. -/
structure CallbackRecord (Fn : Type) where
  version : Nat
  customData : Nat
  fn : Fn → Option FnPtr
  freeFn : Option FnPtr

/-! ### The chains -/

inductive Chain where
  | producer
  | stream
  | auth
  | api
  deriving DecidableEq, Repr

abbrev Chain.Fn : Chain → Type
  | .producer => ProducerFn
  | .stream => StreamFn
  | .auth => AuthFn
  | .api => ApiFn

/-- `ProducerCallbacks`, `StreamCallbacks`, `AuthCallbacks`, `ApiCallbacks` -/
abbrev Chain.Record (chain : Chain) : Type := CallbackRecord chain.Fn

def Chain.clientFn : (chain : Chain) → chain.Fn → ClientFn
  | .producer => .producer
  | .stream => .stream
  | .auth => .auth
  | .api => .api

structure CallbacksProvider where
  clientCallbacks : ClientFn → Option FnPtr
  callbackChainCount : Nat
  platformCallbacks : CallbackRecord PlatformFn
  chains : (chain : Chain) → List chain.Record

/-- A provider with empty chains. -/
def CallbacksProvider.empty (callbackChainCount : Nat)
    (platform : PlatformFn → Option FnPtr)
    (platformCallbacks : CallbackRecord PlatformFn) : CallbacksProvider where
  clientCallbacks
    | .platform fn => platform fn
    | _ => none
  callbackChainCount := callbackChainCount
  platformCallbacks := platformCallbacks
  chains := fun _ => []

end Callbacks

end KvsProducer
