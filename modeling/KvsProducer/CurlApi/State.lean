import KvsProducer.StreamingEndpoint
import Mathlib.Logic.Function.Basic
import Mathlib.Tactic.Simps.Basic

/-!
# The shared state of the curl API callbacks

An API call builds a request, starts a handler thread for it and registers the
request in one of two collections; the three are kept together as a job.  The
stream and client shutdown calls work on the same collections.  Every critical
section of `shutdownLock` and of `cachedEndpointsLock` is one step of the
model, so these two locks need no owner; the locks of the collections are held
over several steps.
-/

namespace KvsProducer

namespace CurlApi

/-- A valid stream handle. -/
abbrev StreamHandle := Nat
abbrev UploadHandle := Nat
abbrev JobId := Nat
abbrev ShutdownId := Nat

inductive Api where
  | createStream
  | describeStream
  | getStreamingEndpoint
  | tagResource
  | putStream
  deriving DecidableEq, Repr

/-- `pActiveRequests` and `pActiveUploads`. -/
inductive Collection where
  | activeRequests
  | activeUploads
  deriving DecidableEq, Repr

def Api.collection : Api → Collection
  | .putStream => .activeUploads
  | _ => .activeRequests

/-- Where an API call is.  In `failing` the flag tells whether the thread id
is valid, so that the thread is still to be cancelled. -/
inductive CallPc where
  | idle
  | entered
  | locked
  | gated
  | threadCreated
  | registered
  | started
  | failing (threadId : Bool)
  | freed
  | returned (succeeded : Bool)
  deriving DecidableEq, Repr

structure ApiCall where
  api : Api
  streamHandle : StreamHandle
  currentTime : Nat
  pc : CallPc
  deriving DecidableEq, Repr

inductive RequestLife where
  | unallocated
  | live
  | freed
  deriving DecidableEq, Repr

/-- `CurlRequest`, less what it copies from the call: `startLocked` tells that
the API call holds `startLock`. -/
structure CurlRequest where
  life : RequestLife
  startLocked : Bool
  terminating : Bool
  uploadHandle : UploadHandle
  deriving DecidableEq, Repr

/-- Where a handler thread is.  `crashed` is a thread that has touched a
request, or its start lock, after they were freed. -/
inductive HandlerPc where
  | absent
  | entry
  | logging
  | awaitStart
  | signing
  | beforePerform
  | inCurl
  | performed
  | afterCall
  | storing
  | exiting
  | removing
  | notifying
  | reporting
  | finished
  | cancelled
  | crashed
  deriving DecidableEq, Repr

/-- The local variables of a handler, with the part of the response that only
the handler looks at.  `transfer` is what `curl_easy_perform` has left, `none`
when it was not called. -/
structure Handler where
  pc : HandlerPc
  cancelPending : Bool
  retStatus : Status
  transfer : Option Transfer
  callInfo : CallInfo
  streamingEndpoint : Option Bytes
  requestTerminating : Bool
  deriving DecidableEq, Repr

/-- An API call with its request and its handler thread. -/
structure Job where
  call : ApiCall
  request : CurlRequest
  handler : Handler
  deriving DecidableEq, Repr

/-- `CurlRequest::streamHandle` -/
@[simp] abbrev Job.streamHandle (job : Job) : StreamHandle :=
  job.call.streamHandle

@[simp] abbrev Job.collection (job : Job) : Collection :=
  job.call.api.collection

inductive ShutdownKind where
  | stream (streamHandle : StreamHandle) (resetStream : Bool)
  | client
  deriving DecidableEq, Repr

/-- How a shutdown call returns: it performed the shutdown, found one in
progress, or failed on a stream that was already marked or on a snapshot array
that is too small. -/
inductive Outcome where
  | performed
  | already
  | markFailed
  | tooMany
  deriving DecidableEq, Repr

inductive ShutdownPc where
  | idle
  | entered
  | flagged
  | marking
  | acquiring (collection : Collection)
  | visiting (collection : Collection) (entries : List JobId)
  | dropping
  | polling (collection : Collection)
  | finishing
  | returned (outcome : Outcome)
  deriving DecidableEq, Repr

structure ShutdownCall where
  kind : ShutdownKind
  pc : ShutdownPc
  deriving DecidableEq, Repr

/-- The stream handle that the passes of a shutdown call are given: `none` is
`INVALID_STREAM_HANDLE_VALUE`, for all streams. -/
def ShutdownKind.target : ShutdownKind → Option StreamHandle
  | .stream streamHandle _ => some streamHandle
  | .client => none

inductive LockOwner where
  | api (job : JobId)
  | shutdown (call : ShutdownId)
  deriving DecidableEq, Repr

/-- The callbacks into PIC and the application that a handler makes. -/
inductive EventKind where
  | callResult
  | streamTerminated
  | errorReport
  deriving DecidableEq, Repr

structure Event where
  job : JobId
  kind : EventKind
  deriving DecidableEq, Repr

/-- `EndpointTracker`; no endpoint is the copy of an uninitialised buffer. -/
structure EndpointTracker where
  endpointLastUpdateTime : Nat
  streamingEndpoint : Option Bytes
  deriving DecidableEq, Repr

structure State where
  jobs : JobId → Job
  shutdowns : ShutdownId → ShutdownCall
  active : Collection → List JobId
  activeLock : Collection → Option LockOwner
  streamsShuttingDown : StreamHandle → Bool
  cachedEndpoints : StreamHandle → Option EndpointTracker
  shutdown : Bool
  streamingRequestCount : Nat
  events : List Event

def Job.idle : Job :=
  { call :=
      { api := .createStream
        streamHandle := 0
        currentTime := 0
        pc := .idle }
    request :=
      { life := .unallocated
        startLocked := false
        terminating := false
        uploadHandle := 0 }
    handler :=
      { pc := .absent
        cancelPending := false
        retStatus := .success
        transfer := none
        callInfo := .initial
        streamingEndpoint := none
        requestTerminating := false } }

/-- `createCurlApiCallbacks` -/
def State.initial : State :=
  { jobs := fun _ => .idle
    shutdowns := fun _ =>
      { kind := .client
        pc := .idle }
    active := fun _ => []
    activeLock := fun _ => none
    streamsShuttingDown := fun _ => false
    cachedEndpoints := fun _ => none
    shutdown := false
    streamingRequestCount := 0
    events := [] }

namespace State

@[simps] def setJob (state : State) (job : JobId) (value : Job) : State :=
  { state with jobs := Function.update state.jobs job value }

@[simps] def setShutdown (state : State) (call : ShutdownId) (pc : ShutdownPc) :
    State :=
  { state with
    shutdowns := Function.update state.shutdowns call
      { state.shutdowns call with pc := pc } }

@[simps] def setActive (state : State) (collection : Collection)
    (entries : List JobId) : State :=
  { state with active := Function.update state.active collection entries }

@[simps] def setLock (state : State) (collection : Collection)
    (owner : Option LockOwner) : State :=
  { state with
    activeLock := Function.update state.activeLock collection owner }

/-- The critical section of a step that does not keep the lock is entered when
nobody holds it. -/
abbrev LockFree (state : State) (collection : Collection) : Prop :=
  state.activeLock collection = none

end State

end CurlApi

end KvsProducer
