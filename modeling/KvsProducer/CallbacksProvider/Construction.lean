import KvsProducer.CallbacksProvider.Teardown

/-!
# The construction of the default callbacks provider

The functions that construct a provider allocate the provider, the curl API
callbacks, the auth callbacks and the callbacks for continuous retry.  An object
that has been added to a chain is freed with the provider.  A failure of any step
is cleaned up; what is allocated and freed is recorded.
-/

namespace KvsProducer

namespace Callbacks

def MAX_CALLBACK_CHAIN_COUNT : Nat := 20
def DEFAULT_CALLBACK_CHAIN_COUNT : Nat := 5

inductive AuthKind where
  | static
  | iot
  | file
  deriving DecidableEq, Repr

inductive ObjectKind where
  | provider
  | curlApi
  | auth (kind : AuthKind)
  | continuousRetry
  deriving DecidableEq, Repr

/-- An object has been allocated; it has been released by the free function of a
kind; or C leaves open what happens. -/
inductive HeapEvent where
  | allocated (object : ObjectKind)
  | freed (object freeFunction : ObjectKind)
  | undefined
  deriving DecidableEq, Repr

/-- The steps that can fail by themselves. -/
inductive ConstructionStep where
  | providerAllocation
  | curlApiArguments
  | curlApiAllocation
  | activeRequestsTable
  | activeUploadsList
  | cachedEndpointsTable
  | streamsShuttingDownTable
  | activeUploadsLock
  | activeRequestsLock
  | cachedEndpointsLock
  | shutdownLock
  | sslCallbacks
  | curlGlobalInit
  | authAllocation
  | credentialProvider
  | continuousRetryAllocation
  | streamMappingTable
  deriving DecidableEq, Repr

/-- Which steps succeed; whether the default lock function returns for an
invalid mutex, and whether PIC iterates over a table that is `NULL`. -/
structure ConstructionEnv where
  succeeds : ConstructionStep → Bool
  locksInvalidMutex : Bool
  iteratesNullTable : Bool
  objects : FreeEnv

/-- The address of an object. -/
def ObjectKind.address : ObjectKind → Nat
  | .provider => 1
  | .curlApi => 2
  | .auth .static => 3
  | .auth .iot => 4
  | .auth .file => 5
  | .continuousRetry => 6

def objectAt : Nat → Option ObjectKind
  | 1 => some .provider
  | 2 => some .curlApi
  | 3 => some (.auth .static)
  | 4 => some (.auth .iot)
  | 5 => some (.auth .file)
  | 6 => some .continuousRetry
  | _ => none

/-- The kind of objects that a free function is for. -/
def FreeFn.kind : FreeFn → ObjectKind
  | .freeApiCallbacksCurl => .curlApi
  | .continuousRetryStreamFreeHandler => .continuousRetry
  | .freeStaticAuthCallbacksFunc => .auth .static
  | .freeIotAuthCallbacksFunc => .auth .iot
  | .freeFileAuthCallbacksFunc => .auth .file

/-! ### The records that are added to the chains -/

def curlApiRecord : Chain.api.Record where
  version := API_CALLBACKS_CURRENT_VERSION
  customData := ObjectKind.curlApi.address
  fn
    | .createStreamFn => some (.library .createStreamCachingCurl)
    | .describeStreamFn => some (.library .describeStreamCachingCurl)
    | .getStreamingEndpointFn =>
        some (.library .getStreamingEndpointCachingCurl)
    | .tagResourceFn => some (.library .tagResourceCachingCurl)
    | .createDeviceFn => some (.library .createDeviceCurl)
    | .putStreamFn => some (.library .putStreamCurl)
  freeFn := some (.free .freeApiCallbacksCurl)

def curlStreamRecord : Chain.stream.Record where
  version := STREAM_CALLBACKS_CURRENT_VERSION
  customData := ObjectKind.curlApi.address
  fn
    | .streamDataAvailableFn => some (.library .dataAvailableCurl)
    | .streamClosedFn => some (.library .streamClosedCurl)
    | .fragmentAckReceivedFn => some (.library .fragmentAckReceivedCurl)
    | .streamShutdownFn => some (.library .shutdownStreamCurl)
    | _ => none
  freeFn := none

def curlProducerRecord : Chain.producer.Record where
  version := PRODUCER_CALLBACKS_CURRENT_VERSION
  customData := ObjectKind.curlApi.address
  fn
    | .clientShutdownFn => some (.library .clientShutdownCurl)
    | _ => none
  freeFn := none

def authRecord (kind : AuthKind) : Chain.auth.Record where
  version := AUTH_CALLBACKS_CURRENT_VERSION
  customData := (ObjectKind.auth kind).address
  fn
    | .getStreamingTokenFn =>
        match kind with
        | .static => some (.library .getStreamingTokenStaticFunc)
        | .iot => some (.library .getStreamingTokenIotFunc)
        | .file => some (.library .getStreamingTokenFileFunc)
    | .getSecurityTokenFn =>
        match kind with
        | .static => some (.library .getSecurityTokenStaticFunc)
        | .iot => some (.library .getSecurityTokenIotFunc)
        | .file => some (.library .getSecurityTokenFileFunc)
    | _ => none
  freeFn :=
    match kind with
    | .static => some (.free .freeStaticAuthCallbacksFunc)
    | .iot => some (.free .freeIotAuthCallbacksFunc)
    | .file => some (.free .freeFileAuthCallbacksFunc)

def continuousRetryRecord : Chain.stream.Record where
  version := STREAM_CALLBACKS_CURRENT_VERSION
  customData := ObjectKind.continuousRetry.address
  fn
    | .streamConnectionStaleFn =>
        some (.library .continuousRetryStreamConnectionStaleHandler)
    | .streamErrorReportFn =>
        some (.library .continuousRetryStreamErrorReportHandler)
    | .streamLatencyPressureFn =>
        some (.library .continuousRetryStreamLatencyPressureHandler)
    | .streamReadyFn => some (.library .continuousRetryStreamReadyHandler)
    | .streamShutdownFn => some (.library .continuousRetryStreamShutdownHandler)
    | .streamClosedFn => some (.library .continuousRetryStreamClosedHandler)
    | _ => none
  freeFn := some (.free .continuousRetryStreamFreeHandler)

/-! ### The construction -/

/-- The provider while it is constructed, and what has happened. -/
structure Construction where
  pCallbacksProvider : CallbacksProvider
  events : List HeapEvent

/-- What a step of the teardown means for the objects. -/
def TeardownEvent.heapEvent : TeardownEvent → Option HeapEvent
  | .entryFreed _ (.free freeFn) customData =>
      (objectAt customData).map fun object => .freed object freeFn.kind
  | .released => some (.freed .provider .provider)
  | .aborted => some .undefined
  | _ => none

namespace Construction

def record (construction : Construction) (event : HeapEvent) : Construction :=
  { construction with events := construction.events ++ [event] }

/-- A call of one of the functions that add to a chain. -/
def add (construction : Construction)
    (result : StatusCode × Option CallbacksProvider) : Bool × Construction :=
  (decide (result.1 = STATUS_SUCCESS),
    { construction with
      pCallbacksProvider := result.2.getD construction.pCallbacksProvider })

variable (env : ConstructionEnv) (construction : Construction)

/-- `freeCallbacksProvider` -/
def freeProvider : Construction :=
  { construction with
    events := construction.events ++
      (construction.pCallbacksProvider.freeCallbacksProvider
        env.objects).filterMap (·.heapEvent) }

/-- `freeCurlApiCallbacks`, of an object that is not in a chain: its shutdown
locks the shutdown lock first. -/
def freeCurlApi (shutdownLock : Bool) : Construction :=
  if shutdownLock ∨ env.locksInvalidMutex then
    construction.record (.freed .curlApi .curlApi)
  else construction.record .undefined

/-- `freeContinuousRetryStreamCallbacks`, of an object that is not in a chain:
it returns where it cannot iterate over the mapping table. -/
def freeContinuousRetry (streamMapping : Bool) : Construction :=
  if streamMapping ∨ env.iteratesNullTable then
    construction.record (.freed .continuousRetry .continuousRetry)
  else construction

/-- The tables and the locks of the curl API callbacks. -/
def curlApiGuards : List ConstructionStep :=
  [.activeRequestsTable, .activeUploadsList, .cachedEndpointsTable,
    .streamsShuttingDownTable, .activeUploadsLock, .activeRequestsLock,
    .cachedEndpointsLock, .shutdownLock]

open CallbacksProvider in
def createCurlApiCallbacks : Bool × Construction :=
  if ¬ env.succeeds .curlApiArguments then (false, construction)
  else if ¬ env.succeeds .curlApiAllocation then (false, construction)
  else
    let allocated := construction.record (.allocated .curlApi)
    if ¬ curlApiGuards.all env.succeeds then
      (false, allocated.freeCurlApi env false)
    else if ¬ [.sslCallbacks, .curlGlobalInit].all env.succeeds then
      (false, allocated.freeCurlApi env true)
    else
      match allocated.add
        (addApiCallbacks allocated.pCallbacksProvider curlApiRecord) with
      | (false, withApi) => (false, withApi.freeCurlApi env true)
      | (true, withApi) =>
          match withApi.add
            (addStreamCallbacks withApi.pCallbacksProvider
              curlStreamRecord) with
          | (false, withStream) => (false, withStream.freeCurlApi env true)
          | (true, withStream) =>
              match withStream.add
                (addProducerCallbacks withStream.pCallbacksProvider
                  curlProducerRecord) with
              | (false, withProducer) =>
                  (false, withProducer.freeCurlApi env true)
              | (true, withProducer) => (true, withProducer)

def start (callbackChainCount : Nat) : Construction where
  pCallbacksProvider := .withChains callbackChainCount fun _ => []
  events := []

/-- `createAbstractDefaultCallbacksProvider`, with a pointer or `NULL` for the
result.  The other pointers that it frees are `NULL` when it fails. -/
def createAbstractDefaultCallbacksProvider (ppClientCallbacks : Bool)
    (callbackChainCount : Nat) : Bool × Construction :=
  let start := start callbackChainCount
  if ¬ ppClientCallbacks then (false, start)
  else if ¬ callbackChainCount < MAX_CALLBACK_CHAIN_COUNT then (false, start)
  else if ¬ env.succeeds .providerAllocation then (false, start)
  else
    match (start.record (.allocated .provider)).createCurlApiCallbacks env with
    | (false, construction) => (false, construction.freeProvider env)
    | (true, construction) => (true, construction)

/-- `createStaticAuthCallbacks`, `createIotAuthCallbacks`,
`createIotAuthCallbacksWithTimeouts`, `createFileAuthCallbacks` -/
def createAuthCallbacks (kind : AuthKind) : Bool × Construction :=
  if ¬ env.succeeds .authAllocation then (false, construction)
  else
    let allocated := construction.record (.allocated (.auth kind))
    if ¬ env.succeeds .credentialProvider then
      (false, allocated.record (.freed (.auth kind) (.auth kind)))
    else
      match allocated.add
        (CallbacksProvider.addAuthCallbacks allocated.pCallbacksProvider
          (authRecord kind)) with
      | (false, withAuth) =>
          (false, withAuth.record (.freed (.auth kind) (.auth kind)))
      | (true, withAuth) => (true, withAuth)

def createContinuousRetryStreamCallbacks : Bool × Construction :=
  if ¬ env.succeeds .continuousRetryAllocation then (false, construction)
  else
    let allocated := construction.record (.allocated .continuousRetry)
    if ¬ env.succeeds .streamMappingTable then
      (false, allocated.freeContinuousRetry env false)
    else
      match allocated.add
        (CallbacksProvider.addStreamCallbacks allocated.pCallbacksProvider
          continuousRetryRecord) with
      | (false, withStream) => (false, withStream.freeContinuousRetry env true)
      | (true, withStream) => (true, withStream)

/-- The clean up of a failure, with the pointers that are not `NULL`. -/
def cleanUp (kind freeAuth : AuthKind)
    (pAuthCallbacks pStreamCallbacks : Bool) : Construction :=
  let freed := construction.freeProvider env
  let freed :=
    if pAuthCallbacks then freed.record (.freed (.auth kind) (.auth freeAuth))
    else freed
  if pStreamCallbacks then
    freed.record (.freed .continuousRetry .continuousRetry)
  else freed

end Construction

/-- How a construction ends: whether it succeeds, what `*ppClientCallbacks` is,
and what has happened. -/
structure Created where
  succeeded : Bool
  clientCallbacks : Option CallbacksProvider
  events : List HeapEvent

section Variants

variable (env : ConstructionEnv) (ppClientCallbacks : Bool)

/-- The body of the functions, which differ in the chain count, the kind of the
auth callbacks, the function that frees them explicitly, and whether callbacks
for continuous retry are created. -/
def createProvider (callbackChainCount : Nat) (kind freeAuth : AuthKind)
    (continuousRetry : Bool) : Created :=
  let failed (construction : Construction) : Created :=
    { succeeded := false
      clientCallbacks := none
      events := construction.events }
  let succeeded (construction : Construction) : Created :=
    { succeeded := true
      clientCallbacks := construction.pCallbacksProvider
      events := construction.events }
  match Construction.createAbstractDefaultCallbacksProvider env
    ppClientCallbacks callbackChainCount with
  | (false, construction) => failed construction
  | (true, construction) =>
      match construction.createAuthCallbacks env kind with
      | (false, construction) =>
          failed (construction.cleanUp env kind freeAuth false false)
      | (true, construction) =>
          if continuousRetry then
            match construction.createContinuousRetryStreamCallbacks env with
            | (false, construction) =>
                failed (construction.cleanUp env kind freeAuth true false)
            | (true, construction) => succeeded construction
          else succeeded construction

def createDefaultCallbacksProvider (callbackChainCount : Nat)
    (continuousRetry : Bool) : Created :=
  createProvider env ppClientCallbacks callbackChainCount .static .static
    continuousRetry

def createDefaultCallbacksProviderWithAwsCredentials : Created :=
  createProvider env ppClientCallbacks DEFAULT_CALLBACK_CHAIN_COUNT .static
    .static true

def createDefaultCallbacksProviderWithIotCertificate : Created :=
  createProvider env ppClientCallbacks DEFAULT_CALLBACK_CHAIN_COUNT .iot .iot
    true

def createDefaultCallbacksProviderWithIotCertificateAndTimeouts : Created :=
  createProvider env ppClientCallbacks DEFAULT_CALLBACK_CHAIN_COUNT .iot .iot
    true

/-- The file auth callbacks are freed by the function for IoT. -/
def createDefaultCallbacksProviderWithFileAuth : Created :=
  createProvider env ppClientCallbacks DEFAULT_CALLBACK_CHAIN_COUNT .file .iot
    true

end Variants

inductive ProviderVariant where
  | default (callbackChainCount : Nat) (continuousRetry : Bool)
  | withAwsCredentials
  | withIotCertificate
  | withIotCertificateAndTimeouts
  | withFileAuth
  deriving DecidableEq, Repr

namespace ProviderVariant

def create (env : ConstructionEnv) (ppClientCallbacks : Bool) :
    ProviderVariant → Created
  | .default callbackChainCount continuousRetry =>
      createDefaultCallbacksProvider env ppClientCallbacks callbackChainCount
        continuousRetry
  | .withAwsCredentials =>
      createDefaultCallbacksProviderWithAwsCredentials env ppClientCallbacks
  | .withIotCertificate =>
      createDefaultCallbacksProviderWithIotCertificate env ppClientCallbacks
  | .withIotCertificateAndTimeouts =>
      createDefaultCallbacksProviderWithIotCertificateAndTimeouts env
        ppClientCallbacks
  | .withFileAuth =>
      createDefaultCallbacksProviderWithFileAuth env ppClientCallbacks

def callbackChainCount : ProviderVariant → Nat
  | .default callbackChainCount _ => callbackChainCount
  | _ => DEFAULT_CALLBACK_CHAIN_COUNT

def continuousRetry : ProviderVariant → Bool
  | .default _ continuousRetry => continuousRetry
  | _ => true

end ProviderVariant

/-- The free functions that have released the object. -/
def HeapEvent.freedBy (object : ObjectKind) : HeapEvent → Option ObjectKind
  | .freed released freeFunction =>
      if released = object then some freeFunction else none
  | _ => none

/-- Each object that has been allocated has been freed once, by the function of
its kind, and nothing else has been freed. -/
structure FreedOnce (events : List HeapEvent) : Prop where
  defined : .undefined ∉ events
  once : ∀ object, events.filterMap (·.freedBy object) =
    if .allocated object ∈ events then [object] else []

/-- A construction that fails returns `NULL` and has freed everything once. -/
def Created.CleansUp (created : Created) : Prop :=
  created.succeeded = false →
    created.clientCallbacks = none ∧ FreedOnce created.events

/-- The curl API callbacks are created. -/
def CreatesCurlApi (env : ConstructionEnv) (ppClientCallbacks : Bool)
    (callbackChainCount : Nat) : Prop :=
  ppClientCallbacks = true ∧ callbackChainCount < MAX_CALLBACK_CHAIN_COUNT ∧
    [.providerAllocation, .curlApiArguments, .curlApiAllocation].all
      env.succeeds = true ∧
    Construction.curlApiGuards.all env.succeeds = true ∧
    [.sslCallbacks, .curlGlobalInit].all env.succeeds = true ∧
    0 < callbackChainCount

/-- The callbacks for continuous retry cannot be created, although the auth
callbacks are. -/
def FailsContinuousRetry (env : ConstructionEnv) (ppClientCallbacks : Bool)
    (callbackChainCount : Nat) : Prop :=
  CreatesCurlApi env ppClientCallbacks callbackChainCount ∧
    [.authAllocation, .credentialProvider].all env.succeeds = true ∧
    (env.succeeds .continuousRetryAllocation = false ∨
      env.succeeds .streamMappingTable = false ∨ callbackChainCount = 1)

/-- The curl API callbacks are allocated, but one of their tables or locks
cannot be created. -/
def FailsCurlApiGuards (env : ConstructionEnv) (ppClientCallbacks : Bool)
    (callbackChainCount : Nat) : Prop :=
  ppClientCallbacks = true ∧ callbackChainCount < MAX_CALLBACK_CHAIN_COUNT ∧
    [.providerAllocation, .curlApiArguments, .curlApiAllocation].all
      env.succeeds = true ∧
    Construction.curlApiGuards.all env.succeeds = false

namespace FreedOnce

theorem nothing : FreedOnce [] where
  defined := List.not_mem_nil
  once _ := rfl

/-- An object is allocated before, and freed after, what is freed once. -/
theorem around {events : List HeapEvent} {object : ObjectKind}
    (freed : FreedOnce events) (fresh : .allocated object ∉ events) :
    FreedOnce (.allocated object :: (events ++ [.freed object object])) where
  defined := by simp [freed.defined]
  once other := by
    have once := freed.once other
    have first (rest : List HeapEvent) :
        (.allocated object :: rest).filterMap (·.freedBy other) =
          rest.filterMap (·.freedBy other) := rfl
    rw [first, List.filterMap_append, once]
    by_cases same : object = other
    · subst same
      rw [if_neg fresh]
      simp [HeapEvent.freedBy]
    · simp [HeapEvent.freedBy, same, Ne.symm same]

theorem not_twice {events : List HeapEvent} {object one other : ObjectKind}
    (twice : (events.filterMap (·.freedBy object)) = [one, other]) :
    ¬ FreedOnce events := by
  intro freed
  have once := freed.once object
  rw [twice] at once
  split at once <;> simp at once

end FreedOnce

/-! ### The provider while it is constructed -/

/-- A provider with the default platform callbacks and the given chains. -/
structure Built (provider : CallbacksProvider) (callbackChainCount : Nat)
    (chains : (chain : Chain) → List chain.Record) : Prop where
  count : provider.callbackChainCount = callbackChainCount
  chains : provider.chains = chains
  platform : ∀ fn, provider.clientCallbacks (.platform fn) =
    some (.platformDefault fn)
  freeFn : provider.platformCallbacks.freeFn = none

/-- The teardown of a provider with the given chains, if no client callback is
replaced. -/
def entriesFreed (chains : (chain : Chain) → List chain.Record) :
    List TeardownEvent :=
  [.producer, .stream, .auth, .api].flatMap (fun chain =>
    (chains chain).filterMap fun entry =>
      entry.freeFn.map fun freeFn =>
        .entryFreed chain freeFn entry.customData) ++ [.released]

section Built

variable {provider after : CallbacksProvider} {callbackChainCount : Nat}
variable {chains : (chain : Chain) → List chain.Record} {chain : Chain}

theorem Built.added (built : Built provider callbackChainCount chains)
    {record : chain.Record}
    (added : CallbacksProvider.Added provider after record) :
    Built after callbackChainCount
      (Function.update chains chain (chains chain ++ [record])) := by
  constructor
  case count => exact added.count.trans built.count
  case chains =>
      funext other
      by_cases same : other = chain
      · subst same
        rw [added.grown, built.chains, Function.update_self]
      · rw [added.others other same, built.chains, Function.update_of_ne same]
  case platform =>
      intro fn
      rw [added.keeps, built.platform]
      intro recordFn _
      exact CallbacksProvider.clientFn_ne_platform recordFn fn
  case freeFn =>
      rw [added.platform]
      exact built.freeFn

theorem Built.freeCallbacksProvider
    (built : Built provider callbackChainCount chains) (env : FreeEnv) :
    provider.freeCallbacksProvider env = entriesFreed chains := by
  have silent (fn : PlatformFn) : provider.clientCall fn = [] := by
    unfold CallbacksProvider.clientCall
    split
    · rfl
    · simp [built.platform]
  have frees (chain : Chain) : provider.freeChain env chain =
      (chains chain).filterMap fun entry =>
        entry.freeFn.map fun freeFn =>
          .entryFreed chain freeFn entry.customData := by
    rw [CallbacksProvider.freeChain, built.chains]
    induction chains chain with
    | nil => rfl
    | cons entry rest induction =>
        rw [List.flatMap_cons, induction]
        cases isFree : entry.freeFn with
        | none => rw [List.filterMap_cons_none (by rw [isFree]; rfl)]; rfl
        | some freeFn =>
            rw [List.filterMap_cons_some (by rw [isFree]; rfl)]
            simp [silent]
  have steps : provider.teardownSteps env = entriesFreed chains := by
    simp [CallbacksProvider.teardownSteps, frees, built.freeFn, entriesFreed]
  rw [CallbacksProvider.freeCallbacksProvider, steps,
    CallbacksProvider.untilAborted_eq]
  simp [entriesFreed]

end Built

/-- The chains once the curl API callbacks have been added. -/
def curlApiChains : (chain : Chain) → List chain.Record
  | .producer => [curlProducerRecord]
  | .stream => [curlStreamRecord]
  | .auth => []
  | .api => [curlApiRecord]

theorem curlApiChains_eq :
    curlApiChains = Function.update (Function.update (Function.update
      (fun _ => []) .api ([] ++ [curlApiRecord])) .stream
      ([] ++ [curlStreamRecord])) .producer ([] ++ [curlProducerRecord]) := by
  funext chain
  cases chain <;> rfl

/-- The chains once the auth callbacks have been added. -/
def authChains (kind : AuthKind) : (chain : Chain) → List chain.Record
  | .auth => [authRecord kind]
  | chain => curlApiChains chain

namespace Construction

variable {env : ConstructionEnv} {construction : Construction}
variable {callbackChainCount : Nat}
variable {chains : (chain : Chain) → List chain.Record}

theorem add_cases {chain : Chain} {spec : AddSpec chain}
    (complete : spec.Complete) {record : chain.Record}
    (built : Built construction.pCallbacksProvider callbackChainCount chains)
    (version : record.version ≤ spec.currentVersion)
    (fresh : ∀ entry ∈ chains chain,
      ¬ CallbacksProvider.SameFree entry record) :
    let result := construction.add (CallbacksProvider.addCallbacks spec
      construction.pCallbacksProvider record)
    (¬ (chains chain).length < callbackChainCount ∧
        result = (false, construction)) ∨
      ((chains chain).length < callbackChainCount ∧
        ∃ after, result =
            (true, { construction with pCallbacksProvider := after }) ∧
          Built after callbackChainCount
            (Function.update chains chain (chains chain ++ [record]))) := by
  intro result
  by_cases fits : (chains chain).length < callbackChainCount
  · right
    rcases CallbacksProvider.addCallbacks_cases complete
        construction.pCallbacksProvider record with
      ⟨failed, -⟩ | ⟨_, _, after, isProvider, isRecord, returns, added⟩
    · refine (failed ?_).elim
      unfold CallbacksProvider.addCallbacks
      simp only [built.chains, built.count]
      rw [if_neg (not_not_intro version), if_neg (not_not_intro fits),
        if_neg fun ⟨entry, listed, same⟩ => fresh entry listed same]
    · cases isProvider
      cases isRecord
      refine ⟨fits, after, ?_, built.added added⟩
      simp only [result, add, returns]
      rfl
  · left
    refine ⟨fits, ?_⟩
    have fails : CallbacksProvider.addCallbacks spec
        construction.pCallbacksProvider record =
          (STATUS_MAX_CALLBACK_CHAIN,
            some construction.pCallbacksProvider) := by
      unfold CallbacksProvider.addCallbacks
      simp only [built.chains, built.count]
      rw [if_neg (not_not_intro version), if_pos fits]
    simp only [result, fails]
    rfl

/-- Once everything else is there, the curl API callbacks are created if there
is room for one entry in each chain. -/
theorem createCurlApiCallbacks_prepared
    (built : Built construction.pCallbacksProvider callbackChainCount
      fun _ => [])
    (arguments : env.succeeds .curlApiArguments = true)
    (allocation : env.succeeds .curlApiAllocation = true)
    (guarded : curlApiGuards.all env.succeeds = true)
    (initialised : [.sslCallbacks, .curlGlobalInit].all env.succeeds = true) :
    let result := construction.createCurlApiCallbacks env
    let allocated := construction.record (.allocated .curlApi)
    (¬ 0 < callbackChainCount ∧
        result = (false, allocated.freeCurlApi env true)) ∨
      (0 < callbackChainCount ∧
        ∃ after, Built after callbackChainCount curlApiChains ∧
          result =
            (true, { allocated with pCallbacksProvider := after })) := by
  intro result allocated
  simp only [result, createCurlApiCallbacks]
  rw [if_neg (not_not_intro arguments), if_neg (not_not_intro allocation),
    if_neg (not_not_intro guarded), if_neg (not_not_intro initialised)]
  have fresh (chain : Chain) (record : chain.Record) :
      ∀ entry ∈ ([] : List chain.Record),
        ¬ CallbacksProvider.SameFree entry record := by
    simp
  rcases @add_cases allocated callbackChainCount _ .api _
      CallbacksProvider.apiSpec_complete curlApiRecord built
      (Nat.le_refl _) (fresh _ _) with
    ⟨full, adds⟩ | ⟨room, withApi, adds, builtApi⟩
  · left
    refine ⟨full, ?_⟩
    simp only [CallbacksProvider.addApiCallbacks, allocated, adds]
  · right
    rcases @add_cases { allocated with pCallbacksProvider := withApi }
        callbackChainCount _ .stream _
        CallbacksProvider.streamSpec_complete curlStreamRecord builtApi
        (Nat.le_refl _) (fresh _ _) with
      ⟨full, -⟩ | ⟨-, withStream, addsStream, builtStream⟩
    · exact (full room).elim
    · rcases @add_cases { allocated with pCallbacksProvider := withStream }
          callbackChainCount _ .producer _
          CallbacksProvider.producerSpec_complete curlProducerRecord
          builtStream (Nat.le_refl _) (fresh _ _) with
        ⟨full, -⟩ | ⟨-, withProducer, addsProducer, builtProducer⟩
      · exact (full room).elim
      · refine ⟨room, withProducer, ?_, ?_⟩
        · rw [curlApiChains_eq]
          exact builtProducer
        · simp only [CallbacksProvider.addApiCallbacks,
            CallbacksProvider.addStreamCallbacks,
            CallbacksProvider.addProducerCallbacks]
          simp only [allocated] at adds addsStream addsProducer ⊢
          simp only [adds, addsStream, addsProducer]

theorem createCurlApiCallbacks_cases
    (built : Built construction.pCallbacksProvider callbackChainCount
      fun _ => []) :
    let result := construction.createCurlApiCallbacks env
    let allocated := construction.record (.allocated .curlApi)
    let prepared := [.curlApiArguments, .curlApiAllocation].all env.succeeds
    let initialised := [.sslCallbacks, .curlGlobalInit].all env.succeeds
    (prepared = false ∧ result = (false, construction)) ∨
      (prepared = true ∧ curlApiGuards.all env.succeeds = false ∧
        result = (false, allocated.freeCurlApi env false)) ∨
      (prepared = true ∧ curlApiGuards.all env.succeeds = true ∧
        ¬ (initialised = true ∧ 0 < callbackChainCount) ∧
        result = (false, allocated.freeCurlApi env true)) ∨
      (prepared = true ∧ curlApiGuards.all env.succeeds = true ∧
        initialised = true ∧ 0 < callbackChainCount ∧
        ∃ after, Built after callbackChainCount curlApiChains ∧
          result =
            (true, { allocated with pCallbacksProvider := after })) := by
  intro result allocated prepared initialised
  by_cases arguments : env.succeeds .curlApiArguments = true
  · by_cases allocation : env.succeeds .curlApiAllocation = true
    · have isPrepared : prepared = true := by
        simp [prepared, arguments, allocation]
      by_cases guarded : curlApiGuards.all env.succeeds = true
      · by_cases isInitialised : initialised = true
        · rcases createCurlApiCallbacks_prepared built arguments allocation
              guarded isInitialised with ⟨full, ends⟩ | ⟨room, created⟩
          · exact .inr (.inr (.inl ⟨isPrepared, guarded,
              fun conditions => full conditions.2, ends⟩))
          · exact .inr (.inr (.inr
              ⟨isPrepared, guarded, isInitialised, room, created⟩))
        · refine .inr (.inr (.inl ⟨isPrepared, guarded,
            fun conditions => isInitialised conditions.1, ?_⟩))
          simp only [result, createCurlApiCallbacks]
          rw [if_neg (not_not_intro arguments),
            if_neg (not_not_intro allocation), if_neg (not_not_intro guarded),
            if_pos isInitialised]
      · refine .inr (.inl ⟨isPrepared, by simpa using guarded, ?_⟩)
        simp only [result, createCurlApiCallbacks]
        rw [if_neg (not_not_intro arguments),
          if_neg (not_not_intro allocation), if_pos guarded]
    · refine .inl ⟨by simp [prepared, allocation], ?_⟩
      simp only [result, createCurlApiCallbacks]
      rw [if_neg (not_not_intro arguments), if_pos allocation]
  · refine .inl ⟨by simp [prepared, arguments], ?_⟩
    simp only [result, createCurlApiCallbacks]
    rw [if_pos arguments]

theorem createAuthCallbacks_cases (kind : AuthKind)
    (built : Built construction.pCallbacksProvider callbackChainCount
      curlApiChains) (room : 0 < callbackChainCount) :
    let result := construction.createAuthCallbacks env kind
    let allocated := construction.record (.allocated (.auth kind))
    let prepared := [.authAllocation, .credentialProvider].all env.succeeds
    (prepared = false ∧
        (result = (false, construction) ∨
          result =
            (false, allocated.record (.freed (.auth kind) (.auth kind))))) ∨
      (prepared = true ∧
        ∃ after, Built after callbackChainCount (authChains kind) ∧
          result =
            (true, { allocated with pCallbacksProvider := after })) := by
  intro result allocated prepared
  simp only [result, createAuthCallbacks]
  by_cases allocation : env.succeeds .authAllocation = true
  · rw [if_neg (not_not_intro allocation)]
    by_cases credentials : env.succeeds .credentialProvider = true
    · rw [if_neg (not_not_intro credentials)]
      rcases @add_cases allocated callbackChainCount _ .auth _
          CallbacksProvider.authSpec_complete (authRecord kind) built
          (Nat.le_refl _) (fun _ listed => by cases listed) with
        ⟨full, -⟩ | ⟨-, after, adds, builtAuth⟩
      · exact (full room).elim
      · refine .inr ⟨by simp [prepared, allocation, credentials], after, ?_, ?_⟩
        · have same : authChains kind = Function.update curlApiChains .auth
              (curlApiChains .auth ++ [authRecord kind]) := by
            funext chain
            cases chain <;> rfl
          rw [same]
          exact builtAuth
        · simp only [CallbacksProvider.addAuthCallbacks]
          simp only [allocated] at adds ⊢
          simp only [adds]
    · rw [if_pos credentials]
      exact .inl ⟨by simp [prepared, credentials], .inr rfl⟩
  · rw [if_pos allocation]
    exact .inl ⟨by simp [prepared, allocation], .inl rfl⟩

theorem createContinuousRetryStreamCallbacks_cases {kind : AuthKind}
    (built : Built construction.pCallbacksProvider callbackChainCount
      (authChains kind)) (room : 0 < callbackChainCount) :
    let result := construction.createContinuousRetryStreamCallbacks env
    let fails := env.succeeds .continuousRetryAllocation = false ∨
      env.succeeds .streamMappingTable = false ∨ callbackChainCount = 1
    (fails ∧ ∃ more, more.filterMap (·.freedBy (.auth kind)) = [] ∧
        result =
          (false,
            { construction with events := construction.events ++ more })) ∨
      (¬ fails ∧ ∃ after, result = (true, after)) := by
  intro result fails
  simp only [result, createContinuousRetryStreamCallbacks]
  by_cases allocation : env.succeeds .continuousRetryAllocation = true
  · rw [if_neg (not_not_intro allocation)]
    by_cases table : env.succeeds .streamMappingTable = true
    · rw [if_neg (not_not_intro table)]
      have fresh : ∀ entry ∈ authChains kind .stream,
          ¬ CallbacksProvider.SameFree entry continuousRetryRecord := by
        simp [authChains, curlApiChains, CallbacksProvider.SameFree,
          curlStreamRecord, continuousRetryRecord]
      rcases @add_cases (construction.record (.allocated .continuousRetry))
          callbackChainCount _ .stream _ CallbacksProvider.streamSpec_complete
          continuousRetryRecord built (Nat.le_refl _) fresh with
        ⟨full, adds⟩ | ⟨fits, after, adds, -⟩
      · left
        have one : callbackChainCount = 1 :=
          Nat.le_antisymm (Nat.not_lt.mp full) room
        refine ⟨.inr (.inr one), ?_⟩
        simp only [CallbacksProvider.addStreamCallbacks, adds]
        refine ⟨[.allocated .continuousRetry,
          .freed .continuousRetry .continuousRetry], rfl, ?_⟩
        simp [freeContinuousRetry, record]
      · right
        refine ⟨?_, ?_⟩
        · rintro (failed | failed | rfl)
          · rw [allocation] at failed
            cases failed
          · rw [table] at failed
            cases failed
          · exact Nat.lt_irrefl 1 fits
        · simp only [CallbacksProvider.addStreamCallbacks, adds]
          exact ⟨_, rfl⟩
    · rw [if_pos table]
      refine .inl ⟨.inr (.inl (by simpa using table)), ?_⟩
      unfold freeContinuousRetry
      split
      · exact ⟨[.allocated .continuousRetry,
          .freed .continuousRetry .continuousRetry], rfl, by simp [record]⟩
      · exact ⟨[.allocated .continuousRetry], rfl, rfl⟩
  · rw [if_pos allocation]
    refine .inl ⟨.inl (by simpa using allocation), [], rfl, ?_⟩
    rw [List.append_nil]

theorem events_freeProvider
    (built : Built construction.pCallbacksProvider callbackChainCount chains) :
    (construction.freeProvider env).events = construction.events ++
      (entriesFreed chains).filterMap TeardownEvent.heapEvent := by
  rw [freeProvider, built.freeCallbacksProvider]

theorem events_freeProvider_empty
    (built : Built construction.pCallbacksProvider callbackChainCount
      fun _ => []) :
    (construction.freeProvider env).events = construction.events ++
      [.freed .provider .provider] := events_freeProvider built

theorem events_freeProvider_curlApi
    (built : Built construction.pCallbacksProvider callbackChainCount
      curlApiChains) :
    (construction.freeProvider env).events = construction.events ++
      [.freed .curlApi .curlApi, .freed .provider .provider] :=
  events_freeProvider built

theorem events_freeProvider_auth {kind : AuthKind}
    (built : Built construction.pCallbacksProvider callbackChainCount
      (authChains kind)) :
    (construction.freeProvider env).events = construction.events ++
      [.freed (.auth kind) (.auth kind), .freed .curlApi .curlApi,
        .freed .provider .provider] := by
  rw [events_freeProvider built]
  cases kind <;> rfl

theorem events_freeCurlApi (shutdownLock : Bool) :
    (construction.freeCurlApi env shutdownLock).events =
        construction.events ++
          [if shutdownLock ∨ env.locksInvalidMutex then
            .freed .curlApi .curlApi
          else .undefined] ∧
      (construction.freeCurlApi env shutdownLock).pCallbacksProvider =
        construction.pCallbacksProvider := by
  unfold freeCurlApi
  split <;> exact ⟨rfl, rfl⟩

theorem start_built (callbackChainCount : Nat) :
    Built ((start callbackChainCount).record
      (.allocated .provider)).pCallbacksProvider callbackChainCount
      fun _ => [] where
  count := rfl
  chains := rfl
  platform _ := rfl
  freeFn := rfl

theorem createAbstract_cases (env : ConstructionEnv) (ppClientCallbacks : Bool)
    (callbackChainCount : Nat) :
    let result := createAbstractDefaultCallbacksProvider env ppClientCallbacks
      callbackChainCount
    let guardsFail :=
      FailsCurlApiGuards env ppClientCallbacks callbackChainCount
    let creates := CreatesCurlApi env ppClientCallbacks callbackChainCount
    (¬ guardsFail ∧ ¬ creates ∧ result.1 = false ∧
        FreedOnce result.2.events) ∨
      (guardsFail ∧ ¬ creates ∧ result.1 = false ∧
        (FreedOnce result.2.events ↔ env.locksInvalidMutex = true)) ∨
      (¬ guardsFail ∧ creates ∧ ∃ after,
        Built after callbackChainCount curlApiChains ∧
          result =
            (true,
              { pCallbacksProvider := after
                events := [.allocated .provider, .allocated .curlApi] })) := by
  intro result guardsFail creates
  have provider := @FreedOnce.around [] .provider .nothing (by simp)
  have curlApi := @FreedOnce.around [] .curlApi .nothing (by simp)
  have both := @FreedOnce.around _ .provider curlApi (by simp)
  simp only [result, createAbstractDefaultCallbacksProvider]
  by_cases pointer : ppClientCallbacks = true
  · rw [if_neg (not_not_intro pointer)]
    by_cases few : callbackChainCount < MAX_CALLBACK_CHAIN_COUNT
    · rw [if_neg (not_not_intro few)]
      by_cases allocation : env.succeeds .providerAllocation = true
      · rw [if_neg (not_not_intro allocation)]
        have built := start_built callbackChainCount
        have begun : ((start callbackChainCount).record
            (.allocated .provider)).events = [.allocated .provider] := rfl
        generalize (start callbackChainCount).record (.allocated .provider) =
          begin at built begun ⊢
        rcases @createCurlApiCallbacks_cases env begin callbackChainCount
            built with
          ⟨unprepared, ends⟩ | ⟨prepared, unguarded, ends⟩ |
          ⟨prepared, guarded, uninitialised, ends⟩ |
          ⟨prepared, guarded, initialised, room, after, builtApi, ends⟩
        · left
          have unprepared : [.providerAllocation, .curlApiArguments,
              .curlApiAllocation].all env.succeeds = false := by
            rw [List.all_cons, unprepared, Bool.and_false]
          refine ⟨?_, ?_, ?_⟩
          · rintro ⟨-, -, prepared, -⟩
            exact absurd prepared (by simp [unprepared])
          · rintro ⟨-, -, prepared, -⟩
            exact absurd prepared (by simp [unprepared])
          · simp only [ends]
            rw [events_freeProvider_empty built, begun]
            exact ⟨trivial, provider⟩
        · right
          left
          have prepared : [.providerAllocation, .curlApiArguments,
              .curlApiAllocation].all env.succeeds = true := by
            rw [List.all_cons, prepared, allocation]
            rfl
          refine ⟨⟨pointer, few, prepared, unguarded⟩, ?_, ?_⟩
          · rintro ⟨-, -, -, guarded, -⟩
            exact absurd guarded (by simp [unguarded])
          · simp only [ends]
            obtain ⟨events, same⟩ := @events_freeCurlApi env
              (begin.record (.allocated .curlApi)) false
            rw [events_freeProvider_empty (by rw [same]; exact built), events]
            refine ⟨trivial, ?_⟩
            cases env.locksInvalidMutex with
            | false =>
                refine iff_of_false ?_ Bool.false_ne_true
                intro freed
                exact freed.defined (by simp)
            | true =>
                refine iff_of_true ?_ rfl
                simpa [record, begun] using both
        · left
          refine ⟨?_, ?_, ?_⟩
          · rintro ⟨-, -, -, unguarded⟩
            exact absurd guarded (by simp [unguarded])
          · rintro ⟨-, -, -, -, initialised, room⟩
            exact uninitialised ⟨initialised, room⟩
          · simp only [ends]
            obtain ⟨events, same⟩ := @events_freeCurlApi env
              (begin.record (.allocated .curlApi)) true
            rw [events_freeProvider_empty (by rw [same]; exact built), events]
            simpa [record, begun] using both
        · right
          right
          have prepared : [.providerAllocation, .curlApiArguments,
              .curlApiAllocation].all env.succeeds = true := by
            rw [List.all_cons, prepared, allocation]
            rfl
          refine ⟨?_, ⟨pointer, few, prepared, guarded, initialised, room⟩,
            after, builtApi, ?_⟩
          · rintro ⟨-, -, -, unguarded⟩
            exact absurd guarded (by simp [unguarded])
          · simp only [ends, record, begun]
            rfl
      · rw [if_pos allocation]
        left
        refine ⟨?_, ?_, rfl, .nothing⟩
        · rintro ⟨-, -, prepared, -⟩
          simp [allocation] at prepared
        · rintro ⟨-, -, prepared, -⟩
          simp [allocation] at prepared
    · rw [if_pos few]
      exact .inl ⟨fun fails => few fails.2.1, fun creates => few creates.2.1,
        rfl, .nothing⟩
  · rw [if_pos pointer]
    exact .inl ⟨fun fails => pointer fails.1, fun creates => pointer creates.1,
      rfl, .nothing⟩

end Construction

/-- The clean up frees the auth callbacks twice that are in the chain. -/
theorem Construction.not_freedOnce_cleanUp {env : ConstructionEnv}
    {construction : Construction} {callbackChainCount : Nat}
    {kind freeAuth : AuthKind}
    (built : Built construction.pCallbacksProvider callbackChainCount
      (authChains kind))
    (unfreed : construction.events.filterMap (·.freedBy (.auth kind)) = []) :
    ¬ FreedOnce (construction.cleanUp env kind freeAuth true false).events := by
  apply @FreedOnce.not_twice _ (.auth kind) (.auth kind) (.auth freeAuth)
  simp only [cleanUp, if_true, Bool.false_eq_true, if_false, record,
    events_freeProvider_auth built, List.filterMap_append, unfreed]
  simp [HeapEvent.freedBy]

theorem createProvider_cleansUp_iff (env : ConstructionEnv)
    (ppClientCallbacks : Bool) (callbackChainCount : Nat)
    (kind freeAuth : AuthKind) (continuousRetry : Bool) :
    (createProvider env ppClientCallbacks callbackChainCount kind freeAuth
        continuousRetry).CleansUp ↔
      (FailsCurlApiGuards env ppClientCallbacks callbackChainCount →
          env.locksInvalidMutex = true) ∧
        ¬ (continuousRetry = true ∧
          FailsContinuousRetry env ppClientCallbacks callbackChainCount) := by
  unfold Created.CleansUp createProvider
  rcases Construction.createAbstract_cases env ppClientCallbacks
      callbackChainCount with
    ⟨guarded, uncreated, fails, freed⟩ | ⟨unguarded, uncreated, fails, iff⟩ |
    ⟨guarded, creates, after, built, succeeds⟩
  · generalize Construction.createAbstractDefaultCallbacksProvider env
      ppClientCallbacks callbackChainCount = result at fails freed ⊢
    obtain ⟨succeeded, construction⟩ := result
    cases fails
    refine iff_of_true (fun _ => ⟨rfl, freed⟩) ⟨?_, ?_⟩
    · exact fun fails => (guarded fails).elim
    · exact fun fails => uncreated fails.2.1
  · generalize Construction.createAbstractDefaultCallbacksProvider env
      ppClientCallbacks callbackChainCount = result at fails iff ⊢
    obtain ⟨succeeded, construction⟩ := result
    cases fails
    constructor
    · intro cleans
      refine ⟨fun _ => iff.mp (cleans rfl).2, ?_⟩
      exact fun fails => uncreated fails.2.1
    · rintro ⟨locks, -⟩ -
      exact ⟨rfl, iff.mpr (locks unguarded)⟩
  · have room : 0 < callbackChainCount := creates.2.2.2.2.2
    simp only [succeeds]
    rcases @Construction.createAuthCallbacks_cases env
        { pCallbacksProvider := after
          events := [.allocated .provider, .allocated .curlApi] }
        callbackChainCount kind built room with
      ⟨unprepared, ends⟩ | ⟨prepared, withAuth, builtAuth, ends⟩
    · refine iff_of_true ?_ ⟨fun fails => (guarded fails).elim, ?_⟩
      · intro _
        rcases ends with ends | ends
        · simp only [ends]
          refine ⟨trivial, ?_⟩
          simp only [Construction.cleanUp, Bool.false_eq_true, if_false]
          rw [Construction.events_freeProvider_curlApi built]
          have curlApi := @FreedOnce.around [] .curlApi .nothing (by simp)
          exact @FreedOnce.around _ .provider curlApi (by simp)
        · simp only [ends]
          refine ⟨trivial, ?_⟩
          simp only [Construction.cleanUp, Bool.false_eq_true, if_false]
          rw [Construction.events_freeProvider_curlApi
            (by exact built)]
          have auth := @FreedOnce.around [] (.auth kind) .nothing (by simp)
          have curlApi := @FreedOnce.around _ .curlApi auth (by simp)
          exact @FreedOnce.around _ .provider curlApi (by simp)
      · rintro ⟨-, -, prepared, -⟩
        exact absurd prepared (by simp [unprepared])
    · simp only [ends]
      cases continuousRetry with
      | false =>
          simp only [Bool.false_eq_true, if_false]
          refine iff_of_true (fun failed => ?_)
            ⟨fun fails => (guarded fails).elim, fun fails => ?_⟩
          · cases failed
          · cases fails.1
      | true =>
          simp only [if_true]
          rcases @Construction.createContinuousRetryStreamCallbacks_cases env
              { (({ pCallbacksProvider := after
                    events := [.allocated .provider,
                      .allocated .curlApi] } : Construction).record
                    (.allocated (.auth kind))) with
                pCallbacksProvider := withAuth }
              callbackChainCount kind builtAuth room with
            ⟨fails, more, silent, ends⟩ | ⟨works, final, ends⟩
          · simp only [ends]
            refine iff_of_false ?_ ?_
            · intro cleans
              apply Construction.not_freedOnce_cleanUp _ _ (cleans trivial).2
              · exact callbackChainCount
              · exact builtAuth
              · simp only [Construction.record, List.filterMap_append, silent]
                rfl
            · rintro ⟨-, works⟩
              exact works ⟨trivial, creates, prepared, fails⟩
          · simp only [ends]
            refine iff_of_true (fun failed => ?_)
              ⟨fun fails => (guarded fails).elim, fun fails => ?_⟩
            · cases failed
            · exact works fails.2.2.2

/-- A construction that fails cleans up if and only if it does not fail for the
callbacks for continuous retry after the auth callbacks have been created, nor,
unless an invalid mutex can be locked, for a table or a lock of the curl API
callbacks. -/
theorem construction_cleansUp_iff (env : ConstructionEnv)
    (ppClientCallbacks : Bool) (variant : ProviderVariant) :
    (variant.create env ppClientCallbacks).CleansUp ↔
      (FailsCurlApiGuards env ppClientCallbacks variant.callbackChainCount →
          env.locksInvalidMutex = true) ∧
        ¬ (variant.continuousRetry = true ∧
          FailsContinuousRetry env ppClientCallbacks
            variant.callbackChainCount) := by
  cases variant <;> exact createProvider_cleansUp_iff ..

/-- Every step succeeds by itself. -/
def sampleConstructionEnv : ConstructionEnv where
  succeeds _ := true
  locksInvalidMutex := true
  iteratesNullTable := true
  objects := sampleFreeEnv

/-- In chains of one entry there is no room for the stream callbacks of
continuous retry, and the auth callbacks are freed twice. -/
theorem construction_not_cleansUp :
    ¬ ∀ (env : ConstructionEnv) (ppClientCallbacks : Bool)
        (variant : ProviderVariant),
      (variant.create env ppClientCallbacks).CleansUp := by
  intro claim
  have cleans := claim sampleConstructionEnv true (.default 1 true)
  have failed : ((ProviderVariant.default 1 true).create sampleConstructionEnv
      true).succeeded = false := by
    decide +kernel
  have once := (cleans failed).2.once (.auth .static)
  revert once
  decide +kernel

end Callbacks

end KvsProducer
