import KvsProducer.CallbacksProvider.Chains

/-!
# The platform callbacks and the teardown of the provider

The platform callbacks are not a chain.  `setPlatformCallbacks` replaces them;
PIC and the library's own callbacks reach them through the client callbacks.
`freeCallbacksProvider` frees the platform callbacks and the entries of the
chains, whose free functions call the client callbacks.
-/

namespace KvsProducer

namespace Callbacks

/-- The assignments of `setPlatformCallbacks` to aggregates. -/
def platformAssignments : List (Assignment PlatformFn) :=
  [⟨.getCurrentTimeFn, .platform .getCurrentTimeFn,
      .platformAggregate .getCurrentTimeFn⟩,
    ⟨.getRandomNumberFn, .platform .getRandomNumberFn,
      .platformAggregate .getRandomNumberFn⟩,
    ⟨.createMutexFn, .platform .createMutexFn,
      .platformAggregate .createMutexFn⟩,
    ⟨.lockMutexFn, .platform .lockMutexFn, .platformAggregate .lockMutexFn⟩,
    ⟨.unlockMutexFn, .platform .unlockMutexFn,
      .platformAggregate .unlockMutexFn⟩,
    ⟨.tryLockMutexFn, .platform .tryLockMutexFn,
      .platformAggregate .tryLockMutexFn⟩,
    ⟨.freeMutexFn, .platform .freeMutexFn, .platformAggregate .freeMutexFn⟩,
    ⟨.createConditionVariableFn, .platform .createConditionVariableFn,
      .platformAggregate .createConditionVariableFn⟩,
    ⟨.signalConditionVariableFn, .platform .signalConditionVariableFn,
      .platformAggregate .signalConditionVariableFn⟩,
    ⟨.broadcastConditionVariableFn, .platform .broadcastConditionVariableFn,
      .platformAggregate .broadcastConditionVariableFn⟩,
    ⟨.waitConditionVariableFn, .platform .waitConditionVariableFn,
      .platformAggregate .waitConditionVariableFn⟩,
    ⟨.freeConditionVariableFn, .platform .freeConditionVariableFn,
      .platformAggregate .freeConditionVariableFn⟩]

namespace CallbacksProvider

/-- The logging function takes no custom data and is set itself. -/
def setPlatformLog (platformCallbacks : CallbackRecord PlatformFn)
    (clientCallbacks : ClientFn → Option FnPtr) : ClientFn → Option FnPtr :=
  match platformCallbacks.fn .logPrintFn with
  | none => clientCallbacks
  | some logPrintFn =>
      Function.update clientCallbacks (.platform .logPrintFn) (some logPrintFn)

def setPlatformCallbacks (pCallbackProvider : Option CallbacksProvider)
    (pPlatformCallbacks : Option (CallbackRecord PlatformFn)) :
    StatusCode × Option CallbacksProvider :=
  match pCallbackProvider, pPlatformCallbacks with
  | some provider, some platformCallbacks =>
      if ¬ platformCallbacks.version ≤ PLATFORM_CALLBACKS_CURRENT_VERSION then
        (STATUS_INVALID_PLATFORM_CALLBACKS_VERSION, provider)
      else
        (STATUS_SUCCESS,
          some
            { provider with
              platformCallbacks := platformCallbacks
              clientCallbacks := setPlatformLog platformCallbacks
                (setAggregates platformCallbacks provider.clientCallbacks
                  platformAssignments) })
  | pCallbackProvider, _ => (STATUS_NULL_ARG, pCallbackProvider)

end CallbacksProvider

/-! ### What the free functions call -/

/-- Where `curlApiCallbacksShutdown` ends: a stream cannot be marked, the
requests do not fit the array, or at its end. -/
inductive ShutdownEnd where
  | marking
  | requests
  | complete
  deriving DecidableEq, Repr

/-- What `freeCurlApiCallbacks` reads of the object: whether it has been shut
down, the locks that are valid, the cached endpoints, and how often it polls
until no request and no upload is left. -/
structure CurlApiCallbacks where
  shutdown : Bool
  shutdownEnd : ShutdownEnd
  requestPolls : Nat
  uploadPolls : Nat
  cachedEndpoints : Nat
  activeRequestsLock : Bool
  activeUploadsLock : Bool
  cachedEndpointsLock : Bool
  shutdownLock : Bool
  deriving DecidableEq, Repr

def lockUnlock : List PlatformFn := [.lockMutexFn, .unlockMutexFn]

/-- The client callbacks that `curlApiCallbacksShutdown` calls. -/
def curlApiCallbacksShutdown (pCurlApiCallbacks : CurlApiCallbacks) :
    List PlatformFn :=
  if pCurlApiCallbacks.shutdown then []
  else
    lockUnlock ++
      match pCurlApiCallbacks.shutdownEnd with
      | .marking => []
      | .requests => lockUnlock
      | .complete =>
          lockUnlock ++ lockUnlock ++
            (List.replicate (pCurlApiCallbacks.requestPolls + 1)
              lockUnlock).flatten ++
            (List.replicate (pCurlApiCallbacks.uploadPolls + 1)
              lockUnlock).flatten ++
            [.lockMutexFn] ++
            (List.replicate pCurlApiCallbacks.cachedEndpoints
              lockUnlock).flatten ++
            [.unlockMutexFn]

def freeLock (valid : Bool) : List PlatformFn :=
  if valid then [.freeMutexFn] else []

/-- The client callbacks that `freeCurlApiCallbacks` calls. -/
def freeCurlApiCallbacks (pCurlApiCallbacks : CurlApiCallbacks) :
    List PlatformFn :=
  curlApiCallbacksShutdown pCurlApiCallbacks ++
    freeLock pCurlApiCallbacks.activeRequestsLock ++
    freeLock pCurlApiCallbacks.activeUploadsLock ++
    freeLock pCurlApiCallbacks.cachedEndpointsLock ++
    freeLock pCurlApiCallbacks.shutdownLock

/-- What `freeContinuousRetryStreamCallbacks` reads of the object: the streams
in the mapping table, and whether the lock is valid. -/
structure ContinuousRetryStreamCallbacks where
  streamMapping : Nat
  syncLock : Bool
  deriving DecidableEq, Repr

/-- The client callbacks that `freeContinuousRetryStreamCallbacks` calls. -/
def freeContinuousRetryStreamCallbacks
    (pContinuousRetryStreamCallbacks : ContinuousRetryStreamCallbacks) :
    List PlatformFn :=
  (List.replicate pContinuousRetryStreamCallbacks.streamMapping
      lockUnlock).flatten ++
    freeLock pContinuousRetryStreamCallbacks.syncLock

/-- The objects behind the custom data, and what the free functions call that
are not the library's. -/
structure FreeEnv where
  curlApi : Nat → CurlApiCallbacks
  continuousRetry : Nat → ContinuousRetryStreamCallbacks
  other : FnPtr → Nat → List PlatformFn

/-- The client callbacks that a free function calls. -/
def FreeEnv.calls (env : FreeEnv) (freeFn : FnPtr) (customData : Nat) :
    List PlatformFn :=
  match freeFn with
  | .free .freeApiCallbacksCurl => freeCurlApiCallbacks (env.curlApi customData)
  | .free .continuousRetryStreamFreeHandler =>
      freeContinuousRetryStreamCallbacks (env.continuousRetry customData)
  | .free _ => []
  | freeFn => env.other freeFn customData

/-! ### The teardown -/

inductive TeardownEvent where
  | freePlatformCallbacks (customData : Nat)
  | platformCallback (fn : FnPtr) (customData : Nat)
  | entryFreed (chain : Chain) (freeFn : FnPtr) (customData : Nat)
  | aborted
  | released
  deriving DecidableEq, Repr

/-- The entry of the chain that has been freed. -/
def TeardownEvent.freedOf (chain : Chain) : TeardownEvent → Option (FnPtr × Nat)
  | .entryFreed freed freeFn customData =>
      if freed = chain then some (freeFn, customData) else none
  | _ => none

namespace CallbacksProvider

variable (env : FreeEnv) (provider : CallbacksProvider)

/-- The call of a client callback.  An aggregate ends the process if there is no
platform callback. -/
def clientCall (fn : PlatformFn) : List TeardownEvent :=
  match fn with
  | .logPrintFn => []
  | fn =>
      match provider.clientCallbacks (.platform fn) with
      | some (.platformAggregate target) =>
          match provider.platformCallbacks.fn target with
          | some pointer =>
              [.platformCallback pointer provider.platformCallbacks.customData]
          | none => [.aborted]
      | some _ => []
      | none => [.aborted]

/-- The loop over a chain. -/
def freeChain (chain : Chain) : List TeardownEvent :=
  (provider.chains chain).flatMap fun entry =>
    match entry.freeFn with
    | none => []
    | some freeFn =>
        (env.calls freeFn entry.customData).flatMap provider.clientCall ++
          [.entryFreed chain freeFn entry.customData]

/-- What happens up to the end of the process. -/
def untilAborted : List TeardownEvent → List TeardownEvent
  | [] => []
  | .aborted :: _ => [.aborted]
  | event :: rest => event :: untilAborted rest

/-- The calls of `freeCallbacksProvider`, in order. -/
def teardownSteps : List TeardownEvent :=
  (provider.platformCallbacks.freeFn.toList.map fun _ =>
      .freePlatformCallbacks provider.platformCallbacks.customData) ++
    provider.freeChain env .producer ++ provider.freeChain env .stream ++
    provider.freeChain env .auth ++ provider.freeChain env .api ++
    [.released]

/-- `freeCallbacksProvider`, with a pointer to the provider -/
def freeCallbacksProvider : List TeardownEvent :=
  untilAborted (provider.teardownSteps env)

end CallbacksProvider

/-- No platform callback is called once they have been freed, and the entries
with a free function are freed once each, in the order of the chain. -/
structure OrderlyTeardown (env : FreeEnv) (provider : CallbacksProvider) :
    Prop where
  notLate : ∀ before customData after,
    provider.freeCallbacksProvider env =
      before ++ .freePlatformCallbacks customData :: after →
    ∀ fn data, .platformCallback fn data ∉ after
  freesOnce : ∀ chain,
    (provider.freeCallbacksProvider env).filterMap (·.freedOf chain) =
      (provider.chains chain).filterMap fun entry =>
        entry.freeFn.map fun freeFn => (freeFn, entry.customData)

/-- A client callback that a free function of a chain entry calls. -/
def CallbacksProvider.CalledBack (env : FreeEnv) (provider : CallbacksProvider)
    (fn : PlatformFn) : Prop :=
  ∃ chain, ∃ entry ∈ provider.chains chain, ∃ freeFn ∈ entry.freeFn,
    fn ∈ env.calls freeFn entry.customData

/-- A provider with the default platform callbacks and any chains. -/
def CallbacksProvider.withChains (callbackChainCount : Nat)
    (chains : (chain : Chain) → List chain.Record) : CallbacksProvider :=
  { empty callbackChainCount (fun fn => some (.platformDefault fn))
      { version := 0
        customData := 0
        fn := fun _ => none
        freeFn := none } with
    chains := chains }

/-- The provider after some calls of `setPlatformCallbacks`. -/
def CallbacksProvider.install (provider : CallbacksProvider)
    (records : List (CallbackRecord PlatformFn)) : CallbacksProvider :=
  records.foldl
    (fun provider record =>
      (setPlatformCallbacks (some provider) (some record)).2.getD provider)
    provider

/-- A client callback is the aggregate of a platform callback. -/
def CallbacksProvider.Replaced (provider : CallbacksProvider)
    (fn : PlatformFn) : Prop :=
  fn ≠ .logPrintFn ∧
    provider.clientCallbacks (.platform fn) = some (.platformAggregate fn)

namespace CallbacksProvider

variable {env : FreeEnv} {provider : CallbacksProvider}

/-- The client callbacks are the defaults or the aggregates of their names. -/
def Routed (provider : CallbacksProvider) : Prop :=
  ∀ fn, fn ≠ .logPrintFn →
    provider.clientCallbacks (.platform fn) = some (.platformDefault fn) ∨
      provider.clientCallbacks (.platform fn) = some (.platformAggregate fn)

theorem setPlatformLog_other {record : CallbackRecord PlatformFn}
    {clientCallbacks : ClientFn → Option FnPtr} {fn : PlatformFn}
    (other : fn ≠ .logPrintFn) :
    setPlatformLog record clientCallbacks (.platform fn) =
      clientCallbacks (.platform fn) := by
  unfold setPlatformLog
  cases record.fn .logPrintFn with
  | none => rfl
  | some logPrintFn =>
      apply Function.update_of_ne
      rintro ⟨⟩
      exact other rfl

theorem setPlatformAggregates {record : CallbackRecord PlatformFn}
    {clientCallbacks : ClientFn → Option FnPtr} {fn : PlatformFn}
    (other : fn ≠ .logPrintFn) :
    setPlatformLog record
        (setAggregates record clientCallbacks platformAssignments)
        (.platform fn) =
      if record.fn fn ≠ none then some (.platformAggregate fn)
      else clientCallbacks (.platform fn) := by
  have assigns : ∀ assignment ∈ platformAssignments,
      assignment.field = .platform assignment.tested ∧
        assignment.pointer = .platformAggregate assignment.tested := by
    simp [platformAssignments]
  rw [setPlatformLog_other other]
  split
  · rename_i provided
    apply setAggregates_set _ assigns provided
    · left
      cases fn <;> first | exact (other rfl).elim | simp [platformAssignments]
    · rintro _ ⟨⟩
      rfl
  · rename_i missing
    apply setAggregates_other
    intro assignment listed provided same
    rw [(assigns assignment listed).1] at same
    cases same
    exact missing provided

theorem install_cases (provider : CallbacksProvider)
    (record : CallbackRecord PlatformFn) :
    let after := (setPlatformCallbacks (some provider) (some record)).2.getD
      provider
    after.chains = provider.chains ∧
      ∀ fn, fn ≠ .logPrintFn →
        after.clientCallbacks (.platform fn) =
          if record.version ≤ PLATFORM_CALLBACKS_CURRENT_VERSION ∧
              record.fn fn ≠ none then some (.platformAggregate fn)
          else provider.clientCallbacks (.platform fn) := by
  intro after
  simp only [after, setPlatformCallbacks]
  split
  · rename_i invalid
    refine ⟨rfl, fun fn other => ?_⟩
    rw [if_neg fun valid => invalid valid.1]
    rfl
  · rename_i valid
    refine ⟨rfl, fun fn other => ?_⟩
    refine (setPlatformAggregates other).trans ?_
    simp only [Decidable.not_not.mp valid, true_and]

theorem install_clientCallbacks (provider : CallbacksProvider)
    (records : List (CallbackRecord PlatformFn)) {fn : PlatformFn}
    (other : fn ≠ .logPrintFn) :
    (provider.install records).clientCallbacks (.platform fn) =
      if ∃ record ∈ records,
          record.version ≤ PLATFORM_CALLBACKS_CURRENT_VERSION ∧
            record.fn fn ≠ none then some (.platformAggregate fn)
      else provider.clientCallbacks (.platform fn) := by
  induction records generalizing provider with
  | nil => simp [install]
  | cons record records induction =>
      rw [install, List.foldl_cons, ← install, induction,
        (install_cases provider record).2 fn other]
      simp only [List.mem_cons, exists_eq_or_imp]
      by_cases later : ∃ record ∈ records,
          record.version ≤ PLATFORM_CALLBACKS_CURRENT_VERSION ∧
            record.fn fn ≠ none
      · rw [if_pos later, if_pos (.inr later)]
      · rw [if_neg later]
        exact if_congr (or_iff_left later).symm rfl rfl

theorem withChains_routed (callbackChainCount : Nat)
    (chains : (chain : Chain) → List chain.Record)
    (records : List (CallbackRecord PlatformFn)) :
    ((withChains callbackChainCount chains).install records).Routed := by
  intro fn other
  rw [install_clientCallbacks _ _ other]
  split
  · exact .inr rfl
  · exact .inl rfl

/-! ### The steps of the teardown -/

theorem mem_clientCall (routed : provider.Routed) {fn : PlatformFn}
    {event : TeardownEvent} :
    event ∈ provider.clientCall fn ↔ provider.Replaced fn ∧
      ((∃ pointer ∈ provider.platformCallbacks.fn fn,
          event = .platformCallback pointer
            provider.platformCallbacks.customData) ∨
        provider.platformCallbacks.fn fn = none ∧ event = .aborted) := by
  unfold clientCall Replaced
  split
  · simp
  · rename_i other
    rcases routed fn other with default | replaced
    · simp [default]
    · simp only [replaced]
      cases provider.platformCallbacks.fn fn with
      | none => simpa using fun _ => other
      | some pointer => simpa using fun _ => other

theorem mem_freeChain {chain : Chain} {event : TeardownEvent} :
    event ∈ provider.freeChain env chain ↔
      ∃ entry ∈ provider.chains chain, ∃ freeFn ∈ entry.freeFn,
        (∃ fn ∈ env.calls freeFn entry.customData,
            event ∈ provider.clientCall fn) ∨
          event = .entryFreed chain freeFn entry.customData := by
  unfold freeChain
  rw [List.mem_flatMap]
  constructor
  · rintro ⟨entry, listed, during⟩
    split at during
    · cases during
    · rename_i freeFn isFree
      refine ⟨entry, listed, freeFn, isFree, ?_⟩
      simpa using during
  · rintro ⟨entry, listed, freeFn, isFree, during⟩
    refine ⟨entry, listed, ?_⟩
    rw [Option.mem_def.mp isFree]
    simpa using during

theorem mem_teardownSteps {event : TeardownEvent} :
    event ∈ provider.teardownSteps env ↔
      (provider.platformCallbacks.freeFn ≠ none ∧
          event = .freePlatformCallbacks
            provider.platformCallbacks.customData) ∨
        (∃ chain, event ∈ provider.freeChain env chain) ∨
        event = .released := by
  have chains : (∃ chain, event ∈ provider.freeChain env chain) ↔
      event ∈ provider.freeChain env .producer ∨
        event ∈ provider.freeChain env .stream ∨
        event ∈ provider.freeChain env .auth ∨
        event ∈ provider.freeChain env .api := by
    constructor
    · rintro ⟨chain, during⟩
      cases chain <;> simp [during]
    · rintro (during | during | during | during) <;> exact ⟨_, during⟩
  rw [chains, teardownSteps]
  cases provider.platformCallbacks.freeFn <;>
    simp [eq_comm, or_assoc]

/-! ### When the process ends -/

theorem untilAborted_eq {events : List TeardownEvent}
    (whole : .aborted ∉ events) : untilAborted events = events := by
  induction events with
  | nil => rfl
  | cons event rest induction =>
      rw [List.mem_cons, not_or] at whole
      cases event with
      | aborted => exact (whole.1 rfl).elim
      | _ => exact congrArg (_ :: ·) (induction whole.2)

theorem untilAborted_split {events : List TeardownEvent}
    (aborts : .aborted ∈ events) :
    ∃ before after, events = before ++ .aborted :: after ∧
      untilAborted events = before ++ [.aborted] := by
  induction events with
  | nil => cases aborts
  | cons event rest induction =>
      cases event with
      | aborted => exact ⟨[], rest, rfl, rfl⟩
      | _ =>
          rcases List.mem_cons.mp aborts with first | aborts
          · cases first
          · obtain ⟨before, after, same, upTo⟩ := induction aborts
            exact ⟨_ :: before, after, congrArg (_ :: ·) same,
              congrArg (_ :: ·) upTo⟩

/-- Where the process ends, an entry is still to be freed. -/
def AbortsEarly (events : List TeardownEvent) : Prop :=
  ∀ before after, events = before ++ .aborted :: after →
    ∃ chain freeFn customData, .entryFreed chain freeFn customData ∈ after

theorem abortsEarly_of_not_mem {events : List TeardownEvent}
    (whole : .aborted ∉ events) : AbortsEarly events := by
  rintro before after rfl
  simp at whole

theorem AbortsEarly.append {first second : List TeardownEvent}
    (firstEarly : AbortsEarly first) (secondEarly : AbortsEarly second) :
    AbortsEarly (first ++ second) := by
  intro before after same
  rcases List.append_eq_append_iff.mp same with
    ⟨middle, rfl, inSecond⟩ | ⟨middle, inFirst, rest⟩
  · exact secondEarly middle after inSecond
  · cases middle with
    | nil => exact secondEarly [] after rest.symm
    | cons head middle =>
        obtain ⟨rfl, rfl⟩ := List.cons_eq_cons.mp rest
        obtain ⟨chain, freeFn, customData, freed⟩ :=
          firstEarly before middle inFirst
        exact ⟨chain, freeFn, customData, List.mem_append_left _ freed⟩

/-- The calls of a free function come before the entry is freed. -/
theorem abortsEarly_freed (calls : List TeardownEvent) (chain : Chain)
    (freeFn : FnPtr) (customData : Nat) :
    AbortsEarly (calls ++ [.entryFreed chain freeFn customData]) := by
  intro before after same
  rcases List.eq_nil_or_concat after with rfl | ⟨after, last, rfl⟩
  · obtain ⟨-, isLast⟩ := List.append_inj' same rfl
    cases isLast
  · rw [List.concat_eq_append, ← List.cons_append, ← List.append_assoc] at same
    obtain ⟨-, isLast⟩ := List.append_inj' same rfl
    cases isLast
    exact ⟨chain, freeFn, customData, by simp⟩

theorem abortsEarly_freeChain (chain : Chain) :
    AbortsEarly (provider.freeChain env chain) := by
  unfold freeChain
  induction provider.chains chain with
  | nil => exact abortsEarly_of_not_mem List.not_mem_nil
  | cons entry rest induction =>
      rw [List.flatMap_cons]
      apply AbortsEarly.append _ induction
      split
      · exact abortsEarly_of_not_mem List.not_mem_nil
      · exact abortsEarly_freed _ _ _ _

theorem abortsEarly_teardownSteps :
    AbortsEarly (provider.teardownSteps env) := by
  unfold teardownSteps
  have chain := @abortsEarly_freeChain env provider
  refine .append (.append (.append (.append (.append ?_ (chain _)) (chain _))
    (chain _)) (chain _)) ?_
  · apply abortsEarly_of_not_mem
    simp
  · apply abortsEarly_of_not_mem
    simp

/-! ### The entries that are freed -/

theorem filterMap_freeChain (chain target : Chain) :
    (provider.freeChain env chain).filterMap (·.freedOf target) =
      if chain = target then
        (provider.chains chain).filterMap fun entry =>
          entry.freeFn.map fun freeFn => (freeFn, entry.customData)
      else [] := by
  have calls (fns : List PlatformFn) :
      (fns.flatMap provider.clientCall).filterMap (·.freedOf target) = [] := by
    rw [List.filterMap_eq_nil_iff]
    intro event during
    obtain ⟨fn, -, during⟩ := List.mem_flatMap.mp during
    unfold clientCall at during
    repeat' split at during
    all_goals simp_all [TeardownEvent.freedOf]
  unfold freeChain
  induction provider.chains chain with
  | nil => simp
  | cons entry rest induction =>
      rw [List.flatMap_cons, List.filterMap_append, induction]
      cases isFree : entry.freeFn with
      | none =>
          rw [List.filterMap_cons_none (by rw [isFree]; rfl)]
          rfl
      | some freeFn =>
          rw [List.filterMap_cons_some (by rw [isFree]; rfl),
            List.filterMap_append, calls]
          by_cases same : chain = target <;>
            simp [TeardownEvent.freedOf, same]

theorem filterMap_teardownSteps (target : Chain) :
    (provider.teardownSteps env).filterMap (·.freedOf target) =
      (provider.chains target).filterMap fun entry =>
        entry.freeFn.map fun freeFn => (freeFn, entry.customData) := by
  have platform : (provider.platformCallbacks.freeFn.toList.map fun _ =>
      TeardownEvent.freePlatformCallbacks
        provider.platformCallbacks.customData).filterMap
        (·.freedOf target) = [] := by
    cases provider.platformCallbacks.freeFn <;> rfl
  simp only [teardownSteps, List.filterMap_append, filterMap_freeChain,
    platform]
  cases target <;> simp [TeardownEvent.freedOf]

/-- A teardown that frees every entry does not end early. -/
theorem not_aborted_of_freesOnce
    (frees : ∀ chain,
      (provider.freeCallbacksProvider env).filterMap (·.freedOf chain) =
        (provider.chains chain).filterMap fun entry =>
          entry.freeFn.map fun freeFn => (freeFn, entry.customData)) :
    .aborted ∉ provider.teardownSteps env := by
  intro aborts
  obtain ⟨before, after, steps, upTo⟩ := untilAborted_split aborts
  obtain ⟨chain, freeFn, customData, freed⟩ :=
    abortsEarly_teardownSteps before after steps
  have all := frees chain
  rw [← @filterMap_teardownSteps env, freeCallbacksProvider, upTo, steps,
    List.filterMap_append, List.filterMap_append] at all
  have none := List.append_cancel_left all
  have missed := List.filterMap_eq_nil_iff.mp none.symm _
    (List.mem_cons_of_mem _ freed)
  simp [TeardownEvent.freedOf] at missed

/-- What the free functions call, in the steps of the teardown. -/
theorem mem_teardownSteps_client {event : TeardownEvent}
    (isClient : (∃ pointer data, event = .platformCallback pointer data) ∨
      event = .aborted) :
    event ∈ provider.teardownSteps env ↔
      ∃ fn, provider.CalledBack env fn ∧ event ∈ provider.clientCall fn := by
  rw [mem_teardownSteps]
  constructor
  · rintro (⟨-, rfl⟩ | ⟨chain, during⟩ | rfl)
    · simp at isClient
    · obtain ⟨entry, listed, freeFn, isFree, ⟨fn, called, during⟩ | rfl⟩ :=
        mem_freeChain.mp during
      · exact ⟨fn, ⟨chain, entry, listed, freeFn, isFree, called⟩, during⟩
      · simp at isClient
    · simp at isClient
  · rintro ⟨fn, ⟨chain, entry, listed, freeFn, isFree, called⟩, during⟩
    exact .inr (.inl ⟨chain, mem_freeChain.mpr
      ⟨entry, listed, freeFn, isFree, .inl ⟨fn, called, during⟩⟩⟩)

theorem orderly_iff (routed : provider.Routed) :
    OrderlyTeardown env provider ↔
      ∀ fn, provider.CalledBack env fn → provider.Replaced fn →
        provider.platformCallbacks.fn fn ≠ none ∧
          provider.platformCallbacks.freeFn = none := by
  constructor
  · intro orderly fn called replaced
    have whole := not_aborted_of_freesOnce orderly.freesOnce
    have provided : provider.platformCallbacks.fn fn ≠ none := by
      intro missing
      apply whole
      apply (mem_teardownSteps_client (.inr rfl)).mpr
      exact ⟨fn, called, (mem_clientCall routed).mpr
        ⟨replaced, .inr ⟨missing, rfl⟩⟩⟩
    refine ⟨provided, ?_⟩
    obtain ⟨pointer, isPointer⟩ := Option.ne_none_iff_exists'.mp provided
    cases isFree : provider.platformCallbacks.freeFn with
    | none => rfl
    | some freeFn =>
        have late : .platformCallback pointer
            provider.platformCallbacks.customData ∈
              provider.teardownSteps env := by
          apply (mem_teardownSteps_client (.inl ⟨_, _, rfl⟩)).mpr
          exact ⟨fn, called, (mem_clientCall routed).mpr
            ⟨replaced, .inl ⟨pointer, isPointer, rfl⟩⟩⟩
        obtain ⟨rest, steps⟩ : ∃ rest, provider.teardownSteps env =
            .freePlatformCallbacks provider.platformCallbacks.customData ::
              rest := by
          simp [teardownSteps, isFree]
        have events : provider.freeCallbacksProvider env =
            [] ++ .freePlatformCallbacks
              provider.platformCallbacks.customData :: rest := by
          rw [freeCallbacksProvider, untilAborted_eq whole, steps]
          rfl
        rw [steps] at late
        rcases List.mem_cons.mp late with first | late
        · cases first
        · exact (orderly.notLate _ _ _ events _ _ late).elim
  · intro condition
    have whole : .aborted ∉ provider.teardownSteps env := by
      rw [mem_teardownSteps_client (.inr rfl)]
      rintro ⟨fn, called, during⟩
      obtain ⟨replaced, ⟨_, _, same⟩ | ⟨missing, -⟩⟩ :=
        (mem_clientCall routed).mp during
      · cases same
      · exact (condition fn called replaced).1 missing
    have steps : provider.freeCallbacksProvider env =
        provider.teardownSteps env := untilAborted_eq whole
    constructor
    case freesOnce =>
        intro chain
        rw [steps]
        exact filterMap_teardownSteps chain
    case notLate =>
        intro before customData after same fn data late
        rw [steps] at same
        have inSteps : .platformCallback fn data ∈
            provider.teardownSteps env := by
          rw [same]
          exact List.mem_append_right _ (List.mem_cons_of_mem _ late)
        obtain ⟨called, isCalled, during⟩ :=
          (mem_teardownSteps_client (.inl ⟨_, _, rfl⟩)).mp inSteps
        have unfreed := (condition called isCalled
          ((mem_clientCall routed).mp during).1).2
        have freed : .freePlatformCallbacks customData ∈
            provider.teardownSteps env := by
          rw [same]
          simp
        rcases mem_teardownSteps.mp freed with
          ⟨isFree, -⟩ | ⟨chain, inChain⟩ | same
        · exact isFree unfreed
        · obtain ⟨_, _, _, _, ⟨fn, -, during⟩ | same⟩ :=
            mem_freeChain.mp inChain
          · obtain ⟨-, ⟨_, _, same⟩ | ⟨-, same⟩⟩ :=
              (mem_clientCall routed).mp during <;> cases same
          · cases same
        · cases same

end CallbacksProvider

/-- The teardown is in order if and only if the free functions of the entries
call no client callback that a platform callback has replaced, unless it is
still there and the platform callbacks have no free function. -/
theorem teardown_orderly_iff (env : FreeEnv) (callbackChainCount : Nat)
    (chains : (chain : Chain) → List chain.Record)
    (records : List (CallbackRecord PlatformFn)) :
    let provider : CallbacksProvider :=
      (CallbacksProvider.withChains callbackChainCount chains).install records
    OrderlyTeardown env provider ↔
      ∀ fn, provider.CalledBack env fn → provider.Replaced fn →
        provider.platformCallbacks.fn fn ≠ none ∧
          provider.platformCallbacks.freeFn = none :=
  CallbacksProvider.orderly_iff
    (CallbacksProvider.withChains_routed callbackChainCount chains records)

/-- The curl API callbacks of a provider in its chain, with valid locks and
nothing left to wait for. -/
def sampleFreeEnv : FreeEnv where
  curlApi _ :=
    { shutdown := false
      shutdownEnd := .complete
      requestPolls := 0
      uploadPolls := 0
      cachedEndpoints := 0
      activeRequestsLock := true
      activeUploadsLock := true
      cachedEndpointsLock := true
      shutdownLock := true }
  continuousRetry _ :=
    { streamMapping := 0
      syncLock := true }
  other _ _ := []

def sampleChains : (chain : Chain) → List chain.Record
  | .api =>
      [{ version := 0
         customData := 7
         fn := fun _ => none
         freeFn := some (.free .freeApiCallbacksCurl) }]
  | _ => []

/-- Platform callbacks with a lock and a free function. -/
def sampleLocks : CallbackRecord PlatformFn where
  version := 0
  customData := 3
  fn
    | .lockMutexFn => some (.code 100)
    | _ => none
  freeFn := some (.code 101)

/-- The shutdown of the curl API callbacks takes a lock with the custom data
that has been freed. -/
theorem teardown_not_orderly :
    ¬ ∀ (env : FreeEnv) (callbackChainCount : Nat)
        (chains : (chain : Chain) → List chain.Record)
        (records : List (CallbackRecord PlatformFn)),
      OrderlyTeardown env
        ((CallbacksProvider.withChains callbackChainCount chains).install
          records) := by
  intro claim
  let run := ((CallbacksProvider.withChains 5 sampleChains).install
    [sampleLocks]).freeCallbacksProvider sampleFreeEnv
  have first : run = [] ++ .freePlatformCallbacks 3 :: run.tail := by
    decide +kernel
  have late : .platformCallback (.code 100) 3 ∈ run.tail := by
    decide +kernel
  have orderly := claim sampleFreeEnv 5 sampleChains [sampleLocks]
  exact orderly.notLate _ _ _ first _ _ late

end Callbacks

end KvsProducer
