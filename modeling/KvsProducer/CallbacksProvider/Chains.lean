import KvsProducer.CallbacksProvider.Objects

/-!
# Adding callbacks to the chains

`addProducerCallbacks`, `addStreamCallbacks`, `addAuthCallbacks` and
`addApiCallbacks` are the same function with different statuses and different
assignments to the client callbacks.
-/

namespace KvsProducer

namespace Callbacks

/-- An assignment to the client callbacks: the field that is tested, the field
that is set, and what it is set to. -/
structure Assignment (Fn : Type) where
  tested : Fn
  field : ClientFn
  pointer : FnPtr

/-- What the four functions differ in. -/
structure AddSpec (chain : Chain) where
  currentVersion : Nat
  invalidVersion : StatusCode
  duplicateFreeFunc : StatusCode
  assignments : List (Assignment chain.Fn)

namespace CallbacksProvider

variable {chain : Chain}

/-- What the guard against duplicates tests for an entry of the chain. -/
def SameFree (entry record : chain.Record) : Prop :=
  record.freeFn ≠ none ∧ entry.customData = record.customData ∧
    entry.freeFn = record.freeFn

instance (entry record : chain.Record) : Decidable (SameFree entry record) :=
  inferInstanceAs (Decidable (_ ∧ _ ∧ _))

/-- The tests behind the copy, in their order. -/
def setAggregates {Fn : Type} (record : CallbackRecord Fn)
    (clientCallbacks : ClientFn → Option FnPtr)
    (assignments : List (Assignment Fn)) : ClientFn → Option FnPtr :=
  assignments.foldl
    (fun clientCallbacks assignment =>
      if record.fn assignment.tested ≠ none then
        Function.update clientCallbacks assignment.field
          (some assignment.pointer)
      else clientCallbacks)
    clientCallbacks

def append (provider : CallbacksProvider) (record : chain.Record) :
    CallbacksProvider :=
  { provider with
    chains := Function.update provider.chains chain
      (provider.chains chain ++ [record]) }

/-- The body of the four functions. -/
def addCallbacks (spec : AddSpec chain)
    (pCallbackProvider : Option CallbacksProvider)
    (pRecord : Option chain.Record) : StatusCode × Option CallbacksProvider :=
  match pCallbackProvider, pRecord with
  | some provider, some record =>
      if ¬ record.version ≤ spec.currentVersion then
        (spec.invalidVersion, provider)
      else if
          ¬ (provider.chains chain).length < provider.callbackChainCount then
        (STATUS_MAX_CALLBACK_CHAIN, provider)
      else if ∃ entry ∈ provider.chains chain, SameFree entry record then
        (spec.duplicateFreeFunc, provider)
      else
        let copied := provider.append record
        (STATUS_SUCCESS,
          some
            { copied with
              clientCallbacks := setAggregates record copied.clientCallbacks
                spec.assignments })
  | pCallbackProvider, _ => (STATUS_NULL_ARG, pCallbackProvider)

def producerSpec : AddSpec .producer where
  currentVersion := PRODUCER_CALLBACKS_CURRENT_VERSION
  invalidVersion := STATUS_INVALID_PRODUCER_CALLBACKS_VERSION
  duplicateFreeFunc := STATUS_DUPLICATE_PRODUCER_CALLBACK_FREE_FUNC
  assignments :=
    [⟨.storageOverflowPressureFn, .producer .storageOverflowPressureFn,
        .aggregate .storageOverflowPressureAggregate⟩,
      ⟨.clientReadyFn, .producer .clientReadyFn,
        .aggregate .clientReadyAggregate⟩,
      ⟨.clientShutdownFn, .producer .clientShutdownFn,
        .aggregate .clientShutdownAggregate⟩]

def streamSpec : AddSpec .stream where
  currentVersion := STREAM_CALLBACKS_CURRENT_VERSION
  invalidVersion := STATUS_INVALID_STREAM_CALLBACKS_VERSION
  duplicateFreeFunc := STATUS_DUPLICATE_STREAM_CALLBACK_FREE_FUNC
  assignments :=
    [⟨.streamUnderflowReportFn, .stream .streamUnderflowReportFn,
        .aggregate .streamUnderflowReportAggregate⟩,
      ⟨.bufferDurationOverflowPressureFn,
        .stream .bufferDurationOverflowPressureFn,
        .aggregate .bufferDurationOverflowPressureAggregate⟩,
      ⟨.streamLatencyPressureFn, .stream .streamLatencyPressureFn,
        .aggregate .streamLatencyPressureAggregate⟩,
      ⟨.streamConnectionStaleFn, .stream .streamConnectionStaleFn,
        .aggregate .streamConnectionStaleAggregate⟩,
      ⟨.droppedFrameReportFn, .stream .droppedFrameReportFn,
        .aggregate .droppedFrameReportAggregate⟩,
      ⟨.droppedFragmentReportFn, .stream .droppedFragmentReportFn,
        .aggregate .droppedFragmentReportAggregate⟩,
      ⟨.streamErrorReportFn, .stream .streamErrorReportFn,
        .aggregate .streamErrorReportAggregate⟩,
      ⟨.fragmentAckReceivedFn, .stream .fragmentAckReceivedFn,
        .aggregate .fragmentAckReceivedAggregate⟩,
      ⟨.streamDataAvailableFn, .stream .streamDataAvailableFn,
        .aggregate .streamDataAvailableAggregate⟩,
      ⟨.streamReadyFn, .stream .streamReadyFn,
        .aggregate .streamReadyAggregate⟩,
      ⟨.streamClosedFn, .stream .streamClosedFn,
        .aggregate .streamClosedAggregate⟩,
      ⟨.streamShutdownFn, .stream .streamShutdownFn,
        .aggregate .streamShutdownAggregate⟩]

def authSpec : AddSpec .auth where
  currentVersion := AUTH_CALLBACKS_CURRENT_VERSION
  invalidVersion := STATUS_INVALID_AUTH_CALLBACKS_VERSION
  duplicateFreeFunc := STATUS_DUPLICATE_AUTH_CALLBACK_FREE_FUNC
  assignments :=
    [⟨.getSecurityTokenFn, .auth .getSecurityTokenFn,
        .aggregate .getSecurityTokenAggregate⟩,
      ⟨.getDeviceCertificateFn, .auth .getDeviceCertificateFn,
        .aggregate .getDeviceCertificateAggregate⟩,
      ⟨.deviceCertToTokenFn, .auth .deviceCertToTokenFn,
        .aggregate .deviceCertToTokenAggregate⟩,
      ⟨.getDeviceFingerprintFn, .auth .getDeviceFingerprintFn,
        .aggregate .getDeviceFingerprintAggregate⟩,
      ⟨.getStreamingTokenFn, .auth .getStreamingTokenFn,
        .aggregate .getStreamingTokenAggregate⟩]

def apiSpec : AddSpec .api where
  currentVersion := API_CALLBACKS_CURRENT_VERSION
  invalidVersion := STATUS_INVALID_API_CALLBACKS_VERSION
  duplicateFreeFunc := STATUS_DUPLICATE_API_CALLBACK_FREE_FUNC
  assignments :=
    [⟨.createStreamFn, .api .createStreamFn, .aggregate .createStreamAggregate⟩,
      ⟨.describeStreamFn, .api .describeStreamFn,
        .aggregate .describeStreamAggregate⟩,
      ⟨.getStreamingEndpointFn, .api .getStreamingEndpointFn,
        .aggregate .getStreamingEndpointAggregate⟩,
      ⟨.putStreamFn, .api .putStreamFn, .aggregate .putStreamAggregate⟩,
      ⟨.tagResourceFn, .api .tagResourceFn, .aggregate .tagResourceAggregate⟩,
      ⟨.createDeviceFn, .api .createDeviceFn,
        .aggregate .createDeviceAggregate⟩]

section Functions

variable (pCallbackProvider : Option CallbacksProvider)

def addProducerCallbacks (pProducerCallbacks : Option Chain.producer.Record) :
    StatusCode × Option CallbacksProvider :=
  addCallbacks producerSpec pCallbackProvider pProducerCallbacks

def addStreamCallbacks (pStreamCallbacks : Option Chain.stream.Record) :
    StatusCode × Option CallbacksProvider :=
  addCallbacks streamSpec pCallbackProvider pStreamCallbacks

def addAuthCallbacks (pAuthCallbacks : Option Chain.auth.Record) :
    StatusCode × Option CallbacksProvider :=
  addCallbacks authSpec pCallbackProvider pAuthCallbacks

def addApiCallbacks (pApiCallbacks : Option Chain.api.Record) :
    StatusCode × Option CallbacksProvider :=
  addCallbacks apiSpec pCallbackProvider pApiCallbacks

end Functions

end CallbacksProvider

/-- A call of one of the four functions, with a pointer to the provider or
`NULL`. -/
inductive AddCall where
  | producer (isNull : Bool) (pProducerCallbacks : Option Chain.producer.Record)
  | stream (isNull : Bool) (pStreamCallbacks : Option Chain.stream.Record)
  | auth (isNull : Bool) (pAuthCallbacks : Option Chain.auth.Record)
  | api (isNull : Bool) (pApiCallbacks : Option Chain.api.Record)

namespace AddCall

/-- The status that is returned, and the provider afterwards. -/
def apply (provider : CallbacksProvider) :
    AddCall → StatusCode × CallbacksProvider
  | .producer isNull pProducerCallbacks =>
      (CallbacksProvider.addProducerCallbacks
        (if isNull then none else some provider) pProducerCallbacks).map id
          (·.getD provider)
  | .stream isNull pStreamCallbacks =>
      (CallbacksProvider.addStreamCallbacks
        (if isNull then none else some provider) pStreamCallbacks).map id
          (·.getD provider)
  | .auth isNull pAuthCallbacks =>
      (CallbacksProvider.addAuthCallbacks
        (if isNull then none else some provider) pAuthCallbacks).map id
          (·.getD provider)
  | .api isNull pApiCallbacks =>
      (CallbacksProvider.addApiCallbacks
        (if isNull then none else some provider) pApiCallbacks).map id
          (·.getD provider)

/-- The callbacks for the chain that the call passes. -/
def recordFor : (chain : Chain) → AddCall → Option chain.Record
  | .producer, .producer _ pProducerCallbacks => pProducerCallbacks
  | .stream, .stream _ pStreamCallbacks => pStreamCallbacks
  | .auth, .auth _ pAuthCallbacks => pAuthCallbacks
  | .api, .api _ pApiCallbacks => pApiCallbacks
  | _, _ => none

end AddCall

def afterCalls (provider : CallbacksProvider) (calls : List AddCall) :
    CallbacksProvider :=
  calls.foldl (fun provider call => (call.apply provider).2) provider

/-- The callbacks for the chain that are added successfully, in order. -/
def added (chain : Chain) : CallbacksProvider → List AddCall → List chain.Record
  | _, [] => []
  | provider, call :: calls =>
      (if (call.apply provider).1 = STATUS_SUCCESS then
          (call.recordFor chain).toList
        else []) ++
        added chain (call.apply provider).2 calls

/-- The aggregate that belongs to a callback. -/
def Chain.aggregate : (chain : Chain) → chain.Fn → Aggregate
  | .producer, .storageOverflowPressureFn => .storageOverflowPressureAggregate
  | .producer, .clientReadyFn => .clientReadyAggregate
  | .producer, .clientShutdownFn => .clientShutdownAggregate
  | .stream, .streamUnderflowReportFn => .streamUnderflowReportAggregate
  | .stream, .bufferDurationOverflowPressureFn =>
      .bufferDurationOverflowPressureAggregate
  | .stream, .streamLatencyPressureFn => .streamLatencyPressureAggregate
  | .stream, .streamConnectionStaleFn => .streamConnectionStaleAggregate
  | .stream, .droppedFrameReportFn => .droppedFrameReportAggregate
  | .stream, .droppedFragmentReportFn => .droppedFragmentReportAggregate
  | .stream, .streamErrorReportFn => .streamErrorReportAggregate
  | .stream, .fragmentAckReceivedFn => .fragmentAckReceivedAggregate
  | .stream, .streamDataAvailableFn => .streamDataAvailableAggregate
  | .stream, .streamReadyFn => .streamReadyAggregate
  | .stream, .streamClosedFn => .streamClosedAggregate
  | .stream, .streamShutdownFn => .streamShutdownAggregate
  | .auth, .getSecurityTokenFn => .getSecurityTokenAggregate
  | .auth, .getDeviceCertificateFn => .getDeviceCertificateAggregate
  | .auth, .deviceCertToTokenFn => .deviceCertToTokenAggregate
  | .auth, .getDeviceFingerprintFn => .getDeviceFingerprintAggregate
  | .auth, .getStreamingTokenFn => .getStreamingTokenAggregate
  | .api, .createStreamFn => .createStreamAggregate
  | .api, .describeStreamFn => .describeStreamAggregate
  | .api, .getStreamingEndpointFn => .getStreamingEndpointAggregate
  | .api, .putStreamFn => .putStreamAggregate
  | .api, .tagResourceFn => .tagResourceAggregate
  | .api, .createDeviceFn => .createDeviceAggregate

/-- The chains and the client callbacks agree. -/
structure CallbacksProvider.Sound (provider : CallbacksProvider) : Prop where
  fits : ∀ chain, (provider.chains chain).length ≤ provider.callbackChainCount
  distinct : ∀ chain, (provider.chains chain).Pairwise fun entry later =>
    ¬ (entry.customData = later.customData ∧ entry.freeFn = later.freeFn ∧
      later.freeFn ≠ none)
  provides : ∀ chain fn,
    provider.clientCallbacks (chain.clientFn fn) =
        some (.aggregate (chain.aggregate fn)) ↔
      ∃ entry ∈ provider.chains chain, entry.fn fn ≠ none

/-! ### What one call does -/

namespace CallbacksProvider

variable {chain : Chain} {spec : AddSpec chain}

theorem clientFn_inj {fn other : chain.Fn}
    (same : chain.clientFn fn = chain.clientFn other) : fn = other := by
  cases chain <;> cases same <;> rfl

theorem clientFn_ne {other : Chain} (different : other ≠ chain)
    (fn : chain.Fn) (otherFn : other.Fn) :
    other.clientFn otherFn ≠ chain.clientFn fn := by
  intro same
  cases chain <;> cases other <;> first | exact different rfl | cases same

theorem clientFn_ne_platform (fn : chain.Fn) (platformFn : PlatformFn) :
    chain.clientFn fn ≠ .platform platformFn := by
  cases chain <;> rintro ⟨⟩

end CallbacksProvider

/-- The failures are failures; each assignment sets the field of the name that
it tests to its aggregate, and no function of the record is left out. -/
structure AddSpec.Complete {chain : Chain} (spec : AddSpec chain) : Prop where
  invalidVersion : spec.invalidVersion ≠ STATUS_SUCCESS
  duplicateFreeFunc : spec.duplicateFreeFunc ≠ STATUS_SUCCESS
  assigns : ∀ assignment ∈ spec.assignments,
    assignment.field = chain.clientFn assignment.tested ∧
      assignment.pointer = .aggregate (chain.aggregate assignment.tested)
  tests : ∀ fn, ∃ assignment ∈ spec.assignments, assignment.tested = fn

namespace CallbacksProvider

variable {chain : Chain} {spec : AddSpec chain}

theorem producerSpec_complete : producerSpec.Complete := by
  constructor
  case assigns => simp [producerSpec, Chain.clientFn, Chain.aggregate]
  case tests => intro fn; cases fn <;> simp [producerSpec]
  all_goals decide

theorem streamSpec_complete : streamSpec.Complete := by
  constructor
  case assigns => simp [streamSpec, Chain.clientFn, Chain.aggregate]
  case tests => intro fn; cases fn <;> simp [streamSpec]
  all_goals decide

theorem authSpec_complete : authSpec.Complete := by
  constructor
  case assigns => simp [authSpec, Chain.clientFn, Chain.aggregate]
  case tests => intro fn; cases fn <;> simp [authSpec]
  all_goals decide

theorem apiSpec_complete : apiSpec.Complete := by
  constructor
  case assigns => simp [apiSpec, Chain.clientFn, Chain.aggregate]
  case tests => intro fn; cases fn <;> simp [apiSpec]
  all_goals decide

section Aggregates

variable {Fn : Type} {record : CallbackRecord Fn}
variable {clientCallbacks : ClientFn → Option FnPtr}
variable {assignments : List (Assignment Fn)}

theorem setAggregates_other {field : ClientFn}
    (untouched : ∀ assignment ∈ assignments,
      record.fn assignment.tested ≠ none → assignment.field ≠ field) :
    setAggregates record clientCallbacks assignments field =
      clientCallbacks field := by
  induction assignments generalizing clientCallbacks with
  | nil => rfl
  | cons assignment rest induction =>
      rw [List.forall_mem_cons] at untouched
      rw [setAggregates, List.foldl_cons, ← setAggregates,
        induction untouched.2]
      split
      · rename_i provided
        exact Function.update_of_ne (untouched.1 provided).symm _ _
      · rfl

theorem setAggregates_set {field : Fn → ClientFn} {pointer : Fn → FnPtr}
    {fn : Fn} (injective : ∀ other, field other = field fn → other = fn)
    (assigns : ∀ assignment ∈ assignments,
      assignment.field = field assignment.tested ∧
        assignment.pointer = pointer assignment.tested)
    (provided : record.fn fn ≠ none)
    (tested : (∃ assignment ∈ assignments, assignment.tested = fn) ∨
      clientCallbacks (field fn) = some (pointer fn)) :
    setAggregates record clientCallbacks assignments (field fn) =
      some (pointer fn) := by
  induction assignments generalizing clientCallbacks with
  | nil =>
      rcases tested with ⟨assignment, listed, -⟩ | before
      · cases listed
      · exact before
  | cons assignment rest induction =>
      rw [List.forall_mem_cons] at assigns
      obtain ⟨⟨isField, isPointer⟩, later⟩ := assigns
      rw [setAggregates, List.foldl_cons, ← setAggregates]
      apply induction later
      by_cases same : assignment.tested = fn
      · right
        rw [if_pos (same ▸ provided), isField, isPointer, same,
          Function.update_self]
      · rcases tested with ⟨other, listed, isFn⟩ | before
        · left
          rcases List.mem_cons.mp listed with first | listed
          · exact (same (first ▸ isFn)).elim
          · exact ⟨other, listed, isFn⟩
        · right
          split
          · rw [isField, Function.update_of_ne]
            · exact before
            · intro sameField
              exact same (injective _ sameField.symm)
          · exact before

end Aggregates

/-- The callbacks have been added to the chain. -/
structure Added (provider after : CallbacksProvider) (record : chain.Record) :
    Prop where
  room : (provider.chains chain).length < provider.callbackChainCount
  fresh : ∀ entry ∈ provider.chains chain, ¬ SameFree entry record
  count : after.callbackChainCount = provider.callbackChainCount
  platform : after.platformCallbacks = provider.platformCallbacks
  grown : after.chains chain = provider.chains chain ++ [record]
  others : ∀ other, other ≠ chain → after.chains other = provider.chains other
  sets : ∀ fn, record.fn fn ≠ none →
    after.clientCallbacks (chain.clientFn fn) =
      some (.aggregate (chain.aggregate fn))
  keeps : ∀ field, (∀ fn, record.fn fn ≠ none → chain.clientFn fn ≠ field) →
    after.clientCallbacks field = provider.clientCallbacks field

theorem addCallbacks_cases (complete : spec.Complete)
    (pCallbackProvider : Option CallbacksProvider)
    (pRecord : Option chain.Record) :
    ((addCallbacks spec pCallbackProvider pRecord).1 ≠ STATUS_SUCCESS ∧
        (addCallbacks spec pCallbackProvider pRecord).2 = pCallbackProvider) ∨
      ∃ provider record after, pCallbackProvider = some provider ∧
        pRecord = some record ∧
        addCallbacks spec pCallbackProvider pRecord =
          (STATUS_SUCCESS, some after) ∧ Added provider after record := by
  unfold addCallbacks
  split
  · rename_i provider record
    split
    · exact .inl ⟨complete.invalidVersion, rfl⟩
    · split
      · exact .inl
          ⟨(by decide : STATUS_MAX_CALLBACK_CHAIN ≠ STATUS_SUCCESS), rfl⟩
      · split
        · exact .inl ⟨complete.duplicateFreeFunc, rfl⟩
        · rename_i room fresh
          refine .inr ⟨provider, record, _, rfl, rfl, rfl, ?_⟩
          constructor
          case room => exact Decidable.not_not.mp room
          case fresh =>
              intro entry listed same
              exact fresh ⟨entry, listed, same⟩
          case count => rfl
          case platform => rfl
          case grown => exact Function.update_self ..
          case others =>
              intro other different
              exact Function.update_of_ne different ..
          case sets =>
              intro fn provided
              apply setAggregates_set (fun _ => clientFn_inj)
                complete.assigns provided
              exact .inl (complete.tests fn)
          case keeps =>
              intro field untouched
              apply setAggregates_other
              intro assignment listed provided
              rw [(complete.assigns assignment listed).1]
              exact untouched _ provided
  · exact .inl ⟨(by decide : STATUS_NULL_ARG ≠ STATUS_SUCCESS), rfl⟩

variable {provider after : CallbacksProvider} {record : chain.Record}

theorem Sound.added (sound : provider.Sound)
    (added : Added provider after record) : after.Sound := by
  constructor
  case fits =>
      intro other
      rw [added.count]
      by_cases same : other = chain
      · subst same
        rw [added.grown, List.length_append, List.length_singleton]
        exact added.room
      · rw [added.others other same]
        exact sound.fits other
  case distinct =>
      intro other
      by_cases same : other = chain
      · subst same
        rw [added.grown, List.pairwise_append]
        refine ⟨sound.distinct other, List.pairwise_singleton .., ?_⟩
        intro entry listed last isLast
        cases List.mem_singleton.mp isLast
        rintro ⟨sameData, sameFree, nonNull⟩
        exact added.fresh entry listed ⟨nonNull, sameData, sameFree⟩
      · rw [added.others other same]
        exact sound.distinct other
  case provides =>
      intro other fn
      by_cases same : other = chain
      · subst same
        have provides : (∃ entry ∈ after.chains other, entry.fn fn ≠ none) ↔
            (∃ entry ∈ provider.chains other, entry.fn fn ≠ none) ∨
              record.fn fn ≠ none := by
          simp [added.grown, or_and_right, exists_or]
        rw [provides, ← sound.provides other fn]
        by_cases provided : record.fn fn = none
        · rw [added.keeps]
          · exact (or_iff_left (not_not_intro provided)).symm
          · intro otherFn otherProvided sameField
            exact otherProvided (clientFn_inj sameField ▸ provided)
        · rw [added.sets fn provided]
          exact iff_of_true rfl (.inr provided)
      · rw [added.others other same, ← sound.provides other fn, added.keeps]
        intro recordFn _
        exact (clientFn_ne same recordFn fn).symm

end CallbacksProvider

namespace AddCall

open CallbacksProvider

/-- What a call passes that succeeds is passed for its own chain. -/
theorem apply_cases (call : AddCall) (provider : CallbacksProvider) :
    ((call.apply provider).1 ≠ STATUS_SUCCESS ∧
        (call.apply provider).2 = provider) ∨
      ((call.apply provider).1 = STATUS_SUCCESS ∧
        ∃ (chain : Chain) (record : chain.Record),
          Added provider (call.apply provider).2 record ∧
            call.recordFor chain = some record ∧
            ∀ other, other ≠ chain → call.recordFor other = none) := by
  have lift {chain : Chain} {spec : AddSpec chain} (complete : spec.Complete)
      (isNull : Bool) (pRecord : Option chain.Record)
      (applies : call.apply provider =
        (addCallbacks spec (if isNull then none else some provider)
          pRecord).map id (·.getD provider))
      (passes : call.recordFor chain = pRecord)
      (only : ∀ other, other ≠ chain → call.recordFor other = none) :
      ((call.apply provider).1 ≠ STATUS_SUCCESS ∧
          (call.apply provider).2 = provider) ∨
        ((call.apply provider).1 = STATUS_SUCCESS ∧
          ∃ (chain : Chain) (record : chain.Record),
            Added provider (call.apply provider).2 record ∧
              call.recordFor chain = some record ∧
              ∀ other, other ≠ chain → call.recordFor other = none) := by
    rw [applies]
    rcases addCallbacks_cases complete (if isNull then none else some provider)
        pRecord with ⟨failed, same⟩ | ⟨start, record, after, isProvider,
          isRecord, result, added⟩
    · refine .inl ⟨failed, ?_⟩
      rw [Prod.map_snd, same]
      cases isNull <;> rfl
    · cases isNull with
      | true => cases isProvider
      | false =>
          cases isProvider
          refine .inr ⟨congrArg Prod.fst result, chain, record, ?_,
            passes.trans isRecord, only⟩
          rw [Prod.map_snd, result]
          exact added
  cases call with
  | producer isNull pProducerCallbacks =>
      refine lift producerSpec_complete isNull pProducerCallbacks rfl rfl ?_
      intro other different
      cases other <;> first | rfl | exact (different rfl).elim
  | stream isNull pStreamCallbacks =>
      refine lift streamSpec_complete isNull pStreamCallbacks rfl rfl ?_
      intro other different
      cases other <;> first | rfl | exact (different rfl).elim
  | auth isNull pAuthCallbacks =>
      refine lift authSpec_complete isNull pAuthCallbacks rfl rfl ?_
      intro other different
      cases other <;> first | rfl | exact (different rfl).elim
  | api isNull pApiCallbacks =>
      refine lift apiSpec_complete isNull pApiCallbacks rfl rfl ?_
      intro other different
      cases other <;> first | rfl | exact (different rfl).elim

variable {provider : CallbacksProvider}

theorem sound_apply (call : AddCall) (sound : provider.Sound) :
    (call.apply provider).2.Sound := by
  rcases call.apply_cases provider with ⟨-, same⟩ | ⟨-, _, _, added, -⟩
  · rw [same]
    exact sound
  · exact sound.added added

theorem keeps_apply (call : AddCall) (provider : CallbacksProvider) :
    (call.apply provider).2.callbackChainCount = provider.callbackChainCount ∧
      (call.apply provider).2.platformCallbacks = provider.platformCallbacks ∧
      ∀ fn, (call.apply provider).2.clientCallbacks (.platform fn) =
        provider.clientCallbacks (.platform fn) := by
  rcases call.apply_cases provider with ⟨-, same⟩ | ⟨-, _, _, added, -⟩
  · rw [same]
    exact ⟨rfl, rfl, fun _ => rfl⟩
  · refine ⟨added.count, added.platform, fun fn => ?_⟩
    exact added.keeps _ fun recordFn _ => clientFn_ne_platform recordFn fn

theorem chains_apply (call : AddCall) (provider : CallbacksProvider)
    (chain : Chain) :
    (call.apply provider).2.chains chain = provider.chains chain ++
      if (call.apply provider).1 = STATUS_SUCCESS then
        (call.recordFor chain).toList
      else [] := by
  rcases call.apply_cases provider with ⟨failed, same⟩ |
      ⟨succeeded, target, record, added, passes, only⟩
  · rw [same, if_neg failed, List.append_nil]
  · rw [if_pos succeeded]
    by_cases isTarget : chain = target
    · subst isTarget
      rw [added.grown, passes]
      rfl
    · rw [added.others chain isTarget, only chain isTarget]
      exact (List.append_nil _).symm

end AddCall

namespace CallbacksProvider

variable {provider : CallbacksProvider}

theorem chains_afterCalls (provider : CallbacksProvider) (calls : List AddCall)
    (chain : Chain) :
    (afterCalls provider calls).chains chain =
      provider.chains chain ++ added chain provider calls := by
  induction calls generalizing provider with
  | nil => exact (List.append_nil _).symm
  | cons call calls induction =>
      rw [afterCalls, List.foldl_cons, ← afterCalls, induction,
        call.chains_apply provider chain, List.append_assoc]
      rfl

theorem Sound.afterCalls (sound : provider.Sound) (calls : List AddCall) :
    (afterCalls provider calls).Sound := by
  induction calls generalizing provider with
  | nil => exact sound
  | cons call calls induction => exact induction (call.sound_apply sound)

theorem keeps_afterCalls (provider : CallbacksProvider) (calls : List AddCall) :
    (Callbacks.afterCalls provider calls).callbackChainCount =
        provider.callbackChainCount ∧
      (Callbacks.afterCalls provider calls).platformCallbacks =
        provider.platformCallbacks ∧
      ∀ fn, (Callbacks.afterCalls provider calls).clientCallbacks
        (.platform fn) = provider.clientCallbacks (.platform fn) := by
  induction calls generalizing provider with
  | nil => exact ⟨rfl, rfl, fun _ => rfl⟩
  | cons call calls induction =>
      obtain ⟨count, platform, client⟩ := induction (call.apply provider).2
      obtain ⟨sameCount, samePlatform, sameClient⟩ := call.keeps_apply provider
      exact ⟨count.trans sameCount, platform.trans samePlatform,
        fun fn => (client fn).trans (sameClient fn)⟩

theorem empty_sound (callbackChainCount : Nat)
    (platform : PlatformFn → Option FnPtr)
    (platformCallbacks : CallbackRecord PlatformFn) :
    (empty callbackChainCount platform platformCallbacks).Sound := by
  constructor
  case fits => exact fun chain => Nat.zero_le _
  case distinct => exact fun chain => .nil
  case provides =>
      intro chain fn
      constructor
      · intro set
        cases chain <;> cases set
      · rintro ⟨entry, listed, -⟩
        cases listed

end CallbacksProvider

/-- After any calls the chains fit and hold what has been added, in order and
without duplicates; the client callbacks are the aggregates of what the chains
provide; the platform callbacks are as they were, and a call that fails has
changed nothing. -/
theorem chains_sound (callbackChainCount : Nat)
    (platform : PlatformFn → Option FnPtr)
    (platformCallbacks : CallbackRecord PlatformFn) (calls : List AddCall) :
    let start : CallbacksProvider :=
      .empty callbackChainCount platform platformCallbacks
    let provider := afterCalls start calls
    provider.Sound ∧ provider.callbackChainCount = callbackChainCount ∧
      (∀ chain, provider.chains chain = added chain start calls) ∧
      (∀ call : AddCall, (call.apply provider).1 ≠ STATUS_SUCCESS →
        (call.apply provider).2 = provider) ∧
      provider.platformCallbacks = platformCallbacks ∧
      ∀ fn, provider.clientCallbacks (.platform fn) = platform fn := by
  intro start provider
  obtain ⟨count, platformKept, client⟩ :=
    CallbacksProvider.keeps_afterCalls start calls
  refine ⟨(CallbacksProvider.empty_sound ..).afterCalls calls, count, ?_, ?_,
    platformKept, client⟩
  · intro chain
    exact CallbacksProvider.chains_afterCalls start calls chain
  · intro call failed
    rcases call.apply_cases provider with ⟨-, same⟩ | ⟨succeeded, -⟩
    · exact same
    · exact (failed succeeded).elim

end Callbacks

end KvsProducer
