import KvsProducer.Common.ApiCalls

/-!
# The start timestamp of a producer

A request that streams has the start timestamp in a header, as seconds and
milliseconds with a point between them.  The milliseconds are printed without
zeros in front, and what follows a point counts by its position.
-/

namespace KvsProducer

namespace Common

open Outcome StableInsertion

/-- The headers that are set come to those of the request. -/
theorem setHeaders_perm {env : ApiEnvironment} {headers : List (Bytes × Bytes)}
    {info after : RequestInfo}
    (unterminated : ∀ header ∈ headers, NUL ∉ header.1 ∧ NUL ∉ header.2)
    (sets : setHeaders env headers info = .ok after) :
    (after.requestHeaders.map RequestHeader.pair).Perm
      (headers ++ info.requestHeaders.map RequestHeader.pair) := by
  induction headers generalizing info with
  | nil =>
      cases sets
      exact List.Perm.refl _
  | cons header rest induction =>
      rw [setHeaders, bind_eq_ok] at sets
      obtain ⟨between, first, later⟩ := sets
      obtain ⟨noNulName, noNulValue⟩ := unterminated header List.mem_cons_self
      obtain ⟨set, name, value, rfl⟩ :=
        setHeader_eq_ok noNulName noNulValue first
      have pair : set.pair = header := by rw [RequestHeader.pair, name, value]
      have others := induction
        (fun other listed => unterminated other (List.mem_cons_of_mem _ listed))
        later
      have inserted := (perm_insertAfter RequestHeader.NameLe set
        info.requestHeaders).map RequestHeader.pair
      rw [List.map_cons, pair] at inserted
      exact (others.trans (inserted.append_left rest)).trans
        List.perm_middle

def START_TIMESTAMP_HEADER : Bytes := bytes "x-amzn-producer-start-timestamp"

/-- The text in the header of a request. -/
def sentStartTimestamp (info : RequestInfo) : Option Bytes :=
  (info.requestHeaders.find? fun header =>
    header.name = START_TIMESTAMP_HEADER).map (·.value)

/-- The number of seconds that the text spells. -/
def sentSeconds (info : RequestInfo) : Option ℚ :=
  sentStartTimestamp info >>= Decimal.fraction

def startTimestampMillis (startTimestamp : Nat) : Nat :=
  startTimestamp / HUNDREDS_OF_NANOS_IN_A_MILLISECOND

/-- The request has the start timestamp, truncated to milliseconds. -/
def SendsStartTimestamp (info : RequestInfo) (startTimestamp : Nat) : Prop :=
  sentSeconds info = some (startTimestampMillis startTimestamp / 1000 : ℚ)

instance (info : RequestInfo) (startTimestamp : Nat) :
    Decidable (SendsStartTimestamp info startTimestamp) :=
  inferInstanceAs (Decidable (_ = _))

/-- The milliseconds are none, or have three digits. -/
def WholeMillis (startTimestamp : Nat) : Prop :=
  startTimestampMillis startTimestamp % 1000 = 0 ∨
    100 ≤ startTimestampMillis startTimestamp % 1000

section Proofs

variable {env : ApiEnvironment} {client : CurlApiCallbacks}
variable {credentials : AwsCredentials} {info : RequestInfo}
variable {streamName streamingEndpoint : CString} {startTimestamp : Nat}
variable {absoluteFragmentTimestamp acksEnabled : Bool}

theorem nul_not_mem_startTimestampStr (env : ApiEnvironment)
    (startTimestamp : Nat) : NUL ∉ startTimestampStr env startTimestamp := by
  have noPoint : NUL ∉ [byte '.'] := by decide
  intro listed
  have printed := List.mem_of_mem_take listed
  simp only [List.mem_append] at printed
  rcases printed with (seconds | dot) | millis
  · exact nul_not_mem_ultostr _ seconds
  · exact noPoint dot
  · exact nul_not_mem_ultostr _ millis

/-- The names of the headers of a request that streams. -/
def putMediaHeaderNames : List Bytes :=
  [bytes "user-agent", bytes "x-amzn-stream-name", START_TIMESTAMP_HEADER,
    bytes "x-amzn-fragment-acknowledgment-required",
    bytes "x-amzn-fragment-timecode-type", bytes "transfer-encoding",
    bytes "connection"]

theorem map_fst_putMediaHeaders :
    (putMediaHeaders env client streamName startTimestamp
      absoluteFragmentTimestamp acksEnabled).map Prod.fst =
        putMediaHeaderNames :=
  rfl

theorem putMediaHeaders_unterminated (header : Bytes × Bytes)
    (listed : header ∈ putMediaHeaders env client streamName startTimestamp
      absoluteFragmentTimestamp acksEnabled) :
    NUL ∉ header.1 ∧ NUL ∉ header.2 := by
  have names : ∀ name ∈ putMediaHeaderNames, NUL ∉ name := by decide
  constructor
  · apply names
    rw [← map_fst_putMediaHeaders]
    exact List.mem_map_of_mem listed
  · have timestamp := nul_not_mem_startTimestampStr env startTimestamp
    simp only [putMediaHeaders, List.mem_cons, List.not_mem_nil, or_false]
      at listed
    rcases listed with rfl | rfl | rfl | rfl | rfl | rfl | rfl
    · exact client.userAgent.property
    · exact streamName.property
    · exact timestamp
    · cases acksEnabled <;> decide
    · cases absoluteFragmentTimestamp <;> decide
    · exact (by decide : NUL ∉ bytes "chunked")
    · exact (by decide : NUL ∉ bytes "keep-alive")

theorem sentStartTimestamp_eq
    (builds : putStreamCurl env client credentials streamName startTimestamp
      absoluteFragmentTimestamp acksEnabled streamingEndpoint = .ok info) :
    sentStartTimestamp info = some (startTimestampStr env startTimestamp) := by
  rw [putStreamCurl, bind_eq_ok] at builds
  obtain ⟨url, -, sets⟩ := builds
  have same := setHeaders_perm putMediaHeaders_unterminated sets
  rw [createCurlRequest, List.map_nil, List.append_nil] at same
  have set : (START_TIMESTAMP_HEADER, startTimestampStr env startTimestamp) ∈
      putMediaHeaders env client streamName startTimestamp
        absoluteFragmentTimestamp acksEnabled := by
    simp [putMediaHeaders, START_TIMESTAMP_HEADER]
  have distinct : ((putMediaHeaders env client streamName startTimestamp
      absoluteFragmentTimestamp acksEnabled).map Prod.fst).Nodup := by
    rw [map_fst_putMediaHeaders]
    decide
  obtain ⟨header, member, pair⟩ := List.mem_map.mp (same.mem_iff.mpr set)
  cases found : info.requestHeaders.find? fun header =>
      header.name = START_TIMESTAMP_HEADER with
  | none =>
      have missing := List.find?_eq_none.mp found header member
      rw [RequestHeader.pair, Prod.mk.injEq] at pair
      simp [pair.1] at missing
  | some first =>
      have named : first.name = START_TIMESTAMP_HEADER := by
        simpa using List.find?_some found
      have listed := same.mem_iff.mp
        (List.mem_map_of_mem (List.mem_of_find?_eq_some found))
      have only := List.inj_on_of_nodup_map distinct listed set named
      rw [RequestHeader.pair, Prod.mk.injEq] at only
      rw [sentStartTimestamp, found, Option.map_some, only.2]

/-- The text has room for the digits of every timestamp. -/
theorem startTimestampStr_eq (roomy : 17 ≤ env.maxTimestampStrLen)
    (uint64 : startTimestamp < 2 ^ 64) :
    startTimestampStr env startTimestamp =
      Decimal.spell (startTimestampMillis startTimestamp / 1000) ++
        Decimal.point ::
          Decimal.spell (startTimestampMillis startTimestamp % 1000) := by
  have seconds : (Decimal.spell
      (startTimestampMillis startTimestamp / 1000)).length ≤ 13 := by
    refine (Decimal.length_spell_le_iff (by decide)).mpr ?_
    simp only [startTimestampMillis, HUNDREDS_OF_NANOS_IN_A_MILLISECOND]
    omega
  have millis : (Decimal.spell
      (startTimestampMillis startTimestamp % 1000)).length ≤ 3 :=
    (Decimal.length_spell_le_iff (by decide)).mpr (Nat.mod_lt _ (by decide))
  have text : startTimestampStr env startTimestamp =
      (Decimal.spell (startTimestampMillis startTimestamp / 1000) ++
        Decimal.point ::
          Decimal.spell (startTimestampMillis startTimestamp % 1000)).take
        env.maxTimestampStrLen := by
    simp only [startTimestampStr, snprintf, ultostr_eq_spell,
      List.append_assoc, Nat.add_sub_cancel]
    rfl
  rw [text, List.take_of_length_le]
  rw [List.length_append, List.length_cons]
  omega

/-- The number that is sent: the milliseconds count by the number of their
digits. -/
def printedSeconds (startTimestamp : Nat) : ℚ :=
  (startTimestampMillis startTimestamp / 1000 : ℕ) +
    (startTimestampMillis startTimestamp % 1000 : ℕ) /
      10 ^ (Decimal.spell (startTimestampMillis startTimestamp % 1000)).length

theorem startTimestampMillis_div (startTimestamp : Nat) :
    (startTimestampMillis startTimestamp : ℚ) / 1000 =
      (startTimestampMillis startTimestamp / 1000 : ℕ) +
        (startTimestampMillis startTimestamp % 1000 : ℕ) / 10 ^ 3 := by
  have split : ((1000 * (startTimestampMillis startTimestamp / 1000) +
      startTimestampMillis startTimestamp % 1000 : ℕ) : ℚ) =
      startTimestampMillis startTimestamp := by
    rw [Nat.div_add_mod]
  push_cast at split ⊢
  linarith

theorem startTimestampMillis_mono {later : Nat}
    (ordered : startTimestamp ≤ later) :
    (startTimestampMillis startTimestamp : ℚ) / 1000 ≤
      startTimestampMillis later / 1000 := by
  have millis : startTimestampMillis startTimestamp ≤
      startTimestampMillis later :=
    Nat.div_le_div_right ordered
  gcongr

end Proofs

/-- The request is built by a call with the start timestamp. -/
def Streams (env : ApiEnvironment) (startTimestamp : Nat)
    (info : RequestInfo) : Prop :=
  ∃ (limits : ApiLimits) (answers : ApiAnswers) (client : CurlApiCallbacks)
    (context : ServiceCallContext) (streamName : CString)
    (absoluteFragmentTimestamp acksEnabled : Bool)
    (streamingEndpoint : CString),
    (ApiCall.putStream streamName startTimestamp absoluteFragmentTimestamp
      acksEnabled streamingEndpoint).perform env limits answers client
        context = .ok info

section Streams

variable {env : ApiEnvironment} {startTimestamp : Nat} {info : RequestInfo}

theorem Streams.sentSeconds_eq (streams : Streams env startTimestamp info)
    (roomy : 17 ≤ env.maxTimestampStrLen)
    (uint64 : startTimestamp < 2 ^ 64) :
    sentSeconds info = some (printedSeconds startTimestamp) := by
  obtain ⟨limits, answers, client, context, streamName, _, _, endpoint,
    performs⟩ := streams
  simp only [ApiCall.perform, ApiCall.arguments, ok_bind, bind_eq_ok,
    checkStatus_eq_ok] at performs
  obtain ⟨credentials, -, _, builds, _, -, _, -, same⟩ := performs
  cases same
  rw [sentSeconds, sentStartTimestamp_eq builds,
    startTimestampStr_eq roomy uint64, Option.bind_eq_bind, Option.bind_some,
    Decimal.fraction_spell]
  rfl

theorem Streams.sends_iff (streams : Streams env startTimestamp info)
    (roomy : 17 ≤ env.maxTimestampStrLen)
    (uint64 : startTimestamp < 2 ^ 64) :
    SendsStartTimestamp info startTimestamp ↔ WholeMillis startTimestamp := by
  have parts : startTimestampMillis startTimestamp % 1000 < 10 ^ 3 :=
    Nat.mod_lt _ (by decide)
  rw [SendsStartTimestamp, streams.sentSeconds_eq roomy uint64,
    Option.some.injEq, printedSeconds, startTimestampMillis_div, add_right_inj,
    Decimal.div_length_spell_eq_iff parts]
  rfl

end Streams

/-- A call sends its start timestamp, truncated to milliseconds, if and only if
the milliseconds are none or have three digits.  Timestamps that are sent so are
sent in their order. -/
theorem sendsStartTimestamp_iff (env : ApiEnvironment)
    (startTimestamp : Nat) (info : RequestInfo)
    (roomy : 17 ≤ env.maxTimestampStrLen)
    (uint64 : startTimestamp < 2 ^ 64)
    (streams : Streams env startTimestamp info) :
    (SendsStartTimestamp info startTimestamp ↔ WholeMillis startTimestamp) ∧
      ∀ (later : Nat) (infoLater : RequestInfo), later < 2 ^ 64 →
        Streams env later infoLater → startTimestamp ≤ later →
        WholeMillis startTimestamp → WholeMillis later →
        ∀ first ∈ sentSeconds info, ∀ second ∈ sentSeconds infoLater,
          first ≤ second := by
  refine ⟨streams.sends_iff roomy uint64, ?_⟩
  intro later infoLater uint64Later streamsLater ordered whole wholeLater
    first isFirst second isSecond
  have sent := (streams.sends_iff roomy uint64).mpr whole
  have sentLater := (streamsLater.sends_iff roomy uint64Later).mpr wholeLater
  rw [SendsStartTimestamp] at sent sentLater
  rw [sent, Option.mem_some_iff] at isFirst
  rw [sentLater, Option.mem_some_iff] at isSecond
  rw [← isFirst, ← isSecond]
  exact startTimestampMillis_mono ordered

/-- A timestamp with a number of milliseconds in its second. -/
def sampleTimestamp (millis : Nat) : Nat :=
  (1700000000 * 1000 + millis) * HUNDREDS_OF_NANOS_IN_A_MILLISECOND

def sampleEndpoint : CString := sampleClient.controlPlaneUrl

theorem sampleTimestamp_streams {millis : Nat} {info : RequestInfo}
    (builds : putStreamCurl sampleEnv sampleClient sampleCredentials
      sampleStreamName (sampleTimestamp millis) true true sampleEndpoint =
        .ok info) :
    Streams sampleEnv (sampleTimestamp millis) info := by
  refine ⟨sampleLimits, sampleAnswers, sampleClient, sampleContext,
    sampleStreamName, true, true, sampleEndpoint, ?_⟩
  simp only [ApiCall.perform, ApiCall.arguments, ok_bind,
    validate_sampleContext, ApiArguments.request, builds]
  rfl

theorem sendsStartTimestamp_sample :
    ∃ info infoLater, SendsStartTimestamp info (sampleTimestamp 500) ∧
      ∀ first ∈ sentSeconds info, ∀ second ∈ sentSeconds infoLater,
        first ≤ second := by
  obtain ⟨info, streams⟩ : ∃ info,
      Streams sampleEnv (sampleTimestamp 500) info :=
    ⟨_, sampleTimestamp_streams rfl⟩
  obtain ⟨infoLater, streamsLater⟩ : ∃ info,
      Streams sampleEnv (sampleTimestamp 750) info :=
    ⟨_, sampleTimestamp_streams rfl⟩
  have whole : WholeMillis (sampleTimestamp 500) := .inr (by decide)
  have wholeLater : WholeMillis (sampleTimestamp 750) := .inr (by decide)
  obtain ⟨sends, ordered⟩ := sendsStartTimestamp_iff sampleEnv
    (sampleTimestamp 500) info (by decide) (by decide) streams
  exact ⟨info, infoLater, sends.mpr whole,
    ordered _ infoLater (by decide) streamsLater (by decide) whole wholeLater⟩

/-- Five milliseconds are sent as five tenths of a second, and so are more than
the ten milliseconds of a later timestamp. -/
theorem not_sendsStartTimestamp :
    (¬ ∀ (env : ApiEnvironment) (startTimestamp : Nat) (info : RequestInfo),
      17 ≤ env.maxTimestampStrLen → startTimestamp < 2 ^ 64 →
      Streams env startTimestamp info →
      SendsStartTimestamp info startTimestamp) ∧
    ¬ ∀ (env : ApiEnvironment) (startTimestamp later : Nat)
        (info infoLater : RequestInfo),
      17 ≤ env.maxTimestampStrLen → startTimestamp < 2 ^ 64 →
      later < 2 ^ 64 → Streams env startTimestamp info →
      Streams env later infoLater → startTimestamp ≤ later →
      ∀ first ∈ sentSeconds info, ∀ second ∈ sentSeconds infoLater,
        first ≤ second := by
  obtain ⟨info, streams⟩ : ∃ info,
      Streams sampleEnv (sampleTimestamp 5) info :=
    ⟨_, sampleTimestamp_streams rfl⟩
  obtain ⟨infoLater, streamsLater⟩ : ∃ info,
      Streams sampleEnv (sampleTimestamp 10) info :=
    ⟨_, sampleTimestamp_streams rfl⟩
  constructor
  · intro claim
    have sends := claim sampleEnv _ info (by decide) (by decide) streams
    have whole := (streams.sends_iff (by decide) (by decide)).mp sends
    have millis : startTimestampMillis (sampleTimestamp 5) % 1000 = 5 := rfl
    rw [WholeMillis, millis] at whole
    omega
  · intro claim
    have sent := streams.sentSeconds_eq (by decide) (by decide)
    have sentLater := streamsLater.sentSeconds_eq (by decide) (by decide)
    have ordered := claim sampleEnv _ _ info infoLater (by decide) (by decide)
      (by decide) streams streamsLater (by decide) _ sent _ sentLater
    have first : printedSeconds (sampleTimestamp 5) = 1700000000 + 5 / 10 := by
      rfl
    have second : printedSeconds (sampleTimestamp 10) =
        1700000000 + 10 / 10 ^ 2 := by
      rfl
    rw [first, second] at ordered
    norm_num at ordered

end Common

end KvsProducer
