import KvsProducer.Common.FailedRefresh
import KvsProducer.JsonMembers
import KvsProducer.Lib.Words

/-!
# Freshness of the credentials

What the two sources say about the expiration, and what the provider makes of
it over a history of calls.  Credentials that are returned without a look at the
source outlast the grace period; those that come from the source are not kept
longer than PIC enforces, and not longer than the source says.
-/

namespace KvsProducer

namespace Common

open CredentialProvider (Arguments)

/-! ### What the sources state -/

/-- The words of a file. -/
def fileWords (content : Bytes) : List Bytes :=
  (content.splitOnP isSpace).filter (· ≠ [])

/-- The words of a credential file with an expiration, from the access key ID
to the secret key. -/
def datedWords (content : Bytes) : Option (Bytes × Bytes × Bytes) :=
  match fileWords content with
  | marker :: accessKeyId :: expiration :: secretKey :: _ :: _ =>
      if marker = bytes "CREDENTIALS" then
        some (accessKeyId, expiration, secretKey)
      else none
  | _ => none

/-- The last member with the name of the expiration, at any depth. -/
def expirationMember (js : Bytes) : Option (JsmnTok × JsmnTok) :=
  (((objectTokens js).zip (objectTokens js).tail).filter fun (key, _) =>
    key.string? js = some IotField.expiration.name ∧ 0 < key.size).getLast?

/-- The instant that the source states as the expiration, in seconds. -/
def CredentialCall.statedInstant : CredentialCall → Option Int
  | .iot call => do
      let (_, value) ← expirationMember call.response
      let timestamp ← value.string? call.response
      Common.statedInstant timestamp
  | .file call => do
      let content ← call.file
      let (_, timestamp, _) ← datedWords content
      Common.statedInstant timestamp

/-- The place of the expiration is where it is looked for.  In a response, the
last string that is taken for its name is the name of the member; in a file, the
access key ID is not too long, and the secret key does not begin with a
`NUL`. -/
def CredentialCall.Locates : CredentialCall → Prop
  | .iot call => ∀ member ∈ expirationMember call.response,
      lastNamed call.response .expiration =
        some
          { key := member.1
            value := some member.2 }
  | .file call => ∀ content ∈ call.file, ∀ words ∈ datedWords content,
      words.1.length ≤ MAX_ACCESS_KEY_LEN ∧ words.2.2.head? ≠ some NUL

instance : DecidablePred CredentialCall.Locates
  | .iot call => inferInstanceAs (Decidable
      (∀ member ∈ expirationMember call.response, _ = some _))
  | .file call => inferInstanceAs (Decidable
      (∀ content ∈ call.file, ∀ words ∈ datedWords content, _ ∧ _))

/-- An instant that is stated is what is read as the expiration. -/
def CredentialCall.ReadsStated (call : CredentialCall) : Prop :=
  call.statedInstant.isSome = true → call.Locates

instance : DecidablePred CredentialCall.ReadsStated :=
  fun _ => inferInstanceAs (Decidable (_ → _))

/-! ### Histories -/

/-- A call that has returned: whether the source has been contacted, whether it
succeeded, and what the provider holds. -/
structure CallRecord where
  call : CredentialCall
  contacted : Bool
  succeeded : Bool
  after : CredentialProvider

section History

variable (time : TimeEnv) (durations : TokenDurations)

def CredentialCall.record (provider : CredentialProvider)
    (call : CredentialCall) : CallRecord :=
  let (status, after) := call.getCredentials time durations provider
  { call := call
    contacted := provider.isStale durations call.clock
    succeeded := status.isOk
    after := after }

@[simp] theorem CredentialCall.record_call (provider : CredentialProvider)
    (call : CredentialCall) :
    (call.record time durations provider).call = call := rfl

/-- The calls of a provider, one after the other. -/
def history : CredentialProvider → List CredentialCall → List CallRecord
  | _, [] => []
  | provider, call :: calls =>
      let record := call.record time durations provider
      record :: history record.after calls

end History

/-- The credentials that a call returns expire late enough, or early enough. -/
structure CallRecord.Fresh (durations : TokenDurations) (record : CallRecord) :
    Prop where
  cached : record.contacted = false →
    ∃ held ∈ record.after.pAwsCredentials,
      record.call.clock.time + durations.gracePeriod ≤
        held.credentials.expiration
  enforced : record.contacted = true → record.succeeded = true →
    ∃ held ∈ record.after.pAwsCredentials,
      held.credentials.expiration ≤ record.call.refreshClock.time +
        durations.maxEnforcedTokenExpiration
  stated : record.contacted = true → record.succeeded = true →
    ∀ instant ∈ record.call.statedInstant,
      (record.call.refreshClock.time : Int) ≤
          instant * HUNDREDS_OF_NANOS_IN_A_SECOND →
        ∃ held ∈ record.after.pAwsCredentials,
          (held.credentials.expiration : Int) ≤
            instant * HUNDREDS_OF_NANOS_IN_A_SECOND

/-! ### Words of a file -/

theorem fileWords_eq (content : Bytes) :
    fileWords content = Words.words isSpace content := by
  apply List.filter_congr
  intro word _
  cases word <;> rfl

/-- A conversion takes a piece of the first word. -/
theorem scanString_words (maxLen : Nat) (input : Bytes) :
    scanString maxLen input = none ∧ fileWords input = [] ∨
      ∃ word later rest, fileWords input = word :: later ∧
        scanString maxLen input = some (word.take maxLen, rest) ∧
        fileWords rest = Words.behindPiece maxLen word later := by
  simp only [fileWords_eq]
  rw [scanString, ← Words.words_dropWhile]
  by_cases ends : input.dropWhile isSpace = []
  · left
    rw [if_pos ends, ends]
    exact ⟨rfl, rfl⟩
  · right
    have begins : ∀ c ∈ (input.dropWhile isSpace).head?,
        isSpace c = false := by
      intro c leads
      have other := List.head?_dropWhile_not isSpace input
      rw [Option.mem_def.mp leads] at other
      exact other
    obtain ⟨word, later, listed, piece, behind⟩ :=
      Words.words_piece ends begins maxLen
    refine ⟨word, later, _, listed, ?_, behind⟩
    rw [if_neg ends, piece]

theorem scanStrings_eq (maxLens : List Nat) (input : Bytes) :
    scanStrings maxLens input = Words.pieces maxLens (fileWords input) := by
  induction maxLens generalizing input with
  | nil => rfl
  | cons maxLen maxLens induction =>
      rcases scanString_words maxLen input with
        ⟨scans, listed⟩ | ⟨word, later, rest, listed, scans, behind⟩
      · rw [scanStrings, scans, listed]
        rfl
      · rw [scanStrings, scans, listed]
        rw [Words.pieces, ← behind, ← induction]

theorem ne_nil_of_mem_fileWords {content word : Bytes}
    (listed : word ∈ fileWords content) : word ≠ [] := by
  rw [fileWords_eq] at listed
  exact Words.ne_nil_of_mem_words listed

theorem fileWords_dated {content accessKeyId expiration secretKey : Bytes}
    (dated : datedWords content = some (accessKeyId, expiration, secretKey)) :
    ∃ token others, fileWords content = bytes "CREDENTIALS" :: accessKeyId ::
      expiration :: secretKey :: token :: others := by
  rw [datedWords] at dated
  split at dated
  case h_2 => cases dated
  rename_i marker id timestamp secret token others listed
  split at dated
  case isFalse => cases dated
  rename_i isMarker
  cases dated
  exact ⟨token, others, isMarker ▸ listed⟩

theorem secretKey_ne_nil {content accessKeyId expiration secretKey : Bytes}
    (dated : datedWords content = some (accessKeyId, expiration, secretKey)) :
    secretKey ≠ [] := by
  obtain ⟨token, others, listed⟩ := fileWords_dated dated
  exact @ne_nil_of_mem_fileWords content _ (by simp [listed])

theorem scanStrings_dated {content accessKeyId expiration secretKey : Bytes}
    (dated : datedWords content = some (accessKeyId, expiration, secretKey))
    (shortId : accessKeyId.length ≤ MAX_ACCESS_KEY_LEN)
    (shortExpiration : expiration.length ≤ MAX_EXPIRATION_LEN) :
    ∃ more, scanStrings credentialFileFormat content =
      bytes "CREDENTIALS" :: accessKeyId :: expiration ::
        secretKey.take MAX_SECRET_KEY_LEN :: more := by
  obtain ⟨token, others, listed⟩ := fileWords_dated dated
  have marker : (bytes "CREDENTIALS").length = 11 := by decide
  simp only [scanStrings_eq, listed, credentialFileFormat, Words.pieces,
    Words.behindPiece, marker, Nat.le_refl, if_true, shortId, shortExpiration,
    List.take_of_length_le]
  exact ⟨_, rfl⟩

/-! ### One call -/

section Call

variable {time : TimeEnv} {durations : TokenDurations}

theorem length_of_statedInstant {timestamp : Bytes} {instant : Int}
    (stated : statedInstant timestamp = some instant) :
    timestamp.length = timestampFormat.length := by
  obtain ⟨_, isTime, -⟩ := Option.map_eq_some_iff.mp stated
  exact (readTime_eq_some (statedTime_eq_some_iff.mp isTime).1).1

theorem length_of_converts {env : TimeEnv} {timestamp : Bytes}
    {nowTime expiration : Nat}
    (converts : convertTimestampToEpoch env timestamp nowTime =
      .ok expiration) :
    timestamp.length = timestampFormat.length := by
  simp only [convertTimestampToEpoch, bind_eq_ok, check_eq_ok] at converts
  obtain ⟨_, length, -⟩ := converts
  exact length

theorem text_scannedString_secretKey {content secretKey : Bytes}
    (scans : (scanStrings credentialFileFormat content)[3]? =
      some (secretKey.take MAX_SECRET_KEY_LEN))
    (nonempty : secretKey ≠ []) (plain : secretKey.head? ≠ some NUL) :
    (scannedString content 3 []).text ≠ [] := by
  cases secretKey with
  | nil => exact absurd rfl nonempty
  | cons c rest =>
      have notNul : c ≠ NUL := fun same => plain (congrArg some same)
      simp [scannedString, scans, SizedString.sized, SizedString.ofBuffer,
        SizedString.whole, MAX_SECRET_KEY_LEN, notNul]

theorem FileCall.read_dated {call : FileCall} {arguments : Arguments}
    {content accessKeyId timestamp secretKey : Bytes}
    (reads : call.read time durations = .ok arguments)
    (file : call.file = some content)
    (dated : datedWords content = some (accessKeyId, timestamp, secretKey))
    (shortId : accessKeyId.length ≤ MAX_ACCESS_KEY_LEN)
    (plain : secretKey.head? ≠ some NUL)
    (length : timestamp.length = timestampFormat.length) :
    ∃ expiration,
      convertTimestampToEpoch time timestamp
          (call.clock.time / HUNDREDS_OF_NANOS_IN_A_SECOND) =
        .ok expiration ∧
      arguments.expiration = min expiration (durations.latest call.clock) := by
  have short : timestamp.length ≤ MAX_EXPIRATION_LEN := by
    rw [length]
    decide
  obtain ⟨more, scans⟩ := scanStrings_dated dated shortId short
  have fourth := text_scannedString_secretKey
    (congrArg (·[3]?) scans) (secretKey_ne_nil dated) plain
  have third : (scannedString content 2 []).text =
      timestamp.takeWhile (· ≠ NUL) := by
    simp [scannedString, scans, SizedString.sized, SizedString.ofBuffer,
      SizedString.whole]
  simp only [FileCall.read, file, FileCall.expiration, bind_eq_ok,
    checkSome_eq_ok, check_eq_ok, Except.ok.injEq] at reads
  obtain ⟨_, ⟨⟩, _, -, _, -, expiration, converts, _, -, rfl⟩ := reads
  simp only [third, if_neg fourth] at converts
  have whole : timestamp.takeWhile (· ≠ NUL) = timestamp :=
    (List.takeWhile_prefix _).eq_of_length
      ((length_of_converts converts).trans length.symm)
  rw [whole] at converts
  exact ⟨expiration, converts, rfl⟩

theorem expirationMember_within {js : Bytes} {member : JsmnTok × JsmnTok}
    (last : expirationMember js = some member) : member.2.Within js := by
  have listed := List.mem_of_getLast? last
  obtain ⟨adjacent, -⟩ := List.mem_filter.mp listed
  exact objectTokens_within js _
    (List.mem_of_mem_tail (List.of_mem_zip adjacent).2)

theorem IotCall.read_dated {call : IotCall} {arguments : Arguments}
    {member : JsmnTok × JsmnTok} {timestamp : Bytes}
    (reads : call.read time durations = .ok arguments)
    (isMember : expirationMember call.response = some member)
    (found : lastNamed call.response .expiration =
      some
        { key := member.1
          value := some member.2 })
    (string : member.2.string? call.response = some timestamp)
    (length : timestamp.length = timestampFormat.length) :
    ∃ expiration,
      convertTimestampToEpoch time timestamp
          (call.responseClock.time / HUNDREDS_OF_NANOS_IN_A_SECOND) =
        .ok expiration ∧
      arguments.expiration =
        min expiration (durations.latest call.responseClock) := by
  simp only [IotCall.read, bind_eq_ok, Except.ok.injEq] at reads
  obtain ⟨_, -, _, -, ⟨fields, read⟩, readsResponse, rfl⟩ := reads
  obtain ⟨fieldsFound, ⟨expiration, converts, limited⟩, -⟩ :=
    readIotResponse_ok readsResponse
  rw [expirationTimestampStr_eq ((fieldsFound .expiration).trans found)
    (expirationMember_within isMember) call.response_lt] at converts
  have text : member.2.text call.response = timestamp := by
    rw [JsmnTok.string?] at string
    split at string
    · exact unescape_of_length string
        ((length_of_converts converts).trans length.symm)
    · cases string
  rw [text] at converts
  exact ⟨expiration, converts, limited⟩

/-- The expiration that is read is limited by what PIC enforces. -/
theorem CredentialCall.read_le_latest {call : CredentialCall}
    {arguments : Arguments}
    (reads : call.read time durations = .ok arguments) :
    arguments.expiration ≤ call.refreshClock.time +
      durations.maxEnforcedTokenExpiration := by
  cases call with
  | iot call =>
      simp only [CredentialCall.read, IotCall.read, bind_eq_ok,
        Except.ok.injEq] at reads
      obtain ⟨_, -, _, -, ⟨fields, read⟩, readsResponse, rfl⟩ := reads
      obtain ⟨-, ⟨expiration, -, limited⟩, -⟩ :=
        readIotResponse_ok readsResponse
      rw [limited]
      exact Nat.le_trans (Nat.min_le_right _ _) (Nat.mod_le _ _)
  | file call =>
      simp only [CredentialCall.read, FileCall.read, bind_eq_ok,
        checkSome_eq_ok, check_eq_ok, Except.ok.injEq] at reads
      obtain ⟨_, -, _, -, _, -, expiration, -, _, -, rfl⟩ := reads
      exact Nat.le_trans (Nat.min_le_right _ _) (Nat.mod_le _ _)

/-- A stated instant that is not in the past is what is read, limited. -/
theorem CredentialCall.read_dated {call : CredentialCall}
    {arguments : Arguments} {instant : Int}
    (reads : call.read time durations = .ok arguments)
    (readsStated : call.ReadsStated)
    (stated : call.statedInstant = some instant) :
    ∃ timestamp expiration,
      Common.statedInstant timestamp = some instant ∧
      convertTimestampToEpoch time timestamp
          (call.refreshClock.time / HUNDREDS_OF_NANOS_IN_A_SECOND) =
        .ok expiration ∧
      arguments.expiration ≤ expiration := by
  have locates := readsStated (Option.isSome_of_mem stated)
  cases call with
  | iot call =>
      simp only [CredentialCall.statedInstant, Option.bind_eq_bind,
        Option.bind_eq_some_iff] at stated
      obtain ⟨member, isMember, timestamp, string, isInstant⟩ := stated
      obtain ⟨expiration, converts, limited⟩ := IotCall.read_dated reads
        isMember (locates member isMember) string
        (length_of_statedInstant isInstant)
      exact ⟨timestamp, expiration, isInstant, converts,
        limited ▸ Nat.min_le_left _ _⟩
  | file call =>
      simp only [CredentialCall.statedInstant, Option.bind_eq_bind,
        Option.bind_eq_some_iff] at stated
      obtain ⟨content, file, ⟨id, timestamp, secret⟩, dated, isInstant⟩ :=
        stated
      obtain ⟨shortId, plain⟩ := locates content file _ dated
      obtain ⟨expiration, converts, limited⟩ := FileCall.read_dated reads file
        dated shortId plain (length_of_statedInstant isInstant)
      exact ⟨timestamp, expiration, isInstant, converts,
        limited ▸ Nat.min_le_left _ _⟩

theorem seconds_le_of_le {ticks : Nat} {instant : Int}
    (notPast : (ticks : Int) ≤ instant * HUNDREDS_OF_NANOS_IN_A_SECOND) :
    ((ticks / HUNDREDS_OF_NANOS_IN_A_SECOND : Nat) : Int) ≤ instant := by
  simp only [HUNDREDS_OF_NANOS_IN_A_SECOND] at notPast ⊢
  omega

theorem CredentialProvider.replace_eq_ok {provider : CredentialProvider}
    {allocated : Bool} {read : Result Arguments}
    (succeeds : (provider.replace allocated read).1 = .ok ()) :
    ∃ arguments held, read = .ok arguments ∧
      createAwsCredentials allocated (some arguments.accessKeyId)
          (some arguments.secretKey) arguments.sessionToken
          arguments.expiration = .ok held.credentials ∧
      (provider.replace allocated read).2.pAwsCredentials = some held := by
  cases read with
  | error fault => cases succeeds
  | ok arguments =>
      simp only [CredentialProvider.replace] at succeeds ⊢
      cases creates : createAwsCredentials allocated
          (some arguments.accessKeyId) (some arguments.secretKey)
          arguments.sessionToken arguments.expiration with
      | error fault =>
          rw [creates] at succeeds
          cases succeeds
      | ok credentials => exact ⟨arguments, _, rfl, creates, rfl⟩

/-- What a provider holds after a refresh that succeeds has the expiration that
has been read. -/
theorem CredentialProvider.replace_isOk {provider : CredentialProvider}
    {allocated : Bool} {read : Result Arguments}
    (succeeds : (provider.replace allocated read).1.isOk = true) :
    ∃ arguments held, read = .ok arguments ∧
      (provider.replace allocated read).2.pAwsCredentials = some held ∧
      held.credentials.expiration = arguments.expiration := by
  obtain ⟨_, succeeds⟩ := isOk_iff.mp succeeds
  obtain ⟨arguments, held, reads, creates, holds⟩ := replace_eq_ok succeeds
  exact ⟨arguments, held, reads, holds,
    (createAwsCredentials_ok creates).2.2.2⟩

theorem CredentialProvider.le_of_not_isStale {provider : CredentialProvider}
    {clock : ClockReading}
    (current : provider.isStale durations clock = false) :
    ∃ held ∈ provider.pAwsCredentials,
      clock.time + durations.gracePeriod ≤ held.credentials.expiration := by
  have early := clock.time_lt
  have grace : durations.gracePeriod < 2 ^ 63 := durations.grace_lt
  rw [CredentialProvider.isStale] at current
  split at current
  · cases current
  · rename_i held holds
    rw [Nat.mod_eq_of_lt (by omega), decide_eq_false_iff_not,
      Nat.not_lt] at current
    exact ⟨held, holds, current⟩

theorem CredentialCall.record_fresh (provider : CredentialProvider)
    {call : CredentialCall} (digits : time.ReadsDigits)
    (readsStated : call.ReadsStated) :
    (call.record time durations provider).Fresh durations := by
  simp only [CredentialCall.record, CredentialCall.getCredentials_eq]
  by_cases stale : provider.isStale durations call.clock = true
  · rw [if_pos stale]
    constructor
    case cached =>
        intro uncontacted
        rw [stale] at uncontacted
        cases uncontacted
    case enforced =>
        intro _ succeeds
        obtain ⟨arguments, held, reads, holds, expires⟩ :=
          CredentialProvider.replace_isOk succeeds
        exact ⟨held, holds, expires ▸ CredentialCall.read_le_latest reads⟩
    case stated =>
        intro _ succeeds instant isStated notPast
        obtain ⟨arguments, held, reads, holds, expires⟩ :=
          CredentialProvider.replace_isOk succeeds
        obtain ⟨timestamp, expiration, isInstant, converts, limited⟩ :=
          CredentialCall.read_dated reads readsStated isStated
        have ahead := seconds_le_of_le notPast
        have behindEpoch := Int.le_trans (Int.natCast_nonneg _) ahead
        have converted := convertTimestampToEpoch_of_stated digits isInstant
          ahead converts
        rw [earlyExpiration_eq] at converted
        refine ⟨held, holds, ?_⟩
        rw [expires]
        simp only [HUNDREDS_OF_NANOS_IN_A_SECOND] at converted ⊢
        omega
  · rw [if_neg stale]
    rw [Bool.not_eq_true] at stale
    constructor
    case cached => exact fun _ => CredentialProvider.le_of_not_isStale stale
    case enforced =>
        intro contacted
        rw [stale] at contacted
        cases contacted
    case stated =>
        intro contacted
        rw [stale] at contacted
        cases contacted

end Call

/-! ### All calls -/

/-- In every history in which the stated expirations are read, the credentials
that are returned are fresh. -/
theorem history_fresh (time : TimeEnv) (durations : TokenDurations)
    (digits : time.ReadsDigits) (calls : List CredentialCall)
    (readsStated : ∀ call ∈ calls, call.ReadsStated)
    (provider : CredentialProvider) :
    ∀ record ∈ history time durations provider calls,
      record.Fresh durations := by
  induction calls generalizing provider with
  | nil =>
      intro record listed
      cases listed
  | cons call calls induction =>
      obtain ⟨first, later⟩ := List.forall_mem_cons.mp readsStated
      rw [history, List.forall_mem_cons]
      exact ⟨CredentialCall.record_fresh provider digits first,
        induction later _⟩

/-- A refresh from a file, a call half a minute later, and a refresh from a
response almost an hour later. -/
def sampleCalls : List CredentialCall :=
  [sampleFileCall 0 "CREDENTIALS AKID 2019-01-31T23:00:59Z SECRET TOKEN",
    sampleFileCall 30 "",
    sampleIotCall 3500 true sampleDated sampleDated_lt]

theorem readsStated_sampleCalls :
    ∀ call ∈ sampleCalls, call.ReadsStated := by
  decide +kernel

theorem history_fresh_sample :
    ((history sampleTimeEnv sampleDurations .initial sampleCalls).map
        fun record => (record.contacted, record.succeeded,
          record.call.statedInstant.isSome)) =
      [(true, true, true), (false, true, false), (true, true, true)] ∧
      ∀ record ∈ history sampleTimeEnv sampleDurations .initial sampleCalls,
        record.Fresh sampleDurations := by
  constructor
  · decide +kernel
  · exact history_fresh sampleTimeEnv sampleDurations readsDigits_sampleTimeEnv
      sampleCalls readsStated_sampleCalls .initial

/-- The response names the expiration in a value, too. -/
def sampleLateResponse : Bytes :=
  sampleResponse (sampleMembers.take 3 ++
    [("expiration", "2019-01-31T22:10:00Z"), ("note", "expiration"),
      ("2019-01-31T23:00:59Z", "")])

theorem length_sampleLateResponse : sampleLateResponse.length = 154 := by
  decide +kernel

theorem sampleLateResponse_lt : sampleLateResponse.length < 2 ^ 32 := by
  rw [length_sampleLateResponse]
  omega

def sampleLateCall : CredentialCall :=
  sampleIotCall 0 true sampleLateResponse sampleLateResponse_lt

theorem statedInstant_sampleLateCall :
    sampleLateCall.statedInstant = some 1548972600 := by
  decide +kernel

/-- The response expires nine minutes later, but the credentials are kept for
forty. -/
theorem history_not_fresh :
    ¬ ∀ record ∈ history sampleTimeEnv sampleDurations .initial
      [sampleLateCall], record.Fresh sampleDurations := by
  intro claim
  have fresh : (sampleLateCall.record sampleTimeEnv sampleDurations
      .initial).Fresh sampleDurations := claim _ List.mem_cons_self
  have stated := fresh.stated (by decide +kernel) (by decide +kernel) 1548972600
  rw [CredentialCall.record_call, statedInstant_sampleLateCall] at stated
  obtain ⟨held, holds, early⟩ := stated rfl (by decide +kernel)
  have expires : ((sampleLateCall.record sampleTimeEnv sampleDurations
      .initial).after.pAwsCredentials.map (·.credentials.expiration)) =
      some 15489744590000000 := by
    decide +kernel
  rw [holds, Option.map_some, Option.some.injEq] at expires
  rw [expires] at early
  revert early
  decide

end Common

end KvsProducer
