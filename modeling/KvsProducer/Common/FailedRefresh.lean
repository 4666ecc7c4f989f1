import KvsProducer.Common.CredentialProviders

/-!
# Refreshes that fail

A refresh that fails before the old object is freed leaves the provider as it
was.  The constructor makes checks of its own, behind the point where the old
object is freed.
-/

namespace KvsProducer

namespace Common

open CredentialProvider (Arguments)

/-- If a call fails, the provider holds the object that it held before, with the
same contents. -/
def KeepsOnFailure (provider : CredentialProvider)
    (outcome : Result Unit × CredentialProvider) : Prop :=
  outcome.1.isOk = false →
    outcome.2.pAwsCredentials = provider.pAwsCredentials

/-- The checks of `createAwsCredentials`. -/
structure Constructible (allocated : Bool) (arguments : Arguments) : Prop where
  allocated : allocated = true
  nullLen : arguments.sessionToken.nullLen = 0
  accessKeyId : arguments.accessKeyId.text ≠ []
  secretKey : arguments.secretKey.text ≠ []
  sessionToken : ∀ token ∈ arguments.sessionToken.string, token.text ≠ []
  size_lt : awsCredentialsSize arguments.accessKeyId.authLen
    arguments.secretKey.authLen
    (arguments.sessionToken.string.map (·.authLen)) < MAX_AUTH_LEN

theorem createAwsCredentials_isOk_iff {allocated : Bool}
    {arguments : Arguments} :
    (createAwsCredentials allocated (some arguments.accessKeyId)
        (some arguments.secretKey) arguments.sessionToken
        arguments.expiration).isOk = true ↔
      Constructible allocated arguments := by
  constructor
  · intro creates
    simp only [createAwsCredentials] at creates
    split at creates
    · cases creates
    rename_i noLength
    split at creates
    case isFalse => cases creates
    rename_i nonempty
    split at creates
    case isFalse => cases creates
    rename_i tokenNonempty
    split at creates
    case isFalse => cases creates
    split at creates
    case isFalse => cases creates
    rename_i hasMemory
    split at creates
    case isFalse => cases creates
    rename_i fits
    exact ⟨hasMemory, not_not.mp noLength, nonempty.1, nonempty.2,
      tokenNonempty, fits⟩
  · intro constructible
    obtain ⟨hasMemory, noLength, id, key, token, fits⟩ := constructible
    have wraps : awsCredentialsSize arguments.accessKeyId.authLen
        arguments.secretKey.authLen
        (arguments.sessionToken.string.map (·.authLen)) % 2 ^ 32 <
          MAX_AUTH_LEN :=
      Nat.lt_of_le_of_lt (Nat.mod_le _ _) fits
    rw [createAwsCredentials, if_neg (not_not.mpr noLength),
      dif_pos ⟨id, key⟩, dif_pos token, if_pos wraps, if_pos hasMemory,
      dif_pos fits]
    rfl

section Replace

variable {provider : CredentialProvider} {allocated : Bool}
variable {read : Result Arguments}

/-- The old object is lost exactly where the constructor fails. -/
theorem replace_keeps_iff {held : HeldCredentials}
    (holds : provider.pAwsCredentials = some held) :
    KeepsOnFailure provider (provider.replace allocated read) ↔
      ∀ arguments, read = .ok arguments → Constructible allocated arguments := by
  cases read with
  | error fault => simp [KeepsOnFailure, CredentialProvider.replace]
  | ok arguments =>
      simp only [Except.ok.injEq, forall_eq', ← createAwsCredentials_isOk_iff,
        KeepsOnFailure, CredentialProvider.replace]
      cases createAwsCredentials allocated (some arguments.accessKeyId)
          (some arguments.secretKey) arguments.sessionToken
          arguments.expiration with
      | error fault =>
          simp [CredentialProvider.freeAwsCredentials, holds, Except.isOk,
            Except.toBool]
      | ok credentials => simp [Except.isOk, Except.toBool]

end Replace

/-! ### The strings of the file -/

theorem length_scanString {maxLen : Nat} {input token rest : Bytes}
    (scans : scanString maxLen input = some (token, rest)) :
    token.length ≤ maxLen := by
  simp only [scanString] at scans
  split at scans
  · cases scans
  · cases scans
    exact Nat.le_trans (List.takeWhile_prefix _).length_le
      (List.length_take_le _ _)

theorem length_scanStrings {maxLens : List Nat} {input token : Bytes}
    {index : Nat} (scans : (scanStrings maxLens input)[index]? = some token) :
    ∃ maxLen ∈ maxLens[index]?, token.length ≤ maxLen := by
  induction maxLens generalizing input index with
  | nil => simp [scanStrings] at scans
  | cons maxLen maxLens induction =>
      rw [scanStrings] at scans
      split at scans
      · simp at scans
      · rename_i first rest scansFirst
        cases index with
        | zero =>
            cases scans
            exact ⟨maxLen, rfl, length_scanString scansFirst⟩
        | succ index => exact induction scans

theorem length_sized (buffer : Bytes) :
    (SizedString.sized buffer buffer.length).length =
      (SizedString.sized buffer buffer.length).text.length := by
  simp only [SizedString.sized, SizedString.ofBuffer, SizedString.whole]
  exact Nat.min_eq_right (List.takeWhile_prefix _).length_le

theorem length_scannedString {content : Bytes} {index maxLen : Nat}
    (width : credentialFileFormat[index]? = some maxLen) :
    (scannedString content index []).length ≤ maxLen := by
  refine Nat.le_trans (Nat.min_le_left _ _) ?_
  cases scans : (scanStrings credentialFileFormat content)[index]? with
  | none => simp
  | some token =>
      obtain ⟨other, isOther, short⟩ := length_scanStrings scans
      cases width.symm.trans isOther
      exact short

theorem authLen_scannedString {content : Bytes} {index : Nat} :
    (scannedString content index []).authLen ≤
      (scannedString content index []).length := by
  have same := length_sized
    ((scanStrings credentialFileFormat content)[index]?.getD [])
  rw [SizedString.authLen]
  split
  · rw [scannedString, ← same]
    exact Nat.min_le_left _ _
  · exact Nat.le_refl _

theorem text_scannedString_ne_nil {content : Bytes} {index : Nat}
    (nonempty : (scannedString content index []).length ≠ 0) :
    (scannedString content index []).text ≠ [] := by
  rw [scannedString, length_sized] at nonempty
  exact List.ne_nil_of_length_pos (Nat.pos_of_ne_zero nonempty)

/-- The file has a fourth string, but no fifth one. -/
def EndsBehindSecretKey (content : Bytes) : Prop :=
  (scannedString content 3 []).text ≠ [] ∧
    (scannedString content 4 []).text = []

instance (content : Bytes) : Decidable (EndsBehindSecretKey content) :=
  inferInstanceAs (Decidable (_ ∧ _))

theorem FileCall.file_of_read {time : TimeEnv} {durations : TokenDurations}
    {call : FileCall} {arguments : Arguments}
    (reads : call.read time durations = .ok arguments) :
    ∃ content, call.file = some content := by
  simp only [FileCall.read, bind_eq_ok, checkSome_eq_ok] at reads
  obtain ⟨content, file, -⟩ := reads
  exact ⟨content, file⟩

theorem FileCall.read_eq_ok {time : TimeEnv} {durations : TokenDurations}
    {call : FileCall} {content : Bytes} {arguments : Arguments}
    (file : call.file = some content)
    (reads : call.read time durations = .ok arguments) :
    arguments.accessKeyId = scannedString content 1 [] ∧
      arguments.accessKeyId.length ≠ 0 ∧ arguments.secretKey.length ≠ 0 ∧
      ((scannedString content 3 []).text = [] ∧
          arguments.secretKey = scannedString content 2 [] ∧
          arguments.sessionToken = .null 0 ∨
        (scannedString content 3 []).text ≠ [] ∧
          arguments.secretKey = scannedString content 3 [] ∧
          arguments.sessionToken = .token (scannedString content 4 [])) := by
  simp only [FileCall.read, file, bind_eq_ok, checkSome_eq_ok, check_eq_ok,
    Except.ok.injEq] at reads
  obtain ⟨_, ⟨⟩, _, -, _, -, expiration, -, _, ⟨hasId, hasKey⟩, rfl⟩ := reads
  refine ⟨rfl, hasId, hasKey, ?_⟩
  by_cases short : (scannedString content 3 []).text = []
  · left
    simp [short]
  · right
    simp [short]

theorem size_scanned_lt {content : Bytes} {index maxLen : Nat}
    (width : credentialFileFormat[index]? = some maxLen)
    (secret : maxLen ≤ MAX_SECRET_KEY_LEN) {token : Option SizedString}
    (isToken : ∀ string ∈ token, string = scannedString content 4 []) :
    awsCredentialsSize (scannedString content 1 []).authLen
      (scannedString content index []).authLen (token.map (·.authLen)) <
      MAX_AUTH_LEN := by
  have id := Nat.le_trans authLen_scannedString
    (@length_scannedString content 1 MAX_ACCESS_KEY_LEN rfl)
  have key := Nat.le_trans authLen_scannedString
    (@length_scannedString content index maxLen width)
  have session := Nat.le_trans authLen_scannedString
    (@length_scannedString content 4 MAX_SESSION_TOKEN_LEN rfl)
  simp only [MAX_ACCESS_KEY_LEN, MAX_SECRET_KEY_LEN, MAX_SESSION_TOKEN_LEN] at *
  cases token with
  | none =>
      simp only [awsCredentialsSize, SIZEOF_AWS_CREDENTIALS, MAX_AUTH_LEN,
        Option.map_none]
      omega
  | some string =>
      rw [isToken string rfl]
      simp only [awsCredentialsSize, SIZEOF_AWS_CREDENTIALS, MAX_AUTH_LEN,
        Option.map_some]
      omega

theorem FileCall.size_lt {time : TimeEnv} {durations : TokenDurations}
    {call : FileCall} {content : Bytes} {arguments : Arguments}
    (file : call.file = some content)
    (reads : call.read time durations = .ok arguments) :
    awsCredentialsSize arguments.accessKeyId.authLen arguments.secretKey.authLen
      (arguments.sessionToken.string.map (·.authLen)) < MAX_AUTH_LEN := by
  obtain ⟨isId, -, -, third | fourth⟩ := FileCall.read_eq_ok file reads
  · obtain ⟨-, isKey, isToken⟩ := third
    rw [isId, isKey, isToken]
    exact @size_scanned_lt content 2 MAX_EXPIRATION_LEN rfl (Nat.le_refl _)
      none (by simp)
  · obtain ⟨-, isKey, isToken⟩ := fourth
    rw [isId, isKey, isToken]
    refine @size_scanned_lt content 3 MAX_SECRET_KEY_LEN rfl (Nat.le_refl _)
      (some (scannedString content 4 [])) ?_
    intro string same
    exact (Option.some.inj same).symm

/-- What has been read from a file is refused only without memory, or for an
empty session token. -/
theorem FileCall.constructible_iff {time : TimeEnv} {durations : TokenDurations}
    {call : FileCall} {content : Bytes} {arguments : Arguments}
    (file : call.file = some content)
    (reads : call.read time durations = .ok arguments) :
    Constructible call.allocated arguments ↔
      call.allocated = true ∧ ¬ EndsBehindSecretKey content := by
  have size := FileCall.size_lt file reads
  obtain ⟨isId, hasId, hasKey, third | fourth⟩ := FileCall.read_eq_ok file reads
  · obtain ⟨short, isKey, isToken⟩ := third
    rw [isId] at hasId
    rw [isKey] at hasKey
    constructor
    · intro constructible
      exact ⟨constructible.allocated, fun ends => ends.1 short⟩
    · rintro ⟨hasMemory, -⟩
      constructor
      case allocated => exact hasMemory
      case nullLen => rw [isToken]; rfl
      case accessKeyId => exact isId ▸ text_scannedString_ne_nil hasId
      case secretKey => exact isKey ▸ text_scannedString_ne_nil hasKey
      case sessionToken => simp [isToken, SessionToken.string]
      case size_lt => exact size
  · obtain ⟨long, isKey, isToken⟩ := fourth
    rw [isId] at hasId
    rw [isKey] at hasKey
    constructor
    · intro constructible
      have token := constructible.sessionToken (scannedString content 4 [])
        (by rw [isToken]; rfl)
      exact ⟨constructible.allocated, fun ends => token ends.2⟩
    · rintro ⟨hasMemory, goesOn⟩
      constructor
      case allocated => exact hasMemory
      case nullLen => rw [isToken]; rfl
      case accessKeyId => exact isId ▸ text_scannedString_ne_nil hasId
      case secretKey => exact isKey ▸ text_scannedString_ne_nil hasKey
      case sessionToken =>
          rw [isToken]
          rintro _ ⟨⟩
          exact fun empty => goesOn ⟨long, empty⟩
      case size_lt => exact size

/-! ### The strings of the response -/

/-- What the response has behind the last string that is taken for the name of
a field. -/
def IotCall.valueOf (time : TimeEnv) (durations : TokenDurations)
    (call : IotCall) (field : IotField) : Option SizedString :=
  (lastNamed call.response field).map
    (·.string (call.environment time durations) call.response)

/-- There is no memory, or one of the strings is empty, or they are too long
together. -/
def IotCall.HasUnfit (time : TimeEnv) (durations : TokenDurations)
    (call : IotCall) : Prop :=
  call.allocated = false ∨
    ∃ accessKeyId secretKey sessionToken,
      call.valueOf time durations .accessKeyId = some accessKeyId ∧
      call.valueOf time durations .secretKey = some secretKey ∧
      call.valueOf time durations .sessionToken = some sessionToken ∧
      (accessKeyId.text = [] ∨ secretKey.text = [] ∨ sessionToken.text = [] ∨
        MAX_AUTH_LEN ≤ awsCredentialsSize accessKeyId.authLen
          secretKey.authLen (some sessionToken.authLen))

theorem readIotResponse_ok {env : IotEnvironment} {js : Bytes}
    {fields : IotFields} {arguments : Arguments}
    (reads : readIotResponse env js = .ok (fields, arguments)) :
    (∀ field, fields field = lastNamed js field) ∧
      (∃ expiration,
        env.convertTimestampToEpoch (expirationTimestampStr env js fields)
            (env.currentTime / HUNDREDS_OF_NANOS_IN_A_SECOND) =
          .ok expiration ∧
        arguments.expiration = min expiration
          ((env.currentTime + env.maxEnforcedDuration) % 2 ^ 64)) ∧
      (∃ accessKeyId ∈ fields .accessKeyId,
        arguments.accessKeyId = accessKeyId.string env js) ∧
      (∃ secretKey ∈ fields .secretKey,
        arguments.secretKey = secretKey.string env js) ∧
      ∃ sessionToken ∈ fields .sessionToken,
        arguments.sessionToken = .token (sessionToken.string env js) := by
  simp only [readIotResponse, bind_eq_ok, check_eq_ok, checkSome_eq_ok,
    Except.ok.injEq, Prod.mk.injEq] at reads
  obtain ⟨_, -, _, -, _, object, _, scans, accessKeyId, hasId, secretKey, hasKey,
    sessionToken, hasToken, expiration, converts, rfl, rfl⟩ := reads
  rw [parsedTokens_eq object] at scans
  refine ⟨fun field => ?_, ⟨expiration, converts, rfl⟩,
    ⟨accessKeyId, hasId, rfl⟩, ⟨secretKey, hasKey, rfl⟩,
    ⟨sessionToken, hasToken, rfl⟩⟩
  exact ((scanIotResponse_ok scans).1 field).trans (Option.or_none ..)

/-- What has been read from a response is refused for what it is. -/
theorem IotCall.constructible_iff {time : TimeEnv} {durations : TokenDurations}
    {call : IotCall} {arguments : Arguments}
    (reads : call.read time durations = .ok arguments) :
    Constructible call.allocated arguments ↔
      ¬ call.HasUnfit time durations := by
  simp only [IotCall.read, bind_eq_ok, Except.ok.injEq, Prod.exists] at reads
  obtain ⟨_, -, _, -, fields, _, reads, rfl⟩ := reads
  obtain ⟨found, -, ⟨id, hasId, isId⟩, ⟨key, hasKey, isKey⟩,
    ⟨token, hasToken, isToken⟩⟩ := readIotResponse_ok reads
  rw [found] at hasId hasKey hasToken
  have value (field : IotField) (named : NamedToken)
      (has : named ∈ lastNamed call.response field) :
      call.valueOf time durations field =
        some (named.string (call.environment time durations)
          call.response) := by
    rw [IotCall.valueOf, Option.mem_def.mp has, Option.map_some]
  simp only [IotCall.HasUnfit, value _ _ hasId, value _ _ hasKey,
    value _ _ hasToken, Option.some.injEq, ← isId, ← isKey, exists_eq_left',
    exists_and_left, not_or, Bool.not_eq_false, Nat.not_le]
  constructor
  · intro constructible
    obtain ⟨hasMemory, -, hasId, hasKey, hasToken, size⟩ := constructible
    rw [isToken] at hasToken size
    exact ⟨hasMemory, hasId, hasKey, hasToken _ rfl, size⟩
  · intro fit
    obtain ⟨hasMemory, hasId, hasKey, hasToken, size⟩ := fit
    constructor
    case allocated => exact hasMemory
    case nullLen => rw [isToken]; rfl
    case accessKeyId => exact hasId
    case secretKey => exact hasKey
    case sessionToken =>
        rw [isToken]
        intro string same
        exact Option.some.inj same ▸ hasToken
    case size_lt =>
        rw [isToken]
        exact size

/-! ### Refreshes -/

/-- What makes the constructor fail after the checks that come before it. -/
def CredentialCall.Refused (time : TimeEnv) (durations : TokenDurations) :
    CredentialCall → Prop
  | .iot call => (call.read time durations).isOk = true ∧
      call.HasUnfit time durations
  | .file call => ∃ content ∈ call.file,
      (call.read time durations).isOk = true ∧
        (call.allocated = false ∨ EndsBehindSecretKey content)

/-- A call of a provider that holds credentials keeps them when it fails exactly
if they are not stale, or the constructor is not what fails. -/
theorem failedRefresh_keeps_iff (time : TimeEnv) (durations : TokenDurations)
    {provider : CredentialProvider} {held : HeldCredentials}
    (holds : provider.pAwsCredentials = some held) (call : CredentialCall) :
    KeepsOnFailure provider (call.getCredentials time durations provider) ↔
      ¬ (provider.isStale durations call.clock = true ∧
        call.Refused time durations) := by
  rw [CredentialCall.getCredentials_eq]
  by_cases stale : provider.isStale durations call.clock = true
  · rw [if_pos stale, replace_keeps_iff holds, and_iff_right stale]
    cases call with
    | iot call =>
        simp only [CredentialCall.Refused, CredentialCall.read,
          CredentialCall.allocated]
        constructor
        · intro constructs refused
          obtain ⟨reads, unfit⟩ := refused
          obtain ⟨arguments, reads⟩ := isOk_iff.mp reads
          exact (IotCall.constructible_iff reads).mp
            (constructs arguments reads) unfit
        · intro accepted arguments reads
          rw [IotCall.constructible_iff reads]
          intro unfit
          exact accepted ⟨isOk_iff.mpr ⟨arguments, reads⟩, unfit⟩
    | file call =>
        simp only [CredentialCall.Refused, CredentialCall.read,
          CredentialCall.allocated]
        constructor
        · rintro constructs ⟨content, file, reads, refused⟩
          obtain ⟨arguments, reads⟩ := isOk_iff.mp reads
          have accepted := (FileCall.constructible_iff file reads).mp
            (constructs arguments reads)
          rcases refused with noMemory | ends
          · rw [accepted.1] at noMemory
            cases noMemory
          · exact accepted.2 ends
        · intro accepted arguments reads
          obtain ⟨content, file⟩ := FileCall.file_of_read reads
          rw [FileCall.constructible_iff file reads]
          by_contra refused
          rw [not_and_or, not_not, Bool.not_eq_true] at refused
          exact accepted
            ⟨content, file, isOk_iff.mpr ⟨arguments, reads⟩, refused⟩
  · simp [KeepsOnFailure, stale, Except.isOk, Except.toBool]

/-! ### Some calls -/

/-- Half a minute, three minutes and forty minutes. -/
def sampleDurations : TokenDurations where
  minStreamingTokenExpiration := 300000000
  streamingTokenExpirationGracePeriod := 1800000000
  maxEnforcedTokenExpiration := 24000000000
  grace_lt := by decide

instance neZero_daySeconds : NeZero 86400 := ⟨by decide⟩

/-- The given number of seconds after 2019-01-31 22:00:59. -/
def sampleClock (seconds : Fin 86400) : ClockReading where
  time := (1548972059 + seconds.val) * 10000000
  time_lt := by
    have day := seconds.isLt
    omega

def sampleFileCall (seconds : Fin 86400) (content : String) :
    CredentialCall :=
  .file
    { clock := sampleClock seconds
      file := some (bytes content)
      uninitialised := []
      allocated := true }

/-- A call with the given response. -/
def sampleIotCall (seconds : Fin 86400) (allocated : Bool) (response : Bytes)
    (response_lt : response.length < 2 ^ 32) : CredentialCall :=
  .iot
    { configuration :=
        { iotGetCredentialEndpoint := bytes "endpoint"
          roleAlias := bytes "role" }
      clock := sampleClock seconds
      requested := .ok ()
      response := response
      response_lt := response_lt
      responseClock := sampleClock seconds
      beyond := .whole [] List.not_mem_nil
      uninitialised := []
      allocated := allocated }

/-- `sampleMembers`, with the expiration of the test in its place. -/
def sampleDated : Bytes :=
  sampleResponse (sampleMembers.take 3 ++
    [("expiration", "2019-01-31T23:00:59Z")])

theorem length_sampleDated : sampleDated.length = 108 := by decide +kernel

theorem sampleDated_lt : sampleDated.length < 2 ^ 32 := by
  rw [length_sampleDated]
  omega

/-- The provider after its first call. -/
def sampleProvider : CredentialProvider :=
  ((sampleFileCall 0 "CREDENTIALS AKID SECRET").getCredentials sampleTimeEnv
    sampleDurations .initial).2

theorem sampleProvider_holds :
    ∃ held, sampleProvider.pAwsCredentials = some held := by
  have holds : sampleProvider.pAwsCredentials.isSome = true := by
    decide +kernel
  exact Option.isSome_iff_exists.mp holds

theorem noResponse_lt : ([] : Bytes).length < 2 ^ 32 := Nat.two_pow_pos 32

/-- Almost an hour later, there is no response. -/
def sampleUnanswered : CredentialCall :=
  sampleIotCall 3500 true [] noResponse_lt

theorem failedRefresh_keeps_sample :
    KeepsOnFailure sampleProvider (sampleUnanswered.getCredentials sampleTimeEnv
      sampleDurations sampleProvider) := by
  obtain ⟨held, holds⟩ := sampleProvider_holds
  rw [failedRefresh_keeps_iff sampleTimeEnv sampleDurations holds]
  intro refused
  obtain ⟨-, reads, -⟩ := refused
  have fails : (sampleUnanswered.read sampleTimeEnv sampleDurations).isOk =
      false := by
    decide +kernel
  rw [sampleUnanswered, sampleIotCall, CredentialCall.read, reads] at fails
  cases fails

/-- A call that fails leaves nothing to return. -/
def Loses (provider : CredentialProvider)
    (outcome : Result Unit × CredentialProvider) : Prop :=
  provider.pAwsCredentials.isSome = true ∧ outcome.1.isOk = false ∧
    outcome.2.pAwsCredentials.isSome = false

theorem Loses.not_keeps {provider : CredentialProvider}
    {outcome : Result Unit × CredentialProvider}
    (loses : Loses provider outcome) : ¬ KeepsOnFailure provider outcome := by
  obtain ⟨holds, fails, gone⟩ := loses
  intro keeps
  rw [keeps fails, holds] at gone
  cases gone

/-- The credentials are lost when the session token is missing in the file, and
when there is no memory for the new object. -/
theorem failedRefresh_loses :
    ¬ KeepsOnFailure sampleProvider
        ((sampleFileCall 3500
          "CREDENTIALS AKID 2019-01-31T23:00:59Z SECRET").getCredentials
            sampleTimeEnv sampleDurations sampleProvider) ∧
      ¬ KeepsOnFailure sampleProvider
        ((sampleIotCall 3500 false sampleDated sampleDated_lt).getCredentials
          sampleTimeEnv sampleDurations sampleProvider) := by
  constructor
  · apply Loses.not_keeps
    refine ⟨?_, ?_, ?_⟩ <;> decide +kernel
  · apply Loses.not_keeps
    refine ⟨?_, ?_, ?_⟩ <;> decide +kernel

end Common

end KvsProducer
