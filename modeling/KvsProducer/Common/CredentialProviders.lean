import KvsProducer.Common.IotResponse
import KvsProducer.Common.Timestamp

/-!
# The IoT and the file credential provider

`getIotCredentials` and `getFileCredentials` return the credentials that the
provider holds while they last, and otherwise replace them: the old object is
freed, then the new one is constructed.  A call is given by what it finds in its
environment.
-/

namespace KvsProducer

namespace Common

/-- PIC's durations.  The grace period is far below the range of the clock. -/
structure TokenDurations where
  minStreamingTokenExpiration : Nat
  streamingTokenExpirationGracePeriod : Nat
  maxEnforcedTokenExpiration : Nat
  grace_lt : 5 * HUNDREDS_OF_NANOS_IN_A_SECOND + minStreamingTokenExpiration +
    streamingTokenExpirationGracePeriod < 2 ^ 63
  deriving Repr

/-- `IOT_CREDENTIAL_FETCH_GRACE_PERIOD`, and `CREDENTIAL_FILE_READ_GRACE_PERIOD`
as well -/
def TokenDurations.gracePeriod (durations : TokenDurations) : Nat :=
  5 * HUNDREDS_OF_NANOS_IN_A_SECOND + durations.minStreamingTokenExpiration +
    durations.streamingTokenExpirationGracePeriod

/-- A reading of the clock. -/
structure ClockReading where
  time : Nat
  time_lt : time < 2 ^ 63
  deriving Repr

/-- `currentTime + MAX_ENFORCED_TOKEN_EXPIRATION_DURATION` -/
def TokenDurations.latest (durations : TokenDurations) (clock : ClockReading) :
    Nat :=
  (clock.time + durations.maxEnforcedTokenExpiration) % 2 ^ 64

/-! ### The object that a provider holds -/

/-- A live credentials object; no two allocations have the same identity. -/
structure HeldCredentials where
  object : Nat
  credentials : AwsCredentials

/-- A provider, and the identity of the next allocation. -/
structure CredentialProvider where
  pAwsCredentials : Option HeldCredentials
  allocations : Nat

namespace CredentialProvider

def initial : CredentialProvider :=
  { pAwsCredentials := none
    allocations := 0 }

/-- `freeAwsCredentials` of the field, which it sets to `NULL` -/
def freeAwsCredentials (provider : CredentialProvider) : CredentialProvider :=
  { provider with pAwsCredentials := none }

def store (provider : CredentialProvider) (credentials : AwsCredentials) :
    CredentialProvider :=
  { pAwsCredentials :=
      some
        { object := provider.allocations
          credentials := credentials }
    allocations := provider.allocations + 1 }

/-- The credentials have to be replaced. -/
def isStale (provider : CredentialProvider) (durations : TokenDurations)
    (clock : ClockReading) : Bool :=
  match provider.pAwsCredentials with
  | none => true
  | some held =>
      decide (held.credentials.expiration <
        (clock.time + durations.gracePeriod) % 2 ^ 64)

/-- The arguments of `createAwsCredentials`. -/
structure Arguments where
  accessKeyId : SizedString
  secretKey : SizedString
  sessionToken : SessionToken
  expiration : Nat

/-- The end of a refresh: what has been read takes the place of what is held. -/
def replace (provider : CredentialProvider) (allocated : Bool)
    (read : Result Arguments) : Result Unit × CredentialProvider :=
  match read with
  | .error fault => (.error fault, provider)
  | .ok arguments =>
      match createAwsCredentials allocated (some arguments.accessKeyId)
          (some arguments.secretKey) arguments.sessionToken
          arguments.expiration with
      | .error fault => (.error fault, provider.freeAwsCredentials)
      | .ok credentials =>
          (.ok (), provider.freeAwsCredentials.store credentials)

end CredentialProvider

open CredentialProvider (Arguments)

/-! ### The IoT provider -/

def STATUS_IOT_INVALID_URI_LEN : ErrorCode := .other (STATUS_COMMON_BASE + 4)

/-- The fields of `IotCredentialProvider` that the refresh formats. -/
structure IotConfiguration where
  iotGetCredentialEndpoint : Bytes
  roleAlias : Bytes

def IotConfiguration.serviceUrl (configuration : IotConfiguration) : Bytes :=
  bytes "https://" ++ configuration.iotGetCredentialEndpoint ++
    bytes "/role-aliases" ++ bytes "/" ++ configuration.roleAlias ++
    bytes "/credentials"

/-- What a call of `getIotCredentials` finds: the two readings of the clock,
whether the request could be made and the service called, the response, and what
is in memory behind the tokens and in the buffer for the timestamp. -/
structure IotCall where
  configuration : IotConfiguration
  clock : ClockReading
  requested : Except ErrorCode Unit
  response : Bytes
  response_lt : response.length < 2 ^ 32
  responseClock : ClockReading
  beyond : SizedString
  uninitialised : Bytes
  allocated : Bool

section Iot

variable (time : TimeEnv) (durations : TokenDurations)

/-- The environment in which the response is parsed. -/
def IotCall.environment (call : IotCall) : IotEnvironment where
  beyond := call.beyond
  uninitialised := call.uninitialised
  currentTime := call.responseClock.time
  maxEnforcedDuration := durations.maxEnforcedTokenExpiration
  convertTimestampToEpoch := convertTimestampToEpoch time
  allocated := call.allocated

/-- `parseIotResponse` up to the call of `freeAwsCredentials`, with the
expiration that is computed behind it. -/
def readIotResponse (env : IotEnvironment) (js : Bytes) :
    Result (IotFields × Arguments) := do
  check (0 < js.length) .iotInvalidResponseLength
  let tokens := (jsmnParse MAX_JSON_TOKEN_COUNT js).toOption.getD []
  check (1 < tokens.length) .invalidApiCallReturnJson
  check ((tokens.head?.map (·.type)) = some .object) .invalidApiCallReturnJson
  let fields ← scanIotResponse env js (fun _ => none) tokens.tail
  let accessKeyId ← checkSome .iotNullAwsCreds (fields .accessKeyId)
  let secretKey ← checkSome .iotNullAwsCreds (fields .secretKey)
  let sessionToken ← checkSome .iotNullAwsCreds (fields .sessionToken)
  let expiration ← env.convertTimestampToEpoch
    (expirationTimestampStr env js fields)
    (env.currentTime / HUNDREDS_OF_NANOS_IN_A_SECOND)
  .ok
    (fields,
      { accessKeyId := accessKeyId.string env js
        secretKey := secretKey.string env js
        sessionToken := .token (sessionToken.string env js)
        expiration := min expiration
          ((env.currentTime + env.maxEnforcedDuration) % 2 ^ 64) })

/-- The response is parsed in two parts. -/
theorem parseIotResponse_eq {env : IotEnvironment} {js : Bytes} :
    (do
        let accepted ← parseIotResponse env js
        .ok accepted.credentials) =
      (do
        let (_, arguments) ← readIotResponse env js
        createAwsCredentials env.allocated (some arguments.accessKeyId)
          (some arguments.secretKey) arguments.sessionToken
          arguments.expiration) := by
  have ends (result : Result AwsCredentials) :
      (result >>= fun credentials => .ok credentials) = result :=
    bind_pure result
  simp only [parseIotResponse, readIotResponse, bind_assoc, ok_bind, ends]

/-- The arguments that a refresh gets from the response. -/
def IotCall.read (call : IotCall) : Result Arguments := do
  let url := call.configuration.serviceUrl
  check (0 < url.length ∧ url.length < MAX_URI_CHAR_LEN)
    STATUS_IOT_INVALID_URI_LEN
  checkStatus call.requested
  let (_, arguments) ←
    readIotResponse (call.environment time durations) call.response
  .ok arguments

/-- `getIotCredentials` -/
def IotCall.getCredentials (call : IotCall) (provider : CredentialProvider) :
    Result Unit × CredentialProvider :=
  if provider.isStale durations call.clock then
    provider.replace call.allocated (call.read time durations)
  else (.ok (), provider)

end Iot

/-! ### The file provider -/

def STATUS_FILE_CREDENTIAL_PROVIDER_OPEN_FILE_FAILED : ErrorCode :=
  .other (STATUS_COMMON_PRODUCER_BASE + 0x22)
def STATUS_FILE_CREDENTIAL_PROVIDER_INVALID_FILE_LENGTH : ErrorCode :=
  .other (STATUS_COMMON_PRODUCER_BASE + 0x23)

def MAX_CREDENTIAL_FILE_LEN : Nat := MAX_AUTH_LEN

/-- `isspace` in the C locale -/
def isSpace (c : UInt8) : Bool := c == 32 || (9 ≤ c && c ≤ 13)

/-- The conversion `%Ns` of `FSCANF`: as many bytes as there are before a
whitespace, with what is left of the input. -/
def scanString (maxLen : Nat) (input : Bytes) : Option (Bytes × Bytes) :=
  let rest := input.dropWhile isSpace
  if rest = [] then none
  else
    let token := (rest.take maxLen).takeWhile fun c => !isSpace c
    some (token, rest.drop token.length)

/-- The conversions of a format, up to the first one that fails. -/
def scanStrings : (maxLens : List Nat) → (input : Bytes) → List Bytes
  | [], _ => []
  | maxLen :: maxLens, input =>
      match scanString maxLen input with
      | none => []
      | some (token, rest) => token :: scanStrings maxLens rest

/-- The widths of the conversions in `readFileCredentials`. -/
def credentialFileFormat : List Nat :=
  [11, MAX_ACCESS_KEY_LEN, MAX_EXPIRATION_LEN, MAX_SECRET_KEY_LEN,
    MAX_SESSION_TOKEN_LEN]

/-- A buffer after the conversions, where `initial` is what it held before. -/
def scannedString (content : Bytes) (index : Nat) (initial : Bytes) :
    SizedString :=
  let buffer := (scanStrings credentialFileFormat content)[index]?.getD initial
  .sized buffer buffer.length

/-- What a call of `getFileCredentials` finds: the clock, the file if it can be
opened, and what is in memory in the buffer for the marker. -/
structure FileCall where
  clock : ClockReading
  file : Option Bytes
  uninitialised : Bytes
  allocated : Bool

section File

variable (time : TimeEnv) (durations : TokenDurations)

/-- The expiration before it is limited, where `expirationStr` may be `NULL`. -/
def FileCall.expiration (call : FileCall) (expirationStr : Option Bytes) :
    Result Nat :=
  match expirationStr with
  | none => .ok (durations.latest call.clock)
  | some timestamp =>
      convertTimestampToEpoch time timestamp
        (call.clock.time / HUNDREDS_OF_NANOS_IN_A_SECOND)

/-- The arguments that a refresh gets from the file. -/
def FileCall.read (call : FileCall) : Result Arguments := do
  let content ←
    checkSome STATUS_FILE_CREDENTIAL_PROVIDER_OPEN_FILE_FAILED call.file
  check (content.length < MAX_CREDENTIAL_FILE_LEN)
    STATUS_FILE_CREDENTIAL_PROVIDER_INVALID_FILE_LENGTH
  let credentialMarker := scannedString content 0 call.uninitialised
  let accessKeyId := scannedString content 1 []
  let thirdTokenStr := scannedString content 2 []
  let fourthTokenStr := scannedString content 3 []
  let fifthTokenStr := scannedString content 4 []
  let short := fourthTokenStr.text = []
  let expirationStr := if short then none else some thirdTokenStr.text
  let secretKey := if short then thirdTokenStr else fourthTokenStr
  let sessionToken : SessionToken :=
    if short then .null 0 else .token fifthTokenStr
  check (credentialMarker.text = bytes "CREDENTIALS") .invalidFileFormat
  let expiration ← call.expiration time durations expirationStr
  check (accessKeyId.length ≠ 0 ∧ secretKey.length ≠ 0) .invalidAuthLen
  .ok
    { accessKeyId := accessKeyId
      secretKey := secretKey
      sessionToken := sessionToken
      expiration := min expiration (durations.latest call.clock) }

/-- `getFileCredentials` -/
def FileCall.getCredentials (call : FileCall) (provider : CredentialProvider) :
    Result Unit × CredentialProvider :=
  if provider.isStale durations call.clock then
    provider.replace call.allocated (call.read time durations)
  else (.ok (), provider)

end File

/-! ### Calls of either provider -/

/-- A call of `getCredentialsFn` of a provider. -/
inductive CredentialCall where
  | iot (call : IotCall)
  | file (call : FileCall)

namespace CredentialCall

/-- The reading of the clock that is compared with the expiration of what is
held. -/
def clock : CredentialCall → ClockReading
  | .iot call => call.clock
  | .file call => call.clock

/-- The reading of the clock that the new expiration is computed from. -/
def refreshClock : CredentialCall → ClockReading
  | .iot call => call.responseClock
  | .file call => call.clock

def allocated : CredentialCall → Bool
  | .iot call => call.allocated
  | .file call => call.allocated

def read (time : TimeEnv) (durations : TokenDurations) :
    CredentialCall → Result Arguments
  | .iot call => call.read time durations
  | .file call => call.read time durations

def getCredentials (time : TimeEnv) (durations : TokenDurations)
    (provider : CredentialProvider) :
    CredentialCall → Result Unit × CredentialProvider
  | .iot call => call.getCredentials time durations provider
  | .file call => call.getCredentials time durations provider

theorem getCredentials_eq (time : TimeEnv) (durations : TokenDurations)
    (provider : CredentialProvider) (call : CredentialCall) :
    call.getCredentials time durations provider =
      if provider.isStale durations call.clock then
        provider.replace call.allocated (call.read time durations)
      else (.ok (), provider) := by
  cases call <;> rfl

end CredentialCall

end Common

end KvsProducer
