import KvsProducer.Common.ApiRequest
import KvsProducer.Common.CredentialsObject
import KvsProducer.Common.Timestamp
import KvsProducer.DescribeStream
import KvsProducer.Lib.Decimal

/-!
# The API calls up to their request

An API call prints its parameters, looks at the credentials, puts its URL
together and creates its request.  The URL starts with the one that
`createCurlApiCallbacks` has stored or, for a call that streams, with the
endpoint that PIC passes on from the endpoint handler.
-/

namespace KvsProducer

namespace Common

def STATUS_INVALID_AWS_CREDENTIALS_VERSION : ErrorCode :=
  .other (STATUS_COMMON_PRODUCER_BASE + 8)

/-! ### The URL of the control plane -/

def DEFAULT_AWS_REGION : CString := ⟨bytes "us-west-2", by decide⟩
def CONTROL_PLANE_URI_PREFIX : CString := ⟨bytes "https://", by decide⟩
def CONTROL_PLANE_SERVICE : CString := ⟨bytes "kinesisvideo.", by decide⟩
def CONTROL_PLANE_URI_POSTFIX : CString := ⟨bytes ".amazonaws.com", by decide⟩
def CN_REGION_URI_POSTFIX : CString := ⟨bytes ".cn", by decide⟩

/-- The arguments of `createCurlApiCallbacks` that a request is built from, and
what `getUserAgentString` prints. -/
structure CallbacksSettings where
  region : Option CString
  controlPlaneUrl : Option CString
  userAgent : CString

namespace CallbacksSettings

variable (settings : CallbacksSettings)

/-- An argument that is neither `NULL` nor empty. -/
def given (argument : Option CString) : Option CString :=
  argument.filter fun text => text.val ≠ []

def storedRegion : CString :=
  match given settings.region with
  | none => DEFAULT_AWS_REGION
  | some region => region.strncpy MAX_REGION_NAME_LEN

/-- The URL that is printed when the caller gives none. -/
def defaultUrl : CString :=
  let printed := (((CONTROL_PLANE_URI_PREFIX.append
    CONTROL_PLANE_SERVICE).append settings.storedRegion).append
      CONTROL_PLANE_URI_POSTFIX).strncpy (MAX_URI_CHAR_LEN - 1)
  if bytes "cn-" <:+: settings.storedRegion.val then
    printed.append CN_REGION_URI_POSTFIX
  else printed

def storedUrl : CString :=
  match given settings.controlPlaneUrl with
  | none => settings.defaultUrl.strncpy MAX_URI_CHAR_LEN
  | some url => url.strncpy MAX_URI_CHAR_LEN

end CallbacksSettings

theorem CString.length_strncpy_le (text : CString) (size : Nat) :
    (text.strncpy size).val.length ≤ size :=
  List.length_take_le _ _

theorem CallbacksSettings.length_storedRegion_le (settings : CallbacksSettings) :
    settings.storedRegion.val.length ≤ MAX_REGION_NAME_LEN := by
  unfold storedRegion
  split
  · decide
  · exact CString.length_strncpy_le _ _

theorem CallbacksSettings.length_storedUrl_le (settings : CallbacksSettings) :
    settings.storedUrl.val.length ≤ MAX_URI_CHAR_LEN := by
  unfold storedUrl
  split <;> exact CString.length_strncpy_le _ _

/-- `createCurlApiCallbacks`, with the result of its checks of the other
arguments and of what it allocates. -/
def createCurlApiCallbacks (settings : CallbacksSettings)
    (others : Except ErrorCode Unit) : Except ErrorCode CurlApiCallbacks := do
  others
  .ok
    { region := settings.storedRegion
      userAgent := settings.userAgent.strncpy MAX_USER_AGENT_LEN
      controlPlaneUrl := settings.storedUrl
      region_le := settings.length_storedRegion_le
      userAgent_le := CString.length_strncpy_le _ _
      controlPlaneUrl_le := settings.length_storedUrl_le }

theorem createCurlApiCallbacks_controlPlaneUrl {settings : CallbacksSettings}
    {others : Except ErrorCode Unit} {client : CurlApiCallbacks} {url : CString}
    (creates : createCurlApiCallbacks settings others = .ok client)
    (given : CallbacksSettings.given settings.controlPlaneUrl = some url)
    (short : url.val.length ≤ MAX_URI_CHAR_LEN) :
    client.controlPlaneUrl = url := by
  cases others with
  | error status => cases creates
  | ok accepted =>
      cases creates
      apply Subtype.ext
      simp only [CallbacksSettings.storedUrl, given]
      exact List.take_of_length_le short

/-! ### The calls -/

/-- PIC's limits on what it passes to the calls. -/
structure ApiLimits where
  maxDeviceNameLen : Nat
  maxStreamNameLen : Nat
  maxContentTypeLen : Nat
  maxArnLen : Nat
  maxApiNameLen : Nat
  maxTagCount : Nat
  maxTagNameLen : Nat
  maxTagValueLen : Nat
  deriving Repr

def MAX_JSON_KMS_KEY_ID_STRING_LEN (limits : ApiLimits) : Nat :=
  limits.maxArnLen + 100

def MAX_TAGS_JSON_PARAMETER_STRING_LEN (limits : ApiLimits) : Nat :=
  MAX_JSON_PARAMETER_STRING_LEN +
    limits.maxTagCount * (limits.maxTagNameLen + limits.maxTagValueLen)

structure Tag where
  name : CString
  value : CString

theorem ultostr_eq_spell (value : Nat) : ultostr value = Decimal.spell value :=
  rfl

/-- `CREATE_STREAM_PARAM_JSON_TEMPLATE` -/
def createStreamParams (deviceName streamName contentType kmsKey : Bytes)
    (retentionInHours : Nat) : Bytes :=
  bytes "\x7b\n\t\"DeviceName\": \"" ++ deviceName ++
    bytes "\",\n\t\"StreamName\": \"" ++ streamName ++
    bytes "\",\n\t\"MediaType\": \"" ++ contentType ++ bytes "\",\n\t" ++
    kmsKey ++ bytes "\"DataRetentionInHours\": " ++ ultostr retentionInHours ++
    bytes "\n\x7d"

/-- `KMS_KEY_PARAM_JSON_TEMPLATE` -/
def kmsKeyParams (kmsKeyId : Bytes) : Bytes :=
  bytes "\"KmsKeyId\": \"" ++ kmsKeyId ++ bytes "\",\n\t"

/-- `DESCRIBE_STREAM_PARAM_JSON_TEMPLATE` -/
def describeStreamParams (streamName : Bytes) : Bytes :=
  bytes "\x7b\n\t\"StreamName\": \"" ++ streamName ++ bytes "\"\n\x7d"

/-- `GET_DATA_ENDPOINT_PARAM_JSON_TEMPLATE` -/
def getDataEndpointParams (streamName apiName : Bytes) : Bytes :=
  bytes "\x7b\n\t\"StreamName\": \"" ++ streamName ++
    bytes "\",\n\t\"APIName\": \"" ++ apiName ++ bytes "\"\n\x7d"

/-- `TAG_RESOURCE_PARAM_JSON_TEMPLATE` -/
def tagResourceParams (streamArn tagsJson : Bytes) : Bytes :=
  bytes "\x7b\n\t\"StreamARN\": \"" ++ streamArn ++
    bytes "\",\n\t\"Tags\": \x7b" ++ tagsJson ++ bytes "\n\t\x7d\n\x7d"

/-- `TAG_PARAM_JSON_TEMPLATE` -/
def tagParams (name value : Bytes) : Bytes :=
  bytes "\n\t\t\"" ++ name ++ bytes "\": \"" ++ value ++ bytes "\","

/-- The loop of `tagResourceCurl`: each tag is printed behind the others, into
what is left of the buffer. -/
def printTags (size : Nat) : (printed : Bytes) → List Tag → Result Bytes
  | printed, [] => .ok printed
  | printed, tag :: rest => do
      let text := tagParams tag.name.val tag.value.val
      check (0 < text.length ∧ text.length < size - printed.length)
        .internalError
      printTags size (printed ++ text) rest

/-- A call of PIC. -/
inductive ApiCall where
  | createStream (deviceName streamName contentType : CString)
      (kmsKeyId : Option CString) (retentionPeriod : Nat)
  | describeStream (streamName : CString)
  | getStreamingEndpoint (streamName apiName : CString)
  | tagResource (streamArn : CString) (tags : Option (List Tag))
  | putStream (streamName : CString) (startTimestamp : Nat)
      (absoluteFragmentTimestamp acksEnabled : Bool)
      (streamingEndpoint : CString)

/-- `ServiceCallContext` as far as the calls look at it, with the credentials
that the object of `pAuthInfo` holds. -/
structure ServiceCallContext where
  authInfo : CredentialsObject
  authInfoSize : Nat
  credentials : AwsCredentials

/-- What the calls are answered: whether the two buffers of `tagResourceCurl`
are allocated, what else the creation of the request takes, and what becomes of
the request and its thread. -/
structure ApiAnswers where
  paramsJson : Bool
  tagsJson : Bool
  request : Except ErrorCode Unit
  started : Except ErrorCode Unit

section Calls

variable (env : ApiEnvironment) (limits : ApiLimits) (answers : ApiAnswers)

/-- The credentials are deserialized and have the expected version and size. -/
def ServiceCallContext.validate (context : ServiceCallContext) :
    Result AwsCredentials := do
  let pCredentials ← deserializeAwsCredentials context.authInfo
  check (pCredentials.header.version ≤ AWS_CREDENTIALS_CURRENT_VERSION)
    STATUS_INVALID_AWS_CREDENTIALS_VERSION
  check (pCredentials.header.size = context.authInfoSize) .internalError
  .ok context.credentials

/-- The optional parameter of `createStreamCurl`. -/
def kmsKey (kmsKeyId : Option CString) : Bytes :=
  match kmsKeyId with
  | none => []
  | some kmsKeyId =>
      if kmsKeyId.val ≠ [] then
        snprintf (MAX_JSON_KMS_KEY_ID_STRING_LEN limits)
          (kmsKeyParams kmsKeyId.val)
      else []

/-- The parameters of `tagResourceCurl`, without the comma behind the last
tag. -/
def tagResourceParameters (streamArn : CString) (tags : Option (List Tag)) :
    Result Bytes := do
  let tags ← checkSome .internalError tags
  check (0 < tags.length) .internalError
  check (answers.paramsJson = true) .notEnoughMemory
  check (answers.tagsJson = true) .notEnoughMemory
  let tagsJson ← printTags env.maxTagsJsonParameterStringLen [] tags
  .ok (tagResourceParams streamArn.val tagsJson.dropLast)

/-- What a call builds its request from. -/
def ApiCall.arguments : ApiCall → Result ApiArguments
  | createStream deviceName streamName contentType kmsKeyId retentionPeriod =>
      .ok (.createStream (createStreamParams deviceName.val streamName.val
        contentType.val (kmsKey limits kmsKeyId)
        (retentionPeriod / HUNDREDS_OF_NANOS_IN_AN_HOUR)))
  | describeStream streamName =>
      .ok (.describeStream (describeStreamParams streamName.val))
  | getStreamingEndpoint streamName apiName =>
      .ok (.getStreamingEndpoint
        (getDataEndpointParams streamName.val apiName.val))
  | tagResource streamArn tags => do
      let parameters ← tagResourceParameters env answers streamArn tags
      .ok (.tagResource parameters)
  | putStream streamName startTimestamp absoluteFragmentTimestamp acksEnabled
      streamingEndpoint =>
      .ok (.putStream streamName startTimestamp absoluteFragmentTimestamp
        acksEnabled streamingEndpoint)

/-- A call with the request that it starts a thread for. -/
def ApiCall.perform (client : CurlApiCallbacks) (context : ServiceCallContext)
    (call : ApiCall) : Result RequestInfo := do
  let arguments ← call.arguments env limits answers
  let credentials ← context.validate
  let info ← arguments.request env client credentials
  checkStatus answers.request
  checkStatus answers.started
  .ok info

end Calls

/-! ### A sample -/

def sampleLimits : ApiLimits :=
  { maxDeviceNameLen := 128
    maxStreamNameLen := 256
    maxContentTypeLen := 128
    maxArnLen := 1024
    maxApiNameLen := 128
    maxTagCount := 50
    maxTagNameLen := 128
    maxTagValueLen := 1024 }

def sampleAnswers : ApiAnswers :=
  { paramsJson := true
    tagsJson := true
    request := .ok ()
    started := .ok () }

/-- The object of the sample credentials. -/
def sampleContext : ServiceCallContext :=
  { authInfo :=
      { address := 4096
        header :=
          { version := AWS_CREDENTIALS_CURRENT_VERSION
            size := SIZEOF_AWS_CREDENTIALS + 53
            accessKeyId := 4096 + SIZEOF_AWS_CREDENTIALS
            accessKeyIdLen := 11
            secretKey := 4096 + SIZEOF_AWS_CREDENTIALS + 12
            secretKeyLen := 40
            sessionToken := 0
            sessionTokenLen := 0
            expiration := 0 }
        strings := terminated sampleCredentials.accessKeyId ++
          terminated sampleCredentials.secretKey }
    authInfoSize := SIZEOF_AWS_CREDENTIALS + 53
    credentials := sampleCredentials }

theorem validate_sampleContext :
    sampleContext.validate = .ok sampleCredentials := by
  have deserializes : deserializeAwsCredentials sampleContext.authInfo =
      .ok sampleContext.authInfo.repointed := by
    rfl
  simp only [ServiceCallContext.validate, deserializes, ok_bind]
  rfl

end Common

end KvsProducer
