import KvsProducer.Common.IotResponse
import KvsProducer.Common.SigningLimits

/-!
# The requests of the API calls

Each API call builds a request: it puts a URL together, creates the request
with it and sets the first headers.  A handler signs the request later.
-/

namespace KvsProducer

namespace Common

open Outcome StableInsertion

def MAX_USER_AGENT_LEN : Nat := 256
def MAX_JSON_PARAMETER_STRING_LEN : Nat := 10 * 1024
def HUNDREDS_OF_NANOS_IN_A_MILLISECOND : Nat := 10000

/-- A string in memory. -/
abbrev CString := { text : Bytes // NUL ∉ text }

def CString.append (first second : CString) : CString :=
  ⟨first.val ++ second.val, by
    simp [List.mem_append, first.property, second.property]⟩

/-- `STRNCPY` into a buffer with room for `size` characters. -/
def CString.strncpy (text : CString) (size : Nat) : CString :=
  ⟨text.val.take size, fun member =>
    text.property (List.mem_of_mem_take member)⟩

def CREATE_API_POSTFIX : CString := ⟨bytes "/createStream", by decide⟩
def DESCRIBE_API_POSTFIX : CString := ⟨bytes "/describeStream", by decide⟩
def GET_DATA_ENDPOINT_API_POSTFIX : CString :=
  ⟨bytes "/getDataEndpoint", by decide⟩
def TAG_RESOURCE_API_POSTFIX : CString := ⟨bytes "/tagStream", by decide⟩
def PUT_MEDIA_API_POSTFIX : CString := ⟨bytes "/putMedia", by decide⟩

/-- `CurlApiCallbacks` as far as the requests are built from it. -/
structure CurlApiCallbacks where
  region : CString
  userAgent : CString
  controlPlaneUrl : CString
  region_le : region.val.length ≤ MAX_REGION_NAME_LEN
  userAgent_le : userAgent.val.length ≤ MAX_USER_AGENT_LEN
  controlPlaneUrl_le : controlPlaneUrl.val.length ≤ MAX_URI_CHAR_LEN

/-- The limits that PIC defines, the time and the memory for the headers. -/
structure ApiEnvironment where
  maxPathLen : Nat
  maxTimestampStrLen : Nat
  maxTagsJsonParameterStringLen : Nat
  tagsJson_le : maxTagsJsonParameterStringLen ≤ 2 ^ 32
  currentTime : Nat
  memory : (headerName : Bytes) → HeaderMemory

def createCurlRequest (curlVerb : HttpRequestVerb) (url : CString)
    (body : Option Bytes) (region : CString) (currentTime : Nat)
    (credentials : AwsCredentials) : RequestInfo :=
  { verb := curlVerb
    body := body
    url := (url.strncpy MAX_URI_CHAR_LEN).val
    region := (region.strncpy MAX_REGION_NAME_LEN).val
    currentTime := currentTime
    awsCredentials := some credentials
    requestHeaders := []
    url_unterminated := (url.strncpy MAX_URI_CHAR_LEN).property
    url_le := List.length_take_le _ _
    region_unterminated := (region.strncpy MAX_REGION_NAME_LEN).property
    region_le := List.length_take_le _ _ }

/-- `STRCPY` and `STRCAT` into the buffer for the URL. -/
def apiUrl (env : ApiEnvironment) (base apiPostfix : CString) :
    Result CString := do
  defined ((base.append apiPostfix).val.length ≤ env.maxPathLen)
  .ok (base.append apiPostfix)

def setHeaders (env : ApiEnvironment) :
    List (Bytes × Bytes) → RequestInfo → Result RequestInfo
  | [], info => .ok info
  | (name, value) :: rest, info => do
      let info ← setHeader (env.memory name) name value info
      setHeaders env rest info

variable (env : ApiEnvironment) (client : CurlApiCallbacks)
variable (credentials : AwsCredentials)

/-- A call to the control plane, with the parameters in its body. -/
def controlPlaneRequest (apiPostfix : CString) (paramsJson : Bytes) :
    Result RequestInfo := do
  let url ← apiUrl env client.controlPlaneUrl apiPostfix
  setHeaders env [(bytes "user-agent", client.userAgent.val)]
    (createCurlRequest .post url (some paramsJson) client.region
      env.currentTime credentials)

/-- In this and the next calls, `parameters` is the text that is printed to
`paramsJson`. -/
def createStreamCurl (parameters : Bytes) : Result RequestInfo :=
  controlPlaneRequest env client credentials CREATE_API_POSTFIX
    (snprintf MAX_JSON_PARAMETER_STRING_LEN parameters)

def describeStreamCurl (parameters : Bytes) : Result RequestInfo :=
  controlPlaneRequest env client credentials DESCRIBE_API_POSTFIX
    (snprintf MAX_JSON_PARAMETER_STRING_LEN parameters)

def getStreamingEndpointCurl (parameters : Bytes) : Result RequestInfo :=
  controlPlaneRequest env client credentials GET_DATA_ENDPOINT_API_POSTFIX
    (snprintf MAX_JSON_PARAMETER_STRING_LEN parameters)

def tagResourceCurl (parameters : Bytes) : Result RequestInfo :=
  controlPlaneRequest env client credentials TAG_RESOURCE_API_POSTFIX
    (snprintf env.maxTagsJsonParameterStringLen parameters)

/-- Seconds and milliseconds with a point between them. -/
def startTimestampStr (startTimestamp : Nat) : Bytes :=
  let startTimestampMillis :=
    startTimestamp / HUNDREDS_OF_NANOS_IN_A_MILLISECOND
  snprintf (env.maxTimestampStrLen + 1)
    (ultostr (startTimestampMillis / 1000) ++ [byte '.'] ++
      ultostr (startTimestampMillis % 1000))

/-- The headers of a request that streams. -/
def putMediaHeaders (streamName : CString) (startTimestamp : Nat)
    (absoluteFragmentTimestamp acksEnabled : Bool) : List (Bytes × Bytes) :=
  [(bytes "user-agent", client.userAgent.val),
    (bytes "x-amzn-stream-name", streamName.val),
    (bytes "x-amzn-producer-start-timestamp",
      startTimestampStr env startTimestamp),
    (bytes "x-amzn-fragment-acknowledgment-required",
      if acksEnabled then bytes "1" else bytes "0"),
    (bytes "x-amzn-fragment-timecode-type",
      if absoluteFragmentTimestamp then bytes "ABSOLUTE" else bytes "RELATIVE"),
    (bytes "transfer-encoding", bytes "chunked"),
    (bytes "connection", bytes "keep-alive")]

def putStreamCurl (streamName : CString) (startTimestamp : Nat)
    (absoluteFragmentTimestamp acksEnabled : Bool)
    (streamingEndpoint : CString) : Result RequestInfo := do
  let url ← apiUrl env streamingEndpoint PUT_MEDIA_API_POSTFIX
  setHeaders env
    (putMediaHeaders env client streamName startTimestamp
      absoluteFragmentTimestamp acksEnabled)
    (createCurlRequest .post url none client.region env.currentTime
      credentials)

/-- The API calls that build a request, with what they are given. -/
inductive ApiArguments where
  | createStream (parameters : Bytes)
  | describeStream (parameters : Bytes)
  | getStreamingEndpoint (parameters : Bytes)
  | tagResource (parameters : Bytes)
  | putStream (streamName : CString) (startTimestamp : Nat)
      (absoluteFragmentTimestamp acksEnabled : Bool)
      (streamingEndpoint : CString)

/-- The request that a call builds. -/
def ApiArguments.request : ApiArguments → Result RequestInfo
  | createStream parameters =>
      createStreamCurl env client credentials parameters
  | describeStream parameters =>
      describeStreamCurl env client credentials parameters
  | getStreamingEndpoint parameters =>
      getStreamingEndpointCurl env client credentials parameters
  | tagResource parameters =>
      tagResourceCurl env client credentials parameters
  | putStream streamName startTimestamp absoluteFragmentTimestamp acksEnabled
      streamingEndpoint =>
      putStreamCurl env client credentials streamName startTimestamp
        absoluteFragmentTimestamp acksEnabled streamingEndpoint

section Requests

variable {env : ApiEnvironment} {client : CurlApiCallbacks}
variable {credentials : AwsCredentials} {info after : RequestInfo}

theorem setHeader_extends {memory : HeaderMemory} {name value : Bytes}
    (sets : setHeader memory name value info = .ok after) :
    Extends info after 1 (name.length + 1) := by
  simp only [setHeader, bind_eq_ok, checkStatus_eq_ok, Except.ok.injEq] at sets
  obtain ⟨headers, called, rfl⟩ := sets
  obtain ⟨header, created, -, rfl⟩ := setRequestHeader_eq_ok called
  obtain ⟨_, _, named, -, headerName, -⟩ := createRequestHeader_eq_ok created
  cases named
  apply Extends.insertAfter
  rw [headerName, SizedString.length_value]
  exact SizedString.size_ofBuffer_le name

theorem setHeaders_extends {headers : List (Bytes × Bytes)}
    (sets : setHeaders env headers info = .ok after) :
    Extends info after headers.length
      ((headers.map Prod.fst).map fun name => name.length + 1).sum := by
  induction headers generalizing info with
  | nil =>
      cases sets
      exact Extends.refl _ 0 0
  | cons header rest induction =>
      rw [setHeaders, bind_eq_ok] at sets
      obtain ⟨between, first, later⟩ := sets
      have extended := (setHeader_extends first).trans (induction later)
      rw [List.length_cons, Nat.add_comm]
      exact extended

theorem small_of_setHeaders {headers : List (Bytes × Bytes)}
    {names : List Bytes} (empty : info.requestHeaders = [])
    (named : headers.map Prod.fst = names) (few : names.length ≤ 100)
    (short : (names.map fun name => name.length + 1).sum ≤ 512)
    (body : ∀ body ∈ info.body, body.length < 2 ^ 32)
    (sets : setHeaders env headers info = .ok after) : after.Small := by
  have extended := setHeaders_extends sets
  have count := extended.count
  have sum := extended.names
  have none : namesLength [] = 0 := rfl
  rw [empty, named, none] at sum
  rw [empty, List.length_nil] at count
  rw [← named, List.length_map] at few
  constructor
  case count => omega
  case names => omega
  case body =>
      rw [extended.body]
      exact body

theorem controlPlaneRequest_ok {apiPostfix : CString} {paramsJson : Bytes}
    (short : paramsJson.length < 2 ^ 32)
    (builds : controlPlaneRequest env client credentials apiPostfix
      paramsJson = .ok info) :
    info.Small ∧ info.awsCredentials = some credentials := by
  rw [controlPlaneRequest, bind_eq_ok] at builds
  obtain ⟨url, -, sets⟩ := builds
  have names : [(bytes "user-agent", client.userAgent.val)].map Prod.fst =
      [bytes "user-agent"] := rfl
  constructor
  · refine small_of_setHeaders rfl names (by decide) (by decide) ?_ sets
    rintro body ⟨⟩
    exact short
  · rw [(setHeaders_extends sets).awsCredentials]
    rfl

theorem putStreamCurl_ok {streamName : CString} {startTimestamp : Nat}
    {absoluteFragmentTimestamp acksEnabled : Bool}
    {streamingEndpoint : CString}
    (builds : putStreamCurl env client credentials streamName startTimestamp
      absoluteFragmentTimestamp acksEnabled streamingEndpoint = .ok info) :
    info.Small ∧ info.awsCredentials = some credentials := by
  rw [putStreamCurl, bind_eq_ok] at builds
  obtain ⟨url, -, sets⟩ := builds
  have names : (putMediaHeaders env client streamName startTimestamp
      absoluteFragmentTimestamp acksEnabled).map Prod.fst =
        [bytes "user-agent", bytes "x-amzn-stream-name",
          bytes "x-amzn-producer-start-timestamp",
          bytes "x-amzn-fragment-acknowledgment-required",
          bytes "x-amzn-fragment-timecode-type", bytes "transfer-encoding",
          bytes "connection"] := rfl
  constructor
  · refine small_of_setHeaders rfl names (by decide) (by decide) ?_ sets
    rintro body ⟨⟩
  · rw [(setHeaders_extends sets).awsCredentials]
    rfl

theorem length_snprintf_lt {size : Nat} (text : Bytes) (small : size ≤ 2 ^ 32) :
    (snprintf size text).length < 2 ^ 32 := by
  have length := List.length_take_le (size - 1) text
  rw [snprintf]
  omega

/-- A request that has been built is small, and has the credentials. -/
theorem request_ok {arguments : ApiArguments}
    (builds : arguments.request env client credentials = .ok info) :
    info.Small ∧ info.awsCredentials = some credentials := by
  have params : MAX_JSON_PARAMETER_STRING_LEN ≤ 2 ^ 32 := by decide
  cases arguments with
  | createStream parameters =>
      exact controlPlaneRequest_ok (length_snprintf_lt parameters params) builds
  | describeStream parameters =>
      exact controlPlaneRequest_ok (length_snprintf_lt parameters params) builds
  | getStreamingEndpoint parameters =>
      exact controlPlaneRequest_ok (length_snprintf_lt parameters params) builds
  | tagResource parameters =>
      exact controlPlaneRequest_ok
        (length_snprintf_lt parameters env.tagsJson_le) builds
  | putStream streamName startTimestamp absoluteFragmentTimestamp acksEnabled
      streamingEndpoint => exact putStreamCurl_ok builds

/-- The request of an API call is signed without a failure for a length if and
only if the time can be written, and the host and the session token fit into a
header. -/
theorem noLengthFailure_iff {primitives : Primitives}
    {arguments : ApiArguments} (admitted : credentials.Admitted)
    (builds : arguments.request env client credentials = .ok info) :
    NoLengthFailure primitives info ↔
      WithinSigningLimits primitives info credentials := by
  obtain ⟨small, has⟩ := request_ok builds
  exact noLengthFailure_iff_within small has admitted.accessKeyId

end Requests

def sampleEnv : ApiEnvironment :=
  { maxPathLen := 4096
    maxTimestampStrLen := 17
    maxTagsJsonParameterStringLen := 100000
    tagsJson_le := by decide
    currentTime := 13693536000000000
    memory := fun _ => .available }

def sampleClient : CurlApiCallbacks :=
  { region := ⟨bytes "us-west-2", sampleRegion_unterminated⟩
    userAgent := ⟨bytes "agent", by decide⟩
    controlPlaneUrl :=
      ⟨bytes "https://kinesisvideo.us-west-2.amazonaws.com", by decide⟩
    region_le := by decide
    userAgent_le := by decide
    controlPlaneUrl_le := by decide }

def sampleStreamName : CString := ⟨bytes "stream", by decide⟩

def sampleToken (count : Nat) : Bytes := List.replicate count (byte 'T')

theorem sampleToken_unterminated (count : Nat) :
    ∀ token ∈ some (sampleToken count), NUL ∉ token := by
  rintro _ ⟨⟩ member
  exact absurd (List.eq_of_mem_replicate member) (by decide)

theorem sampleToken_pos {count : Nat} (positive : 0 < count) :
    ∀ token ∈ some (sampleToken count), 0 < token.length := by
  rintro _ ⟨⟩
  simpa [sampleToken] using positive

theorem sampleToken_size_lt {count : Nat}
    (admitted : count ≤ MAX_SESSION_TOKEN_LEN) :
    awsCredentialsSize sampleCredentials.accessKeyId.length
      sampleCredentials.secretKey.length
      ((some (sampleToken count)).map List.length) < MAX_AUTH_LEN := by
  have id : sampleCredentials.accessKeyId.length = 11 := by decide
  have key : sampleCredentials.secretKey.length = 40 := by decide
  simp only [MAX_SESSION_TOKEN_LEN] at admitted
  simp only [id, key, awsCredentialsSize, Option.map_some, sampleToken,
    List.length_replicate, SIZEOF_AWS_CREDENTIALS, MAX_AUTH_LEN]
  omega

/-- Credentials with a session token of a length that is admitted. -/
def sampleSession (count : Nat) (positive : 0 < count)
    (admitted : count ≤ MAX_SESSION_TOKEN_LEN) : AwsCredentials :=
  { sampleCredentials with
    sessionToken := some (sampleToken count)
    sessionToken_unterminated := sampleToken_unterminated count
    sessionToken_pos := sampleToken_pos positive
    size_lt := sampleToken_size_lt admitted }

theorem sessionTokenLen_sampleSession {count : Nat} {positive : 0 < count}
    {admitted : count ≤ MAX_SESSION_TOKEN_LEN} :
    (sampleSession count positive admitted).sessionTokenLen = count :=
  List.length_replicate

theorem sampleSession_admitted {count : Nat} {positive : 0 < count}
    {admitted : count ≤ MAX_SESSION_TOKEN_LEN} :
    (sampleSession count positive admitted).Admitted := by
  have id : sampleCredentials.accessKeyId.length ≤ MAX_ACCESS_KEY_LEN := by
    decide
  have key : sampleCredentials.secretKey.length ≤ MAX_SECRET_KEY_LEN := by
    decide
  exact ⟨id, key, sessionTokenLen_sampleSession.trans_le admitted⟩

def sampleArguments : ApiArguments :=
  .createStream (bytes "\x7b\x7d")

theorem sampleArguments_builds (credentials : AwsCredentials) :
    ∃ info, sampleArguments.request sampleEnv sampleClient credentials =
        .ok info ∧ info.url = sampleUrl.text := by
  have url : ((sampleClient.controlPlaneUrl.append
      CREATE_API_POSTFIX).strncpy MAX_URI_CHAR_LEN).val = sampleUrl.text := by
    decide
  exact ⟨_, rfl, url⟩

/-- A session token that is one byte shorter than the longest is signed with. -/
theorem noLengthFailure_sample :
    ∃ info, sampleArguments.request sampleEnv sampleClient
        (sampleSession 2047 (by decide) (by decide)) = .ok info ∧
      NoLengthFailure samplePrimitives info := by
  obtain ⟨info, builds, url⟩ := sampleArguments_builds
    (sampleSession 2047 (by decide) (by decide))
  refine ⟨info, builds,
    (noLengthFailure_iff sampleSession_admitted builds).mpr ?_⟩
  constructor
  case date => rfl
  case host =>
      intro host found
      have short : (getRequestHost sampleUrl.text
          sampleUrl.unterminated).toOption.map (·.size) = some 36 := by
        decide
      simp only [url] at found
      rw [found] at short
      have size : host.size = 36 := by simpa [Except.toOption] using short
      rw [size]
      decide
  case token =>
      intro uri splits hasPath
      rw [sessionTokenLen_sampleSession]
      decide

/-- A session token of the greatest length is too long for its header. -/
theorem lengthFailure_longest_token :
    (sampleSession 2048 (by decide) (by decide)).Admitted ∧
      ∃ info, sampleArguments.request sampleEnv sampleClient
          (sampleSession 2048 (by decide) (by decide)) = .ok info ∧
        signAwsRequestInfo samplePrimitives .available info =
          .error (.failed .maxRequestHeaderValueLen) ∧
        ¬ NoLengthFailure samplePrimitives info := by
  obtain ⟨info, builds, url⟩ := sampleArguments_builds
    (sampleSession 2048 (by decide) (by decide))
  obtain ⟨small, has⟩ := request_ok builds
  have splits := sampleUrl.getCanonicalUri_text (by decide)
  rw [← url] at splits
  obtain ⟨host, hostFound⟩ :=
    (getRequestHost_iff_uri info.url_unterminated).mpr ⟨_, splits⟩
  have ends := @signAwsRequestInfo_ends
    (· = .failed .maxRequestHeaderValueLen) samplePrimitives info .available
    _ _ host _ small has sampleSession_admitted.accessKeyId rfl hostFound
    (Or.inr rfl) splits (fun _ => Or.inl rfl) (fun _ => Or.inr rfl)
    (Or.inl rfl)
  have fails : signAwsRequestInfo samplePrimitives .available info =
      .error (.failed .maxRequestHeaderValueLen) := by
    cases signs : signAwsRequestInfo samplePrimitives .available info with
    | ok signed =>
        have fits := (ends.of_ok signs).2
        rw [sessionTokenLen_sampleSession] at fits
        exact absurd fits (by decide)
    | error fault => rw [ends.of_error signs]
  exact ⟨sampleSession_admitted, info, builds, fails,
    fun noFailure => noFailure _ _ fails (by decide)⟩

end Common

end KvsProducer
