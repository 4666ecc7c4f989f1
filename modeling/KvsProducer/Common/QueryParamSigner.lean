import KvsProducer.Common.QueryBuffer
import KvsProducer.Common.SigningLimits

/-!
# The signature in the query

`signAwsRequestInfoQueryParam` appends the parameters of the signature to the
URL, writes the canonical query over the query, and appends the signature.  The
URL is zero behind its string, as `createRequestInfo` leaves it, and `UINT32`
counters wrap around.
-/

namespace KvsProducer

namespace Common

open Outcome StableInsertion

def MAX_AWS_SIGV4_CREDENTIALS_EXPIRATION_IN_SECONDS : Nat := 604800
def MIN_AWS_SIGV4_CREDENTIALS_EXPIRATION_IN_SECONDS : Nat := 1

/-- Set the header with the host that is found in the URL. -/
def setHostHeader (memory : HeaderMemory) (info : RequestInfo) :
    Result RequestInfo := do
  let host ← getRequestHost info.url info.url_unterminated
  let headers ← checkStatus
    (setRequestHeader memory info.requestHeaders
      (some (.ofBuffer AWS_SIG_V4_HEADER_HOST)) (some host))
  .ok { info with requestHeaders := headers }

/-- `URL_ENCODED_CREDENTIAL_TEMPLATE` -/
def encodedCredentialsText (info : RequestInfo) (credentials : AwsCredentials)
    (dateTimeStr : Bytes) : Bytes :=
  credentials.accessKeyId ++ [byte '/'] ++
    dateTimeStr.take SIGNATURE_DATE_STRING_LEN ++ [byte '/'] ++ info.region ++
    [byte '/'] ++ KINESIS_VIDEO_SERVICE_NAME ++ [byte '/'] ++
    AWS_SIG_V4_SIGNATURE_END

def generateEncodedCredentials (info : RequestInfo)
    (credentials : AwsCredentials) (dateTimeStr : Bytes)
    (buffer : Option Nat) : Result Filled :=
  match buffer with
  | none =>
      .ok
        { length :=
            MAX_ACCESS_KEY_LEN + 1 + SIGNATURE_DATE_TIME_STRING_LEN + 1 +
              MAX_REGION_NAME_LEN + 1 + KINESIS_VIDEO_SERVICE_NAME.length + 1 +
              AWS_SIG_V4_SIGNATURE_END.length + 1
          written := [] }
  | some credsLen => do
      let text := encodedCredentialsText info credentials dateTimeStr
      check (0 < text.length ∧ text.length ≤ credsLen) .bufferTooSmall
      .ok
        { length := text.length
          written := snprintf credsLen text }

/-- The seconds for which the URL is valid, from times of 64 bits to a `UINT32`
in the limits. -/
def expirationInSeconds (expiration currentTime : Nat) : Nat :=
  max MIN_AWS_SIGV4_CREDENTIALS_EXPIRATION_IN_SECONDS
    (min MAX_AWS_SIGV4_CREDENTIALS_EXPIRATION_IN_SECONDS
      ((expiration + 2 ^ 64 - currentTime) % 2 ^ 64 /
        HUNDREDS_OF_NANOS_IN_A_SECOND % 2 ^ 32))

/-- The parameters of a signature that are appended to the query. -/
structure AuthParams where
  credential : Bytes
  date : Bytes
  expires : Nat
  signedHeaders : Bytes
  securityToken : Option Bytes
  deriving DecidableEq, Repr

/-- `AUTH_QUERY_TEMPLATE`, or `AUTH_QUERY_TEMPLATE_WITH_TOKEN` -/
def AuthParams.text (params : AuthParams) : Bytes :=
  bytes "&X-Amz-Algorithm=" ++ AWS_SIG_V4_ALGORITHM ++
    bytes "&X-Amz-Credential=" ++ params.credential ++
    bytes "&X-Amz-Date=" ++ params.date ++
    bytes "&X-Amz-Expires=" ++ ultostr params.expires ++
    bytes "&X-Amz-SignedHeaders=" ++ params.signedHeaders ++
    match params.securityToken with
    | none => []
    | some token => bytes "&X-Amz-Security-Token=" ++ token

/-- The parameters with the credential and the headers that have been written
for them. -/
def authQueryParams (info : RequestInfo) (credentials : AwsCredentials)
    (dateTimeStr credential signedHeaders : Bytes) : AuthParams :=
  { credential := credential
    date := dateTimeStr
    expires := expirationInSeconds credentials.expiration info.currentTime
    signedHeaders := signedHeaders
    securityToken :=
      if credentials.sessionTokenLen = 0 then none
      else credentials.sessionToken }

/-- Whether the allocations of the function succeed. -/
structure QueryParamMemory where
  signing : SigningMemory
  encodedCreds : Bool
  signedHeaders : Bool
  deriving DecidableEq, Repr

/-- The URL is replaced by a string that its buffer has room for. -/
def RequestInfo.setUrl (info : RequestInfo) (url : Bytes) :
    Result RequestInfo :=
  if fits : NUL ∉ url ∧ url.length ≤ MAX_URI_CHAR_LEN then
    .ok
      { info with
        url := url
        url_unterminated := fits.1
        url_le := fits.2 }
  else .error .undefined

/-- The string that `STRNCPY` leaves of a text, when it copies to a position
and there are zeros behind the text. -/
def strncpyAt (text : Bytes) (position : Nat) (src : Bytes) (count : Nat) :
    Bytes :=
  text.take position ++
    if src.length < count then src
    else src.take count ++ text.drop (position + count)

/-- `STRNCAT` -/
def strncat (text src : Bytes) (count : Nat) : Bytes := text ++ src.take count

/-- Where the canonical query is copied to: the request with the parameters in
its URL, the position behind the question mark and what remains there. -/
structure QueryToCopy where
  info : RequestInfo
  dateTimeStr : Bytes
  position : Nat
  queryParams : Bytes
  remaining : Nat
  deriving Repr

/-- The function up to the copy. -/
def queryToCopy (primitives : Primitives) (memory : QueryParamMemory)
    (info : RequestInfo) : Result QueryToCopy := do
  let credentials ← checkSome .nullArg info.awsCredentials
  let dateTimeStr ← generateSignatureDateTime primitives info.currentTime
  let info ← setHostHeader memory.signing.host info
  let creds ← generateEncodedCredentials info credentials dateTimeStr none
  check (memory.encodedCreds = true) .notEnoughMemory
  let creds ←
    generateEncodedCredentials info credentials dateTimeStr (some creds.length)
  let signedHeadersLen := (generateSignedHeaders info.requestHeaders none).length
  checkStatus (generateSignedHeaders info.requestHeaders none).status
  check (memory.signedHeaders = true) .notEnoughMemory
  let signedHeaders ←
    (generateSignedHeaders info.requestHeaders (some signedHeadersLen)).text
  let params :=
    authQueryParams info credentials dateTimeStr creds.written signedHeaders
  let remaining := MAX_URI_CHAR_LEN - info.url.length
  check (0 < params.text.length ∧ params.text.length < remaining)
    .bufferTooSmall
  let info ← info.setUrl (info.url ++ params.text)
  let remaining := remaining - params.text.length
  let queryParams ← getCanonicalQueryParams info.url info.url.length true
  let uri ← getCanonicalUri info.url
  check (uri.rest.head? = some (byte '?')) .internalError
  .ok
    { info := info
      dateTimeStr := dateTimeStr
      position := info.url.length - uri.rest.length + 1
      queryParams := queryParams.getD []
      remaining := remaining - 1 }

/-- The function from the copy on. -/
def QueryToCopy.sign (primitives : Primitives) (memory : SigningMemory)
    (copy : QueryToCopy) : Result RequestInfo := do
  let info ← copy.info.setUrl
    (strncpyAt copy.info.url copy.position copy.queryParams copy.remaining)
  let remaining :=
    (copy.remaining + 2 ^ 32 - copy.queryParams.length) % 2 ^ 32
  let signatureInfo ←
    generateAwsSigV4Signature primitives memory info copy.dateTimeStr false
  info.setUrl (strncat info.url signatureInfo remaining)

def signAwsRequestInfoQueryParam (primitives : Primitives)
    (memory : QueryParamMemory) (info : RequestInfo) : Result RequestInfo := do
  let copy ← queryToCopy primitives memory info
  copy.sign primitives memory.signing

end Common

end KvsProducer
