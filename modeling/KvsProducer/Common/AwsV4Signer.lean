import KvsProducer.Common.Auth
import KvsProducer.Common.CanonicalHeaders
import KvsProducer.Common.SigV4
import KvsProducer.Common.Url
import KvsProducer.StreamingEndpoint

/-!
# The signature of a request

`signAwsRequestInfo` with the generators that it composes.  Each generator
tells the length of its buffer when it is called without one, and fills the
buffer in a second call.
-/

namespace KvsProducer

namespace Common

open StableInsertion

def MAX_REGION_NAME_LEN : Nat := 128
def SIGNATURE_DATE_TIME_STRING_LEN : Nat := 17
def SIGNATURE_DATE_STRING_LEN : Nat := 8
def SCRATCH_BUFFER_EXTRA : Nat := 10000
def MAX_REQUEST_VERB_STRING_LEN : Nat := 4
def SHA256_DIGEST_LENGTH : Nat := 32

def AWS_SIG_V4_HEADER_AMZ_DATE : Bytes := bytes "X-Amz-Date"
def AWS_SIG_V4_HEADER_HOST : Bytes := bytes "host"
def AWS_SIG_V4_ALGORITHM : Bytes := bytes "AWS4-HMAC-SHA256"
def AWS_SIG_V4_SIGNATURE_START : Bytes := bytes "AWS4"
def AWS_SIG_V4_SIGNATURE_END : Bytes := bytes "aws4_request"
def AWS_SIG_V4_CONTENT_TYPE_VALUE : Bytes := bytes "application/json"
def KINESIS_VIDEO_SERVICE_NAME : Bytes := bytes "kinesisvideo"

inductive HttpRequestVerb where
  | get | post | put
  deriving DecidableEq, Repr

def getRequestVerbString : HttpRequestVerb → Bytes
  | .put => bytes "PUT"
  | .get => bytes "GET"
  | .post => bytes "POST"

/-- `RequestInfo` as far as the signer reads it. -/
structure RequestInfo where
  verb : HttpRequestVerb
  body : Option Bytes
  url : Bytes
  region : Bytes
  currentTime : Nat
  awsCredentials : Option AwsCredentials
  requestHeaders : List RequestHeader
  url_unterminated : NUL ∉ url
  url_le : url.length ≤ MAX_URI_CHAR_LEN
  region_unterminated : NUL ∉ region
  region_le : region.length ≤ MAX_REGION_NAME_LEN
  deriving Repr

/-- What a generator leaves: the length that it tells and the bytes that it has
written to the buffer. -/
structure Filled where
  length : Nat
  written : Bytes
  deriving DecidableEq, Repr

/-- `ULTOSTR` of PIC with the base 10, as it is documented: the decimal digits
of the value -/
def ultostr (value : Nat) : Bytes := (Nat.toDigits 10 value).map byte

theorem nul_not_mem_ultostr (value : Nat) : NUL ∉ ultostr value := by
  intro member
  obtain ⟨digit, listed, equality⟩ := List.mem_map.mp member
  have isDigit := Nat.isDigit_of_mem_toDigits (by decide) (by decide) listed
  obtain ⟨small, large⟩ : 48 ≤ digit.toNat ∧ digit.toNat ≤ 57 := by
    simpa [Char.isDigit, UInt32.le_iff_toNat_le] using isDigit
  have toNat := congrArg UInt8.toNat equality
  simp only [byte, Nat.toUInt8, UInt8.toNat_ofNat', NUL] at toNat
  have zero : (0 : UInt8).toNat = 0 := rfl
  omega

def generateSignatureDateTime (primitives : Primitives) (currentTime : Nat) :
    Result Bytes :=
  checkSome .bufferTooSmall
    (primitives.dateTime (currentTime / HUNDREDS_OF_NANOS_IN_A_SECOND))

/-- `CREDENTIAL_SCOPE_TEMPLATE` -/
def credentialScopeText (info : RequestInfo) (dateTimeStr : Bytes) : Bytes :=
  dateTimeStr.take SIGNATURE_DATE_STRING_LEN ++ [byte '/'] ++ info.region ++
    [byte '/'] ++ KINESIS_VIDEO_SERVICE_NAME ++ [byte '/'] ++
    AWS_SIG_V4_SIGNATURE_END

def generateCredentialScope (info : RequestInfo) (dateTimeStr : Bytes)
    (buffer : Option Nat) : Result Filled :=
  match buffer with
  | none =>
      .ok
        { length :=
            SIGNATURE_DATE_TIME_STRING_LEN + 1 + MAX_REGION_NAME_LEN + 1 +
              KINESIS_VIDEO_SERVICE_NAME.length + 1 +
              AWS_SIG_V4_SIGNATURE_END.length + 1
          written := [] }
  | some scopeLen => do
      let text := credentialScopeText info dateTimeStr
      check (0 < text.length ∧ text.length ≤ scopeLen) .bufferTooSmall
      .ok
        { length := text.length
          written := snprintf scopeLen text }

/-- The text of a walk over the headers. -/
def Generated.text (generated : Generated) : Result Bytes := do
  checkStatus generated.status
  .ok generated.written

/-- Append a text and a new line. -/
def appendLine (requestLen : Nat) (written line : Bytes) : Result Bytes := do
  check (written.length + line.length + 1 ≤ requestLen) .bufferTooSmall
  .ok (written ++ line ++ [byte '\n'])

/-- The size that is asked for a canonical request. -/
def canonicalRequestSize (itemCount : Nat) : Nat :=
  MAX_REQUEST_VERB_STRING_LEN + 1 + MAX_URI_CHAR_LEN + 1 + MAX_URI_CHAR_LEN +
    1 + itemCount * (MAX_REQUEST_HEADER_NAME_LEN + 1 +
      MAX_REQUEST_HEADER_VALUE_LEN + 1) +
    itemCount * (MAX_REQUEST_HEADER_NAME_LEN + 1) + SHA256_DIGEST_LENGTH * 2 +
    1

/-- A URL without a path leaves `pUriStart` `NULL`. -/
def generateCanonicalRequestString (primitives : Primitives)
    (info : RequestInfo) (buffer : Option Nat) : Result Filled :=
  match buffer with
  | none =>
      .ok
        { length := canonicalRequestSize info.requestHeaders.length
          written := [] }
  | some requestLen => do
      let verbLine ←
        appendLine requestLen [] (getRequestVerbString info.verb)
      let uri ← getCanonicalUri info.url
      defined (uri.path.isSome = true)
      let pathLine ← appendLine requestLen verbLine (uri.path.getD [])
      let queryLine ← appendLine requestLen pathLine (uri.rest.drop 1)
      let canonical ←
        (generateCanonicalHeaders primitives.trimstrall info.requestHeaders
          (some (requestLen - queryLine.length))).text
      let canonicalLine ← appendLine requestLen queryLine canonical
      let signed ←
        (generateSignedHeaders info.requestHeaders
          (some (requestLen - canonicalLine.length))).text
      let signedLine ← appendLine requestLen canonicalLine signed
      check (signedLine.length + SHA256_DIGEST_LENGTH * 2 ≤ requestLen)
        .bufferTooSmall
      let request := signedLine ++ primitives.hexSha256 (info.body.getD [])
      .ok
        { length := request.length
          written := request }

/-- Whether the allocations of the signer succeed. -/
structure SigningMemory where
  scratchBuf : Bool
  credentialScope : Bool
  signedHeaders : Bool
  signedStr : Bool
  host : HeaderMemory
  amzDate : HeaderMemory
  contentType : HeaderMemory
  contentLength : HeaderMemory
  auth : HeaderMemory
  securityToken : HeaderMemory
  deriving DecidableEq, Repr

/-- `SIGNED_STRING_TEMPLATE` -/
def signedStringText (dateTimeStr credentialScope requestHexSha256 : Bytes) :
    Bytes :=
  AWS_SIG_V4_ALGORITHM ++ [byte '\n'] ++ dateTimeStr ++ [byte '\n'] ++
    credentialScope ++ [byte '\n'] ++ requestHexSha256

/-- `AUTH_HEADER_TEMPLATE` -/
def authHeaderText (accessKeyId credentialScope signedHeaders hexHmac : Bytes) :
    Bytes :=
  AWS_SIG_V4_ALGORITHM ++ bytes " Credential=" ++ accessKeyId ++ [byte '/'] ++
    credentialScope ++ bytes ", SignedHeaders=" ++ signedHeaders ++
    bytes ", Signature=" ++ hexHmac

/-- `SIGNATURE_PARAM_TEMPLATE` -/
def signatureParamText (hexHmac : Bytes) : Bytes :=
  bytes "&X-Amz-Signature=" ++ hexHmac

/-- The chain of keys, of which each is made with the one before. -/
def signatureHmac (primitives : Primitives) (info : RequestInfo)
    (secretKey dateTimeStr signedStr : Bytes) : Bytes :=
  let hmac := primitives.hmac (AWS_SIG_V4_SIGNATURE_START ++ secretKey)
    (dateTimeStr.take SIGNATURE_DATE_STRING_LEN)
  let hmac := primitives.hmac hmac info.region
  let hmac := primitives.hmac hmac KINESIS_VIDEO_SERVICE_NAME
  let hmac := primitives.hmac hmac AWS_SIG_V4_SIGNATURE_END
  primitives.hmac hmac signedStr

def generateAwsSigV4Signature (primitives : Primitives)
    (memory : SigningMemory) (info : RequestInfo) (dateTimeStr : Bytes)
    (authHeaders : Bool) : Result Bytes := do
  let credentials ← checkSome .nullArg info.awsCredentials
  let request ← generateCanonicalRequestString primitives info none
  let scope ← generateCredentialScope info dateTimeStr none
  let signedHeadersLen := (generateSignedHeaders info.requestHeaders none).length
  checkStatus (generateSignedHeaders info.requestHeaders none).status
  let scratchLen :=
    max request.length scope.length + MAX_AUTH_LEN + SCRATCH_BUFFER_EXTRA
  check (memory.scratchBuf = true) .notEnoughMemory
  let request ←
    generateCanonicalRequestString primitives info (some request.length)
  let requestHexSha256 := primitives.hexSha256 request.written
  check (memory.credentialScope = true) .notEnoughMemory
  let scope ← generateCredentialScope info dateTimeStr (some scope.length)
  check (memory.signedHeaders = true) .notEnoughMemory
  let signedHeaders ←
    (generateSignedHeaders info.requestHeaders (some signedHeadersLen)).text
  let signedStrLen :=
    AWS_SIG_V4_ALGORITHM.length + 1 + SIGNATURE_DATE_TIME_STRING_LEN + 1 +
      scope.length + 1 + (2 * SHA256_DIGEST_LENGTH + 1) + 1
  check (memory.signedStr = true) .notEnoughMemory
  let signedStr :=
    signedStringText dateTimeStr scope.written requestHexSha256
  check (0 < signedStr.length ∧ signedStr.length < signedStrLen)
    .bufferTooSmall
  defined (AWS_SIG_V4_SIGNATURE_START.length + credentials.secretKey.length ≤
    scratchLen)
  let hexHmac := primitives.hexEncode
    (signatureHmac primitives info credentials.secretKey dateTimeStr signedStr)
  let signingInfo :=
    if authHeaders then
      authHeaderText credentials.accessKeyId scope.written signedHeaders hexHmac
    else signatureParamText hexHmac
  check (0 < signingInfo.length ∧ signingInfo.length < scratchLen)
    .bufferTooSmall
  .ok signingInfo

/-- A request that has been signed, and the value of the header that was set
for it. -/
structure SignedRequest where
  requestHeaders : List RequestHeader
  authorization : Bytes
  deriving DecidableEq, Repr

/-- Set a header of which the callee takes the lengths of name and value. -/
def setHeader (memory : HeaderMemory) (name value : Bytes)
    (info : RequestInfo) : Result RequestInfo := do
  let headers ← checkStatus
    (setRequestHeader memory info.requestHeaders (some (.ofBuffer name))
      (some (.ofBuffer value)))
  .ok { info with requestHeaders := headers }

/-- The content length is set for a request with a body. -/
def setContentLength (memory : HeaderMemory) (info : RequestInfo) :
    Result RequestInfo :=
  match info.body with
  | none => .ok info
  | some body =>
      setHeader memory (bytes "content-length") (ultostr body.length) info

/-- The security token is set if it is provided. -/
def setSecurityToken (memory : HeaderMemory) (credentials : AwsCredentials)
    (info : RequestInfo) : Result RequestInfo :=
  if credentials.sessionTokenLen ≠ 0 then
    setHeader memory AWS_SIG_V4_HEADER_AMZ_SECURITY_TOKEN
      (credentials.sessionToken.getD []) info
  else .ok info

def signAwsRequestInfo (primitives : Primitives) (memory : SigningMemory)
    (info : RequestInfo) : Result SignedRequest := do
  let credentials ← checkSome .nullArg info.awsCredentials
  let dateTimeStr ← generateSignatureDateTime primitives info.currentTime
  let host ← getRequestHost info.url info.url_unterminated
  let headers ← checkStatus
    (setRequestHeader memory.host info.requestHeaders
      (some (.ofBuffer AWS_SIG_V4_HEADER_HOST)) (some host))
  let info := { info with requestHeaders := headers }
  let info ← setHeader memory.amzDate AWS_SIG_V4_HEADER_AMZ_DATE dateTimeStr
    info
  let info ← setHeader memory.contentType AWS_SIG_V4_CONTENT_TYPE_NAME
    AWS_SIG_V4_CONTENT_TYPE_VALUE info
  let info ← setContentLength memory.contentLength info
  let signatureInfo ←
    generateAwsSigV4Signature primitives memory info dateTimeStr true
  let info ← setHeader memory.auth AWS_SIG_V4_HEADER_AUTH signatureInfo info
  let info ← setSecurityToken memory.securityToken credentials info
  .ok
    { requestHeaders := info.requestHeaders
      authorization := signatureInfo }

end Common

end KvsProducer
