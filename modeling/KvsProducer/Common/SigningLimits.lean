import KvsProducer.Common.SignatureRefinement
import KvsProducer.Lib.Outcome

/-!
# The limits of the signer

The buffers of the signer are large enough for a request with few headers.
What can be too long is the value of a header: the host or the session token.
-/

namespace KvsProducer

namespace Common

open Outcome StableInsertion

/-- The failure is about a length. -/
def Fault.OfLength (fault : Fault) : Prop :=
  fault = .failed .bufferTooSmall ∨
    fault = .failed .maxRequestHeaderNameLen ∨
    fault = .failed .maxRequestHeaderValueLen

instance (fault : Fault) : Decidable fault.OfLength :=
  inferInstanceAs (Decidable (_ ∨ _ ∨ _))

section Steps

variable {harmless : Fault → Prop}

theorem checkStatus_bind {α β : Type} (first : Except ErrorCode α)
    (next : α → Except ErrorCode β) :
    checkStatus (first >>= next) =
      checkStatus first >>= fun value => checkStatus (next value) := by
  cases first <;> rfl

theorem createRequestHeader_ends {allocated : Bool}
    {name value : SizedString} (named : 0 < name.size)
    (nameFits : name.size < MAX_REQUEST_HEADER_NAME_LEN)
    (valued : 0 < value.size)
    (fits : value.size < MAX_REQUEST_HEADER_VALUE_LEN ∨
      harmless (.failed .maxRequestHeaderValueLen))
    (lacks : allocated = true ∨ harmless (.failed .notEnoughMemory)) :
    Ends harmless
      (fun header => value.size < MAX_REQUEST_HEADER_VALUE_LEN ∧
        header.name = name.value)
      (checkStatus
        (createRequestHeader allocated (some name) (some value))) := by
  simp only [createRequestHeader, dif_pos (And.intro named valued),
    dif_pos nameFits]
  by_cases valueFits : value.size < MAX_REQUEST_HEADER_VALUE_LEN
  · rw [dif_pos valueFits]
    cases allocated with
    | true => exact ⟨valueFits, rfl⟩
    | false => exact lacks.resolve_left Bool.false_ne_true
  · rw [dif_neg valueFits]
    exact fits.resolve_left valueFits

theorem setRequestHeader_ends {memory : HeaderMemory}
    {headers : List RequestHeader} {name value : SizedString}
    (room : headers.length < MAX_REQUEST_HEADER_COUNT)
    (named : 0 < name.size) (nameFits : name.size < MAX_REQUEST_HEADER_NAME_LEN)
    (valued : 0 < value.size)
    (fits : value.size < MAX_REQUEST_HEADER_VALUE_LEN ∨
      harmless (.failed .maxRequestHeaderValueLen))
    (lacks : memory = .available ∨ harmless (.failed .notEnoughMemory)) :
    Ends harmless
      (fun after => value.size < MAX_REQUEST_HEADER_VALUE_LEN ∧
        ∃ header : RequestHeader, header.name = name.value ∧
          after = insertAfter RequestHeader.NameLe header headers)
      (checkStatus
        (setRequestHeader memory headers (some name) (some value))) := by
  have given : ¬ ((some name).isNone = true ∨ (some value).isNone = true) := by
    simp
  rw [setRequestHeader, if_neg given, if_pos room, checkStatus_bind]
  have allocates : memory.header = true ∨
      harmless (.failed .notEnoughMemory) := by
    refine lacks.imp_left ?_
    rintro rfl
    rfl
  apply (createRequestHeader_ends named nameFits valued fits allocates).bind
  intro header created
  obtain ⟨valueFits, headerName⟩ := created
  by_cases node : memory.node = true
  · rw [if_pos node]
    exact ⟨valueFits, header, headerName, rfl⟩
  · rw [if_neg node]
    refine lacks.resolve_left ?_
    rintro rfl
    exact node rfl

theorem namesLength_insertAfter (header : RequestHeader)
    (headers : List RequestHeader) :
    namesLength (insertAfter RequestHeader.NameLe header headers) =
      namesLength headers + (header.name.length + 1) := by
  have sum := ((perm_insertAfter (r := RequestHeader.NameLe) header
    headers).map fun header => header.name.length + 1).sum_eq
  rw [namesLength, sum, List.map_cons, List.sum_cons, Nat.add_comm]
  rfl

/-- At most a number of headers has been set, with names of at most a length. -/
structure Extends (info after : RequestInfo) (count names : Nat) : Prop where
  same : after = { info with requestHeaders := after.requestHeaders }
  grows : info.requestHeaders.length ≤ after.requestHeaders.length
  count : after.requestHeaders.length ≤ info.requestHeaders.length + count
  names : namesLength after.requestHeaders ≤
    namesLength info.requestHeaders + names

namespace Extends

variable {info between after : RequestInfo} {count more names moreNames : Nat}

theorem refl (info : RequestInfo) (count names : Nat) :
    Extends info info count names where
  same := rfl
  grows := Nat.le_refl _
  count := Nat.le_add_right _ _
  names := Nat.le_add_right _ _

theorem trans (first : Extends info between count names)
    (second : Extends between after more moreNames) :
    Extends info after (count + more) (names + moreNames) := by
  obtain ⟨same, grows, countLe, namesLe⟩ := first
  obtain ⟨sameAfter, growsAfter, countAfter, namesAfter⟩ := second
  refine ⟨?_, by omega, by omega, by omega⟩
  rw [sameAfter, same]

theorem url (extended : Extends info after count names) :
    after.url = info.url := by
  rw [extended.same]

theorem body (extended : Extends info after count names) :
    after.body = info.body := by
  rw [extended.same]

theorem awsCredentials (extended : Extends info after count names) :
    after.awsCredentials = info.awsCredentials := by
  rw [extended.same]

theorem insertAfter (info : RequestInfo) {header : RequestHeader}
    {bound : Nat} (short : header.name.length ≤ bound) :
    Extends info
      { info with
        requestHeaders :=
          insertAfter RequestHeader.NameLe header info.requestHeaders }
      1 (bound + 1) := by
  have length := length_insertAfter RequestHeader.NameLe header
    info.requestHeaders
  have sum := namesLength_insertAfter header info.requestHeaders
  constructor
  case same => rfl
  case grows =>
      simp only [length]
      omega
  case count =>
      simp only [length]
      omega
  case names =>
      simp only [sum]
      omega

end Extends

theorem setHeader_ends {memory : HeaderMemory} {info : RequestInfo}
    {name value : Bytes}
    (room : info.requestHeaders.length < MAX_REQUEST_HEADER_COUNT)
    (named : 0 < (SizedString.ofBuffer name).size)
    (nameFits : name.length < MAX_REQUEST_HEADER_NAME_LEN)
    (valued : 0 < (SizedString.ofBuffer value).size)
    (fits : (SizedString.ofBuffer value).size < MAX_REQUEST_HEADER_VALUE_LEN ∨
      harmless (.failed .maxRequestHeaderValueLen))
    (lacks : memory = .available ∨ harmless (.failed .notEnoughMemory)) :
    Ends harmless
      (fun after =>
        (SizedString.ofBuffer value).size < MAX_REQUEST_HEADER_VALUE_LEN ∧
          Extends info after 1 (name.length + 1))
      (setHeader memory name value info) := by
  have shorter := SizedString.size_ofBuffer_le name
  rw [setHeader]
  refine (setRequestHeader_ends room named
    (Nat.lt_of_le_of_lt shorter nameFits) valued fits lacks).bind ?_
  rintro _ ⟨valueFits, header, headerName, rfl⟩
  refine ⟨valueFits, Extends.insertAfter info ?_⟩
  rw [headerName, SizedString.length_value]
  exact shorter

theorem appendLine_ends {requestLen : Nat} {written line : Bytes}
    (fits : written.length + line.length + 1 ≤ requestLen) :
    Ends harmless
      (fun after => after.length = written.length + line.length + 1)
      (appendLine requestLen written line) := by
  rw [appendLine_eq_ok.mpr ⟨fits, rfl⟩]
  simp [Nat.add_assoc]

theorem text_ends {format : HeaderFormat} {headers : List RequestHeader}
    {generate : Option Nat → Generated}
    (generates : Generates format headers generate) {specifiedLen : Nat}
    (fits : (format.render false headers).length ≤ specifiedLen) :
    Ends harmless (fun text => text = format.render false headers)
      (generate (some specifiedLen)).text := by
  rw [← generates.sizing.2] at fits
  rw [generates.filling specifiedLen fits]
  rfl

variable {primitives : Primitives} {info : RequestInfo}

/-- The size that is asked for is large enough for the canonical request and a
terminator. -/
theorem generateCanonicalRequestString_ends {uri : CanonicalUri}
    (splits : getCanonicalUri info.url = .ok uri)
    (located : uri.path.isSome = true ∨ harmless .undefined) :
    Ends harmless
      (fun request => uri.path.isSome = true ∧
        request.length = request.written.length ∧
        request.length < canonicalRequestSize info.requestHeaders.length)
      (generateCanonicalRequestString primitives info
        (some (canonicalRequestSize info.requestHeaders.length))) := by
  have uriLength := length_getCanonicalUri_le splits
  have urlLength := info.url_le
  have max : MAX_URI_CHAR_LEN = 10000 := rfl
  have digest : SHA256_DIGEST_LENGTH = 32 := rfl
  have queryLength : (uri.rest.drop 1).length ≤ uri.rest.length := by simp
  have verbLength : (getRequestVerbString info.verb).length ≤
      MAX_REQUEST_VERB_STRING_LEN := by
    cases info.verb <;> decide
  have canonicalLength := @length_render_canonical_le false
    primitives.trimstrall primitives.length_trimstrall info.requestHeaders
  have signedLength := @length_render_signed_le false info.requestHeaders
  have names := namesLength_le info.requestHeaders
  generalize size : canonicalRequestSize info.requestHeaders.length = requestLen
  simp only [canonicalRequestSize, SHA256_DIGEST_LENGTH, Nat.mul_add,
    Nat.mul_one] at size
  simp only [Nat.mul_add] at canonicalLength
  refine (appendLine_ends ?_).bind fun verbLine verb => ?_
  · rw [List.length_nil]
    omega
  rw [List.length_nil] at verb
  rw [splits, ok_bind]
  refine (defined_ends located).bind fun _ hasPath => ?_
  refine (appendLine_ends ?_).bind fun pathLine path => ?_
  · omega
  refine (appendLine_ends ?_).bind fun queryLine query => ?_
  · omega
  refine (text_ends (generateCanonicalHeaders_generates _ _) ?_).bind ?_
  · omega
  rintro _ rfl
  refine (appendLine_ends ?_).bind fun canonicalLine canonical => ?_
  · omega
  refine (text_ends (generateSignedHeaders_generates _) ?_).bind ?_
  · omega
  rintro _ rfl
  refine (appendLine_ends ?_).bind fun signedLine signed => ?_
  · omega
  refine (check_ends (Or.inl ?_)).bind fun _ fits => ?_
  · omega
  refine ⟨hasPath, rfl, ?_⟩
  dsimp only
  rw [List.length_append, primitives.length_hexSha256]
  omega

theorem generateCredentialScope_ends (dateTimeStr : Bytes) :
    Ends harmless (fun scope => scope.written.length ≤ scope.length ∧
        scope.length < 173)
      (generateCredentialScope info dateTimeStr (some 173)) := by
  have short := @length_credentialScopeText_lt info dateTimeStr
  have positive : 0 < (credentialScopeText info dateTimeStr).length := by
    simp [credentialScopeText]
  rw [generateCredentialScope]
  refine (check_ends (Or.inl ⟨positive, Nat.le_of_lt short⟩)).bind ?_
  intro _ _
  exact ⟨List.length_take_le' _ _, short⟩

theorem length_signedStringText (dateTimeStr scope requestHexSha256 : Bytes) :
    (signedStringText dateTimeStr scope requestHexSha256).length =
      AWS_SIG_V4_ALGORITHM.length + 1 + dateTimeStr.length + 1 +
        scope.length + 1 + requestHexSha256.length := by
  simp only [signedStringText, List.length_append, List.length_singleton]

theorem length_authHeaderText (accessKeyId scope signedHeaders hexHmac : Bytes) :
    (authHeaderText accessKeyId scope signedHeaders hexHmac).length =
      57 + accessKeyId.length + scope.length + signedHeaders.length +
        hexHmac.length := by
  have algorithm : AWS_SIG_V4_ALGORITHM.length = 16 := by decide
  have credential : (bytes " Credential=").length = 12 := by decide
  have signed : (bytes ", SignedHeaders=").length = 16 := by decide
  have signature : (bytes ", Signature=").length = 12 := by decide
  simp only [authHeaderText, List.length_append, List.length_singleton,
    algorithm, credential, signed, signature]
  omega

theorem length_signatureParamText (hexHmac : Bytes) :
    (signatureParamText hexHmac).length = 17 + hexHmac.length := by
  have name : (bytes "&X-Amz-Signature=").length = 17 := by decide
  rw [signatureParamText, List.length_append, name]

/-- All of the allocations succeed. -/
def SigningMemory.available : SigningMemory :=
  { scratchBuf := true
    credentialScope := true
    signedHeaders := true
    signedStr := true
    host := .available
    amzDate := .available
    contentType := .available
    contentLength := .available
    auth := .available
    securityToken := .available }

theorem generateCanonicalRequestString_none :
    generateCanonicalRequestString primitives info none =
      .ok
        { length := canonicalRequestSize info.requestHeaders.length
          written := [] } := by
  rfl

/-- `scratchLen` -/
def scratchLen (info : RequestInfo) : Nat :=
  max (canonicalRequestSize info.requestHeaders.length) 173 + MAX_AUTH_LEN +
    SCRATCH_BUFFER_EXTRA

theorem secretKey_fits (info : RequestInfo) (credentials : AwsCredentials) :
    AWS_SIG_V4_SIGNATURE_START.length + credentials.secretKey.length ≤
      scratchLen info := by
  have keySize := credentials.size_lt
  have start : AWS_SIG_V4_SIGNATURE_START.length = 4 := by decide
  simp only [awsCredentialsSize] at keySize
  simp only [scratchLen, SCRATCH_BUFFER_EXTRA]
  omega

theorem signingInfo_fits (info : RequestInfo) (credentials : AwsCredentials)
    (authHeaders : Bool) {scope hexHmac : Bytes} (scopeShort : scope.length < 173)
    (hmacLength : hexHmac.length = 64) :
    0 < (if authHeaders = true then
        authHeaderText credentials.accessKeyId scope
          (signedFormat.render false info.requestHeaders) hexHmac
      else signatureParamText hexHmac).length ∧
      (if authHeaders = true then
        authHeaderText credentials.accessKeyId scope
          (signedFormat.render false info.requestHeaders) hexHmac
      else signatureParamText hexHmac).length < scratchLen info := by
  have keySize := credentials.size_lt
  have signedLength := @length_render_signed_le false info.requestHeaders
  have names := namesLength_le info.requestHeaders
  simp only [awsCredentialsSize] at keySize
  simp only [scratchLen, canonicalRequestSize, SCRATCH_BUFFER_EXTRA,
    Nat.mul_add, Nat.mul_one]
  cases authHeaders with
  | false =>
      rw [if_neg Bool.false_ne_true, length_signatureParamText, hmacLength]
      omega
  | true =>
      rw [if_pos rfl, length_authHeaderText]
      omega

/-- The signature is written: for a header it is put together from parts of
bounded lengths, and for the query it is one parameter. -/
theorem generateAwsSigV4Signature_ends {memory : SigningMemory}
    {credentials : AwsCredentials} {uri : CanonicalUri} {dateTimeStr : Bytes}
    {authHeaders : Bool} (has : info.awsCredentials = some credentials)
    (date : dateTimeStr.length = 16)
    (splits : getCanonicalUri info.url = .ok uri)
    (located : uri.path.isSome = true ∨ harmless .undefined)
    (lacks : memory = .available ∨ harmless (.failed .notEnoughMemory)) :
    Ends harmless
      (fun signingInfo => uri.path.isSome = true ∧
        signingInfo.length < scratchLen info ∧
        ∃ scope hexHmac, scope.length < 173 ∧ hexHmac.length = 64 ∧
          signingInfo =
            if authHeaders then
              authHeaderText credentials.accessKeyId scope
                (signedFormat.render false info.requestHeaders) hexHmac
            else signatureParamText hexHmac)
      (generateAwsSigV4Signature primitives memory info dateTimeStr
        authHeaders) := by
  have sizing := (generateSignedHeaders_generates info.requestHeaders).sizing
  have algorithm : AWS_SIG_V4_ALGORITHM.length = 16 := by decide
  have part {flag : Bool} (available : memory = .available → flag = true) :
      flag = true ∨ harmless (.failed .notEnoughMemory) :=
    lacks.imp_left available
  rw [generateAwsSigV4Signature, has]
  simp only [checkSome, ok_bind, generateCanonicalRequestString_none,
    generateCredentialScope_none, sizing.1, checkStatus]
  refine (check_ends (part (by rintro rfl; rfl))).bind fun _ _ => ?_
  refine (generateCanonicalRequestString_ends splits located).bind ?_
  rintro request ⟨hasPath, -, -⟩
  refine (check_ends (part (by rintro rfl; rfl))).bind fun _ _ => ?_
  refine (generateCredentialScope_ends dateTimeStr).bind ?_
  rintro scope ⟨scopeLength, scopeShort⟩
  refine (check_ends (part (by rintro rfl; rfl))).bind fun _ _ => ?_
  refine (text_ends (generateSignedHeaders_generates _)
    (Nat.le_of_eq sizing.2.symm)).bind ?_
  rintro _ rfl
  refine (check_ends (part (by rintro rfl; rfl))).bind fun _ _ => ?_
  have hashLength := primitives.length_hexSha256 request.written
  generalize primitives.hexSha256 request.written = hash at hashLength ⊢
  have stringLength := length_signedStringText dateTimeStr scope.written hash
  generalize signedStringText dateTimeStr scope.written hash = signedStr
    at stringLength ⊢
  have hmacLength : (primitives.hexEncode
      (signatureHmac primitives info credentials.secretKey dateTimeStr
        signedStr)).length = 64 := by
    rw [primitives.length_hexEncode, signatureHmac, primitives.length_hmac]
  generalize primitives.hexEncode _ = hexHmac at hmacLength ⊢
  have fits := signingInfo_fits info credentials authHeaders
    (Nat.lt_of_le_of_lt scopeLength scopeShort) hmacLength
  have size : max (canonicalRequestSize info.requestHeaders.length) 173 +
      MAX_AUTH_LEN + SCRATCH_BUFFER_EXTRA = scratchLen info := rfl
  have keyFits := secretKey_fits info credentials
  simp only [size, SIGNATURE_DATE_TIME_STRING_LEN, SHA256_DIGEST_LENGTH,
    algorithm]
  refine (check_ends (Or.inl ?_)).bind fun _ _ => ?_
  · omega
  refine (defined_ends (Or.inl keyFits)).bind fun _ _ => ?_
  refine (check_ends (Or.inl fits)).bind fun _ _ => ?_
  refine ⟨hasPath, fits.2, scope.written, hexHmac, ?_, hmacLength, rfl⟩
  omega

/-- The header that is computed is not longer than a header can be. -/
theorem generateAwsSigV4Signature_header_ends {memory : SigningMemory}
    {credentials : AwsCredentials} {uri : CanonicalUri} {dateTimeStr : Bytes}
    (has : info.awsCredentials = some credentials)
    (admitted : credentials.accessKeyId.length ≤ MAX_ACCESS_KEY_LEN)
    (names : namesLength info.requestHeaders ≤ 1024)
    (date : dateTimeStr.length = 16)
    (splits : getCanonicalUri info.url = .ok uri)
    (located : uri.path.isSome = true ∨ harmless .undefined)
    (lacks : memory = .available ∨ harmless (.failed .notEnoughMemory)) :
    Ends harmless
      (fun signingInfo => uri.path.isSome = true ∧
        signingInfo.length < MAX_REQUEST_HEADER_VALUE_LEN ∧
        0 < (SizedString.ofBuffer signingInfo).size)
      (generateAwsSigV4Signature primitives memory info dateTimeStr true) := by
  have signedLength := @length_render_signed_le false info.requestHeaders
  refine (generateAwsSigV4Signature_ends has date splits located
    lacks).mono ?_
  intro signingInfo written
  obtain ⟨hasPath, -, scope, hexHmac, scopeShort, hmacLength, rfl⟩ := written
  rw [if_pos rfl]
  refine ⟨hasPath, ?_, ?_⟩
  · rw [length_authHeaderText]
    simp only [MAX_ACCESS_KEY_LEN] at admitted
    simp only [MAX_REQUEST_HEADER_VALUE_LEN]
    omega
  · rw [SizedString.ofBuffer, SizedString.size_whole]
    exact Nat.succ_pos _

/-- The content length has ten digits at most. -/
theorem setContentLength_ends {memory : HeaderMemory}
    (room : info.requestHeaders.length < MAX_REQUEST_HEADER_COUNT)
    (fits : ∀ body ∈ info.body, body.length < 2 ^ 32)
    (lacks : memory = .available ∨ harmless (.failed .notEnoughMemory)) :
    Ends harmless (fun after => Extends info after 1 15)
      (setContentLength memory info) := by
  unfold setContentLength
  split
  · exact Extends.refl info 1 15
  · rename_i body given
    have size := SizedString.size_ofBuffer (nul_not_mem_ultostr body.length)
    have positive : 0 < (ultostr body.length).length := by
      rw [ultostr, List.length_map]
      exact Nat.length_toDigits_pos
    have digits : (ultostr body.length).length ≤ 10 := by
      have small := fits body given
      rw [ultostr, List.length_map,
        Nat.length_toDigits_le_iff (by decide) (by decide)]
      omega
    refine (setHeader_ends room (by decide) (by decide) (size ▸ positive)
      (Or.inl ?_) lacks).mono fun after set => set.2
    rw [size, MAX_REQUEST_HEADER_VALUE_LEN]
    omega

theorem setSecurityToken_ends {memory : HeaderMemory}
    {credentials : AwsCredentials}
    (room : info.requestHeaders.length < MAX_REQUEST_HEADER_COUNT)
    (fits : credentials.sessionTokenLen < MAX_REQUEST_HEADER_VALUE_LEN ∨
      harmless (.failed .maxRequestHeaderValueLen))
    (lacks : memory = .available ∨ harmless (.failed .notEnoughMemory)) :
    Ends harmless
      (fun _ => credentials.sessionTokenLen < MAX_REQUEST_HEADER_VALUE_LEN)
      (setSecurityToken memory credentials info) := by
  have size := SizedString.size_ofBuffer credentials.nul_not_mem_sessionToken
  unfold setSecurityToken
  split
  · rename_i provided
    refine (setHeader_ends room (by decide) (by decide) ?_ ?_ lacks).mono ?_
    · rw [size]
      exact Nat.pos_of_ne_zero provided
    · rw [size]
      exact fits
    · rintro after ⟨valueFits, -⟩
      rwa [size] at valueFits
  · rename_i absent
    rw [Decidable.not_not] at absent
    rw [ends_ok, absent]
    decide

/-- A request with few headers that have short names, and with a body whose
length has 32 bits. -/
structure RequestInfo.Small (info : RequestInfo) : Prop where
  count : info.requestHeaders.length ≤ 100
  names : namesLength info.requestHeaders ≤ 512
  body : ∀ body ∈ info.body, body.length < 2 ^ 32

theorem size_getRequestHost_pos {url : Bytes} {unterminated : NUL ∉ url}
    {host : SizedString} (located : getRequestHost url unterminated = .ok host) :
    0 < host.size := by
  unfold getRequestHost at located
  split at located
  · cases located
  · split at located
    · cases located
    · rename_i nonempty
      cases located
      have positive := List.length_pos_of_ne_nil nonempty
      simp only [SizedString.size]
      split <;> omega

/-- A small request whose URL has a host is signed, unless there is no path or
no memory, or the host or the session token is too long. -/
theorem signAwsRequestInfo_ends {memory : SigningMemory}
    {credentials : AwsCredentials} {dateTimeStr : Bytes} {host : SizedString}
    {uri : CanonicalUri} (small : info.Small)
    (has : info.awsCredentials = some credentials)
    (admitted : credentials.accessKeyId.length ≤ MAX_ACCESS_KEY_LEN)
    (formatted : primitives.dateTime
      (info.currentTime / HUNDREDS_OF_NANOS_IN_A_SECOND) = some dateTimeStr)
    (hostFound : getRequestHost info.url info.url_unterminated = .ok host)
    (hostFits : host.size < MAX_REQUEST_HEADER_VALUE_LEN ∨
      harmless (.failed .maxRequestHeaderValueLen))
    (splits : getCanonicalUri info.url = .ok uri)
    (located : host.size < MAX_REQUEST_HEADER_VALUE_LEN →
      uri.path.isSome = true ∨ harmless .undefined)
    (tokenFits : uri.path.isSome = true →
      credentials.sessionTokenLen < MAX_REQUEST_HEADER_VALUE_LEN ∨
        harmless (.failed .maxRequestHeaderValueLen))
    (lacks : memory = .available ∨ harmless (.failed .notEnoughMemory)) :
    Ends harmless
      (fun _ => host.size < MAX_REQUEST_HEADER_VALUE_LEN ∧
        credentials.sessionTokenLen < MAX_REQUEST_HEADER_VALUE_LEN)
      (signAwsRequestInfo primitives memory info) := by
  obtain ⟨count, names, body⟩ := small
  have date := primitives.length_dateTime _ _ formatted
  have dateSize := SizedString.size_ofBuffer
    (primitives.dateTime_unterminated _ _ formatted)
  have limit : MAX_REQUEST_HEADER_COUNT = 200 := rfl
  have amzDate : AWS_SIG_V4_HEADER_AMZ_DATE.length = 10 := by decide
  have contentType : AWS_SIG_V4_CONTENT_TYPE_NAME.length = 12 := by decide
  have part {flags : HeaderMemory}
      (available : memory = .available → flags = .available) :
      flags = .available ∨ harmless (.failed .notEnoughMemory) :=
    lacks.imp_left available
  rw [signAwsRequestInfo, checkSome_eq_ok.mpr has, ok_bind,
    generateSignatureDateTime, formatted, checkSome, ok_bind, hostFound,
    ok_bind]
  refine (setRequestHeader_ends ?_ (by decide) (by decide)
    (size_getRequestHost_pos hostFound) hostFits
    (part (by rintro rfl; rfl))).bind ?_
  · omega
  rintro _ ⟨hostShort, header, headerName, rfl⟩
  have short : header.name.length ≤ 4 := by
    rw [headerName]
    decide
  have withHost := Extends.insertAfter info short
  generalize setsHost : { info with requestHeaders := _ } = hostInfo
    at withHost ⊢
  have hostCount := withHost.count
  refine (setHeader_ends ?_ (by decide) (by decide) ?_ (Or.inl ?_)
    (part (by rintro rfl; rfl))).bind ?_
  · omega
  · omega
  · rw [dateSize, date]
    decide
  rintro dateInfo ⟨-, setsDate⟩
  have withDate := withHost.trans setsDate
  have dateCount := withDate.count
  refine (setHeader_ends ?_ (by decide) (by decide) (by decide)
    (Or.inl (by decide)) (part (by rintro rfl; rfl))).bind ?_
  · omega
  rintro typeInfo ⟨-, setsType⟩
  have withType := withDate.trans setsType
  have typeCount := withType.count
  refine (setContentLength_ends ?_ ?_ (part (by rintro rfl; rfl))).bind
    fun lengthInfo setsLength => ?_
  · omega
  · rw [withType.body]
    exact body
  have withLength := withType.trans setsLength
  have lengthCount := withLength.count
  have lengthNames := withLength.names
  refine (generateAwsSigV4Signature_header_ends ?_ admitted ?_ date ?_
    (located hostShort) lacks).bind ?_
  · rw [withLength.awsCredentials, has]
  · rw [amzDate, contentType] at lengthNames
    omega
  · rw [withLength.url, splits]
  rintro signature ⟨hasPath, signatureFits, signaturePos⟩
  have signatureLength := SizedString.size_ofBuffer_le signature
  refine (setHeader_ends ?_ (by decide) (by decide) signaturePos
    (Or.inl ?_) (part (by rintro rfl; rfl))).bind ?_
  · omega
  · omega
  rintro authInfo ⟨-, setsAuth⟩
  have authCount := (withLength.trans setsAuth).count
  refine (setSecurityToken_ends ?_ (tokenFits hasPath)
    (part (by rintro rfl; rfl))).bind ?_
  · omega
  · intro _ fits
    exact ⟨hostShort, fits⟩

end Steps

/-- Whichever allocations succeed, the signer does not fail for a length. -/
def NoLengthFailure (primitives : Primitives) (info : RequestInfo) : Prop :=
  ∀ memory fault, signAwsRequestInfo primitives memory info = .error fault →
    ¬ fault.OfLength

/-- The time can be written, and if the URL has a host, the host and the session
token fit into a header; the token need not if there is no path. -/
structure WithinSigningLimits (primitives : Primitives) (info : RequestInfo)
    (credentials : AwsCredentials) : Prop where
  date : (primitives.dateTime
    (info.currentTime / HUNDREDS_OF_NANOS_IN_A_SECOND)).isSome = true
  host : ∀ host, getRequestHost info.url info.url_unterminated = .ok host →
    host.size < MAX_REQUEST_HEADER_VALUE_LEN
  token : ∀ uri, getCanonicalUri info.url = .ok uri →
    uri.path.isSome = true →
      credentials.sessionTokenLen < MAX_REQUEST_HEADER_VALUE_LEN

section Limits

variable {primitives : Primitives} {info : RequestInfo}
variable {credentials : AwsCredentials}

theorem getRequestHost_eq_error {url : Bytes} {unterminated : NUL ∉ url}
    {fault : Fault} (fails : getRequestHost url unterminated = .error fault) :
    fault = .failed .invalidArg := by
  unfold getRequestHost at fails
  split at fails
  · cases fails
    rfl
  · split at fails <;> cases fails
    rfl

/-- With all of the memory, what does not fit makes the signer fail. -/
theorem NoLengthFailure.fits (noFailure : NoLengthFailure primitives info)
    {dateTimeStr : Bytes} {host : SizedString} {uri : CanonicalUri}
    (small : info.Small) (has : info.awsCredentials = some credentials)
    (admitted : credentials.accessKeyId.length ≤ MAX_ACCESS_KEY_LEN)
    (formatted : primitives.dateTime
      (info.currentTime / HUNDREDS_OF_NANOS_IN_A_SECOND) = some dateTimeStr)
    (hostFound : getRequestHost info.url info.url_unterminated = .ok host)
    (splits : getCanonicalUri info.url = .ok uri)
    (located : host.size < MAX_REQUEST_HEADER_VALUE_LEN →
      uri.path.isSome = true) :
    host.size < MAX_REQUEST_HEADER_VALUE_LEN ∧
      credentials.sessionTokenLen < MAX_REQUEST_HEADER_VALUE_LEN := by
  have ends := @signAwsRequestInfo_ends
    (· = .failed .maxRequestHeaderValueLen) primitives info .available
    credentials dateTimeStr host uri small has admitted formatted hostFound
    (Or.inr rfl) splits (fun fits => Or.inl (located fits))
    (fun _ => Or.inr rfl) (Or.inl rfl)
  cases signs : signAwsRequestInfo primitives .available info with
  | ok signed => exact ends.of_ok signs
  | error fault =>
      have tooLong := ends.of_error signs
      exact absurd (Or.inr (Or.inr tooLong)) (noFailure _ _ signs)

/-- A small request is signed without a failure for a length if and only if what
is put into its headers is within the limits. -/
theorem noLengthFailure_iff_within (small : info.Small)
    (has : info.awsCredentials = some credentials)
    (admitted : credentials.accessKeyId.length ≤ MAX_ACCESS_KEY_LEN) :
    NoLengthFailure primitives info ↔
      WithinSigningLimits primitives info credentials := by
  constructor
  · intro noFailure
    cases formatted : primitives.dateTime
        (info.currentTime / HUNDREDS_OF_NANOS_IN_A_SECOND) with
    | none =>
        have fails : signAwsRequestInfo primitives .available info =
            .error (.failed .bufferTooSmall) := by
          rw [signAwsRequestInfo, checkSome_eq_ok.mpr has, ok_bind,
            generateSignatureDateTime, formatted]
          rfl
        exact absurd (Or.inl rfl) (noFailure _ _ fails)
    | some dateTimeStr =>
        constructor
        case date => rw [formatted, Option.isSome_some]
        case host =>
            intro host hostFound
            obtain ⟨uri, splits⟩ :=
              (getRequestHost_iff_uri _).mp ⟨host, hostFound⟩
            by_contra tooLong
            exact tooLong (noFailure.fits small has admitted formatted
              hostFound splits fun fits => absurd fits tooLong).1
        case token =>
            intro uri splits hasPath
            obtain ⟨host, hostFound⟩ :=
              (getRequestHost_iff_uri info.url_unterminated).mpr ⟨uri, splits⟩
            exact (noFailure.fits small has admitted formatted hostFound
              splits fun _ => hasPath).2
  · rintro ⟨date, hostFits, tokenFits⟩ memory fault fails
    obtain ⟨dateTimeStr, formatted⟩ := Option.isSome_iff_exists.mp date
    cases hostFound : getRequestHost info.url info.url_unterminated with
    | error unlocated =>
        rw [signAwsRequestInfo, checkSome_eq_ok.mpr has, ok_bind,
          generateSignatureDateTime, formatted, checkSome, ok_bind,
          hostFound] at fails
        cases fails
        rw [getRequestHost_eq_error hostFound]
        decide
    | ok host =>
        obtain ⟨uri, splits⟩ :=
          (getRequestHost_iff_uri _).mp ⟨host, hostFound⟩
        have ends := @signAwsRequestInfo_ends (fun fault => ¬ fault.OfLength)
          primitives info memory credentials dateTimeStr host uri small has
          admitted formatted hostFound (Or.inl (hostFits host hostFound))
          splits (fun _ => Or.inr (by decide))
          (fun hasPath => Or.inl (tokenFits uri splits hasPath))
          (Or.inr (by decide))
        exact ends.of_error fails

end Limits

end Common

end KvsProducer
