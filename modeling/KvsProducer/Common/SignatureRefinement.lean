import KvsProducer.Common.AwsV4Signer

/-!
# The signature refines the reference

What the generators write is put together to the text of the reference, over
the headers that the signer takes for canonical.  These are the canonical
headers of the reference unless a name that is excluded is spelled in another
case.
-/

namespace KvsProducer

namespace Common

open StableInsertion

variable {primitives : Primitives} {info : RequestInfo}

/-- A header as it is signed. -/
def RequestHeader.canonical (primitives : Primitives)
    (header : RequestHeader) : Bytes × Bytes :=
  (tolowerstr header.name, primitives.trimstrall header.value)

/-- The headers that the signer signs. -/
def signedPairs (primitives : Primitives) (headers : List RequestHeader) :
    List (Bytes × Bytes) :=
  (canonicalHeaders headers).map (·.canonical primitives)

theorem signedPairs_names (headers : List RequestHeader) :
    (signedPairs primitives headers).map Prod.fst = canonicalNames headers := by
  simp [signedPairs, canonicalNames, RequestHeader.canonical]

theorem text_canonical {buffer : Nat} {headers : List RequestHeader}
    {text : Bytes}
    (generates : (generateCanonicalHeaders primitives.trimstrall headers
      (some buffer)).text = .ok text) :
    text = SigV4.canonicalText (signedPairs primitives headers) := by
  simp only [Generated.text, bind_eq_ok, checkStatus_eq_ok, Except.ok.injEq]
    at generates
  obtain ⟨_, succeeds, rfl⟩ := generates
  have written := ((generateCanonicalHeaders_generates primitives.trimstrall
    headers).of_ok succeeds).2.1
  rw [written, render_canonical, SigV4.canonicalText, signedPairs,
    List.flatMap_map]
  rfl

theorem text_signed (primitives : Primitives) {buffer : Nat} {headers : List RequestHeader}
    {text : Bytes}
    (generates : (generateSignedHeaders headers (some buffer)).text =
      .ok text) :
    text = SigV4.signedText (signedPairs primitives headers) := by
  simp only [Generated.text, bind_eq_ok, checkStatus_eq_ok, Except.ok.injEq]
    at generates
  obtain ⟨_, succeeds, rfl⟩ := generates
  have written := ((generateSignedHeaders_generates headers).of_ok succeeds).2.1
  rw [written, render_signed, SigV4.signedText, signedPairs_names]

theorem appendLine_eq_ok {requestLen : Nat} {written line after : Bytes} :
    appendLine requestLen written line = .ok after ↔
      written.length + line.length + 1 ≤ requestLen ∧
        after = written ++ line ++ [byte '\n'] := by
  simp only [appendLine, bind_eq_ok, check_eq_ok, Except.ok.injEq]
  constructor
  · rintro ⟨_, fits, rfl⟩
    exact ⟨fits, rfl⟩
  · rintro ⟨fits, rfl⟩
    exact ⟨(), fits, rfl⟩

/-- The request that the reference signs. -/
def referenceRequest (info : RequestInfo) (credentials : AwsCredentials)
    (path query dateTimeStr : Bytes) (headers : List (Bytes × Bytes)) :
    SigV4.Request :=
  { verb := getRequestVerbString info.verb
    path := path
    query := query
    headers := headers
    body := info.body
    dateTime := dateTimeStr
    region := info.region
    service := KINESIS_VIDEO_SERVICE_NAME
    accessKeyId := credentials.accessKeyId
    secretKey := credentials.secretKey }

variable (credentials : AwsCredentials) (path query dateTimeStr : Bytes)
variable (headers : List (Bytes × Bytes))

theorem generateCanonicalRequestString_eq_ok {requestLen : Nat}
    {filled : Filled} {uri : CanonicalUri}
    (splits : getCanonicalUri info.url = .ok uri)
    (generates : generateCanonicalRequestString primitives info
      (some requestLen) = .ok filled) :
    filled.written =
      SigV4.canonicalRequest primitives
        (referenceRequest info credentials (uri.path.getD [])
          (uri.rest.drop 1) dateTimeStr headers)
        (signedPairs primitives info.requestHeaders) := by
  simp only [generateCanonicalRequestString, bind_eq_ok, appendLine_eq_ok,
    splits, check_eq_ok, defined_eq_ok, Except.ok.injEq] at generates
  obtain ⟨_, ⟨-, rfl⟩, _, rfl, _, -, _, ⟨-, rfl⟩, _, ⟨-, rfl⟩, canonical,
    canonicalWritten, _, ⟨-, rfl⟩, signed, signedWritten, _, ⟨-, rfl⟩, _, -,
    rfl⟩ := generates
  rw [text_canonical canonicalWritten, text_signed primitives signedWritten]
  simp [SigV4.canonicalRequest, referenceRequest, List.intercalate]

theorem generateCredentialScope_eq_ok {scopeLen : Nat} {filled : Filled}
    (roomy : (credentialScopeText info dateTimeStr).length < scopeLen)
    (generates : generateCredentialScope info dateTimeStr (some scopeLen) =
      .ok filled) :
    filled.written =
        SigV4.credentialScope
          (referenceRequest info credentials path query dateTimeStr headers) ∧
      filled.length = filled.written.length := by
  simp only [generateCredentialScope, bind_eq_ok, check_eq_ok, Except.ok.injEq]
    at generates
  obtain ⟨_, -, rfl⟩ := generates
  have whole : snprintf scopeLen (credentialScopeText info dateTimeStr) =
      credentialScopeText info dateTimeStr := by
    apply List.take_of_length_le
    omega
  rw [whole]
  refine ⟨?_, rfl⟩
  simp [credentialScopeText, SigV4.credentialScope, referenceRequest,
    List.intercalate, SIGNATURE_DATE_STRING_LEN, AWS_SIG_V4_SIGNATURE_END,
    SigV4.terminator]

theorem length_credentialScopeText_lt :
    (credentialScopeText info dateTimeStr).length < 173 := by
  have region := info.region_le
  have date := List.length_take_le SIGNATURE_DATE_STRING_LEN dateTimeStr
  have service : KINESIS_VIDEO_SERVICE_NAME.length = 12 := by decide
  have terminator : AWS_SIG_V4_SIGNATURE_END.length = 12 := by decide
  simp only [MAX_REGION_NAME_LEN] at region
  simp only [SIGNATURE_DATE_STRING_LEN] at date
  simp only [credentialScopeText, List.length_append, List.length_singleton,
    SIGNATURE_DATE_STRING_LEN, service, terminator]
  omega

theorem generateCredentialScope_none :
    generateCredentialScope info dateTimeStr none =
      .ok
        { length := 173
          written := [] } := by
  rfl

/-- The signature of the code is the one of the reference, over the headers
that the code signs, whether it is for a header or for the query. -/
theorem generateAwsSigV4Signature_refines {memory : SigningMemory}
    {uri : CanonicalUri} {authHeaders : Bool} {signingInfo : Bytes}
    (has : info.awsCredentials = some credentials)
    (splits : getCanonicalUri info.url = .ok uri)
    (generates : generateAwsSigV4Signature primitives memory info dateTimeStr
      authHeaders = .ok signingInfo) :
    signingInfo =
      if authHeaders then
        SigV4.authorizationOf primitives
          (referenceRequest info credentials (uri.path.getD [])
            (uri.rest.drop 1) dateTimeStr headers)
          (signedPairs primitives info.requestHeaders)
      else
        signatureParamText (SigV4.signature primitives
          (referenceRequest info credentials (uri.path.getD [])
            (uri.rest.drop 1) dateTimeStr headers)
          (signedPairs primitives info.requestHeaders)) := by
  simp only [generateAwsSigV4Signature, has, generateCredentialScope_none,
    bind_eq_ok, check_eq_ok, checkSome_eq_ok, checkStatus_eq_ok,
    defined_eq_ok, Except.ok.injEq, Option.some.injEq] at generates
  obtain ⟨_, rfl, sizing, -, _, rfl, _, -, _, -, request, requestOk, _, -,
    scope, scopeOk, _, -, signed, signedOk, _, -, _, -, _, -, _, -, rfl⟩ :=
    generates
  have canonical := generateCanonicalRequestString_eq_ok credentials
    dateTimeStr headers splits requestOk
  obtain ⟨scopeText, -⟩ := generateCredentialScope_eq_ok credentials
    (uri.path.getD []) (uri.rest.drop 1) dateTimeStr headers
    (length_credentialScopeText_lt dateTimeStr) scopeOk
  rw [text_signed primitives signedOk, scopeText, canonical]
  cases authHeaders <;>
    simp [authHeaderText, SigV4.authorizationOf, SigV4.signature,
      signatureHmac, signedStringText, SigV4.stringToSign, SigV4.signingKey,
      referenceRequest, AWS_SIG_V4_ALGORITHM, SigV4.algorithm,
      AWS_SIG_V4_SIGNATURE_START, AWS_SIG_V4_SIGNATURE_END, SigV4.terminator,
      SIGNATURE_DATE_STRING_LEN, List.intercalate]

theorem setHeader_eq_ok {memory : HeaderMemory} {name value : Bytes}
    {after : RequestInfo} (nameUnterminated : NUL ∉ name)
    (valueUnterminated : NUL ∉ value)
    (sets : setHeader memory name value info = .ok after) :
    ∃ header : RequestHeader, header.name = name ∧ header.value = value ∧
      after =
        { info with
          requestHeaders :=
            insertAfter RequestHeader.NameLe header info.requestHeaders } := by
  simp only [setHeader, bind_eq_ok, checkStatus_eq_ok, Except.ok.injEq] at sets
  obtain ⟨_, called, rfl⟩ := sets
  obtain ⟨header, created, -, rfl⟩ := setRequestHeader_eq_ok called
  obtain ⟨_, _, named, valued, headerName, headerValue⟩ :=
    createRequestHeader_eq_ok created
  cases named
  cases valued
  rw [SizedString.value_ofBuffer nameUnterminated] at headerName
  rw [SizedString.value_ofBuffer valueUnterminated] at headerValue
  exact ⟨header, headerName, headerValue, rfl⟩

/-- The headers that the signer sets before it signs. -/
def signerHeaders (info : RequestInfo) (host dateTimeStr : Bytes) :
    List (Bytes × Bytes) :=
  [(bytes "host", host), (bytes "X-Amz-Date", dateTimeStr),
    (bytes "content-type", bytes "application/json")] ++
    match info.body with
    | none => []
    | some body => [(bytes "content-length", ultostr body.length)]

/-- Every name that the signer sets is in lower case, or signed. -/
theorem signerHeaders_excluded {host dateTimeStr : Bytes}
    {header : Bytes × Bytes}
    (listed : header ∈ signerHeaders info host dateTimeStr)
    (excluded : tolowerstr header.1 ∈ excludedNames.map tolowerstr) :
    header.1 ∈ excludedNames := by
  have names : header.1 ∈ [bytes "host", bytes "X-Amz-Date",
      bytes "content-type", bytes "content-length"] := by
    unfold signerHeaders at listed
    cases body : info.body with
    | none =>
        simp only [body, List.append_nil, List.mem_cons, List.not_mem_nil,
          or_false] at listed
        rcases listed with rfl | rfl | rfl <;> simp
    | some text =>
        simp only [body, List.cons_append, List.nil_append, List.mem_cons,
          List.not_mem_nil, or_false] at listed
        rcases listed with rfl | rfl | rfl | rfl <;> simp
  generalize header.1 = name at names excluded
  revert excluded
  revert name
  decide

/-- A name and a value of a header. -/
def RequestHeader.pair (header : RequestHeader) : Bytes × Bytes :=
  (header.name, header.value)

/-- The headers of a request after others have been set. -/
def setAll (headers added : List RequestHeader) : List RequestHeader :=
  added.foldl (fun headers header =>
    insertAfter RequestHeader.NameLe header headers) headers

theorem setAll_insertionSort (set added : List RequestHeader) :
    setAll (set.insertionSort RequestHeader.NameLe) added =
      (set ++ added).insertionSort RequestHeader.NameLe := by
  rw [setAll, ← foldl_insertAfter, ← foldl_insertAfter, List.foldl_append]

theorem setContentLength_eq_ok {memory : HeaderMemory} {after : RequestInfo}
    (sets : setContentLength memory info = .ok after) :
    ∃ added : List RequestHeader,
      added.map RequestHeader.pair =
          (match info.body with
          | none => []
          | some body => [(bytes "content-length", ultostr body.length)]) ∧
        after =
          { info with requestHeaders := setAll info.requestHeaders added } := by
  obtain noBody | ⟨body, hasBody⟩ := Option.eq_none_or_eq_some info.body
  · rw [setContentLength, noBody] at sets
    cases sets
    refine ⟨[], ?_, rfl⟩
    rw [noBody]
    rfl
  · rw [setContentLength, hasBody] at sets
    obtain ⟨header, name, value, rfl⟩ := setHeader_eq_ok (by decide)
      (nul_not_mem_ultostr _) sets
    refine ⟨[header], ?_, rfl⟩
    rw [hasBody]
    simp [RequestHeader.pair, name, value]

theorem setSecurityToken_keeps {memory : HeaderMemory}
    {credentials : AwsCredentials} {after : RequestInfo}
    {header : RequestHeader}
    (sets : setSecurityToken memory credentials info = .ok after)
    (listed : header ∈ info.requestHeaders) :
    header ∈ after.requestHeaders := by
  unfold setSecurityToken at sets
  split at sets
  · obtain ⟨added, -, -, rfl⟩ :=
      setHeader_eq_ok (by decide) credentials.nul_not_mem_sessionToken sets
    exact (mem_insertAfter _).mpr (Or.inr listed)
  · cases sets
    exact listed

/-- What the signer has done when it succeeds. -/
theorem signAwsRequestInfo_eq_ok {memory : SigningMemory}
    {signed : SignedRequest}
    (signs : signAwsRequestInfo primitives memory info = .ok signed) :
    ∃ credentials dateTimeStr host added,
      info.awsCredentials = some credentials ∧
        generateSignatureDateTime primitives info.currentTime =
          .ok dateTimeStr ∧
        getRequestHost info.url info.url_unterminated = .ok host ∧
        added.map RequestHeader.pair =
          signerHeaders info host.value dateTimeStr ∧
        generateAwsSigV4Signature primitives memory
          { info with requestHeaders := setAll info.requestHeaders added }
          dateTimeStr true = .ok signed.authorization ∧
        (NUL ∉ signed.authorization →
          ∃ header ∈ signed.requestHeaders,
            header.name = AWS_SIG_V4_HEADER_AUTH ∧
              header.value = signed.authorization) := by
  simp only [signAwsRequestInfo, bind_eq_ok, checkSome_eq_ok,
    checkStatus_eq_ok, Except.ok.injEq] at signs
  obtain ⟨credentials, has, dateTimeStr, formatted, host, hostFound, headers,
    hostSet, dated, dateSet, typed, typeSet, sized, lengthSet, signature,
    generates, authorized, authSet, final, tokenSet, rfl⟩ := signs
  obtain ⟨hostHeader, hostCreated, -, rfl⟩ := setRequestHeader_eq_ok hostSet
  obtain ⟨_, _, named, valued, hostName, hostValue⟩ :=
    createRequestHeader_eq_ok hostCreated
  cases named
  cases valued
  rw [SizedString.value_ofBuffer (by decide)] at hostName
  have dateUnterminated : NUL ∉ dateTimeStr := by
    simp only [generateSignatureDateTime, checkSome_eq_ok] at formatted
    exact primitives.dateTime_unterminated _ _ formatted
  obtain ⟨dateHeader, dateName, dateValue, rfl⟩ :=
    setHeader_eq_ok (by decide) dateUnterminated dateSet
  obtain ⟨typeHeader, typeName, typeValue, rfl⟩ :=
    setHeader_eq_ok (by decide) (by decide) typeSet
  obtain ⟨lengthHeaders, lengthPairs, rfl⟩ := setContentLength_eq_ok lengthSet
  refine ⟨credentials, dateTimeStr, host,
    [hostHeader, dateHeader, typeHeader] ++ lengthHeaders, has, formatted,
    hostFound, ?_, ?_, ?_⟩
  · rw [List.map_append, lengthPairs]
    simp [RequestHeader.pair, signerHeaders, hostName, hostValue, dateName,
      dateValue, typeName, typeValue, AWS_SIG_V4_HEADER_HOST,
      AWS_SIG_V4_HEADER_AMZ_DATE, AWS_SIG_V4_CONTENT_TYPE_NAME,
      AWS_SIG_V4_CONTENT_TYPE_VALUE]
  · rw [setAll, List.foldl_append]
    exact generates
  · intro unterminated
    obtain ⟨header, name, value, rfl⟩ :=
      setHeader_eq_ok (by decide) unterminated authSet
    refine ⟨header, setSecurityToken_keeps tokenSet ?_, name, value⟩
    exact (mem_insertAfter _).mpr (Or.inl rfl)

theorem mem_setAll {header : RequestHeader}
    {headers added : List RequestHeader} :
    header ∈ setAll headers added ↔ header ∈ headers ∨ header ∈ added := by
  induction added generalizing headers with
  | nil => simp [setAll]
  | cons first rest induction =>
      have later : header ∈ setAll headers (first :: rest) ↔
          header ∈ insertAfter RequestHeader.NameLe first headers ∨
            header ∈ rest := induction
      rw [later, mem_insertAfter, List.mem_cons]
      tauto

theorem unsignedNames_eq :
    SigV4.unsignedNames = excludedNames.map tolowerstr := by
  decide

/-- The canonical headers of the reference are those that the signer signs and
that are not excluded ignoring case. -/
theorem canonicalHeaders_reference (set : List RequestHeader) :
    SigV4.canonicalHeaders primitives
        (referenceRequest info credentials path query dateTimeStr
          (set.map RequestHeader.pair)) =
      (signedPairs primitives
        (set.insertionSort RequestHeader.NameLe)).filter fun header =>
          header.1 ∉ SigV4.unsignedNames := by
  have sorts :
      (set.map (·.canonical primitives)).insertionSort SigV4.NameLe =
        (set.insertionSort RequestHeader.NameLe).map
          (·.canonical primitives) := by
    symm
    apply List.map_insertionSort
    intro first _ second _
    exact Iff.rfl
  have maps :
      ((referenceRequest info credentials path query dateTimeStr
        (set.map RequestHeader.pair)).headers.map fun header =>
          (tolowerstr header.1, primitives.trimstrall header.2)) =
        set.map (·.canonical primitives) := by
    simp [referenceRequest, RequestHeader.pair, RequestHeader.canonical]
  rw [SigV4.canonicalHeaders_eq, maps, sorts, signedPairs, canonicalHeaders,
    List.filter_map, List.filter_map, List.filter_filter]
  congr 1
  apply List.filter_congr
  intro header _
  have excluded : header.name ∈ excludedNames →
      tolowerstr header.name ∈ SigV4.unsignedNames := by
    intro member
    rw [unsignedNames_eq]
    exact List.mem_map_of_mem member
  by_cases canonical : isCanonicalHeaderName header.name
  · simp [canonical]
  · have unsigned := excluded (by
      simpa [isCanonicalHeaderName_iff] using canonical)
    simp [RequestHeader.canonical, unsigned]

/-- The header is the one of the reference if and only if nothing that the
reference leaves out has been signed. -/
theorem authorizationOf_filter_iff {request : SigV4.Request}
    {signed : List (Bytes × Bytes)}
    (nonempty : ∀ header ∈ signed, header.1 ≠ []) :
    SigV4.authorizationOf primitives request
          (signed.filter fun header => header.1 ∉ SigV4.unsignedNames) =
        SigV4.authorizationOf primitives request signed ↔
      ∀ header ∈ signed, header.1 ∉ SigV4.unsignedNames := by
  constructor
  · intro same header listed excluded
    have lengths := SigV4.length_signedText_of_authorizationOf _ _ same
    have shorter : (SigV4.signedText (signed.filter fun header =>
        header.1 ∉ SigV4.unsignedNames)).length <
          (SigV4.signedText signed).length := by
      apply SigV4.signedText_filter_lt signed listed
      · simpa using excluded
      · exact nonempty header listed
    omega
  · intro unexcluded
    rw [List.filter_eq_self.mpr]
    simpa using unexcluded

theorem excludedExactly_setAll {headers added : List RequestHeader}
    {host dateTimeStr : Bytes}
    (pairs : added.map RequestHeader.pair =
      signerHeaders info host dateTimeStr) :
    ExcludedExactly (setAll headers added) ↔ ExcludedExactly headers := by
  constructor
  · intro exactly header listed
    exact exactly header (mem_setAll.mpr (Or.inl listed))
  · intro exactly header listed excluded
    rcases mem_setAll.mp listed with before | set
    · exact exactly header before excluded
    · have pair : header.pair ∈ signerHeaders info host dateTimeStr := by
        rw [← pairs]
        exact List.mem_map_of_mem set
      exact signerHeaders_excluded pair excluded

/-- The header that the service expects for a request to a URL whose headers
have been set with the calls. -/
def referenceAuthorization (primitives : Primitives) (info : RequestInfo)
    (url : Url) (calls : List SetHeader) : Option Bytes := do
  let credentials ← info.awsCredentials
  let dateTimeStr ←
    primitives.dateTime (info.currentTime / HUNDREDS_OF_NANOS_IN_A_SECOND)
  some
    (SigV4.authorization primitives
      (referenceRequest info credentials url.path (url.query.getD [])
        dateTimeStr
        ((headersSet calls).map RequestHeader.pair ++
          signerHeaders info url.host dateTimeStr)))

/-- The header that has been set is the one that the service expects. -/
structure SignedRequest.Refines (signed : SignedRequest)
    (primitives : Primitives) (info : RequestInfo) (url : Url)
    (calls : List SetHeader) : Prop where
  set : ∃ header ∈ signed.requestHeaders,
    header.name = AWS_SIG_V4_HEADER_AUTH ∧
      header.value = signed.authorization
  expected :
    referenceAuthorization primitives info url calls =
      some signed.authorization

theorem nul_not_mem_tolowerstr {text : Bytes} (unterminated : NUL ∉ text) :
    NUL ∉ tolowerstr text := by
  intro member
  obtain ⟨c, listed, lower⟩ := List.mem_map.mp member
  have nul : tolower c = NUL → c = NUL := by
    refine forall_byte c ?_
    decide +kernel
  rw [nul lower] at listed
  exact unterminated listed

theorem nul_not_mem_intercalate {separator : Bytes} {texts : List Bytes}
    (plain : NUL ∉ separator) (each : ∀ text ∈ texts, NUL ∉ text) :
    NUL ∉ separator.intercalate texts := by
  cases texts with
  | nil => simp [List.intercalate]
  | cons text texts =>
      rw [intercalate_cons]
      simp only [List.mem_append, List.mem_flatMap, not_or, not_exists,
        not_and]
      refine ⟨each text List.mem_cons_self, fun later listed => ?_⟩
      exact ⟨plain, each later (List.mem_cons_of_mem _ listed)⟩

theorem nul_not_mem_signedText (headers : List RequestHeader) :
    NUL ∉ SigV4.signedText (signedPairs primitives headers) := by
  rw [SigV4.signedText, signedPairs_names]
  apply nul_not_mem_intercalate (by decide)
  intro name listed
  obtain ⟨header, -, -, rfl⟩ := mem_canonicalNames.mp listed
  exact nul_not_mem_tolowerstr header.name_unterminated

theorem nul_not_mem_authorizationOf (headers : List (Bytes × Bytes))
    (signed : List RequestHeader) (unterminated : NUL ∉ dateTimeStr) :
    NUL ∉ SigV4.authorizationOf primitives
      (referenceRequest info credentials path query dateTimeStr headers)
      (signedPairs primitives signed) := by
  have date : NUL ∉ dateTimeStr.take 8 :=
    fun member => unterminated (List.mem_of_mem_take member)
  have names : NUL ∉ SigV4.signedText (signedPairs primitives signed) :=
    nul_not_mem_signedText signed
  have hex := primitives.hexEncode_unterminated
  have scope : NUL ∉ SigV4.credentialScope
      (referenceRequest info credentials path query dateTimeStr headers) := by
    have service : NUL ∉ KINESIS_VIDEO_SERVICE_NAME := by decide
    have terminator : NUL ∉ SigV4.terminator := by decide
    have slash : NUL ≠ byte '/' := by decide
    simp [SigV4.credentialScope, referenceRequest, List.intercalate, date,
      info.region_unterminated, service, terminator, slash]
  simp only [SigV4.authorizationOf, SigV4.signature, List.mem_append, not_or]
  exact ⟨⟨⟨⟨⟨⟨⟨⟨by decide, by decide⟩, credentials.accessKeyId_unterminated⟩,
    by decide⟩, scope⟩, by decide⟩, names⟩, by decide⟩, hex _⟩

/-- The header that is set is the one of the reference, if and only if no
header has a name that is excluded in lower case but not as it is. -/
theorem authorization_refines_iff (memory : SigningMemory) (url : Url)
    (calls : List SetHeader) (signed : SignedRequest)
    (located : info.url = url.text) (host : url.host ≠ [])
    (path : url.path ≠ [])
    (built : info.requestHeaders = buildHeaders calls)
    (signs : signAwsRequestInfo primitives memory info = .ok signed) :
    signed.Refines primitives info url calls ↔
      ExcludedExactly info.requestHeaders := by
  obtain ⟨credentials, dateTimeStr, foundHost, added, has, formatted,
    hostFound, pairs, generates, sets⟩ := signAwsRequestInfo_eq_ok signs
  have hostText : foundHost.value = url.host := by
    apply url.getRequestHost_text host
    simpa only [located] using hostFound
  have splits : getCanonicalUri info.url =
      .ok
        { path := some url.path
          rest := url.queryText
          defaultPath := false } := by
    rw [located, url.getCanonicalUri_text path]
  have query : url.queryText.drop 1 = url.query.getD [] := by
    unfold UrlParts.queryText
    cases url.query <;> rfl
  simp only [generateSignatureDateTime, checkSome_eq_ok] at formatted
  have reference := @generateAwsSigV4Signature_refines primitives
    { info with requestHeaders := setAll info.requestHeaders added }
    credentials dateTimeStr ((headersSet calls ++ added).map RequestHeader.pair)
    memory _ true _ has splits generates
  rw [if_pos rfl, built, buildHeaders_eq, setAll_insertionSort] at reference
  have unterminated : NUL ∉ signed.authorization := by
    rw [reference]
    exact nul_not_mem_authorizationOf _ _ _ _ _ _
      (primitives.dateTime_unterminated _ _ formatted)
  have expected : referenceAuthorization primitives info url calls =
      some (SigV4.authorization primitives
        (referenceRequest info credentials url.path (url.queryText.drop 1)
          dateTimeStr
          ((headersSet calls ++ added).map RequestHeader.pair))) := by
    rw [List.map_append, pairs, hostText, query]
    simp [referenceAuthorization, has, formatted]
  have canonical : ExcludedExactly info.requestHeaders ↔
      ∀ header ∈ signedPairs primitives
          ((headersSet calls ++ added).insertionSort RequestHeader.NameLe),
        header.1 ∉ SigV4.unsignedNames := by
    rw [← excludedExactly_setAll pairs, built, buildHeaders_eq,
      setAll_insertionSort, excludedExactly_iff, ← signedPairs_names,
      unsignedNames_eq, List.forall_mem_map]
  have nonempty : ∀ header ∈ signedPairs primitives
      ((headersSet calls ++ added).insertionSort RequestHeader.NameLe),
      header.1 ≠ [] := by
    intro header listed
    obtain ⟨source, -, rfl⟩ := List.mem_map.mp listed
    have positive := source.name_pos
    rw [← length_tolowerstr] at positive
    exact List.ne_nil_of_length_pos positive
  rw [canonical, ← authorizationOf_filter_iff nonempty]
  constructor
  · intro refines
    have same := refines.expected
    rw [expected, Option.some.injEq, SigV4.authorization,
      canonicalHeaders_reference, reference] at same
    exact same
  · intro same
    constructor
    case set => exact sets unterminated
    case expected =>
        rw [expected, Option.some.injEq, SigV4.authorization,
          canonicalHeaders_reference, reference]
        exact same

/-- A digest with the digits of a number. -/
def digest (value : Nat) : Bytes :=
  (List.range 32).map fun i => (value / 256 ^ (31 - i)).toUInt8

/-- The lower-case hex digits of a buffer. -/
def lowerHex (data : Bytes) : Bytes :=
  data.flatMap fun c =>
    [(bytes "0123456789abcdef").getD (c / 16).toNat NUL,
      (bytes "0123456789abcdef").getD (c % 16).toNat NUL]

theorem nul_not_mem_lowerHex (data : Bytes) : NUL ∉ lowerHex data := by
  intro member
  obtain ⟨c, -, digit⟩ := List.mem_flatMap.mp member
  revert digit
  refine forall_byte c ?_
  decide +kernel

/-- What the functions return where a request of the sample is signed. -/
def samplePrimitives : Primitives :=
  { sha256 := fun message =>
      if message = bytes "\x7b\x7d" then digest
        0x44136fa355b3678a1146ad16f7e8649e94fb4fc21fe77e8310c060f61caaff8a
      else digest
        0x4e306d432733144342d37bdc22c6d8ea83a790db8145a01880a6811d1d43a908
    hmac := fun _ message =>
      if message = bytes "20130524" then digest
        0xa5a91d94fa9a905c91e89aa51df0d86aef33adf77e97d146ae28e8d85d0df909
      else if message = bytes "us-west-2" then digest
        0x3399494a74754b169ca42e1161b9395cac031b46d27eb568bdb781ce8ff25dc4
      else if message = bytes "kinesisvideo" then digest
        0x748b1cb2d0c383f9b069aafcee6f9fe44102284b7ddf1a668ac0c788e310fed4
      else if message = bytes "aws4_request" then digest
        0x7c4903999ca8c9ad2b6a41dc3268324b24bf1477bb0e0d54a885961a758c5e72
      else digest
        0x0049a8477d10eb3c93c3bd4a881b17459f0e90bbb5034e3b785dc6b8efa82175
    hexEncode := lowerHex
    dateTime := fun _ => some (bytes "20130524T000000Z")
    trimstrall := id
    length_sha256 := by
      intro message
      split <;> rfl
    length_hmac := by
      intro _ message
      split_ifs <;> rfl
    length_hexEncode := by
      intro data
      simp [lowerHex, List.length_flatMap, Nat.mul_comm]
    length_dateTime := by
      rintro _ _ ⟨⟩
      rfl
    length_trimstrall := fun text => Nat.le_refl text.length
    hexEncode_unterminated := nul_not_mem_lowerHex
    dateTime_unterminated := by
      rintro _ _ ⟨⟩
      decide }

def sampleMemory : SigningMemory :=
  { scratchBuf := true
    credentialScope := true
    signedHeaders := true
    signedStr := true
    host := .available
    amzDate := .available
    contentType := .available
    contentLength := .available
    auth := .available
    securityToken := .available }

def sampleUrl : Url :=
  { scheme := bytes "https"
    host := bytes "kinesisvideo.us-west-2.amazonaws.com"
    port := []
    path := bytes "/createStream"
    query := none
    scheme_plain := colon_not_mem_https
    host_plain := by decide +kernel
    port_colon := noPort_colon
    port_plain := noPort_plain
    path_slash := Or.inr ⟨bytes "createStream", by decide⟩
    path_plain := by decide
    unterminated := by decide }

def sampleCredentials : AwsCredentials :=
  { accessKeyId := bytes "AKIDEXAMPLE"
    secretKey := bytes "wJalrXUtnFEMI/K7MDENG+bPxRfiCYEXAMPLEKEY"
    sessionToken := none
    expiration := 0
    accessKeyId_unterminated := by decide
    secretKey_unterminated := by decide
    sessionToken_unterminated := by decide
    accessKeyId_pos := by decide
    secretKey_pos := by decide
    sessionToken_pos := by decide
    size_lt := by decide }

theorem sampleRegion_unterminated : NUL ∉ bytes "us-west-2" := by
  decide

theorem sampleRegion_le : (bytes "us-west-2").length ≤ MAX_REGION_NAME_LEN := by
  decide

/-- A request of which the headers have been set with the calls. -/
def sampleInfo (calls : List SetHeader) : RequestInfo :=
  { verb := .post
    body := some (bytes "\x7b\x7d")
    url := sampleUrl.text
    region := bytes "us-west-2"
    currentTime := 13693536000000000
    awsCredentials := some sampleCredentials
    requestHeaders := buildHeaders calls
    url_unterminated := sampleUrl.unterminated
    url_le := by decide
    region_unterminated := sampleRegion_unterminated
    region_le := sampleRegion_le }

/-- Set a header in a request for which there is memory. -/
def sampleHeader (name value : String) : SetHeader :=
  { memory := .available
    name := some (.ofBuffer (bytes name))
    value := some (.ofBuffer (bytes value)) }

theorem authorization_refines_sample :
    ∃ signed,
      signAwsRequestInfo samplePrimitives sampleMemory
          (sampleInfo [sampleHeader "user-agent" "agent"]) = .ok signed ∧
        signed.Refines samplePrimitives
          (sampleInfo [sampleHeader "user-agent" "agent"]) sampleUrl
          [sampleHeader "user-agent" "agent"] := by
  have succeeds : (signAwsRequestInfo samplePrimitives sampleMemory
      (sampleInfo [sampleHeader "user-agent" "agent"])).isOk = true := by
    decide +kernel
  obtain ⟨signed, signs⟩ := isOk_iff.mp succeeds
  refine ⟨signed, signs, ?_⟩
  rw [authorization_refines_iff sampleMemory sampleUrl
    [sampleHeader "user-agent" "agent"] signed rfl (by decide) (by decide)
    rfl signs]
  decide +kernel

/-- A content type that the application has set in another case is signed. -/
theorem authorization_not_refines :
    ¬ ∀ (primitives : Primitives) (memory : SigningMemory) (info : RequestInfo)
        (url : Url) (calls : List SetHeader) (signed : SignedRequest),
      info.url = url.text → url.host ≠ [] → url.path ≠ [] →
        info.requestHeaders = buildHeaders calls →
        signAwsRequestInfo primitives memory info = .ok signed →
        signed.Refines primitives info url calls := by
  intro claim
  have succeeds : (signAwsRequestInfo samplePrimitives sampleMemory
      (sampleInfo [sampleHeader "Content-Type" "text/plain"])).isOk = true := by
    decide +kernel
  have different : (signAwsRequestInfo samplePrimitives sampleMemory
        (sampleInfo [sampleHeader "Content-Type" "text/plain"])).toOption.map
          (·.authorization) ≠
      referenceAuthorization samplePrimitives
        (sampleInfo [sampleHeader "Content-Type" "text/plain"]) sampleUrl
        [sampleHeader "Content-Type" "text/plain"] := by
    decide +kernel
  obtain ⟨signed, signs⟩ := isOk_iff.mp succeeds
  have refines := claim samplePrimitives sampleMemory _ sampleUrl
    [sampleHeader "Content-Type" "text/plain"] signed rfl (by decide)
    (by decide) rfl signs
  rw [signs] at different
  exact different refines.expected.symm

end Common

end KvsProducer
