import KvsProducer.Common.CanonicalLength
import KvsProducer.Common.HostHeader
import KvsProducer.Common.QueryJoin

/-!
# The parameters of a signature

What `signAwsRequestInfoQueryParam` appends to the URL is a list of names and
values, and the query that it makes canonical is the one of the URL with these
behind it.
-/

namespace KvsProducer

namespace Common

open Outcome StableInsertion

/-! ### Names and values -/

/-- The names and the values, in the order of the template. -/
def AuthParams.pairs (params : AuthParams) : List (Bytes × Bytes) :=
  [(bytes "X-Amz-Algorithm", AWS_SIG_V4_ALGORITHM),
    (bytes "X-Amz-Credential", params.credential),
    (bytes "X-Amz-Date", params.date),
    (bytes "X-Amz-Expires", ultostr params.expires),
    (bytes "X-Amz-SignedHeaders", params.signedHeaders)] ++
    params.securityToken.toList.map (bytes "X-Amz-Security-Token", ·)

theorem AuthParams.text_eq (params : AuthParams) :
    params.text = pairsText params.pairs := by
  obtain ⟨credential, date, expires, signedHeaders, securityToken⟩ := params
  cases securityToken <;>
    simp [text, pairs, pairsText, pairText, bytes, byte]

theorem AuthParams.names (params : AuthParams) :
    ∀ pair ∈ params.pairs, ∀ c ∈ pair.1, c ≠ byte '&' ∧ c ≠ byte '=' := by
  have constants : ([bytes "X-Amz-Algorithm", bytes "X-Amz-Credential",
      bytes "X-Amz-Date", bytes "X-Amz-Expires", bytes "X-Amz-SignedHeaders",
      bytes "X-Amz-Security-Token"].all fun name =>
        name.all fun c => c != byte '&' && c != byte '=') = true := by
    decide +kernel
  simp only [List.all_eq_true, Bool.and_eq_true, bne_iff_ne] at constants
  intro pair listed
  apply constants
  simp only [pairs, List.cons_append, List.nil_append, List.mem_cons,
    List.mem_map] at listed
  rcases listed with rfl | rfl | rfl | rfl | rfl | ⟨token, -, rfl⟩ <;> simp

theorem AuthParams.text_pos (params : AuthParams) : 0 < params.text.length := by
  rw [text_eq, pairsText, pairs, List.cons_append, List.flatMap_cons]
  exact Nat.succ_pos _

theorem AuthParams.nul_not_mem_text {params : AuthParams}
    (credential : NUL ∉ params.credential) (date : NUL ∉ params.date)
    (signedHeaders : NUL ∉ params.signedHeaders)
    (securityToken : ∀ token ∈ params.securityToken, NUL ∉ token) :
    NUL ∉ params.text := by
  have constants : ([bytes "&X-Amz-Algorithm=", AWS_SIG_V4_ALGORITHM,
      bytes "&X-Amz-Credential=", bytes "&X-Amz-Date=",
      bytes "&X-Amz-Expires=", bytes "&X-Amz-SignedHeaders=",
      bytes "&X-Amz-Security-Token="].all fun text =>
        text.all fun c => c != NUL) = true := by
    decide +kernel
  simp only [List.all_cons, List.all_nil, Bool.and_eq_true, Bool.and_true]
    at constants
  have plain {text : Bytes} (nowhere : (text.all fun c => c != NUL) = true) :
      NUL ∉ text := by
    intro member
    have different := List.all_eq_true.mp nowhere NUL member
    simp at different
  obtain ⟨algorithmName, algorithm, credentialName, dateName, expiresName,
    headersName, tokenName⟩ := constants
  simp only [text, List.mem_append, not_or]
  refine ⟨⟨⟨⟨⟨⟨⟨⟨⟨⟨plain algorithmName, plain algorithm⟩,
    plain credentialName⟩, credential⟩, plain dateName⟩, date⟩,
    plain expiresName⟩, nul_not_mem_ultostr _⟩, plain headersName⟩,
    signedHeaders⟩, ?_⟩
  cases given : params.securityToken with
  | none => simp
  | some token =>
      simp only [List.mem_append, not_or]
      exact ⟨plain tokenName, securityToken token given⟩

/-! ### The canonical URI -/

theorem strstr_prefix_found {pattern text found : Bytes}
    (finds : strstr pattern text = some found) : pattern <+: found := by
  induction text with
  | nil =>
      simp only [strstr] at finds
      split at finds
      · rename_i starts
        cases finds
        exact List.isPrefixOf_iff_prefix.mp starts
      · cases finds
  | cons c rest induction =>
      simp only [strstr] at finds
      split at finds
      · rename_i starts
        cases finds
        exact List.isPrefixOf_iff_prefix.mp starts
      · exact induction finds

theorem strstr_congr {pattern before text found : Bytes} (other : Bytes)
    (finds : strstr pattern (before ++ text) = some (found ++ text))
    (nonempty : pattern ≠ []) (long : pattern.length ≤ found.length) :
    strstr pattern (before ++ other) = some (found ++ other) := by
  have positive := List.length_pos_of_ne_nil nonempty
  have shorter := (strstr_suffix finds).length_le
  simp only [List.length_append] at shorter
  induction before with
  | nil =>
      simp only [List.length_nil] at shorter
      omega
  | cons c before induction =>
      have same (behind : Bytes) :
          pattern.isPrefixOf (c :: before ++ behind) = true ↔
            pattern <+: c :: before := by
        rw [List.isPrefixOf_iff_prefix]
        constructor
        · intro starts
          apply List.prefix_of_prefix_length_le starts
          · exact List.prefix_append _ _
          · omega
        · intro starts
          exact starts.trans (List.prefix_append _ _)
      simp only [List.cons_append, strstr] at finds same ⊢
      by_cases starts : pattern <+: c :: before
      · rw [if_pos ((same text).mpr starts), Option.some.injEq,
          ← List.cons_append, List.append_cancel_right_eq] at finds
        rw [if_pos ((same other).mpr starts), ← finds, List.cons_append]
      · rw [if_neg (mt (same text).mp starts)] at finds
        rw [if_neg (mt (same other).mp starts)]
        apply induction finds
        have later := (strstr_suffix finds).length_le
        simp only [List.length_append] at later
        omega

theorem findPath_query {authority : Bytes} (plain : byte '?' ∉ authority) :
    ∃ path defaultPath, ∀ query,
      findPath (authority ++ byte '?' :: query) =
        { path := some path
          rest := byte '?' :: query
          defaultPath := defaultPath } := by
  induction authority with
  | nil => exact ⟨_, _, fun query => if_pos rfl⟩
  | cons c authority induction =>
      have notQuestion : c ≠ byte '?' := by
        intro question
        exact plain (question ▸ List.mem_cons_self)
      by_cases slash : c = byte '/'
      · refine ⟨c :: authority, false, ?_⟩
        intro query
        have path := takeWhile_before plain
          (.inr ⟨query, rfl⟩ : byte '?' :: query = [] ∨ _)
        have split := List.takeWhile_append_dropWhile
          (p := (· ≠ byte '?')) (l := c :: authority ++ byte '?' :: query)
        rw [path, List.append_cancel_left_eq] at split
        rw [List.cons_append] at path split ⊢
        rw [findPath, if_neg notQuestion, if_pos slash, path, split]
      · obtain ⟨path, defaultPath, found⟩ :=
          induction (fun member => plain (List.mem_cons_of_mem _ member))
        refine ⟨path, defaultPath, ?_⟩
        intro query
        rw [List.cons_append, findPath, if_neg notQuestion, if_neg slash]
        exact found query

theorem getCanonicalUri_query {before query : Bytes}
    (has : queryInUrl (before ++ byte '?' :: query) = some query) :
    ∃ path defaultPath, ∀ other,
      getCanonicalUri (before ++ byte '?' :: other) =
          .ok
            { path := some path
              rest := byte '?' :: other
              defaultPath := defaultPath } ∧
        queryInUrl (before ++ byte '?' :: other) = some other := by
  obtain ⟨start, found, behind⟩ := Option.bind_eq_some_iff.mp has
  have split := List.takeWhile_append_dropWhile
    (p := (· ≠ byte '?')) (l := start)
  have plain := takeWhile_ne_plain start (byte '?')
  rw [behindQuestionMark_eq_some behind] at split
  generalize start.takeWhile (· ≠ byte '?') = authority at split plain
  subst split
  obtain ⟨path, defaultPath, located⟩ := findPath_query plain
  obtain ⟨scheme, finds, drops⟩ := Option.map_eq_some_iff.mp found
  obtain ⟨later, rfl⟩ := strstr_prefix_found finds
  rw [List.drop_left] at drops
  rw [drops, ← List.append_assoc] at finds
  refine ⟨path, defaultPath, ?_⟩
  intro other
  have after : afterScheme (before ++ byte '?' :: other) =
      some (authority ++ byte '?' :: other) := by
    rw [afterScheme, strstr_congr (byte '?' :: other) finds (by decide)
      (by simp), Option.map_some, List.append_assoc, List.drop_left]
  constructor
  · rw [getCanonicalUri, after, ← located other]
    exact if_neg (by simp)
  · rw [queryInUrl, after, Option.bind_some, behindQuestionMark]
    have stops : ∀ c ∈ authority, decide (c ≠ byte '?') = true := by
      intro c member
      simp only [decide_eq_true_eq]
      rintro rfl
      exact plain member
    rw [List.dropWhile_append_of_pos stops,
      List.dropWhile_cons_of_neg (by simp)]

/-! ### What is appended -/

/-- `credsLen` as it is asked for. -/
def encodedCredentialsSize : Nat := 302

/-- The parameters of the signature of a request with its host header. -/
def authParams (info : RequestInfo) (credentials : AwsCredentials)
    (dateTimeStr : Bytes) : AuthParams :=
  authQueryParams info credentials dateTimeStr
    (encodedCredentialsText info credentials dateTimeStr)
    ([byte ';'].intercalate (canonicalNames info.requestHeaders))

/-- The parameters as they are appended: `SNPRINTF` cuts the credential off to
its buffer. -/
def appendedParams (info : RequestInfo) (credentials : AwsCredentials)
    (dateTimeStr : Bytes) : AuthParams :=
  authQueryParams info credentials dateTimeStr
    (snprintf encodedCredentialsSize
      (encodedCredentialsText info credentials dateTimeStr))
    ([byte ';'].intercalate (canonicalNames info.requestHeaders))

/-- The credentials, the time and the host header are there. -/
structure HasParams (primitives : Primitives) (memory : HeaderMemory)
    (info : RequestInfo) (credentials : AwsCredentials) (dateTimeStr : Bytes)
    (hostInfo : RequestInfo) : Prop where
  has : info.awsCredentials = some credentials
  formatted : primitives.dateTime
    (info.currentTime / HUNDREDS_OF_NANOS_IN_A_SECOND) = some dateTimeStr
  host : setHostHeader memory info = .ok hostInfo

/-- Each parameter of a query can be encoded. -/
def QueryEncodes (query : Bytes) : Prop :=
  ∀ start ∈ startsOf query, byte '=' ∈ paramText start ∧ CanEncode start

instance (query : Bytes) : Decidable (QueryEncodes query) :=
  inferInstanceAs (Decidable (∀ start ∈ startsOf query, _))

/-- The buffers of the credential and of the URL have room for the
parameters. -/
structure HasRoom (info : RequestInfo) (credentials : AwsCredentials)
    (dateTimeStr : Bytes) (hostInfo : RequestInfo) : Prop where
  credential : (encodedCredentialsText hostInfo credentials dateTimeStr).length ≤
    encodedCredentialsSize
  room : info.url.length +
    (appendedParams hostInfo credentials dateTimeStr).text.length <
      MAX_URI_CHAR_LEN

/-- The parameters are appended to the query. -/
structure Appends (info : RequestInfo) (query : Bytes)
    (credentials : AwsCredentials) (dateTimeStr : Bytes)
    (hostInfo : RequestInfo) : Prop
    extends HasRoom info credentials dateTimeStr hostInfo where
  encodes : QueryEncodes
    (query ++ (appendedParams hostInfo credentials dateTimeStr).text)

/-! ### The steps up to the copy -/

/-- Two requests differ in the URL at most. -/
structure SameButUrl (info after : RequestInfo) : Prop where
  verb : after.verb = info.verb
  body : after.body = info.body
  region : after.region = info.region
  currentTime : after.currentTime = info.currentTime
  awsCredentials : after.awsCredentials = info.awsCredentials
  requestHeaders : after.requestHeaders = info.requestHeaders

variable {primitives : Primitives} {info hostInfo after : RequestInfo}
variable {credentials : AwsCredentials} {dateTimeStr : Bytes}
variable {memory : QueryParamMemory}

theorem SameButUrl.trans {between : RequestInfo}
    (first : SameButUrl info between) (second : SameButUrl between after) :
    SameButUrl info after where
  verb := second.verb.trans first.verb
  body := second.body.trans first.body
  region := second.region.trans first.region
  currentTime := second.currentTime.trans first.currentTime
  awsCredentials := second.awsCredentials.trans first.awsCredentials
  requestHeaders := second.requestHeaders.trans first.requestHeaders

theorem SameButUrl.authParams (same : SameButUrl info after) :
    authParams after credentials dateTimeStr =
      authParams info credentials dateTimeStr := by
  simp only [Common.authParams, authQueryParams, encodedCredentialsText,
    same.region, same.currentTime, same.requestHeaders]

theorem setUrl_ok {url : Bytes} (plain : NUL ∉ url)
    (short : url.length ≤ MAX_URI_CHAR_LEN) :
    ∃ after, info.setUrl url = .ok after ∧ after.url = url ∧
      SameButUrl info after := by
  rw [RequestInfo.setUrl, dif_pos ⟨plain, short⟩]
  exact ⟨_, rfl, rfl, rfl, rfl, rfl, rfl, rfl, rfl⟩

theorem setUrl_eq_ok_same {url : Bytes} (sets : info.setUrl url = .ok after) :
    after.url = url ∧ SameButUrl info after := by
  unfold RequestInfo.setUrl at sets
  split at sets
  · cases sets
    exact ⟨rfl, rfl, rfl, rfl, rfl, rfl, rfl⟩
  · cases sets

theorem setRequestHeader_available {memory : HeaderMemory}
    {headers afterHeaders : List RequestHeader} {name value : Option SizedString}
    (sets : setRequestHeader memory headers name value = .ok afterHeaders) :
    memory = .available := by
  have allocated {flag : Bool} {header : RequestHeader}
      (created : createRequestHeader flag name value = .ok header) :
      flag = true := by
    unfold createRequestHeader at created
    split at created
    · split_ifs at created with nonempty nameFits valueFits given
      exact given
    · cases created
  unfold setRequestHeader at sets
  cases created : createRequestHeader memory.header name value with
  | error status =>
      rw [created] at sets
      split_ifs at sets <;> cases sets
  | ok header =>
      have flag := allocated created
      obtain ⟨headerFlag, node⟩ := memory
      rw [created] at sets
      split_ifs at sets with absent room given
      · simp only at flag given
        rw [flag, given]
        rfl
      · cases sets

theorem setHostHeader_failed {memory : HeaderMemory} {fault : Fault}
    (fails : setHostHeader memory info = .error fault) :
    ∃ status, fault = .failed status := by
  unfold setHostHeader at fails
  cases located : getRequestHost info.url info.url_unterminated with
  | error fault =>
      rw [located] at fails
      cases fails
      exact ⟨_, getRequestHost_eq_error located⟩
  | ok host =>
      rw [located, ok_bind] at fails
      cases called : setRequestHeader memory info.requestHeaders
          (some (.ofBuffer AWS_SIG_V4_HEADER_HOST)) (some host) with
      | ok headers =>
          rw [called] at fails
          cases fails
      | error status =>
          rw [called] at fails
          cases fails
          exact ⟨status, rfl⟩

theorem HasParams.available {memory : HeaderMemory}
    (given : HasParams primitives memory info credentials dateTimeStr
      hostInfo) : memory = .available := by
  have host := given.host
  simp only [setHostHeader, bind_eq_ok, checkStatus_eq_ok] at host
  obtain ⟨_, -, _, called, -⟩ := host
  exact setRequestHeader_available called

theorem HasParams.same {memory : HeaderMemory}
    (given : HasParams primitives memory info credentials dateTimeStr
      hostInfo) :
    hostInfo.url = info.url ∧ hostInfo.awsCredentials = some credentials ∧
      hostInfo.currentTime = info.currentTime ∧
      0 < hostInfo.requestHeaders.length := by
  obtain ⟨host, header, -, -, -, -, rfl⟩ := setHostHeader_eq_ok given.host
  refine ⟨rfl, given.has, rfl, ?_⟩
  simp only [length_insertAfter]
  exact Nat.succ_pos _

theorem text_signedHeaders (headers : List RequestHeader) :
    (generateSignedHeaders headers
        (some (generateSignedHeaders headers none).length)).text =
      .ok ([byte ';'].intercalate (canonicalNames headers)) := by
  have fills :=
    (generateSignedHeaders_generates headers).filling _ (Nat.le_refl _)
  rw [fills, ← render_signed]
  rfl

theorem status_signedHeaders (headers : List RequestHeader) :
    (generateSignedHeaders headers none).status = .ok () :=
  (generateSignedHeaders_generates headers).sizing.1

theorem generateEncodedCredentials_none :
    generateEncodedCredentials info credentials dateTimeStr none =
      .ok
        { length := encodedCredentialsSize
          written := [] } := rfl

theorem generateEncodedCredentials_sized :
    generateEncodedCredentials info credentials dateTimeStr
        (some encodedCredentialsSize) = (do
      check (0 < (encodedCredentialsText info credentials dateTimeStr).length ∧
        (encodedCredentialsText info credentials dateTimeStr).length ≤
          encodedCredentialsSize) .bufferTooSmall
      .ok
        { length := (encodedCredentialsText info credentials dateTimeStr).length
          written := snprintf encodedCredentialsSize
            (encodedCredentialsText info credentials dateTimeStr) }) := rfl

/-- What remains of the function when the parameters are known. -/
theorem queryToCopy_eq
    (given : HasParams primitives memory.signing.host info credentials
      dateTimeStr hostInfo) :
    queryToCopy primitives memory info = (do
      check (memory.encodedCreds = true) .notEnoughMemory
      check (0 < (encodedCredentialsText hostInfo credentials
          dateTimeStr).length ∧
        (encodedCredentialsText hostInfo credentials dateTimeStr).length ≤
          encodedCredentialsSize) .bufferTooSmall
      check (memory.signedHeaders = true) .notEnoughMemory
      check (0 < (appendedParams hostInfo credentials
          dateTimeStr).text.length ∧
        (appendedParams hostInfo credentials dateTimeStr).text.length <
          MAX_URI_CHAR_LEN - hostInfo.url.length) .bufferTooSmall
      let urlInfo ← hostInfo.setUrl (hostInfo.url ++
        (appendedParams hostInfo credentials dateTimeStr).text)
      let queryParams ←
        getCanonicalQueryParams urlInfo.url urlInfo.url.length true
      let uri ← getCanonicalUri urlInfo.url
      check (uri.rest.head? = some (byte '?')) .internalError
      .ok
        { info := urlInfo
          dateTimeStr := dateTimeStr
          position := urlInfo.url.length - uri.rest.length + 1
          queryParams := queryParams.getD []
          remaining := MAX_URI_CHAR_LEN - hostInfo.url.length -
            (appendedParams hostInfo credentials dateTimeStr).text.length -
              1 }) := by
  rw [queryToCopy, given.has, generateSignatureDateTime, given.formatted]
  simp only [checkSome, ok_bind, given.host, generateEncodedCredentials_none,
    generateEncodedCredentials_sized, bind_assoc, status_signedHeaders,
    checkStatus, text_signedHeaders]
  rfl

theorem encodedCredentialsText_pos :
    0 < (encodedCredentialsText hostInfo credentials dateTimeStr).length := by
  simp only [encodedCredentialsText, List.length_append, List.length_singleton]
  omega

theorem nul_not_mem_appendedParams (date : NUL ∉ dateTimeStr) :
    NUL ∉ (appendedParams hostInfo credentials dateTimeStr).text := by
  apply AuthParams.nul_not_mem_text
  case credential =>
      intro member
      have day : NUL ∉ dateTimeStr.take SIGNATURE_DATE_STRING_LEN :=
        fun member => date (List.mem_of_mem_take member)
      have service : NUL ∉ KINESIS_VIDEO_SERVICE_NAME := by decide
      have terminator : NUL ∉ AWS_SIG_V4_SIGNATURE_END := by decide
      have slash : NUL ∉ [byte '/'] := by decide
      have text := List.mem_of_mem_take member
      simp only [encodedCredentialsText, List.mem_append,
        credentials.accessKeyId_unterminated, day, slash,
        hostInfo.region_unterminated, service, terminator, or_self] at text
  case date => exact date
  case signedHeaders =>
      have names : NUL ∉ SigV4.signedText
          (signedPairs samplePrimitives hostInfo.requestHeaders) :=
        nul_not_mem_signedText hostInfo.requestHeaders
      rw [SigV4.signedText, signedPairs_names] at names
      exact names
  case securityToken =>
      intro token given
      simp only [appendedParams, authQueryParams] at given
      split at given
      · cases given
      · exact credentials.sessionToken_unterminated token given

theorem check_bind {α : Type} {condition : Prop} [Decidable condition]
    {status : ErrorCode} (met : condition) (next : Unit → Result α) :
    (check condition status >>= next) = next () := by
  rw [check_met met, ok_bind]

section Copy

variable {before query : Bytes}

theorem query_of_url {urlInfo : RequestInfo} {other : Bytes}
    (splits : info.url = before ++ byte '?' :: query)
    (has : queryInUrl info.url = some query)
    (url : urlInfo.url = before ++ byte '?' :: other) :
    NUL ∉ other ∧ other.length < MAX_URI_CHAR_LEN ∧
      queryInUrl (urlInfo.url.take
        (urlLength urlInfo.url urlInfo.url.length)) = some other := by
  obtain ⟨path, defaultPath, located⟩ := getCanonicalUri_query (splits ▸ has)
  have inUrl : queryInUrl urlInfo.url = some other := url ▸ (located other).2
  obtain ⟨plain, short⟩ :=
    queryInUrl_short urlInfo.url_unterminated urlInfo.url_le inUrl
  refine ⟨plain, short, ?_⟩
  rw [take_urlLength urlInfo.url_le (.inl rfl)]
  exact inUrl

/-- Parameters that there is room for are appended, and the canonical query is
built. -/
theorem queryToCopy_room
    (given : HasParams primitives memory.signing.host info credentials
      dateTimeStr hostInfo)
    (splits : info.url = before ++ byte '?' :: query)
    (has : queryInUrl info.url = some query)
    (fits : HasRoom info credentials dateTimeStr hostInfo)
    (encodedCreds : memory.encodedCreds = true)
    (signedHeaders : memory.signedHeaders = true) :
    ∃ urlInfo,
      RequestInfo.url urlInfo = before ++ byte '?' ::
          (query ++
            (appendedParams hostInfo credentials dateTimeStr).text) ∧
        SameButUrl hostInfo urlInfo ∧
        queryToCopy primitives memory info = (do
          let queryParams ←
            getCanonicalQueryParams urlInfo.url urlInfo.url.length true
          .ok
            { info := urlInfo
              dateTimeStr := dateTimeStr
              position := before.length + 1
              queryParams := queryParams.getD []
              remaining := MAX_URI_CHAR_LEN - info.url.length -
                (appendedParams hostInfo credentials
                  dateTimeStr).text.length - 1 }) := by
  obtain ⟨url, -, -, -⟩ := given.same
  obtain ⟨credential, room⟩ := fits
  have textPlain := @nul_not_mem_appendedParams hostInfo credentials dateTimeStr
    (primitives.dateTime_unterminated _ _ given.formatted)
  have textPositive :=
    (appendedParams hostInfo credentials dateTimeStr).text_pos
  rw [queryToCopy_eq given, check_bind encodedCreds,
    check_bind ⟨encodedCredentialsText_pos, credential⟩,
    check_bind signedHeaders, url]
  generalize (appendedParams hostInfo credentials dateTimeStr).text = text
    at room textPlain textPositive ⊢
  rw [check_bind ⟨textPositive, by omega⟩]
  have plain : NUL ∉ info.url ++ text := by
    simp only [List.mem_append, not_or]
    exact ⟨info.url_unterminated, textPlain⟩
  obtain ⟨urlInfo, sets, urlText, same⟩ := @setUrl_ok hostInfo _ plain
    (by rw [List.length_append]; omega)
  have form : info.url ++ text = before ++ byte '?' :: (query ++ text) := by
    rw [splits, List.append_assoc, List.cons_append]
  rw [form] at urlText
  obtain ⟨path, defaultPath, located⟩ := getCanonicalUri_query (splits ▸ has)
  obtain ⟨uri, -⟩ := located (query ++ text)
  refine ⟨urlInfo, urlText, same, ?_⟩
  have position : (before ++ byte '?' :: (query ++ text)).length -
      (byte '?' :: (query ++ text)).length + 1 = before.length + 1 := by
    rw [List.length_append]
    omega
  rw [sets, ok_bind, urlText, uri]
  simp only [ok_bind, List.head?_cons, check_bind, position]

/-- With all of the memory the parameters are appended and the canonical query is
built, unless it is too long for its buffer. -/
theorem queryToCopy_appends
    (given : HasParams primitives memory.signing.host info credentials
      dateTimeStr hostInfo)
    (splits : info.url = before ++ byte '?' :: query)
    (has : queryInUrl info.url = some query)
    (appends : Appends info query credentials dateTimeStr hostInfo)
    (encodedCreds : memory.encodedCreds = true)
    (signedHeaders : memory.signedHeaders = true) :
    ∃ urlInfo texts,
      RequestInfo.url urlInfo = before ++ byte '?' ::
          (query ++
            (appendedParams hostInfo credentials dateTimeStr).text) ∧
        SameButUrl hostInfo urlInfo ∧
        texts.Perm ((startsOf (query ++ (appendedParams hostInfo credentials
          dateTimeStr).text)).map encodedParam) ∧
        texts.Pairwise Ascending ∧
        queryToCopy primitives memory info =
          if ([byte '&'].intercalate texts).length ≤ MAX_URI_CHAR_LEN then
            .ok
              { info := urlInfo
                dateTimeStr := dateTimeStr
                position := before.length + 1
                queryParams := [byte '&'].intercalate texts
                remaining := MAX_URI_CHAR_LEN - info.url.length -
                  (appendedParams hostInfo credentials
                    dateTimeStr).text.length - 1 }
          else .error .undefined := by
  obtain ⟨urlInfo, url, same, result⟩ := queryToCopy_room given splits has
    appends.toHasRoom encodedCreds signedHeaders
  obtain ⟨plain, short, inUrl⟩ := query_of_url splits has url
  obtain ⟨texts, permuted, ascending, builds⟩ := getCanonicalQueryParams_encoded
    plain (Nat.le_of_lt short) inUrl appends.encodes
  refine ⟨urlInfo, texts, url, same, permuted, ascending, ?_⟩
  rw [result, builds, ← length_intercalate_perm permuted]
  split <;> rfl

theorem queryToCopy_fails
    (given : HasParams primitives memory.signing.host info credentials
      dateTimeStr hostInfo)
    (overlong : ¬ (memory.encodedCreds = true ∧ memory.signedHeaders = true ∧
      HasRoom info credentials dateTimeStr hostInfo)) :
    ∃ status, queryToCopy primitives memory info =
      .error (.failed status) := by
  obtain ⟨url, -, -, -⟩ := given.same
  rw [queryToCopy_eq given]
  by_cases encodedCreds : memory.encodedCreds = true
  · rw [check_bind encodedCreds]
    by_cases credential : (encodedCredentialsText hostInfo credentials
        dateTimeStr).length ≤ encodedCredentialsSize
    · rw [check_bind ⟨encodedCredentialsText_pos, credential⟩]
      by_cases signedHeaders : memory.signedHeaders = true
      · rw [check_bind signedHeaders, check, if_neg]
        · exact ⟨_, rfl⟩
        · intro fits
          refine overlong ⟨encodedCreds, signedHeaders, credential, ?_⟩
          rw [url] at fits
          omega
      · rw [check_unmet signedHeaders]
        exact ⟨_, rfl⟩
    · rw [check_unmet fun fits => credential fits.2]
      exact ⟨_, rfl⟩
  · rw [check_unmet encodedCreds]
    exact ⟨_, rfl⟩

/-- The function fails, or it has what the parameters are made of and room for
them. -/
theorem queryToCopy_cases (primitives : Primitives) (memory : QueryParamMemory)
    (info : RequestInfo) :
    (∃ status, queryToCopy primitives memory info =
        .error (.failed status)) ∨
      ∃ credentials dateTimeStr hostInfo,
        HasParams primitives memory.signing.host info credentials dateTimeStr
            hostInfo ∧
          memory.encodedCreds = true ∧ memory.signedHeaders = true ∧
          HasRoom info credentials dateTimeStr hostInfo := by
  by_cases given : ∃ credentials dateTimeStr hostInfo,
      HasParams primitives memory.signing.host info credentials dateTimeStr
        hostInfo
  case pos =>
      obtain ⟨credentials, dateTimeStr, hostInfo, given⟩ := given
      by_cases room : memory.encodedCreds = true ∧
          memory.signedHeaders = true ∧
            HasRoom info credentials dateTimeStr hostInfo
      · exact .inr ⟨credentials, dateTimeStr, hostInfo, given, room⟩
      · exact .inl (queryToCopy_fails given room)
  case neg =>
      left
      rw [queryToCopy]
      cases has : info.awsCredentials with
      | none => exact ⟨_, rfl⟩
      | some credentials =>
          rw [checkSome, ok_bind, generateSignatureDateTime]
          cases formatted : primitives.dateTime
              (info.currentTime / HUNDREDS_OF_NANOS_IN_A_SECOND) with
          | none => exact ⟨_, rfl⟩
          | some dateTimeStr =>
              rw [checkSome, ok_bind]
              cases host : setHostHeader memory.signing.host info with
              | ok hostInfo =>
                  exact absurd ⟨_, _, _, has, formatted, host⟩ given
              | error fault =>
                  obtain ⟨status, rfl⟩ := setHostHeader_failed host
                  exact ⟨status, rfl⟩

/-- The function comes to the copy only when the parameters are appended. -/
theorem queryToCopy_eq_ok {copy : QueryToCopy}
    (splits : info.url = before ++ byte '?' :: query)
    (has : queryInUrl info.url = some query)
    (copies : queryToCopy primitives memory info = .ok copy) :
    ∃ credentials dateTimeStr hostInfo,
      HasParams primitives memory.signing.host info credentials dateTimeStr
          hostInfo ∧
        memory.encodedCreds = true ∧ memory.signedHeaders = true ∧
        Appends info query credentials dateTimeStr hostInfo := by
  rcases queryToCopy_cases primitives memory info with ⟨status, fails⟩ |
    ⟨credentials, dateTimeStr, hostInfo, given, encodedCreds, signedHeaders,
      room⟩
  · rw [fails] at copies
    cases copies
  · obtain ⟨urlInfo, url, -, result⟩ :=
      queryToCopy_room given splits has room encodedCreds signedHeaders
    obtain ⟨plain, short, inUrl⟩ := query_of_url splits has url
    rw [result, bind_eq_ok] at copies
    obtain ⟨built, builds, -⟩ := copies
    have encodes := getCanonicalQueryParams_eq_ok plain (Nat.le_of_lt short)
      inUrl builds
    exact ⟨credentials, dateTimeStr, hostInfo, given, encodedCreds,
      signedHeaders, room, encodes⟩

/-- The function up to the copy leaves what C defines exactly if the query that
it makes canonical does not fit. -/
theorem queryToCopy_undefined
    (splits : info.url = before ++ byte '?' :: query)
    (has : queryInUrl info.url = some query) :
    queryToCopy primitives memory info = .error .undefined ↔
      ∃ credentials dateTimeStr hostInfo,
        HasParams primitives memory.signing.host info credentials dateTimeStr
            hostInfo ∧
          memory.encodedCreds = true ∧ memory.signedHeaders = true ∧
          HasRoom info credentials dateTimeStr hostInfo ∧
          ¬ QueryFits true (query ++
            (appendedParams hostInfo credentials dateTimeStr).text) := by
  constructor
  · intro undefined
    rcases queryToCopy_cases primitives memory info with ⟨status, fails⟩ |
      ⟨credentials, dateTimeStr, hostInfo, given, encodedCreds, signedHeaders,
        room⟩
    · rw [fails] at undefined
      cases undefined
    · refine ⟨credentials, dateTimeStr, hostInfo, given, encodedCreds,
        signedHeaders, room, ?_⟩
      obtain ⟨urlInfo, url, -, result⟩ :=
        queryToCopy_room given splits has room encodedCreds signedHeaders
      obtain ⟨plain, short, inUrl⟩ := query_of_url splits has url
      rw [← getCanonicalQueryParams_undefined plain short inUrl]
      rw [result] at undefined
      cases builds : getCanonicalQueryParams urlInfo.url urlInfo.url.length
          true with
      | ok built =>
          rw [builds] at undefined
          cases undefined
      | error fault =>
          rw [builds] at undefined
          cases undefined
          rfl
  · intro leaves
    obtain ⟨credentials, dateTimeStr, hostInfo, given, encodedCreds,
      signedHeaders, room, overflows⟩ := leaves
    obtain ⟨urlInfo, url, -, result⟩ :=
      queryToCopy_room given splits has room encodedCreds signedHeaders
    obtain ⟨plain, short, inUrl⟩ := query_of_url splits has url
    rw [result, (getCanonicalQueryParams_undefined plain short inUrl).mpr
      overflows]
    rfl

end Copy

end Common

end KvsProducer
