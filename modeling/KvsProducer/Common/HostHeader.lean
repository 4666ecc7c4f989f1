import KvsProducer.Common.QueryParamSigner

/-!
# The host header

Both ways of signing set the host of the URL as a header.  The length of the
host is passed on, and a length of zero stands for the whole string from there
on.
-/

namespace KvsProducer

namespace Common

open StableInsertion Outcome

/-- A header has been set for the host that is found in the URL, and it has
exactly that value. -/
structure HostIsSet (memory : HeaderMemory) (info : RequestInfo)
    (header : RequestHeader) : Prop where
  name : header.name = AWS_SIG_V4_HEADER_HOST
  value : ∃ host, getRequestHost info.url info.url_unterminated = .ok host ∧
    header.value = host.text.take host.length
  sets : setHostHeader memory info =
    .ok
      { info with
        requestHeaders :=
          insertAfter RequestHeader.NameLe header info.requestHeaders }

/-- For every request to the URL, signing fails or sets the header, which is
then among those of the request. -/
structure HostIsExact (url : Bytes) : Prop where
  header : ∀ (primitives : Primitives) (memory : SigningMemory)
    (info : RequestInfo), info.url = url →
    (∃ status, signAwsRequestInfo primitives memory info =
        .error (.failed status)) ∨
      ∃ header, HostIsSet memory.host info header ∧
        ∀ signed, signAwsRequestInfo primitives memory info = .ok signed →
          header ∈ signed.requestHeaders
  query : ∀ (primitives : Primitives) (memory : QueryParamMemory)
    (info : RequestInfo), info.url = url →
    (∃ status, signAwsRequestInfoQueryParam primitives memory info =
        .error (.failed status)) ∨
      ∃ header, HostIsSet memory.signing.host info header ∧
        ∀ signed, signAwsRequestInfoQueryParam primitives memory info =
            .ok signed → header ∈ signed.requestHeaders

/-- The host of the URL is not empty, or all of what follows the scheme is too
long for a header. -/
def HostIsPresent (url : Bytes) : Prop :=
  ∀ rest ∈ afterScheme url, rest ≠ [] →
    rest.length < MAX_REQUEST_HEADER_VALUE_LEN →
      rest.takeWhile (fun c => !isHostDelimiter c) ≠ []

instance (url : Bytes) : Decidable (HostIsPresent url) :=
  inferInstanceAs (Decidable (∀ rest ∈ afterScheme url, _ → _ → _))

variable {primitives : Primitives} {info : RequestInfo}

/-! ### Setting the header -/

theorem getRequestHost_eq_ok {url : Bytes} {unterminated : NUL ∉ url}
    {host : SizedString} (located : getRequestHost url unterminated = .ok host) :
    afterScheme url = some host.text ∧ host.text ≠ [] ∧
      host.length =
        (host.text.takeWhile fun c => !isHostDelimiter c).length := by
  unfold getRequestHost at located
  split at located
  · cases located
  · rename_i start found
    split at located
    · cases located
    · rename_i nonempty
      cases located
      exact ⟨found, nonempty, rfl⟩

theorem setHostHeader_eq_ok {memory : HeaderMemory} {after : RequestInfo}
    (sets : setHostHeader memory info = .ok after) :
    ∃ host header, getRequestHost info.url info.url_unterminated = .ok host ∧
      RequestHeader.name header = AWS_SIG_V4_HEADER_HOST ∧
      RequestHeader.value header = host.value ∧
      host.size < MAX_REQUEST_HEADER_VALUE_LEN ∧
      after =
        { info with
          requestHeaders :=
            insertAfter RequestHeader.NameLe header info.requestHeaders } := by
  simp only [setHostHeader, bind_eq_ok, checkStatus_eq_ok, Except.ok.injEq]
    at sets
  obtain ⟨host, located, headers, called, rfl⟩ := sets
  obtain ⟨header, created, -, rfl⟩ := setRequestHeader_eq_ok called
  obtain ⟨_, _, named, valued, headerName, headerValue⟩ :=
    createRequestHeader_eq_ok created
  cases named
  cases valued
  rw [SizedString.value_ofBuffer (by decide)] at headerName
  have short := header.value_lt
  rw [headerValue, SizedString.length_value] at short
  exact ⟨host, header, located, headerName, headerValue, short, rfl⟩

theorem setHostHeader_ends (memory : HeaderMemory) (info : RequestInfo) :
    Ends (· ≠ Fault.undefined) (fun _ => True) (setHostHeader memory info) := by
  have statuses {α : Type} (called : Except ErrorCode α) :
      Ends (· ≠ Fault.undefined) (fun _ => True) (checkStatus called) := by
    cases called with
    | ok value => trivial
    | error status => simp [checkStatus]
  cases located : getRequestHost info.url info.url_unterminated with
  | error fault =>
      rw [setHostHeader, located, getRequestHost_eq_error located]
      simp [bind, Except.bind]
  | ok host =>
      rw [setHostHeader, located, ok_bind]
      apply (statuses _).bind
      exact fun _ _ => trivial

theorem HostIsPresent.set (present : HostIsPresent info.url)
    {memory : HeaderMemory} {after : RequestInfo}
    (sets : setHostHeader memory info = .ok after) :
    ∃ header, HostIsSet memory info header ∧
      header ∈ after.requestHeaders := by
  obtain ⟨host, header, located, name, value, short, rfl⟩ :=
    setHostHeader_eq_ok sets
  refine ⟨header, ⟨name, ⟨host, located, ?_⟩, sets⟩, ?_⟩
  · obtain ⟨found, nonempty, length⟩ := getRequestHost_eq_ok located
    rw [value, SizedString.value, SizedString.size]
    split
    · rename_i noHost
      have empty := List.eq_nil_of_length_eq_zero (length ▸ noHost)
      rw [SizedString.size, if_pos noHost] at short
      exact absurd empty (present host.text found nonempty short)
    · rfl
  · exact (mem_insertAfter _).mpr (.inl rfl)

/-! ### The header stays -/

theorem setHeader_keeps {memory : HeaderMemory} {name value : Bytes}
    {after : RequestInfo} {header : RequestHeader}
    (sets : setHeader memory name value info = .ok after)
    (listed : header ∈ info.requestHeaders) :
    header ∈ after.requestHeaders := by
  simp only [setHeader, bind_eq_ok, checkStatus_eq_ok, Except.ok.injEq] at sets
  obtain ⟨_, called, rfl⟩ := sets
  obtain ⟨added, -, -, rfl⟩ := setRequestHeader_eq_ok called
  exact (mem_insertAfter _).mpr (.inr listed)

theorem setContentLength_keeps {memory : HeaderMemory} {after : RequestInfo}
    {header : RequestHeader}
    (sets : setContentLength memory info = .ok after)
    (listed : header ∈ info.requestHeaders) :
    header ∈ after.requestHeaders := by
  unfold setContentLength at sets
  split at sets
  · cases sets
    exact listed
  · exact setHeader_keeps sets listed

theorem setUrl_eq_ok {url : Bytes} {after : RequestInfo}
    (sets : info.setUrl url = .ok after) :
    after.url = url ∧ after.requestHeaders = info.requestHeaders := by
  unfold RequestInfo.setUrl at sets
  split at sets
  · cases sets
    exact ⟨rfl, rfl⟩
  · cases sets

theorem signAwsRequestInfo_eq (memory : SigningMemory) :
    signAwsRequestInfo primitives memory info = (do
      let credentials ← checkSome .nullArg info.awsCredentials
      let dateTimeStr ← generateSignatureDateTime primitives info.currentTime
      let info ← setHostHeader memory.host info
      let info ← setHeader memory.amzDate AWS_SIG_V4_HEADER_AMZ_DATE
        dateTimeStr info
      let info ← setHeader memory.contentType AWS_SIG_V4_CONTENT_TYPE_NAME
        AWS_SIG_V4_CONTENT_TYPE_VALUE info
      let info ← setContentLength memory.contentLength info
      let signatureInfo ←
        generateAwsSigV4Signature primitives memory info dateTimeStr true
      let info ← setHeader memory.auth AWS_SIG_V4_HEADER_AUTH signatureInfo info
      let info ← setSecurityToken memory.securityToken credentials info
      .ok
        { requestHeaders := info.requestHeaders
          authorization := signatureInfo }) := by
  simp only [signAwsRequestInfo, setHostHeader, bind_assoc, ok_bind]

/-- The host header is the first that the signer sets. -/
theorem signAwsRequestInfo_host {memory : SigningMemory}
    {signed : SignedRequest}
    (signs : signAwsRequestInfo primitives memory info = .ok signed) :
    ∃ hostInfo, setHostHeader memory.host info = .ok hostInfo ∧
      ∀ header ∈ hostInfo.requestHeaders, header ∈ signed.requestHeaders := by
  simp only [signAwsRequestInfo_eq, bind_eq_ok, Except.ok.injEq] at signs
  obtain ⟨credentials, -, dateTimeStr, -, hostInfo, hostSet, dated, dateSet,
    typed, typeSet, sized, lengthSet, signature, -, authorized, authSet, final,
    tokenSet, rfl⟩ := signs
  refine ⟨hostInfo, hostSet, ?_⟩
  intro header listed
  apply setSecurityToken_keeps tokenSet
  apply setHeader_keeps authSet
  apply setContentLength_keeps lengthSet
  apply setHeader_keeps typeSet
  apply setHeader_keeps dateSet
  exact listed

theorem queryToCopy_host {memory : QueryParamMemory} {copy : QueryToCopy}
    (copies : queryToCopy primitives memory info = .ok copy) :
    ∃ hostInfo, setHostHeader memory.signing.host info = .ok hostInfo ∧
      copy.info.requestHeaders = hostInfo.requestHeaders := by
  simp only [queryToCopy, bind_eq_ok, checkSome_eq_ok, check_eq_ok,
    checkStatus_eq_ok, Except.ok.injEq] at copies
  obtain ⟨credentials, -, dateTimeStr, -, hostInfo, sets, _, -, _, -, _, -, _,
    -, _, -, signedHeaders, -, _, -, urlInfo, urlSet, queryParams, -, uri, -, _,
    -, rfl⟩ := copies
  exact ⟨hostInfo, sets, (setUrl_eq_ok urlSet).2⟩

theorem signAwsRequestInfoQueryParam_host {memory : QueryParamMemory}
    {signed : RequestInfo}
    (signs : signAwsRequestInfoQueryParam primitives memory info =
      .ok signed) :
    ∃ hostInfo, setHostHeader memory.signing.host info = .ok hostInfo ∧
      signed.requestHeaders = hostInfo.requestHeaders := by
  simp only [signAwsRequestInfoQueryParam, QueryToCopy.sign, bind_eq_ok]
    at signs
  obtain ⟨copy, copies, copied, copySet, signature, -, final⟩ := signs
  obtain ⟨hostInfo, sets, headers⟩ := queryToCopy_host copies
  refine ⟨hostInfo, sets, ?_⟩
  rw [(setUrl_eq_ok final).2, (setUrl_eq_ok copySet).2, headers]

/-! ### Without the header -/

/-- What comes before and after the host header in both ways of signing. -/
theorem fails_without_host {Signed : Type} {memory : HeaderMemory}
    {later : AwsCredentials → Bytes → RequestInfo → Result Signed}
    (fails : ∀ after, setHostHeader memory info ≠ .ok after) :
    ∃ status, (do
      let credentials ← checkSome .nullArg info.awsCredentials
      let dateTimeStr ← generateSignatureDateTime primitives info.currentTime
      let hostInfo ← setHostHeader memory info
      later credentials dateTimeStr hostInfo) = .error (.failed status) := by
  have ends := setHostHeader_ends memory info
  cases sets : setHostHeader memory info with
  | ok after => exact absurd sets (fails after)
  | error fault =>
      have notUndefined := ends.of_error sets
      cases fault with
      | undefined => exact absurd rfl notUndefined
      | failed status =>
          cases info.awsCredentials with
          | none => exact ⟨_, rfl⟩
          | some credentials =>
              rw [generateSignatureDateTime]
              cases primitives.dateTime _ with
              | none => exact ⟨_, rfl⟩
              | some dateTimeStr => exact ⟨status, rfl⟩

theorem signAwsRequestInfo_fails {memory : SigningMemory}
    (fails : ∀ after, setHostHeader memory.host info ≠ .ok after) :
    ∃ status, signAwsRequestInfo primitives memory info =
      .error (.failed status) := by
  rw [signAwsRequestInfo_eq]
  exact fails_without_host fails

theorem signAwsRequestInfoQueryParam_fails {memory : QueryParamMemory}
    (fails : ∀ after, setHostHeader memory.signing.host info ≠ .ok after) :
    ∃ status, signAwsRequestInfoQueryParam primitives memory info =
      .error (.failed status) := by
  obtain ⟨status, fault⟩ : ∃ status,
      queryToCopy primitives memory info = .error (.failed status) :=
    fails_without_host fails
  rw [signAwsRequestInfoQueryParam, fault]
  exact ⟨status, rfl⟩

/-! ### The empty host -/

/-- A request for a URL, with nothing else in it. -/
def bareRequest (url : Bytes) (unterminated : NUL ∉ url)
    (short : url.length ≤ MAX_URI_CHAR_LEN) : RequestInfo :=
  { verb := .get
    body := none
    url := url
    region := bytes "us-west-2"
    currentTime := 0
    awsCredentials := some sampleCredentials
    requestHeaders := []
    url_unterminated := unterminated
    url_le := short
    region_unterminated := sampleRegion_unterminated
    region_le := sampleRegion_le }

/-- Signing such a request does not fail if all of the URL fits into a
header. -/
theorem bareRequest_signs {url rest : Bytes} {unterminated : NUL ∉ url}
    {short : url.length ≤ MAX_URI_CHAR_LEN} (found : afterScheme url = some rest)
    (nonempty : rest ≠ []) (fits : rest.length < MAX_REQUEST_HEADER_VALUE_LEN)
    (status : ErrorCode) :
    signAwsRequestInfo samplePrimitives .available
      (bareRequest url unterminated short) ≠ .error (.failed status) := by
  obtain ⟨uri, splits⟩ : ∃ uri, getCanonicalUri url = .ok uri := by
    rw [getCanonicalUri, found]
    exact ⟨_, if_neg nonempty⟩
  obtain ⟨host, located⟩ := (getRequestHost_iff_uri unterminated).mpr
    ⟨uri, splits⟩
  have text : host.text = rest := by
    have same := (getRequestHost_eq_ok located).1
    rw [found] at same
    exact (Option.some.inj same).symm
  have small : (bareRequest url unterminated short).Small := by
    constructor
    case count => exact Nat.zero_le _
    case names => exact Nat.zero_le _
    case body =>
        intro body given
        cases given
  have hostFits : host.size < MAX_REQUEST_HEADER_VALUE_LEN := by
    have shorter := host.size_le
    rw [text] at shorter
    omega
  have ends := @signAwsRequestInfo_ends (· = .undefined) samplePrimitives
    (bareRequest url unterminated short) .available sampleCredentials
    (bytes "20130524T000000Z") host uri small rfl (by decide) rfl located
    (.inl hostFits) splits (fun _ => .inr rfl) (fun _ => .inl (by decide))
    (.inl rfl)
  intro fails
  cases ends.of_error fails

theorem HostIsExact.present {url : Bytes} (exactly : HostIsExact url)
    (unterminated : NUL ∉ url) (short : url.length ≤ MAX_URI_CHAR_LEN) :
    HostIsPresent url := by
  intro rest found nonempty fits empty
  rcases exactly.header samplePrimitives .available
    (bareRequest url unterminated short) rfl with fails | sets
  · obtain ⟨status, fails⟩ := fails
    exact bareRequest_signs found nonempty fits status fails
  · obtain ⟨header, ⟨-, ⟨host, located, value⟩, -⟩, -⟩ := sets
    obtain ⟨same, -, length⟩ := getRequestHost_eq_ok located
    obtain rfl := Option.some.inj (found.symm.trans same)
    rw [empty, List.length_nil] at length
    have positive := header.value_pos
    rw [value, length, List.take_zero, List.length_nil] at positive
    exact absurd positive (Nat.lt_irrefl 0)

theorem HostIsPresent.exact {url : Bytes} (present : HostIsPresent url) :
    HostIsExact url := by
  constructor
  case header =>
      intro primitives memory info same
      subst same
      by_cases sets : ∃ after, setHostHeader memory.host info = .ok after
      · obtain ⟨after, sets⟩ := sets
        obtain ⟨header, isSet, listed⟩ := present.set sets
        refine .inr ⟨header, isSet, ?_⟩
        intro signed signs
        obtain ⟨hostInfo, again, keeps⟩ := signAwsRequestInfo_host signs
        obtain rfl := Except.ok.inj (sets.symm.trans again)
        exact keeps header listed
      · exact .inl (signAwsRequestInfo_fails (not_exists.mp sets))
  case query =>
      intro primitives memory info same
      subst same
      by_cases sets :
          ∃ after, setHostHeader memory.signing.host info = .ok after
      · obtain ⟨after, sets⟩ := sets
        obtain ⟨header, isSet, listed⟩ := present.set sets
        refine .inr ⟨header, isSet, ?_⟩
        intro signed signs
        obtain ⟨hostInfo, again, headers⟩ :=
          signAwsRequestInfoQueryParam_host signs
        obtain rfl := Except.ok.inj (sets.symm.trans again)
        rw [headers]
        exact listed
      · exact .inl (signAwsRequestInfoQueryParam_fails (not_exists.mp sets))

/-- The host header is exact for every request to a URL if and only if the host
is present. -/
theorem hostIsExact_iff (url : Bytes) (unterminated : NUL ∉ url)
    (short : url.length ≤ MAX_URI_CHAR_LEN) :
    HostIsExact url ↔ HostIsPresent url :=
  ⟨fun exactly => exactly.present unterminated short,
    HostIsPresent.exact⟩

theorem hostIsExact_port : HostIsExact (bytes "https://h:8080/p?a=1") :=
  (hostIsExact_iff _ (by decide) (by decide)).mpr (by decide +kernel)

/-- What follows an empty host becomes the value of the header. -/
theorem not_hostIsExact :
    ¬ ∀ url : Bytes, NUL ∉ url → url.length ≤ MAX_URI_CHAR_LEN →
      HostIsExact url := by
  intro claim
  have unterminated : NUL ∉ bytes "https:///path" := by decide
  have short : (bytes "https:///path").length ≤ MAX_URI_CHAR_LEN := by decide
  have present := (claim _ unterminated short).present unterminated short
  revert present
  decide +kernel

end Common

end KvsProducer
