import KvsProducer.Common.SignedUrl

/-!
# The parameters that are appended

`SNPRINTF` writes the parameters of a signature behind the URL before the query
is looked at, and nothing takes them away again.  One of them is for how many
seconds the URL is valid.
-/

namespace KvsProducer

namespace Common

open Outcome StableInsertion

/-- The parameters that are appended, and the request with the host header. -/
structure AppendedParams where
  info : RequestInfo
  params : AuthParams
  deriving Repr

/-- `signAwsRequestInfoQueryParam` up to the `SNPRINTF` of the parameters. -/
def paramsToAppend (primitives : Primitives) (memory : QueryParamMemory)
    (info : RequestInfo) : Result AppendedParams := do
  let credentials ← checkSome .nullArg info.awsCredentials
  let dateTimeStr ← generateSignatureDateTime primitives info.currentTime
  let info ← setHostHeader memory.signing.host info
  let creds ← generateEncodedCredentials info credentials dateTimeStr none
  check (memory.encodedCreds = true) .notEnoughMemory
  let creds ←
    generateEncodedCredentials info credentials dateTimeStr (some creds.length)
  let signedHeadersLen :=
    (generateSignedHeaders info.requestHeaders none).length
  checkStatus (generateSignedHeaders info.requestHeaders none).status
  check (memory.signedHeaders = true) .notEnoughMemory
  let signedHeaders ←
    (generateSignedHeaders info.requestHeaders (some signedHeadersLen)).text
  .ok
    { info := info
      params :=
        authQueryParams info credentials dateTimeStr creds.written
          signedHeaders }

/-- The URL that `signAwsRequestInfoQueryParam` leaves: as it was, with what the
buffer has room for of the parameters, with the canonical query that is copied
over the query, or with the signature. -/
def urlLeft (primitives : Primitives) (memory : QueryParamMemory)
    (info : RequestInfo) : Bytes :=
  match paramsToAppend primitives memory info with
  | .error _ => info.url
  | .ok appended =>
      match queryToCopy primitives memory info with
      | .error _ =>
          appended.info.url ++
            snprintf (MAX_URI_CHAR_LEN - appended.info.url.length)
              appended.params.text
      | .ok copy =>
          match copy.sign primitives memory.signing with
          | .error _ =>
              strncpyAt copy.info.url copy.position copy.queryParams
                copy.remaining
          | .ok signed => signed.url

/-! ### The seconds until the expiration -/

/-- The whole seconds until the expiration, in the limits. -/
def clampedSeconds (expiration currentTime : Nat) : Int :=
  max 1 (min 604800 (((expiration : Int) - currentTime) / 10000000))

/-- The parameter is the seconds until the expiration in every call that comes
to append it. -/
def ExpiresIsClamped (expiration currentTime : Nat) : Prop :=
  ∀ primitives memory info credentials appended,
    info.awsCredentials = some credentials →
      credentials.expiration = expiration →
        info.currentTime = currentTime →
          paramsToAppend primitives memory info = .ok appended →
            (appended.params.expires : Int) =
              clampedSeconds expiration currentTime

/-- Before the expiration, the seconds have 32 bits or the lower 32 bits are in
the limit or above; after it, the seconds that the difference of 64 bits has are
one at most in the lower 32 bits. -/
structure ExpirationFits (expiration currentTime : Nat) : Prop where
  before : currentTime ≤ expiration →
    (expiration - currentTime) / 10000000 < 2 ^ 32 ∨
      604800 ≤ (expiration - currentTime) / 10000000 % 2 ^ 32
  after : expiration < currentTime →
    (2 ^ 64 + expiration - currentTime) / 10000000 % 2 ^ 32 ≤ 1

theorem expirationFits_iff {expiration currentTime : Nat} :
    ExpirationFits expiration currentTime ↔
      (currentTime ≤ expiration →
        (expiration - currentTime) / 10000000 < 2 ^ 32 ∨
          604800 ≤ (expiration - currentTime) / 10000000 % 2 ^ 32) ∧
        (expiration < currentTime →
          (2 ^ 64 + expiration - currentTime) / 10000000 % 2 ^ 32 ≤ 1) :=
  ⟨fun fits => ⟨fits.before, fits.after⟩, fun fits => ⟨fits.1, fits.2⟩⟩

instance (expiration currentTime : Nat) :
    Decidable (ExpirationFits expiration currentTime) :=
  decidable_of_iff _ expirationFits_iff.symm

theorem expirationInSeconds_iff {expiration currentTime : Nat}
    (expirationLt : expiration < 2 ^ 64)
    (currentTimeLt : currentTime < 2 ^ 64) :
    (expirationInSeconds expiration currentTime : Int) =
        clampedSeconds expiration currentTime ↔
      ExpirationFits expiration currentTime := by
  have second : HUNDREDS_OF_NANOS_IN_A_SECOND = 10000000 := rfl
  simp only [expirationInSeconds, clampedSeconds, second,
    MAX_AWS_SIGV4_CREDENTIALS_EXPIRATION_IN_SECONDS,
    MIN_AWS_SIGV4_CREDENTIALS_EXPIRATION_IN_SECONDS]
  rw [expirationFits_iff]
  by_cases before : currentTime ≤ expiration
  · have wrapped : (expiration + 2 ^ 64 - currentTime) % 2 ^ 64 =
        expiration - currentTime := by
      omega
    rw [wrapped]
    omega
  · have wrapped : (expiration + 2 ^ 64 - currentTime) % 2 ^ 64 =
        2 ^ 64 + expiration - currentTime := by
      omega
    rw [wrapped]
    omega

variable {primitives : Primitives} {memory : QueryParamMemory}
variable {info : RequestInfo} {appended : AppendedParams}

variable {hostInfo : RequestInfo} {credentials : AwsCredentials}
variable {dateTimeStr : Bytes}

theorem paramsToAppend_eq
    (given : HasParams primitives memory.signing.host info credentials
      dateTimeStr hostInfo) :
    paramsToAppend primitives memory info = (do
      check (memory.encodedCreds = true) .notEnoughMemory
      check (0 < (encodedCredentialsText hostInfo credentials
          dateTimeStr).length ∧
        (encodedCredentialsText hostInfo credentials dateTimeStr).length ≤
          encodedCredentialsSize) .bufferTooSmall
      check (memory.signedHeaders = true) .notEnoughMemory
      .ok
        { info := hostInfo
          params := appendedParams hostInfo credentials dateTimeStr }) := by
  rw [paramsToAppend, given.has, generateSignatureDateTime, given.formatted]
  simp only [checkSome, ok_bind, given.host, generateEncodedCredentials_none,
    generateEncodedCredentials_sized, bind_assoc, status_signedHeaders,
    checkStatus, text_signedHeaders]
  rfl

theorem paramsToAppend_eq_ok
    (appends : paramsToAppend primitives memory info = .ok appended) :
    ∃ credentials dateTimeStr,
      HasParams primitives memory.signing.host info credentials dateTimeStr
          appended.info ∧
        appended.params =
          appendedParams appended.info credentials dateTimeStr := by
  have known := appends
  simp only [paramsToAppend, bind_eq_ok, checkSome_eq_ok,
    generateSignatureDateTime] at known
  obtain ⟨credentials, has, dateTimeStr, formatted, hostInfo, host, -⟩ := known
  have given : HasParams primitives memory.signing.host info credentials
      dateTimeStr hostInfo := ⟨has, formatted, host⟩
  simp only [paramsToAppend_eq given, bind_eq_ok, Except.ok.injEq] at appends
  obtain ⟨_, -, _, -, _, -, rfl⟩ := appends
  exact ⟨credentials, dateTimeStr, given, rfl⟩

/-- A request at a time, with credentials that expire at a time. -/
def timedRequest (expiration currentTime : Nat) : RequestInfo :=
  { shortRequest with
    currentTime := currentTime
    awsCredentials := some { sampleCredentials with expiration := expiration } }

/-- The parameter is right if and only if the times are as the code needs them
to be. -/
theorem expiresIsClamped_iff (expiration currentTime : Nat)
    (expirationLt : expiration < 2 ^ 64)
    (currentTimeLt : currentTime < 2 ^ 64) :
    ExpiresIsClamped expiration currentTime ↔
      ExpirationFits expiration currentTime := by
  rw [← expirationInSeconds_iff expirationLt currentTimeLt]
  constructor
  · intro clamped
    exact clamped samplePrimitives ⟨.available, true, true⟩
      (timedRequest expiration currentTime)
      { sampleCredentials with expiration := expiration } _ rfl rfl rfl rfl
  · intro clamped primitives memory info credentials appended has expires now
      appends
    obtain ⟨found, dateTimeStr, given, params⟩ := paramsToAppend_eq_ok appends
    obtain rfl := Option.some.inj (has.symm.trans given.has)
    obtain ⟨-, -, time, -⟩ := given.same
    rw [params, ← clamped, ← expires, ← now, ← time]
    rfl

/-- An hour is left. -/
theorem expiresIsClamped_hour :
    ExpiresIsClamped 17000036000000000 17000000000000000 :=
  (expiresIsClamped_iff _ _ (by decide) (by decide)).mpr (by decide)

/-- Credentials that have expired an hour ago are signed for a week. -/
theorem not_expiresIsClamped :
    ¬ ∀ expiration currentTime : Nat,
      expiration < 2 ^ 64 → currentTime < 2 ^ 64 →
        ExpiresIsClamped expiration currentTime := by
  intro claim
  have clamped := claim 17000000000000000 17000036000000000 (by decide)
    (by decide) samplePrimitives ⟨.available, true, true⟩
    (timedRequest 17000000000000000 17000036000000000)
    { sampleCredentials with expiration := 17000000000000000 } _ rfl rfl rfl rfl
  revert clamped
  decide +kernel

/-! ### The URL that a failure leaves -/

/-- The URL up to its question mark, or all of it. -/
def keptUrl (url : Bytes) : Bytes :=
  match queryInUrl url with
  | none => url
  | some query => url.take (url.length - query.length)

/-- The URL that is left begins as it did.  It is the same if and only if the
parameters were not appended or there was no room for any of them. -/
structure UrlIsKept (primitives : Primitives) (memory : QueryParamMemory)
    (info : RequestInfo) : Prop where
  kept : keptUrl info.url <+: urlLeft primitives memory info
  unchanged : urlLeft primitives memory info = info.url ↔
    (∀ appended, paramsToAppend primitives memory info ≠ .ok appended) ∨
      MAX_URI_CHAR_LEN ≤ info.url.length + 1

/-- The function goes on from the parameters that are appended. -/
theorem queryToCopy_bind :
    queryToCopy primitives memory info = (do
      let appended ← paramsToAppend primitives memory info
      check (0 < appended.params.text.length ∧
        appended.params.text.length <
          MAX_URI_CHAR_LEN - appended.info.url.length) .bufferTooSmall
      let urlInfo ←
        appended.info.setUrl (appended.info.url ++ appended.params.text)
      let queryParams ←
        getCanonicalQueryParams urlInfo.url urlInfo.url.length true
      let uri ← getCanonicalUri urlInfo.url
      check (uri.rest.head? = some (byte '?')) .internalError
      .ok
        { info := urlInfo
          dateTimeStr := appended.params.date
          position := urlInfo.url.length - uri.rest.length + 1
          queryParams := queryParams.getD []
          remaining :=
            MAX_URI_CHAR_LEN - appended.info.url.length -
              appended.params.text.length - 1 }) := by
  simp only [queryToCopy, paramsToAppend, bind_assoc, ok_bind]
  rfl

theorem keptUrl_begins (url : Bytes) : keptUrl url <+: url := by
  unfold keptUrl
  split
  · exact List.prefix_rfl
  · exact List.take_prefix _ _

theorem keptUrl_query {before query : Bytes}
    (has : queryInUrl (before ++ byte '?' :: query) = some query) :
    keptUrl (before ++ byte '?' :: query) = before ++ [byte '?'] := by
  have size : (before ++ byte '?' :: query).length - query.length =
      (before ++ [byte '?']).length := by
    simp only [List.length_append, List.length_cons, List.length_nil]
    omega
  rw [keptUrl, has]
  dsimp only
  rw [size, List.append_cons before (byte '?') query, List.take_left]

theorem afterScheme_append {url start : Bytes}
    (found : afterScheme url = some start) (text : Bytes) :
    afterScheme (url ++ text) = some (start ++ text) := by
  obtain ⟨scheme, finds, drops⟩ := Option.map_eq_some_iff.mp found
  have long := (strstr_prefix_found finds).length_le
  have extended := @strstr_congr SCHEMA_DELIMITER_STRING url [] scheme text
    (by rw [List.append_nil, List.append_nil, finds]) (by decide) long
  rw [afterScheme, extended, Option.map_some,
    List.drop_append_of_le_length long, drops]

/-- A URL without a query can be extended by a text with a question mark. -/
theorem length_rest_le {url text start : Bytes} {uri : CanonicalUri}
    (found : afterScheme url = some start) (absent : queryInUrl url = none)
    (splits : getCanonicalUri (url ++ text) = .ok uri) :
    uri.rest.length ≤ text.length := by
  have plain : start.dropWhile (· ≠ byte '?') = [] := by
    rw [queryInUrl, found, Option.bind_some, behindQuestionMark] at absent
    rcases dropWhile_ne_stops start (byte '?') with nothing | ⟨later, drops⟩
    · exact nothing
    · rw [drops] at absent
      cases absent
  rw [getCanonicalUri, afterScheme_append found] at splits
  dsimp only at splits
  split at splits
  · cases splits
  · cases splits
    rw [findPath_rest, List.dropWhile_append, plain]
    exact (List.dropWhile_suffix _).length_le

theorem length_strncpyAt_query {before old joined : Bytes} {count : Nat}
    (covers : old.length ≤ joined.length) :
    before.length + 1 + old.length ≤
      (strncpyAt (before ++ byte '?' :: old) (before.length + 1) joined
        count).length := by
  rw [strncpyAt, List.length_append, List.length_take]
  split
  · simp only [List.length_append, List.length_cons]
    omega
  · simp only [List.length_append, List.length_cons, List.length_take,
      List.length_drop]
    omega

/-- What is known where the copy is made. -/
structure CopyOver (info : RequestInfo) (copy : QueryToCopy) : Prop where
  position : (keptUrl info.url).length ≤ copy.position
  begins : info.url <+: copy.info.url
  room : info.url.length + 1 < MAX_URI_CHAR_LEN
  longer : info.url.length <
    (strncpyAt copy.info.url copy.position copy.queryParams
      copy.remaining).length

theorem copyOver_query {copy : QueryToCopy} {before query : Bytes}
    (splits : info.url = before ++ byte '?' :: query)
    (has : queryInUrl info.url = some query)
    (copies : queryToCopy primitives memory info = .ok copy) :
    CopyOver info copy := by
  obtain ⟨credentials, dateTimeStr, hostInfo, given, encodedCreds,
    signedHeaders, fits⟩ := queryToCopy_eq_ok splits has copies
  have positive := (appendedParams hostInfo credentials dateTimeStr).text_pos
  obtain ⟨urlInfo, texts, url, -, permuted, -, result⟩ :=
    queryToCopy_appends given splits has fits encodedCreds signedHeaders
  have covers := (joinedLength_bounds (query ++
    (appendedParams hostInfo credentials dateTimeStr).text)).1
  rw [← length_joined, ← length_intercalate_perm permuted] at covers
  rw [copies] at result
  split at result
  case isFalse => cases result
  case isTrue =>
      obtain rfl := Except.ok.inj result
      constructor
      case position =>
          rw [splits] at has ⊢
          rw [keptUrl_query has, List.length_append, List.length_singleton]
      case begins =>
          dsimp only
          rw [url, splits, ← List.cons_append, ← List.append_assoc]
          exact List.prefix_append _ _
      case room =>
          have room := fits.room
          omega
      case longer =>
          dsimp only
          rw [url]
          apply Nat.lt_of_lt_of_le _
            (length_strncpyAt_query (Nat.le_of_succ_le_succ covers))
          rw [splits]
          simp only [List.length_append, List.length_cons]
          omega

theorem copyOver_plain {copy : QueryToCopy}
    (absent : queryInUrl info.url = none)
    (copies : queryToCopy primitives memory info = .ok copy) :
    CopyOver info copy := by
  simp only [queryToCopy_bind, bind_eq_ok, check_eq_ok, Except.ok.injEq]
    at copies
  obtain ⟨appended, appends, _, ⟨positive, room⟩, urlInfo, sets, queryParams, -,
    uri, splits, _, question, rfl⟩ := copies
  obtain ⟨credentials, dateTimeStr, given, -⟩ := paramsToAppend_eq_ok appends
  obtain ⟨url, -⟩ := given.same
  obtain ⟨urlText, -⟩ := setUrl_eq_ok_same sets
  obtain ⟨host, header, located, -⟩ := setHostHeader_eq_ok given.host
  have found := (getRequestHost_eq_ok located).1
  rw [url] at urlText
  have rest := length_rest_le found absent (urlText ▸ splits)
  have longer := congrArg List.length urlText
  rw [List.length_append] at longer
  have nonempty : 0 < uri.rest.length := by
    apply List.length_pos_of_ne_nil
    intro nothing
    rw [nothing] at question
    cases question
  constructor
  case position =>
      rw [keptUrl, absent]
      dsimp only
      omega
  case begins =>
      dsimp only
      rw [urlText]
      exact List.prefix_append _ _
  case room =>
      rw [url] at room
      omega
  case longer =>
      rw [strncpyAt, List.length_append, List.length_take]
      dsimp only
      omega

theorem copyOver {copy : QueryToCopy}
    (copies : queryToCopy primitives memory info = .ok copy) :
    CopyOver info copy := by
  cases has : queryInUrl info.url with
  | none => exact copyOver_plain has copies
  | some query =>
      obtain ⟨before, splits⟩ := queryInUrl_suffix has
      exact copyOver_query splits.symm has copies

theorem CopyOver.kept {copy : QueryToCopy} (placed : CopyOver info copy) :
    keptUrl info.url <+:
      strncpyAt copy.info.url copy.position copy.queryParams
        copy.remaining := by
  rw [strncpyAt]
  apply List.IsPrefix.trans _ (List.prefix_append _ _)
  rw [List.prefix_take_iff]
  exact ⟨(keptUrl_begins _).trans placed.begins, placed.position⟩

/-- What a failing call leaves of the URL. -/
theorem urlLeft_of_failed (primitives : Primitives) (memory : QueryParamMemory)
    (info : RequestInfo) (status : ErrorCode)
    (fails : signAwsRequestInfoQueryParam primitives memory info =
      .error (.failed status)) : UrlIsKept primitives memory info := by
  cases appends : paramsToAppend primitives memory info with
  | error fault =>
      have left : urlLeft primitives memory info = info.url := by
        rw [urlLeft, appends]
      have nothing (appended : AppendedParams) :
          paramsToAppend primitives memory info ≠ .ok appended := by
        rw [appends]
        intro same
        cases same
      exact ⟨left ▸ keptUrl_begins _, iff_of_true left (.inl nothing)⟩
  | ok appended =>
      obtain ⟨credentials, dateTimeStr, given, params⟩ :=
        paramsToAppend_eq_ok appends
      have url := given.same.1
      have some_params :
          ¬ ∀ other, paramsToAppend primitives memory info ≠ .ok other :=
        fun nothing => nothing _ appends
      rw [signAwsRequestInfoQueryParam] at fails
      cases copies : queryToCopy primitives memory info with
      | error fault =>
          have positive := AuthParams.text_pos appended.params
          have left : urlLeft primitives memory info = info.url ++
              snprintf (MAX_URI_CHAR_LEN - info.url.length)
                appended.params.text := by
            rw [urlLeft, appends, copies]
            dsimp only
            rw [url]
          constructor
          case kept =>
              rw [left]
              exact (keptUrl_begins _).trans (List.prefix_append _ _)
          case unchanged =>
              rw [left, or_iff_right some_params, List.append_right_eq_self,
                snprintf, List.take_eq_nil_iff]
              constructor
              · rintro (full | nothing)
                · omega
                · rw [nothing] at positive
                  cases positive
              · intro full
                left
                omega
      | ok copy =>
          have placed := copyOver copies
          rw [copies, ok_bind] at fails
          have left : urlLeft primitives memory info =
              strncpyAt copy.info.url copy.position copy.queryParams
                copy.remaining := by
            rw [urlLeft, appends, copies]
            dsimp only
            rw [fails]
          constructor
          case kept =>
              rw [left]
              exact placed.kept
          case unchanged =>
              rw [left, or_iff_right some_params]
              constructor
              · intro same
                have longer := placed.longer
                rw [same] at longer
                exact absurd longer (Nat.lt_irrefl _)
              · intro full
                exact absurd placed.room (Nat.not_lt_of_le full)

/-- A request for a URL that has no query. -/
def plainRequest : RequestInfo :=
  bareRequest (bytes "https://h/p") (by decide) (by decide)

theorem plainRequest_fails :
    signAwsRequestInfoQueryParam samplePrimitives ⟨.available, true, true⟩
      plainRequest = .error (.failed .internalError) := by
  have status : (signAwsRequestInfoQueryParam samplePrimitives
      ⟨.available, true, true⟩ plainRequest).map (fun _ => ()) =
        .error (.failed .internalError) := by
    decide +kernel
  cases signs : signAwsRequestInfoQueryParam samplePrimitives
      ⟨.available, true, true⟩ plainRequest with
  | ok signed =>
      rw [signs] at status
      cases status
  | error fault =>
      rw [signs] at status
      cases status
      rfl

theorem urlIsKept_plain :
    UrlIsKept samplePrimitives ⟨.available, true, true⟩ plainRequest :=
  urlLeft_of_failed _ _ _ _ plainRequest_fails

/-- The parameters stay where there is no query. -/
theorem not_atomic :
    ¬ ∀ (primitives : Primitives) (memory : QueryParamMemory)
      (info : RequestInfo) (status : ErrorCode),
      signAwsRequestInfoQueryParam primitives memory info =
          .error (.failed status) →
        urlLeft primitives memory info = info.url := by
  intro claim
  have left := claim samplePrimitives ⟨.available, true, true⟩ plainRequest
    .internalError plainRequest_fails
  revert left
  decide +kernel

end Common

end KvsProducer
