import KvsProducer.Common.HostHeader
import KvsProducer.Common.SigningParams

/-!
# The URL that is signed

What remains of the URL's buffer is counted before the query is encoded.  The
canonical query is written over the query that was there, and has to fit into
what remains behind it, together with the signature.
-/

namespace KvsProducer

namespace Common

open Outcome StableInsertion

/-- The canonical query and the signature fit into what remains of the buffer,
and the query has the parameters. -/
structure ParamsFit (info : RequestInfo) (query : Bytes)
    (credentials : AwsCredentials) (dateTimeStr : Bytes)
    (hostInfo : RequestInfo) : Prop where
  plain : ∀ pair ∈ (appendedParams hostInfo credentials dateTimeStr).pairs,
    byte '&' ∉ pair.2
  whole : (encodedCredentialsText hostInfo credentials dateTimeStr).length <
    encodedCredentialsSize
  room : info.url.length +
      (appendedParams hostInfo credentials dateTimeStr).text.length + 1 +
      ([byte '&'].intercalate ((startsOf (query ++
        (appendedParams hostInfo credentials dateTimeStr).text)).map
          encodedParam)).length + 81 ≤
    MAX_URI_CHAR_LEN

/-- Whatever is appended fits, and the encoder comes to no negative character
of it or of the query. -/
structure UrlFits (primitives : Primitives) (info : RequestInfo)
    (query : Bytes) : Prop where
  avoids : ∀ credentials dateTimeStr hostInfo,
    HasParams primitives .available info credentials dateTimeStr hostInfo →
      HasRoom info credentials dateTimeStr hostInfo →
        AvoidsNegative (startsOf (query ++
          (appendedParams hostInfo credentials dateTimeStr).text))
  fits : ∀ credentials dateTimeStr hostInfo,
    HasParams primitives .available info credentials dateTimeStr hostInfo →
      Appends info query credentials dateTimeStr hostInfo →
        ParamsFit info query credentials dateTimeStr hostInfo

/-- The texts of the canonical query: the parameters of the request and of its
signature. -/
def signedTexts (query : Bytes) (params : AuthParams) : List Bytes :=
  (startsOf query).map encodedParam ++ params.pairs.map encodedPair

/-- The URL has the canonical query and the signature of the canonical
request. -/
def IsSignedUrl (primitives : Primitives) (info : RequestInfo)
    (before query : Bytes) (after : RequestInfo) : Prop :=
  ∃ credentials dateTimeStr uri texts,
    info.awsCredentials = some credentials ∧
      primitives.dateTime
        (info.currentTime / HUNDREDS_OF_NANOS_IN_A_SECOND) =
          some dateTimeStr ∧
      getCanonicalUri info.url = .ok uri ∧
      texts.Perm (signedTexts query
        (authParams after credentials dateTimeStr)) ∧
      texts.Pairwise Ascending ∧
      after.url =
        before ++ byte '?' :: [byte '&'].intercalate texts ++
          signatureParamText (SigV4.signature primitives
            (referenceRequest after credentials (uri.path.getD [])
              ([byte '&'].intercalate texts) dateTimeStr
              (after.requestHeaders.map RequestHeader.pair))
            (signedPairs primitives after.requestHeaders))

/-- The length of such a URL. -/
def signedLength (before query : Bytes) (params : AuthParams) : Nat :=
  before.length + 1 +
    ([byte '&'].intercalate (signedTexts query params)).length + 81

/-- Signing makes such a URL or fails, and does nothing that is not defined; it
fails if the URL is too long, and the counter of what remains does not
underflow. -/
structure SignsUrl (primitives : Primitives) (info : RequestInfo)
    (before query : Bytes) : Prop where
  defined : ∀ memory,
    signAwsRequestInfoQueryParam primitives memory info ≠ .error .undefined
  signed : ∀ memory after,
    signAwsRequestInfoQueryParam primitives memory info = .ok after →
      IsSignedUrl primitives info before query after
  refuses : ∀ memory credentials dateTimeStr hostInfo,
    HasParams primitives memory.signing.host info credentials dateTimeStr
        hostInfo →
      QueryEncodes
          (query ++ (appendedParams hostInfo credentials dateTimeStr).text) →
        MAX_URI_CHAR_LEN < signedLength before query
            (authParams hostInfo credentials dateTimeStr) →
          ∃ status, signAwsRequestInfoQueryParam primitives memory info =
            .error (.failed status)
  counter : ∀ memory copy,
    queryToCopy primitives memory info = .ok copy →
      copy.queryParams.length ≤ copy.remaining

variable {primitives : Primitives} {info hostInfo after : RequestInfo}
variable {credentials : AwsCredentials} {dateTimeStr : Bytes}
variable {before query : Bytes}

/-! ### Lengths -/

/-- The length of the parameters, each with an ampersand. -/
def pairsLength (params : AuthParams) : Nat :=
  (params.pairs.map fun pair => (encodedPair pair).length + 1).sum

theorem length_signedTexts (query : Bytes) (params : AuthParams) :
    ([byte '&'].intercalate (signedTexts query params)).length + 1 =
      joinedLength (startsOf query) + pairsLength params := by
  have positive := (joinedLength_bounds query).1
  rw [length_intercalate, signedTexts, List.map_append, List.sum_append,
    ← joinedLength_eq, List.map_map]
  change _ - 1 + 1 = _ + pairsLength params
  have same : (params.pairs.map
      ((fun text : Bytes => text.length + 1) ∘ encodedPair)).sum =
        pairsLength params := rfl
  rw [same]
  omega

theorem pairsLength_eq (params : AuthParams) :
    pairsLength params =
      pairsLength { params with credential := [] } +
        (uriEncoded params.credential).length := by
  obtain ⟨credential, date, expires, signedHeaders, securityToken⟩ := params
  have length (text : Bytes) :
      (encodedPair (bytes "X-Amz-Credential", text)).length =
        (encodedPair (bytes "X-Amz-Credential", [])).length +
          (uriEncoded text).length := by
    rw [encodedPair, encodedPair, List.length_append, List.length_append]
    rfl
  simp only [pairsLength, AuthParams.pairs, List.cons_append, List.map_cons,
    List.sum_cons, length credential]
  generalize (uriEncoded credential).length = credentialLength
  generalize (encodedPair (bytes "X-Amz-Credential", [])).length = nameLength
  ac_rfl

/-- The credential that has been cut off is shorter. -/
theorem length_uriEncoded_take (text : Bytes) (count : Nat) :
    (uriEncoded (text.take count)).length ≤ (uriEncoded text).length ∧
      ((uriEncoded (text.take count)).length = (uriEncoded text).length →
        text.length ≤ count) := by
  have split : (uriEncoded text).length =
      (uriEncoded (text.take count)).length +
        (uriEncoded (text.drop count)).length := by
    rw [← List.length_append, ← uriEncoded_append, List.take_append_drop]
  have cut := (length_uriEncoded_bounds (text.drop count)).1
  rw [List.length_drop] at cut
  generalize (uriEncoded (text.drop count)).length = dropped at split cut
  generalize (uriEncoded (text.take count)).length = taken at split ⊢
  omega

theorem pairsLength_appendedParams :
    pairsLength (appendedParams hostInfo credentials dateTimeStr) ≤
        pairsLength (authParams hostInfo credentials dateTimeStr) ∧
      (pairsLength (appendedParams hostInfo credentials dateTimeStr) =
          pairsLength (authParams hostInfo credentials dateTimeStr) →
        (encodedCredentialsText hostInfo credentials dateTimeStr).length <
          encodedCredentialsSize) := by
  have cut := length_uriEncoded_take
    (encodedCredentialsText hostInfo credentials dateTimeStr)
    (encodedCredentialsSize - 1)
  have others : { appendedParams hostInfo credentials dateTimeStr with
        credential := [] } =
      { authParams hostInfo credentials dateTimeStr with
        credential := [] } := rfl
  have whole : (authParams hostInfo credentials dateTimeStr).credential =
      encodedCredentialsText hostInfo credentials dateTimeStr := rfl
  have taken : (appendedParams hostInfo credentials dateTimeStr).credential =
      (encodedCredentialsText hostInfo credentials dateTimeStr).take
        (encodedCredentialsSize - 1) := rfl
  rw [pairsLength_eq, pairsLength_eq (authParams _ _ _), others, whole, taken]
  generalize pairsLength { authParams hostInfo credentials dateTimeStr with
    credential := [] } = length
  generalize encodedCredentialsText hostInfo credentials dateTimeStr = text
    at cut ⊢
  generalize (uriEncoded text).length = wholeLength at cut ⊢
  generalize (uriEncoded (text.take _)).length = takenLength at cut ⊢
  have size : encodedCredentialsSize = 302 := rfl
  omega

theorem appendedParams_eq
    (whole : (encodedCredentialsText hostInfo credentials dateTimeStr).length <
      encodedCredentialsSize) :
    appendedParams hostInfo credentials dateTimeStr =
      authParams hostInfo credentials dateTimeStr := by
  rw [appendedParams, snprintf, List.take_of_length_le (by omega), authParams]

/-! ### The copy and the signature -/

theorem strncpyAt_query {old joined : Bytes} {count : Nat}
    (fits : joined.length ≤ count) (covers : old.length ≤ joined.length) :
    strncpyAt (before ++ byte '?' :: old) (before.length + 1) joined count =
      before ++ byte '?' :: joined := by
  have start : (before ++ byte '?' :: old).take (before.length + 1) =
      before ++ [byte '?'] := by
    rw [List.append_cons, List.take_left' (by simp)]
  have behind : (before ++ byte '?' :: old).drop
      (before.length + 1 + count) = [] := by
    apply List.drop_of_length_le
    simp only [List.length_append, List.length_cons]
    omega
  rw [strncpyAt, start, behind, List.append_nil,
    List.take_of_length_le fits, ite_self, List.append_assoc,
    List.singleton_append]

/-- What is left of the function when the query fits into what remains. -/
theorem sign_eq {urlInfo : RequestInfo} {old joined : Bytes} {remaining : Nat}
    (memory : SigningMemory)
    (url : urlInfo.url = before ++ byte '?' :: old)
    (fits : joined.length ≤ remaining) (covers : old.length ≤ joined.length)
    (small : remaining ≤ MAX_URI_CHAR_LEN) :
    QueryToCopy.sign primitives memory
        { info := urlInfo
          dateTimeStr := dateTimeStr
          position := before.length + 1
          queryParams := joined
          remaining := remaining } = (do
      let copied ← urlInfo.setUrl (before ++ byte '?' :: joined)
      let signature ←
        generateAwsSigV4Signature primitives memory copied dateTimeStr false
      copied.setUrl
        (copied.url ++ signature.take (remaining - joined.length))) := by
  have left : (remaining + 2 ^ 32 - joined.length) % 2 ^ 32 =
      remaining - joined.length := by
    have max : MAX_URI_CHAR_LEN = 10000 := rfl
    omega
  rw [QueryToCopy.sign]
  dsimp only
  rw [url, strncpyAt_query fits covers, left]
  rfl

theorem nul_not_mem_joined {texts : List Bytes} (unterminated : NUL ∉ query)
    (permuted : texts.Perm ((startsOf query).map encodedParam)) :
    NUL ∉ [byte '&'].intercalate texts := by
  apply nul_not_mem_intercalate (by decide)
  intro text listed
  obtain ⟨start, member, encodes⟩ :=
    List.mem_map.mp (permuted.mem_iff.mp listed)
  rw [← encodes]
  exact nul_not_mem_encodedParam (nul_not_mem_start unterminated member)

theorem signature_parts {memory : SigningMemory} {copied : RequestInfo}
    {uri : CanonicalUri} {signature : Bytes}
    (has : copied.awsCredentials = some credentials)
    (splits : getCanonicalUri copied.url = .ok uri)
    (generates : generateAwsSigV4Signature primitives memory copied dateTimeStr
      false = .ok signature) : signature.length = 81 ∧ NUL ∉ signature := by
  have refines := generateAwsSigV4Signature_refines credentials dateTimeStr
    [] has splits generates
  rw [if_neg Bool.false_ne_true] at refines
  rw [refines]
  constructor
  · rw [length_signatureParamText, SigV4.length_signature]
  · simp only [signatureParamText, List.mem_append, not_or]
    exact ⟨by decide, primitives.hexEncode_unterminated _⟩

theorem signature_ok {copied : RequestInfo} {uri : CanonicalUri}
    (has : copied.awsCredentials = some credentials)
    (formatted : primitives.dateTime
      (info.currentTime / HUNDREDS_OF_NANOS_IN_A_SECOND) = some dateTimeStr)
    (splits : getCanonicalUri copied.url = .ok uri)
    (located : uri.path.isSome = true) :
    ∃ signature,
      generateAwsSigV4Signature primitives .available copied dateTimeStr
          false = .ok signature ∧ signature.length = 81 ∧
        NUL ∉ signature := by
  have date := primitives.length_dateTime _ _ formatted
  have ends := @generateAwsSigV4Signature_ends (fun _ => False) primitives
    copied .available credentials uri dateTimeStr false has date splits
    (.inl located) (.inl rfl)
  cases generates : generateAwsSigV4Signature primitives .available copied
      dateTimeStr false with
  | error fault => exact (ends.of_error generates).elim
  | ok signature =>
      exact ⟨signature, rfl, signature_parts has splits generates⟩

/-! ### The URL that fits -/

theorem nul_not_mem_query (splits : info.url = before ++ byte '?' :: query) :
    NUL ∉ query := by
  intro member
  apply info.url_unterminated
  rw [splits]
  exact List.mem_append_right _ (List.mem_cons_of_mem _ member)

theorem nul_not_mem_newQuery {joined : Bytes}
    (splits : info.url = before ++ byte '?' :: query)
    (joinedPlain : NUL ∉ joined) : NUL ∉ before ++ byte '?' :: joined := by
  have plain := info.url_unterminated
  rw [splits] at plain
  simp only [List.mem_append, List.mem_cons, not_or] at plain ⊢
  exact ⟨plain.1, plain.2.1, joinedPlain⟩

theorem SameButUrl.referenceRequest (same : SameButUrl info after)
    (path joined : Bytes) (headers : List (Bytes × Bytes)) :
    referenceRequest after credentials path joined dateTimeStr headers =
      referenceRequest info credentials path joined dateTimeStr headers := by
  simp only [Common.referenceRequest, same.verb, same.body, same.region]

theorem ParamsFit.texts (fit : ParamsFit info query credentials dateTimeStr
      hostInfo) :
    (startsOf (query ++
        (appendedParams hostInfo credentials dateTimeStr).text)).map
          encodedParam =
      signedTexts query (authParams hostInfo credentials dateTimeStr) := by
  have plain := fit.plain
  rw [appendedParams_eq fit.whole] at plain ⊢
  rw [AuthParams.text_eq, map_encodedParam_pairs (AuthParams.names _) plain]
  rfl

theorem UrlFits.copies {memory : QueryParamMemory} {copy : QueryToCopy}
    (fits : UrlFits primitives info query)
    (splits : info.url = before ++ byte '?' :: query)
    (has : queryInUrl info.url = some query)
    (copied : queryToCopy primitives memory info = .ok copy) :
    ∃ credentials dateTimeStr hostInfo texts,
      HasParams primitives .available info credentials dateTimeStr hostInfo ∧
        texts.Perm (signedTexts query
          (authParams hostInfo credentials dateTimeStr)) ∧
        texts.Pairwise Ascending ∧
        NUL ∉ [byte '&'].intercalate texts ∧
        SameButUrl hostInfo copy.info ∧
        copy.dateTimeStr = dateTimeStr ∧
        copy.position = before.length + 1 ∧
        copy.queryParams = [byte '&'].intercalate texts ∧
        copy.queryParams.length + 81 ≤ copy.remaining ∧
        before.length + 1 + copy.remaining ≤ MAX_URI_CHAR_LEN ∧
        ∃ old, copy.info.url = before ++ byte '?' :: old ∧
          old.length ≤ copy.queryParams.length := by
  obtain ⟨credentials, dateTimeStr, hostInfo, given, encodedCreds,
    signedHeaders, appends⟩ := queryToCopy_eq_ok splits has copied
  have available := given.available
  have fit := fits.fits credentials dateTimeStr hostInfo (available ▸ given)
    appends
  have size := congrArg List.length splits
  rw [List.length_append, List.length_cons] at size
  obtain ⟨urlInfo, texts, url, same, permuted, ascending, result⟩ :=
    queryToCopy_appends given splits has appends encodedCreds signedHeaders
  have textPlain := @nul_not_mem_appendedParams hostInfo credentials dateTimeStr
    (primitives.dateTime_unterminated _ _ given.formatted)
  have joinedPlain := nul_not_mem_joined (by
    simp only [List.mem_append, not_or]
    exact ⟨nul_not_mem_query splits, textPlain⟩) permuted
  have room := fit.room
  rw [← length_intercalate_perm permuted] at room
  have covers := (joinedLength_bounds (query ++
    (appendedParams hostInfo credentials dateTimeStr).text)).1
  rw [← length_joined, ← length_intercalate_perm permuted] at covers
  rw [if_pos (by omega), copied, Except.ok.injEq] at result
  subst result
  refine ⟨credentials, dateTimeStr, hostInfo, texts, available ▸ given,
    fit.texts ▸ permuted, ascending, joinedPlain, same, rfl, rfl, rfl, ?_, ?_,
    _, url, ?_⟩
  · dsimp only
    omega
  · dsimp only
    omega
  · dsimp only
    omega

theorem sign_eq_ok {memory : SigningMemory} {urlInfo : RequestInfo}
    {old joined : Bytes} {remaining : Nat} {uri : CanonicalUri}
    (url : urlInfo.url = before ++ byte '?' :: old)
    (room : joined.length + 81 ≤ remaining)
    (covers : old.length ≤ joined.length)
    (small : remaining ≤ MAX_URI_CHAR_LEN)
    (has : urlInfo.awsCredentials = some credentials)
    (splits : getCanonicalUri (before ++ byte '?' :: joined) = .ok uri)
    (rest : uri.rest = byte '?' :: joined)
    (signs : QueryToCopy.sign primitives memory
      { info := urlInfo
        dateTimeStr := dateTimeStr
        position := before.length + 1
        queryParams := joined
        remaining := remaining } = .ok after) :
    SameButUrl urlInfo after ∧
      after.url = before ++ byte '?' :: joined ++
        signatureParamText (SigV4.signature primitives
          (referenceRequest after credentials (uri.path.getD []) joined
            dateTimeStr (after.requestHeaders.map RequestHeader.pair))
          (signedPairs primitives after.requestHeaders)) := by
  rw [sign_eq _ url (by omega) covers small] at signs
  simp only [bind_eq_ok] at signs
  obtain ⟨copied, copySet, signature, generates, final⟩ := signs
  obtain ⟨copyUrl, copySame⟩ := setUrl_eq_ok_same copySet
  obtain ⟨afterUrl, afterSame⟩ := setUrl_eq_ok_same final
  have refines := generateAwsSigV4Signature_refines credentials dateTimeStr
    (after.requestHeaders.map RequestHeader.pair)
    (copySame.awsCredentials.trans has) (copyUrl ▸ splits) generates
  rw [if_neg Bool.false_ne_true, ← afterSame.referenceRequest,
    ← afterSame.requestHeaders] at refines
  have length : signature.length = 81 := by
    rw [refines, length_signatureParamText, SigV4.length_signature]
  refine ⟨copySame.trans afterSame, ?_⟩
  rw [afterUrl, copyUrl, List.take_of_length_le (by omega), refines, rest]
  rfl

/-- The last part of the function does what C defines when there is room for
the signature. -/
theorem sign_defined {memory : SigningMemory} {urlInfo : RequestInfo}
    {old joined : Bytes} {remaining : Nat} {uri : CanonicalUri}
    (url : urlInfo.url = before ++ byte '?' :: old)
    (room : joined.length + 81 ≤ remaining)
    (covers : old.length ≤ joined.length)
    (total : before.length + 1 + remaining ≤ MAX_URI_CHAR_LEN)
    (plain : NUL ∉ before ++ byte '?' :: joined)
    (has : urlInfo.awsCredentials = some credentials)
    (formatted : primitives.dateTime
      (info.currentTime / HUNDREDS_OF_NANOS_IN_A_SECOND) = some dateTimeStr)
    (splits : getCanonicalUri (before ++ byte '?' :: joined) = .ok uri)
    (located : uri.path.isSome = true) :
    QueryToCopy.sign primitives memory
        { info := urlInfo
          dateTimeStr := dateTimeStr
          position := before.length + 1
          queryParams := joined
          remaining := remaining } ≠ .error .undefined := by
  have size : (before ++ byte '?' :: joined).length =
      before.length + 1 + joined.length := by
    simp only [List.length_append, List.length_cons]
    omega
  obtain ⟨copied, copySet, copyUrl, copySame⟩ := @setUrl_ok urlInfo _ plain
    (by omega)
  have date := primitives.length_dateTime _ _ formatted
  have ends := @generateAwsSigV4Signature_ends (· ≠ .undefined) primitives
    copied memory credentials uri dateTimeStr false
    (copySame.awsCredentials.trans has) date (copyUrl ▸ splits)
    (.inl located) (.inr (by simp))
  rw [sign_eq _ url (by omega) covers (by omega), copySet, ok_bind]
  cases generates : generateAwsSigV4Signature primitives memory copied
      dateTimeStr false with
  | error fault =>
      intro undefined
      cases undefined
      exact ends.of_error generates rfl
  | ok signature =>
      obtain ⟨length, signaturePlain⟩ := signature_parts
        (copySame.awsCredentials.trans has) (copyUrl ▸ splits) generates
      obtain ⟨after, final, -⟩ := @setUrl_ok copied
        (copied.url ++ signature.take (remaining - joined.length))
        (by
          simp only [List.mem_append, not_or]
          refine ⟨copied.url_unterminated, ?_⟩
          intro listed
          exact signaturePlain (List.mem_of_mem_take listed))
        (by
          rw [List.length_append, List.length_take, length, copyUrl, size]
          omega)
      rw [ok_bind, final]
      simp

theorem UrlFits.signed {memory : QueryParamMemory}
    (fits : UrlFits primitives info query)
    (splits : info.url = before ++ byte '?' :: query)
    (has : queryInUrl info.url = some query)
    (signs : signAwsRequestInfoQueryParam primitives memory info =
      .ok after) : IsSignedUrl primitives info before query after := by
  rw [signAwsRequestInfoQueryParam, bind_eq_ok] at signs
  obtain ⟨copy, copied, signs⟩ := signs
  obtain ⟨credentials, dateTimeStr, hostInfo, texts, given, permuted, ascending,
    -, same, date, position, params, room, small, old, url, covers⟩ :=
    fits.copies splits has copied
  obtain ⟨copyInfo, copyDate, copyPosition, copyParams, remaining⟩ := copy
  dsimp only at same date position params room small url covers signs
  rw [date, position, params] at signs
  rw [params] at room covers
  obtain ⟨path, defaultPath, located⟩ := getCanonicalUri_query (splits ▸ has)
  have hostCredentials : copyInfo.awsCredentials = some credentials := by
    rw [same.awsCredentials, given.same.2.1]
  obtain ⟨toAfter, afterUrl⟩ := sign_eq_ok url room covers (by omega)
    hostCredentials (located _).1 rfl signs
  refine ⟨credentials, dateTimeStr,
    { path := some path
      rest := byte '?' :: query
      defaultPath := defaultPath }, texts, given.has, given.formatted,
    splits ▸ (located query).1, ?_, ascending, afterUrl⟩
  rw [(same.trans toAfter).authParams]
  exact permuted

theorem UrlFits.defined {memory : QueryParamMemory}
    (fits : UrlFits primitives info query)
    (splits : info.url = before ++ byte '?' :: query)
    (has : queryInUrl info.url = some query) :
    signAwsRequestInfoQueryParam primitives memory info ≠
      .error .undefined := by
  rw [signAwsRequestInfoQueryParam]
  cases copied : queryToCopy primitives memory info with
  | error fault =>
      intro undefined
      cases undefined
      obtain ⟨credentials, dateTimeStr, hostInfo, given, -, -, room,
        overflows⟩ := (queryToCopy_undefined splits has).mp copied
      have available := given.available
      apply overflows
      refine ⟨fits.avoids _ _ _ (available ▸ given) room, ?_⟩
      intro encodes
      have fit := fits.fits _ _ _ (available ▸ given) ⟨room, encodes⟩
      have bound := fit.room
      omega
  | ok copy =>
      rw [ok_bind]
      obtain ⟨credentials, dateTimeStr, hostInfo, texts, given, -, -, plain,
        same, date, position, params, room, small, old, url, covers⟩ :=
        fits.copies splits has copied
      obtain ⟨copyInfo, copyDate, copyPosition, copyParams, remaining⟩ := copy
      dsimp only at same date position params room small url covers
      rw [date, position, params]
      rw [params] at room covers
      obtain ⟨path, defaultPath, located⟩ :=
        getCanonicalUri_query (splits ▸ has)
      have hostCredentials : copyInfo.awsCredentials = some credentials := by
        rw [same.awsCredentials, given.same.2.1]
      have beforePlain := copyInfo.url_unterminated
      rw [url] at beforePlain
      apply sign_defined url room covers small _ hostCredentials given.formatted
        (located _).1 rfl
      simp only [List.mem_append, List.mem_cons, not_or] at beforePlain ⊢
      exact ⟨beforePlain.1, beforePlain.2.1, plain⟩

/-! ### The URL that does not fit -/

/-- The query that is copied is no longer than the one that is meant. -/
theorem length_joined_appended :
    ([byte '&'].intercalate ((startsOf (query ++
        (appendedParams hostInfo credentials dateTimeStr).text)).map
          encodedParam)).length ≤
        ([byte '&'].intercalate (signedTexts query
          (authParams hostInfo credentials dateTimeStr))).length ∧
      (([byte '&'].intercalate ((startsOf (query ++
          (appendedParams hostInfo credentials dateTimeStr).text)).map
            encodedParam)).length =
          ([byte '&'].intercalate (signedTexts query
            (authParams hostInfo credentials dateTimeStr))).length →
        (∀ pair ∈ (appendedParams hostInfo credentials dateTimeStr).pairs,
          byte '&' ∉ pair.2) ∧
        (encodedCredentialsText hostInfo credentials dateTimeStr).length <
          encodedCredentialsSize) := by
  have copied := length_joined (query ++
    (appendedParams hostInfo credentials dateTimeStr).text)
  have meant := length_signedTexts query
    (authParams hostInfo credentials dateTimeStr)
  obtain ⟨atMost, whole⟩ :=
    @pairsLength_appendedParams hostInfo credentials dateTimeStr
  obtain ⟨joinedAtMost, plain⟩ := joinedLength_pairs
    (AuthParams.names (appendedParams hostInfo credentials dateTimeStr)) query
  rw [AuthParams.text_eq] at copied ⊢
  rw [← pairsLength] at joinedAtMost plain
  constructor
  · omega
  · intro same
    exact ⟨plain (by omega), whole (by omega)⟩

/-- The last part succeeds with whatever memory there is, and cuts the
signature off. -/
theorem sign_ok {urlInfo : RequestInfo} {old joined : Bytes} {remaining : Nat}
    {uri : CanonicalUri}
    (url : urlInfo.url = before ++ byte '?' :: old)
    (fits : joined.length ≤ remaining) (covers : old.length ≤ joined.length)
    (total : before.length + 1 + remaining ≤ MAX_URI_CHAR_LEN)
    (plain : NUL ∉ before ++ byte '?' :: joined)
    (has : urlInfo.awsCredentials = some credentials)
    (formatted : primitives.dateTime
      (info.currentTime / HUNDREDS_OF_NANOS_IN_A_SECOND) = some dateTimeStr)
    (splits : getCanonicalUri (before ++ byte '?' :: joined) = .ok uri)
    (located : uri.path.isSome = true) :
    ∃ after, QueryToCopy.sign primitives .available
        { info := urlInfo
          dateTimeStr := dateTimeStr
          position := before.length + 1
          queryParams := joined
          remaining := remaining } = .ok after ∧
      SameButUrl urlInfo after ∧
      after.url.length =
        before.length + 1 + joined.length +
          min 81 (remaining - joined.length) := by
  have size : (before ++ byte '?' :: joined).length =
      before.length + 1 + joined.length := by
    simp only [List.length_append, List.length_cons]
    omega
  obtain ⟨copied, copySet, copyUrl, copySame⟩ := @setUrl_ok urlInfo _ plain
    (by omega)
  obtain ⟨signature, generates, length, signaturePlain⟩ :=
    @signature_ok primitives info credentials dateTimeStr copied uri
      (copySame.awsCredentials.trans has)
      formatted (copyUrl ▸ splits) located
  have taken : (signature.take (remaining - joined.length)).length =
      min 81 (remaining - joined.length) := by
    rw [List.length_take, length, Nat.min_comm]
  obtain ⟨after, final, afterUrl, afterSame⟩ := @setUrl_ok copied
    (copied.url ++ signature.take (remaining - joined.length))
    (by
      simp only [List.mem_append, not_or]
      refine ⟨copied.url_unterminated, ?_⟩
      intro listed
      exact signaturePlain (List.mem_of_mem_take listed))
    (by
      rw [List.length_append, taken, copyUrl, size]
      omega)
  refine ⟨after, ?_, copySame.trans afterSame, ?_⟩
  · rw [sign_eq _ url fits covers (by omega), copySet, ok_bind, generates,
      ok_bind, final]
  · rw [afterUrl, List.length_append, taken, copyUrl, size]

/-- Where the URL is signed, the canonical query has the length that is meant
and the signature is whole. -/
theorem SignsUrl.lengths (signs : SignsUrl primitives info before query)
    (splits : info.url = before ++ byte '?' :: query)
    (has : queryInUrl info.url = some query)
    (given : HasParams primitives .available info credentials dateTimeStr
      hostInfo)
    (appends : Appends info query credentials dateTimeStr hostInfo) :
    info.url.length +
          (appendedParams hostInfo credentials dateTimeStr).text.length + 1 +
          ([byte '&'].intercalate ((startsOf (query ++
            (appendedParams hostInfo credentials dateTimeStr).text)).map
              encodedParam)).length + 81 ≤
        MAX_URI_CHAR_LEN ∧
      ([byte '&'].intercalate ((startsOf (query ++
          (appendedParams hostInfo credentials dateTimeStr).text)).map
            encodedParam)).length =
        ([byte '&'].intercalate (signedTexts query
          (authParams hostInfo credentials dateTimeStr))).length := by
  obtain ⟨atMost, -⟩ :=
    @length_joined_appended hostInfo credentials dateTimeStr query
  obtain ⟨urlInfo, texts, url, same, permuted, ascending, result⟩ :=
    @queryToCopy_appends primitives info hostInfo credentials dateTimeStr
      ⟨.available, true, true⟩ before query given splits has appends rfl rfl
  have refused := signs.refuses ⟨.available, true, true⟩ credentials dateTimeStr
    hostInfo given appends.encodes
  have length := length_intercalate_perm permuted
  rw [← length] at atMost ⊢
  have covers := (joinedLength_bounds (query ++
    (appendedParams hostInfo credentials dateTimeStr).text)).1
  rw [← length_joined, ← length] at covers
  have textPlain := @nul_not_mem_appendedParams hostInfo credentials dateTimeStr
    (primitives.dateTime_unterminated _ _ given.formatted)
  have joinedPlain := nul_not_mem_joined (by
    simp only [List.mem_append, not_or]
    exact ⟨nul_not_mem_query splits, textPlain⟩) permuted
  have size : info.url.length = before.length + 1 + query.length := by
    rw [splits, List.length_append, List.length_cons]
    omega
  by_cases short : ([byte '&'].intercalate texts).length ≤ MAX_URI_CHAR_LEN
  case neg =>
      rw [if_neg short] at result
      obtain ⟨status, fails⟩ := refused (by
        rw [signedLength]
        omega)
      rw [signAwsRequestInfoQueryParam, result] at fails
      cases fails
  case pos =>
      rw [if_pos short] at result
      have counted := signs.counter _ _ result
      have room := appends.room
      dsimp only at counted
      obtain ⟨path, defaultPath, located⟩ :=
        getCanonicalUri_query (splits ▸ has)
      obtain ⟨-, hostCredentials, -, -⟩ := given.same
      obtain ⟨after, signed, signedSame, afterLength⟩ :=
        @sign_ok primitives info credentials dateTimeStr before urlInfo _
          ([byte '&'].intercalate texts) _ _ url counted (by omega) (by omega)
          (nul_not_mem_newQuery splits joinedPlain)
          (same.awsCredentials.trans hostCredentials) given.formatted
          (located _).1 rfl
      have whole : signAwsRequestInfoQueryParam primitives
          ⟨.available, true, true⟩ info = .ok after := by
        rw [signAwsRequestInfoQueryParam, result]
        exact signed
      obtain ⟨_, _, _, meant, has', formatted', -, meantPerm, -, afterUrl⟩ :=
        signs.signed _ _ whole
      rw [given.has, Option.some.injEq] at has'
      rw [given.formatted, Option.some.injEq] at formatted'
      subst has' formatted'
      rw [(same.trans signedSame).authParams] at meantPerm
      have meantLength := length_intercalate_perm meantPerm
      rw [afterUrl, List.length_append, length_signatureParamText,
        SigV4.length_signature, List.length_append, List.length_cons,
        meantLength] at afterLength
      omega

/-- The URL is signed if and only if whatever is appended fits. -/
theorem signsUrl_iff (primitives : Primitives) (info : RequestInfo)
    (before query : Bytes) (splits : info.url = before ++ byte '?' :: query)
    (has : queryInUrl info.url = some query) :
    SignsUrl primitives info before query ↔ UrlFits primitives info query := by
  constructor
  · intro signs
    constructor
    case avoids =>
        intro credentials dateTimeStr hostInfo given room
        by_contra meets
        apply signs.defined ⟨.available, true, true⟩
        rw [signAwsRequestInfoQueryParam, (queryToCopy_undefined splits has).mpr
          ⟨credentials, dateTimeStr, hostInfo, given, rfl, rfl, room,
            fun fits => meets fits.1⟩]
        rfl
    case fits =>
        intro credentials dateTimeStr hostInfo given appends
        obtain ⟨room, same⟩ := signs.lengths splits has given appends
        obtain ⟨-, whole⟩ :=
          @length_joined_appended hostInfo credentials dateTimeStr query
        obtain ⟨plain, credential⟩ := whole same
        exact ⟨plain, credential, room⟩
  · intro fits
    constructor
    case defined => exact fun memory => fits.defined splits has
    case signed =>
        intro memory after signs
        exact fits.signed splits has signs
    case counter =>
        intro memory copy copied
        obtain ⟨_, _, _, _, -, -, -, -, -, -, -, -, room, -⟩ :=
          fits.copies splits has copied
        omega
    case refuses =>
        intro memory credentials dateTimeStr hostInfo given encodes overlong
        have available := given.available
        obtain ⟨status, fails⟩ := @queryToCopy_fails primitives info hostInfo
          credentials dateTimeStr memory given (by
            intro room
            obtain ⟨-, -, room⟩ := room
            have fit := fits.fits credentials dateTimeStr hostInfo
              (available ▸ given) ⟨room, encodes⟩
            have bound := fit.room
            rw [fit.texts, splits, List.length_append, List.length_cons] at bound
            rw [signedLength] at overlong
            omega)
        rw [signAwsRequestInfoQueryParam, fails]
        exact ⟨status, rfl⟩

/-- A request for a short URL. -/
def shortRequest : RequestInfo :=
  bareRequest (bytes "https://h/p?a=b") (by decide) (by decide)

theorem avoidsNegative_of_all {starts : List Bytes}
    (all : (starts.all fun start =>
      (paramValue start).all fun c => decide (IsAscii c)) = true) :
    AvoidsNegative starts := by
  apply avoidsNegative_of_isAscii
  simpa only [List.all_eq_true, decide_eq_true_eq] using all

theorem signsUrl_short :
    SignsUrl samplePrimitives shortRequest (bytes "https://h/p")
      (bytes "a=b") := by
  apply (signsUrl_iff _ _ _ _ (by decide) (by decide)).mpr
  constructor
  case avoids =>
      intro credentials dateTimeStr hostInfo given _
      obtain rfl := Option.some.inj given.has
      obtain rfl := Option.some.inj given.formatted
      obtain rfl := Except.ok.inj given.host
      apply avoidsNegative_of_all
      decide +kernel
  case fits =>
      intro credentials dateTimeStr hostInfo given appends
      obtain rfl := Option.some.inj given.has
      obtain rfl := Option.some.inj given.formatted
      obtain rfl := Except.ok.inj given.host
      constructor
      case plain => decide +kernel
      case whole => decide +kernel
      case room => decide +kernel

/-- A URL with the escaped parameter of slashes. -/
def slashesQueryUrl (count : Nat) : Bytes :=
  bytes "https://h/p" ++ byte '?' :: queryOf [slashes count]

theorem queryEncodes_append (first second : Bytes) :
    QueryEncodes (first ++ byte '&' :: second) ↔
      QueryEncodes first ∧ QueryEncodes second := by
  simp only [QueryEncodes, CanEncode, paramValue, paramName, encodedParam,
    startsOf_append, List.forall_mem_append, List.forall_mem_map,
    paramText_append]

theorem queryEncodes_of_all {query : Bytes}
    (all : ((startsOf query).all fun start =>
      (paramText start).contains (byte '=') &&
        ((paramValue start).any isUnreserved &&
          ((paramValue start).all (fun c => decide (IsAscii c)) &&
            decide ((encodedParam start).length ≤ MAX_URI_CHAR_LEN - 2)))) =
      true) : QueryEncodes query := by
  simpa only [QueryEncodes, CanEncode, List.all_eq_true, Bool.and_eq_true,
    List.contains_iff_mem, List.any_eq_true, decide_eq_true_eq] using all

theorem slashesQueryUrl_plain (count : Nat) : NUL ∉ slashesQueryUrl count := by
  simp [slashesQueryUrl, queryOf, QueryParam.text, slashes, List.mem_replicate,
    NUL, byte, bytes]

theorem length_slashesQueryUrl (count : Nat) :
    (slashesQueryUrl count).length = 15 + count := by
  simp [slashesQueryUrl, queryOf, QueryParam.text, slashes, bytes]
  omega

theorem length_slashesQueryUrl_le {count : Nat} (short : count ≤ 3000) :
    (slashesQueryUrl count).length ≤ MAX_URI_CHAR_LEN := by
  rw [length_slashesQueryUrl, MAX_URI_CHAR_LEN]
  omega

/-- The request for it. -/
def slashesRequest (count : Nat) (short : count ≤ 3000) : RequestInfo :=
  bareRequest (slashesQueryUrl count) (slashesQueryUrl_plain count)
    (length_slashesQueryUrl_le short)

theorem slashesRequest_url {count : Nat} (short : count ≤ 3000) :
    (slashesRequest count short).url = slashesQueryUrl count := rfl

/-- The request with its host header. -/
def slashesHostInfo : RequestInfo :=
  { slashesRequest 3000 (by decide) with
    requestHeaders :=
      [{ name := AWS_SIG_V4_HEADER_HOST
         value := bytes "h"
         name_pos := by decide
         value_pos := by decide
         name_lt := by decide
         value_lt := by decide
         name_unterminated := by decide
         value_unterminated := by decide }] }

theorem slashesRequest_params :
    HasParams samplePrimitives .available (slashesRequest 3000 (by decide))
      sampleCredentials (bytes "20130524T000000Z") slashesHostInfo where
  has := rfl
  formatted := rfl
  host := rfl

theorem slashesRequest_hasRoom :
    HasRoom (slashesRequest 3000 (by decide)) sampleCredentials
      (bytes "20130524T000000Z") slashesHostInfo := by
  constructor
  case credential => decide +kernel
  case room =>
      have short : (appendedParams slashesHostInfo sampleCredentials
          (bytes "20130524T000000Z")).text.length < 6000 := by
        decide +kernel
      have url := length_slashesQueryUrl 3000
      have max : MAX_URI_CHAR_LEN = 10000 := rfl
      rw [slashesRequest_url, url]
      omega

theorem slashesRequest_appends :
    Appends (slashesRequest 3000 (by decide)) (queryOf [slashes 3000])
      sampleCredentials (bytes "20130524T000000Z") slashesHostInfo := by
  constructor
  case toHasRoom => exact slashesRequest_hasRoom
  case encodes =>
      have first : (appendedParams slashesHostInfo sampleCredentials
          (bytes "20130524T000000Z")).text =
            byte '&' :: (appendedParams slashesHostInfo sampleCredentials
              (bytes "20130524T000000Z")).text.drop 1 := rfl
      rw [first, queryEncodes_append]
      constructor
      · apply (forall_canEncode (List.cons_ne_nil _ _)).mpr
        simp only [List.mem_singleton, forall_eq]
        exact slashes_encodable (by decide)
      · apply queryEncodes_of_all
        decide +kernel

/-- A query that is encoded to three times its length does not fit. -/
theorem not_signsUrl :
    ¬ ∀ (primitives : Primitives) (info : RequestInfo) (before query : Bytes),
      info.url = before ++ byte '?' :: query →
        queryInUrl info.url = some query →
          SignsUrl primitives info before query := by
  intro claim
  have signs := claim samplePrimitives (slashesRequest 3000 (by decide))
    (bytes "https://h/p") (queryOf [slashes 3000]) rfl rfl
  obtain ⟨room, -⟩ :=
    signs.lengths rfl rfl slashesRequest_params slashesRequest_appends
  have joined := length_joined (queryOf [slashes 3000] ++
    (appendedParams slashesHostInfo sampleCredentials
      (bytes "20130524T000000Z")).text)
  have first : (appendedParams slashesHostInfo sampleCredentials
      (bytes "20130524T000000Z")).text =
        byte '&' :: (appendedParams slashesHostInfo sampleCredentials
          (bytes "20130524T000000Z")).text.drop 1 := rfl
  have encoded : joinedLength (startsOf (queryOf [slashes 3000])) = 9004 := by
    rw [← length_joined, map_encodedParam (List.cons_ne_nil _ _)]
    simp only [List.map_cons, List.map_nil, length_intercalate, List.sum_cons,
      List.sum_nil, length_slashes, Nat.reduceMul, Nat.reduceAdd,
      Nat.reduceSub]
  rw [first, joinedLength_append, encoded, ← first] at joined
  have url := length_slashesQueryUrl 3000
  have max : MAX_URI_CHAR_LEN = 10000 := rfl
  rw [slashesRequest_url, url] at room
  omega

end Common

end KvsProducer
