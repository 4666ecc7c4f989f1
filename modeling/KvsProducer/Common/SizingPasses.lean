import KvsProducer.Common.HostHeader
import KvsProducer.Common.SigningParams

/-!
# The sizing passes

A generator that is called without a buffer tells the size of the one to call
it with.  The canonical request and what is written over it stay in the buffer
that is made of these sizes.  The credentials are cut off where their text and
the buffer have the same length.
-/

namespace KvsProducer

namespace Common

open Outcome

/-! ### The scratch buffer -/

/-- The sizes have 32 bits, the canonical request is filled in with the
terminator of its hash, and the buffer has room for the key and for the text
that is signed, which fails for the lack of memory only. -/
structure SizingSuffices (primitives : Primitives) (info : RequestInfo)
    (credentials : AwsCredentials) (dateTimeStr : Bytes) : Prop where
  size : scratchLen info < 2 ^ 32
  fills : ∀ reported,
    generateCanonicalRequestString primitives info none = .ok reported →
      ∃ filled,
        generateCanonicalRequestString primitives info
            (some reported.length) = .ok filled ∧
          filled.written.length + 1 ≤ reported.length
  secretKey : AWS_SIG_V4_SIGNATURE_START.length +
    credentials.secretKey.length ≤ scratchLen info
  fails : ∀ memory authHeaders fault,
    generateAwsSigV4Signature primitives memory info dateTimeStr authHeaders =
      .error fault → fault = .failed .notEnoughMemory
  within : ∀ memory authHeaders signingInfo,
    generateAwsSigV4Signature primitives memory info dateTimeStr authHeaders =
      .ok signingInfo → signingInfo.length + 1 ≤ scratchLen info

/-- The sizing pass is an upper bound for every request with a path. -/
theorem sizing_suffices (primitives : Primitives) (info : RequestInfo)
    (credentials : AwsCredentials) (dateTimeStr : Bytes) (uri : CanonicalUri)
    (has : info.awsCredentials = some credentials)
    (count : info.requestHeaders.length ≤ MAX_REQUEST_HEADER_COUNT)
    (formatted : primitives.dateTime
      (info.currentTime / HUNDREDS_OF_NANOS_IN_A_SECOND) = some dateTimeStr)
    (splits : getCanonicalUri info.url = .ok uri)
    (located : uri.path.isSome = true) :
    SizingSuffices primitives info credentials dateTimeStr := by
  have date := primitives.length_dateTime _ _ formatted
  have ends (memory : SigningMemory) (authHeaders : Bool) :=
    @generateAwsSigV4Signature_ends (· = .failed .notEnoughMemory) primitives
      info memory credentials uri dateTimeStr authHeaders has date splits
      (.inl located) (.inr rfl)
  constructor
  case size =>
      simp only [MAX_REQUEST_HEADER_COUNT] at count
      simp only [scratchLen, canonicalRequestSize, MAX_URI_CHAR_LEN,
        MAX_REQUEST_VERB_STRING_LEN, MAX_REQUEST_HEADER_NAME_LEN,
        MAX_REQUEST_HEADER_VALUE_LEN, SHA256_DIGEST_LENGTH, MAX_AUTH_LEN,
        SCRATCH_BUFFER_EXTRA]
      omega
  case fills =>
      intro reported sized
      rw [generateCanonicalRequestString_none] at sized
      obtain rfl := Except.ok.inj sized
      have fills := @generateCanonicalRequestString_ends (fun _ => False)
        primitives info uri splits (.inl located)
      cases filled : generateCanonicalRequestString primitives info
          (some (canonicalRequestSize info.requestHeaders.length)) with
      | error fault => exact (fills.of_error filled).elim
      | ok request =>
          obtain ⟨-, length, short⟩ := fills.of_ok filled
          exact ⟨request, rfl, length ▸ short⟩
  case secretKey => exact secretKey_fits info credentials
  case fails =>
      intro memory authHeaders fault failed
      exact (ends memory authHeaders).of_error failed
  case within =>
      intro memory authHeaders signingInfo signs
      exact ((ends memory authHeaders).of_ok signs).2.1

/-- A request with a query. -/
def requestWithQuery : RequestInfo :=
  bareRequest (bytes "https://h/p?c=d") (by decide) (by decide)

/-- The request with three headers, one of which is not signed. -/
def requestWithHeaders : RequestInfo :=
  { requestWithQuery with
    requestHeaders := buildHeaders
      [sampleHeader "user-agent" "agent", sampleHeader "host" "h",
        sampleHeader "content-type" "application/json"] }

theorem sizing_suffices_headers :
    SizingSuffices samplePrimitives requestWithHeaders sampleCredentials
      (bytes "20130524T000000Z") :=
  sizing_suffices _ _ _ _
    { path := some (bytes "/p")
      rest := bytes "?c=d"
      defaultPath := false }
    rfl (by decide) rfl (by decide) (by decide)

/-! ### The credentials -/

/-- What is filled in is the whole text with its terminator. -/
def FillsWhole (size : Nat) (text : Bytes) (fills : Result Filled) : Prop :=
  ∀ filled, fills = .ok filled →
    filled.written = text ∧ filled.length = text.length ∧ text.length < size

/-- Neither of the texts is cut off, and the sizes that are asked for suffice
for them. -/
structure TextsAreWhole (info : RequestInfo) (credentials : AwsCredentials)
    (dateTimeStr : Bytes) (size : Nat) : Prop where
  scope : FillsWhole size (credentialScopeText info dateTimeStr)
    (generateCredentialScope info dateTimeStr (some size))
  encoded : FillsWhole size
    (encodedCredentialsText info credentials dateTimeStr)
    (generateEncodedCredentials info credentials dateTimeStr (some size))
  scopeSized : ∀ reported,
    generateCredentialScope info dateTimeStr none = .ok reported →
      ∃ filled, generateCredentialScope info dateTimeStr
        (some reported.length) = .ok filled
  encodedSized : ∀ reported,
    generateEncodedCredentials info credentials dateTimeStr none =
        .ok reported →
      ∃ filled, generateEncodedCredentials info credentials dateTimeStr
        (some reported.length) = .ok filled

/-- The length of the scope: the date, the region and what is constant. -/
def scopeLength (info : RequestInfo) (dateTimeStr : Bytes) : Nat :=
  min SIGNATURE_DATE_STRING_LEN dateTimeStr.length + info.region.length + 27

/-- The buffer does not have exactly the length of one of the texts, and the
credentials are not longer than they are expected to be. -/
structure SizesDiffer (info : RequestInfo) (credentials : AwsCredentials)
    (dateTimeStr : Bytes) (size : Nat) : Prop where
  scope : size ≠ scopeLength info dateTimeStr
  encoded : size ≠
    credentials.accessKeyId.length + 1 + scopeLength info dateTimeStr
  key : credentials.accessKeyId.length + 1 + scopeLength info dateTimeStr ≤
    encodedCredentialsSize

variable {info : RequestInfo} {credentials : AwsCredentials}
variable {dateTimeStr : Bytes}

theorem length_credentialScopeText :
    (credentialScopeText info dateTimeStr).length =
      scopeLength info dateTimeStr := by
  have service : KINESIS_VIDEO_SERVICE_NAME.length = 12 := by decide
  have terminator : AWS_SIG_V4_SIGNATURE_END.length = 12 := by decide
  simp only [credentialScopeText, scopeLength, List.length_append,
    List.length_take, List.length_singleton, service, terminator]
  omega

theorem length_encodedCredentialsText :
    (encodedCredentialsText info credentials dateTimeStr).length =
      credentials.accessKeyId.length + 1 + scopeLength info dateTimeStr := by
  have split : encodedCredentialsText info credentials dateTimeStr =
      credentials.accessKeyId ++ [byte '/'] ++
        credentialScopeText info dateTimeStr := by
    simp only [encodedCredentialsText, credentialScopeText, List.append_assoc]
  rw [split, List.length_append, List.length_append, List.length_singleton,
    length_credentialScopeText]

theorem fillsWhole_iff {size : Nat} {text : Bytes} (positive : 0 < text.length) :
    FillsWhole size text (do
      check (0 < text.length ∧ text.length ≤ size) .bufferTooSmall
      .ok
        { length := text.length
          written := snprintf size text }) ↔
      size ≠ text.length := by
  constructor
  · rintro whole rfl
    have cut := (whole _ (check_bind ⟨positive, Nat.le_refl _⟩ _)).2.2
    exact absurd cut (Nat.lt_irrefl _)
  · intro differs filled fills
    simp only [bind_eq_ok, check_eq_ok, Except.ok.injEq] at fills
    obtain ⟨-, ⟨-, fits⟩, rfl⟩ := fills
    have short : text.length < size := Nat.lt_of_le_of_ne fits (Ne.symm differs)
    refine ⟨?_, rfl, short⟩
    rw [snprintf, List.take_of_length_le (Nat.le_sub_one_of_lt short)]

/-- The texts are whole if and only if no buffer has exactly the length of one
and the credentials fit into the buffer that is made for them. -/
theorem textsAreWhole_iff (info : RequestInfo) (credentials : AwsCredentials)
    (dateTimeStr : Bytes) (size : Nat) :
    TextsAreWhole info credentials dateTimeStr size ↔
      SizesDiffer info credentials dateTimeStr size := by
  have scopePositive : 0 < (credentialScopeText info dateTimeStr).length := by
    rw [length_credentialScopeText]
    exact Nat.succ_pos _
  have encodedPositive :
      0 < (encodedCredentialsText info credentials dateTimeStr).length :=
    encodedCredentialsText_pos
  have scope : FillsWhole size (credentialScopeText info dateTimeStr)
      (generateCredentialScope info dateTimeStr (some size)) ↔
        size ≠ scopeLength info dateTimeStr := by
    rw [← length_credentialScopeText]
    exact fillsWhole_iff scopePositive
  have encoded : FillsWhole size
      (encodedCredentialsText info credentials dateTimeStr)
      (generateEncodedCredentials info credentials dateTimeStr (some size)) ↔
        size ≠ credentials.accessKeyId.length + 1 +
          scopeLength info dateTimeStr := by
    rw [← length_encodedCredentialsText]
    exact fillsWhole_iff encodedPositive
  constructor
  · intro whole
    refine ⟨scope.mp whole.scope, encoded.mp whole.encoded, ?_⟩
    obtain ⟨filled, fills⟩ := whole.encodedSized _ rfl
    simp only [generateEncodedCredentials, bind_eq_ok, check_eq_ok] at fills
    obtain ⟨-, ⟨-, fits⟩, -⟩ := fills
    rwa [length_encodedCredentialsText] at fits
  · intro differ
    refine ⟨scope.mpr differ.scope, encoded.mpr differ.encoded, ?_, ?_⟩
    · intro reported sized
      rw [generateCredentialScope_none] at sized
      obtain rfl := Except.ok.inj sized
      have short := @length_credentialScopeText_lt info dateTimeStr
      exact ⟨_, check_bind ⟨scopePositive, Nat.le_of_lt short⟩ _⟩
    · intro reported sized
      obtain rfl := Except.ok.inj sized
      have fits := differ.key
      rw [← length_encodedCredentialsText] at fits
      exact ⟨_, check_bind ⟨encodedPositive, fits⟩ _⟩

/-- A buffer of the length of the scope loses its last character. -/
theorem not_textsAreWhole :
    ¬ ∀ (info : RequestInfo) (credentials : AwsCredentials)
      (dateTimeStr : Bytes) (size : Nat),
      TextsAreWhole info credentials dateTimeStr size := by
  intro claim
  have whole := claim
    (bareRequest (bytes "https://h/p") (by decide) (by decide))
    sampleCredentials (bytes "20130524T000000Z") 44
  have short := (whole.scope _ rfl).2.2
  revert short
  decide +kernel

end Common

end KvsProducer
