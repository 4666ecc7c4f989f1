import KvsProducer.Common.CredentialFreshness
import KvsProducer.Common.TimestampGrammar

/-!
# The credential file

A credential file has one of two forms.  Which one it is, is told from the
buffers that are empty after one formatted scan, which cuts a string that is too
long into several and leaves the rest of the file alone.  The timestamp of the
long form is to state an instant that is not in the past; what is accepted is
what `convertTimestampToEpoch` takes for such an instant.
-/

namespace KvsProducer

namespace Common

open CredentialProvider (Arguments)

/-! ### The two forms -/

/-- What a credential file states, with or without an expiration. -/
inductive FileForm where
  | short (accessKeyId secretKey : Bytes)
  | long (accessKeyId expiration secretKey sessionToken : Bytes)
  deriving DecidableEq, Repr

namespace FileForm

def tokens : FileForm → List Bytes
  | .short accessKeyId secretKey =>
      [bytes "CREDENTIALS", accessKeyId, secretKey]
  | .long accessKeyId expiration secretKey sessionToken =>
      [bytes "CREDENTIALS", accessKeyId, expiration, secretKey, sessionToken]

def accessKeyId : FileForm → Bytes
  | .short accessKeyId _ => accessKeyId
  | .long accessKeyId _ _ _ => accessKeyId

def secretKey : FileForm → Bytes
  | .short _ secretKey => secretKey
  | .long _ _ secretKey _ => secretKey

def sessionToken : FileForm → Option Bytes
  | .short _ _ => none
  | .long _ _ _ sessionToken => some sessionToken

/-- The timestamp of the expiration. -/
def timestamp : FileForm → Option Bytes
  | .short _ _ => none
  | .long _ expiration _ _ => some expiration

/-- No token is longer than it may be. -/
structure WithinLimits (form : FileForm) : Prop where
  accessKeyId : form.accessKeyId.length ≤ MAX_ACCESS_KEY_LEN
  timestamp : ∀ timestamp ∈ form.timestamp,
    timestamp.length ≤ MAX_EXPIRATION_LEN
  secretKey : form.secretKey.length ≤ MAX_SECRET_KEY_LEN
  sessionToken : ∀ token ∈ form.sessionToken,
    token.length ≤ MAX_SESSION_TOKEN_LEN

end FileForm

/-- The clock in whole seconds. -/
def ClockReading.seconds (clock : ClockReading) : Nat :=
  clock.time / HUNDREDS_OF_NANOS_IN_A_SECOND

namespace FileForm

section Expiration

variable (durations : TokenDurations) (clock : ClockReading)

/-- The expiration that the file stands for: the instant of its timestamp, which
is not in the past, or the latest one that is enforced. -/
def expiration (form : FileForm) : Option Nat :=
  match form.timestamp with
  | none => some (durations.latest clock)
  | some timestamp => do
      let instant ← statedInstant timestamp
      if (clock.seconds : Int) ≤ instant then
        some (min (instant.toNat * HUNDREDS_OF_NANOS_IN_A_SECOND)
          (durations.latest clock))
      else none

/-- A text is a credential file. -/
structure Documents (content : Bytes) (form : FileForm) : Prop where
  tokens : fileWords content = form.tokens
  plain : NUL ∉ content
  limits : form.WithinLimits
  valid : ∃ expiration, form.expiration durations clock = some expiration

end Expiration

/-- The credentials are those of the file. -/
structure StoredIn (form : FileForm) (expiration : Nat)
    (credentials : AwsCredentials) : Prop where
  accessKeyId : credentials.accessKeyId = form.accessKeyId
  secretKey : credentials.secretKey = form.secretKey
  sessionToken : credentials.sessionToken = form.sessionToken
  expiration : credentials.expiration = expiration

end FileForm

/-- A call with memory for the object. -/
def fileCall (clock : ClockReading) (content uninitialised : Bytes) :
    FileCall where
  clock := clock
  file := some content
  uninitialised := uninitialised
  allocated := true

/-- A refresh succeeds exactly for a credential file, keeps what the file
states, does nothing that is undefined, and does not depend on what was in
memory. -/
structure FileGrammar (time : TimeEnv) (durations : TokenDurations)
    (clock : ClockReading) (content : Bytes) : Prop where
  accepts : ∀ provider uninitialised, provider.isStale durations clock →
    (((fileCall clock content uninitialised).getCredentials time durations
        provider).1 = .ok () ↔
      ∃ form : FileForm, form.Documents durations clock content)
  stores : ∀ provider uninitialised (form : FileForm),
    provider.isStale durations clock → form.Documents durations clock content →
      ∃ expiration ∈ form.expiration durations clock,
        ∃ held ∈ ((fileCall clock content uninitialised).getCredentials time
            durations provider).2.pAwsCredentials,
          form.StoredIn expiration held.credentials
  isDefined : ∀ provider uninitialised,
    ((fileCall clock content uninitialised).getCredentials time durations
      provider).1 ≠ .error .undefined
  initialised : ∀ provider uninitialised other,
    (fileCall clock content uninitialised).getCredentials time durations
        provider =
      (fileCall clock content other).getCredentials time durations provider

/-! ### The buffers -/

/-- The string in a buffer after the scan: the piece of a word, up to its first
`NUL`, or what the buffer held before. -/
def fileBuffer (content uninitialised : Bytes) (index : Nat) : Bytes :=
  ((Words.pieces credentialFileFormat (fileWords content))[index]?.getD
    (if index = 0 then uninitialised else [])).takeWhile (· ≠ NUL)

/-- The buffers hold the strings of a form; the short one is told from the long
one by the fourth string. -/
def FileForm.InBuffers (form : FileForm) (buffer : Nat → Bytes) : Prop :=
  buffer 0 = bytes "CREDENTIALS" ∧ buffer 1 ≠ [] ∧
    match form with
    | .short accessKeyId secretKey =>
        buffer 3 = [] ∧ buffer 2 ≠ [] ∧ buffer 1 = accessKeyId ∧
          buffer 2 = secretKey
    | .long accessKeyId expiration secretKey sessionToken =>
        buffer 3 ≠ [] ∧ buffer 4 ≠ [] ∧ buffer 1 = accessKeyId ∧
          buffer 2 = expiration ∧ buffer 3 = secretKey ∧
          buffer 4 = sessionToken

/-- The file is read as it is: it has no `NUL`, no more words than there are
conversions, and none that is longer than its conversion is wide. -/
def ReadWhole (content : Bytes) : Prop :=
  NUL ∉ content ∧ Words.Fit credentialFileFormat (fileWords content)

/-- The file is not blank, nothing in the place of a timestamp makes the
conversion undefined, and a timestamp that is read as it is fits; if the file is
not read as it is, then what is read is not of a form, or has a timestamp that
is rejected. -/
structure ContentFits (time : TimeEnv) (clock : ClockReading)
    (content : Bytes) : Prop where
  nonblank : fileWords content ≠ []
  isDefined : fileBuffer content [] 0 = bytes "CREDENTIALS" →
    fileBuffer content [] 3 ≠ [] →
      TimestampDefined time (fileBuffer content [] 2) clock.seconds
  whole : ReadWhole content → ∀ form : FileForm,
    fileWords content = form.tokens → ∀ timestamp ∈ form.timestamp,
      TimestampFits time timestamp clock.seconds
  cut : ¬ ReadWhole content → ∀ form : FileForm,
    form.InBuffers (fileBuffer content []) →
      ∃ timestamp ∈ form.timestamp,
        ¬ TimestampAccepted time timestamp clock.seconds

theorem text_marker {content uninitialised : Bytes} :
    (scannedString content 0 uninitialised).text =
      fileBuffer content uninitialised 0 := by
  rw [fileBuffer, ← scanStrings_eq]
  rfl

theorem text_buffer {content : Bytes} (uninitialised : Bytes) (index : Nat) :
    (scannedString content (index + 1) []).text =
      fileBuffer content uninitialised (index + 1) := by
  rw [fileBuffer, ← scanStrings_eq]
  rfl

theorem length_buffer_ne_zero {content : Bytes} {index : Nat}
    (uninitialised : Bytes) :
    (scannedString content (index + 1) []).length ≠ 0 ↔
      fileBuffer content uninitialised (index + 1) ≠ [] := by
  have length := length_sized
    ((scanStrings credentialFileFormat content)[index + 1]?.getD [])
  rw [← text_buffer, ← List.length_pos_iff, Nat.pos_iff_ne_zero]
  exact not_congr (Eq.congr_left length)

/-- Only the first buffer can be left as it was. -/
theorem fileBuffer_nonblank {content : Bytes}
    (nonblank : fileWords content ≠ []) (uninitialised : Bytes) :
    fileBuffer content uninitialised = fileBuffer content [] := by
  funext index
  cases index with
  | zero =>
      cases listed : fileWords content with
      | nil => exact absurd listed nonblank
      | cons word later =>
          simp [fileBuffer, listed, credentialFileFormat, Words.pieces]
  | succ index => rfl

theorem authValue_scannedString {content initial : Bytes} {index : Nat} :
    (scannedString content index initial).authValue =
      (scannedString content index initial).text := by
  have length := length_sized
    ((scanStrings credentialFileFormat content)[index]?.getD initial)
  apply List.take_of_length_le
  rw [scannedString, SizedString.authLen]
  split
  · omega
  · omega

/-! ### The timestamp -/

section Timestamp

variable {time : TimeEnv} {durations : TokenDurations} {clock : ClockReading}
variable {form : FileForm}

/-- The expiration that is read, whatever the timestamp is taken for. -/
def FileForm.readExpiration (time : TimeEnv) (durations : TokenDurations)
    (clock : ClockReading) (form : FileForm) : Result Nat :=
  match form.timestamp with
  | none => .ok (durations.latest clock)
  | some timestamp => do
      let expiration ← convertTimestampToEpoch time timestamp clock.seconds
      .ok (min expiration (durations.latest clock))

theorem ClockReading.seconds_le :
    clock.seconds ≤ 2 ^ 64 / HUNDREDS_OF_NANOS_IN_A_SECOND := by
  have bound := clock.time_lt
  exact Nat.div_le_div_right (by omega)

theorem readExpiration_isOk (digits : time.ReadsDigits)
    (onlyDigits : time.ReadsOnlyDigits) :
    (∃ kept, form.readExpiration time durations clock = .ok kept) ↔
      ∀ timestamp ∈ form.timestamp,
        TimestampAccepted time timestamp clock.seconds := by
  rw [FileForm.readExpiration]
  cases form.timestamp with
  | none => simp
  | some timestamp =>
      simp only [Option.mem_some_iff, forall_eq',
        ← converts_iff_accepted digits onlyDigits ClockReading.seconds_le]
      constructor
      · intro reads
        obtain ⟨kept, reads⟩ := reads
        obtain ⟨expiration, converts, -⟩ := bind_eq_ok.mp reads
        exact ⟨expiration, converts⟩
      · intro accepted
        obtain ⟨expiration, converts⟩ := accepted
        exact ⟨_, bind_eq_ok.mpr ⟨expiration, converts, rfl⟩⟩

theorem expiration_isSome :
    (∃ expiration, form.expiration durations clock = some expiration) ↔
      ∀ timestamp ∈ form.timestamp,
        StatesUnexpired timestamp clock.seconds := by
  rw [FileForm.expiration]
  cases form.timestamp with
  | none => simp
  | some timestamp =>
      simp only [Option.mem_some_iff, forall_eq', StatesUnexpired,
        Option.bind_eq_bind, Option.bind_eq_some_iff]
      constructor
      · intro limited
        obtain ⟨expiration, instant, stated, limited⟩ := limited
        by_cases notPast : (clock.seconds : Int) ≤ instant
        · exact ⟨instant, stated, notPast⟩
        · rw [if_neg notPast] at limited
          cases limited
      · intro states
        obtain ⟨instant, stated, notPast⟩ := states
        exact ⟨_, instant, stated, if_pos notPast⟩

/-- What is read of a timestamp that states the expiration is the expiration. -/
theorem readExpiration_of_expiration (digits : time.ReadsDigits)
    {kept expiration : Nat}
    (reads : form.readExpiration time durations clock = .ok kept)
    (states : form.expiration durations clock = some expiration) :
    kept = expiration := by
  rw [FileForm.readExpiration] at reads
  rw [FileForm.expiration] at states
  cases isTimestamp : form.timestamp with
  | none =>
      simp only [isTimestamp, Except.ok.injEq, Option.some.injEq] at reads states
      exact reads.symm.trans states
  | some timestamp =>
      simp only [isTimestamp, bind_eq_ok, Except.ok.injEq, Option.bind_eq_bind,
        Option.bind_eq_some_iff] at reads states
      obtain ⟨converted, converts, rfl⟩ := reads
      obtain ⟨instant, stated, limited⟩ := states
      by_cases notPast : (clock.seconds : Int) ≤ instant
      · rw [if_pos notPast, Option.some.injEq] at limited
        rw [convertTimestampToEpoch_of_stated digits stated notPast converts,
          earlyExpiration_eq]
        exact limited
      · rw [if_neg notPast] at limited
        cases limited

end Timestamp

/-! ### What is read -/

section Reading

variable {time : TimeEnv} {durations : TokenDurations} {call : FileCall}
variable {content : Bytes}

theorem inBuffers_of_read {arguments : Arguments}
    (file : call.file = some content)
    (reads : call.read time durations = .ok arguments)
    (constructible : Constructible call.allocated arguments) :
    ∃ form : FileForm,
      form.InBuffers (fileBuffer content call.uninitialised) ∧
      form.readExpiration time durations call.clock = .ok
        arguments.expiration ∧
      arguments.accessKeyId.authValue = form.accessKeyId ∧
      arguments.secretKey.authValue = form.secretKey ∧
      arguments.sessionToken.string.map (·.authValue) = form.sessionToken := by
  have hasToken := constructible.sessionToken
  simp only [FileCall.read, file, FileCall.expiration, bind_eq_ok,
    checkSome_eq_ok, check_eq_ok, Except.ok.injEq] at reads
  obtain ⟨_, ⟨⟩, _, -, _, isMarker, expiration, converts, _,
    ⟨hasId, hasKey⟩, rfl⟩ := reads
  rw [text_marker] at isMarker
  have hasId := (length_buffer_ne_zero call.uninitialised).mp hasId
  simp only [text_buffer call.uninitialised] at converts hasKey hasToken ⊢
  by_cases short : fileBuffer content call.uninitialised 3 = []
  · simp only [if_pos short, Except.ok.injEq] at converts hasKey ⊢
    have hasKey := (length_buffer_ne_zero call.uninitialised).mp hasKey
    refine ⟨.short _ _, ⟨isMarker, hasId, short, hasKey, rfl, rfl⟩, ?_, ?_, ?_,
      rfl⟩
    · simp [FileForm.readExpiration, FileForm.timestamp, ← converts]
    · exact authValue_scannedString.trans (text_buffer _ _)
    · exact authValue_scannedString.trans (text_buffer _ _)
  · simp only [if_neg short] at converts hasToken ⊢
    have hasToken := hasToken _ rfl
    rw [text_buffer call.uninitialised] at hasToken
    refine ⟨.long _ _ _ _, ⟨isMarker, hasId, short, hasToken, rfl, rfl, rfl,
      rfl⟩, ?_, ?_, ?_, ?_⟩
    · simp [FileForm.readExpiration, FileForm.timestamp,
        ClockReading.seconds, converts]
    · exact authValue_scannedString.trans (text_buffer _ _)
    · exact authValue_scannedString.trans (text_buffer _ _)
    · exact congrArg some (authValue_scannedString.trans (text_buffer _ _))

theorem read_of_inBuffers {form : FileForm} {expiration : Nat}
    (file : call.file = some content)
    (fits : content.length < MAX_CREDENTIAL_FILE_LEN)
    (buffers : form.InBuffers (fileBuffer content call.uninitialised))
    (reads : form.readExpiration time durations call.clock = .ok expiration) :
    ∃ arguments, call.read time durations = .ok arguments ∧
      (call.allocated = true → Constructible call.allocated arguments) := by
  suffices reads : ∃ arguments, call.read time durations = .ok arguments ∧
      ¬ EndsBehindSecretKey content by
    obtain ⟨arguments, reads, goesOn⟩ := reads
    exact ⟨arguments, reads, fun hasMemory =>
      (FileCall.constructible_iff file reads).mpr ⟨hasMemory, goesOn⟩⟩
  obtain ⟨isMarker, hasId, strings⟩ := buffers
  rw [← text_marker] at isMarker
  have hasId := (length_buffer_ne_zero call.uninitialised).mpr hasId
  simp only [FileCall.read, file, FileCall.expiration, bind_eq_ok,
    checkSome_eq_ok, check_eq_ok, Except.ok.injEq]
  cases form with
  | short accessKeyId secretKey =>
      obtain ⟨short, hasKey, -, -⟩ := strings
      have hasKey := (length_buffer_ne_zero call.uninitialised).mpr hasKey
      rw [← text_buffer] at short
      refine ⟨_, ⟨content, rfl, (), fits, (), isMarker, durations.latest
        call.clock, ?_, (), ⟨hasId, ?_⟩, rfl⟩, ?_⟩
      · rw [if_pos short]
      · rw [if_pos short]
        exact hasKey
      · intro ends
        exact ends.1 short
  | long accessKeyId timestamp secretKey sessionToken =>
      obtain ⟨long, hasToken, -, rfl, -, -⟩ := strings
      have hasKey := (length_buffer_ne_zero call.uninitialised).mpr long
      rw [← text_buffer] at long hasToken
      obtain ⟨stated, converts, -⟩ := bind_eq_ok.mp reads
      refine ⟨_, ⟨content, rfl, (), fits, (), isMarker, stated, ?_, (),
        ⟨hasId, ?_⟩, rfl⟩, ?_⟩
      · rw [if_neg long, text_buffer call.uninitialised]
        exact converts
      · rw [if_neg long]
        exact hasKey
      · intro ends
        exact hasToken ends.2

theorem read_undefined_iff (file : call.file = some content)
    (fits : content.length < MAX_CREDENTIAL_FILE_LEN) :
    call.read time durations = .error .undefined ↔
      fileBuffer content call.uninitialised 0 = bytes "CREDENTIALS" ∧
        fileBuffer content call.uninitialised 3 ≠ [] ∧
        convertTimestampToEpoch time (fileBuffer content call.uninitialised 2)
          call.clock.seconds = .error .undefined := by
  rw [← text_marker, ← text_buffer call.uninitialised,
    ← text_buffer call.uninitialised]
  simp only [FileCall.read, file, checkSome, ok_bind, check_met fits,
    bind_eq_undefined, check_ne_undefined, check_eq_ok, reduceCtorEq, and_false,
    exists_false, or_false, false_or, exists_const, FileCall.expiration]
  apply and_congr_right
  intro _
  by_cases short : (scannedString content 3 []).text = []
  · simp [short]
  · simp [short, ClockReading.seconds]

end Reading

section Grammar

variable {time : TimeEnv} {durations : TokenDurations} {clock : ClockReading}
variable {content uninitialised : Bytes} {provider : CredentialProvider}

theorem getCredentials_stale (uninitialised : Bytes)
    (stale : provider.isStale durations clock = true) :
    (fileCall clock content uninitialised).getCredentials time durations
        provider =
      provider.replace true
        ((fileCall clock content uninitialised).read time durations) :=
  if_pos stale

theorem createAwsCredentials_defined {call : FileCall} {arguments : Arguments}
    (file : call.file = some content)
    (reads : call.read time durations = .ok arguments) (allocated : Bool) :
    createAwsCredentials allocated (some arguments.accessKeyId)
        (some arguments.secretKey) arguments.sessionToken
        arguments.expiration ≠ .error .undefined := by
  have size := FileCall.size_lt file reads
  intro isUndefined
  simp only [createAwsCredentials, dif_pos size] at isUndefined
  repeat' split at isUndefined
  all_goals cases isUndefined

theorem getCredentials_undefined_iff (digits : time.ReadsDigits)
    (onlyDigits : time.ReadsOnlyDigits)
    (fits : content.length < MAX_CREDENTIAL_FILE_LEN)
    (stale : provider.isStale durations clock = true) :
    ((fileCall clock content uninitialised).getCredentials time durations
        provider).1 = .error .undefined ↔
      fileBuffer content uninitialised 0 = bytes "CREDENTIALS" ∧
        fileBuffer content uninitialised 3 ≠ [] ∧
        ¬ TimestampDefined time (fileBuffer content uninitialised 2)
          clock.seconds := by
  rw [getCredentials_stale _ stale,
    ← converts_defined_iff digits onlyDigits ClockReading.seconds_le, not_not]
  have replaced : (provider.replace true
      ((fileCall clock content uninitialised).read time durations)).1 =
        .error .undefined ↔
      (fileCall clock content uninitialised).read time durations =
        .error .undefined := by
    cases reads : (fileCall clock content uninitialised).read time durations
      with
    | error fault => simp [CredentialProvider.replace]
    | ok arguments =>
        have defined := createAwsCredentials_defined rfl reads true
        simp only [CredentialProvider.replace]
        split
        · rename_i fault fails
          rw [fails] at defined
          simpa using defined
        · simp
  rw [replaced, read_undefined_iff rfl fits]
  rfl

theorem inBuffers_of_getCredentials
    (stale : provider.isStale durations clock = true)
    (succeeds : ((fileCall clock content uninitialised).getCredentials time
      durations provider).1 = .ok ()) :
    ∃ (form : FileForm) (expiration : Nat),
      form.InBuffers (fileBuffer content uninitialised) ∧
      form.readExpiration time durations clock = .ok expiration ∧
      ∃ held ∈ ((fileCall clock content uninitialised).getCredentials time
          durations provider).2.pAwsCredentials,
        form.StoredIn expiration held.credentials := by
  rw [getCredentials_stale _ stale] at succeeds ⊢
  obtain ⟨arguments, held, reads, creates, holds⟩ :=
    CredentialProvider.replace_eq_ok succeeds
  have constructible := createAwsCredentials_isOk_iff.mp
    (isOk_iff.mpr ⟨_, creates⟩)
  obtain ⟨form, buffers, expires, id, key, token⟩ :=
    inBuffers_of_read rfl reads constructible
  obtain ⟨isId, isKey, isToken, isExpiration⟩ :=
    createAwsCredentials_ok creates
  refine ⟨form, _, buffers, expires, held, holds, ?_⟩
  constructor
  case accessKeyId => exact isId.trans id
  case secretKey => exact isKey.trans key
  case sessionToken => exact isToken.trans token
  case expiration => exact isExpiration

theorem getCredentials_of_inBuffers {form : FileForm} {expiration : Nat}
    (fits : content.length < MAX_CREDENTIAL_FILE_LEN)
    (stale : provider.isStale durations clock = true)
    (buffers : form.InBuffers (fileBuffer content uninitialised))
    (reads : form.readExpiration time durations clock = .ok expiration) :
    ((fileCall clock content uninitialised).getCredentials time durations
      provider).1 = .ok () := by
  obtain ⟨arguments, reads, constructible⟩ :=
    @read_of_inBuffers time durations (fileCall clock content uninitialised) _
      _ _ rfl fits buffers reads
  obtain ⟨credentials, creates⟩ :=
    isOk_iff.mp (createAwsCredentials_isOk_iff.mpr (constructible rfl))
  have creates : createAwsCredentials true _ _ _ _ = _ := creates
  rw [getCredentials_stale _ stale, reads]
  simp only [CredentialProvider.replace, creates]

theorem FileForm.InBuffers.unique {form other : FileForm}
    {buffer : Nat → Bytes} (buffers : form.InBuffers buffer)
    (others : other.InBuffers buffer) : form = other := by
  obtain ⟨-, -, strings⟩ := buffers
  obtain ⟨-, -, otherStrings⟩ := others
  cases form with
  | short accessKeyId secretKey =>
      obtain ⟨short, -, rfl, rfl⟩ := strings
      cases other with
      | short _ _ =>
          obtain ⟨-, -, rfl, rfl⟩ := otherStrings
          rfl
      | long _ _ _ _ => exact absurd short otherStrings.1
  | long accessKeyId timestamp secretKey sessionToken =>
      obtain ⟨long, -, rfl, rfl, rfl, rfl⟩ := strings
      cases other with
      | short _ _ => exact absurd otherStrings.1 long
      | long _ _ _ _ =>
          obtain ⟨-, -, rfl, rfl, rfl, rfl⟩ := otherStrings
          rfl

theorem fileBuffer_of_readWhole (whole : ReadWhole content) (index : Nat) :
    fileBuffer content [] index = (fileWords content)[index]?.getD [] := by
  obtain ⟨plain, fits⟩ := whole
  rw [fileBuffer, Words.pieces_of_fit fits, ite_self]
  apply List.takeWhile_eq_self_iff.mpr
  intro c member
  have other : c ≠ NUL := by
    intro isNul
    apply plain
    rw [← isNul]
    cases listed : (fileWords content)[index]? with
    | none => simp [listed] at member
    | some word =>
        rw [listed] at member
        have isWord := List.mem_of_getElem? listed
        rw [fileWords_eq] at isWord
        exact Words.mem_of_mem_words isWord member
  simpa using other

theorem inBuffers_iff_tokens {form : FileForm} (whole : ReadWhole content) :
    form.InBuffers (fileBuffer content []) ↔
      fileWords content = form.tokens := by
  have kept := @ne_nil_of_mem_fileWords content
  have fits := whole.2
  rw [funext (fileBuffer_of_readWhole whole)]
  generalize fileWords content = words at kept fits
  constructor
  · intro inBuffers
    obtain ⟨isMarker, hasId, strings⟩ := inBuffers
    cases form with
    | short accessKeyId secretKey =>
        obtain ⟨short, hasKey, rfl, rfl⟩ := strings
        match words with
        | [] => exact absurd rfl hasId
        | [_] => exact absurd rfl hasId
        | [_, _] => exact absurd rfl hasKey
        | [marker, _, _] => exact congrArg (· :: _) isMarker
        | _ :: _ :: _ :: fourth :: _ => exact absurd short (kept (by simp))
    | long accessKeyId timestamp secretKey sessionToken =>
        obtain ⟨long, hasToken, rfl, rfl, rfl, rfl⟩ := strings
        match words with
        | [] => exact absurd rfl hasId
        | [_] => exact absurd rfl hasId
        | [_, _] => exact absurd rfl long
        | [_, _, _] => exact absurd rfl long
        | [_, _, _, _] => exact absurd rfl hasToken
        | [marker, _, _, _, _] => exact congrArg (· :: _) isMarker
        | _ :: _ :: _ :: _ :: _ :: _ :: _ => exact fits.2.2.2.2.2.elim
  · intro tokens
    subst tokens
    cases form with
    | short accessKeyId secretKey =>
        exact ⟨rfl, kept (by simp [FileForm.tokens]), rfl,
          kept (by simp [FileForm.tokens]), rfl, rfl⟩
    | long accessKeyId timestamp secretKey sessionToken =>
        exact ⟨rfl, kept (by simp [FileForm.tokens]),
          kept (by simp [FileForm.tokens]), kept (by simp [FileForm.tokens]),
          rfl, rfl, rfl, rfl⟩

theorem readWhole_of_documents {form : FileForm}
    (documents : form.Documents durations clock content) :
    ReadWhole content := by
  refine ⟨documents.plain, ?_⟩
  have marker : (bytes "CREDENTIALS").length = 11 := by decide
  have limits := documents.limits
  rw [documents.tokens]
  cases form with
  | short accessKeyId secretKey =>
      exact ⟨Nat.le_of_eq marker, limits.accessKeyId, limits.secretKey,
        trivial⟩
  | long accessKeyId timestamp secretKey sessionToken =>
      exact ⟨Nat.le_of_eq marker, limits.accessKeyId, limits.timestamp _ rfl,
        limits.secretKey, limits.sessionToken _ rfl, trivial⟩

theorem withinLimits_of_readWhole {form : FileForm}
    (whole : ReadWhole content) (tokens : fileWords content = form.tokens) :
    form.WithinLimits := by
  obtain ⟨-, fits⟩ := whole
  rw [tokens] at fits
  cases form with
  | short accessKeyId secretKey =>
      obtain ⟨-, id, key, -⟩ := fits
      constructor
      case accessKeyId => exact id
      case timestamp =>
          intro _ other
          cases other
      case secretKey => exact key
      case sessionToken =>
          intro _ other
          cases other
  | long accessKeyId timestamp secretKey sessionToken =>
      obtain ⟨-, id, expiration, key, token, -⟩ := fits
      constructor
      case accessKeyId => exact id
      case timestamp =>
          intro _ same
          exact Option.some.inj same ▸ expiration
      case secretKey => exact key
      case sessionToken =>
          intro _ same
          exact Option.some.inj same ▸ token

/-- A file that is read as it is holds a form with an expiration that is not in
the past exactly if it is a credential file. -/
theorem documents_iff (form : FileForm) (whole : ReadWhole content) :
    form.Documents durations clock content ↔
      form.InBuffers (fileBuffer content []) ∧
        ∀ timestamp ∈ form.timestamp,
          StatesUnexpired timestamp clock.seconds := by
  rw [inBuffers_iff_tokens whole, ← @expiration_isSome durations]
  constructor
  · intro documents
    exact ⟨documents.tokens, documents.valid⟩
  · intro holds
    obtain ⟨tokens, valid⟩ := holds
    exact ⟨tokens, whole.1, withinLimits_of_readWhole whole tokens, valid⟩

/-- On a blank file, the marker is what was in memory. -/
theorem read_blank (blank : fileWords content = [])
    (fits : content.length < MAX_CREDENTIAL_FILE_LEN) :
    (fileCall clock content []).read time durations =
        .error (.failed .invalidFileFormat) ∧
      (fileCall clock content (bytes "CREDENTIALS")).read time durations =
        .error (.failed .invalidAuthLen) := by
  have scans : scanStrings credentialFileFormat content = [] := by
    rw [scanStrings_eq, blank]
    rfl
  have buffer (index : Nat) (initial : Bytes) :
      scannedString content index initial =
        .sized initial initial.length := by
    rw [scannedString, scans]
    rfl
  have unmarked : (SizedString.sized [] ([] : Bytes).length).text ≠
      bytes "CREDENTIALS" := by
    decide
  have marked : (SizedString.sized (bytes "CREDENTIALS")
      (bytes "CREDENTIALS").length).text = bytes "CREDENTIALS" := by
    decide
  constructor
  · simp only [FileCall.read, fileCall, checkSome, ok_bind, check, if_pos fits,
      buffer]
    rw [if_neg unmarked]
    rfl
  · simp only [FileCall.read, fileCall, checkSome, ok_bind, check, if_pos fits,
      buffer]
    rw [if_pos marked]
    rfl

theorem read_congr {call other : FileCall} (file : call.file = some content)
    (otherFile : other.file = some content) (clock : call.clock = other.clock)
    (marker : scannedString content 0 call.uninitialised =
      scannedString content 0 other.uninitialised) :
    call.read time durations = other.read time durations := by
  have compared :
      check ((scannedString content 0 call.uninitialised).text =
          bytes "CREDENTIALS") .invalidFileFormat =
        check ((scannedString content 0 other.uninitialised).text =
          bytes "CREDENTIALS") .invalidFileFormat :=
    check_congr (by rw [marker])
  simp only [FileCall.read, file, otherFile, FileCall.expiration, checkSome,
    ok_bind, clock, compared]

/-- On other files, no buffer is left as it was. -/
theorem read_nonblank (nonblank : fileWords content ≠ [])
    (uninitialised other : Bytes) :
    (fileCall clock content uninitialised).read time durations =
      (fileCall clock content other).read time durations := by
  have marker : scannedString content 0 uninitialised =
      scannedString content 0 other := by
    cases listed : fileWords content with
    | nil => exact absurd listed nonblank
    | cons word later =>
        rw [scannedString, scannedString, scanStrings_eq, listed]
        rfl
  exact @read_congr _ _ _ (fileCall clock content uninitialised)
    (fileCall clock content other) rfl rfl rfl marker

end Grammar

/-! ### The files that are read as they should be -/

section Files

variable {time : TimeEnv} {durations : TokenDurations} {clock : ClockReading}
variable {content : Bytes}

/-- A first refresh succeeds exactly for a form in the buffers of which the
timestamp is accepted. -/
theorem succeeds_iff (digits : time.ReadsDigits)
    (onlyDigits : time.ReadsOnlyDigits)
    (fits : content.length < MAX_CREDENTIAL_FILE_LEN)
    {provider : CredentialProvider}
    (stale : provider.isStale durations clock = true) (uninitialised : Bytes) :
    ((fileCall clock content uninitialised).getCredentials time durations
        provider).1 = .ok () ↔
      ∃ form : FileForm, form.InBuffers (fileBuffer content uninitialised) ∧
        ∀ timestamp ∈ form.timestamp,
          TimestampAccepted time timestamp clock.seconds := by
  simp only [← @readExpiration_isOk time durations clock _ digits onlyDigits]
  constructor
  · intro succeeds
    obtain ⟨form, expiration, buffers, reads, -⟩ :=
      inBuffers_of_getCredentials stale succeeds
    exact ⟨form, buffers, expiration, reads⟩
  · intro accepted
    obtain ⟨form, buffers, expiration, reads⟩ := accepted
    exact getCredentials_of_inBuffers fits stale buffers reads

theorem FileGrammar.fits (digits : time.ReadsDigits)
    (onlyDigits : time.ReadsOnlyDigits)
    (fits : content.length < MAX_CREDENTIAL_FILE_LEN)
    (grammar : FileGrammar time durations clock content) :
    ContentFits time clock content := by
  have stale : CredentialProvider.initial.isStale durations clock = true := rfl
  have documented : (∃ form : FileForm,
        form.InBuffers (fileBuffer content []) ∧
          ∀ timestamp ∈ form.timestamp,
            TimestampAccepted time timestamp clock.seconds) ↔
      ∃ form : FileForm, form.Documents durations clock content :=
    (succeeds_iff digits onlyDigits fits stale []).symm.trans
      (grammar.accepts _ _ stale)
  have isDefined : fileBuffer content [] 0 = bytes "CREDENTIALS" →
      fileBuffer content [] 3 ≠ [] →
        TimestampDefined time (fileBuffer content [] 2) clock.seconds := by
    intro marker long
    by_contra undefined
    exact grammar.isDefined .initial []
      ((getCredentials_undefined_iff digits onlyDigits fits stale).mpr
        ⟨marker, long, undefined⟩)
  constructor
  case nonblank =>
      intro blank
      have reads := @read_blank time durations clock _ blank fits
      have same := grammar.initialised .initial [] (bytes "CREDENTIALS")
      rw [getCredentials_stale _ rfl, getCredentials_stale _ rfl, reads.1,
        reads.2] at same
      cases same
  case isDefined => exact isDefined
  case whole =>
      intro whole form tokens timestamp isTimestamp
      have buffers := (inBuffers_iff_tokens whole).mpr tokens
      have only : ∀ other ∈ form.timestamp, other = timestamp := by
        intro other isOther
        exact Option.some.inj (isOther.symm.trans isTimestamp)
      refine timestampFits_iff.mpr ⟨?_, ?_, ?_⟩
      · cases form with
        | short _ _ => cases isTimestamp
        | long id expiration key token =>
            obtain ⟨marker, -, long, -, -, third, -⟩ := buffers
            cases isTimestamp
            rw [← third]
            exact isDefined marker long
      · intro accepted
        obtain ⟨other, documents⟩ := documented.mp
          ⟨form, buffers, fun _ isOther => only _ isOther ▸ accepted⟩
        obtain ⟨others, states⟩ := (documents_iff other whole).mp documents
        exact states timestamp (buffers.unique others ▸ isTimestamp)
      · intro states
        obtain ⟨other, others, accepted⟩ := documented.mpr
          ⟨form, (documents_iff form whole).mpr
            ⟨buffers, fun _ isOther => only _ isOther ▸ states⟩⟩
        exact accepted timestamp (buffers.unique others ▸ isTimestamp)
  case cut =>
      intro cut form buffers
      by_contra accepted
      simp only [not_exists, not_and, not_not] at accepted
      obtain ⟨other, documents⟩ := documented.mp ⟨form, buffers, accepted⟩
      exact cut (readWhole_of_documents documents)

/-- In a file that fits, the timestamp of a form is accepted exactly if the form
is what the file is. -/
theorem ContentFits.documents_iff (contentFits : ContentFits time clock content)
    (form : FileForm) :
    form.Documents durations clock content ↔
      form.InBuffers (fileBuffer content []) ∧
        ∀ timestamp ∈ form.timestamp,
          TimestampAccepted time timestamp clock.seconds := by
  by_cases whole : ReadWhole content
  · rw [Common.documents_iff form whole]
    apply and_congr_right
    intro buffers
    have tokens := (inBuffers_iff_tokens whole).mp buffers
    have fits := contentFits.whole whole form tokens
    apply forall₂_congr
    intro timestamp isTimestamp
    exact (timestampFits_iff.mp (fits timestamp isTimestamp)).2.symm
  · constructor
    · intro documents
      exact absurd (readWhole_of_documents documents) whole
    · intro held
      obtain ⟨buffers, accepted⟩ := held
      obtain ⟨timestamp, isTimestamp, rejected⟩ :=
        contentFits.cut whole form buffers
      exact absurd (accepted timestamp isTimestamp) rejected

end Files

/-- The files for which a refresh behaves as it should. -/
theorem fileGrammar_iff (time : TimeEnv) (digits : time.ReadsDigits)
    (onlyDigits : time.ReadsOnlyDigits) (durations : TokenDurations)
    (clock : ClockReading) (content : Bytes)
    (fits : content.length < MAX_CREDENTIAL_FILE_LEN) :
    FileGrammar time durations clock content ↔
      ContentFits time clock content := by
  constructor
  · exact FileGrammar.fits digits onlyDigits fits
  · intro contentFits
    have buffers := fileBuffer_nonblank contentFits.nonblank
    constructor
    case accepts =>
        intro provider uninitialised stale
        rw [succeeds_iff digits onlyDigits fits stale, buffers]
        exact exists_congr fun form => (contentFits.documents_iff form).symm
    case stores =>
        intro provider uninitialised form stale documents
        obtain ⟨inBuffers, accepted⟩ := (contentFits.documents_iff form).mp
          documents
        have succeeds :=
          (succeeds_iff digits onlyDigits fits stale uninitialised).mpr
            ⟨form, buffers uninitialised ▸ inBuffers, accepted⟩
        obtain ⟨other, kept, others, reads, held, holds, stored⟩ :=
          inBuffers_of_getCredentials stale succeeds
        rw [buffers] at others
        cases inBuffers.unique others
        obtain ⟨expiration, states⟩ := documents.valid
        cases readExpiration_of_expiration digits reads states
        exact ⟨_, states, held, holds, stored⟩
    case isDefined =>
        intro provider uninitialised isUndefined
        by_cases stale : provider.isStale durations clock = true
        · rw [getCredentials_undefined_iff digits onlyDigits fits stale,
            buffers] at isUndefined
          obtain ⟨marker, long, undefined⟩ := isUndefined
          exact undefined (contentFits.isDefined marker long)
        · have returns : (fileCall clock content uninitialised).getCredentials
              time durations provider = (.ok (), provider) :=
            if_neg stale
          rw [returns] at isUndefined
          cases isUndefined
    case initialised =>
        intro provider uninitialised other
        rw [FileCall.getCredentials, FileCall.getCredentials,
          read_nonblank contentFits.nonblank uninitialised other]
        rfl

/-- A file of the short form is read as it is. -/
theorem fileGrammar_iff_short :
    FileGrammar sampleTimeEnv sampleDurations (sampleClock 0)
        (bytes "CREDENTIALS AKID SECRET") ↔
      ContentFits sampleTimeEnv (sampleClock 0)
        (bytes "CREDENTIALS AKID SECRET") :=
  fileGrammar_iff _ readsDigits_sampleTimeEnv readsOnlyDigits_sampleTimeEnv _ _
    _ (by decide)

/-- No whitespace is needed behind the marker. -/
theorem not_fileGrammar :
    ¬ FileGrammar sampleTimeEnv sampleDurations (sampleClock 0)
      (bytes "CREDENTIALSAKID SECRET") := by
  intro grammar
  have succeeds : ((fileCall (sampleClock 0) (bytes "CREDENTIALSAKID SECRET")
      []).getCredentials sampleTimeEnv sampleDurations .initial).1 = .ok () := by
    decide +kernel
  obtain ⟨form, documents⟩ := (grammar.accepts .initial [] rfl).mp succeeds
  have tokens := documents.tokens
  have listed : fileWords (bytes "CREDENTIALSAKID SECRET") =
      [bytes "CREDENTIALSAKID", bytes "SECRET"] := by
    decide +kernel
  rw [listed] at tokens
  have count := congrArg List.length tokens
  cases form with
  | short _ _ => cases count
  | long _ _ _ _ => cases count

end Common

end KvsProducer
