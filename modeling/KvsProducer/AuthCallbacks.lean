import KvsProducer.ServiceCall
import KvsProducer.Common.ApiCalls
import KvsProducer.Common.FailedRefresh

/-!
# The tokens of the auth callbacks

PIC asks the auth callbacks for a streaming token or a security token.  What it
gets are the bytes of the credentials object that the provider holds.  It keeps
copies of them, and passes a copy to each API call, which deserializes it.
-/

namespace KvsProducer

open Common

/-- The strings of the credentials. -/
def Common.AwsCredentials.strings (credentials : AwsCredentials) :
    CredentialStrings where
  accessKeyId := credentials.accessKeyId
  secretKey := credentials.secretKey
  sessionToken := credentials.sessionToken

/-- The object that holds the credentials at an address, as
`createAwsCredentials` lays it out. -/
def Common.AwsCredentials.objectAt (credentials : AwsCredentials)
    (address : Nat) : CredentialsObject :=
  let accessKeyId := address + SIZEOF_AWS_CREDENTIALS
  let secretKey := accessKeyId + credentials.accessKeyId.length + 1
  { address := address
    header :=
      { version := AWS_CREDENTIALS_CURRENT_VERSION
        size := SIZEOF_AWS_CREDENTIALS + credentials.strings.layout.length
        accessKeyId := accessKeyId
        accessKeyIdLen := credentials.accessKeyId.length
        secretKey := secretKey
        secretKeyLen := credentials.secretKey.length
        sessionToken :=
          if credentials.sessionToken.isSome then
            secretKey + credentials.secretKey.length + 1
          else 0
        sessionTokenLen := credentials.sessionTokenLen
        expiration := credentials.expiration }
    strings := credentials.strings.layout }

/-! ### The callbacks -/

/-- What the callbacks call: PIC with a token or without one, and the error
report of the stream callbacks. -/
inductive AuthEvent where
  | getStreamingTokenResultEvent (handle : Nat) (result : ServiceCallResult)
      (token : Option CredentialsObject) (size expiration : Nat)
  | streamErrorReport (handle : Nat) (status : ErrorCode)

/-- What a call of `getStreamingTokenFn` comes to. -/
structure TokenRun where
  retStatus : Result Unit
  events : List AuthEvent
  provider : CredentialProvider

/-- `getCredentialsFn` of a provider, in the environment of the call. -/
abbrev GetCredentials :=
  CredentialProvider → Result Unit × CredentialProvider

/-- `getStaticCredentials` -/
def getStaticCredentials : GetCredentials := fun provider => (.ok (), provider)

/-- What a call of an auth callback finds: the address of the callbacks object
and that of every credentials object by its identity, the `customData` of the
service call context if there is one, and what PIC answers to a token. -/
structure AuthEnv where
  customData : Nat
  addressOf : (object : Nat) → Nat
  pServiceCallContext : Option Nat
  accepts : Except ErrorCode Unit

/-- The object of the provider, which is read through the pointer. -/
def obtain (getCredentialsFn : GetCredentials) (provider : CredentialProvider) :
    Result HeldCredentials × CredentialProvider :=
  match getCredentialsFn provider with
  | (.error fault, after) => (.error fault, after)
  | (.ok (), after) =>
      match after.pAwsCredentials with
      | none => (.error .undefined, after)
      | some held => (.ok held, after)

/-- `notifyCallResult`, with an error report callback installed -/
def notifyCallResult (status : Except ErrorCode Unit) (handle : Nat) :
    List AuthEvent :=
  match status with
  | .ok () => []
  | .error status =>
      if status = .nullArg then [] else [.streamErrorReport handle status]

section Callbacks

variable (env : AuthEnv) (getCredentialsFn : GetCredentials)
variable (provider : CredentialProvider)

/-- `pAwsCredentials` as a token. -/
def AuthEnv.token (held : HeldCredentials) : CredentialsObject :=
  held.credentials.objectAt (env.addressOf held.object)

def AuthEnv.tokenEvent (handle : Nat) (held : HeldCredentials) : AuthEvent :=
  .getStreamingTokenResultEvent handle .ok (some (env.token held))
    (env.token held).header.size (env.token held).header.expiration

def noTokenEvent (handle : Nat) : AuthEvent :=
  .getStreamingTokenResultEvent handle .unknown none 0 0

/-- PIC gets the token or nothing, and its answer is reported under the address
of the callbacks object. -/
def passToken : TokenRun :=
  if env.customData = 0 then
    { retStatus := .error (.failed .nullArg)
      events := []
      provider := provider }
  else
    match obtain getCredentialsFn provider with
    | (.error fault, after) =>
        { retStatus := .error fault
          events := []
          provider := after }
    | (.ok held, after) =>
        match env.pServiceCallContext with
        | none =>
            { retStatus := .error .undefined
              events := []
              provider := after }
        | some handle =>
            { retStatus := checkStatus env.accepts
              events := env.tokenEvent handle held ::
                notifyCallResult env.accepts env.customData
              provider := after }

/-- PIC and the stream callbacks are told about a failure. -/
def failToken (handle : Nat) (status : ErrorCode) : List AuthEvent :=
  noTokenEvent handle :: notifyCallResult (.error status) handle

/-- PIC gets the token, or hears of the failure. -/
def passOrFailToken : TokenRun :=
  match env.pServiceCallContext with
  | none =>
      { retStatus := .error (.failed .nullArg)
        events := []
        provider := provider }
  | some handle =>
      if env.customData = 0 then
        { retStatus := .error (.failed .nullArg)
          events := failToken handle .nullArg
          provider := provider }
      else
        match obtain getCredentialsFn provider with
        | (.error .undefined, after) =>
            { retStatus := .error .undefined
              events := []
              provider := after }
        | (.error (.failed status), after) =>
            { retStatus := .error (.failed status)
              events := failToken handle status
              provider := after }
        | (.ok held, after) =>
            match env.accepts with
            | .ok () =>
                { retStatus := .ok ()
                  events := [env.tokenEvent handle held]
                  provider := after }
            | .error status =>
                { retStatus := .error (.failed status)
                  events := env.tokenEvent handle held ::
                    failToken handle status
                  provider := after }

/-- `*ppBuffer`, `*pSize` and `*pExpiration`. -/
structure SecurityToken where
  buffer : CredentialsObject
  size : Nat
  expiration : Nat

/-- The buffer is the object of the provider itself. -/
def readToken : Result SecurityToken × CredentialProvider :=
  if env.customData = 0 then (.error (.failed .nullArg), provider)
  else
    match obtain getCredentialsFn provider with
    | (.error fault, after) => (.error fault, after)
    | (.ok held, after) =>
        (.ok
          { buffer := env.token held
            size := (env.token held).header.size
            expiration := (env.token held).header.expiration }, after)

end Callbacks

/-! ### The functions of the four kinds -/

section Kinds

variable (env : AuthEnv) (time : TimeEnv) (durations : TokenDurations)
variable (getCredentialsFn : GetCredentials) (provider : CredentialProvider)

def getStreamingTokenStaticFunc : TokenRun :=
  passToken env getStaticCredentials provider

/-- The provider is the caller's own. -/
def getStreamingTokenCredentialProviderFunc : TokenRun :=
  passToken env getCredentialsFn provider

def getStreamingTokenFileFunc (call : FileCall) : TokenRun :=
  passOrFailToken env (call.getCredentials time durations) provider

def getStreamingTokenIotFunc (call : IotCall) : TokenRun :=
  passOrFailToken env (call.getCredentials time durations) provider

def getSecurityTokenStaticFunc : Result SecurityToken × CredentialProvider :=
  readToken env getStaticCredentials provider

def getSecurityTokenCredentialProviderFunc :
    Result SecurityToken × CredentialProvider :=
  readToken env getCredentialsFn provider

def getSecurityTokenFileFunc (call : FileCall) :
    Result SecurityToken × CredentialProvider :=
  readToken env (call.getCredentials time durations) provider

def getSecurityTokenIotFunc (call : IotCall) :
    Result SecurityToken × CredentialProvider :=
  readToken env (call.getCredentials time durations) provider

end Kinds

/-! ### The token as PIC passes it on -/

theorem Common.AwsCredentials.objectAt_lays (credentials : AwsCredentials)
    (address : Nat) :
    (credentials.objectAt address).Lays credentials.strings
        credentials.expiration ∧
      (credentials.objectAt address).Points := by
  have size := credentials.size_lt
  constructor
  · constructor
    case layout => rfl
    case size => rfl
    case size_lt =>
        simp only [AwsCredentials.objectAt, length_layout]
        exact size
    case accessKeyIdLen => rfl
    case secretKeyLen => rfl
    case sessionTokenLen => rfl
    case accessKeyId =>
        simp [AwsCredentials.objectAt, SIZEOF_AWS_CREDENTIALS]
    case secretKey => simp [AwsCredentials.objectAt]
    case sessionToken =>
        cases token : credentials.sessionToken <;>
          simp [AwsCredentials.objectAt, AwsCredentials.strings, token]
    case expiration => rfl
  · constructor
    case accessKeyId => rfl
    case secretKey => rfl
    case sessionToken =>
        cases token : credentials.sessionToken <;>
          simp [AwsCredentials.objectAt, token]

/-- What the memory of an object says and where its pointers point determines
it. -/
theorem Common.CredentialsObject.Lays.eq_objectAt {object : CredentialsObject}
    {credentials : AwsCredentials}
    (lays : object.Lays credentials.strings credentials.expiration)
    (points : object.Points)
    (version : object.header.version = AWS_CREDENTIALS_CURRENT_VERSION) :
    object = credentials.objectAt object.address := by
  obtain ⟨address, ⟨_, size, id, idLen, key, keyLen, token, tokenLen, expires⟩,
    memory⟩ := object
  obtain ⟨layout, sized, -, sizedId, sizedKey, sizedToken, -, -, null,
    expiration⟩ := lays
  obtain ⟨idPoints, keyPoints, tokenPoints⟩ := points
  dsimp only at version layout sized sizedId sizedKey sizedToken null
  dsimp only at expiration idPoints keyPoints tokenPoints
  have last : token =
      if credentials.sessionToken.isSome then key + keyLen + 1 else 0 := by
    have whether : token = 0 ↔ credentials.sessionToken = none := null
    cases present : credentials.sessionToken with
    | none => simpa [present] using whether
    | some text =>
        rw [present] at whether
        exact tokenPoints (by simp [whether])
  subst version layout idPoints sizedId sizedKey expiration keyPoints last sized
  simp only [AwsCredentials.objectAt, sizedToken]
  rfl

theorem Common.CredentialsObject.Holds.unique {object : CredentialsObject}
    {strings other : CredentialStrings} {expiration : Nat}
    (holds : object.Holds strings expiration)
    (holdsOther : object.Holds other expiration) : strings = other := by
  obtain ⟨id, key, token⟩ := strings
  obtain ⟨otherId, otherKey, otherToken⟩ := other
  have sameId : id = otherId :=
    Option.some.inj (holds.accessKeyId.symm.trans holdsOther.accessKeyId)
  have sameKey : key = otherKey :=
    Option.some.inj (holds.secretKey.symm.trans holdsOther.secretKey)
  have null : token = none ↔ otherToken = none :=
    holds.sessionToken_null.symm.trans holdsOther.sessionToken_null
  have sameToken : token = otherToken := by
    cases token with
    | none => exact (null.mp rfl).symm
    | some text =>
        cases otherToken with
        | none => exact null.mpr rfl
        | some otherText =>
            have found := holds.sessionToken text rfl
            exact found.symm.trans (holdsOther.sessionToken otherText rfl)
  rw [sameId, sameKey, sameToken]

/-- `createAwsCredentials` makes this object of its arguments. -/
theorem createCredentialsObject_eq_objectAt
    {accessKeyId secretKey sessionToken : AuthArgument} {expiration : Nat}
    {address : Nat} {object : CredentialsObject}
    {id key : SizedString} {token : SessionToken}
    (creates : createCredentialsObject accessKeyId secretKey sessionToken
      expiration (some address) = .ok object)
    (passesId : accessKeyId.Passes id) (passesKey : secretKey.Passes key)
    (passesToken : sessionToken.PassesToken token) :
    ∃ credentials, createAwsCredentials true (some id) (some key) token
        expiration = .ok credentials ∧
      object = credentials.objectAt address := by
  obtain ⟨credentials, created, holds⟩ :=
    createCredentialsObject_refines creates passesId passesKey passesToken
  obtain ⟨strings, -, lays, points⟩ := createCredentialsObject_lays creates
  have same : strings = credentials.strings := (lays.holds points).unique holds
  obtain ⟨-, -, -, expires⟩ := createAwsCredentials_ok created
  rw [same, ← expires] at lays
  have fields : object.address = address ∧
      object.header.version = AWS_CREDENTIALS_CURRENT_VERSION := by
    simp only [createCredentialsObject, bind_eq_ok, check_eq_ok,
      checkSome_eq_ok, defined_eq_ok, Except.ok.injEq] at creates
    obtain ⟨_, -, _, -, _, -, _, -, _, -, _, -, _, -, _, -, _, place, _, -, _,
      -, _, -, _, -, _, -, rfl⟩ := creates
    exact ⟨(Option.some.inj place).symm, rfl⟩
  refine ⟨credentials, created, ?_⟩
  rw [← fields.1]
  exact lays.eq_objectAt points fields.2

/-- Any copies of the token hold the credentials, and the API calls accept each
copy and use the credentials. -/
structure UsableToken (token : SecurityToken) (credentials : AwsCredentials) :
    Prop where
  expiration : token.expiration = credentials.expiration
  size_lt : token.size < MAX_AUTH_LEN
  copies : ∀ addresses : List Nat, 0 ∉ addresses →
    ∃ copy, deserializeCopies token.buffer addresses = .ok copy ∧
      copy.header.size = token.size ∧
      copy.Holds credentials.strings token.expiration
  accepted : ∀ address ≠ 0,
    ServiceCallContext.validate
      { authInfo := token.buffer.copyTo address
        authInfoSize := token.size
        credentials := credentials } = .ok credentials

def AuthEnv.securityToken (env : AuthEnv) (held : HeldCredentials) :
    SecurityToken where
  buffer := env.token held
  size := (env.token held).header.size
  expiration := (env.token held).header.expiration

theorem AuthEnv.token_usable (env : AuthEnv) (held : HeldCredentials) :
    UsableToken (env.securityToken held) held.credentials := by
  obtain ⟨lays, points⟩ :=
    held.credentials.objectAt_lays (env.addressOf held.object)
  constructor
  case expiration => rfl
  case size_lt => exact lays.size_lt
  case copies =>
      intro addresses nonnull
      obtain ⟨copy, copies, -, holds⟩ := lays.deserializeCopies points nonnull
      exact ⟨copy, copies, holds.used.trans (lays.holds points).used.symm,
        holds⟩
  case accepted =>
      intro address nonnull
      have deserializes := (lays.copyTo address).deserialize nonnull
      simp only [ServiceCallContext.validate, AuthEnv.securityToken,
        AuthEnv.token, deserializes, ok_bind]
      simp [check, CredentialsObject.repointed, CredentialsObject.copyTo,
        AwsCredentials.objectAt]

/-! ### What the callbacks deliver -/

/-- The auth callbacks of the four kinds, with what the provider of the kind
finds when it is asked. -/
inductive AuthCallbacks where
  | static
  | credentialProvider (getCredentialsFn : GetCredentials)
  | file (call : FileCall)
  | iot (call : IotCall)

namespace AuthCallbacks

variable (env : AuthEnv) (time : TimeEnv) (durations : TokenDurations)
variable (callbacks : AuthCallbacks) (provider : CredentialProvider)

def getStreamingTokenFn : TokenRun :=
  match callbacks with
  | static => getStreamingTokenStaticFunc env provider
  | credentialProvider getCredentialsFn =>
      getStreamingTokenCredentialProviderFunc env getCredentialsFn provider
  | file call => getStreamingTokenFileFunc env time durations provider call
  | iot call => getStreamingTokenIotFunc env time durations provider call

def getSecurityTokenFn : Result SecurityToken × CredentialProvider :=
  match callbacks with
  | static => getSecurityTokenStaticFunc env provider
  | credentialProvider getCredentialsFn =>
      getSecurityTokenCredentialProviderFunc env getCredentialsFn provider
  | file call => getSecurityTokenFileFunc env time durations provider call
  | iot call => getSecurityTokenIotFunc env time durations provider call

/-- PIC hears of a failure from these kinds only. -/
def reports : AuthCallbacks → Bool
  | static | credentialProvider _ => false
  | file _ | iot _ => true

end AuthCallbacks

/-- The token that PIC gets with an event. -/
def AuthEvent.token? : AuthEvent → Option SecurityToken
  | .getStreamingTokenResultEvent _ _ (some buffer) size expiration =>
      some
        { buffer := buffer
          size := size
          expiration := expiration }
  | _ => none

/-- The answers that PIC gets for a handle: a token, or none. -/
def AuthEvent.answer? : AuthEvent → Option (Nat × Bool)
  | .getStreamingTokenResultEvent handle _ token _ _ =>
      some (handle, token.isSome)
  | .streamErrorReport .. => none

section Delivered

variable {env : AuthEnv} {getCredentialsFn : GetCredentials}
variable {provider : CredentialProvider}

theorem obtain_eq_ok {held : HeldCredentials} {after : CredentialProvider}
    (obtains : obtain getCredentialsFn provider = (.ok held, after)) :
    after.pAwsCredentials = some held := by
  simp only [obtain] at obtains
  split at obtains
  · cases obtains
  · split at obtains
    · cases obtains
    · rename_i holds
      cases obtains
      exact holds

theorem token?_notifyCallResult {status : Except ErrorCode Unit}
    {handle : Nat} {event : AuthEvent}
    (listed : event ∈ notifyCallResult status handle) :
    event.token? = none ∧ event.answer? = none := by
  cases status with
  | ok value => cases listed
  | error status =>
      simp only [notifyCallResult] at listed
      split at listed
      · cases listed
      · cases List.mem_singleton.mp listed
        exact ⟨rfl, rfl⟩

theorem token?_failToken {handle : Nat} {status : ErrorCode}
    {event : AuthEvent} (listed : event ∈ failToken handle status) :
    event.token? = none := by
  rcases List.mem_cons.mp listed with rfl | report
  · rfl
  · exact (token?_notifyCallResult report).1

/-- A token that PIC gets is the object of the provider, and usable. -/
def Delivers (after : CredentialProvider) (token : SecurityToken) : Prop :=
  ∃ held, after.pAwsCredentials = some held ∧
    UsableToken token held.credentials

theorem delivers_tokenEvent {after : CredentialProvider}
    {held : HeldCredentials} {handle : Nat} {token : SecurityToken}
    (holds : after.pAwsCredentials = some held)
    (isToken : (env.tokenEvent handle held).token? = some token) :
    Delivers after token := by
  have same : env.securityToken held = token := Option.some.inj isToken
  exact ⟨held, holds, same ▸ env.token_usable held⟩

theorem passToken_delivers {event : AuthEvent} {token : SecurityToken}
    (listed : event ∈ (passToken env getCredentialsFn provider).events)
    (isToken : event.token? = some token) :
    Delivers (passToken env getCredentialsFn provider).provider token := by
  unfold passToken at listed ⊢
  split
  case isTrue null => simp [null] at listed
  case isFalse nonnull =>
      rw [if_neg nonnull] at listed
      split at listed
      case h_1 => cases listed
      case h_2 held after obtains =>
          split at listed
          case h_1 => cases listed
          case h_2 handle context =>
              rcases List.mem_cons.mp listed with rfl | report
              · exact delivers_tokenEvent (obtain_eq_ok obtains) isToken
              · rw [(token?_notifyCallResult report).1] at isToken
                cases isToken

theorem passOrFailToken_delivers {event : AuthEvent} {token : SecurityToken}
    (listed : event ∈ (passOrFailToken env getCredentialsFn provider).events)
    (isToken : event.token? = some token) :
    Delivers (passOrFailToken env getCredentialsFn provider).provider
      token := by
  have silent {handle : Nat} {status : ErrorCode}
      (failing : event ∈ failToken handle status) : False := by
    rw [token?_failToken failing] at isToken
    cases isToken
  unfold passOrFailToken at listed ⊢
  split at listed
  case h_1 => cases listed
  case h_2 handle context =>
      split at listed
      case isTrue null => exact (silent listed).elim
      case isFalse nonnull =>
          rw [if_neg nonnull]
          split at listed
          case h_1 => cases listed
          case h_2 => exact (silent listed).elim
          case h_3 held after obtains =>
              have holds := obtain_eq_ok obtains
              split at listed
              case h_1 =>
                  cases List.mem_singleton.mp listed
                  exact delivers_tokenEvent holds isToken
              case h_2 status rejected =>
                  rcases List.mem_cons.mp listed with rfl | failing
                  · exact delivers_tokenEvent holds isToken
                  · exact (silent failing).elim

theorem readToken_delivers {token : SecurityToken} {after : CredentialProvider}
    (reads : readToken env getCredentialsFn provider = (.ok token, after)) :
    Delivers after token := by
  unfold readToken at reads
  split at reads
  case isTrue => cases reads
  case isFalse =>
      split at reads
      case h_1 => cases reads
      case h_2 held middle obtains =>
          cases reads
          exact ⟨held, obtain_eq_ok obtains, env.token_usable held⟩

/-! ### What PIC is answered -/

def answers (events : List AuthEvent) : List (Nat × Bool) :=
  events.filterMap AuthEvent.answer?

theorem answers_notifyCallResult (status : Except ErrorCode Unit)
    (handle : Nat) : answers (notifyCallResult status handle) = [] :=
  List.filterMap_eq_nil_iff.mpr fun _ listed =>
    (token?_notifyCallResult listed).2

theorem answers_failToken (handle : Nat) (status : ErrorCode) :
    answers (failToken handle status) = [(handle, false)] := by
  rw [failToken, answers,
    @List.filterMap_cons_some _ _ AuthEvent.answer? _ _ (handle, false) rfl]
  exact congrArg _ (answers_notifyCallResult _ _)

theorem answers_tokenEvent (handle : Nat) (held : HeldCredentials)
    (events : List AuthEvent) :
    answers (env.tokenEvent handle held :: events) =
      (handle, true) :: answers events :=
  rfl

/-- A failure is never answered. -/
theorem answers_passToken :
    answers (passToken env getCredentialsFn provider).events = [] ∨
      ∃ handle, env.pServiceCallContext = some handle ∧
        answers (passToken env getCredentialsFn provider).events =
          [(handle, true)] := by
  unfold passToken
  split
  case isTrue => exact .inl rfl
  case isFalse =>
      split
      case h_1 => exact .inl rfl
      case h_2 held after obtains =>
          split
          case h_1 => exact .inl rfl
          case h_2 handle context =>
              refine .inr ⟨handle, context, ?_⟩
              rw [answers_tokenEvent, answers_notifyCallResult]

/-- The last answer says whether the call has succeeded. -/
theorem answers_passOrFailToken {handle : Nat}
    (context : env.pServiceCallContext = some handle)
    (ends : (passOrFailToken env getCredentialsFn provider).retStatus ≠
      .error .undefined) :
    (answers
        (passOrFailToken env getCredentialsFn provider).events).getLast? =
      some (handle,
        (passOrFailToken env getCredentialsFn provider).retStatus.isOk) := by
  unfold passOrFailToken at ends ⊢
  simp only [context] at ends ⊢
  split
  case isTrue => rw [answers_failToken]; rfl
  case isFalse nonnull =>
      rw [if_neg nonnull] at ends
      split
      case h_1 undefinedOutcome =>
          rw [undefinedOutcome] at ends
          exact absurd rfl ends
      case h_2 => rw [answers_failToken]; rfl
      case h_3 held after obtains =>
          split
          case h_1 => rfl
          case h_2 => rw [answers_tokenEvent, answers_failToken]; rfl

/-- Whatever the provider finds when it is asked, each token that PIC gets is
the object that the provider then holds, any copies of it hold the credentials,
and the API calls accept each copy.  The callbacks of files and of IoT answer
PIC last with a token exactly if they succeed; the others never answer without a
token. -/
theorem authCallbacks_deliver (env : AuthEnv) (time : TimeEnv)
    (durations : TokenDurations) (callbacks : AuthCallbacks)
    (provider : CredentialProvider) :
    (∀ event ∈ (callbacks.getStreamingTokenFn env time durations
          provider).events, ∀ token, event.token? = some token →
        Delivers (callbacks.getStreamingTokenFn env time durations
          provider).provider token) ∧
      (∀ token after, callbacks.getSecurityTokenFn env time durations
          provider = (.ok token, after) → Delivers after token) ∧
      (callbacks.reports = true → ∀ handle,
        env.pServiceCallContext = some handle →
        (callbacks.getStreamingTokenFn env time durations
            provider).retStatus ≠ .error .undefined →
          (answers (callbacks.getStreamingTokenFn env time durations
              provider).events).getLast? =
            some (handle, (callbacks.getStreamingTokenFn env time durations
              provider).retStatus.isOk)) ∧
      (callbacks.reports = false →
        answers (callbacks.getStreamingTokenFn env time durations
            provider).events = [] ∨
          ∃ handle, env.pServiceCallContext = some handle ∧
            answers (callbacks.getStreamingTokenFn env time durations
              provider).events = [(handle, true)]) := by
  cases callbacks with
  | static =>
      exact ⟨fun _ listed _ isToken => passToken_delivers listed isToken,
        fun _ _ reads => readToken_delivers reads, nofun,
        fun _ => answers_passToken⟩
  | credentialProvider getCredentialsFn =>
      exact ⟨fun _ listed _ isToken => passToken_delivers listed isToken,
        fun _ _ reads => readToken_delivers reads, nofun,
        fun _ => answers_passToken⟩
  | file call =>
      exact ⟨fun _ listed _ isToken => passOrFailToken_delivers listed isToken,
        fun _ _ reads => readToken_delivers reads,
        fun _ _ context ends => answers_passOrFailToken context ends, nofun⟩
  | iot call =>
      exact ⟨fun _ listed _ isToken => passOrFailToken_delivers listed isToken,
        fun _ _ reads => readToken_delivers reads,
        fun _ _ context ends => answers_passOrFailToken context ends, nofun⟩

end Delivered

/-- PIC takes the token for stream 7. -/
def sampleAuthEnv : AuthEnv where
  customData := 1
  addressOf object := 4096 * (object + 1)
  pServiceCallContext := some 7
  accepts := .ok ()

/-- The file has an expiration and a session token. -/
def sampleFileCallbacks : AuthCallbacks :=
  .file
    { clock := sampleClock 0
      file := some (bytes
        "CREDENTIALS AKID 2019-01-31T23:00:59Z SECRET TOKEN")
      uninitialised := []
      allocated := true }

/-- The first streaming token that PIC asks for. -/
def sampleTokenRun : TokenRun :=
  sampleFileCallbacks.getStreamingTokenFn sampleAuthEnv sampleTimeEnv
    sampleDurations .initial

theorem authCallbacks_deliver_file :
    (∃ token, Delivers sampleTokenRun.provider token) ∧
      (answers sampleTokenRun.events).getLast? = some (7, true) := by
  have succeeds : sampleTokenRun.retStatus.isOk = true := by
    decide +kernel
  have passes : (sampleTokenRun.events.filterMap AuthEvent.token?).length =
      1 := by
    decide +kernel
  obtain ⟨delivers, -, reports, -⟩ := authCallbacks_deliver sampleAuthEnv
    sampleTimeEnv sampleDurations sampleFileCallbacks .initial
  constructor
  · obtain ⟨token, passed⟩ := List.length_eq_one_iff.mp passes
    have listed : token ∈ sampleTokenRun.events.filterMap AuthEvent.token? :=
      passed ▸ List.mem_singleton_self token
    obtain ⟨event, happens, isToken⟩ := List.mem_filterMap.mp listed
    exact ⟨token, delivers event happens token isToken⟩
  · have ends : sampleTokenRun.retStatus ≠ .error .undefined := by
      intro undefined
      rw [undefined] at succeeds
      cases succeeds
    have last := reports rfl 7 rfl ends
    rw [← succeeds]
    exact last

end KvsProducer
