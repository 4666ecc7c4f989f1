import KvsProducer.Common.ApiCalls

/-!
# The URL of a request

A URL is put together in a local array that is smaller than the URLs that are
admitted, and copied to a field of the request that is larger than the array.
-/

namespace KvsProducer

namespace Common

open Outcome

namespace ApiArguments

variable (client : CurlApiCallbacks)

/-- What the URL starts with. -/
def base : ApiArguments → CString
  | putStream _ _ _ _ streamingEndpoint => streamingEndpoint
  | _ => client.controlPlaneUrl

def apiPostfix : ApiArguments → CString
  | createStream _ => CREATE_API_POSTFIX
  | describeStream _ => DESCRIBE_API_POSTFIX
  | getStreamingEndpoint _ => GET_DATA_ENDPOINT_API_POSTFIX
  | tagResource _ => TAG_RESOURCE_API_POSTFIX
  | putStream .. => PUT_MEDIA_API_POSTFIX

theorem request_eq (env : ApiEnvironment) (credentials : AwsCredentials)
    (arguments : ApiArguments) :
    ∃ headers body, arguments.request env client credentials =
      (apiUrl env (arguments.base client) arguments.apiPostfix >>= fun url =>
        setHeaders env headers
          (createCurlRequest .post url body client.region env.currentTime
            credentials)) := by
  cases arguments <;> exact ⟨_, _, rfl⟩

end ApiArguments

namespace ApiCall

variable (env : ApiEnvironment) (limits : ApiLimits) (answers : ApiAnswers)
variable (client : CurlApiCallbacks) (context : ServiceCallContext)
variable (call : ApiCall)

def base : CString :=
  match call with
  | putStream _ _ _ _ streamingEndpoint => streamingEndpoint
  | _ => client.controlPlaneUrl

def apiPostfix : CString :=
  match call with
  | createStream .. => CREATE_API_POSTFIX
  | describeStream .. => DESCRIBE_API_POSTFIX
  | getStreamingEndpoint .. => GET_DATA_ENDPOINT_API_POSTFIX
  | tagResource .. => TAG_RESOURCE_API_POSTFIX
  | putStream .. => PUT_MEDIA_API_POSTFIX

def url : CString := (call.base client).append call.apiPostfix

/-- The parameters are printed and the credentials accepted. -/
def ReachesUrl : Prop :=
  (call.arguments env limits answers).isOk = true ∧
    context.validate.isOk = true

/-- The call stays within the local array, and fails or builds a request with
the URL of its API. -/
def BuildsUrl : Prop :=
  Ends (· ≠ .undefined) (fun info => info.url = (call.url client).val)
    (call.perform env limits answers client context)

end ApiCall

section Proofs

variable {env : ApiEnvironment} {limits : ApiLimits} {answers : ApiAnswers}
variable {client : CurlApiCallbacks} {context : ServiceCallContext}

theorem checkStatus_ends {α : Type} {called : Except ErrorCode α} :
    Ends (· ≠ .undefined) (fun value => called = .ok value)
      (checkStatus called) := by
  cases called <;> simp [checkStatus]

theorem printTags_ends {size : Nat} {printed : Bytes} {tags : List Tag} :
    Ends (· ≠ .undefined) (fun _ => True) (printTags size printed tags) := by
  induction tags generalizing printed with
  | nil => trivial
  | cons tag rest induction =>
      apply (check_ends (.inr (by simp))).bind
      intro _ _
      exact induction

theorem tagResourceParameters_ends {streamArn : CString}
    {tags : Option (List Tag)} :
    Ends (· ≠ .undefined) (fun _ => True)
      (tagResourceParameters env answers streamArn tags) := by
  cases tags with
  | none => simp [tagResourceParameters, checkSome, bind, Except.bind]
  | some tags =>
      apply (check_ends (.inr (by simp))).bind
      intro _ _
      apply (check_ends (.inr (by simp))).bind
      intro _ _
      apply (check_ends (.inr (by simp))).bind
      intro _ _
      apply printTags_ends.bind
      intro _ _
      trivial

theorem ApiCall.arguments_ends (call : ApiCall) :
    Ends (· ≠ .undefined)
      (fun arguments => arguments.base client = call.base client ∧
        arguments.apiPostfix = call.apiPostfix)
      (call.arguments env limits answers) := by
  cases call with
  | tagResource streamArn tags =>
      apply tagResourceParameters_ends.bind
      intro parameters _
      exact ⟨rfl, rfl⟩
  | _ => exact ⟨rfl, rfl⟩

theorem ServiceCallContext.validate_ends (context : ServiceCallContext) :
    Ends (· ≠ .undefined) (fun _ => True) context.validate := by
  have deserializes : Ends (· ≠ .undefined) (fun _ => True)
      (deserializeAwsCredentials context.authInfo) := by
    apply (check_ends (.inr (by simp))).bind
    intro _ _
    apply (check_ends (.inr (by simp))).bind
    intro _ _
    trivial
  apply deserializes.bind
  intro _ _
  apply (check_ends (.inr (by simp))).bind
  intro _ _
  apply (check_ends (.inr (by simp))).bind
  intro _ _
  trivial

theorem setHeaders_ends {headers : List (Bytes × Bytes)} {info : RequestInfo} :
    Ends (· ≠ .undefined) (fun after => after.url = info.url)
      (setHeaders env headers info) := by
  induction headers generalizing info with
  | nil => rfl
  | cons header rest induction =>
      have sets : Ends (· ≠ .undefined) (fun after => after.url = info.url)
          (setHeader (env.memory header.1) header.1 header.2 info) := by
        apply checkStatus_ends.bind
        intro _ _
        rfl
      apply sets.bind
      intro between same
      apply induction.mono
      intro after sameAfter
      exact sameAfter.trans same

/-- A request with a URL that fits into the local array has that URL. -/
theorem ApiArguments.request_ends {arguments : ApiArguments}
    {credentials : AwsCredentials}
    (small : env.maxPathLen < MAX_URI_CHAR_LEN)
    (fits : ((arguments.base client).append
      arguments.apiPostfix).val.length ≤ env.maxPathLen) :
    Ends (· ≠ .undefined)
      (fun info => info.url =
        ((arguments.base client).append arguments.apiPostfix).val)
      (arguments.request env client credentials) := by
  obtain ⟨headers, body, request⟩ :=
    arguments.request_eq client env credentials
  have builds : Ends (· ≠ .undefined)
      (fun url => url = (arguments.base client).append arguments.apiPostfix)
      (apiUrl env (arguments.base client) arguments.apiPostfix) := by
    apply (defined_ends (.inl fits)).bind
    intro _ _
    rfl
  rw [request]
  apply builds.bind
  intro url same
  subst same
  apply setHeaders_ends.mono
  intro info kept
  rw [kept]
  exact List.take_of_length_le (fits.trans small.le)

/-- A URL that does not fit is written past the local array. -/
theorem ApiArguments.request_undefined {arguments : ApiArguments}
    {credentials : AwsCredentials}
    (long : ¬ ((arguments.base client).append
      arguments.apiPostfix).val.length ≤ env.maxPathLen) :
    arguments.request env client credentials = .error .undefined := by
  obtain ⟨headers, body, request⟩ :=
    arguments.request_eq client env credentials
  rw [request, apiUrl, defined_unmet long]
  rfl

/-- A call builds the URL of its API, or fails, if and only if the base and the
postfix fit into the local array or the call does not get as far. -/
theorem buildsUrl_iff (env : ApiEnvironment) (limits : ApiLimits)
    (answers : ApiAnswers) (client : CurlApiCallbacks)
    (context : ServiceCallContext) (call : ApiCall)
    (small : env.maxPathLen < MAX_URI_CHAR_LEN) :
    call.BuildsUrl env limits answers client context ↔
      (call.ReachesUrl env limits answers context →
        (call.url client).val.length ≤ env.maxPathLen) := by
  unfold ApiCall.BuildsUrl ApiCall.ReachesUrl ApiCall.perform
  have printed := @ApiCall.arguments_ends env limits answers client call
  cases prints : call.arguments env limits answers with
  | error fault =>
      rw [prints] at printed
      refine iff_of_true printed ?_
      intro reaches
      cases reaches.1
  | ok arguments =>
      rw [prints] at printed
      obtain ⟨base, apiPostfix⟩ := printed
      have validated := context.validate_ends
      cases validates : context.validate with
      | error fault =>
          rw [validates] at validated
          refine iff_of_true validated ?_
          intro reaches
          cases reaches.2
      | ok credentials =>
          have url : call.url client =
              (arguments.base client).append arguments.apiPostfix := by
            rw [base, apiPostfix]
            rfl
          simp only [ok_bind]
          rw [url]
          by_cases fits : ((arguments.base client).append
              arguments.apiPostfix).val.length ≤ env.maxPathLen
          · refine iff_of_true ?_ (fun _ => fits)
            apply (ApiArguments.request_ends small fits).bind
            intro info builds
            apply checkStatus_ends.bind
            intro _ _
            apply checkStatus_ends.bind
            intro _ _
            exact builds
          · rw [ApiArguments.request_undefined fits]
            refine iff_of_false ?_ ?_
            · intro ends
              exact ends rfl
            · intro claimed
              exact fits (claimed ⟨rfl, rfl⟩)

end Proofs

def sampleCall : ApiCall := .describeStream sampleStreamName

theorem buildsUrl_sample :
    sampleCall.BuildsUrl sampleEnv sampleLimits sampleAnswers sampleClient
      sampleContext :=
  (buildsUrl_iff sampleEnv sampleLimits sampleAnswers sampleClient
    sampleContext sampleCall (by decide)).mpr fun _ => by decide

/-- A URL of as many characters as a path may have. -/
def longUrl : CString :=
  ⟨bytes "https://" ++ List.replicate 4088 (byte 'a'), by
    have noNul : NUL ≠ byte 'a' := by decide
    have scheme : NUL ∉ bytes "https://" := by decide
    rw [List.mem_append, not_or]
    exact ⟨scheme, fun listed => noNul (List.eq_of_mem_replicate listed)⟩⟩

theorem length_longUrl : longUrl.val.length = 4096 := by
  have scheme : (bytes "https://").length = 8 := rfl
  rw [longUrl, List.length_append, List.length_replicate, scheme]

/-- The URL of a control plane is admitted that leaves no room for the name of
the API in the local array. -/
theorem not_buildsUrl :
    ¬ ∀ (env : ApiEnvironment) (limits : ApiLimits) (answers : ApiAnswers)
        (settings : CallbacksSettings) (others : Except ErrorCode Unit)
        (client : CurlApiCallbacks) (context : ServiceCallContext)
        (call : ApiCall),
      env.maxPathLen < MAX_URI_CHAR_LEN →
      createCurlApiCallbacks settings others = .ok client →
      (∀ url ∈ settings.controlPlaneUrl, url.val.length ≤ MAX_URI_CHAR_LEN) →
      (call.base client).val.length ≤ MAX_URI_CHAR_LEN →
      call.BuildsUrl env limits answers client context := by
  intro claim
  let settings : CallbacksSettings :=
    { region := none
      controlPlaneUrl := some longUrl
      userAgent := sampleClient.userAgent }
  obtain ⟨client, creates⟩ : ∃ client,
      createCurlApiCallbacks settings (.ok ()) = .ok client := ⟨_, rfl⟩
  have limit : MAX_URI_CHAR_LEN = 10000 := rfl
  have length := length_longUrl
  have short : longUrl.val.length ≤ MAX_URI_CHAR_LEN := by omega
  have given : CallbacksSettings.given settings.controlPlaneUrl =
      some longUrl := by
    have nonempty : longUrl.val ≠ [] := by
      apply List.ne_nil_of_length_pos
      omega
    simp [settings, CallbacksSettings.given, Option.filter, nonempty]
  have stored := createCurlApiCallbacks_controlPlaneUrl creates given short
  have builds := claim sampleEnv sampleLimits sampleAnswers settings (.ok ())
    client sampleContext sampleCall (by decide) creates
    (by simpa [settings] using short)
    (by simpa [sampleCall, ApiCall.base, stored] using short)
  have long : ¬ ((ApiArguments.base client (.describeStream
      (describeStreamParams sampleStreamName.val))).append
        DESCRIBE_API_POSTFIX).val.length ≤ sampleEnv.maxPathLen := by
    have name : DESCRIBE_API_POSTFIX.val.length = 15 := rfl
    have path : sampleEnv.maxPathLen = 4096 := rfl
    simp only [ApiArguments.base, stored, CString.append, List.length_append]
    omega
  have undefined : sampleCall.perform sampleEnv sampleLimits sampleAnswers
      client sampleContext = .error .undefined := by
    simp only [ApiCall.perform, sampleCall, ApiCall.arguments, ok_bind,
      validate_sampleContext]
    rw [ApiArguments.request_undefined long]
    rfl
  rw [ApiCall.BuildsUrl, undefined] at builds
  exact builds rfl

end Common

end KvsProducer
