import KvsProducer.ServiceCall
import Mathlib.Algebra.Group.Int.Defs
import Mathlib.Tactic.Simps.Basic

/-!
# The response of getStreamingEndpoint

`getStreamingEndpointCurlHandler` as a function of what its environment
answers, from the signing of the request to the notification of PIC.  The
local buffer `streamingEndpoint` is never initialised by the code: `none` is
the buffer with indeterminate contents, `some` a buffer filled from a token of
the response.
-/

namespace KvsProducer

/-- PIC's limit on the length of a URI. -/
def MAX_URI_CHAR_LEN : Nat := 10000
def MAX_JSON_TOKEN_COUNT : Nat := 100

def dataEndpointName : Bytes := bytes "DataEndpoint"

/-- `(UINT32) (token.end - token.start)` -/
def JsmnTok.strLen (token : JsmnTok) : Nat :=
  ((token.stop - token.start) % 2 ^ 32).toNat

/-- What `STRNCPY` copies of the token, up to a NUL byte. -/
def JsmnTok.copied (js : Bytes) (token : JsmnTok) : Bytes :=
  ((js.drop token.start.toNat).take token.strLen).takeWhile (· != 0)

theorem JsmnTok.length_copied_le (js : Bytes) (token : JsmnTok) :
    (token.copied js).length ≤ token.strLen := by
  calc
    (token.copied js).length
        ≤ ((js.drop token.start.toNat).take token.strLen).length :=
          (List.takeWhile_prefix _).length_le
    _ ≤ token.strLen := List.length_take_le _ _

/-- The body of the loop at the token that spells the name, `next` being the
token after it.  When the name is the last token of the document the code
reads `tokens[i + 1]` past the filled ones: `beyond` is what it finds there,
and what it copies is indeterminate. -/
def readEndpoint (js : Bytes) (beyond : JsmnTok) (next : Option JsmnTok) :
    Status × Option Bytes :=
  if (next.getD beyond).strLen ≤ MAX_URI_CHAR_LEN then
    (.success, next.map fun value => value.copied js)
  else (.invalidApiCallReturnJson, none)

/-- The loop over the tokens after the first one. -/
def scanEndpoint (js : Bytes) (beyond : JsmnTok) :
    List JsmnTok → Status × Option Bytes
  | [] => (.getStreamingEndpointCallFailed, none)
  | token :: rest =>
      if compareJsonString js token .string dataEndpointName then
        readEndpoint js beyond rest.head?
      else scanEndpoint js beyond rest

/-- The handler between its last look at `terminating` before the cleanup and
the cleanup: the status and the local endpoint buffer. -/
def extractEndpoint (beyond : JsmnTok) (callInfo : CallInfo) :
    Status × Option Bytes :=
  if callInfo.callResult = .notSet then (.invalidOperation, none)
  else
    match jsmnParse MAX_JSON_TOKEN_COUNT callInfo.responseData with
    | .error _ => (.invalidApiCallReturnJson, none)
    | .ok [] => (.invalidApiCallReturnJson, none)
    | .ok (root :: tokens) =>
        if tokens = [] ∨ root.type ≠ .object then
          (.invalidApiCallReturnJson, none)
        else scanEndpoint callInfo.responseData beyond tokens

/-- What the environment of one run of the handler answers.  The flag
`terminating` is only ever set, so its reads are given by the first of the
handler's four points at which it is seen set. -/
structure HandlerEnv where
  signStatus : Status
  /-- of `createCurlHeaderList` and the perform hook -/
  prepareStatus : Status
  terminatingFrom : Nat
  terminated : Bool
  transfer : Transfer
  beyond : JsmnTok

def HandlerEnv.terminating (env : HandlerEnv) (point : Nat) : Bool :=
  decide (env.terminatingFrom ≤ point)

/-- `curlCompleteSync`, with the `CallInfo` it leaves.  It reads
`terminating` at points 0 and 1. -/
def curlCompleteSync (env : HandlerEnv) : Status × CallInfo :=
  if env.prepareStatus.failed then (env.prepareStatus, .initial)
  else if env.terminating 0 then (.success, .initial)
  else if env.terminating 1 then (.success, .received env.transfer)
  else (.success, classifyTransfer env.terminated env.transfer)

/-- The handler up to its `CleanUp` label: the status, the endpoint buffer and
the state of the response.  It reads `terminating` at point 2. -/
def completeCall (env : HandlerEnv) : Status × Option Bytes × CallInfo :=
  if env.signStatus.failed then (env.signStatus, none, .initial)
  else
    let (status, callInfo) := curlCompleteSync env
    if status.failed then (status, none, callInfo)
    else if env.terminating 2 then (.success, none, callInfo)
    else
      let (status, endpoint) := extractEndpoint env.beyond callInfo
      (status, endpoint, callInfo)

/-- The two effects of the handler: what it stores in the endpoint cache and
what it reports with `getStreamingEndpointResultEvent`. -/
structure HandlerEffects where
  stored : Option (Option Bytes)
  notified : Option (ServiceCallResult × Option Bytes)
  deriving DecidableEq

/-- The whole handler; the cleanup reads `terminating` at point 3. -/
def getStreamingEndpointCurlHandler (env : HandlerEnv) : HandlerEffects :=
  let (status, endpoint, callInfo) := completeCall env
  { stored := if status.failed then none else some endpoint
    notified :=
      if env.terminating 3 then none
      else some (callInfo.callResult, endpoint) }

/-! ### The environment of a run -/

/-- The answer to a call that was never terminated. -/
def HandlerEnv.answered (transfer : Transfer) : HandlerEnv :=
  { signStatus := .success
    prepareStatus := .success
    terminatingFrom := 4
    terminated := false
    transfer := transfer
    beyond := { type := .undefined, start := 0, stop := 0, size := 0 } }

/-- A call that has no answer, and was never terminated. -/
def HandlerEnv.unanswered : HandlerEnv :=
  .answered
    { result := .ok
      responseCode := HTTP_STATUS_CODE_NOT_SET
      responseData := [] }

/-- What `curl_easy_perform` leaves, if the function gets to call it. -/
def HandlerEnv.performed (env : HandlerEnv) : Option Transfer :=
  if env.signStatus.failed ∨ env.prepareStatus.failed ∨ env.terminating 0 then
    none
  else some env.transfer

/-- The environment in which `terminating` is seen set at the point at the
latest. -/
@[simps] def HandlerEnv.seenAt (env : HandlerEnv) (point : Nat) : HandlerEnv :=
  { env with terminatingFrom := min env.terminatingFrom point }

section Environment

variable {env : HandlerEnv} {point earlier : Nat} {callInfo : CallInfo}

theorem HandlerEnv.terminating_seenAt :
    (env.seenAt point).terminating point = true :=
  decide_eq_true (Nat.min_le_right _ _)

theorem HandlerEnv.terminating_seenAt_of_lt (before : earlier < point) :
    (env.seenAt point).terminating earlier = env.terminating earlier := by
  simp only [terminating, seenAt_terminatingFrom, decide_eq_decide]
  omega

theorem HandlerEnv.performed_seenAt (late : 0 < point) :
    (env.seenAt point).performed = env.performed := by
  simp [performed, terminating_seenAt_of_lt late]

theorem curlCompleteSync_seenAt (late : 1 < point) :
    curlCompleteSync (env.seenAt point) = curlCompleteSync env := by
  have first : 0 < point := by omega
  simp [curlCompleteSync, HandlerEnv.terminating_seenAt_of_lt late,
    HandlerEnv.terminating_seenAt_of_lt first]

theorem completeCall_seenAt (late : 2 < point) :
    completeCall (env.seenAt point) = completeCall env := by
  have sync : 1 < point := by omega
  simp [completeCall, curlCompleteSync_seenAt sync,
    HandlerEnv.terminating_seenAt_of_lt late]

theorem completeCall_of_terminating
    (signed : env.signStatus = .success)
    (synced : curlCompleteSync env = (.success, callInfo))
    (terminating : env.terminating 2 = true) :
    completeCall env = (.success, none, callInfo) := by
  simp [completeCall, Status.failed, signed, synced, terminating]

theorem completeCall_of_clear
    (signed : env.signStatus = .success)
    (synced : curlCompleteSync env = (.success, callInfo))
    (clear : env.terminating 2 = false) :
    completeCall env =
      ((extractEndpoint env.beyond callInfo).1,
        (extractEndpoint env.beyond callInfo).2, callInfo) := by
  simp [completeCall, Status.failed, signed, synced, clear]

end Environment

/-! ### What the response says -/

/-- The values of the members of that name, at any depth: a member's name is a
string token with a child, and its value is the token after it. -/
def memberValues (js : Bytes) (name : Bytes) (tokens : List JsmnTok) :
    List Bytes :=
  (tokens.zip tokens.tail).filterMap fun (token, value) =>
    if compareJsonString js token .string name && 0 < token.size then
      some (value.text js)
    else none

/-- The tokens of a body that is a JSON object, as the tokenizer decides it. -/
def objectTokens (js : Bytes) : List JsmnTok :=
  match jsmnParse MAX_JSON_TOKEN_COUNT js with
  | .error _ => []
  | .ok [] => []
  | .ok (root :: tokens) =>
      if root.type = .object then root :: tokens else []

/-- The endpoint strings that the body gives. -/
def dataEndpointValues (js : Bytes) : List Bytes :=
  memberValues js dataEndpointName (objectTokens js)

/-- The token after the first string token that spells the name. -/
def firstAfterName (js : Bytes) : List JsmnTok → Option JsmnTok
  | [] => none
  | token :: rest =>
      if compareJsonString js token .string dataEndpointName then rest.head?
      else firstAfterName js rest

/-- The body is an object in which the first string token spelling
`DataEndpoint` is followed by a token of admitted length whose text is a value
of a member of that name. -/
def CarriesEndpoint (js : Bytes) : Prop :=
  ∃ value, firstAfterName js (objectTokens js).tail = some value ∧
    value.strLen ≤ MAX_URI_CHAR_LEN ∧
    value.copied js ∈ dataEndpointValues js

/-- The call was made, never saw `terminating` and completed with status
200. -/
def ReportsOk (env : HandlerEnv) : Prop :=
  env.signStatus = .success ∧ env.prepareStatus = .success ∧
    3 < env.terminatingFrom ∧ env.transfer.result = .ok ∧
    env.transfer.responseCode = HTTP_STATUS_CODE_OK

/-- PIC is told of a success only together with an endpoint that the response
body gives, within the length limit. -/
def ReportsExtractedEndpoint (env : HandlerEnv) : Prop :=
  ∀ result endpoint,
    (getStreamingEndpointCurlHandler env).notified = some (result, endpoint) →
    result = .ok →
    ∃ text, endpoint = some text ∧
      text ∈ dataEndpointValues env.transfer.responseData ∧
      text.length ≤ MAX_URI_CHAR_LEN

/-! ### When a success is reported with the extracted endpoint -/

theorem scanEndpoint_endpoint_iff
    {js : Bytes} {beyond : JsmnTok} {tokens : List JsmnTok} {text : Bytes} :
    (scanEndpoint js beyond tokens).2 = some text ↔
      ∃ value, firstAfterName js tokens = some value ∧
        value.strLen ≤ MAX_URI_CHAR_LEN ∧ value.copied js = text := by
  induction tokens with
  | nil => simp [scanEndpoint, firstAfterName]
  | cons token rest induction =>
      by_cases spelled :
          compareJsonString js token .string dataEndpointName = true
      · simp only [scanEndpoint, firstAfterName, if_pos spelled, readEndpoint]
        cases rest.head? with
        | none => split <;> simp
        | some value =>
            by_cases admitted : value.strLen ≤ MAX_URI_CHAR_LEN <;>
              simp [admitted]
      · simp only [scanEndpoint, firstAfterName, if_neg spelled, induction]

/-- After a call with a result, the handler holds an endpoint exactly when the
token after the first one that spells the name has an admitted length. -/
theorem extractEndpoint_endpoint_iff
    {beyond : JsmnTok} {callInfo : CallInfo} {text : Bytes}
    (called : callInfo.callResult ≠ .notSet) :
    (extractEndpoint beyond callInfo).2 = some text ↔
      ∃ value,
        firstAfterName callInfo.responseData
          (objectTokens callInfo.responseData).tail = some value ∧
        value.strLen ≤ MAX_URI_CHAR_LEN ∧
        value.copied callInfo.responseData = text := by
  simp only [extractEndpoint, if_neg called, objectTokens]
  cases jsmnParse MAX_JSON_TOKEN_COUNT callInfo.responseData with
  | error _ => simp [firstAfterName]
  | ok parsed =>
      cases parsed with
      | nil => simp [firstAfterName]
      | cons root tokens =>
          by_cases object : root.type = .object
          · by_cases alone : tokens = []
            · simp [alone, object, firstAfterName]
            · simp [alone, object, scanEndpoint_endpoint_iff]
          · simp [object, firstAfterName]

/-- The body is an object in which some string token spells the name. -/
def NamesEndpoint (js : Bytes) : Prop :=
  ∃ token ∈ (objectTokens js).tail,
    compareJsonString js token .string dataEndpointName = true

/-- If the body spells the name at all, the call completed, and the first
token that spells it gives a value of a member of that name. -/
def Transfer.Trustworthy (transfer : Transfer) : Prop :=
  NamesEndpoint transfer.responseData →
    transfer.result = .ok ∧
      ∃ value ∈ firstAfterName transfer.responseData
          (objectTokens transfer.responseData).tail,
        value.strLen ≤ MAX_URI_CHAR_LEN →
          value.copied transfer.responseData ∈
            dataEndpointValues transfer.responseData

instance (js : Bytes) : Decidable (NamesEndpoint js) :=
  inferInstanceAs (Decidable (∃ _ ∈ _, _))

instance (transfer : Transfer) : Decidable transfer.Trustworthy :=
  inferInstanceAs (Decidable (_ → _ ∧ ∃ _ ∈ _, _))

theorem scanEndpoint_success
    {js : Bytes} {beyond : JsmnTok} {tokens : List JsmnTok}
    (success : (scanEndpoint js beyond tokens).1 = .success) :
    (∃ token ∈ tokens,
        compareJsonString js token .string dataEndpointName = true) ∧
      ∀ value, firstAfterName js tokens = some value →
        value.strLen ≤ MAX_URI_CHAR_LEN := by
  induction tokens with
  | nil => simp [scanEndpoint] at success
  | cons token rest induction =>
      by_cases spelled :
          compareJsonString js token .string dataEndpointName = true
      · refine ⟨⟨token, List.mem_cons_self, spelled⟩, ?_⟩
        intro value next
        simp only [firstAfterName, if_pos spelled] at next
        simp only [scanEndpoint, if_pos spelled, readEndpoint, next] at success
        split at success
        · assumption
        · simp at success
      · simp only [scanEndpoint, if_neg spelled] at success
        obtain ⟨⟨found, member, foundSpelled⟩, admitted⟩ := induction success
        refine ⟨⟨found, List.mem_cons_of_mem _ member, foundSpelled⟩, ?_⟩
        simpa only [firstAfterName, if_neg spelled] using admitted

/-- A handler that succeeds with a trustworthy answer holds an endpoint that a
completed call has given. -/
theorem Transfer.Trustworthy.extracts
    {transfer : Transfer} {beyond : JsmnTok} {callInfo : CallInfo}
    (trustworthy : transfer.Trustworthy)
    (sameData : callInfo.responseData = transfer.responseData)
    (success : (extractEndpoint beyond callInfo).1 = .success) :
    transfer.result = .ok ∧
      ∃ text ∈ dataEndpointValues transfer.responseData,
        (extractEndpoint beyond callInfo).2 = some text := by
  have called : callInfo.callResult ≠ .notSet := by
    intro notSet
    simp [extractEndpoint, notSet] at success
  have scanned :
      NamesEndpoint callInfo.responseData ∧
        ∀ value, firstAfterName callInfo.responseData
            (objectTokens callInfo.responseData).tail = some value →
          value.strLen ≤ MAX_URI_CHAR_LEN := by
    simp only [extractEndpoint, if_neg called] at success
    simp only [NamesEndpoint, objectTokens]
    cases parsed : jsmnParse MAX_JSON_TOKEN_COUNT callInfo.responseData with
    | error _ => simp [parsed] at success
    | ok tokens =>
        cases tokens with
        | nil => simp [parsed] at success
        | cons root tokens =>
            simp only [parsed] at success
            split at success
            · simp at success
            · rename_i object
              rw [not_or, not_not] at object
              simpa [object.2] using scanEndpoint_success success
  rw [sameData] at scanned
  obtain ⟨completed, value, first, member⟩ := trustworthy scanned.1
  have admitted := scanned.2 value first
  refine ⟨completed, _, member admitted, ?_⟩
  rw [extractEndpoint_endpoint_iff called, sameData]
  exact ⟨value, first, admitted, rfl⟩

/-- PIC is told of a success exactly when the call was made, never saw
`terminating` and completed with status 200, whatever the body. -/
theorem notified_ok_iff {env : HandlerEnv} {endpoint : Option Bytes} :
    (getStreamingEndpointCurlHandler env).notified = some (.ok, endpoint) ↔
      ReportsOk env ∧
        endpoint = (extractEndpoint env.beyond
          (classifyTransfer env.terminated env.transfer)).2 := by
  have unseen (point : Nat) :
      env.terminating point = false ↔ point < env.terminatingFrom := by
    simp [HandlerEnv.terminating]
  simp only [getStreamingEndpointCurlHandler, ReportsOk]
  by_cases late : env.terminating 3 = true
  · have seen : ¬ 3 < env.terminatingFrom := by
      rw [← unseen 3]
      simp [late]
    simp [late, seen]
  · rw [Bool.not_eq_true] at late
    have never : 3 < env.terminatingFrom := (unseen 3).mp late
    have clear (point : Nat) (early : point ≤ 3) :
        env.terminating point = false :=
      (unseen point).mpr (Nat.lt_of_le_of_lt early never)
    by_cases signed : env.signStatus = .success
    · by_cases prepared : env.prepareStatus = .success
      · simp [completeCall, curlCompleteSync, signed, prepared, never, late,
          clear, Status.failed, classifyTransfer_eq_ok, and_assoc,
          @eq_comm _ endpoint]
      · simp [completeCall, curlCompleteSync, signed, prepared, late,
          Status.failed, CallInfo.initial]
    · simp [completeCall, signed, late, Status.failed, CallInfo.initial]

/-- After a call with a result, the handler holds an endpoint that the
response body gives, within the length limit, exactly when the body carries
one. -/
theorem extractEndpoint_carries_iff
    {beyond : JsmnTok} {callInfo : CallInfo}
    (called : callInfo.callResult ≠ .notSet) :
    (∃ text, (extractEndpoint beyond callInfo).2 = some text ∧
        text ∈ dataEndpointValues callInfo.responseData ∧
        text.length ≤ MAX_URI_CHAR_LEN) ↔
      CarriesEndpoint callInfo.responseData := by
  constructor
  · rintro ⟨text, held, member, -⟩
    obtain ⟨value, first, admitted, copied⟩ :=
      (extractEndpoint_endpoint_iff called).mp held
    exact ⟨value, first, admitted, copied ▸ member⟩
  · rintro ⟨value, first, admitted, member⟩
    refine ⟨value.copied callInfo.responseData, ?_, member,
      Nat.le_trans (value.length_copied_le _) admitted⟩
    rw [extractEndpoint_endpoint_iff called]
    exact ⟨value, first, admitted, rfl⟩

/-- A success is reported with the endpoint of the response exactly when the
body of a call that completed with status 200 carries one. -/
theorem reportsExtractedEndpoint_iff (env : HandlerEnv) :
    ReportsExtractedEndpoint env ↔
      (ReportsOk env → CarriesEndpoint env.transfer.responseData) := by
  have carries :=
    @extractEndpoint_carries_iff env.beyond _
      (classifyTransfer_ne_notSet env.terminated env.transfer)
  rw [classifyTransfer_responseData] at carries
  constructor
  · intro extracted reported
    exact carries.mp (extracted _ _ (notified_ok_iff.mpr ⟨reported, rfl⟩) rfl)
  · intro carried result endpoint notified success
    subst success
    obtain ⟨reported, rfl⟩ := notified_ok_iff.mp notified
    exact carries.mpr (carried reported)

/-- Status 200 with a body that is no JSON: PIC is told of a success, with the
contents of an uninitialised buffer. -/
theorem success_reported_without_endpoint :
    ¬ ReportsExtractedEndpoint
      (.answered
        { result := .ok
          responseCode := HTTP_STATUS_CODE_OK
          responseData := bytes "OK" }) := by
  intro extracted
  obtain ⟨text, held, -⟩ :=
    extracted _ _ (notified_ok_iff.mpr
      ⟨⟨rfl, rfl, by decide, rfl, rfl⟩, rfl⟩) rfl
  obtain ⟨value, first, -⟩ :=
    (extractEndpoint_endpoint_iff (classifyTransfer_ne_notSet _ _)).mp held
  have noEndpoint :
      firstAfterName (bytes "OK") (objectTokens (bytes "OK")).tail = none := by
    decide
  cases noEndpoint.symm.trans first

end KvsProducer
