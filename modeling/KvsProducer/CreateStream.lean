import KvsProducer.ResponseDocument
import KvsProducer.Common.IotResponse

/-!
# The responses of createStream and getStreamingEndpoint

`createStreamCurlHandler` looks for one name in the response, as
`getStreamingEndpointCurlHandler` does, but its buffer is empty before it is
filled.  In a document that spells the name once, both of them find the string
that is the value of that member.
-/

namespace KvsProducer

/-! ### The handler -/

def streamArnName : Bytes := bytes "StreamARN"

section Handler

variable (js : Bytes) (beyond : JsmnTok) (maxArnLen : Nat)

/-- The body of the loop at the token that spells the name; `none` is a buffer
that is copied from behind the tokens. -/
def readStreamArn (next : Option JsmnTok) : Status × Option Bytes :=
  if (next.getD beyond).strLen ≤ maxArnLen then
    (.success, next.map fun value => value.copied js)
  else (.invalidApiCallReturnJson, some [])

/-- The loop over the tokens after the first one. -/
def scanStreamArn : List JsmnTok → Status × Option Bytes
  | [] => (.success, some [])
  | token :: rest =>
      if compareJsonString js token .string streamArnName then
        readStreamArn js beyond maxArnLen rest.head?
      else scanStreamArn rest

end Handler

/-- The handler between its last look at `terminating` before the cleanup and
the cleanup: the status and `streamArn`. -/
def extractStreamArn (maxArnLen : Nat) (beyond : JsmnTok)
    (callInfo : CallInfo) : Status × Option Bytes :=
  if callInfo.callResult = .notSet then (.invalidOperation, some [])
  else
    match jsmnParse MAX_JSON_TOKEN_COUNT callInfo.responseData with
    | .error _ => (.invalidApiCallReturnJson, some [])
    | .ok [] => (.invalidApiCallReturnJson, some [])
    | .ok (root :: tokens) =>
        if tokens = [] ∨ root.type ≠ .object then
          (.invalidApiCallReturnJson, some [])
        else scanStreamArn callInfo.responseData beyond maxArnLen tokens

/-- The handler up to its `CleanUp` label.  It reads `terminating` at
point 2. -/
def createStreamCall (env : HandlerEnv) (maxArnLen : Nat) :
    (Status × Option Bytes) × CallInfo :=
  if env.signStatus.failed then ((env.signStatus, some []), .initial)
  else
    let (status, callInfo) := curlCompleteSync env
    if status.failed then ((status, some []), callInfo)
    else if env.terminating 2 then ((.success, some []), callInfo)
    else (extractStreamArn maxArnLen env.beyond callInfo, callInfo)

/-- The whole handler: what it reports with `createStreamResultEvent`.  The
cleanup reads `terminating` at point 3. -/
def createStreamCurlHandler (env : HandlerEnv) (maxArnLen : Nat) :
    Option (ServiceCallResult × Option Bytes) :=
  let ((_, streamArn), callInfo) := createStreamCall env maxArnLen
  if env.terminating 3 then none
  else some (callInfo.callResult, streamArn)

/-! ### A document as the response -/

section Document

variable {js : Bytes} {beyond : JsmnTok} {maxArnLen : Nat}
variable {front rest : List JsmnTok}

theorem scanEndpoint_append
    (none : ∀ token ∈ front,
      compareJsonString js token .string dataEndpointName = false) :
    scanEndpoint js beyond (front ++ rest) = scanEndpoint js beyond rest := by
  induction front with
  | nil => rfl
  | cons token front induction =>
      have first := none token List.mem_cons_self
      rw [List.cons_append, scanEndpoint, first]
      exact induction fun other listed =>
        none other (List.mem_cons_of_mem _ listed)

theorem scanStreamArn_append
    (none : ∀ token ∈ front,
      compareJsonString js token .string streamArnName = false) :
    scanStreamArn js beyond maxArnLen (front ++ rest) =
      scanStreamArn js beyond maxArnLen rest := by
  induction front with
  | nil => rfl
  | cons token front induction =>
      have first := none token List.mem_cons_self
      rw [List.cons_append, scanStreamArn, first]
      exact induction fun other listed =>
        none other (List.mem_cons_of_mem _ listed)

theorem copied_of_within {token : JsmnTok} (within : token.Within js)
    (short : js.length < 2 ^ 32) :
    token.strLen = (token.text js).length ∧
      token.copied js = token.text js := by
  obtain ⟨length, -⟩ := Common.sized_token within short
  obtain ⟨nonneg, ordered, ends, plain⟩ := within
  have exact_ : token.strLen = (token.stop - token.start).toNat := by
    rw [JsmnTok.strLen]
    omega
  have noNul : ∀ c ∈ token.text js, (c != 0) = true := by
    intro c listed
    rw [bne_iff_ne]
    intro nul
    apply plain
    have split_ : token.stop.toNat =
        token.start.toNat + (token.stop - token.start).toNat := by
      omega
    rw [split_, List.take_add, List.mem_append]
    exact Or.inr (nul ▸ listed)
  refine ⟨length, ?_⟩
  rw [JsmnTok.copied, exact_]
  exact List.takeWhile_eq_self_iff.mpr noNul

/-- In a response that spells a name once, the tokens in front of the name do
not spell it, and the string that is its value is behind it. -/
theorem JsonTree.Response.single {tree value : JsonTree} {name text : Bytes}
    (response : tree.Response) (names : tree.Names name value)
    (isString : value.string? = some text) :
    ∃ root front key val back,
      tree.tokens 0 = root :: (front ++ key :: val :: back) ∧
        root.type = .object ∧
        (∀ token ∈ front,
          compareJsonString tree.text token .string name = false) ∧
        compareJsonString tree.text key .string name = true ∧
        val.strLen = text.length ∧ val.copied tree.text = text := by
  obtain ⟨front, key, place, back, only⟩ :=
    names.onlyMember (JsonTree.Response.here tree)
  obtain ⟨root, rest, before, tokens, isObject, early⟩ :=
    response.behind_root only
  obtain ⟨behind, atValue⟩ := only.has.value
  obtain ⟨val, more, valueTokens, valSpells, -⟩ := value.firstToken atValue
  have parts := only.has.parts
  rw [early, valueTokens, List.cons_append, List.cons_append] at parts
  have within (token : JsmnTok) (listed : token ∈ tree.tokens 0) :=
    response.within token listed
  have valText := text_of_spelling (valSpells.trans isString)
  obtain ⟨length, copied⟩ := copied_of_within (within val (by simp [parts]))
    response.lt_wrap
  refine ⟨root, before, key, val, more ++ back, parts, isObject, ?_, ?_,
    valText ▸ length, valText ▸ copied⟩
  · intro token listed
    rw [← Bool.not_eq_true, compareJsonString_iff (within token (by
      simp [parts, listed]))]
    exact only.before token (by simp [early, listed])
  · exact (compareJsonString_iff (within key (by simp [parts]))).mpr
      only.has.name

theorem extractEndpoint_document {tree value : JsonTree} {uri : Bytes}
    {callInfo : CallInfo} (response : tree.Response)
    (names : tree.Names dataEndpointName value)
    (isString : value.string? = some uri)
    (short : uri.length ≤ MAX_URI_CHAR_LEN)
    (called : callInfo.callResult ≠ .notSet)
    (body : callInfo.responseData = tree.text) :
    extractEndpoint beyond callInfo = (.success, some uri) := by
  obtain ⟨root, front, key, val, back, tokens, isObject, none, spells, length,
    copied⟩ := response.single names isString
  rw [extractEndpoint, if_neg called, body, response.parses, tokens]
  simp only [isObject]
  rw [if_neg (by simp), scanEndpoint_append none, scanEndpoint, spells, if_pos rfl,
    List.head?_cons, readEndpoint, Option.getD_some, length, if_pos short,
    Option.map_some, copied]

theorem extractStreamArn_document {tree value : JsonTree} {arn : Bytes}
    {callInfo : CallInfo} (response : tree.Response)
    (names : tree.Names streamArnName value)
    (isString : value.string? = some arn) (short : arn.length ≤ maxArnLen)
    (called : callInfo.callResult ≠ .notSet)
    (body : callInfo.responseData = tree.text) :
    extractStreamArn maxArnLen beyond callInfo = (.success, some arn) := by
  obtain ⟨root, front, key, val, back, tokens, isObject, none, spells, length,
    copied⟩ := response.single names isString
  rw [extractStreamArn, if_neg called, body, response.parses, tokens]
  simp only [isObject]
  rw [if_neg (by simp), scanStreamArn_append none, scanStreamArn, spells,
    if_pos rfl, List.head?_cons, readStreamArn, Option.getD_some, length,
    if_pos short, Option.map_some, copied]

/-- The call is answered, and never sees `terminating`. -/
theorem curlCompleteSync_of_reportsOk {env : HandlerEnv}
    (reported : ReportsOk env) :
    curlCompleteSync env =
        (.success, classifyTransfer env.terminated env.transfer) ∧
      env.terminating 2 = false ∧ env.terminating 3 = false ∧
      (classifyTransfer env.terminated env.transfer).callResult = .ok := by
  obtain ⟨signed, prepared, late, ok⟩ := reported
  have clear (point : Nat) (early : point ≤ 3) :
      env.terminating point = false := by
    simp only [HandlerEnv.terminating, decide_eq_false_iff_not]
    omega
  refine ⟨?_, clear 2 (by omega), clear 3 (Nat.le_refl _),
    classifyTransfer_eq_ok.mpr ok⟩
  simp [curlCompleteSync, prepared, clear, Status.failed]

end Document

/-- An object with one member that is a string. -/
def singleMember {name text : Bytes} (plainName : JsonValue.Plain name)
    (plainText : JsonValue.Plain text) : JsonTree :=
  .bracket .object (.member (.ofPlain plainName)
    (.string text (.of_plain plainText)) .nothing)

/-- The answer to a call with such an object. -/
def answeredWithMember {name text : Bytes} (plainName : JsonValue.Plain name)
    (plainText : JsonValue.Plain text) : HandlerEnv :=
  .answered
    { result := .ok
      responseCode := HTTP_STATUS_CODE_OK
      responseData := (singleMember plainName plainText).text }

theorem names_singleMember {name text : Bytes}
    (plainName : JsonValue.Plain name) (plainText : JsonValue.Plain text)
    (other : text ≠ name) : (singleMember plainName plainText).Names name
      (.string text (.of_plain plainText)) where
  member := List.mem_cons_self
  once := by
    have strings : (singleMember plainName plainText).strings =
        [name, text] := rfl
    simp [strings, other]

theorem response_singleMember {name text : Bytes}
    (plainName : JsonValue.Plain name) (plainText : JsonValue.Plain text)
    (short : (singleMember plainName plainText).text.length < 2 ^ 31) :
    (singleMember plainName plainText).Response where
  isObject := rfl
  few := by
    have three : ((singleMember plainName plainText).tokens 0).length = 3 := by
      simp [singleMember, JsonTree.tokens, JsonEntries.tokens,
        JsonEntries.nothing]
    rw [three]
    decide
  short := short

theorem reportsOk_singleMember {name text : Bytes}
    (plainName : JsonValue.Plain name) (plainText : JsonValue.Plain text) :
    ReportsOk (answeredWithMember plainName plainText) :=
  ⟨rfl, rfl, Nat.lt_succ_self 3, rfl, rfl⟩

def sampleArn : Bytes := bytes "arn:aws:kinesisvideo"
def sampleUri : Bytes := bytes "https://s-1.kinesisvideo.amazonaws.com"

/-- The names and the values of the samples. -/
structure SampleMembers : Prop where
  arn : JsonValue.Plain sampleArn
  uri : JsonValue.Plain sampleUri
  streamArn : JsonValue.Plain streamArnName
  dataEndpoint : JsonValue.Plain dataEndpointName

theorem sampleMembers : SampleMembers := by
  constructor <;> decide +kernel

end KvsProducer
