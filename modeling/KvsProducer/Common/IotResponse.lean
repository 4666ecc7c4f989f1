import KvsProducer.Common.Auth
import KvsProducer.JsmnTokens
import KvsProducer.StreamingEndpoint

/-!
# The response of the IoT credential provider

`parseIotResponse` walks over the tokens of the response.  A string that spells
one of four names is taken for a key, and the token after it for its value.
A pointer into the response is the token that it was taken from.
-/

namespace KvsProducer

namespace Common

def MAX_EXPIRATION_LEN : Nat := 128

/-- The fields that the response is searched for. -/
inductive IotField where
  | accessKeyId | secretKey | sessionToken | expiration
  deriving DecidableEq, Repr

namespace IotField

def name : IotField → Bytes
  | .accessKeyId => bytes "accessKeyId"
  | .secretKey => bytes "secretAccessKey"
  | .sessionToken => bytes "sessionToken"
  | .expiration => bytes "expiration"

def maxLen : IotField → Nat
  | .accessKeyId => MAX_ACCESS_KEY_LEN
  | .secretKey => MAX_SECRET_KEY_LEN
  | .sessionToken => MAX_SESSION_TOKEN_LEN
  | .expiration => MAX_EXPIRATION_LEN

/-- The fields in the order in which a token is compared with their names. -/
def all : List IotField := [.accessKeyId, .secretKey, .sessionToken, .expiration]

/-- The field whose name a token spells. -/
def spelled (js : Bytes) (token : JsmnTok) : Option IotField :=
  all.find? fun field => compareJsonString js token .string field.name

end IotField

/-- A token that spells a name, and the token after it, if it is not the last
one. -/
structure NamedToken where
  key : JsmnTok
  value : Option JsmnTok
  deriving DecidableEq, Repr

/-- What the function finds outside of the response: behind the tokens that
have been filled, in `expirationTimestampStr` before it is written, in the clock
and in PIC's limit, and what `convertTimestampToEpoch` returns. -/
structure IotEnvironment where
  beyond : SizedString
  uninitialised : Bytes
  currentTime : Nat
  maxEnforcedDuration : Nat
  convertTimestampToEpoch : (timestamp : Bytes) → (nowTime : Nat) → Result Nat
  allocated : Bool

/-- The length of the value. -/
def NamedToken.length (env : IotEnvironment) (named : NamedToken) : Nat :=
  match named.value with
  | none => env.beyond.length
  | some value => value.strLen

/-- The pointer to the value, with its length. -/
def NamedToken.string (env : IotEnvironment) (js : Bytes)
    (named : NamedToken) : SizedString :=
  match named.value with
  | none => env.beyond
  | some value => .sized (js.drop value.start.toNat) value.strLen

/-- The local variables, where `NULL` is `none`. -/
abbrev IotFields := IotField → Option NamedToken

/-- The loop over the tokens. -/
def scanIotResponse (env : IotEnvironment) (js : Bytes) :
    IotFields → List JsmnTok → Result IotFields
  | fields, [] => .ok fields
  | fields, [token] =>
      match IotField.spelled js token with
      | none => .ok fields
      | some field => do
          let named : NamedToken := { key := token, value := none }
          check (named.length env ≤ field.maxLen) .invalidApiCallReturnJson
          .ok (Function.update fields field (some named))
  | fields, token :: next :: rest =>
      match IotField.spelled js token with
      | none => scanIotResponse env js fields (next :: rest)
      | some field => do
          let named : NamedToken := { key := token, value := some next }
          check (named.length env ≤ field.maxLen) .invalidApiCallReturnJson
          scanIotResponse env js
            (Function.update fields field (some named)) rest

/-- What `parseIotResponse` has found when it succeeds: the local variables, the
string that it has converted to the expiration, and the credentials that it
leaves in the provider. -/
structure IotCredentials where
  fields : IotFields
  expirationTimestamp : Bytes
  credentials : AwsCredentials

/-- `expirationTimestampStr` -/
def expirationTimestampStr (env : IotEnvironment) (js : Bytes)
    (fields : IotFields) : Bytes :=
  match fields .expiration with
  | none => env.uninitialised
  | some named =>
      (named.string env js).text.take (named.string env js).length

def parseIotResponse (env : IotEnvironment) (js : Bytes) :
    Result IotCredentials := do
  check (0 < js.length) .iotInvalidResponseLength
  let tokens := (jsmnParse MAX_JSON_TOKEN_COUNT js).toOption.getD []
  check (1 < tokens.length) .invalidApiCallReturnJson
  check ((tokens.head?.map (·.type)) = some .object) .invalidApiCallReturnJson
  let fields ← scanIotResponse env js (fun _ => none) tokens.tail
  let accessKeyId ← checkSome .iotNullAwsCreds (fields .accessKeyId)
  let secretKey ← checkSome .iotNullAwsCreds (fields .secretKey)
  let sessionToken ← checkSome .iotNullAwsCreds (fields .sessionToken)
  let timestamp := expirationTimestampStr env js fields
  let expiration ← env.convertTimestampToEpoch timestamp
    (env.currentTime / HUNDREDS_OF_NANOS_IN_A_SECOND)
  let expiration := min expiration
    ((env.currentTime + env.maxEnforcedDuration) % 2 ^ 64)
  let credentials ← createAwsCredentials env.allocated
    (some (accessKeyId.string env js)) (some (secretKey.string env js))
    (.token (sessionToken.string env js)) expiration
  .ok
    { fields := fields
      expirationTimestamp := timestamp
      credentials := credentials }

/-! ### The members of the response -/

/-- The tokens that spell a name, in the order of the response, where the token
after one that does is a value. -/
def namedTokens (js : Bytes) : List JsmnTok → List (IotField × NamedToken)
  | [] => []
  | [token] =>
      match IotField.spelled js token with
      | none => []
      | some field => [(field, { key := token, value := none })]
  | token :: next :: rest =>
      match IotField.spelled js token with
      | none => namedTokens js (next :: rest)
      | some field =>
          (field, { key := token, value := some next }) :: namedTokens js rest

/-- The last one of those that spell the name of a field. -/
def lastNamed (js : Bytes) (field : IotField) : Option NamedToken :=
  (((namedTokens js (objectTokens js).tail).filter
    (·.1 = field)).map (·.2)).getLast?

/-- The last member of that name, at any depth. -/
def lastMember (js : Bytes) (field : IotField) : Option (JsmnTok × JsmnTok) :=
  (((objectTokens js).zip (objectTokens js).tail).filter fun (key, _) =>
    compareJsonString js key .string field.name && 0 < key.size).getLast?

/-- For each field, what has been found is the value of the last member of that
name, a string that is not empty, and that is what is stored. -/
structure StoresMembers (env : IotEnvironment) (js : Bytes)
    (accepted : IotCredentials) (member : IotField → JsmnTok × JsmnTok) :
    Prop where
  last : ∀ field, lastMember js field = some (member field)
  string : ∀ field, (member field).2.type = .string
  nonempty : ∀ field, (member field).2.text js ≠ []
  found : ∀ field, accepted.fields field =
    some
      { key := (member field).1
        value := some (member field).2 }
  accessKeyId : accepted.credentials.accessKeyId =
    (member .accessKeyId).2.text js
  secretKey : accepted.credentials.secretKey = (member .secretKey).2.text js
  sessionToken : accepted.credentials.sessionToken =
    some ((member .sessionToken).2.text js)
  expiration : ∃ expiration,
    env.convertTimestampToEpoch ((member .expiration).2.text js)
        (env.currentTime / HUNDREDS_OF_NANOS_IN_A_SECOND) = .ok expiration ∧
      accepted.credentials.expiration = min expiration
        ((env.currentTime + env.maxEnforcedDuration) % 2 ^ 64)

/-- For each field, the last string that is taken for its name is the name of
the last member of that name, and the value is a string that is not empty. -/
def NamesMembers (js : Bytes) : Prop :=
  ∀ field ∈ IotField.all, ∃ member ∈ lastMember js field,
    member.2.type = .string ∧ member.2.text js ≠ [] ∧
      lastNamed js field =
        some
          { key := member.1
            value := some member.2 }

instance (js : Bytes) : Decidable (NamesMembers js) :=
  inferInstanceAs (Decidable (∀ _ ∈ _, ∃ _ ∈ _, _ ∧ _ ∧ _))

theorem IotField.mem_all (field : IotField) : field ∈ IotField.all := by
  cases field <;> decide

/-- The last of some fields, or what was there before. -/
def lastOr (before : Option NamedToken) (field : IotField)
    (found : List (IotField × NamedToken)) : Option NamedToken :=
  ((found.filter (·.1 = field)).map (·.2)).getLast?.or before

theorem lastOr_nil (before : Option NamedToken) (field : IotField) :
    lastOr before field [] = before := by
  simp [lastOr]

theorem lastOr_cons (before : Option NamedToken) (field named : IotField)
    (token : NamedToken) (found : List (IotField × NamedToken)) :
    lastOr before field ((named, token) :: found) =
      lastOr (if named = field then some token else before) field found := by
  unfold lastOr
  by_cases same : named = field
  · rw [List.filter_cons_of_pos (by simpa using same), if_pos same,
      List.map_cons, List.getLast?_cons]
    cases ((found.filter (·.1 = field)).map (·.2)).getLast? <;> rfl
  · rw [List.filter_cons_of_neg (by simpa using same), if_neg same]

/-- The loop finds the last token for each name, and has admitted each of
them. -/
theorem scanIotResponse_ok {env : IotEnvironment} {js : Bytes}
    {fields after : IotFields} {tokens : List JsmnTok}
    (scans : scanIotResponse env js fields tokens = .ok after) :
    (∀ field, after field =
        lastOr (fields field) field (namedTokens js tokens)) ∧
      ∀ field named, (field, named) ∈ namedTokens js tokens →
        named.length env ≤ field.maxLen := by
  induction tokens using namedTokens.induct js generalizing fields with
  | case1 =>
      cases scans
      refine ⟨fun field => (lastOr_nil _ _).symm, fun field named listed => ?_⟩
      exact absurd listed List.not_mem_nil
  | case2 token unspelled =>
      simp only [scanIotResponse, unspelled, Except.ok.injEq] at scans
      subst scans
      simp only [namedTokens, unspelled]
      refine ⟨fun field => (lastOr_nil _ _).symm, fun field named listed => ?_⟩
      exact absurd listed List.not_mem_nil
  | case3 token field spells =>
      simp only [scanIotResponse, spells, bind_eq_ok, check_eq_ok,
        Except.ok.injEq] at scans
      obtain ⟨_, admitted, rfl⟩ := scans
      simp only [namedTokens, spells, List.mem_singleton]
      constructor
      · intro other
        rw [lastOr_cons, Function.update_apply]
        simp only [@eq_comm _ field other, lastOr_nil]
      · rintro _ _ ⟨⟩
        exact admitted
  | case4 token next rest unspelled induction =>
      simp only [scanIotResponse, unspelled] at scans
      simp only [namedTokens, unspelled]
      exact induction scans
  | case5 token next rest field spells induction =>
      simp only [scanIotResponse, spells, bind_eq_ok, check_eq_ok] at scans
      obtain ⟨_, admitted, later⟩ := scans
      obtain ⟨found, admittedRest⟩ := induction later
      simp only [namedTokens, spells]
      constructor
      · intro other
        rw [lastOr_cons, found, Function.update_apply]
        simp only [@eq_comm _ field other]
      · intro other named listed
        rcases List.mem_cons.mp listed with first | inRest
        · cases first
          exact admitted
        · exact admittedRest other named inRest

theorem sized_token {js : Bytes} {token : JsmnTok} (within : token.Within js)
    (fits : js.length < 2 ^ 32) :
    token.strLen = (token.text js).length ∧
      (SizedString.sized (js.drop token.start.toNat) token.strLen).text.take
        token.strLen = token.text js := by
  obtain ⟨nonneg, ordered, ends, plain⟩ := within
  have length : token.strLen = (token.stop - token.start).toNat := by
    rw [JsmnTok.strLen]
    omega
  have split : token.stop.toNat = token.start.toNat + token.strLen := by
    omega
  have text : token.text js = (js.drop token.start.toNat).take token.strLen := by
    rw [JsmnTok.text, length]
  constructor
  · rw [text, List.length_take, List.length_drop]
    omega
  · rw [text]
    refine SizedString.take_text_ofBuffer ?_
    intro nul
    apply plain
    rw [split, List.take_add, List.mem_append]
    exact Or.inr nul

theorem lastNamed_mem {js : Bytes} {field : IotField} {named : NamedToken}
    (last : lastNamed js field = some named) :
    (field, named) ∈ namedTokens js (objectTokens js).tail := by
  obtain ⟨⟨other, token⟩, listed, same⟩ :=
    List.mem_map.mp (List.mem_of_getLast? last)
  obtain ⟨member, isField⟩ := List.mem_filter.mp listed
  simp only [decide_eq_true_eq] at isField
  cases same
  cases isField
  exact member

theorem objectTokens_within (js : Bytes) :
    ∀ token ∈ objectTokens js, token.Within js := by
  unfold objectTokens
  cases parses : jsmnParse MAX_JSON_TOKEN_COUNT js with
  | error err => simp
  | ok tokens =>
      cases tokens with
      | nil => simp
      | cons root tokens =>
          by_cases object : root.type = .object
          · simpa [object] using jsmnParse_within parses
          · simp [object]

theorem parsedTokens_eq {js : Bytes}
    (object : (((jsmnParse MAX_JSON_TOKEN_COUNT js).toOption.getD
      []).head?.map (·.type)) = some .object) :
    ((jsmnParse MAX_JSON_TOKEN_COUNT js).toOption.getD []) =
      objectTokens js := by
  unfold objectTokens
  cases read : jsmnParse MAX_JSON_TOKEN_COUNT js with
  | error err => rfl
  | ok tokens =>
      cases tokens with
      | nil => rfl
      | cons root tokens =>
          rw [read] at object
          have isObject : root.type = .object := by
            simpa [Except.toOption] using object
          simp [isObject, Except.toOption]

/-- A response that is accepted is an object, in which all that is found has
been named last. -/
theorem parseIotResponse_ok {env : IotEnvironment} {js : Bytes}
    {accepted : IotCredentials}
    (parses : parseIotResponse env js = .ok accepted) :
    ∃ accessKeyId secretKey sessionToken expiration,
      accepted.fields .accessKeyId = some accessKeyId ∧
      accepted.fields .secretKey = some secretKey ∧
      accepted.fields .sessionToken = some sessionToken ∧
      (∀ field, accepted.fields field = lastNamed js field) ∧
      (∀ field named, accepted.fields field = some named →
        named.length env ≤ field.maxLen) ∧
      env.convertTimestampToEpoch (expirationTimestampStr env js accepted.fields)
          (env.currentTime / HUNDREDS_OF_NANOS_IN_A_SECOND) =
        .ok expiration ∧
      createAwsCredentials env.allocated (some (accessKeyId.string env js))
          (some (secretKey.string env js))
          (.token (sessionToken.string env js))
          (min expiration
            ((env.currentTime + env.maxEnforcedDuration) % 2 ^ 64)) =
        .ok accepted.credentials := by
  simp only [parseIotResponse, bind_eq_ok, check_eq_ok, checkSome_eq_ok,
    Except.ok.injEq] at parses
  obtain ⟨_, -, _, many, _, object, fields, scans, accessKeyId, hasId, secretKey,
    hasKey, sessionToken, hasToken, expiration, converts, credentials, creates,
    rfl⟩ := parses
  rw [parsedTokens_eq object] at scans
  obtain ⟨found, admitted⟩ := scanIotResponse_ok scans
  have last (field : IotField) : fields field = lastNamed js field :=
    (found field).trans (Option.or_none ..)
  refine ⟨accessKeyId, secretKey, sessionToken, expiration, hasId, hasKey,
    hasToken, last, fun field named isNamed => ?_, converts, creates⟩
  exact admitted field named (lastNamed_mem ((last field).symm.trans isNamed))

theorem authValue_string {env : IotEnvironment} {js : Bytes}
    {key value : JsmnTok} (within : value.Within js)
    (fits : js.length < 2 ^ 32) (nonempty : value.text js ≠ []) :
    (NamedToken.string env js
      { key := key
        value := some value }).authValue = value.text js := by
  obtain ⟨length, taken⟩ := sized_token within fits
  refine SizedString.authValue_of_take nonempty ?_ (length ▸ taken)
  have shorter := congrArg List.length taken
  rw [List.length_take] at shorter
  simp only [NamedToken.string, SizedString.sized] at shorter ⊢
  omega

theorem lastMember_within {js : Bytes} {field : IotField}
    {member : JsmnTok × JsmnTok} (last : lastMember js field = some member) :
    member.2.Within js := by
  have listed := List.mem_of_getLast? last
  obtain ⟨adjacent, -⟩ := List.mem_filter.mp listed
  exact objectTokens_within js _
    (List.mem_of_mem_tail (List.of_mem_zip adjacent).2)

theorem expirationTimestampStr_eq {env : IotEnvironment} {js : Bytes}
    {fields : IotFields} {key value : JsmnTok}
    (found : fields .expiration =
      some
        { key := key
          value := some value })
    (within : value.Within js) (fits : js.length < 2 ^ 32) :
    expirationTimestampStr env js fields = value.text js := by
  obtain ⟨length, text⟩ := sized_token within fits
  rw [expirationTimestampStr, found, ← text, List.take_eq_take_min]
  rfl

/-- If nothing else is taken for a name, the last members are stored. -/
theorem storesMembers_of_names {env : IotEnvironment} {js : Bytes}
    {accepted : IotCredentials} (fits : js.length < 2 ^ 32)
    (parses : parseIotResponse env js = .ok accepted)
    (names : NamesMembers js) :
    ∃ member, StoresMembers env js accepted member := by
  obtain ⟨accessKeyId, secretKey, sessionToken, expiration, hasId, hasKey,
    hasToken, found, -, converts, creates⟩ := parseIotResponse_ok parses
  have named (field : IotField) := names field field.mem_all
  choose member last string nonempty taken using named
  have stored (field : IotField) : accepted.fields field =
      some
        { key := (member field).1
          value := some (member field).2 } :=
    (found field).trans (taken field)
  have copied (field : IotField) :
      (NamedToken.string env js
        { key := (member field).1
          value := some (member field).2 }).authValue =
        (member field).2.text js :=
    authValue_string (lastMember_within (last field)) fits (nonempty field)
  obtain ⟨storesId, storesKey, storesToken, expires⟩ :=
    createAwsCredentials_ok creates
  cases hasId.symm.trans (stored .accessKeyId)
  cases hasKey.symm.trans (stored .secretKey)
  cases hasToken.symm.trans (stored .sessionToken)
  have timestamp : expirationTimestampStr env js accepted.fields =
      (member .expiration).2.text js :=
    expirationTimestampStr_eq (stored .expiration)
      (lastMember_within (last .expiration)) fits
  refine ⟨member, last, string, nonempty, stored, ?_, ?_, ?_, ?_⟩
  · rw [storesId, copied .accessKeyId]
  · rw [storesKey, copied .secretKey]
  · rw [storesToken]
    exact congrArg some (copied .sessionToken)
  · rw [timestamp] at converts
    exact ⟨expiration, converts, expires⟩

theorem StoresMembers.admitted {env : IotEnvironment} {js : Bytes}
    {accepted : IotCredentials} {member : IotField → JsmnTok × JsmnTok}
    (stores : StoresMembers env js accepted member)
    (fits : js.length < 2 ^ 32)
    (parses : parseIotResponse env js = .ok accepted) :
    accepted.credentials.Admitted := by
  obtain ⟨-, -, -, -, -, -, -, -, short, -, -⟩ := parseIotResponse_ok parses
  have length (field : IotField) :
      ((member field).2.text js).length ≤ field.maxLen := by
    rw [← (sized_token (lastMember_within (stores.last field)) fits).1]
    exact short field _ (stores.found field)
  constructor
  case accessKeyId =>
      rw [stores.accessKeyId]
      exact length .accessKeyId
  case secretKey =>
      rw [stores.secretKey]
      exact length .secretKey
  case sessionToken =>
      rw [AwsCredentials.sessionTokenLen, stores.sessionToken]
      exact length .sessionToken

/-- The clock is at the start of the epoch, and the buffer for the timestamp
holds what a response before has left in it. -/
def sampleEnvironment : IotEnvironment where
  beyond := .whole [] (by simp)
  uninitialised := bytes "1970-01-01T01:00:00Z"
  currentTime := 0
  maxEnforcedDuration := 24000000000
  convertTimestampToEpoch timestamp _ :=
    if timestamp = bytes "1970-01-01T01:00:00Z" then .ok 36000000000
    else .error (.failed (.other 5))
  allocated := true

/-- An object in which each name and each value is a string. -/
def sampleResponse (members : List (String × String)) : Bytes :=
  let quoted (text : String) := bytes "\"" ++ bytes text ++ bytes "\""
  [0x7B] ++ (bytes ",").intercalate (members.map fun (key, value) =>
    quoted key ++ bytes ":" ++ quoted value) ++ [0x7D]

def sampleMembers : List (String × String) :=
  [("accessKeyId", "AKID"), ("secretAccessKey", "SECRET"),
    ("sessionToken", "TOKEN"), ("expiration", "1970-01-01T01:00:00Z")]

/-- The response names the field in a value, too. -/
def sampleLookalike : Bytes :=
  sampleResponse (sampleMembers ++ [("note", "accessKeyId"), ("z", "1")])

/-- The response has no expiration. -/
def sampleUndated : Bytes := sampleResponse (sampleMembers.take 3)

theorem isOk_sampleMembers :
    (parseIotResponse sampleEnvironment
      (sampleResponse sampleMembers)).isOk = true := by
  decide +kernel

theorem isOk_sampleUndated :
    (parseIotResponse sampleEnvironment sampleUndated).isOk = true := by
  decide +kernel

theorem accessKeyId_sampleLookalike :
    ((parseIotResponse sampleEnvironment sampleLookalike).toOption.map
      fun accepted => accepted.credentials.accessKeyId) =
      some (bytes "z") := by
  decide +kernel

theorem lastMember_sampleLookalike :
    ((lastMember sampleLookalike .accessKeyId).map
      fun member => member.2.text sampleLookalike) = some (bytes "AKID") := by
  decide +kernel

end Common

end KvsProducer
