import KvsProducer.Common.FailedRefresh
import KvsProducer.ResponseDocument
import KvsProducer.TokenAccess

/-!
# A refresh with a document

A response that spells each of the four names once, as the name of a member that
is a string, refreshes the IoT credential provider with the strings of these
members, wherever in the document they are and whatever else it says.
-/

namespace KvsProducer

namespace Common

open JsonValue (Plain)

theorem IotField.name_injective : Function.Injective IotField.name := by
  intro first second same
  revert same
  cases first <;> cases second <;> decide

/-- The response and the strings of its four members. -/
structure SpellsCredentials (tree : JsonTree) (values : IotField → Bytes) :
    Prop where
  response : tree.Response
  names : ∀ field, ∃ value, tree.Names (IotField.name field) value ∧
    value.string? = some (values field)
  nonempty : ∀ field, values field ≠ []
  short : ∀ field, (values field).length ≤ field.maxLen

theorem useAll_iotReader {env : IotEnvironment} {js : Bytes}
    {fields : IotFields}
    {found : List ((IotField × JsmnTok) × Option JsmnTok)}
    (admitted : ∀ named ∈ found,
      NamedToken.length env { key := named.1.2, value := named.2 } ≤
        named.1.1.maxLen) :
    ∃ after, KeyScan.useAll (iotReader env js) fields found = .next after ∧
      ∀ field, after field =
        ((found.filter fun named => named.1.1 = field).getLast?.map
          fun named =>
            { key := named.1.2, value := named.2 : NamedToken }).or
          (fields field) := by
  induction found generalizing fields with
  | nil => exact ⟨fields, rfl, fun field => rfl⟩
  | cons named found induction =>
      obtain ⟨⟨field, key⟩, value⟩ := named
      have first := admitted _ List.mem_cons_self
      obtain ⟨after, uses, last⟩ := @induction
        (Function.update fields field (some { key := key, value := value }))
        fun other listed => admitted other (List.mem_cons_of_mem _ listed)
      refine ⟨after, ?_, ?_⟩
      · rw [KeyScan.useAll]
        simp only [iotReader, useIotField]
        rw [if_pos first]
        exact uses
      · intro other
        rw [last other, Function.update_apply]
        by_cases same : field = other
        · subst same
          rw [List.filter_cons_of_pos (by simp), List.getLast?_cons]
          cases (found.filter fun named => named.1.1 = field).getLast? <;>
            simp
        · rw [List.filter_cons_of_neg (by simpa using same),
            if_neg (Ne.symm same)]

section Document

variable {tree : JsonTree} {values : IotField → Bytes}

theorem SpellsCredentials.unambiguous
    (spells : SpellsCredentials tree values) :
    tree.Unambiguous (IotField.all.map IotField.name) := by
  intro name isName
  obtain ⟨field, -, rfl⟩ := List.mem_map.mp isName
  obtain ⟨value, names, -⟩ := spells.names field
  exact Or.inr ⟨value, names⟩

theorem spelled_iff {js : Bytes} {token : JsmnTok} {field : IotField}
    (within : token.Within js) :
    IotField.spelled js token = some field ↔
      token.spelling js = some (IotField.name field) :=
  find?_spells_iff IotField.name_injective field.mem_all within

theorem SpellsCredentials.separated (spells : SpellsCredentials tree values)
    (env : IotEnvironment) :
    KeyScan.Separated (iotReader env tree.text) (tree.tokens 0) := by
  apply spells.unambiguous.separated (JsonTree.Response.here tree)
  intro token listed isKey
  obtain ⟨⟨field, same⟩, key⟩ := Option.ne_none_iff_exists'.mp isKey
  obtain ⟨other, spelled, -⟩ := Option.map_eq_some_iff.mp key
  exact ⟨other.name, List.mem_map_of_mem other.mem_all,
    (spelled_iff (spells.response.within token listed)).mp spelled⟩

/-- The loop finds the name of each field once, with its value. -/
theorem SpellsCredentials.found (spells : SpellsCredentials tree values)
    (env : IotEnvironment) (field : IotField) :
    ∃ key val, val ∈ tree.tokens 0 ∧ val.text tree.text = values field ∧
      (KeyScan.pairs (iotReader env tree.text) (tree.tokens 0).tail).filter
          (fun named => named.1.1 = field) = [((field, key), some val)] := by
  obtain ⟨value, names, isString⟩ := spells.names field
  obtain ⟨front, key, place, back, only⟩ :=
    names.onlyMember (JsonTree.Response.here tree)
  obtain ⟨root, rest, before, tokens, -, early⟩ :=
    spells.response.behind_root only
  have apart := spells.separated env
  rw [tokens] at apart
  have within (token : JsmnTok) (listed : token ∈ tree.tokens 0) :=
    spells.response.within token listed
  have isSpelled := (spelled_iff (within key (by simp [only.has.parts]))).mpr
    only.has.name
  obtain ⟨val, listed, valSpells, -, found⟩ := @OnlyMember.found _ _ _
    (iotReader env tree.text) _ _ _ _ _ _ rest [root] before _ _ (field, key)
    (fun named => decide (named.1 = field)) only apart.tail tokens early
    (by
      intro other listed named isKey same
      obtain ⟨spelled, otherSpelled, rfl⟩ := Option.map_eq_some_iff.mp isKey
      rw [← of_decide_eq_true same]
      exact (spelled_iff (within other (by simp [tokens, listed]))).mp
        otherSpelled)
    (by simp [iotReader, isSpelled]) rfl (by simp)
  refine ⟨key, val, by simp [tokens, listed], ?_, ?_⟩
  · exact JsonTree.Response.text_of_spelling (valSpells.trans isString)
  · rw [tokens]
    exact found

theorem SpellsCredentials.scans (spells : SpellsCredentials tree values)
    (env : IotEnvironment) :
    ∃ fields, scanIotResponse env tree.text (fun _ => none)
        (tree.tokens 0).tail = .ok fields ∧
      ∀ field, ∃ key val, val.Within tree.text ∧
        val.text tree.text = values field ∧
        fields field =
          some
            { key := key
              value := some val } := by
  have admitted : ∀ named ∈ KeyScan.pairs (iotReader env tree.text)
      (tree.tokens 0).tail,
      NamedToken.length env { key := named.1.2, value := named.2 } ≤
        named.1.1.maxLen := by
    intro named listed
    obtain ⟨key, val, inTree, text, found⟩ := spells.found env named.1.1
    have only : named ∈ (KeyScan.pairs (iotReader env tree.text)
        (tree.tokens 0).tail).filter
          (fun other => other.1.1 = named.1.1) :=
      List.mem_filter.mpr ⟨listed, by simp⟩
    rw [found, List.mem_singleton] at only
    have value : named.2 = some val := congrArg Prod.snd only
    obtain ⟨length, -⟩ := sized_token
      (spells.response.within val inTree) spells.response.lt_wrap
    rw [NamedToken.length, value]
    simp only
    rw [length, text]
    exact spells.short _
  obtain ⟨fields, uses, last⟩ := @useAll_iotReader env tree.text
    (fun _ => none) _ admitted
  refine ⟨fields, ?_, ?_⟩
  · rw [@scanIotResponse_eq_scan env tree.text _ 1, KeyScan.scan_snd, uses]
    rfl
  · intro field
    obtain ⟨key, val, inTree, text, found⟩ := spells.found env field
    refine ⟨key, val, spells.response.within val inTree, text, ?_⟩
    rw [last field, found]
    rfl

/-- The arguments that the response gives are those of a constructible
object. -/
theorem SpellsCredentials.reads (spells : SpellsCredentials tree values)
    {env : IotEnvironment} {expiration : Nat}
    (converts : env.convertTimestampToEpoch (values .expiration)
      (env.currentTime / HUNDREDS_OF_NANOS_IN_A_SECOND) = .ok expiration)
    (allocated : env.allocated = true) :
    ∃ fields arguments, readIotResponse env tree.text =
        .ok (fields, arguments) ∧
      Constructible env.allocated arguments ∧
      arguments.accessKeyId.authValue = values .accessKeyId ∧
      arguments.secretKey.authValue = values .secretKey ∧
      arguments.sessionToken.string.map (·.authValue) =
        some (values .sessionToken) ∧
      arguments.expiration = min expiration
        ((env.currentTime + env.maxEnforcedDuration) % 2 ^ 64) := by
  obtain ⟨fields, scans, found⟩ := spells.scans env
  choose key val within text found using found
  have parsed : (jsmnParse MAX_JSON_TOKEN_COUNT tree.text).toOption.getD [] =
      tree.tokens 0 := by
    rw [spells.response.parses]
    rfl
  obtain ⟨root, rest, tokens, isObject⟩ :=
    JsonTree.Response.root tree spells.response.isObject 0
  have timestamp : expirationTimestampStr env tree.text fields =
      values .expiration := by
    rw [expirationTimestampStr_eq (found .expiration) (within .expiration)
      spells.response.lt_wrap, text]
  have nonempty : 0 < tree.text.length := by
    by_contra empty
    have parses := spells.response.parses
    rw [List.eq_nil_of_length_eq_zero (by omega : tree.text.length = 0),
      tokens] at parses
    cases parses
  have many : 1 < (tree.tokens 0).length := by
    cases rest with
    | nil =>
        rw [tokens] at scans
        cases scans
        cases found .expiration
    | cons next rest =>
        rw [tokens, List.length_cons, List.length_cons]
        omega
  have object : (tree.tokens 0).head?.map (·.type) = some .object := by
    rw [tokens, List.head?_cons, Option.map_some, isObject]
  let string (field : IotField) : SizedString := NamedToken.string env tree.text
    { key := key field
      value := some (val field) }
  have copied (field : IotField) :
      (string field).authValue = values field := by
    have given : (val field).text tree.text ≠ [] := by
      rw [text]
      exact spells.nonempty field
    exact (authValue_string (within field) spells.response.lt_wrap given).trans
      (text field)
  have length (field : IotField) :
      (string field).authLen ≤ field.maxLen := by
    rw [← SizedString.length_authValue, copied]
    exact spells.short field
  have given (field : IotField) : (string field).text ≠ [] := by
    intro empty
    apply spells.nonempty field
    rw [← copied field, SizedString.authValue, empty, List.take_nil]
  refine ⟨fields,
    { accessKeyId := string .accessKeyId
      secretKey := string .secretKey
      sessionToken := .token (string .sessionToken)
      expiration := min expiration
        ((env.currentTime + env.maxEnforcedDuration) % 2 ^ 64) },
    ?_, ?_, copied .accessKeyId, copied .secretKey,
    congrArg some (copied .sessionToken), rfl⟩
  · simp only [readIotResponse, parsed, check_met nonempty, check_met many,
      check_met object, scans, found, checkSome, timestamp, converts, ok_bind]
    rfl
  · refine ⟨allocated, rfl, given .accessKeyId, given .secretKey, ?_, ?_⟩
    · intro token listed
      cases listed
      exact given .sessionToken
    · have id := length .accessKeyId
      have secret := length .secretKey
      have session := length .sessionToken
      simp only [IotField.maxLen, MAX_ACCESS_KEY_LEN, MAX_SECRET_KEY_LEN,
        MAX_SESSION_TOKEN_LEN] at id secret session
      simp only [awsCredentialsSize, SIZEOF_AWS_CREDENTIALS,
        SessionToken.string, Option.map_some, MAX_AUTH_LEN]
      omega

/-- A refresh stores the strings of the members, and the expiration that the
timestamp is converted to, up to the enforced one. -/
theorem getIotCredentials_document (time : TimeEnv)
    (durations : TokenDurations) {call : IotCall}
    {provider : CredentialProvider} {expiration : Nat}
    (stale : provider.isStale durations call.clock = true)
    (url : call.configuration.serviceUrl.length < MAX_URI_CHAR_LEN)
    (requested : call.requested = .ok ())
    (response : call.response = tree.text)
    (spells : SpellsCredentials tree values) (allocated : call.allocated = true)
    (converts : convertTimestampToEpoch time (values .expiration)
      (call.responseClock.time / HUNDREDS_OF_NANOS_IN_A_SECOND) =
        .ok expiration) :
    ∃ credentials : AwsCredentials,
      call.getCredentials time durations provider =
        (.ok (), provider.store credentials) ∧
      credentials.accessKeyId = values .accessKeyId ∧
      credentials.secretKey = values .secretKey ∧
      credentials.sessionToken = some (values .sessionToken) ∧
      credentials.expiration =
        min expiration (durations.latest call.responseClock) := by
  obtain ⟨fields, arguments, reads, constructible, id, secret, session,
    expires⟩ := @SpellsCredentials.reads tree values spells
      (call.environment time durations) expiration converts allocated
  have urlStarts : 0 < call.configuration.serviceUrl.length := by
    simp [IotConfiguration.serviceUrl, bytes]
  have read : call.read time durations = .ok arguments := by
    simp only [IotCall.read, check_met (And.intro urlStarts url), requested,
      response, reads, ok_bind]
    rfl
  obtain ⟨credentials, creates⟩ :=
    isOk_iff.mp (createAwsCredentials_isOk_iff.mpr constructible)
  obtain ⟨storesId, storesKey, storesToken, storesExpiration⟩ :=
    createAwsCredentials_ok creates
  refine ⟨credentials, ?_, storesId.trans id, storesKey.trans secret,
    storesToken.trans session, storesExpiration.trans expires⟩
  have created : createAwsCredentials call.allocated
      (some arguments.accessKeyId) (some arguments.secretKey)
      arguments.sessionToken arguments.expiration = .ok credentials := creates
  rw [IotCall.getCredentials, if_pos stale, read]
  simp only [CredentialProvider.replace, created]
  rfl

end Document

def sampleValue : IotField → Bytes
  | .accessKeyId => bytes "AKID"
  | .secretKey => bytes "SECRET"
  | .sessionToken => bytes "TOKEN"
  | .expiration => bytes "2019-01-31T23:00:59Z"

theorem plain_sampleField (field : IotField) :
    Plain field.name ∧ Plain (sampleValue field) := by
  cases field <;> decide +kernel

theorem plain_credentials : Plain (bytes "credentials") := by decide +kernel

/-- The four members are in an object of their own. -/
def sampleCredentialsDocument : JsonTree :=
  .bracket .object (.member (.ofPlain plain_credentials)
    (.bracket .object (IotField.all.foldr
      (fun field rest => .member (.ofPlain (plain_sampleField field).1)
        (.string (sampleValue field) (.of_plain (plain_sampleField field).2))
        rest) .nothing)) .nothing)

theorem spellsCredentials_sample :
    SpellsCredentials sampleCredentialsDocument sampleValue where
  response :=
    { isObject := rfl
      few := by decide +kernel
      short := by decide +kernel }
  names field := by
    refine ⟨.string _ (.of_plain (plain_sampleField field).2),
      ⟨?_, ?_⟩, rfl⟩
    · cases field <;>
        simp [sampleCredentialsDocument, JsonTree.members, JsonEntries.members,
          IotField.all, JsonKey.ofPlain, JsonEntries.nothing]
    · cases field <;> decide +kernel
  nonempty field := by
    cases field <;> decide +kernel
  short field := by
    cases field <;> decide +kernel

def sampleDocumentCall : IotCall where
  configuration :=
    { iotGetCredentialEndpoint := bytes "endpoint"
      roleAlias := bytes "role" }
  clock := sampleClock 0
  requested := .ok ()
  response := sampleCredentialsDocument.text
  response_lt := spellsCredentials_sample.response.lt_wrap
  responseClock := sampleClock 0
  beyond := .whole [] List.not_mem_nil
  uninitialised := []
  allocated := true

theorem getIotCredentials_document_sample :
    ∃ credentials : AwsCredentials,
      sampleDocumentCall.getCredentials sampleTimeEnv sampleDurations .initial =
        (.ok (), CredentialProvider.initial.store credentials) ∧
      credentials.accessKeyId = sampleValue .accessKeyId ∧
      credentials.secretKey = sampleValue .secretKey ∧
      credentials.sessionToken = some (sampleValue .sessionToken) ∧
      credentials.expiration = min 15489756590000000
        (sampleDurations.latest sampleDocumentCall.responseClock) :=
  getIotCredentials_document sampleTimeEnv sampleDurations rfl
    (by decide +kernel) rfl rfl spellsCredentials_sample rfl (by decide +kernel)

end Common

end KvsProducer
