import KvsProducer.Common.ApiCalls
import KvsProducer.JsonDocument

/-!
# The body of a request

The parameters of a call are printed into the text of a JSON object.  The
strings are printed as they are, so that the object has them as its values if
none of them has a character that JSON escapes.
-/

namespace KvsProducer

namespace Common

open Outcome JsonValue Decimal

/-! ### The texts of objects -/

def stringMember (gap name text : Bytes) : Bytes :=
  gap ++ inQuotes name ++ byte ':' :: ([byte ' '] ++ inQuotes text)

def numberMember (gap name : Bytes) (number : Nat) : Bytes :=
  gap ++ inQuotes name ++ byte ':' :: ([byte ' '] ++ spell number)

def objectText (texts : List Bytes) (gap : Bytes) : Bytes :=
  byte '\x7b' :: ([byte ','].intercalate texts ++ gap ++ [byte '\x7d'])

theorem gap_space : Gap [byte ' '] := by decide +kernel

theorem spells_stringMember {gap name text : Bytes} (blank : Gap gap)
    (plainName : Plain name) (plain : Plain text) :
    SpellsMember (stringMember gap name text) (name, .string text) :=
  Spells.member blank plainName (Spells.gap gap_space (Spells.string plain))

theorem spells_numberMember {gap name : Bytes} (blank : Gap gap)
    (plainName : Plain name) (number : Nat) :
    SpellsMember (numberMember gap name number) (name, .number number) :=
  Spells.member blank plainName
    (Spells.gap gap_space (Spells.number number))

/-- The gap in front of a member of the outermost object. -/
def outerGap : Bytes := bytes "\n\t"

def kmsKeyMembers (kmsKeyId : Option CString) : List Bytes :=
  match kmsKeyId with
  | none => []
  | some kmsKeyId =>
      if kmsKeyId.val ≠ [] then
        [stringMember outerGap (bytes "KmsKeyId") kmsKeyId.val]
      else []

theorem describeStreamParams_eq (streamName : Bytes) :
    describeStreamParams streamName =
      objectText [stringMember outerGap (bytes "StreamName") streamName]
        (bytes "\n") := by
  simp [describeStreamParams, objectText, stringMember, outerGap, inQuotes,
    bytes]

theorem getDataEndpointParams_eq (streamName apiName : Bytes) :
    getDataEndpointParams streamName apiName =
      objectText [stringMember outerGap (bytes "StreamName") streamName,
        stringMember outerGap (bytes "APIName") apiName] (bytes "\n") := by
  simp [getDataEndpointParams, objectText, stringMember, outerGap, inQuotes,
    bytes]

theorem tagResourceParams_eq (streamArn : Bytes) (members : List Bytes) :
    tagResourceParams streamArn ([byte ','].intercalate members) =
      objectText [stringMember outerGap (bytes "StreamARN") streamArn,
        outerGap ++ inQuotes (bytes "Tags") ++ byte ':' ::
          ([byte ' '] ++ objectText members outerGap)] (bytes "\n") := by
  simp [tagResourceParams, objectText, stringMember, outerGap, inQuotes, bytes]

/-- The members of the object that creates a stream, with the optional one. -/
def createStreamMembers (deviceName streamName contentType : Bytes)
    (kmsKeyId : Option CString) (retentionInHours : Nat) : List Bytes :=
  [stringMember outerGap (bytes "DeviceName") deviceName,
    stringMember outerGap (bytes "StreamName") streamName,
    stringMember outerGap (bytes "MediaType") contentType] ++
    kmsKeyMembers kmsKeyId ++
    [numberMember outerGap (bytes "DataRetentionInHours") retentionInHours]

theorem createStreamParams_eq {limits : ApiLimits}
    (deviceName streamName contentType : Bytes) {kmsKeyId : Option CString}
    (retentionInHours : Nat)
    (fits : ∀ id ∈ kmsKeyId, id.val.length ≤ limits.maxArnLen) :
    createStreamParams deviceName streamName contentType
        (kmsKey limits kmsKeyId) retentionInHours =
      objectText (createStreamMembers deviceName streamName contentType
        kmsKeyId retentionInHours) (bytes "\n") := by
  have optional : kmsKey limits kmsKeyId =
      match kmsKeyId with
      | none => []
      | some id => if id.val ≠ [] then kmsKeyParams id.val else [] := by
    cases kmsKeyId with
    | none => rfl
    | some id =>
        have short := fits id rfl
        have opening : (bytes "\"KmsKeyId\": \"").length = 13 := by decide
        have closing : (bytes "\",\n\t").length = 4 := by decide
        simp only [kmsKey, snprintf]
        split
        · apply List.take_of_length_le
          simp only [kmsKeyParams, List.length_append, opening, closing,
            MAX_JSON_KMS_KEY_ID_STRING_LEN]
          omega
        · rfl
  rw [optional]
  simp only [createStreamParams, ultostr_eq_spell, createStreamMembers]
  cases kmsKeyId with
  | none =>
      simp [kmsKeyMembers, objectText, stringMember, numberMember, outerGap,
        inQuotes, bytes]
  | some id =>
      by_cases given : id.val ≠ []
      · simp [kmsKeyMembers, given, kmsKeyParams, objectText, stringMember,
          numberMember, outerGap, inQuotes, bytes]
      · simp [kmsKeyMembers, not_not.mp given, objectText, stringMember,
          numberMember, outerGap, inQuotes, bytes]

/-! ### The texts of tags -/

def tagMember (tag : Tag) : Bytes :=
  stringMember (bytes "\n\t\t") tag.name.val tag.value.val

theorem tagParams_eq (tag : Tag) :
    tagParams tag.name.val tag.value.val = tagMember tag ++ [byte ','] := by
  simp [tagParams, tagMember, stringMember, inQuotes, bytes]

theorem printTags_eq_ok {size : Nat} {printed after : Bytes} {tags : List Tag}
    (prints : printTags size printed tags = .ok after) :
    after = printed ++ tags.flatMap fun tag => tagMember tag ++ [byte ','] := by
  induction tags generalizing printed with
  | nil =>
      cases prints
      simp
  | cons tag rest induction =>
      simp only [printTags, bind_eq_ok, check_eq_ok] at prints
      obtain ⟨_, -, later⟩ := prints
      rw [induction later, tagParams_eq, List.flatMap_cons, List.append_assoc]

/-- The comma behind the last tag is removed. -/
theorem dropLast_flatMap (tag : Tag) (tags : List Tag) :
    ((tag :: tags).flatMap fun tag => tagMember tag ++ [byte ',']).dropLast =
      [byte ','].intercalate ((tag :: tags).map tagMember) := by
  induction tags generalizing tag with
  | nil => simp [List.intercalate]
  | cons next rest induction =>
      have nonempty : (next :: rest).flatMap
          (fun tag => tagMember tag ++ [byte ',']) ≠ [] := by
        simp
      rw [List.flatMap_cons, List.dropLast_append_of_ne_nil nonempty,
        induction next]
      simp [List.intercalate]

theorem tagResourceParameters_eq_ok {env : ApiEnvironment}
    {answers : ApiAnswers} {streamArn : CString} {tags : Option (List Tag)}
    {parameters : Bytes}
    (prints : tagResourceParameters env answers streamArn tags =
      .ok parameters) :
    ∃ listed, tags = some listed ∧
      parameters = tagResourceParams streamArn.val
        ([byte ','].intercalate (listed.map tagMember)) := by
  cases tags with
  | none => cases prints
  | some listed =>
      simp only [tagResourceParameters, checkSome, bind_eq_ok, check_eq_ok,
        Except.ok.injEq] at prints
      obtain ⟨_, rfl, _, some, _, -, _, -, printed, printsTags, rfl⟩ := prints
      refine ⟨listed, rfl, ?_⟩
      cases listed with
      | nil => cases some
      | cons tag tags =>
          rw [printTags_eq_ok printsTags, List.nil_append, dropLast_flatMap]

/-! ### What the bodies say -/

/-- The retention in whole hours, as the body states it. -/
def wholeHours (retentionPeriod : Nat) : ℚ :=
  (retentionPeriod / HUNDREDS_OF_NANOS_IN_AN_HOUR : ℕ)

/-- The retention in hours. -/
def exactHours (retentionPeriod : Nat) : ℚ :=
  retentionPeriod / HUNDREDS_OF_NANOS_IN_AN_HOUR

namespace ApiCall

/-- The strings that a call puts into its body. -/
def strings : ApiCall → List CString
  | createStream deviceName streamName contentType kmsKeyId _ =>
      [deviceName, streamName, contentType] ++ kmsKeyId.toList
  | describeStream streamName => [streamName]
  | getStreamingEndpoint streamName apiName => [streamName, apiName]
  | tagResource streamArn tags =>
      streamArn :: (tags.getD []).flatMap fun tag => [tag.name, tag.value]
  | putStream .. => []

/-- No string has a character that JSON escapes. -/
def PlainStrings (call : ApiCall) : Prop :=
  ∀ text ∈ call.strings, JsonValue.Plain text.val

/-- The values of a call are within PIC's limits. -/
def WithinLimits (limits : ApiLimits) : ApiCall → Prop
  | createStream deviceName streamName contentType kmsKeyId retentionPeriod =>
      deviceName.val.length ≤ limits.maxDeviceNameLen ∧
        streamName.val.length ≤ limits.maxStreamNameLen ∧
        contentType.val.length ≤ limits.maxContentTypeLen ∧
        (∀ id ∈ kmsKeyId, id.val.length ≤ limits.maxArnLen) ∧
        retentionPeriod < 2 ^ 64
  | describeStream streamName =>
      streamName.val.length ≤ limits.maxStreamNameLen
  | getStreamingEndpoint streamName apiName =>
      streamName.val.length ≤ limits.maxStreamNameLen ∧
        apiName.val.length ≤ limits.maxApiNameLen
  | tagResource streamArn tags =>
      streamArn.val.length ≤ limits.maxArnLen ∧
        ∀ listed ∈ tags, listed.length ≤ limits.maxTagCount ∧
          ∀ tag ∈ listed, tag.name.val.length ≤ limits.maxTagNameLen ∧
            tag.value.val.length ≤ limits.maxTagValueLen
  | putStream .. => True

/-- The values of a call as an object.  The key of a stream is optional, and a
call that streams has no body. -/
def document (hours : Nat → ℚ) : ApiCall → Option JsonValue
  | createStream deviceName streamName contentType kmsKeyId retentionPeriod =>
      some (.object
        ([(bytes "DeviceName", .string deviceName.val),
          (bytes "StreamName", .string streamName.val),
          (bytes "MediaType", .string contentType.val)] ++
          ((kmsKeyId.filter fun id => id.val ≠ []).toList.map fun id =>
            (bytes "KmsKeyId", .string id.val)) ++
          [(bytes "DataRetentionInHours", .number (hours retentionPeriod))]))
  | describeStream streamName =>
      some (.object [(bytes "StreamName", .string streamName.val)])
  | getStreamingEndpoint streamName apiName =>
      some (.object [(bytes "StreamName", .string streamName.val),
        (bytes "APIName", .string apiName.val)])
  | tagResource streamArn tags =>
      some (.object [(bytes "StreamARN", .string streamArn.val),
        (bytes "Tags", .object ((tags.getD []).map fun tag =>
          (tag.name.val, .string tag.value.val)))])
  | putStream .. => none

end ApiCall

theorem spells_objectText {gap : Bytes} {texts : List Bytes}
    {members : List (Bytes × JsonValue)} (blank : Gap gap)
    (spells : List.Forall₂ SpellsMember texts members) :
    SpellsValue (objectText texts gap) (.object members) :=
  Spells.object blank spells

/-- The gaps and the names of the printed members. -/
structure BodyTexts : Prop where
  outer : Gap outerGap
  newline : Gap (bytes "\n")
  tag : Gap (bytes "\n\t\t")
  deviceName : Plain (bytes "DeviceName")
  streamName : Plain (bytes "StreamName")
  mediaType : Plain (bytes "MediaType")
  kmsKeyId : Plain (bytes "KmsKeyId")
  retention : Plain (bytes "DataRetentionInHours")
  apiName : Plain (bytes "APIName")
  streamArn : Plain (bytes "StreamARN")
  tags : Plain (bytes "Tags")

theorem bodyTexts : BodyTexts := by
  constructor <;> decide +kernel

theorem spells_outerMember {name text : Bytes} (plainName : Plain name)
    (plain : Plain text) :
    SpellsMember (stringMember outerGap name text) (name, .string text) :=
  spells_stringMember bodyTexts.outer plainName plain

theorem describeStreamParams_decodes {streamName : Bytes}
    (plain : Plain streamName) :
    Decodes (describeStreamParams streamName)
      (.object [(bytes "StreamName", .string streamName)]) := by
  rw [describeStreamParams_eq]
  apply Spells.decodes
  apply spells_objectText bodyTexts.newline
  exact .cons (spells_outerMember bodyTexts.streamName plain) .nil

theorem getDataEndpointParams_decodes {streamName apiName : Bytes}
    (plain : Plain streamName) (plainApi : Plain apiName) :
    Decodes (getDataEndpointParams streamName apiName)
      (.object [(bytes "StreamName", .string streamName),
        (bytes "APIName", .string apiName)]) := by
  rw [getDataEndpointParams_eq]
  apply Spells.decodes
  apply spells_objectText bodyTexts.newline
  exact .cons (spells_outerMember bodyTexts.streamName plain)
    (.cons (spells_outerMember bodyTexts.apiName plainApi) .nil)

theorem spells_tags {tags : List Tag}
    (plain : ∀ tag ∈ tags, Plain tag.name.val ∧ Plain tag.value.val) :
    List.Forall₂ SpellsMember (tags.map tagMember)
      (tags.map fun tag => (tag.name.val, .string tag.value.val)) := by
  rw [List.forall₂_map_left_iff, List.forall₂_map_right_iff, List.forall₂_same]
  intro tag listed
  obtain ⟨plainName, plainValue⟩ := plain tag listed
  exact spells_stringMember bodyTexts.tag plainName plainValue

theorem tagResourceParams_decodes {streamArn : Bytes} {tags : List Tag}
    (plainArn : Plain streamArn)
    (plain : ∀ tag ∈ tags, Plain tag.name.val ∧ Plain tag.value.val) :
    Decodes
      (tagResourceParams streamArn
        ([byte ','].intercalate (tags.map tagMember)))
      (.object [(bytes "StreamARN", .string streamArn),
        (bytes "Tags", .object (tags.map fun tag =>
          (tag.name.val, .string tag.value.val)))]) := by
  rw [tagResourceParams_eq]
  apply Spells.decodes
  apply spells_objectText bodyTexts.newline
  have inner := spells_objectText bodyTexts.outer (spells_tags plain)
  have member := Spells.member bodyTexts.outer bodyTexts.tags
    (Spells.gap gap_space inner)
  exact .cons (spells_outerMember bodyTexts.streamArn plainArn)
    (.cons member .nil)

theorem createStreamParams_decodes {limits : ApiLimits}
    {deviceName streamName contentType : Bytes} {kmsKeyId : Option CString}
    {retentionPeriod : Nat}
    (fits : ∀ id ∈ kmsKeyId, id.val.length ≤ limits.maxArnLen)
    (plainDevice : Plain deviceName) (plainStream : Plain streamName)
    (plainType : Plain contentType)
    (plainKey : ∀ id ∈ kmsKeyId, Plain id.val) :
    Decodes
      (createStreamParams deviceName streamName contentType
        (kmsKey limits kmsKeyId)
        (retentionPeriod / HUNDREDS_OF_NANOS_IN_AN_HOUR))
      (.object
        ([(bytes "DeviceName", JsonValue.string deviceName),
          (bytes "StreamName", .string streamName),
          (bytes "MediaType", .string contentType)] ++
          ((kmsKeyId.filter fun id => id.val ≠ []).toList.map fun id =>
            (bytes "KmsKeyId", JsonValue.string id.val)) ++
          [(bytes "DataRetentionInHours",
            JsonValue.number (wholeHours retentionPeriod))])) := by
  have optional : List.Forall₂ SpellsMember (kmsKeyMembers kmsKeyId)
      ((kmsKeyId.filter fun id => id.val ≠ []).toList.map fun id =>
        (bytes "KmsKeyId", JsonValue.string id.val)) := by
    cases kmsKeyId with
    | none => exact .nil
    | some id =>
        by_cases given : id.val ≠ []
        · simp only [kmsKeyMembers, if_pos given]
          have kept : (some id).filter (fun id => id.val ≠ []) = some id := by
            simp [given]
          rw [kept]
          exact .cons (spells_outerMember bodyTexts.kmsKeyId
            (plainKey id rfl)) .nil
        · simp only [kmsKeyMembers, if_neg given]
          have dropped : (some id).filter (fun id => id.val ≠ []) = none := by
            simpa using given
          rw [dropped]
          exact .nil
  rw [createStreamParams_eq _ _ _ _ fits]
  apply Spells.decodes
  apply spells_objectText bodyTexts.newline
  have retention := spells_numberMember bodyTexts.outer bodyTexts.retention
    (retentionPeriod / HUNDREDS_OF_NANOS_IN_AN_HOUR)
  refine List.rel_append (List.rel_append ?_ optional) (.cons retention .nil)
  exact .cons (spells_outerMember bodyTexts.deviceName plainDevice)
    (.cons (spells_outerMember bodyTexts.streamName plainStream)
      (.cons (spells_outerMember bodyTexts.mediaType plainType) .nil))

/-! ### What is printed is not truncated -/

/-- PIC's limits leave room for what is printed around the values. -/
structure ApiLimits.LeaveRoom (limits : ApiLimits) : Prop where
  createStream : limits.maxDeviceNameLen + limits.maxStreamNameLen +
    limits.maxContentTypeLen + limits.maxArnLen + 256 ≤
      MAX_JSON_PARAMETER_STRING_LEN
  getStreamingEndpoint : limits.maxStreamNameLen + limits.maxApiNameLen + 256 ≤
    MAX_JSON_PARAMETER_STRING_LEN
  tagResource : 10 * limits.maxTagCount + limits.maxArnLen + 256 ≤
    MAX_JSON_PARAMETER_STRING_LEN

theorem snprintf_eq {size : Nat} {text : Bytes} (fits : text.length < size) :
    snprintf size text = text :=
  List.take_of_length_le (Nat.le_sub_one_of_lt fits)

theorem length_describeStreamParams (streamName : Bytes) :
    (describeStreamParams streamName).length = streamName.length + 21 := by
  have opening : (bytes "\x7b\n\t\"StreamName\": \"").length = 18 := by decide
  have closing : (bytes "\"\n\x7d").length = 3 := by decide
  simp only [describeStreamParams, List.length_append, opening, closing]
  omega

theorem length_getDataEndpointParams (streamName apiName : Bytes) :
    (getDataEndpointParams streamName apiName).length =
      streamName.length + apiName.length + 37 := by
  have opening : (bytes "\x7b\n\t\"StreamName\": \"").length = 18 := by decide
  have between : (bytes "\",\n\t\"APIName\": \"").length = 16 := by decide
  have closing : (bytes "\"\n\x7d").length = 3 := by decide
  simp only [getDataEndpointParams, List.length_append, opening, between,
    closing]
  omega

theorem length_tagResourceParams (streamArn tagsJson : Bytes) :
    (tagResourceParams streamArn tagsJson).length =
      streamArn.length + tagsJson.length + 35 := by
  have opening : (bytes "\x7b\n\t\"StreamARN\": \"").length = 17 := by decide
  have between : (bytes "\",\n\t\"Tags\": \x7b").length = 13 := by decide
  have closing : (bytes "\n\t\x7d\n\x7d").length = 5 := by decide
  simp only [tagResourceParams, List.length_append, opening, between, closing]
  omega

theorem length_kmsKey_le (limits : ApiLimits) {kmsKeyId : Option CString}
    (fits : ∀ id ∈ kmsKeyId, id.val.length ≤ limits.maxArnLen) :
    (kmsKey limits kmsKeyId).length ≤ limits.maxArnLen + 17 := by
  cases kmsKeyId with
  | none => exact Nat.zero_le _
  | some id =>
      have short := fits id rfl
      have opening : (bytes "\"KmsKeyId\": \"").length = 13 := by decide
      have closing : (bytes "\",\n\t").length = 4 := by decide
      simp only [kmsKey]
      split
      · refine le_trans (List.length_take_le' _ _) ?_
        simp only [kmsKeyParams, List.length_append, opening, closing]
        omega
      · exact Nat.zero_le _

theorem length_createStreamParams_le
    (deviceName streamName contentType kmsKey : Bytes) {retentionInHours : Nat}
    (uint64 : retentionInHours < 2 ^ 64) :
    (createStreamParams deviceName streamName contentType kmsKey
      retentionInHours).length ≤ deviceName.length + streamName.length +
        contentType.length + kmsKey.length + 105 := by
  have digits : (spell retentionInHours).length ≤ 20 :=
    (length_spell_le_iff (by decide)).mpr (by omega)
  have opening : (bytes "\x7b\n\t\"DeviceName\": \"").length = 18 := by decide
  have stream : (bytes "\",\n\t\"StreamName\": \"").length = 19 := by decide
  have media : (bytes "\",\n\t\"MediaType\": \"").length = 18 := by decide
  have between : (bytes "\",\n\t").length = 4 := by decide
  have retention : (bytes "\"DataRetentionInHours\": ").length = 24 := by
    decide
  have closing : (bytes "\n\x7d").length = 2 := by decide
  simp only [createStreamParams, ultostr_eq_spell, List.length_append, opening,
    stream, media, between, retention, closing]
  omega

theorem length_tagMember (tag : Tag) :
    (tagMember tag).length = tag.name.val.length + tag.value.val.length + 9 := by
  have gap : (bytes "\n\t\t").length = 3 := by decide
  simp only [tagMember, stringMember, inQuotes, List.length_append, gap,
    List.length_cons, List.length_nil]
  omega

theorem length_intercalate_tags_le {limits : ApiLimits} (tags : List Tag)
    (fits : ∀ tag ∈ tags, tag.name.val.length ≤ limits.maxTagNameLen ∧
      tag.value.val.length ≤ limits.maxTagValueLen) :
    ([byte ','].intercalate (tags.map tagMember)).length ≤
      tags.length * (limits.maxTagNameLen + limits.maxTagValueLen + 10) := by
  cases tags with
  | nil => exact Nat.zero_le _
  | cons tag rest =>
      rw [← dropLast_flatMap, List.length_dropLast, List.length_flatMap]
      refine le_trans (Nat.sub_le _ _) ?_
      have bounded := List.sum_le_card_nsmul
        ((tag :: rest).map fun tag => (tagMember tag ++ [byte ',']).length)
        (limits.maxTagNameLen + limits.maxTagValueLen + 10) (by
          intro length listed
          obtain ⟨other, member, rfl⟩ := List.mem_map.mp listed
          obtain ⟨name, value⟩ := fits other member
          rw [List.length_append, length_tagMember, List.length_singleton]
          omega)
      rwa [List.length_map, smul_eq_mul] at bounded

/-! ### The bodies of the requests -/

section Bodies

variable {env : ApiEnvironment} {limits : ApiLimits} {answers : ApiAnswers}
variable {client : CurlApiCallbacks} {context : ServiceCallContext}
variable {credentials : AwsCredentials} {info : RequestInfo}

theorem controlPlaneRequest_body {apiPostfix : CString} {paramsJson : Bytes}
    (builds : controlPlaneRequest env client credentials apiPostfix
      paramsJson = .ok info) : info.body = some paramsJson := by
  rw [controlPlaneRequest, bind_eq_ok] at builds
  obtain ⟨url, -, sets⟩ := builds
  rw [(setHeaders_extends sets).same]
  rfl

/-- The text that a call prints into its body, with the size of the buffer. -/
def ApiArguments.printed (env : ApiEnvironment) :
    ApiArguments → Option (Bytes × Nat)
  | createStream parameters => some (parameters, MAX_JSON_PARAMETER_STRING_LEN)
  | describeStream parameters =>
      some (parameters, MAX_JSON_PARAMETER_STRING_LEN)
  | getStreamingEndpoint parameters =>
      some (parameters, MAX_JSON_PARAMETER_STRING_LEN)
  | tagResource parameters =>
      some (parameters, env.maxTagsJsonParameterStringLen)
  | putStream .. => none

theorem ApiArguments.request_body {arguments : ApiArguments} {text : Bytes}
    {size : Nat}
    (builds : arguments.request env client credentials = .ok info)
    (prints : arguments.printed env = some (text, size))
    (fits : text.length < size) : info.body = some text := by
  rw [← snprintf_eq fits]
  cases arguments with
  | putStream => cases prints
  | _ =>
      cases prints
      exact controlPlaneRequest_body builds

/-- The text that a call prints fits into its buffer and says what the call is
given. -/
def PrintsDocument (env : ApiEnvironment) (arguments : ApiArguments)
    (value : JsonValue) : Prop :=
  ∃ text size, arguments.printed env = some (text, size) ∧
    text.length < size ∧ Decodes text value

theorem createStream_prints {deviceName streamName contentType : CString}
    {kmsKeyId : Option CString} {retentionPeriod : Nat} {value : JsonValue}
    (room : limits.LeaveRoom)
    (within : (ApiCall.createStream deviceName streamName contentType kmsKeyId
      retentionPeriod).WithinLimits limits)
    (plain : (ApiCall.createStream deviceName streamName contentType kmsKeyId
      retentionPeriod).PlainStrings)
    (document : (ApiCall.createStream deviceName streamName contentType
      kmsKeyId retentionPeriod).document wholeHours = some value) :
    PrintsDocument env
      (.createStream (createStreamParams deviceName.val streamName.val
        contentType.val (kmsKey limits kmsKeyId)
        (retentionPeriod / HUNDREDS_OF_NANOS_IN_AN_HOUR)))
      value := by
  obtain ⟨device, stream, media, key, uint64⟩ := within
  refine ⟨_, _, rfl, ?_, ?_⟩
  · have printed := length_createStreamParams_le deviceName.val streamName.val
      contentType.val (kmsKey limits kmsKeyId)
      (Nat.lt_of_le_of_lt (Nat.div_le_self _ HUNDREDS_OF_NANOS_IN_AN_HOUR)
        uint64)
    have optional := length_kmsKey_le limits key
    have leavesRoom := room.createStream
    omega
  · cases document
    apply createStreamParams_decodes key
    · exact plain deviceName (by simp [ApiCall.strings])
    · exact plain streamName (by simp [ApiCall.strings])
    · exact plain contentType (by simp [ApiCall.strings])
    · intro id given
      cases given
      exact plain id (by simp [ApiCall.strings])

theorem tagResource_prints {streamArn : CString} {tags : List Tag}
    {value : JsonValue} (room : limits.LeaveRoom)
    (size : env.maxTagsJsonParameterStringLen =
      MAX_TAGS_JSON_PARAMETER_STRING_LEN limits)
    (within : (ApiCall.tagResource streamArn (some tags)).WithinLimits limits)
    (plain : (ApiCall.tagResource streamArn (some tags)).PlainStrings)
    (document : (ApiCall.tagResource streamArn (some tags)).document
      wholeHours = some value) :
    PrintsDocument env
      (.tagResource (tagResourceParams streamArn.val
        ([byte ','].intercalate (tags.map tagMember))))
      value := by
  obtain ⟨arn, listed⟩ := within
  obtain ⟨few, short⟩ := listed tags rfl
  refine ⟨_, _, rfl, ?_, ?_⟩
  · have printed := length_intercalate_tags_le tags short
    have most : tags.length *
        (limits.maxTagNameLen + limits.maxTagValueLen + 10) ≤
        limits.maxTagCount * (limits.maxTagNameLen + limits.maxTagValueLen) +
          10 * limits.maxTagCount := by
      refine (Nat.mul_le_mul_right _ few).trans_eq ?_
      ring
    have leavesRoom := room.tagResource
    rw [length_tagResourceParams, size, MAX_TAGS_JSON_PARAMETER_STRING_LEN]
    omega
  · cases document
    apply tagResourceParams_decodes
    · exact plain streamArn (by simp [ApiCall.strings])
    · intro tag member
      constructor
      · apply plain
        simp only [ApiCall.strings, Option.getD_some, List.mem_cons,
          List.mem_flatMap]
        exact .inr ⟨tag, member, .inl rfl⟩
      · apply plain
        simp only [ApiCall.strings, Option.getD_some, List.mem_cons,
          List.mem_flatMap]
        exact .inr ⟨tag, member, .inr (.inl rfl)⟩

/-- A call prints what it is given. -/
theorem ApiCall.arguments_print {call : ApiCall} {arguments : ApiArguments}
    {value : JsonValue} (room : limits.LeaveRoom)
    (size : env.maxTagsJsonParameterStringLen =
      MAX_TAGS_JSON_PARAMETER_STRING_LEN limits)
    (within : call.WithinLimits limits) (plain : call.PlainStrings)
    (prints : call.arguments env limits answers = .ok arguments)
    (document : call.document wholeHours = some value) :
    PrintsDocument env arguments value := by
  cases call with
  | createStream deviceName streamName contentType kmsKeyId retentionPeriod =>
      cases prints
      exact createStream_prints room within plain document
  | describeStream streamName =>
      cases prints
      refine ⟨_, _, rfl, ?_, ?_⟩
      · have leavesRoom := room.createStream
        have short : streamName.val.length ≤ limits.maxStreamNameLen := within
        rw [length_describeStreamParams]
        omega
      · cases document
        exact describeStreamParams_decodes
          (plain streamName (by simp [strings]))
  | getStreamingEndpoint streamName apiName =>
      cases prints
      obtain ⟨stream, api⟩ := within
      refine ⟨_, _, rfl, ?_, ?_⟩
      · have leavesRoom := room.getStreamingEndpoint
        rw [length_getDataEndpointParams]
        omega
      · cases document
        exact getDataEndpointParams_decodes
          (plain streamName (by simp [strings]))
          (plain apiName (by simp [strings]))
  | tagResource streamArn tags =>
      simp only [ApiCall.arguments, bind_eq_ok, Except.ok.injEq] at prints
      obtain ⟨parameters, printed, rfl⟩ := prints
      obtain ⟨listed, rfl, rfl⟩ := tagResourceParameters_eq_ok printed
      exact tagResource_prints room size within plain document
  | putStream => cases document

theorem ApiCall.perform_body {call : ApiCall} {value : JsonValue}
    (room : limits.LeaveRoom)
    (size : env.maxTagsJsonParameterStringLen =
      MAX_TAGS_JSON_PARAMETER_STRING_LEN limits)
    (within : call.WithinLimits limits) (plain : call.PlainStrings)
    (performs : call.perform env limits answers client context = .ok info)
    (document : call.document wholeHours = some value) :
    ∃ body, info.body = some body ∧ Decodes body value := by
  simp only [ApiCall.perform, bind_eq_ok, checkStatus_eq_ok] at performs
  obtain ⟨arguments, prints, credentials, -, built, builds, _, -, _, -, same⟩ :=
    performs
  cases same
  obtain ⟨text, bufferSize, printed, fits, decodes⟩ :=
    ApiCall.arguments_print room size within plain prints document
  exact ⟨text, ApiArguments.request_body builds printed fits, decodes⟩

end Bodies

/-- The body of the request has the values of the call, and nothing else. -/
def BodyDecodes (hours : Nat → ℚ) (call : ApiCall) (info : RequestInfo) :
    Prop :=
  ∀ value ∈ call.document hours,
    ∃ body ∈ info.body, ∀ other, Decodes body other ↔ other = value

/-- The body of a request is a JSON document with the values that the call is
given, and with the retention in whole hours, if these are within PIC's limits
and have no character that JSON escapes. -/
theorem body_decodes (env : ApiEnvironment) (limits : ApiLimits)
    (answers : ApiAnswers) (client : CurlApiCallbacks)
    (context : ServiceCallContext) (call : ApiCall) (info : RequestInfo)
    (room : limits.LeaveRoom)
    (size : env.maxTagsJsonParameterStringLen =
      MAX_TAGS_JSON_PARAMETER_STRING_LEN limits)
    (within : call.WithinLimits limits) (plain : call.PlainStrings)
    (performs : call.perform env limits answers client context = .ok info) :
    BodyDecodes wholeHours call info := by
  intro value document
  obtain ⟨body, printed, decodes⟩ :=
    ApiCall.perform_body room size within plain performs document
  refine ⟨body, printed, ?_⟩
  intro other
  constructor
  · intro otherDecodes
    exact otherDecodes.unique decodes
  · intro same
    rw [same]
    exact decodes

def sampleJsonEnv : ApiEnvironment :=
  { sampleEnv with
    maxTagsJsonParameterStringLen :=
      MAX_TAGS_JSON_PARAMETER_STRING_LEN sampleLimits
    tagsJson_le := by decide }

theorem sampleLimits_leaveRoom : sampleLimits.LeaveRoom := by
  constructor <;> decide

theorem sample_performs {call : ApiCall} {arguments : ApiArguments}
    {info : RequestInfo}
    (prints : call.arguments sampleJsonEnv sampleLimits sampleAnswers =
      .ok arguments)
    (builds : arguments.request sampleJsonEnv sampleClient sampleCredentials =
      .ok info) :
    call.perform sampleJsonEnv sampleLimits sampleAnswers sampleClient
      sampleContext = .ok info := by
  simp only [ApiCall.perform, prints, ok_bind, validate_sampleContext, builds]
  rfl

def sampleTagging : ApiCall :=
  .tagResource ⟨bytes "arn:aws:kinesisvideo", by decide⟩
    (some [⟨⟨bytes "room", by decide⟩, ⟨bytes "12", by decide⟩⟩,
      ⟨⟨bytes "door", by decide⟩, ⟨bytes "front", by decide⟩⟩])

theorem body_decodes_sample :
    ∃ info, sampleTagging.perform sampleJsonEnv sampleLimits sampleAnswers
        sampleClient sampleContext = .ok info ∧
      BodyDecodes wholeHours sampleTagging info := by
  obtain ⟨info, performs⟩ : ∃ info, sampleTagging.perform sampleJsonEnv
      sampleLimits sampleAnswers sampleClient sampleContext = .ok info :=
    ⟨_, sample_performs rfl rfl⟩
  have within : sampleTagging.WithinLimits sampleLimits := by
    refine ⟨by decide, ?_⟩
    intro listed given
    cases given
    decide +kernel
  have plain : sampleTagging.PlainStrings := by
    unfold ApiCall.PlainStrings
    decide +kernel
  exact ⟨info, performs, body_decodes sampleJsonEnv sampleLimits sampleAnswers
    sampleClient sampleContext sampleTagging info sampleLimits_leaveRoom rfl
    within plain performs⟩

/-- The quotes in the name of a stream make two members of it. -/
def quotedName : CString := ⟨bytes "a\",\n\t\"APIName\": \"b", by decide⟩

theorem quotedName_decodes :
    Decodes (describeStreamParams quotedName.val)
      (.object [(bytes "StreamName", .string (bytes "a")),
        (bytes "APIName", .string (bytes "b"))]) := by
  have text : describeStreamParams quotedName.val =
      getDataEndpointParams (bytes "a") (bytes "b") := by
    decide +kernel
  rw [text]
  exact getDataEndpointParams_decodes (by decide +kernel) (by decide +kernel)

def sampleCreation : ApiCall :=
  .createStream ⟨bytes "device", by decide⟩ sampleStreamName
    ⟨bytes "video/h264", by decide⟩ none 54000000000

/-- A string with quotes is not what the body says, and neither is a retention
that is not in whole hours. -/
theorem not_body_decodes :
    (¬ ∀ (env : ApiEnvironment) (limits : ApiLimits) (answers : ApiAnswers)
        (client : CurlApiCallbacks) (context : ServiceCallContext)
        (call : ApiCall) (info : RequestInfo),
      limits.LeaveRoom →
      env.maxTagsJsonParameterStringLen =
        MAX_TAGS_JSON_PARAMETER_STRING_LEN limits →
      call.WithinLimits limits →
      call.perform env limits answers client context = .ok info →
      BodyDecodes wholeHours call info) ∧
    ¬ ∀ (env : ApiEnvironment) (limits : ApiLimits) (answers : ApiAnswers)
        (client : CurlApiCallbacks) (context : ServiceCallContext)
        (call : ApiCall) (info : RequestInfo),
      limits.LeaveRoom →
      env.maxTagsJsonParameterStringLen =
        MAX_TAGS_JSON_PARAMETER_STRING_LEN limits →
      call.WithinLimits limits → call.PlainStrings →
      call.perform env limits answers client context = .ok info →
      BodyDecodes exactHours call info := by
  constructor
  · intro claim
    obtain ⟨info, builds⟩ : ∃ info, (ApiArguments.describeStream
        (describeStreamParams quotedName.val)).request sampleJsonEnv
          sampleClient sampleCredentials = .ok info := ⟨_, rfl⟩
    have performs := @sample_performs (.describeStream quotedName) _ info rfl
      builds
    have within : (ApiCall.describeStream quotedName).WithinLimits
        sampleLimits := by
      unfold ApiCall.WithinLimits
      decide +kernel
    obtain ⟨body, printed, only⟩ := claim _ _ _ _ _ _ _ sampleLimits_leaveRoom
      rfl within performs _ rfl
    have fits : (describeStreamParams quotedName.val).length <
        MAX_JSON_PARAMETER_STRING_LEN := by
      decide +kernel
    rw [ApiArguments.request_body builds rfl fits, Option.mem_some_iff]
      at printed
    have other := (only _).mp (printed ▸ quotedName_decodes)
    simp at other
  · intro claim
    obtain ⟨info, performs⟩ : ∃ info, sampleCreation.perform sampleJsonEnv
        sampleLimits sampleAnswers sampleClient sampleContext = .ok info :=
      ⟨_, sample_performs rfl rfl⟩
    have within : sampleCreation.WithinLimits sampleLimits := by
      refine ⟨by decide, by decide, by decide, ?_, by decide⟩
      intro id given
      cases given
    have plain : sampleCreation.PlainStrings := by
      unfold ApiCall.PlainStrings
      decide +kernel
    obtain ⟨body, printed, only⟩ := claim _ _ _ _ _ _ _ sampleLimits_leaveRoom
      rfl within plain performs _ rfl
    obtain ⟨text, isBody, decodes⟩ := ApiCall.perform_body
      sampleLimits_leaveRoom rfl within plain performs rfl
    rw [isBody, Option.mem_some_iff] at printed
    have same := (only _).mp (printed ▸ decodes)
    have hours : wholeHours 54000000000 = exactHours 54000000000 := by
      simpa using same
    norm_num [wholeHours, exactHours, HUNDREDS_OF_NANOS_IN_AN_HOUR] at hours

end Common

end KvsProducer
