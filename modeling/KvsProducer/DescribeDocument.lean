import KvsProducer.CreateStream
import KvsProducer.DescribeStream

/-!
# A document as the response of describeStream

A document in which the names of the fields are not ambiguous, and stand in the
object `StreamInfo` if they stand anywhere, is reported field by field, whatever
else it says and in whatever order.
-/

namespace KvsProducer

open Common

/-- The word that a value is. -/
def JsonTree.word? : JsonTree → Option Bytes
  | .primitive text _ => some text
  | .string .. => none
  | .bracket .. => none
  | .padded _ _ tree _ _ => tree.word?

theorem JsonTree.tokens_of_string {js : Bytes} (tree : JsonTree) {pos : Nat}
    {behind text : Bytes} (isString : tree.string? = some text)
    (here : js.drop pos = tree.text ++ behind) :
    ∃ val, tree.tokens pos = [val] ∧ val.spelling js = some text := by
  cases tree with
  | primitive text grammar => cases isString
  | string text grammar =>
      cases isString
      exact ⟨_, rfl, spelling_stringToken here⟩
  | bracket kind entries => cases isString
  | padded before blankBefore tree after blankAfter =>
      have inner : js.drop (pos + before.length) =
          tree.text ++ (after ++ behind) :=
        drop_behind (by simpa [JsonTree.text] using here)
      exact tree.tokens_of_string isString inner

theorem JsonTree.tokens_of_word {js : Bytes} (tree : JsonTree) {pos : Nat}
    {behind digits : Bytes} (isWord : tree.word? = some digits)
    (here : js.drop pos = tree.text ++ behind) :
    ∃ val, tree.tokens pos = [val] ∧ val.text js = digits := by
  cases tree with
  | primitive text grammar =>
      cases isWord
      exact ⟨_, rfl, text_of_drop here _ _⟩
  | string text grammar => cases isWord
  | bracket kind entries => cases isWord
  | padded before blankBefore tree after blankAfter =>
      have inner : js.drop (pos + before.length) =
          tree.text ++ (after ++ behind) :=
        drop_behind (by simpa [JsonTree.text] using here)
      exact tree.tokens_of_word isWord inner

/-- A field that the object gives, in a form that is accepted, or that the
document does not name at all. -/
def GivesField (tree info : JsonTree) (key : DescribeKey)
    (accepts : Option (JsonTree → Prop)) : Prop :=
  match accepts with
  | none => tree.strings.count key.name = 0
  | some accepts => ∃ value, (key.name, value) ∈ info.members ∧
      tree.strings.count key.name = 1 ∧ accepts value

/-- What a response says about a stream: the fields that it gives. -/
structure DescribedStream where
  text : TextField → Option Bytes
  status : Option StreamStatus
  hours : Option Nat

/-- The document is a response that says this. -/
structure DescribesStream (pic : DescribeEnv) (tree info : JsonTree)
    (said : DescribedStream) : Prop where
  response : tree.Response
  names : tree.Names (bytes "StreamInfo") info
  isObject : info.isObject = true
  text : ∀ field, GivesField tree info (.text field)
    ((said.text field).map fun text value =>
      value.string? = some text ∧ text.length ≤ field.maxLen pic.limits)
  status : GivesField tree info .status
    (said.status.map fun status value => value.string? = some status.name)
  retention : GivesField tree info .retention
    (said.hours.map fun hours value => ∃ digits,
      value.word? = some digits ∧ pic.strToUI64 digits = .ok hours)
  creationTime : tree.strings.count (DescribeKey.name .creationTime) = 0 ∨
    ∃ value, (DescribeKey.name .creationTime, value) ∈ info.members ∧
      tree.strings.count (DescribeKey.name .creationTime) = 1

theorem DescribeKey.mem_all (key : DescribeKey) : key ∈ DescribeKey.all := by
  cases key with
  | text field => cases field <;> decide
  | status => decide
  | retention => decide
  | creationTime => decide

theorem DescribeKey.nodup_names :
    (DescribeKey.all.map DescribeKey.name).Nodup := by
  decide +kernel

theorem DescribeKey.name_injective : Function.Injective DescribeKey.name :=
  fun first second same => List.inj_on_of_nodup_map DescribeKey.nodup_names
    first.mem_all second.mem_all same

theorem describeSpelled_iff {js : Bytes} {token : JsmnTok} {key : DescribeKey}
    (within : token.Within js) :
    DescribeKey.spelled js token = some key ↔
      token.spelling js = some key.name :=
  find?_spells_iff DescribeKey.name_injective key.mem_all within

theorem enterStreamInfo_append {js : Bytes} {front rest : List JsmnTok}
    {key : JsmnTok} {index : Nat}
    (none : ∀ token ∈ front,
      compareJsonString js token .string (bytes "StreamInfo") = false)
    (spells : compareJsonString js key .string (bytes "StreamInfo") = true) :
    ∃ read next, enterStreamInfo js index (front ++ key :: rest) =
      (read, some (next, rest.tail)) := by
  induction front generalizing index with
  | nil => exact ⟨_, _, by rw [List.nil_append, enterStreamInfo, if_pos spells]⟩
  | cons token front induction =>
      obtain ⟨read, next, enters⟩ := @induction (index + 1)
        fun other listed => none other (List.mem_cons_of_mem _ listed)
      have first := none token List.mem_cons_self
      refine ⟨index :: read, next, ?_⟩
      rw [List.cons_append, enterStreamInfo, first, enters]
      rfl

section Document

variable {pic : DescribeEnv} {tree info : JsonTree} {said : DescribedStream}

/-- The tokens of the object `StreamInfo` among those of the response. -/
structure InfoTokens (tree info : JsonTree) (front : List JsmnTok)
    (root : JsmnTok) (rest back : List JsmnTok) (place : Nat) : Prop where
  parts : tree.tokens 0 = front ++ (root :: rest ++ back)
  tokens : info.tokens place = root :: rest
  type : root.type = .object
  here : ∃ behind, tree.text.drop place = info.text ++ behind
  behind : behindStreamInfo tree.text = some (rest ++ back)
  enters : EntersStreamInfo tree.text

theorem DescribesStream.infoTokens
    (describes : DescribesStream pic tree info said) :
    ∃ front root rest back place, InfoTokens tree info front root rest back
      place := by
  have response := describes.response
  obtain ⟨front, key, place, back, only⟩ :=
    describes.names.onlyMember (JsonTree.Response.here tree)
  obtain ⟨first, behindFirst, before, tokens, isObject, early⟩ :=
    response.behind_root only
  obtain ⟨root, rest, infoTokens, type⟩ :=
    JsonTree.Response.root info describes.isObject place
  have parts := only.has.parts
  have within (token : JsmnTok) (listed : token ∈ tree.tokens 0) :=
    response.within token listed
  have object : objectTokens tree.text = tree.tokens 0 := by
    rw [objectTokens, response.parses, tokens]
    simp [isObject]
  have spells : compareJsonString tree.text key .string
      (bytes "StreamInfo") = true :=
    (compareJsonString_iff (within key (by simp [parts]))).mpr only.has.name
  have tail : (objectTokens tree.text).tail =
      before ++ key :: (info.tokens place ++ back) := by
    rw [object, parts, early]
    rfl
  have none : ∀ token ∈ before, compareJsonString tree.text token .string
      (bytes "StreamInfo") = false := by
    intro token listed
    rw [← Bool.not_eq_true, compareJsonString_iff (within token (by
      simp [parts, early, listed]))]
    exact only.before token (by simp [early, listed])
  obtain ⟨read, next, enters⟩ := @enterStreamInfo_append tree.text before
    (info.tokens place ++ back) key 1 none spells
  refine ⟨front ++ [key], root, rest, back, place, ?_, infoTokens, type,
    only.has.value, ?_, key, ?_, spells⟩
  · rw [parts, infoTokens]
    simp
  · rw [behindStreamInfo, tail, enters, infoTokens]
    rfl
  · rw [tail]
    simp

theorem DescribesStream.gives (describes : DescribesStream pic tree info said)
    (key : DescribeKey) : tree.strings.count key.name = 0 ∨
      ∃ value, (key.name, value) ∈ info.members ∧
        tree.strings.count key.name = 1 := by
  have given {key : DescribeKey} {accepts : Option (JsonTree → Prop)}
      (gives : GivesField tree info key accepts) :
      tree.strings.count key.name = 0 ∨
        ∃ value, (key.name, value) ∈ info.members ∧
          tree.strings.count key.name = 1 := by
    cases accepts with
    | none => exact Or.inl gives
    | some accepts =>
        obtain ⟨value, member, once, -⟩ := gives
        exact Or.inr ⟨value, member, once⟩
  cases key with
  | text field => exact given (describes.text field)
  | status => exact given describes.status
  | retention => exact given describes.retention
  | creationTime => exact describes.creationTime

theorem DescribesStream.unambiguous
    (describes : DescribesStream pic tree info said) :
    tree.Unambiguous (DescribeKey.all.map DescribeKey.name) := by
  intro name isName
  obtain ⟨key, -, rfl⟩ := List.mem_map.mp isName
  rcases describes.gives key with absent | ⟨value, member, once⟩
  · exact Or.inl absent
  · exact Or.inr ⟨value, tree.members_of_member describes.names.member member,
      once⟩

theorem DescribesStream.separated
    (describes : DescribesStream pic tree info said) :
    KeyScan.Separated (describeReader pic tree.text) (tree.tokens 0) := by
  apply describes.unambiguous.separated (JsonTree.Response.here tree)
  intro token listed isKey
  obtain ⟨key, spelled⟩ := Option.ne_none_iff_exists'.mp isKey
  exact ⟨key.name, List.mem_map_of_mem key.mem_all,
    (describeSpelled_iff (describes.response.within token listed)).mp spelled⟩

/-- A name that the document does not contain is not found. -/
theorem DescribesStream.valuesOf_none
    (describes : DescribesStream pic tree info said) {key : DescribeKey}
    (absent : tree.strings.count key.name = 0) :
    valuesOf key (describedValues pic tree.text) = [] := by
  obtain ⟨front, root, rest, back, place, tokens⟩ := describes.infoTokens
  have separated := describes.separated
  have parts : tree.tokens 0 = (front ++ [root]) ++ (rest ++ back) := by
    rw [tokens.parts]
    simp
  have spelt := tree.spellings (JsonTree.Response.here tree)
  rw [← spelt] at absent
  have none := spelling_ne_of_count absent
  rw [parts] at separated
  have unfound := @KeyScan.filter_adjacent_none _ _ _ _
    (describeReader pic tree.text) (rest ++ back)
    (fun other => decide (other = key)) (by
      intro token listed other isKey
      rw [decide_eq_false_iff_not]
      intro same
      subst same
      have inTree : token ∈ tree.tokens 0 := by
        rw [parts, List.mem_append]
        exact Or.inr listed
      exact none token inTree ((describeSpelled_iff
        (describes.response.within token inTree)).mp isKey))
  rw [valuesOf, describedValues, tokens.behind, Option.getD_some,
    KeyScan.pairs_of_separated separated.of_append, unfound]
  rfl

/-- A field of the object is found once, with its value. -/
theorem DescribesStream.valuesOf_some
    (describes : DescribesStream pic tree info said) {key : DescribeKey}
    {value : JsonTree} (member : (key.name, value) ∈ info.members)
    (once : tree.strings.count key.name = 1)
    (reads : key ≠ .creationTime) :
    ∃ val more at_, val ∈ tree.tokens 0 ∧ value.tokens at_ = val :: more ∧
      (∃ behind, tree.text.drop at_ = value.text ++ behind) ∧
      valuesOf key (describedValues pic tree.text) = [some val] := by
  obtain ⟨front, root, rest, back, place, tokens⟩ := describes.infoTokens
  obtain ⟨behind, here⟩ := tokens.here
  obtain ⟨before, token, at_, after, has⟩ := info.hasMember here member
  have inTree := has.append front back
  rw [tokens.tokens, ← tokens.parts] at inTree
  have only := inTree.only (JsonTree.Response.here tree) once
  have separated := describes.separated
  have parts : tree.tokens 0 = (front ++ [root]) ++ (rest ++ back) := by
    rw [tokens.parts]
    simp
  have within (token : JsmnTok) (listed : token ∈ tree.tokens 0) :=
    describes.response.within token listed
  have spelled := (describeSpelled_iff (within token (by
    simp [only.has.parts]))).mpr only.has.name
  have early : ∃ inner, front ++ before = (front ++ [root]) ++ inner := by
    have same := has.parts
    rw [tokens.tokens] at same
    cases before with
    | nil =>
        rw [List.nil_append, List.cons.injEq] at same
        have name := has.name
        rw [← same.1, JsmnTok.spelling, tokens.type] at name
        cases name
    | cons first before =>
        rw [List.cons_append, List.cons.injEq] at same
        exact ⟨before, by simp [same.1]⟩
  obtain ⟨inner, early⟩ := early
  rw [parts] at separated
  obtain ⟨val, listed, -, valueTokens, found⟩ := @OnlyMember.found _ _ _
    (describeReader pic tree.text) _ _ _ _ _ _ (rest ++ back) _ inner _ _ key
    (fun other => decide (other = key)) only separated.of_append parts early
    (by
      intro other listed named isKey same
      rw [← of_decide_eq_true same]
      exact (describeSpelled_iff (within other (by
        rw [parts, List.mem_append]
        exact Or.inr listed))).mp isKey)
    spelled (bne_iff_ne.mpr reads) (by simp)
  refine ⟨val, _, at_, ?_, valueTokens, has.value, ?_⟩
  · rw [parts, List.mem_append]
    exact Or.inr listed
  · rw [valuesOf, describedValues, tokens.behind, Option.getD_some, found]
    rfl

theorem DescribesStream.read_string
    (describes : DescribesStream pic tree info said) {key : DescribeKey}
    {value : JsonTree} {text : Bytes}
    (member : (key.name, value) ∈ info.members)
    (once : tree.strings.count key.name = 1) (reads : key ≠ .creationTime)
    (isString : value.string? = some text) :
    ∃ val, valuesOf key (describedValues pic tree.text) = [some val] ∧
      pic.valueLength (some val) = text.length ∧
      pic.valueText tree.text (some val) = text ∧ NUL ∉ text := by
  obtain ⟨val, more, at_, inTree, valueTokens, ⟨behind, here⟩, found⟩ :=
    describes.valuesOf_some member once reads
  obtain ⟨single, tokens, spells⟩ := value.tokens_of_string isString here
  rw [tokens, List.cons.injEq] at valueTokens
  obtain ⟨rfl, -⟩ := valueTokens
  have within := describes.response.within single inTree
  have valText := JsonTree.Response.text_of_spelling spells
  obtain ⟨length, copied⟩ := copied_of_within within describes.response.lt_wrap
  rw [valText] at length copied
  refine ⟨single, found, length, valText, ?_⟩
  rw [← copied, JsmnTok.copied]
  intro nul
  have passes := List.mem_takeWhile_imp nul
  simp [NUL] at passes

theorem DescribesStream.read_word
    (describes : DescribesStream pic tree info said) {key : DescribeKey}
    {value : JsonTree} {digits : Bytes}
    (member : (key.name, value) ∈ info.members)
    (once : tree.strings.count key.name = 1) (reads : key ≠ .creationTime)
    (isWord : value.word? = some digits) :
    ∃ val, valuesOf key (describedValues pic tree.text) = [some val] ∧
      pic.valueText tree.text (some val) = digits := by
  obtain ⟨val, more, at_, inTree, valueTokens, ⟨behind, here⟩, found⟩ :=
    describes.valuesOf_some member once reads
  obtain ⟨single, tokens, text⟩ := value.tokens_of_word isWord here
  rw [tokens, List.cons.injEq] at valueTokens
  obtain ⟨rfl, -⟩ := valueTokens
  exact ⟨single, found, text⟩

/-- A string that fits is copied into an empty field as it is. -/
theorem strncpyField_of_fits {maxLen : Nat} {text : Bytes}
    (plain : NUL ∉ text) (short : text.length ≤ maxLen) :
    strncpyField maxLen text.length [] text = text := by
  have noNul : ∀ c ∈ text, (c != NUL) = true := by
    intro c listed
    rw [bne_iff_ne]
    intro nul
    exact plain (nul ▸ listed)
  rw [strncpyField, List.take_length, List.takeWhile_eq_self_iff.mpr noNul]
  simp [List.take_of_length_le short]

theorem getStreamStatusFromString_of_name (status : StreamStatus) :
    getStreamStatusFromString status.name status.name.length = status := by
  cases status <;> decide

theorem DescribesStream.text_read
    (describes : DescribesStream pic tree info said) (field : TextField) :
    copiedOver pic tree.text field []
        (valuesOf (.text field) (describedValues pic tree.text)) =
      (said.text field).getD [] ∧
    ∀ value ∈ valuesOf (.text field) (describedValues pic tree.text),
      pic.admits tree.text (.text field) value = true := by
  have gives := describes.text field
  cases given : said.text field with
  | none =>
      rw [given] at gives
      rw [describes.valuesOf_none gives]
      exact ⟨rfl, by simp⟩
  | some text =>
      rw [given] at gives
      obtain ⟨value, member, once, isString, short⟩ := gives
      obtain ⟨val, found, length, copied, plain⟩ :=
        describes.read_string member once (by simp) isString
      rw [found]
      constructor
      · simp only [copiedOver, List.foldl_cons, List.foldl_nil, length, copied,
          Option.getD_some]
        exact strncpyField_of_fits plain short
      · intro other listed
        rw [List.mem_singleton] at listed
        subst listed
        simpa [DescribeEnv.admits, length] using short

theorem DescribesStream.status_read
    (describes : DescribesStream pic tree info said) :
    (valuesOf .status (describedValues pic tree.text)).getLast?.map
        (statusRead pic tree.text) = said.status ∧
    ∀ value ∈ valuesOf .status (describedValues pic tree.text),
      pic.admits tree.text .status value = true := by
  have gives := describes.status
  cases given : said.status with
  | none =>
      rw [given] at gives
      rw [describes.valuesOf_none gives]
      exact ⟨rfl, by simp⟩
  | some status =>
      rw [given] at gives
      obtain ⟨value, member, once, isString⟩ := gives
      obtain ⟨val, found, length, copied, -⟩ :=
        describes.read_string member once (by simp) isString
      rw [found]
      constructor
      · simp only [List.getLast?_singleton, Option.map_some, statusRead, length,
          copied, getStreamStatusFromString_of_name]
      · intro other listed
        rw [List.mem_singleton] at listed
        subst listed
        have short : status.name.length ≤ MAX_DESCRIBE_STREAM_STATUS_LEN := by
          cases status <;> decide
        simpa [DescribeEnv.admits, length] using short

theorem DescribesStream.retention_read
    (describes : DescribesStream pic tree info said) :
    ((valuesOf .retention (describedValues pic tree.text)).getLast?.map
        (retentionRead pic tree.text)).getD 0 =
      said.hours.getD 0 * HUNDREDS_OF_NANOS_IN_AN_HOUR % 2 ^ 64 ∧
    ∀ value ∈ valuesOf .retention (describedValues pic tree.text),
      pic.admits tree.text .retention value = true := by
  have gives := describes.retention
  cases given : said.hours with
  | none =>
      rw [given] at gives
      rw [describes.valuesOf_none gives, Option.getD_none, Nat.zero_mul,
        Nat.zero_mod]
      exact ⟨rfl, by simp⟩
  | some hours =>
      rw [given] at gives
      obtain ⟨value, member, once, digits, isWord, reads⟩ := gives
      obtain ⟨val, found, text⟩ :=
        describes.read_word member once (by simp) isWord
      have read : hoursRead pic tree.text (some val) = hours := by
        rw [hoursRead, text, reads]
        rfl
      rw [found]
      constructor
      · rw [List.getLast?_singleton, Option.map_some, Option.getD_some,
          Option.getD_some, retentionRead, read]
      · intro other listed
        rw [List.mem_singleton] at listed
        subst listed
        simp [DescribeEnv.admits, text, reads, Except.isOk, Except.toBool]

end Document

theorem DescribeKey.plain_name (key : DescribeKey) :
    JsonValue.Plain key.name := by
  cases key with
  | text field => cases field <;> decide +kernel
  | status => decide +kernel
  | retention => decide +kernel
  | creationTime => decide +kernel

/-- The strings and words of the sample. -/
structure SampleTexts : Prop where
  info : JsonValue.Plain (bytes "StreamInfo")
  status : JsonValue.Plain StreamStatus.active.name
  name : JsonValue.Plain (bytes "cam")
  hours : PrimitiveText (bytes "24")
  time : PrimitiveText (bytes "1.5E9")

theorem sampleTexts : SampleTexts := by
  constructor <;> decide +kernel

def sampleStatusValue : JsonTree :=
  .string StreamStatus.active.name (.of_plain sampleTexts.status)

def sampleStreamNameValue : JsonTree :=
  .string (bytes "cam") (.of_plain sampleTexts.name)

def sampleHoursValue : JsonTree :=
  .primitive (bytes "24") sampleTexts.hours

def sampleTimeValue : JsonTree :=
  .primitive (bytes "1.5E9") sampleTexts.time

/-- A member of the object. -/
def describeMember (key : DescribeKey) (value : JsonTree)
    (rest : JsonEntries) : JsonEntries :=
  .member (.ofPlain key.plain_name) value rest

def sampleStreamInfo : JsonTree :=
  .bracket .object (describeMember .retention sampleHoursValue
    (describeMember .status sampleStatusValue
      (describeMember .creationTime sampleTimeValue
        (describeMember (.text .streamName) sampleStreamNameValue .nothing))))

def sampleDescription : JsonTree :=
  .bracket .object
    (.member (.ofPlain sampleTexts.info) sampleStreamInfo .nothing)

def sampleDescribedStream : DescribedStream where
  text field := if field = .streamName then some (bytes "cam") else none
  status := some .active
  hours := some 24

theorem members_sampleStreamInfo : sampleStreamInfo.members =
    [(DescribeKey.name .retention, sampleHoursValue),
      (DescribeKey.name .status, sampleStatusValue),
      (DescribeKey.name .creationTime, sampleTimeValue),
      (DescribeKey.name (.text .streamName), sampleStreamNameValue)] :=
  rfl

theorem text_sampleDescription (field : TextField) :
    GivesField sampleDescription sampleStreamInfo (.text field)
      ((sampleDescribedStream.text field).map fun text value =>
        value.string? = some text ∧
          text.length ≤ field.maxLen sampleDescribeEnv.limits) := by
  by_cases isName : field = .streamName
  · subst isName
    refine ⟨sampleStreamNameValue, ?_, by decide +kernel, rfl,
      by decide +kernel⟩
    rw [members_sampleStreamInfo]
    simp
  · have unsaid : sampleDescribedStream.text field = none := if_neg isName
    rw [unsaid]
    change sampleDescription.strings.count field.name = 0
    cases field with
    | streamName => exact absurd rfl isName
    | _ => decide +kernel

theorem describesStream_sample :
    DescribesStream sampleDescribeEnv sampleDescription sampleStreamInfo
      sampleDescribedStream where
  response :=
    { isObject := rfl
      few := by decide +kernel
      short := by decide +kernel }
  names :=
    { member := List.mem_cons_self
      once := by decide +kernel }
  isObject := rfl
  text := text_sampleDescription
  status := by
    refine ⟨sampleStatusValue, ?_, by decide +kernel, rfl⟩
    rw [members_sampleStreamInfo]
    simp
  retention := by
    refine ⟨sampleHoursValue, ?_, by decide +kernel, bytes "24", rfl,
      by decide +kernel⟩
    rw [members_sampleStreamInfo]
    simp
  creationTime := by
    refine Or.inr ⟨sampleTimeValue, ?_, by decide +kernel⟩
    rw [members_sampleStreamInfo]
    simp

/-- The answer to a call with this document. -/
def answeredWithDescription : HandlerEnv :=
  .answered
    { result := .ok
      responseCode := HTTP_STATUS_CODE_OK
      responseData := sampleDescription.text }

theorem reportsOk_answeredWithDescription : ReportsOk answeredWithDescription :=
  ⟨rfl, rfl, Nat.lt_succ_self 3, rfl, rfl⟩

end KvsProducer
