import KvsProducer.Common.Text
import KvsProducer.JsonMembers
import KvsProducer.Lib.KeyScan

/-!
# The response of describeStream

`describeStreamCurlHandler` as a function of what its environment answers.  The
loop over the tokens looks for the string `StreamInfo`, and from the second
token behind it on for the names of the fields, in whatever object they are.
-/

namespace KvsProducer

open Common

/-! ### Statuses -/

inductive StreamStatus where
  | active | creating | updating | deleting
  deriving DecidableEq, Repr

def StreamStatus.name : StreamStatus → Bytes
  | .active => bytes "ACTIVE"
  | .creating => bytes "CREATING"
  | .updating => bytes "UPDATING"
  | .deleting => bytes "DELETING"

/-- `0 == STRNCMP(first, second, length)`, where both strings end in NUL -/
def strncmpEqual : (first second : Bytes) → (length : Nat) → Bool
  | _, _, 0 => true
  | first, second, length + 1 =>
      first.headD NUL == second.headD NUL &&
        (first.headD NUL == NUL ||
          strncmpEqual first.tail second.tail length)

def getStreamStatusFromString (status : Bytes) (length : Nat) : StreamStatus :=
  if strncmpEqual StreamStatus.active.name status length then .active
  else if strncmpEqual StreamStatus.creating.name status length then .creating
  else if strncmpEqual StreamStatus.updating.name status length then .updating
  else .deleting

/-! ### The fields -/

/-- The fields of `StreamDescription` that are strings. -/
inductive TextField where
  | deviceName | contentType | kmsKeyId | streamArn | streamName | updateVersion
  deriving DecidableEq, Repr

def TextField.name : TextField → Bytes
  | .deviceName => bytes "DeviceName"
  | .contentType => bytes "MediaType"
  | .kmsKeyId => bytes "KmsKeyId"
  | .streamArn => bytes "StreamARN"
  | .streamName => bytes "StreamName"
  | .updateVersion => bytes "Version"

/-- PIC's limits on the lengths of the strings. -/
structure DescriptionLimits where
  maxDeviceNameLen : Nat
  maxContentTypeLen : Nat
  maxArnLen : Nat
  maxStreamNameLen : Nat
  maxUpdateVersionLen : Nat
  deriving Repr

def TextField.maxLen (limits : DescriptionLimits) : TextField → Nat
  | .deviceName => limits.maxDeviceNameLen
  | .contentType => limits.maxContentTypeLen
  | .kmsKeyId => limits.maxArnLen
  | .streamArn => limits.maxArnLen
  | .streamName => limits.maxStreamNameLen
  | .updateVersion => limits.maxUpdateVersionLen

def MAX_DESCRIBE_STREAM_STATUS_LEN : Nat := 32

def HUNDREDS_OF_NANOS_IN_AN_HOUR : Nat := 36000000000

/-- The names that a token is compared with. -/
inductive DescribeKey where
  | text (field : TextField)
  | status
  | retention
  | creationTime
  deriving DecidableEq, Repr

namespace DescribeKey

def name : DescribeKey → Bytes
  | .text field => field.name
  | .status => bytes "Status"
  | .retention => bytes "DataRetentionInHours"
  | .creationTime => bytes "CreationTime"

/-- The names in the order of the comparisons. -/
def all : List DescribeKey :=
  [.text .deviceName, .text .contentType, .text .kmsKeyId, .text .streamArn,
    .text .streamName, .text .updateVersion, .status, .retention,
    .creationTime]

/-- The name that a token spells. -/
def spelled (js : Bytes) (token : JsmnTok) : Option DescribeKey :=
  all.find? fun key => compareJsonString js token .string key.name

end DescribeKey

/-- `StreamDescription`: the strings up to their NULs, and the status unless it
is still the zero that `MEMSET` has put there. -/
structure StreamDescription where
  version : Nat
  text : TextField → Bytes
  streamStatus : Option StreamStatus
  retention : Nat

def StreamDescription.zero : StreamDescription :=
  { version := 0
    text := fun _ => []
    streamStatus := none
    retention := 0 }

/-- What the handler uses of PIC, and what it finds in memory: behind the tokens
that have been filled, and in the description before it is cleared.  `STRTOUI64`
reads the number that the bytes between two pointers spell. -/
structure DescribeEnv where
  limits : DescriptionLimits
  currentVersion : Nat
  strToUI64 : Bytes → Except Nat Nat
  beyond : SizedString
  uninitialised : StreamDescription

/-! ### The loop -/

section Loop

variable (env : DescribeEnv) (js : Bytes)

/-- The length of the token behind a name, `none` being one that has not been
filled. -/
def DescribeEnv.valueLength : Option JsmnTok → Nat
  | none => env.beyond.length
  | some value => value.strLen

/-- The bytes from its start to its end. -/
def DescribeEnv.valueText : Option JsmnTok → Bytes
  | none => env.beyond.text.take env.beyond.length
  | some value => value.text js

/-- What a string field holds after `STRNCPY` of `length` bytes, which appends
no NUL of its own, and after its last byte has been set to NUL. -/
def strncpyField (maxLen length : Nat) (buffer source : Bytes) : Bytes :=
  let copied := (source.take length).takeWhile (· != NUL)
  (if copied.length < length then copied
    else copied ++ buffer.drop length).take maxLen

/-- The value of a name that is not `CreationTime`. -/
def useDescribeKey (description : StreamDescription) (key : DescribeKey)
    (value : Option JsmnTok) :
    KeyScan.Step StreamDescription (Status × StreamDescription) :=
  let length := env.valueLength value
  match key with
  | .text field =>
      if length ≤ field.maxLen env.limits then
        .next
          { description with
            text := Function.update description.text field
              (strncpyField (field.maxLen env.limits) length
                (description.text field) (env.valueText js value)) }
      else .leave (.invalidApiCallReturnJson, description)
  | .status =>
      if length ≤ MAX_DESCRIBE_STREAM_STATUS_LEN then
        .next
          { description with
            streamStatus := some
              (getStreamStatusFromString (env.valueText js value) length) }
      else .leave (.invalidApiCallReturnJson, description)
  | .retention =>
      match env.strToUI64 (env.valueText js value) with
      | .ok hours =>
          .next
            { description with
              retention := hours * HUNDREDS_OF_NANOS_IN_AN_HOUR % 2 ^ 64 }
      | .error code => .leave (.other code, description)
  | .creationTime => .next description

/-- The value passes the check that is made of it. -/
def DescribeEnv.admits (key : DescribeKey) (value : Option JsmnTok) : Bool :=
  match key with
  | .text field => env.valueLength value ≤ field.maxLen env.limits
  | .status => env.valueLength value ≤ MAX_DESCRIBE_STREAM_STATUS_LEN
  | .retention => (env.strToUI64 (env.valueText js value)).isOk
  | .creationTime => true

theorem useDescribeKey_leaves (description : StreamDescription)
    (key : DescribeKey) (value : Option JsmnTok) :
    (∃ exit, useDescribeKey env js description key value = .leave exit) ↔
      env.admits js key value = false := by
  cases key with
  | text field =>
      by_cases short : env.valueLength value ≤ field.maxLen env.limits <;>
        simp [useDescribeKey, DescribeEnv.admits, short]
  | status =>
      by_cases short :
          env.valueLength value ≤ MAX_DESCRIBE_STREAM_STATUS_LEN <;>
        simp [useDescribeKey, DescribeEnv.admits, short]
  | retention =>
      cases read : env.strToUI64 (env.valueText js value) <;>
        simp [useDescribeKey, DescribeEnv.admits, read, Except.isOk,
          Except.toBool]
  | creationTime => simp [useDescribeKey, DescribeEnv.admits]

/-- The branches of the loop where `jsonInStreamDescription` is set. -/
def describeReader : KeyScan.Reader JsmnTok DescribeKey StreamDescription
    (Status × StreamDescription) where
  key := DescribeKey.spelled js
  reads key := key != .creationTime
  use := useDescribeKey env js
  leaves key value := !env.admits js key (some value)
  use_leaves description key value := by
    rw [useDescribeKey_leaves, Bool.not_eq_true']

/-- The rounds of the loop up to the one that sets `jsonInStreamDescription`:
the indexes that they read, and where the next round goes on. -/
def enterStreamInfo (js : Bytes) :
    (index : Nat) → List JsmnTok → List Nat × Option (Nat × List JsmnTok)
  | _, [] => ([], none)
  | index, token :: rest =>
      if compareJsonString js token .string (bytes "StreamInfo") then
        ([index], some (index + 2, rest.tail))
      else
        let (read, entered) := enterStreamInfo js (index + 1) rest
        (index :: read, entered)

/-- What the code between the last look at `terminating` before the cleanup and
the cleanup leaves: the tokens that it has read, the status, the flag and the
description. -/
structure Described where
  read : List Nat
  status : Status
  jsonInStreamDescription : Bool
  streamDescription : StreamDescription

/-- The loop over the tokens behind the first one. -/
def describeTokens (tokens : List JsmnTok) : Described :=
  match enterStreamInfo js 1 tokens with
  | (read, none) => ⟨read, .success, false, .zero⟩
  | (read, some (index, rest)) =>
      let entered := { StreamDescription.zero with version := env.currentVersion }
      match KeyScan.scan (describeReader env js) entered index rest with
      | (later, .next description) =>
          ⟨read ++ later, .success, true, description⟩
      | (later, .leave (status, description)) =>
          ⟨read ++ later, status, true, description⟩

end Loop

/-- The code between the last look at `terminating` before the cleanup and the
cleanup. -/
def extractDescription (env : DescribeEnv) (callInfo : CallInfo) : Described :=
  let unread (read : List Nat) (status : Status) : Described :=
    ⟨read, status, false, env.uninitialised⟩
  if callInfo.callResult = .notSet then unread [] .invalidOperation
  else if callInfo.callResult ≠ .ok ∨ callInfo.responseData = [] then
    unread [] .success
  else
    match jsmnParse MAX_JSON_TOKEN_COUNT callInfo.responseData with
    | .error _ => unread [] .invalidApiCallReturnJson
    | .ok [] => unread [] .invalidApiCallReturnJson
    | .ok (root :: tokens) =>
        if tokens = [] then unread [] .invalidApiCallReturnJson
        else if root.type ≠ .object then unread [0] .invalidApiCallReturnJson
        else
          let described := describeTokens env callInfo.responseData tokens
          { described with read := 0 :: described.read }

/-- The handler up to its `CleanUp` label, with the state of the response.  It
reads `terminating` at point 2. -/
def describeCall (env : HandlerEnv) (pic : DescribeEnv) :
    Described × CallInfo :=
  let unread (status : Status) : Described :=
    ⟨[], status, false, pic.uninitialised⟩
  if env.signStatus.failed then (unread env.signStatus, .initial)
  else
    let (status, callInfo) := curlCompleteSync env
    if status.failed then (unread status, callInfo)
    else if env.terminating 2 then (unread .success, callInfo)
    else (extractDescription pic callInfo, callInfo)

/-- The whole handler: what it reports with `describeStreamResultEvent`.  The
cleanup reads `terminating` at point 3. -/
def describeStreamCurlHandler (env : HandlerEnv) (pic : DescribeEnv) :
    Option (ServiceCallResult × StreamDescription) :=
  let (described, callInfo) := describeCall env pic
  if env.terminating 3 then none
  else if callInfo.callResult = .ok ∧ ¬ described.jsonInStreamDescription then
    some (.invalidArg, described.streamDescription)
  else some (callInfo.callResult, described.streamDescription)

/-! ### What the response says -/

/-- The status that has exactly that name. -/
def StreamStatus.ofName? (text : Bytes) : Option StreamStatus :=
  [.active, .creating, .updating, .deleting].find? fun status : StreamStatus =>
    status.name = text

/-- The object that is the value of `StreamInfo`. -/
def streamInfo (js : Bytes) : Option JsmnTok :=
  (documentMember js (bytes "StreamInfo")).filter (·.type = .object)

/-- The value of its last member of that name. -/
def streamInfoValue (js : Bytes) (name : Bytes) : Option JsmnTok :=
  (streamInfo js).bind fun info =>
    memberValue js (objectTokens js) info name

/-- The string that the value is. -/
def streamInfoString (js : Bytes) (name : Bytes) : Option Bytes :=
  (streamInfoValue js name).bind (·.string? js)

/-- The retention in the units of PIC, computed over the integers, if it is a
number that `STRTOUI64` reads; 0 if there is none. -/
def streamInfoRetention (env : DescribeEnv) (js : Bytes) : Option Nat :=
  match streamInfoValue js DescribeKey.retention.name with
  | none => some 0
  | some value =>
      (env.strToUI64 (value.text js)).toOption.map
        (· * HUNDREDS_OF_NANOS_IN_AN_HOUR)

/-- The fields are those of the `StreamInfo` object. -/
structure Describes (env : DescribeEnv) (js : Bytes)
    (description : StreamDescription) : Prop where
  isObject : (streamInfo js).isSome
  text : ∀ field, description.text field =
    (streamInfoString js (TextField.name field)).getD []
  streamStatus : description.streamStatus =
    (streamInfoString js DescribeKey.status.name).bind StreamStatus.ofName?
  retention : some description.retention = streamInfoRetention env js

/-- PIC is told of a success only when the whole object has been parsed, and
then with its fields. -/
def ReportsStreamInfo (env : HandlerEnv) (pic : DescribeEnv) : Prop :=
  ∀ description,
    describeStreamCurlHandler env pic = some (.ok, description) →
      (describeCall env pic).1.status = .success ∧
        Describes pic env.transfer.responseData description

/-! ### When the fields are those of the object -/

/-- The tokens in which the names of the fields are looked for. -/
def behindStreamInfo (js : Bytes) : Option (List JsmnTok) :=
  (enterStreamInfo js 1 (objectTokens js).tail).2.map (·.2)

/-- The names that are found there, with the tokens behind them. -/
def describedValues (env : DescribeEnv) (js : Bytes) :
    List (DescribeKey × Option JsmnTok) :=
  KeyScan.pairs (describeReader env js) ((behindStreamInfo js).getD [])

/-- The tokens behind one of the names. -/
def valuesOf (key : DescribeKey) (found : List (DescribeKey × Option JsmnTok)) :
    List (Option JsmnTok) :=
  (found.filter (·.1 = key)).map (·.2)

section Closed

variable (env : DescribeEnv) (js : Bytes)

/-- Values that are copied into the field one after the other, each over what
is there. -/
def copiedOver (field : TextField) (buffer : Bytes)
    (values : List (Option JsmnTok)) : Bytes :=
  values.foldl (fun buffer value =>
    strncpyField (field.maxLen env.limits) (env.valueLength value) buffer
      (env.valueText js value)) buffer

/-- The status that is read from a value. -/
def statusRead (value : Option JsmnTok) : StreamStatus :=
  getStreamStatusFromString (env.valueText js value) (env.valueLength value)

/-- The hours that are read from a value. -/
def hoursRead (value : Option JsmnTok) : Nat :=
  (env.strToUI64 (env.valueText js value)).toOption.getD 0

/-- The retention that is computed from them. -/
def retentionRead (value : Option JsmnTok) : Nat :=
  hoursRead env js value * HUNDREDS_OF_NANOS_IN_AN_HOUR % 2 ^ 64

end Closed

/-- All values that are found are admitted, and together they are those of the
object. -/
structure FindsStreamInfo (env : DescribeEnv) (js : Bytes) : Prop where
  isObject : (streamInfo js).isSome
  admitted : ∀ found ∈ describedValues env js,
    env.admits js found.1 found.2 = true
  text : ∀ field,
    copiedOver env js field [] (valuesOf (.text field) (describedValues env js)) =
      (streamInfoString js (TextField.name field)).getD []
  streamStatus :
    (valuesOf .status (describedValues env js)).getLast?.map
        (statusRead env js) =
      (streamInfoString js DescribeKey.status.name).bind StreamStatus.ofName?
  retention :
    some (((valuesOf .retention (describedValues env js)).getLast?.map
        (retentionRead env js)).getD 0) = streamInfoRetention env js

section Run

theorem getLast?_cons_or {α β : Type} (read : α → β) (value : α)
    (values : List α) (before : Option β) :
    ((value :: values).getLast?.map read).or before =
      (values.getLast?.map read).or (some (read value)) := by
  rw [List.getLast?_cons]
  cases values.getLast? <;> simp

theorem getLast?_cons_getD {α β : Type} (read : α → β) (value : α)
    (values : List α) (before : β) :
    ((value :: values).getLast?.map read).getD before =
      (values.getLast?.map read).getD (read value) := by
  rw [List.getLast?_cons]
  cases values.getLast? <;> simp

variable {env : DescribeEnv} {js : Bytes}

theorem valuesOf_cons (key other : DescribeKey) (value : Option JsmnTok)
    (found : List (DescribeKey × Option JsmnTok)) :
    valuesOf key ((other, value) :: found) =
      if other = key then value :: valuesOf key found
      else valuesOf key found := by
  by_cases same : other = key <;> simp [valuesOf, same]

theorem useDescribeKey_next {description after : StreamDescription}
    {key : DescribeKey} {value : Option JsmnTok}
    (used : useDescribeKey env js description key value = .next after) :
    env.admits js key value = true ∧
      (∀ field, after.text field =
        if key = .text field then
          strncpyField (field.maxLen env.limits) (env.valueLength value)
            (description.text field) (env.valueText js value)
        else description.text field) ∧
      after.streamStatus =
        (if key = .status then some (statusRead env js value)
        else description.streamStatus) ∧
      after.retention =
        if key = .retention then retentionRead env js value
        else description.retention := by
  have admitted : env.admits js key value = true := by
    rw [← Bool.not_eq_false, ← useDescribeKey_leaves env js description, used]
    rintro ⟨exit, leaves⟩
    cases leaves
  refine ⟨admitted, ?_⟩
  cases key with
  | text field =>
      have short : env.valueLength value ≤ field.maxLen env.limits := by
        simpa [DescribeEnv.admits] using admitted
      simp only [useDescribeKey, if_pos short, KeyScan.Step.next.injEq] at used
      subst used
      refine ⟨fun other => ?_, rfl, rfl⟩
      simp only [Function.update_apply, DescribeKey.text.injEq]
      by_cases same : other = field
      · subst same
        simp
      · rw [if_neg same, if_neg (Ne.symm same)]
  | status =>
      have short :
          env.valueLength value ≤ MAX_DESCRIBE_STREAM_STATUS_LEN := by
        simpa [DescribeEnv.admits] using admitted
      simp only [useDescribeKey, if_pos short, KeyScan.Step.next.injEq] at used
      subst used
      simp [statusRead]
  | retention =>
      cases read : env.strToUI64 (env.valueText js value) with
      | error code => simp [useDescribeKey, read] at used
      | ok hours =>
          simp only [useDescribeKey, read, KeyScan.Step.next.injEq] at used
          subst used
          simp [retentionRead, hoursRead, read, Except.toOption]
  | creationTime =>
      cases used
      simp

theorem useAll_describe {description final : StreamDescription}
    {found : List (DescribeKey × Option JsmnTok)}
    (used : KeyScan.useAll (describeReader env js) description found =
      .next final) :
    (∀ named ∈ found, env.admits js named.1 named.2 = true) ∧
      (∀ field, final.text field =
        copiedOver env js field (description.text field)
          (valuesOf (.text field) found)) ∧
      final.streamStatus =
        ((valuesOf .status found).getLast?.map (statusRead env js)).or
          description.streamStatus ∧
      final.retention =
        ((valuesOf .retention found).getLast?.map
          (retentionRead env js)).getD description.retention := by
  induction found generalizing description with
  | nil =>
      cases used
      simp [valuesOf, copiedOver]
  | cons named found induction =>
      obtain ⟨key, value⟩ := named
      rw [KeyScan.useAll] at used
      split at used
      · cases used
      · rename_i after step
        obtain ⟨admitted, text, status, retention⟩ := useDescribeKey_next step
        obtain ⟨admittedRest, textRest, statusRest, retentionRest⟩ :=
          induction used
        refine ⟨?_, fun field => ?_, ?_, ?_⟩
        · exact List.forall_mem_cons.mpr ⟨admitted, admittedRest⟩
        · rw [textRest, text, valuesOf_cons]
          split <;> rfl
        · rw [statusRest, status, valuesOf_cons]
          by_cases same : key = .status
          · rw [if_pos same, if_pos same, getLast?_cons_or]
          · rw [if_neg same, if_neg same]
        · rw [retentionRest, retention, valuesOf_cons]
          by_cases same : key = .retention
          · rw [if_pos same, if_pos same, getLast?_cons_getD]
          · rw [if_neg same, if_neg same]

theorem useAll_leave {description : StreamDescription}
    {found : List (DescribeKey × Option JsmnTok)}
    {exit : Status × StreamDescription}
    (used : KeyScan.useAll (describeReader env js) description found =
      .leave exit) :
    exit.1 ≠ .success ∧
      ∃ named ∈ found, env.admits js named.1 named.2 = false := by
  induction found generalizing description with
  | nil => cases used
  | cons named found induction =>
      obtain ⟨key, value⟩ := named
      rw [KeyScan.useAll] at used
      split at used
      · rename_i left step
        cases used
        constructor
        · cases key with
          | text field =>
              simp only [describeReader, useDescribeKey] at step
              split at step <;> cases step
              simp
          | status =>
              simp only [describeReader, useDescribeKey] at step
              split at step <;> cases step
              simp
          | retention =>
              simp only [describeReader, useDescribeKey] at step
              split at step <;> cases step
              simp
          | creationTime => cases step
        · refine ⟨(key, value), List.mem_cons_self, ?_⟩
          rw [← useDescribeKey_leaves env js description]
          exact ⟨exit, step⟩
      · obtain ⟨failed, refused, member, notAdmitted⟩ := induction used
        exact ⟨failed, refused, List.mem_cons_of_mem _ member, notAdmitted⟩

end Run

/-! ### What is reported -/

section Report

variable {env : HandlerEnv} {pic : DescribeEnv} {js : Bytes}

/-- The loop over the tokens of an object. -/
def describeObject (pic : DescribeEnv) (js : Bytes) : Described :=
  describeTokens pic js (objectTokens js).tail

/-- The response contains the string that sets `jsonInStreamDescription`. -/
def EntersStreamInfo (js : Bytes) : Prop :=
  ∃ token ∈ (objectTokens js).tail,
    compareJsonString js token .string (bytes "StreamInfo") = true

theorem enterStreamInfo_isSome {index : Nat} {tokens : List JsmnTok} :
    (enterStreamInfo js index tokens).2.isSome = true ↔
      ∃ token ∈ tokens,
        compareJsonString js token .string (bytes "StreamInfo") = true := by
  induction tokens generalizing index with
  | nil => simp [enterStreamInfo]
  | cons token rest induction =>
      by_cases spelled :
          compareJsonString js token .string (bytes "StreamInfo") = true
      · simp [enterStreamInfo, spelled]
      · simp [enterStreamInfo, spelled, induction]

theorem describeObject_of_not_enters (never : ¬ EntersStreamInfo js) :
    (describeObject pic js).jsonInStreamDescription = false := by
  rw [EntersStreamInfo, ← @enterStreamInfo_isSome _ 1] at never
  rw [describeObject, describeTokens]
  cases entered : enterStreamInfo js 1 (objectTokens js).tail with
  | mk read behind =>
      cases behind with
      | none => rfl
      | some place => simp [entered] at never

/-- Behind the string, the fields are what the values leave if all of them are
admitted, and otherwise the loop fails. -/
theorem describeObject_of_enters (enters : EntersStreamInfo js) :
    (describeObject pic js).jsonInStreamDescription = true ∧
      ((describeObject pic js).status = .success ↔
        ∀ named ∈ describedValues pic js,
          pic.admits js named.1 named.2 = true) ∧
      ((describeObject pic js).status = .success →
        (∀ field, (describeObject pic js).streamDescription.text field =
          copiedOver pic js field []
            (valuesOf (.text field) (describedValues pic js))) ∧
        (describeObject pic js).streamDescription.streamStatus =
          (valuesOf .status (describedValues pic js)).getLast?.map
            (statusRead pic js) ∧
        (describeObject pic js).streamDescription.retention =
          ((valuesOf .retention (describedValues pic js)).getLast?.map
            (retentionRead pic js)).getD 0) := by
  rw [EntersStreamInfo, ← @enterStreamInfo_isSome _ 1] at enters
  rw [describedValues, behindStreamInfo, describeObject, describeTokens]
  obtain ⟨⟨index, rest⟩, behind⟩ := Option.isSome_iff_exists.mp enters
  cases entered : enterStreamInfo js 1 (objectTokens js).tail with
  | mk read place =>
      rw [entered] at behind
      subst behind
      simp only [Option.map_some, Option.getD_some]
      have uses := KeyScan.scan_snd (describeReader pic js)
        { StreamDescription.zero with version := pic.currentVersion } index rest
      cases scanned : KeyScan.scan (describeReader pic js)
          { StreamDescription.zero with version := pic.currentVersion }
          index rest with
      | mk later step =>
          rw [scanned] at uses
          cases step with
          | next description =>
              obtain ⟨admitted, text, status, retention⟩ :=
                useAll_describe uses.symm
              refine ⟨rfl, iff_of_true rfl admitted, fun _ => ⟨text, ?_, ?_⟩⟩
              · exact status.trans (Option.or_none ..)
              · exact retention
          | leave exit =>
              obtain ⟨failed, named, member, refused⟩ :=
                useAll_leave uses.symm
              refine ⟨rfl, iff_of_false failed ?_, fun done => ?_⟩
              · intro admitted
                rw [admitted named member] at refused
                cases refused
              · exact absurd done failed

theorem extractDescription_of_ok {callInfo : CallInfo}
    (called : callInfo.callResult = .ok) :
    ((extractDescription pic callInfo).jsonInStreamDescription = true ↔
        EntersStreamInfo callInfo.responseData) ∧
      (EntersStreamInfo callInfo.responseData →
        (extractDescription pic callInfo).status =
            (describeObject pic callInfo.responseData).status ∧
          (extractDescription pic callInfo).streamDescription =
            (describeObject pic callInfo.responseData).streamDescription) := by
  have unentered (tokens : objectTokens callInfo.responseData = [] ∨
      ∃ root, objectTokens callInfo.responseData = [root]) :
      ¬ EntersStreamInfo callInfo.responseData := by
    rintro ⟨token, member, -⟩
    rcases tokens with none | ⟨root, alone⟩
    · simp [none] at member
    · simp [alone] at member
  rw [extractDescription, if_neg (by simp [called])]
  by_cases empty : callInfo.responseData = []
  · have never := unentered (Or.inl (by rw [empty]; decide))
    rw [empty] at never
    simp [empty, never]
  · rw [if_neg (by simp [called, empty])]
    cases parses : jsmnParse MAX_JSON_TOKEN_COUNT callInfo.responseData with
    | error err =>
        have never := unentered (Or.inl (by simp [objectTokens, parses]))
        simp [never]
    | ok tokens =>
        cases tokens with
        | nil =>
            have never := unentered (Or.inl (by simp [objectTokens, parses]))
            simp [never]
        | cons root tokens =>
            by_cases object : root.type = .object
            · have parsed : objectTokens callInfo.responseData =
                  root :: tokens := by
                simp [objectTokens, parses, object]
              by_cases alone : tokens = []
              · have never := unentered (Or.inr ⟨root, alone ▸ parsed⟩)
                simp [alone, never]
              · have described : describeObject pic callInfo.responseData =
                    describeTokens pic callInfo.responseData tokens := by
                  rw [describeObject, parsed, List.tail_cons]
                simp only [if_neg alone, object, ne_eq, not_true_eq_false,
                  if_false, described, and_self, implies_true, and_true]
                rw [← described]
                by_cases enters : EntersStreamInfo callInfo.responseData
                · simp [enters, (describeObject_of_enters enters).1]
                · simp [enters, describeObject_of_not_enters enters]
            · have never := unentered
                (Or.inl (by simp [objectTokens, parses, object]))
              by_cases alone : tokens = [] <;> simp [alone, object, never]

/-- The call is answered, and never sees `terminating`. -/
theorem describeCall_of_reportsOk (reported : ReportsOk env) :
    describeCall env pic =
      (extractDescription pic (classifyTransfer env.terminated env.transfer),
        classifyTransfer env.terminated env.transfer) := by
  obtain ⟨signed, prepared, late, -, -⟩ := reported
  have clear (point : Nat) (early : point ≤ 3) :
      env.terminating point = false := by
    simp only [HandlerEnv.terminating, decide_eq_false_iff_not]
    omega
  simp [describeCall, curlCompleteSync, signed, prepared, clear, Status.failed]

/-- Only a call that is answered with status 200 has the result OK. -/
theorem reportsOk_of_describeCall (late : env.terminating 3 = false)
    (called : (describeCall env pic).2.callResult = .ok) : ReportsOk env := by
  have never : 3 < env.terminatingFrom := by
    simpa [HandlerEnv.terminating] using late
  have clear (point : Nat) (early : point ≤ 3) :
      env.terminating point = false := by
    simp only [HandlerEnv.terminating, decide_eq_false_iff_not]
    omega
  by_cases signed : env.signStatus = .success
  · by_cases prepared : env.prepareStatus = .success
    · simp only [describeCall, curlCompleteSync, signed, prepared, clear,
        Status.failed, bne_self_eq_false, Bool.false_eq_true, if_false,
        Nat.zero_le, Nat.reduceLeDiff, classifyTransfer_eq_ok] at called
      exact ⟨signed, prepared, never, called⟩
    · simp [describeCall, curlCompleteSync, signed, prepared, Status.failed,
        CallInfo.initial] at called
  · simp [describeCall, signed, Status.failed, CallInfo.initial] at called

/-- PIC is told of a success exactly when the call completed with status 200 and
the string has been found. -/
theorem describe_notified_ok_iff {description : StreamDescription} :
    describeStreamCurlHandler env pic = some (.ok, description) ↔
      ReportsOk env ∧ EntersStreamInfo env.transfer.responseData ∧
        description = (describeObject pic
          env.transfer.responseData).streamDescription := by
  rw [describeStreamCurlHandler]
  by_cases late : env.terminating 3 = true
  · have notReported : ¬ ReportsOk env := by
      rintro ⟨-, -, never, -⟩
      simp only [HandlerEnv.terminating, decide_eq_true_eq] at late
      omega
    simp [late, notReported]
  rw [Bool.not_eq_true] at late
  by_cases reported : ReportsOk env
  · have called : (classifyTransfer env.terminated env.transfer).callResult =
        .ok := classifyTransfer_eq_ok.mpr reported.2.2.2
    obtain ⟨flag, fields⟩ := @extractDescription_of_ok pic _ called
    rw [classifyTransfer_responseData] at flag fields
    rw [describeCall_of_reportsOk reported]
    simp only [late, Bool.false_eq_true, if_false, called, true_and, reported]
    by_cases enters : EntersStreamInfo env.transfer.responseData
    · simp [flag.mpr enters, (fields enters).2, enters, @eq_comm _ description]
    · have unset : (extractDescription pic (classifyTransfer env.terminated
          env.transfer)).jsonInStreamDescription = false := by
        rw [← Bool.not_eq_true, flag]
        exact enters
      simp [unset, enters]
  · have called : (describeCall env pic).2.callResult ≠ .ok := fun called =>
      reported (reportsOk_of_describeCall late called)
    simp [late, called, reported]

/-- A success is reported with the fields of the whole `StreamInfo` object
exactly when the values that the loop finds in the response of a call that
completed with status 200 are those of the object. -/
theorem reportsStreamInfo_iff :
    ReportsStreamInfo env pic ↔
      (ReportsOk env → EntersStreamInfo env.transfer.responseData →
        FindsStreamInfo pic env.transfer.responseData) := by
  constructor
  · intro reports reported enters
    obtain ⟨parsed, describes⟩ := reports _
      (describe_notified_ok_iff.mpr ⟨reported, enters, rfl⟩)
    have called : (classifyTransfer env.terminated env.transfer).callResult =
        .ok := classifyTransfer_eq_ok.mpr reported.2.2.2
    have fields := (@extractDescription_of_ok pic _ called).2
    rw [classifyTransfer_responseData] at fields
    rw [describeCall_of_reportsOk reported, (fields enters).1] at parsed
    obtain ⟨-, success, leaves⟩ := @describeObject_of_enters pic _ enters
    obtain ⟨text, status, retention⟩ := leaves parsed
    constructor
    case isObject => exact describes.isObject
    case admitted => exact success.mp parsed
    case text => exact fun field => (text field).symm.trans (describes.text field)
    case streamStatus => exact status.symm.trans describes.streamStatus
    case retention => exact retention ▸ describes.retention
  · intro finds description notified
    obtain ⟨reported, enters, rfl⟩ := describe_notified_ok_iff.mp notified
    have found := finds reported enters
    have called : (classifyTransfer env.terminated env.transfer).callResult =
        .ok := classifyTransfer_eq_ok.mpr reported.2.2.2
    have fields := (@extractDescription_of_ok pic _ called).2
    rw [classifyTransfer_responseData] at fields
    obtain ⟨-, success, leaves⟩ := @describeObject_of_enters pic _ enters
    have parsed := success.mpr found.admitted
    obtain ⟨text, status, retention⟩ := leaves parsed
    constructor
    · rw [describeCall_of_reportsOk reported, (fields enters).1]
      exact parsed
    · constructor
      case isObject => exact found.isObject
      case text => exact fun field => (text field).trans (found.text field)
      case streamStatus => exact status.trans found.streamStatus
      case retention => exact retention ▸ found.retention

end Report

/-! ### The status names -/

theorem strncmpEqual_iff {first second : Bytes} {length : Nat}
    (firstPlain : NUL ∉ first) (secondPlain : NUL ∉ second) :
    strncmpEqual first second length = true ↔
      first.take length = second.take length := by
  induction length generalizing first second with
  | zero => simp [strncmpEqual]
  | succ length induction =>
      cases first with
      | nil =>
          cases second with
          | nil => simp [strncmpEqual]
          | cons c second =>
              have other : c ≠ NUL := fun same => secondPlain (by simp [same])
              simp [strncmpEqual, Ne.symm other]
      | cons b first =>
          have other : b ≠ NUL := fun same => firstPlain (by simp [same])
          cases second with
          | nil => simp [strncmpEqual, other]
          | cons c second =>
              rw [List.mem_cons, not_or] at firstPlain secondPlain
              simp [strncmpEqual, other,
                induction firstPlain.2 secondPlain.2]

theorem StreamStatus.nul_not_mem_name (status : StreamStatus) :
    NUL ∉ status.name := by
  cases status <;> decide

theorem StreamStatus.ofName?_eq_some {text : Bytes} {status : StreamStatus} :
    StreamStatus.ofName? text = some status ↔ status.name = text := by
  constructor
  · intro named
    have found := List.find?_some named
    simpa using found
  · rintro rfl
    cases status <;> decide

/-- No name is the beginning of another one. -/
theorem StreamStatus.eq_of_take_name {other status : StreamStatus} {length : Nat}
    (same : other.name.take length = status.name) : other = status := by
  have positive : length ≠ 0 := by
    rintro rfl
    cases status <;> simp [name, bytes] at same
  have heads : other.name.head? = status.name.head? := by
    rw [← same, List.head?_take, if_neg positive]
  revert heads
  cases other <;> cases status <;> decide

/-- The name of a status in full is read as that status, and nothing else is
read as the status that it spells. -/
theorem getStreamStatusFromString_name_iff {text : Bytes} {length : Nat}
    (plain : NUL ∉ text) :
    (getStreamStatusFromString text length).name = text.take length ↔
      (StreamStatus.ofName? (text.take length)).isSome = true := by
  constructor
  · intro named
    rw [StreamStatus.ofName?_eq_some.mpr named]
    rfl
  · intro named
    obtain ⟨status, found⟩ := Option.isSome_iff_exists.mp named
    rw [StreamStatus.ofName?_eq_some] at found
    have reads (other : StreamStatus) :
        strncmpEqual other.name text length = true ↔ other = status := by
      rw [strncmpEqual_iff other.nul_not_mem_name plain, ← found]
      constructor
      · exact StreamStatus.eq_of_take_name
      · rintro rfl
        rw [found]
        exact List.take_of_length_le
          (found ▸ List.length_take_le length text)
    rw [← found]
    simp only [getStreamStatusFromString, reads]
    cases status <;> rfl

/-- Limits that are wide enough, and numbers in decimal digits. -/
def sampleDescribeEnv : DescribeEnv where
  limits :=
    { maxDeviceNameLen := 128
      maxContentTypeLen := 128
      maxArnLen := 1024
      maxStreamNameLen := 256
      maxUpdateVersionLen := 128 }
  currentVersion := 1
  strToUI64 text := (decimal text).elim (.error 1) .ok
  beyond := .whole [] List.not_mem_nil
  uninitialised := .zero

end KvsProducer
