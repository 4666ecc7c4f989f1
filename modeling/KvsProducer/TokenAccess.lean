import KvsProducer.Common.IotResponse
import KvsProducer.DescribeStream

/-!
# The tokens that the response readers read

The four functions that search a response for names walk over its tokens in the
same way.  Each of them looks at the token behind one that spells a name, also
where there is none.
-/

namespace KvsProducer

open Common

/-! ### The loops -/

/-- The branches of the loop of `parseIotResponse`. -/
def useIotField (env : IotEnvironment) (fields : IotFields)
    (key : IotField × JsmnTok) (value : Option JsmnTok) :
    KeyScan.Step IotFields Fault :=
  let named : NamedToken := { key := key.2, value := value }
  if named.length env ≤ key.1.maxLen then
    .next (Function.update fields key.1 (some named))
  else .leave (.failed .invalidApiCallReturnJson)

def iotReader (env : IotEnvironment) (js : Bytes) :
    KeyScan.Reader JsmnTok (IotField × JsmnTok) IotFields Fault where
  key token := (IotField.spelled js token).map fun field => (field, token)
  reads _ := true
  use := useIotField env
  leaves key value := decide (key.1.maxLen < value.strLen)
  use_leaves fields key value := by
    by_cases short : value.strLen ≤ key.1.maxLen
    · simp [useIotField, NamedToken.length, short]
    · simp [useIotField, NamedToken.length, short, Nat.not_le.mp short]

/-- The loop of `parseIotResponse` is the walk. -/
theorem scanIotResponse_eq_scan {env : IotEnvironment} {js : Bytes}
    {fields : IotFields} {index : Nat} {tokens : List JsmnTok} :
    scanIotResponse env js fields tokens =
      (KeyScan.scan (iotReader env js) fields index tokens).2.toExcept := by
  rw [KeyScan.scan_snd]
  induction tokens using namedTokens.induct js generalizing fields with
  | case1 => rfl
  | case2 token unspelled =>
      simp [scanIotResponse, KeyScan.pairs, iotReader, unspelled,
        KeyScan.useAll, KeyScan.Step.toExcept]
  | case3 token field spells =>
      simp only [scanIotResponse, spells, KeyScan.pairs, iotReader,
        Option.map_some, if_true, KeyScan.useAll, useIotField, check]
      split <;> rfl
  | case4 token next rest unspelled induction =>
      simp only [scanIotResponse, unspelled, induction]
      simp [KeyScan.pairs, iotReader, unspelled]
  | case5 token next rest field spells induction =>
      simp only [scanIotResponse, spells]
      simp only [KeyScan.pairs, iotReader, spells, Option.map_some, if_true,
        KeyScan.useAll, useIotField, check]
      split
      · exact induction
      · rfl

/-- The branch of a loop that looks for one name only, and stops there. -/
def useSingleName (js : Bytes) (beyond : JsmnTok) (maxLen : Nat) (_ : Unit)
    (_ : Unit) (value : Option JsmnTok) :
    KeyScan.Step Unit (Status × Option Bytes) :=
  .leave
    (if (value.getD beyond).strLen ≤ maxLen then
      (.success, value.map fun value => value.copied js)
    else (.invalidApiCallReturnJson, none))

def singleNameReader (js : Bytes) (beyond : JsmnTok) (name : Bytes)
    (maxLen : Nat) :
    KeyScan.Reader JsmnTok Unit Unit (Status × Option Bytes) where
  key token := if compareJsonString js token .string name then some () else none
  reads _ := true
  use := useSingleName js beyond maxLen
  leaves _ _ := true
  use_leaves _ _ _ := iff_of_true ⟨_, rfl⟩ rfl

/-- The loop of `createStreamCurlHandler`, which is content without the name:
the status, and what it copies to `streamArn`. -/
def createStreamReader (env : DescribeEnv) (js : Bytes) (beyond : JsmnTok) :
    KeyScan.Reader JsmnTok Unit Unit (Status × Option Bytes) :=
  singleNameReader js beyond (bytes "StreamARN") env.limits.maxArnLen

/-- The loop of `getStreamingEndpointCurlHandler`. -/
def endpointReader (js : Bytes) (beyond : JsmnTok) :
    KeyScan.Reader JsmnTok Unit Unit (Status × Option Bytes) :=
  singleNameReader js beyond dataEndpointName MAX_URI_CHAR_LEN

/-! ### The reads -/

/-- The functions that search a response. -/
inductive ResponseReader where
  | parseIotResponse
  | createStream
  | describeStream
  | getStreamingEndpoint
  deriving DecidableEq, Repr

/-- What they find besides the response. -/
structure ReaderEnv where
  iot : IotEnvironment
  describe : DescribeEnv
  beyond : JsmnTok

/-- `tokenCount`, or 0 for a negative one -/
def tokenCount (js : Bytes) : Nat :=
  match jsmnParse MAX_JSON_TOKEN_COUNT js with
  | .error _ => 0
  | .ok tokens => tokens.length

/-- The tokens that are read around a loop: the first one only if there are
others, and these only if it is an object. -/
def readTokens (loop : List JsmnTok → List Nat) (js : Bytes) : List Nat :=
  match jsmnParse MAX_JSON_TOKEN_COUNT js with
  | .error _ => []
  | .ok [] => []
  | .ok (root :: tokens) =>
      if tokens = [] then []
      else if root.type ≠ .object then [0]
      else 0 :: loop tokens

namespace ResponseReader

/-- The function gets as far as the tokenizer. -/
def searches (callInfo : CallInfo) : ResponseReader → Bool
  | .parseIotResponse => callInfo.responseData != []
  | .createStream => callInfo.callResult != .notSet
  | .describeStream =>
      callInfo.callResult == .ok && callInfo.responseData != []
  | .getStreamingEndpoint => callInfo.callResult != .notSet

/-- The indexes of the tokens that the function reads. -/
def reads (env : ReaderEnv) (callInfo : CallInfo) :
    ResponseReader → List Nat
  | .parseIotResponse =>
      if searches callInfo .parseIotResponse then
        readTokens (fun tokens =>
          (KeyScan.scan (iotReader env.iot callInfo.responseData)
            (fun _ => none) 1 tokens).1) callInfo.responseData
      else []
  | .createStream =>
      if searches callInfo .createStream then
        readTokens (fun tokens =>
          (KeyScan.scan (createStreamReader env.describe callInfo.responseData
            env.beyond) () 1 tokens).1) callInfo.responseData
      else []
  | .describeStream => (extractDescription env.describe callInfo).read
  | .getStreamingEndpoint =>
      if searches callInfo .getStreamingEndpoint then
        readTokens (fun tokens =>
          (KeyScan.scan (endpointReader callInfo.responseData env.beyond) () 1
            tokens).1) callInfo.responseData
      else []

/-- The response is an object whose last token is taken for a name that is
looked for, and no value before it makes the function stop. -/
def EndsInName (env : ReaderEnv) (js : Bytes) : ResponseReader → Prop
  | .parseIotResponse =>
      KeyScan.EndsInKey (iotReader env.iot js) (objectTokens js).tail
  | .createStream =>
      KeyScan.EndsInKey (createStreamReader env.describe js env.beyond)
        (objectTokens js).tail
  | .describeStream =>
      KeyScan.EndsInKey (describeReader env.describe js)
        ((behindStreamInfo js).getD [])
  | .getStreamingEndpoint =>
      KeyScan.EndsInKey (endpointReader js env.beyond) (objectTokens js).tail

end ResponseReader

section Reads

variable {js : Bytes} {loop : List JsmnTok → List Nat}

theorem readTokens_within_iff :
    (∀ read ∈ readTokens loop js, read < tokenCount js) ↔
      ∀ root tokens, objectTokens js = root :: tokens → tokens ≠ [] →
        ∀ read ∈ loop tokens, read < 1 + tokens.length := by
  rw [readTokens, tokenCount, objectTokens]
  cases jsmnParse MAX_JSON_TOKEN_COUNT js with
  | error err => simp
  | ok parsed =>
      cases parsed with
      | nil => simp
      | cons root tokens =>
          by_cases alone : tokens = []
          · by_cases object : root.type = .object <;> simp [alone, object]
          · by_cases object : root.type = .object
            · simp [alone, object, Nat.add_comm]
            · simp [alone, object]

theorem readTokens_scan_within_iff {Key State Exit : Type}
    {reader : KeyScan.Reader JsmnTok Key State Exit} {state : State} :
    (∀ read ∈ readTokens
        (fun tokens => (KeyScan.scan reader state 1 tokens).1) js,
      read < tokenCount js) ↔
      ¬ KeyScan.EndsInKey reader (objectTokens js).tail := by
  rw [readTokens_within_iff]
  cases object : objectTokens js with
  | nil => simp [KeyScan.not_endsInKey_nil]
  | cons root tokens =>
      by_cases alone : tokens = []
      · simp [alone, KeyScan.not_endsInKey_nil]
      · rw [List.tail_cons, ← KeyScan.scan_reads_within_iff reader state 1]
        simp [alone]

/-- The rounds up to the string `StreamInfo` read within the array, and the
others go on within it. -/
theorem enterStreamInfo_within {index : Nat} {tokens : List JsmnTok} :
    (∀ read ∈ (enterStreamInfo js index tokens).1,
        read < index + tokens.length) ∧
      ∀ next rest, (enterStreamInfo js index tokens).2 = some (next, rest) →
        rest ≠ [] → next + rest.length = index + tokens.length := by
  induction tokens generalizing index with
  | nil => simp [enterStreamInfo]
  | cons token tokens induction =>
      by_cases spelled :
          compareJsonString js token .string (bytes "StreamInfo") = true
      · simp only [enterStreamInfo, spelled, if_true]
        constructor
        · simp
        · rintro next rest same nonempty
          cases same
          cases tokens with
          | nil => exact absurd rfl nonempty
          | cons value rest =>
              simp only [List.tail_cons, List.length_cons]
              omega
      · simp only [enterStreamInfo, if_neg spelled]
        obtain ⟨within, goesOn⟩ := @induction (index + 1)
        constructor
        · intro read member
          rw [List.length_cons]
          rcases List.mem_cons.mp member with rfl | later
          · omega
          · have below := within read later
            omega
        · intro next rest same nonempty
          have ends := goesOn next rest same nonempty
          rw [List.length_cons]
          omega

theorem describeTokens_within_iff {env : DescribeEnv} {tokens : List JsmnTok} :
    (∀ read ∈ (describeTokens env js tokens).read,
        read < 1 + tokens.length) ↔
      ¬ KeyScan.EndsInKey (describeReader env js)
        (((enterStreamInfo js 1 tokens).2.map (·.2)).getD []) := by
  obtain ⟨within, goesOn⟩ := @enterStreamInfo_within js 1 tokens
  rw [describeTokens]
  cases entered : enterStreamInfo js 1 tokens with
  | mk read place =>
      rw [entered] at within goesOn
      cases place with
      | none => simpa [KeyScan.not_endsInKey_nil] using within
      | some behind =>
          obtain ⟨next, rest⟩ := behind
          have reads := KeyScan.scan_reads_within_iff (describeReader env js)
            { StreamDescription.zero with version := env.currentVersion } next
            rest
          rw [Option.map_some, Option.getD_some, ← reads]
          cases scanned : KeyScan.scan (describeReader env js)
              { StreamDescription.zero with version := env.currentVersion }
              next rest with
          | mk later step =>
              have joined : (∀ index ∈ read ++ later,
                  index < 1 + tokens.length) ↔
                  ∀ index ∈ later, index < next + rest.length := by
                by_cases nonempty : rest = []
                · subst nonempty
                  cases scanned
                  simpa using within
                · rw [goesOn next rest rfl nonempty, List.forall_mem_append]
                  exact and_iff_right within
              cases step with
              | next description =>
                  simp only [scanned]
                  exact joined
              | leave exit =>
                  simp only [scanned]
                  exact joined

theorem read_extractDescription {env : DescribeEnv} {callInfo : CallInfo} :
    (extractDescription env callInfo).read =
      if ResponseReader.describeStream.searches callInfo then
        readTokens
          (fun tokens =>
            (describeTokens env callInfo.responseData tokens).read)
          callInfo.responseData
      else [] := by
  rw [extractDescription]
  by_cases called : callInfo.callResult = .ok
  · by_cases empty : callInfo.responseData = []
    · simp [called, empty, ResponseReader.searches]
    · have searches :
          ResponseReader.describeStream.searches callInfo = true := by
        simp [ResponseReader.searches, called, empty]
      rw [if_pos searches, if_neg (by simp [called]),
        if_neg (by simp [called, empty]), readTokens]
      cases jsmnParse MAX_JSON_TOKEN_COUNT callInfo.responseData with
      | error err => rfl
      | ok parsed =>
          cases parsed with
          | nil => rfl
          | cons root tokens =>
              by_cases alone : tokens = []
              · simp [alone]
              · by_cases object : root.type = .object <;>
                  simp [alone, object]
  · by_cases unset : callInfo.callResult = .notSet <;>
      simp [called, unset, ResponseReader.searches]

end Reads

/-- A function that searches a response reads only tokens that have been filled
exactly when the response does not end in a name that it looks for. -/
theorem tokenReads_within_iff (env : ReaderEnv) (callInfo : CallInfo)
    (reader : ResponseReader) :
    (∀ read ∈ reader.reads env callInfo,
        read < tokenCount callInfo.responseData) ↔
      ¬ (reader.searches callInfo = true ∧
        reader.EndsInName env callInfo.responseData) := by
  by_cases searches : reader.searches callInfo = true
  · rw [and_iff_right searches]
    cases reader with
    | parseIotResponse =>
        rw [ResponseReader.reads, if_pos searches]
        exact readTokens_scan_within_iff
    | createStream =>
        rw [ResponseReader.reads, if_pos searches]
        exact readTokens_scan_within_iff
    | describeStream =>
        rw [ResponseReader.reads, read_extractDescription, if_pos searches,
          readTokens_within_iff, ResponseReader.EndsInName, behindStreamInfo]
        cases object : objectTokens callInfo.responseData with
        | nil => simp [enterStreamInfo, KeyScan.not_endsInKey_nil]
        | cons root tokens =>
            rw [List.tail_cons, ← describeTokens_within_iff]
            by_cases alone : tokens = []
            · simp [alone, describeTokens, enterStreamInfo]
            · simp [alone]
    | getStreamingEndpoint =>
        rw [ResponseReader.reads, if_pos searches]
        exact readTokens_scan_within_iff
  · cases reader <;>
      simp [ResponseReader.reads, read_extractDescription, searches]

def sampleReaderEnv : ReaderEnv where
  iot := sampleEnvironment
  describe := sampleDescribeEnv
  beyond := { type := .undefined, start := 0, stop := 0, size := 0 }

/-- What a call with result OK and strings only has received. -/
def sampleCallInfo (members : List (String × String)) : CallInfo where
  httpStatus := HTTP_STATUS_CODE_OK
  callResult := .ok
  responseData := sampleResponse members

/-- Each of the functions reads behind a response that ends in a name. -/
theorem tokenReads_beyond :
    3 ∈ ResponseReader.parseIotResponse.reads sampleReaderEnv
        (sampleCallInfo [("note", "expiration")]) ∧
      3 ∈ ResponseReader.createStream.reads sampleReaderEnv
        (sampleCallInfo [("note", "StreamARN")]) ∧
      3 ∈ ResponseReader.getStreamingEndpoint.reads sampleReaderEnv
        (sampleCallInfo [("note", "DataEndpoint")]) ∧
      tokenCount (sampleCallInfo [("note", "expiration")]).responseData = 3 ∧
      tokenCount (sampleCallInfo [("note", "StreamARN")]).responseData = 3 ∧
      tokenCount (sampleCallInfo [("note", "DataEndpoint")]).responseData = 3 ∧
      5 ∈ ResponseReader.describeStream.reads sampleReaderEnv
        (sampleCallInfo [("StreamInfo", ""), ("note", "Status")]) ∧
      tokenCount (sampleCallInfo
        [("StreamInfo", ""), ("note", "Status")]).responseData = 5 := by
  decide +kernel

end KvsProducer
