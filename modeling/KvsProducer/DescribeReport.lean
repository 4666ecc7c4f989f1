import KvsProducer.Common.IotResponse
import KvsProducer.DescribeStream
import KvsProducer.Lib.Overlay

/-!
# When describeStream reports the stream

What the loop leaves are the members of the object `StreamInfo` under a
condition on the response: which names are reached, what stands behind them and
what the object says.
-/

namespace KvsProducer

open Common

/-! ### The condition -/

/-- The tokens behind the string `StreamInfo` and the token behind it. -/
def streamInfoTokens (js : Bytes) : List JsmnTok :=
  ((objectTokens js).tail.dropWhile fun token =>
    !compareJsonString js token .string (bytes "StreamInfo")).drop 2

section Condition

variable (env : DescribeEnv) (js : Bytes)

/-- What stands behind the strings that are taken for a name: they spell it, and
the string in front of them is not itself taken for a name. -/
def reachedValues (key : DescribeKey) : List (Option JsmnTok) :=
  (KeyScan.placesOf (describeReader env js) (streamInfoTokens js) key).map
    fun index => (streamInfoTokens js)[index + 1]?

/-- The bytes of a value, as many as its length in 32 bits. -/
def DescribeEnv.valueString (value : Option JsmnTok) : Bytes :=
  (env.valueText js value).take (env.valueLength value)

def reachedStrings (key : DescribeKey) : List Bytes :=
  (reachedValues env js key).map (env.valueString js)

/-- The hours that the object gives, 0 if it gives none. -/
def streamInfoHours : Option Nat :=
  match streamInfoValue js DescribeKey.retention.name with
  | none => some 0
  | some value => (env.strToUI64 (value.text js)).toOption

/-- A string is the beginning of the name of a status, where the empty one is
that of `ACTIVE` only, or it is the beginning of none and the status is
`DELETING`. -/
def TakenFor (text : Bytes) (status : StreamStatus) : Prop :=
  text <+: status.name ∧ (text = [] → status = .active) ∨
    status = .deleting ∧ ∀ other : StreamStatus, ¬ text <+: other.name

/-- The object is there, every value that is reached is within its limit, and
the last ones are those of the object.  A byte of a string can be one of an
earlier value, if no later one is that long. -/
structure ReachesMembers : Prop where
  isObject : (streamInfo js).isSome
  within : ∀ key, ∀ value ∈ reachedValues env js key,
    env.admits js key value = true
  text : ∀ (field : TextField) (place : Nat),
    ((streamInfoString js field.name).getD [])[place]? =
      (reachedStrings env js (.text field)).reverse.findSome? (·[place]?)
  noStatus : reachedValues env js .status = [] →
    ∀ status : StreamStatus,
      streamInfoString js DescribeKey.status.name ≠ some status.name
  status : ∀ text ∈ (reachedStrings env js .status).getLast?,
    ∃ status : StreamStatus,
      streamInfoString js DescribeKey.status.name = some status.name ∧
        TakenFor text status
  retention : ∃ hours ∈ streamInfoHours env js,
    hours * HUNDREDS_OF_NANOS_IN_AN_HOUR < 2 ^ 64 ∧
      (reachedValues env js .retention = [] → hours = 0) ∧
      ∀ value ∈ (reachedValues env js .retention).getLast?, ∃ number,
        env.strToUI64 (env.valueText js value) = .ok number ∧
          number % 2 ^ 53 = hours

end Condition

/-! ### The values that are reached -/

theorem enterStreamInfo_behind {js : Bytes} {index : Nat}
    {tokens : List JsmnTok} :
    ((enterStreamInfo js index tokens).2.map (·.2)).getD [] =
      (tokens.dropWhile fun token =>
        !compareJsonString js token .string (bytes "StreamInfo")).drop 2 := by
  induction tokens generalizing index with
  | nil => rfl
  | cons token rest induction =>
      rw [enterStreamInfo]
      by_cases spelled :
          compareJsonString js token .string (bytes "StreamInfo") = true
      · simp [spelled]
      · rw [if_neg spelled, List.dropWhile_cons_of_pos (by simpa using spelled)]
        exact induction

section Reached

variable {env : DescribeEnv} {js : Bytes} {key : DescribeKey}
variable {value : Option JsmnTok}

theorem valuesOf_describedValues :
    valuesOf key (describedValues env js) = reachedValues env js key := by
  rw [describedValues, behindStreamInfo, enterStreamInfo_behind]
  exact KeyScan.filter_pairs_eq (streamInfoTokens js) key

theorem admitted_iff :
    (∀ found ∈ describedValues env js,
        env.admits js found.1 found.2 = true) ↔
      ∀ key, ∀ value ∈ reachedValues env js key,
        env.admits js key value = true := by
  simp only [← valuesOf_describedValues, valuesOf]
  constructor
  · intro admitted key value listed
    obtain ⟨found, member, rfl⟩ := List.mem_map.mp listed
    obtain ⟨member, isKey⟩ := List.mem_filter.mp member
    rw [← of_decide_eq_true isKey]
    exact admitted found member
  · intro admitted found member
    exact admitted found.1 found.2 (List.mem_map.mpr
      ⟨found, List.mem_filter.mpr ⟨member, by simp⟩, rfl⟩)

theorem reachedValues_within (reached : value ∈ reachedValues env js key) :
    ∀ token ∈ value, token.Within js := by
  obtain ⟨index, -, rfl⟩ := List.mem_map.mp reached
  intro token isToken
  have listed := List.mem_of_getElem? isToken
  exact objectTokens_within js token (List.mem_of_mem_tail
    ((List.dropWhile_suffix _).subset (List.mem_of_mem_drop listed)))

/-- A value has no `NUL`, and it has the length that it has in 32 bits, or
more. -/
theorem value_unterminated (within : ∀ token ∈ value, token.Within js) :
    NUL ∉ env.valueText js value ∧
      (env.valueString js value).length = env.valueLength value := by
  cases value with
  | none =>
      have bound := env.beyond.within
      constructor
      · intro nul
        exact env.beyond.unterminated (List.mem_of_mem_take nul)
      · simp only [DescribeEnv.valueString, DescribeEnv.valueText,
          DescribeEnv.valueLength, List.length_take]
        omega
  | some token =>
      obtain ⟨nonneg, ordered, ends, plain⟩ := within token rfl
      constructor
      · intro nul
        apply plain
        have split : token.stop.toNat =
            token.start.toNat + (token.stop - token.start).toNat := by
          omega
        rw [split, List.take_add, List.mem_append]
        exact Or.inr nul
      · simp only [DescribeEnv.valueString, DescribeEnv.valueText,
          DescribeEnv.valueLength, JsmnTok.text, JsmnTok.strLen,
          List.length_take, List.length_drop]
        omega

end Reached

/-! ### The strings -/

section Strings

variable {env : DescribeEnv} {js : Bytes} {field : TextField}
variable {buffer : Bytes} {values : List (Option JsmnTok)}

theorem strncpyField_eq_lay {maxLen length : Nat} {source : Bytes}
    (plain : NUL ∉ source) (count : (source.take length).length = length)
    (short : length ≤ maxLen) (fits : buffer.length ≤ maxLen) :
    strncpyField maxLen length buffer source =
      Overlay.lay (source.take length) buffer := by
  have copied : (source.take length).takeWhile (· != NUL) =
      source.take length := by
    apply List.takeWhile_eq_self_iff.mpr
    intro c member
    rw [bne_iff_ne]
    rintro rfl
    exact plain (List.mem_of_mem_take member)
  rw [strncpyField, copied, if_neg (by omega), Overlay.lay, count]
  apply List.take_of_length_le
  rw [List.length_append, List.length_drop]
  omega

/-- The values within their limit are written over each other. -/
theorem copiedOver_eq_layAll
    (within : ∀ value ∈ values, ∀ token ∈ value, token.Within js)
    (short : ∀ value ∈ values, env.admits js (.text field) value = true)
    (fits : buffer.length ≤ field.maxLen env.limits) :
    copiedOver env js field buffer values =
      Overlay.layAll buffer (values.map (env.valueString js)) := by
  induction values generalizing buffer with
  | nil => rfl
  | cons value values induction =>
      obtain ⟨valueWithin, laterWithin⟩ := List.forall_mem_cons.mp within
      obtain ⟨valueShort, laterShort⟩ := List.forall_mem_cons.mp short
      obtain ⟨plain, count⟩ := @value_unterminated env js value valueWithin
      have admitted : env.valueLength value ≤ field.maxLen env.limits := by
        simpa [DescribeEnv.admits] using valueShort
      have written := @strncpyField_eq_lay buffer _ _ _ plain count admitted
        fits
      rw [copiedOver, List.foldl_cons, written]
      exact induction laterWithin laterShort
        (Overlay.length_lay_le (count.trans_le admitted) fits)

end Strings

/-! ### The statuses -/

/-- The names begin with different letters. -/
theorem StreamStatus.eq_of_prefix {text : Bytes} {first second : StreamStatus}
    (nonempty : text ≠ []) (isFirst : text <+: first.name)
    (isSecond : text <+: second.name) : first = second := by
  obtain ⟨c, rest, rfl⟩ := List.exists_cons_of_ne_nil nonempty
  have heads : first.name.head? = second.name.head? := by
    obtain ⟨firstRest, first⟩ := isFirst
    obtain ⟨secondRest, second⟩ := isSecond
    rw [← first, ← second]
    rfl
  revert heads
  cases first <;> cases second <;> decide

theorem strncmpEqual_name_iff {text : Bytes} {length : Nat}
    (plain : NUL ∉ text) (count : (text.take length).length = length)
    (status : StreamStatus) :
    strncmpEqual status.name text length = true ↔
      text.take length <+: status.name := by
  rw [strncmpEqual_iff status.nul_not_mem_name plain, List.prefix_iff_eq_take,
    count, eq_comm]

theorem TakenFor.unique {text : Bytes} {first second : StreamStatus}
    (isFirst : TakenFor text first) (isSecond : TakenFor text second) :
    first = second := by
  rcases isFirst with ⟨firstName, firstEmpty⟩ | ⟨isDeleting, unnamed⟩
  · rcases isSecond with ⟨secondName, secondEmpty⟩ | ⟨-, unnamed⟩
    · by_cases empty : text = []
      · exact (firstEmpty empty).trans (secondEmpty empty).symm
      · exact StreamStatus.eq_of_prefix empty firstName secondName
    · exact absurd firstName (unnamed first)
  · rcases isSecond with ⟨secondName, -⟩ | ⟨alsoDeleting, -⟩
    · exact absurd secondName (unnamed second)
    · exact isDeleting.trans alsoDeleting.symm

/-- The status that is read from a string is the one that it is taken for. -/
theorem takenFor_getStreamStatusFromString {text : Bytes} {length : Nat}
    (plain : NUL ∉ text) (count : (text.take length).length = length) :
    TakenFor (text.take length) (getStreamStatusFromString text length) := by
  have reads := strncmpEqual_name_iff plain count
  simp only [getStreamStatusFromString, reads]
  generalize text.take length = text
  have nonempty {status : StreamStatus}
      (unnamed : ¬ text <+: StreamStatus.active.name) :
      text = [] → status = .active := by
    rintro rfl
    exact absurd List.nil_prefix unnamed
  by_cases active : text <+: StreamStatus.active.name
  · rw [if_pos active]
    exact .inl ⟨active, fun _ => rfl⟩
  by_cases creating : text <+: StreamStatus.creating.name
  · rw [if_neg active, if_pos creating]
    exact .inl ⟨creating, nonempty active⟩
  by_cases updating : text <+: StreamStatus.updating.name
  · rw [if_neg active, if_neg creating, if_pos updating]
    exact .inl ⟨updating, nonempty active⟩
  rw [if_neg active, if_neg creating, if_neg updating]
  by_cases deleting : text <+: StreamStatus.deleting.name
  · exact .inl ⟨deleting, nonempty active⟩
  · refine .inr ⟨rfl, fun other => ?_⟩
    cases other with
    | active => exact active
    | creating => exact creating
    | updating => exact updating
    | deleting => exact deleting

/-! ### The retention -/

/-- Multiples of a number that is coprime to the modulus wrap around with their
factors. -/
theorem mul_mod_eq_iff {modulus factor number hours : Nat}
    (coprime : Nat.gcd modulus factor = 1) (nonzero : 0 < modulus)
    (positive : 0 < factor) :
    number * factor % modulus = hours * factor ↔
      hours * factor < modulus ∧ number % modulus = hours := by
  constructor
  · intro same
    have bound : hours * factor < modulus := same ▸ Nat.mod_lt _ nonzero
    have small : hours < modulus :=
      Nat.lt_of_le_of_lt (Nat.le_mul_of_pos_right hours positive) bound
    have wraps : number * factor ≡ hours * factor [MOD modulus] := by
      rw [Nat.ModEq, same, Nat.mod_eq_of_lt bound]
    have cancelled := Nat.ModEq.cancel_right_of_coprime coprime wraps
    rw [Nat.ModEq, Nat.mod_eq_of_lt small] at cancelled
    exact ⟨bound, cancelled⟩
  · intro same
    obtain ⟨bound, rfl⟩ := same
    rw [← Nat.mod_mul_mod, Nat.mod_eq_of_lt bound]

theorem wraps_iff (first second : Nat) :
    2 ^ 11 * first % 2 ^ 64 = 2 ^ 11 * second ↔ first % 2 ^ 53 = second := by
  omega

theorem bounded_iff (second : Nat) :
    2 ^ 11 * second < 2 ^ 64 ↔ second < 2 ^ 53 := by
  omega

theorem hourUnits_eq (count : Nat) :
    count * HUNDREDS_OF_NANOS_IN_AN_HOUR = 2 ^ 11 * (count * 17578125) := by
  rw [HUNDREDS_OF_NANOS_IN_AN_HOUR]
  ring

/-- An hour has eleven factors 2, and 53 are left of the 64. -/
theorem retention_eq_iff {number hours : Nat} :
    number * HUNDREDS_OF_NANOS_IN_AN_HOUR % 2 ^ 64 =
        hours * HUNDREDS_OF_NANOS_IN_AN_HOUR ↔
      hours * HUNDREDS_OF_NANOS_IN_AN_HOUR < 2 ^ 64 ∧
        number % 2 ^ 53 = hours := by
  rw [hourUnits_eq, hourUnits_eq, wraps_iff, bounded_iff]
  exact mul_mod_eq_iff (by decide +kernel) (by decide +kernel) (by decide)

theorem no_retention_iff {hours : Nat} :
    hours * HUNDREDS_OF_NANOS_IN_AN_HOUR = 0 ↔
      hours * HUNDREDS_OF_NANOS_IN_AN_HOUR < 2 ^ 64 ∧ hours = 0 := by
  constructor
  · intro zero
    rcases Nat.mul_eq_zero.mp zero with none | hour
    · rw [none, Nat.zero_mul]
      exact ⟨Nat.two_pow_pos 64, rfl⟩
    · exact absurd hour (by decide)
  · rintro ⟨-, rfl⟩
    exact Nat.zero_mul _

section Members

variable {env : DescribeEnv} {js : Bytes}

theorem streamInfoRetention_eq :
    streamInfoRetention env js =
      (streamInfoHours env js).map (· * HUNDREDS_OF_NANOS_IN_AN_HOUR) := by
  rw [streamInfoRetention, streamInfoHours]
  cases streamInfoValue js DescribeKey.retention.name with
  | none => simp
  | some value => rfl

theorem text_eq_iff (within : ∀ key, ∀ value ∈ reachedValues env js key,
      env.admits js key value = true) (field : TextField) :
    copiedOver env js field []
        (valuesOf (.text field) (describedValues env js)) =
      (streamInfoString js field.name).getD [] ↔
    ∀ place : Nat, ((streamInfoString js field.name).getD [])[place]? =
      (reachedStrings env js (.text field)).reverse.findSome? (·[place]?) := by
  rw [valuesOf_describedValues, copiedOver_eq_layAll
    (fun value reached => reachedValues_within reached)
    (within (.text field)) (Nat.zero_le _)]
  exact Overlay.layAll_nil_eq_iff

theorem status_eq_iff :
    (valuesOf .status (describedValues env js)).getLast?.map
        (statusRead env js) =
      (streamInfoString js DescribeKey.status.name).bind StreamStatus.ofName? ↔
    (reachedValues env js .status = [] → ∀ status : StreamStatus,
        streamInfoString js DescribeKey.status.name ≠ some status.name) ∧
      ∀ text ∈ (reachedStrings env js .status).getLast?,
        ∃ status : StreamStatus,
          streamInfoString js DescribeKey.status.name = some status.name ∧
            TakenFor text status := by
  have stated (status : StreamStatus) :
      (streamInfoString js DescribeKey.status.name).bind StreamStatus.ofName? =
          some status ↔
        streamInfoString js DescribeKey.status.name = some status.name := by
    rw [Option.bind_eq_some_iff]
    simp only [StreamStatus.ofName?_eq_some]
    constructor
    · rintro ⟨text, isText, rfl⟩
      exact isText
    · intro isName
      exact ⟨_, isName, rfl⟩
  rw [valuesOf_describedValues, reachedStrings, List.getLast?_map]
  cases last : (reachedValues env js .status).getLast? with
  | none =>
      have nothing := List.getLast?_eq_none_iff.mp last
      simp only [Option.map_none, nothing, true_imp_iff, Option.not_mem_none,
        false_imp_iff, imp_true_iff, and_true]
      rw [eq_comm, Option.eq_none_iff_forall_ne_some]
      exact forall_congr' fun status => not_congr (stated status)
  | some value =>
      have reached := List.mem_of_getLast? last
      obtain ⟨plain, count⟩ := @value_unterminated env js value
        (reachedValues_within reached)
      have read := takenFor_getStreamStatusFromString plain count
      have nonempty : reachedValues env js .status ≠ [] :=
        List.ne_nil_of_mem reached
      simp only [Option.map_some, nonempty, false_imp_iff, true_and,
        Option.mem_some_iff, forall_eq']
      rw [eq_comm, stated]
      constructor
      · intro isStatus
        exact ⟨_, isStatus, read⟩
      · intro taken
        obtain ⟨status, isStatus, taken⟩ := taken
        rw [isStatus, taken.unique read]
        rfl

theorem retention_read_iff (within : ∀ key, ∀ value ∈ reachedValues env js key,
      env.admits js key value = true) :
    some (((valuesOf .retention (describedValues env js)).getLast?.map
        (retentionRead env js)).getD 0) = streamInfoRetention env js ↔
    ∃ hours ∈ streamInfoHours env js,
      hours * HUNDREDS_OF_NANOS_IN_AN_HOUR < 2 ^ 64 ∧
        (reachedValues env js .retention = [] → hours = 0) ∧
        ∀ value ∈ (reachedValues env js .retention).getLast?, ∃ number,
          env.strToUI64 (env.valueText js value) = .ok number ∧
            number % 2 ^ 53 = hours := by
  rw [valuesOf_describedValues, streamInfoRetention_eq, eq_comm,
    Option.map_eq_some_iff]
  apply exists_congr
  intro hours
  apply and_congr_right
  intro _
  cases last : (reachedValues env js .retention).getLast? with
  | none =>
      have nothing := List.getLast?_eq_none_iff.mp last
      simp only [Option.map_none, Option.getD_none, nothing, true_imp_iff,
        Option.not_mem_none, false_imp_iff, imp_true_iff, and_true,
        -Nat.reducePow]
      exact no_retention_iff
  | some value =>
      have reached := List.mem_of_getLast? last
      have isNumber := within .retention value reached
      obtain ⟨number, read⟩ : ∃ number,
          env.strToUI64 (env.valueText js value) = .ok number := by
        cases read : env.strToUI64 (env.valueText js value) with
        | ok number => exact ⟨number, rfl⟩
        | error code =>
            simp [DescribeEnv.admits, read, Except.isOk, Except.toBool]
              at isNumber
      have nonempty : reachedValues env js .retention ≠ [] :=
        List.ne_nil_of_mem reached
      have hours_eq : hoursRead env js value = number := by
        rw [hoursRead, read]
        rfl
      rw [Option.map_some, Option.getD_some, retentionRead, hours_eq]
      simp only [nonempty, false_imp_iff, true_and, Option.mem_some_iff,
        forall_eq', read, Except.ok.injEq, exists_eq_left', -Nat.reducePow]
      exact eq_comm.trans retention_eq_iff

/-- The condition says that what the loop leaves are the members of the
object. -/
theorem reachesMembers_iff :
    ReachesMembers env js ↔ FindsStreamInfo env js := by
  constructor
  · intro reaches
    constructor
    case isObject => exact reaches.isObject
    case admitted => exact admitted_iff.mpr reaches.within
    case text =>
        exact fun field => (text_eq_iff reaches.within field).mpr
          (reaches.text field)
    case streamStatus =>
        exact status_eq_iff.mpr ⟨reaches.noStatus, reaches.status⟩
    case retention =>
        exact (retention_read_iff reaches.within).mpr reaches.retention
  · intro finds
    have within := admitted_iff.mp finds.admitted
    obtain ⟨noStatus, status⟩ := status_eq_iff.mp finds.streamStatus
    constructor
    case isObject => exact finds.isObject
    case within => exact within
    case text =>
        exact fun field => (text_eq_iff within field).mp (finds.text field)
    case noStatus => exact noStatus
    case status => exact status
    case retention => exact (retention_read_iff within).mp finds.retention

end Members

/-! ### What is reported -/

/-- A response with status 200. -/
def answeredWith (body : String) : HandlerEnv :=
  .answered
    { result := .ok
      responseCode := HTTP_STATUS_CODE_OK
      responseData := bytes body }

theorem reportsOk_answeredWith (body : String) :
    ReportsOk (answeredWith body) :=
  ⟨rfl, rfl, Nat.lt_succ_self 3, rfl, rfl⟩

/-- An object in an object. -/
def streamInfoBody (members : String) : String :=
  "\x7b\"StreamInfo\":\x7b" ++ members ++ "\x7d\x7d"

def sampleDescribeBody : String :=
  streamInfoBody ("\"Status\":\"ACTIVE\",\"StreamName\":\"cam\"," ++
    "\"CreationTime\":1.5E9,\"DataRetentionInHours\":24")

instance (env : DescribeEnv) (js : Bytes) : Decidable (FindsStreamInfo env js) :=
  decidable_of_iff
    ((streamInfo js).isSome ∧
      (∀ found ∈ describedValues env js,
        env.admits js found.1 found.2 = true) ∧
      (∀ field ∈ [TextField.deviceName, .contentType, .kmsKeyId, .streamArn,
          .streamName, .updateVersion],
        copiedOver env js field []
            (valuesOf (.text field) (describedValues env js)) =
          (streamInfoString js (TextField.name field)).getD []) ∧
      ((valuesOf .status (describedValues env js)).getLast?.map
          (statusRead env js) =
        (streamInfoString js DescribeKey.status.name).bind
          StreamStatus.ofName?) ∧
      some (((valuesOf .retention (describedValues env js)).getLast?.map
        (retentionRead env js)).getD 0) = streamInfoRetention env js)
    ⟨fun ⟨isObject, admitted, text, status, retention⟩ =>
        ⟨isObject, admitted, fun field => text field (by cases field <;> simp),
          status, retention⟩,
      fun finds =>
        ⟨finds.isObject, finds.admitted, fun field _ => finds.text field,
          finds.streamStatus, finds.retention⟩⟩

/-- An empty status and an unknown one, a retention that does not fit, one that
is no number, and an object in the object. -/
def sampleMisread : List String :=
  ["\"Status\":\"\"", "\"Status\":\"BROKEN\"",
    "\"DataRetentionInHours\":600000000",
    "\"DataRetentionInHours\":\"day\",\"StreamName\":\"cam\"",
    "\"Tags\":\x7b\"StreamName\":\"other\"\x7d"]

theorem enters_sampleMisread : ∀ members ∈ sampleMisread,
    (behindStreamInfo (bytes (streamInfoBody members))).isSome = true := by
  decide +kernel

theorem not_finds_sampleMisread : ∀ members ∈ sampleMisread,
    ¬ FindsStreamInfo sampleDescribeEnv (bytes (streamInfoBody members)) := by
  decide +kernel

end KvsProducer
