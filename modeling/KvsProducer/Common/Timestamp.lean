import KvsProducer.Common.Text
import KvsProducer.Lib.Decimal

/-!
# Timestamps

`convertTimestampToEpoch` with its arithmetic on doubles taken over the
rationals.  `MKTIME` is taken to differ from the count of the seconds in UTC by
a constant.  What a timestamp states is defined apart from how it is read.
-/

namespace KvsProducer

namespace Common

def STATUS_COMMON_PRODUCER_BASE : Nat := 0x15000000
def STATUS_COMMON_BASE : Nat := 0x16000000

def STATUS_IOT_EXPIRATION_OCCURS_IN_PAST : ErrorCode :=
  .other (STATUS_COMMON_PRODUCER_BASE + 0x17)
def STATUS_IOT_EXPIRATION_PARSING_FAILED : ErrorCode :=
  .other (STATUS_COMMON_PRODUCER_BASE + 0x18)
def STATUS_TIMESTAMP_STRING_UNRECOGNIZED_FORMAT : ErrorCode :=
  .other (STATUS_COMMON_BASE + 5)

def EARLY_EXPIRATION_FACTOR : ℚ := 1

/-- `IOT_EXPIRATION_TIMESTAMP_STR` -/
def timestampFormat : Bytes := bytes "YYYY-MM-DDTHH:mm:SSZ"

/-! ### The calendar -/

/-- The days from 1970-01-01 to the first day of a month, counted in years that
begin in March and eras of 400 years. -/
def daysToMonth (year month : Int) : Int :=
  let shifted := if month ≤ 2 then year - 1 else year
  let era := shifted / 400
  let yearOfEra := shifted % 400
  let monthOfYear := (month + 9) % 12
  let dayOfYear := (153 * monthOfYear + 2) / 5
  let dayOfEra := yearOfEra * 365 + yearOfEra / 4 - yearOfEra / 100 + dayOfYear
  era * 146097 + dayOfEra - 719468

/-- A point in time as a calendar and a clock name it, with months and days
counted from 1. -/
structure CivilTime where
  year : Int
  month : Int
  day : Int
  hour : Int
  minute : Int
  second : Int
  deriving DecidableEq, Repr

/-- The seconds from the start of the epoch in UTC; days and seconds beyond the
end of the month or of the minute count on. -/
def CivilTime.seconds (time : CivilTime) : Int :=
  (daysToMonth time.year time.month + (time.day - 1)) * 86400 +
    time.hour * 3600 + time.minute * 60 + time.second

example : CivilTime.seconds ⟨2019, 1, 31, 23, 0, 59⟩ = 1548975659 := by decide

/-! ### The conversion -/

/-- What the function uses of the platform: `STRTOUI32`, which reads the number
that the bytes between two pointers spell, and how far `MKTIME` is from UTC. -/
structure TimeEnv where
  strToUI32 : Bytes → Except Nat Nat
  mktimeOffset : Int

/-- `STRTOUI32` of a part of the timestamp -/
def readField (env : TimeEnv) (timestamp : Bytes) (start length : Nat) :
    Result Int :=
  match env.strToUI32 ((timestamp.drop start).take length) with
  | .ok value => .ok (Int.bmod value (2 ^ 32))
  | .error code => .error (.failed (.other code))

/-- `(UINT64) MKTIME(..)` -/
def mktime (env : TimeEnv) (seconds : Int) : Nat :=
  ((seconds + env.mktimeOffset) % 2 ^ 64).toNat

def convertTimestampToEpoch (env : TimeEnv) (timestamp : Bytes)
    (nowTime : Nat) : Result Nat := do
  let currentTimeInEpoch := mktime env nowTime
  check (timestamp.length = timestampFormat.length)
    STATUS_TIMESTAMP_STRING_UNRECOGNIZED_FORMAT
  let year ← readField env timestamp 0 4
  let month ← readField env timestamp 5 2
  let day ← readField env timestamp 8 2
  let hour ← readField env timestamp 11 2
  let minute ← readField env timestamp 14 2
  let second ← readField env timestamp 17 2
  check (month - 1 < 12 ∧ 0 ≤ month - 1 ∧ day < 32 ∧ 1 ≤ day ∧
    hour < 24 ∧ 0 ≤ hour ∧ minute < 60 ∧ 0 ≤ minute ∧
    second < 61 ∧ 0 ≤ second) STATUS_IOT_EXPIRATION_PARSING_FAILED
  let expiration : CivilTime := ⟨year, month, day, hour, minute, second⟩
  let iotExpirationInEpoch := mktime env expiration.seconds
  check (currentTimeInEpoch ≤ iotExpirationInEpoch)
    STATUS_IOT_EXPIRATION_OCCURS_IN_PAST
  let diff := iotExpirationInEpoch - currentTimeInEpoch
  let seconds : ℚ := nowTime + diff * EARLY_EXPIRATION_FACTOR
  defined (seconds < 2 ^ 64)
  .ok (⌊seconds⌋.toNat * HUNDREDS_OF_NANOS_IN_A_SECOND % 2 ^ 64)

/-- The part of the function that reads the numbers. -/
def readFields (env : TimeEnv) (timestamp : Bytes) : Result CivilTime := do
  check (timestamp.length = timestampFormat.length)
    STATUS_TIMESTAMP_STRING_UNRECOGNIZED_FORMAT
  let year ← readField env timestamp 0 4
  let month ← readField env timestamp 5 2
  let day ← readField env timestamp 8 2
  let hour ← readField env timestamp 11 2
  let minute ← readField env timestamp 14 2
  let second ← readField env timestamp 17 2
  check (month - 1 < 12 ∧ 0 ≤ month - 1 ∧ day < 32 ∧ 1 ≤ day ∧
    hour < 24 ∧ 0 ≤ hour ∧ minute < 60 ∧ 0 ≤ minute ∧
    second < 61 ∧ 0 ≤ second) STATUS_IOT_EXPIRATION_PARSING_FAILED
  .ok ⟨year, month, day, hour, minute, second⟩

/-- The part that compares the instants. -/
def convertInstant (env : TimeEnv) (nowTime : Nat) (instant : Int) :
    Result Nat := do
  check (mktime env nowTime ≤ mktime env instant)
    STATUS_IOT_EXPIRATION_OCCURS_IN_PAST
  let diff := mktime env instant - mktime env nowTime
  let seconds : ℚ := nowTime + diff * EARLY_EXPIRATION_FACTOR
  defined (seconds < 2 ^ 64)
  .ok (⌊seconds⌋.toNat * HUNDREDS_OF_NANOS_IN_A_SECOND % 2 ^ 64)

theorem convertTimestampToEpoch_eq {env : TimeEnv} {timestamp : Bytes}
    {nowTime : Nat} :
    convertTimestampToEpoch env timestamp nowTime =
      readFields env timestamp >>= fun time =>
        convertInstant env nowTime time.seconds := by
  simp only [convertTimestampToEpoch, readFields, convertInstant, bind_assoc,
    ok_bind]

/-! ### What a timestamp states -/

def daysInMonth (year month : Int) : Int :=
  daysToMonth (if month = 12 then year + 1 else year)
    (if month = 12 then 1 else month + 1) - daysToMonth year month

example : daysInMonth 2024 2 = 29 ∧ daysInMonth 2100 2 = 28 := by decide

/-- The clock and the calendar have that time; a minute may have a leap
second. -/
def CivilTime.Exists (time : CivilTime) : Prop :=
  1 ≤ time.month ∧ time.month ≤ 12 ∧ 1 ≤ time.day ∧
    time.day ≤ daysInMonth time.year time.month ∧
    0 ≤ time.hour ∧ time.hour < 24 ∧ 0 ≤ time.minute ∧ time.minute < 60 ∧
    0 ≤ time.second ∧ time.second < 61

instance (time : CivilTime) : Decidable time.Exists :=
  inferInstanceAs (Decidable (_ ∧ _))

/-- A part of the timestamp as a number. -/
def timestampField (timestamp : Bytes) (start length : Nat) : Option Nat :=
  decimal ((timestamp.drop start).take length)

/-- The numbers are in the ranges that are checked. -/
def CivilTime.InRange (time : CivilTime) : Prop :=
  1 ≤ time.month ∧ time.month ≤ 12 ∧ 1 ≤ time.day ∧ time.day < 32 ∧
    0 ≤ time.hour ∧ time.hour < 24 ∧ 0 ≤ time.minute ∧ time.minute < 60 ∧
    0 ≤ time.second ∧ time.second < 61

instance (time : CivilTime) : Decidable time.InRange :=
  inferInstanceAs (Decidable (_ ∧ _))

/-- The bytes of the format that are not letters for digits. -/
def hasSeparators (timestamp : Bytes) : Bool :=
  timestamp.length == timestampFormat.length &&
    [4, 7, 10, 13, 16, 19].all fun index =>
      timestamp[index]? == timestampFormat[index]?

/-- The time that a timestamp states, if it is one. -/
def statedTime (timestamp : Bytes) : Option CivilTime :=
  if hasSeparators timestamp then do
    let year ← timestampField timestamp 0 4
    let month ← timestampField timestamp 5 2
    let day ← timestampField timestamp 8 2
    let hour ← timestampField timestamp 11 2
    let minute ← timestampField timestamp 14 2
    let second ← timestampField timestamp 17 2
    let time : CivilTime := ⟨year, month, day, hour, minute, second⟩
    if time.Exists then some time else none
  else none

/-- The instant that it states, in seconds. -/
def statedInstant (timestamp : Bytes) : Option Int :=
  (statedTime timestamp).map CivilTime.seconds

/-- The six numbers of a string of the length of the format, if they are in
range, whatever stands between them. -/
def readTime (timestamp : Bytes) : Option CivilTime :=
  if timestamp.length = timestampFormat.length then do
    let year ← timestampField timestamp 0 4
    let month ← timestampField timestamp 5 2
    let day ← timestampField timestamp 8 2
    let hour ← timestampField timestamp 11 2
    let minute ← timestampField timestamp 14 2
    let second ← timestampField timestamp 17 2
    let time : CivilTime := ⟨year, month, day, hour, minute, second⟩
    if time.InRange then some time else none
  else none

/-- The current time and the early-expiration share of the difference, in units
of 100 ns. -/
def earlyExpiration (nowTime : Nat) (instant : Int) : Nat :=
  ⌊(nowTime : ℚ) + (instant - nowTime) * EARLY_EXPIRATION_FACTOR⌋.toNat *
    HUNDREDS_OF_NANOS_IN_A_SECOND

/-- `STRTOUI32` reads numbers that fit as the decimal numbers that they are. -/
def TimeEnv.ReadsDigits (env : TimeEnv) : Prop :=
  ∀ text value, decimal text = some value → value < 2 ^ 32 →
    env.strToUI32 text = .ok value

/-! ### What is read of a timestamp -/

section Reading

variable {env : TimeEnv} {timestamp : Bytes} {start length value : Nat}

theorem readField_of_timestampField (digits : env.ReadsDigits)
    (short : length ≤ 4)
    (field : timestampField timestamp start length = some value) :
    readField env timestamp start length = .ok (value : Int) ∧
      value < 10 ^ length := by
  have small : value < 10 ^ length := by
    refine Nat.lt_of_lt_of_le (Decimal.natural_lt field) ?_
    exact Nat.pow_le_pow_right (by omega) (List.length_take_le _ _)
  have bound : 10 ^ length ≤ 10 ^ 4 :=
    Nat.pow_le_pow_right (by omega) short
  have read := digits _ _ field (by omega)
  refine ⟨?_, small⟩
  simp only [readField, read, Except.ok.injEq, Int.bmod]
  omega

theorem readTime_eq_some {time : CivilTime}
    (isTime : readTime timestamp = some time) :
    timestamp.length = timestampFormat.length ∧ time.InRange ∧
      ∃ year month day hour minute second : Nat,
        time = ⟨year, month, day, hour, minute, second⟩ ∧
        timestampField timestamp 0 4 = some year ∧
        timestampField timestamp 5 2 = some month ∧
        timestampField timestamp 8 2 = some day ∧
        timestampField timestamp 11 2 = some hour ∧
        timestampField timestamp 14 2 = some minute ∧
        timestampField timestamp 17 2 = some second := by
  simp only [readTime] at isTime
  split at isTime
  · rename_i length
    simp only [Option.bind_eq_bind, Option.bind_eq_some_iff] at isTime
    obtain ⟨year, hasYear, month, hasMonth, day, hasDay, hour, hasHour, minute,
      hasMinute, second, hasSecond, valid⟩ := isTime
    split at valid
    · rename_i inRange
      cases valid
      exact ⟨length, inRange, year, month, day, hour, minute, second, rfl,
        hasYear, hasMonth, hasDay, hasHour, hasMinute, hasSecond⟩
    · cases valid
  · cases isTime

theorem readFields_of_readTime (digits : env.ReadsDigits) {time : CivilTime}
    (isTime : readTime timestamp = some time) :
    readFields env timestamp = .ok time := by
  obtain ⟨length, inRange, year, month, day, hour, minute, second, rfl,
    hasYear, hasMonth, hasDay, hasHour, hasMinute, hasSecond⟩ :=
    readTime_eq_some isTime
  have reads {start count number : Nat} (short : count ≤ 4)
      (field : timestampField timestamp start count = some number) :=
    (readField_of_timestampField digits short field).1
  simp only [readFields, reads (by omega) hasYear, reads (by omega) hasMonth,
    reads (by omega) hasDay, reads (by omega) hasHour,
    reads (by omega) hasMinute, reads (by omega) hasSecond, ok_bind,
    bind_eq_ok, check_eq_ok]
  refine ⟨(), length, (), ?_, trivial⟩
  simp only [CivilTime.InRange] at inRange
  omega

theorem daysInMonth_le {year month : Int} (first : 1 ≤ month)
    (last : month ≤ 12) : daysInMonth year month ≤ 31 := by
  simp only [daysInMonth, daysToMonth]
  interval_cases month <;> omega

theorem exists_iff_inRange {time : CivilTime} :
    time.Exists ↔
      time.InRange ∧ time.day ≤ daysInMonth time.year time.month := by
  constructor
  · intro real
    obtain ⟨first, last, firstDay, lastDay, clock⟩ := real
    have days := @daysInMonth_le time.year time.month first last
    exact ⟨⟨first, last, firstDay, by omega, clock⟩, lastDay⟩
  · intro parts
    obtain ⟨⟨first, last, firstDay, -, clock⟩, lastDay⟩ := parts
    exact ⟨first, last, firstDay, lastDay, clock⟩

/-- A string states a time if it has the separators, too, and the month has
the day. -/
theorem statedTime_eq_some_iff {time : CivilTime} :
    statedTime timestamp = some time ↔
      readTime timestamp = some time ∧ hasSeparators timestamp = true ∧
        time.day ≤ daysInMonth time.year time.month := by
  by_cases separators : hasSeparators timestamp = true
  · have length : timestamp.length = timestampFormat.length := by
      simp only [hasSeparators, Bool.and_eq_true, beq_iff_eq] at separators
      exact separators.1
    simp only [statedTime, readTime, if_pos separators, if_pos length,
      Option.bind_eq_bind, Option.bind_eq_some_iff,
      Option.ite_none_right_eq_some, Option.some.injEq, exists_iff_inRange]
    constructor
    · intro stated
      obtain ⟨year, hasYear, month, hasMonth, day, hasDay, hour, hasHour,
        minute, hasMinute, second, hasSecond, ⟨inRange, real⟩, rfl⟩ := stated
      exact ⟨⟨year, hasYear, month, hasMonth, day, hasDay, hour, hasHour,
        minute, hasMinute, second, hasSecond, inRange, rfl⟩, separators, real⟩
    · intro read
      obtain ⟨⟨year, hasYear, month, hasMonth, day, hasDay, hour, hasHour,
        minute, hasMinute, second, hasSecond, inRange, rfl⟩, -, real⟩ := read
      exact ⟨year, hasYear, month, hasMonth, day, hasDay, hour, hasHour,
        minute, hasMinute, second, hasSecond, ⟨inRange, real⟩, rfl⟩
  · simp [statedTime, separators]

/-- Every month of a year with four digits is not far from the epoch. -/
theorem daysToMonth_bounds {year month : Int} (first : 0 ≤ year)
    (last : year < 10000) :
    -720000 ≤ daysToMonth year month ∧ daysToMonth year month ≤ 3000000 := by
  simp only [daysToMonth]
  omega

theorem CivilTime.seconds_bounds {time : CivilTime} (first : 0 ≤ time.year)
    (last : time.year < 10000) (inRange : time.InRange) :
    -2 ^ 36 ≤ time.seconds ∧ time.seconds < 2 ^ 38 := by
  obtain ⟨-, -, firstDay, lastDay, hour, lastHour, minute, lastMinute,
    second, lastSecond⟩ := inRange
  have days := @daysToMonth_bounds _ time.month first last
  simp only [CivilTime.seconds]
  omega

theorem seconds_of_readTime {time : CivilTime}
    (isTime : readTime timestamp = some time) :
    -2 ^ 36 ≤ time.seconds ∧ time.seconds < 2 ^ 38 := by
  obtain ⟨-, inRange, year, month, day, hour, minute, second, rfl,
    hasYear, -⟩ := readTime_eq_some isTime
  have fourDigits : year < 10 ^ 4 := by
    refine Nat.lt_of_lt_of_le (Decimal.natural_lt hasYear) ?_
    exact Nat.pow_le_pow_right (by omega) (List.length_take_le _ _)
  apply CivilTime.seconds_bounds (Int.natCast_nonneg year) _ inRange
  simp only
  omega

/-- The difference of two times does not depend on where they are counted
from. -/
theorem mktime_sub {instant : Int} {nowTime : Nat} (notPast : nowTime ≤ instant)
    (small : instant < 2 ^ 38)
    (ordered : mktime env nowTime ≤ mktime env instant) :
    ((mktime env instant - mktime env nowTime : Nat) : Int) =
      instant - nowTime := by
  simp only [mktime] at ordered ⊢
  omega

theorem earlyExpiration_eq (nowTime : Nat) (instant : Int) :
    earlyExpiration nowTime instant =
      instant.toNat * HUNDREDS_OF_NANOS_IN_A_SECOND := by
  have early : (nowTime : ℚ) + (instant - nowTime) * EARLY_EXPIRATION_FACTOR =
      ((instant : ℤ) : ℚ) := by
    rw [EARLY_EXPIRATION_FACTOR]
    ring
  rw [earlyExpiration, early, Int.floor_intCast]

/-- An instant that is not in the past is converted, if the counts are in the
same range. -/
theorem convertInstant_ahead {nowTime : Nat} {instant : Int}
    (notPast : (nowTime : Int) ≤ instant)
    (small : instant < 2 ^ 38)
    (ordered : mktime env nowTime ≤ mktime env instant) :
    convertInstant env nowTime instant =
      .ok (earlyExpiration nowTime instant) := by
  have difference := mktime_sub notPast small ordered
  simp only [convertInstant, check_met ordered, ok_bind]
  generalize mktime env instant - mktime env nowTime = diff at difference ⊢
  have seconds : (nowTime : ℚ) + diff * EARLY_EXPIRATION_FACTOR =
      ((instant : ℤ) : ℚ) := by
    rw [EARLY_EXPIRATION_FACTOR, mul_one]
    exact_mod_cast (by omega : (nowTime : ℤ) + diff = instant)
  have bounded : ((instant : ℤ) : ℚ) < 2 ^ 64 := by
    exact_mod_cast (by omega : instant < 2 ^ 64)
  have whole : instant.toNat * HUNDREDS_OF_NANOS_IN_A_SECOND < 2 ^ 64 := by
    simp only [HUNDREDS_OF_NANOS_IN_A_SECOND]
    omega
  rw [seconds, defined_met bounded, ok_bind, earlyExpiration_eq,
    Int.floor_intCast, Nat.mod_eq_of_lt whole]

/-- A timestamp that states an instant that is not in the past is converted to
that instant, if it is converted. -/
theorem convertTimestampToEpoch_of_stated {instant : Int}
    {nowTime expiration : Nat} (digits : env.ReadsDigits)
    (stated : statedInstant timestamp = some instant)
    (notPast : nowTime ≤ instant)
    (converts : convertTimestampToEpoch env timestamp nowTime =
      .ok expiration) :
    expiration = earlyExpiration nowTime instant := by
  obtain ⟨time, isStated, rfl⟩ := Option.map_eq_some_iff.mp stated
  have isTime := (statedTime_eq_some_iff.mp isStated).1
  have small := (seconds_of_readTime isTime).2
  rw [convertTimestampToEpoch_eq, readFields_of_readTime digits isTime,
    ok_bind] at converts
  obtain ⟨_, ordered, -⟩ := bind_eq_ok.mp converts
  rw [convertInstant_ahead notPast small (check_eq_ok.mp ordered)] at converts
  exact (Except.ok.inj converts).symm

end Reading

/-- A clock in UTC, and digits only. -/
def sampleTimeEnv : TimeEnv where
  strToUI32 text :=
    match decimal text with
    | some value => if value < 2 ^ 32 then .ok value else .error 1
    | none => .error 1
  mktimeOffset := 0

theorem readsDigits_sampleTimeEnv : sampleTimeEnv.ReadsDigits := by
  intro text value spells small
  simp only [sampleTimeEnv, spells, if_pos small]

example : convertTimestampToEpoch sampleTimeEnv (bytes "2019-01-31T23:00:59Z")
    1548972059 = .ok 15489756590000000 := by
  decide +kernel

end Common

end KvsProducer
