import KvsProducer.Common.Timestamp

/-!
# The grammar of timestamps

`convertTimestampToEpoch` reads six numbers at fixed places and leaves the
separators and the lengths of the months to chance.  The two counts of seconds
are compared without their signs.
-/

namespace KvsProducer

namespace Common

open Outcome

/-- `STRTOUI32` reads nothing but decimal numbers. -/
def TimeEnv.ReadsOnlyDigits (env : TimeEnv) : Prop :=
  ∀ text value, env.strToUI32 text = .ok value → decimal text = some value

/-- The string is converted exactly if it states an instant that is not in the
past, and without anything that is undefined. -/
structure ConvertsStated (env : TimeEnv) (timestamp : Bytes) (nowTime : Nat) :
    Prop where
  converts_iff : ∀ expiration,
    convertTimestampToEpoch env timestamp nowTime = .ok expiration ↔
      ∃ instant ∈ statedInstant timestamp, (nowTime : Int) ≤ instant ∧
        expiration = earlyExpiration nowTime instant
  isDefined : convertTimestampToEpoch env timestamp nowTime ≠ .error .undefined

/-! ### What is read -/

/-- The counts of two instants are in the same range of 64 bits; where nothing
is beyond 64 bits, neither of them is below 0, or both are. -/
def SameRange (env : TimeEnv) (nowTime : Nat) (instant : Int) : Prop :=
  (nowTime + env.mktimeOffset) / 2 ^ 64 = (instant + env.mktimeOffset) / 2 ^ 64

/-- For a string whose six numbers are in range: it has the separators and the
month has the day exactly if the counts are in the same range; and they are, if
the instant is in the past. -/
structure TimestampFits (env : TimeEnv) (timestamp : Bytes) (nowTime : Nat) :
    Prop where
  ahead : ∀ time ∈ readTime timestamp, (nowTime : Int) ≤ time.seconds →
    (hasSeparators timestamp = true ∧
        time.day ≤ daysInMonth time.year time.month ↔
      SameRange env nowTime time.seconds)
  past : ∀ time ∈ readTime timestamp, time.seconds < nowTime →
    SameRange env nowTime time.seconds

/-- The failure is a status that is returned. -/
def Fault.IsStatus (fault : Fault) : Prop :=
  ∃ status, fault = .failed status

section Reading

variable {env : TimeEnv} {timestamp : Bytes}

theorem readField_ends (digits : env.ReadsDigits)
    (onlyDigits : env.ReadsOnlyDigits) {start length : Nat}
    (short : length ≤ 4) :
    Ends Fault.IsStatus
      (fun value : Int => ∃ number : Nat,
        timestampField timestamp start length = some number ∧ value = number)
      (readField env timestamp start length) := by
  cases read : env.strToUI32 ((timestamp.drop start).take length) with
  | error code =>
      simp only [readField, read]
      exact ⟨_, rfl⟩
  | ok number =>
      have field : timestampField timestamp start length = some number :=
        onlyDigits _ _ read
      rw [(readField_of_timestampField digits short field).1]
      exact ⟨number, field, rfl⟩

theorem readFields_ends (digits : env.ReadsDigits)
    (onlyDigits : env.ReadsOnlyDigits) :
    Ends Fault.IsStatus (fun time => readTime timestamp = some time)
      (readFields env timestamp) := by
  have field (start length : Nat) (short : length ≤ 4) :=
    @readField_ends env timestamp digits onlyDigits start length short
  apply (check_ends (.inr ⟨_, rfl⟩)).bind
  intro _ length
  apply (field 0 4 (by omega)).bind
  intro _ read
  obtain ⟨year, hasYear, rfl⟩ := read
  apply (field 5 2 (by omega)).bind
  intro _ read
  obtain ⟨month, hasMonth, rfl⟩ := read
  apply (field 8 2 (by omega)).bind
  intro _ read
  obtain ⟨day, hasDay, rfl⟩ := read
  apply (field 11 2 (by omega)).bind
  intro _ read
  obtain ⟨hour, hasHour, rfl⟩ := read
  apply (field 14 2 (by omega)).bind
  intro _ read
  obtain ⟨minute, hasMinute, rfl⟩ := read
  apply (field 17 2 (by omega)).bind
  intro _ read
  obtain ⟨second, hasSecond, rfl⟩ := read
  apply (check_ends (.inr ⟨_, rfl⟩)).bind
  intro _ inRange
  have ranges : CivilTime.InRange ⟨year, month, day, hour, minute, second⟩ := by
    simp only [CivilTime.InRange]
    omega
  simp [readTime, length, hasYear, hasMonth, hasDay, hasHour, hasMinute,
    hasSecond, ranges]

end Reading

/-! ### The comparison -/

section Comparison

variable {env : TimeEnv} {nowTime : Nat} {instant : Int}

theorem mktime_le_iff (near : (instant - nowTime).natAbs < 2 ^ 63) :
    mktime env nowTime ≤ mktime env instant ↔
      ((nowTime : Int) ≤ instant ↔ SameRange env nowTime instant) := by
  simp only [mktime, SameRange]
  omega

theorem convertInstant_rejects
    (disordered : ¬ mktime env nowTime ≤ mktime env instant) :
    convertInstant env nowTime instant =
      .error (.failed STATUS_IOT_EXPIRATION_OCCURS_IN_PAST) := by
  rw [convertInstant, check_unmet disordered]
  rfl

theorem mktime_sub_behind (behind : instant < nowTime)
    (near : (instant - nowTime).natAbs < 2 ^ 63)
    (ordered : mktime env nowTime ≤ mktime env instant) :
    ((mktime env instant - mktime env nowTime : Nat) : Int) =
      2 ^ 64 + instant - nowTime := by
  simp only [mktime] at ordered ⊢
  omega

/-- An instant in the past that is not rejected is converted exactly if it is
before the epoch. -/
theorem convertInstant_behind (behind : instant < nowTime)
    (near : (instant - nowTime).natAbs < 2 ^ 63)
    (ordered : mktime env nowTime ≤ mktime env instant) :
    instant < 0 ∧ (∃ expiration,
        convertInstant env nowTime instant = .ok expiration) ∨
      0 ≤ instant ∧
        convertInstant env nowTime instant = .error .undefined := by
  have difference := mktime_sub_behind behind near ordered
  rw [convertInstant, check_met ordered, ok_bind]
  generalize mktime env instant - mktime env nowTime = diff at difference ⊢
  have seconds : (nowTime : ℚ) + diff * EARLY_EXPIRATION_FACTOR =
      ((2 ^ 64 + instant : ℤ) : ℚ) := by
    rw [EARLY_EXPIRATION_FACTOR, mul_one]
    exact_mod_cast (by omega : (nowTime : ℤ) + diff = 2 ^ 64 + instant)
  dsimp only
  rw [seconds]
  by_cases before : instant < 0
  · have bounded : ((2 ^ 64 + instant : ℤ) : ℚ) < 2 ^ 64 := by
      exact_mod_cast (by omega : 2 ^ 64 + instant < 2 ^ 64)
    left
    rw [defined_met bounded]
    exact ⟨before, _, rfl⟩
  · have beyond : ¬ ((2 ^ 64 + instant : ℤ) : ℚ) < 2 ^ 64 := by
      exact_mod_cast (by omega : ¬ 2 ^ 64 + instant < 2 ^ 64)
    right
    rw [defined_unmet beyond]
    exact ⟨Int.not_lt.mp before, rfl⟩

end Comparison

/-! ### The whole function -/

/-- The numbers of the string are in range, and their instant is taken for one
that is not in the past. -/
def TimestampAccepted (env : TimeEnv) (timestamp : Bytes) (nowTime : Nat) :
    Prop :=
  ∃ time ∈ readTime timestamp,
    (nowTime : Int) ≤ time.seconds ∧ SameRange env nowTime time.seconds ∨
      time.seconds < 0 ∧ ¬ SameRange env nowTime time.seconds

/-- No instant in the past is taken for one that cannot be converted. -/
def TimestampDefined (env : TimeEnv) (timestamp : Bytes) (nowTime : Nat) :
    Prop :=
  ∀ time ∈ readTime timestamp, 0 ≤ time.seconds → time.seconds < nowTime →
    SameRange env nowTime time.seconds

/-- The string states an instant that is not in the past. -/
def StatesUnexpired (timestamp : Bytes) (nowTime : Nat) : Prop :=
  ∃ instant ∈ statedInstant timestamp, (nowTime : Int) ≤ instant

section Whole

variable {env : TimeEnv} {timestamp : Bytes} {nowTime : Nat}

theorem statesUnexpired_iff {time : CivilTime}
    (isTime : readTime timestamp = some time) :
    StatesUnexpired timestamp nowTime ↔
      (hasSeparators timestamp = true ∧
        time.day ≤ daysInMonth time.year time.month) ∧
          (nowTime : Int) ≤ time.seconds := by
  constructor
  · intro states
    obtain ⟨instant, stated, notPast⟩ := states
    obtain ⟨other, isOther, rfl⟩ := Option.map_eq_some_iff.mp stated
    obtain ⟨isRead, real⟩ := statedTime_eq_some_iff.mp isOther
    cases isTime.symm.trans isRead
    exact ⟨real, notPast⟩
  · intro isReal
    obtain ⟨real, notPast⟩ := isReal
    have stated := statedTime_eq_some_iff.mpr ⟨isTime, real⟩
    exact ⟨time.seconds, Option.map_eq_some_iff.mpr ⟨time, stated, rfl⟩,
      notPast⟩

theorem not_statesUnexpired (unread : readTime timestamp = none) :
    ¬ StatesUnexpired timestamp nowTime := by
  intro states
  obtain ⟨instant, stated, -⟩ := states
  obtain ⟨time, isTime, -⟩ := Option.map_eq_some_iff.mp stated
  have isRead := (statedTime_eq_some_iff.mp isTime).1
  rw [unread] at isRead
  cases isRead

theorem convertTimestampToEpoch_of_unread (digits : env.ReadsDigits)
    (onlyDigits : env.ReadsOnlyDigits) (unread : readTime timestamp = none) :
    ∃ status, convertTimestampToEpoch env timestamp nowTime =
      .error (.failed status) := by
  have ends := @readFields_ends env timestamp digits onlyDigits
  rw [convertTimestampToEpoch_eq]
  cases reads : readFields env timestamp with
  | ok time =>
      have isTime := ends.of_ok reads
      rw [unread] at isTime
      cases isTime
  | error fault =>
      obtain ⟨status, rfl⟩ := ends.of_error reads
      exact ⟨status, rfl⟩

theorem convertTimestampToEpoch_of_read (digits : env.ReadsDigits)
    {time : CivilTime} (isTime : readTime timestamp = some time) :
    convertTimestampToEpoch env timestamp nowTime =
      convertInstant env nowTime time.seconds := by
  rw [convertTimestampToEpoch_eq, readFields_of_readTime digits isTime]
  rfl

theorem near_of_readTime {time : CivilTime}
    (isTime : readTime timestamp = some time)
    (ticks : nowTime ≤ 2 ^ 64 / HUNDREDS_OF_NANOS_IN_A_SECOND) :
    (time.seconds - nowTime).natAbs < 2 ^ 63 := by
  have bounds := seconds_of_readTime isTime
  simp only [HUNDREDS_OF_NANOS_IN_A_SECOND] at ticks
  omega

/-- How the conversion ends, from the order of the two instants and whether
their counts are in the same range. -/
theorem convertTimestampToEpoch_cases (digits : env.ReadsDigits)
    {time : CivilTime} (isTime : readTime timestamp = some time)
    (ticks : nowTime ≤ 2 ^ 64 / HUNDREDS_OF_NANOS_IN_A_SECOND) :
    ((nowTime : Int) ≤ time.seconds ∧ SameRange env nowTime time.seconds ∧
        convertTimestampToEpoch env timestamp nowTime =
          .ok (earlyExpiration nowTime time.seconds)) ∨
      (time.seconds < 0 ∧ ¬ SameRange env nowTime time.seconds ∧
        ∃ expiration, convertTimestampToEpoch env timestamp nowTime =
          .ok expiration) ∨
      (0 ≤ time.seconds ∧ time.seconds < nowTime ∧
        ¬ SameRange env nowTime time.seconds ∧
        convertTimestampToEpoch env timestamp nowTime = .error .undefined) ∨
      (((nowTime : Int) ≤ time.seconds ↔ ¬ SameRange env nowTime time.seconds) ∧
        ∃ status, convertTimestampToEpoch env timestamp nowTime =
          .error (.failed status)) := by
  have near := near_of_readTime isTime ticks
  have order := @mktime_le_iff env nowTime time.seconds near
  have small := (seconds_of_readTime isTime).2
  rw [convertTimestampToEpoch_of_read digits isTime]
  by_cases ordered : mktime env nowTime ≤ mktime env time.seconds
  · have order := order.mp ordered
    by_cases notPast : (nowTime : Int) ≤ time.seconds
    · exact .inl ⟨notPast, order.mp notPast,
        convertInstant_ahead notPast small ordered⟩
    · have outside : ¬ SameRange env nowTime time.seconds :=
        fun inRange => notPast (order.mpr inRange)
      have behind := Int.not_le.mp notPast
      rcases convertInstant_behind behind near ordered with
        ⟨before, converts⟩ | ⟨behindEpoch, isUndefined⟩
      · exact .inr (.inl ⟨before, outside, converts⟩)
      · exact .inr (.inr (.inl ⟨behindEpoch, behind, outside, isUndefined⟩))
  · have disorder := fun agrees => ordered (order.mpr agrees)
    refine .inr (.inr (.inr ⟨?_, _, convertInstant_rejects ordered⟩))
    constructor
    · intro notPast inRange
      exact disorder ⟨fun _ => inRange, fun _ => notPast⟩
    · intro outside
      by_contra past
      exact disorder ⟨fun ahead => absurd ahead past,
        fun inRange => absurd inRange outside⟩

theorem converts_iff_accepted (digits : env.ReadsDigits)
    (onlyDigits : env.ReadsOnlyDigits)
    (ticks : nowTime ≤ 2 ^ 64 / HUNDREDS_OF_NANOS_IN_A_SECOND) :
    (∃ expiration, convertTimestampToEpoch env timestamp nowTime =
        .ok expiration) ↔
      TimestampAccepted env timestamp nowTime := by
  cases isTime : readTime timestamp with
  | none =>
      obtain ⟨status, rejects⟩ := @convertTimestampToEpoch_of_unread env
        timestamp nowTime digits onlyDigits isTime
      simp [rejects, TimestampAccepted, isTime]
  | some time =>
      simp only [TimestampAccepted, isTime, Option.mem_some_iff,
        exists_eq_left']
      rcases convertTimestampToEpoch_cases digits isTime ticks with
        ⟨notPast, inRange, converts⟩ | ⟨before, outside, converts⟩ |
          ⟨behindEpoch, behind, outside, isUndefined⟩ | ⟨differ, status, rejects⟩
      · simp [notPast, inRange, converts]
      · simp [before, outside, converts]
      · simp [Int.not_lt.mpr behindEpoch, outside, isUndefined]
      · have unaccepted : ¬ ((nowTime : Int) ≤ time.seconds ∧
            SameRange env nowTime time.seconds ∨
              time.seconds < 0 ∧ ¬ SameRange env nowTime time.seconds) := by
          intro accepted
          rcases accepted with ⟨notPast, inRange⟩ | ⟨before, outside⟩
          · exact differ.mp notPast inRange
          · have notPast := differ.mpr outside
            omega
        simp [rejects, unaccepted]

theorem converts_defined_iff (digits : env.ReadsDigits)
    (onlyDigits : env.ReadsOnlyDigits)
    (ticks : nowTime ≤ 2 ^ 64 / HUNDREDS_OF_NANOS_IN_A_SECOND) :
    convertTimestampToEpoch env timestamp nowTime ≠ .error .undefined ↔
      TimestampDefined env timestamp nowTime := by
  cases isTime : readTime timestamp with
  | none =>
      obtain ⟨status, rejects⟩ := @convertTimestampToEpoch_of_unread env
        timestamp nowTime digits onlyDigits isTime
      simp [rejects, TimestampDefined, isTime]
  | some time =>
      simp only [TimestampDefined, isTime, Option.mem_some_iff, forall_eq']
      rcases convertTimestampToEpoch_cases digits isTime ticks with
        ⟨notPast, inRange, converts⟩ | ⟨before, outside, ⟨_, converts⟩⟩ |
          ⟨behindEpoch, behind, outside, isUndefined⟩ | ⟨differ, status, rejects⟩
      · simp [inRange, converts]
      · simp [Int.not_le.mpr before, converts]
      · simp [behindEpoch, behind, outside, isUndefined]
      · have inRange : time.seconds < nowTime →
            SameRange env nowTime time.seconds := by
          intro behind
          by_contra outside
          exact absurd (differ.mpr outside) (Int.not_le.mpr behind)
        simp only [rejects, ne_eq, Except.error.injEq, reduceCtorEq,
          not_false_eq_true, true_iff]
        exact fun _ => inRange

/-- The condition says that the conversion is defined, and that it accepts the
strings that state an instant that is not in the past. -/
theorem timestampFits_iff :
    TimestampFits env timestamp nowTime ↔
      TimestampDefined env timestamp nowTime ∧
        (TimestampAccepted env timestamp nowTime ↔
          StatesUnexpired timestamp nowTime) := by
  cases isTime : readTime timestamp with
  | none =>
      have states := @not_statesUnexpired timestamp nowTime isTime
      constructor
      · intro _
        simp [TimestampDefined, TimestampAccepted, isTime, states]
      · intro _
        constructor <;> simp [isTime]
  | some time =>
      have states := @statesUnexpired_iff timestamp nowTime time isTime
      have fits : TimestampFits env timestamp nowTime ↔
          ((nowTime : Int) ≤ time.seconds →
            (hasSeparators timestamp = true ∧
                time.day ≤ daysInMonth time.year time.month ↔
              SameRange env nowTime time.seconds)) ∧
          (time.seconds < nowTime → SameRange env nowTime time.seconds) := by
        constructor
        · intro fits
          exact ⟨fits.ahead time isTime, fits.past time isTime⟩
        · intro bounds
          constructor
          case ahead =>
              intro other isOther
              cases isTime.symm.trans isOther
              exact bounds.1
          case past =>
              intro other isOther
              cases isTime.symm.trans isOther
              exact bounds.2
      rw [fits, states]
      simp only [TimestampDefined, TimestampAccepted, isTime,
        Option.mem_some_iff, forall_eq', exists_eq_left']
      generalize (hasSeparators timestamp = true ∧
        time.day ≤ daysInMonth time.year time.month) = real
      generalize SameRange env nowTime time.seconds = same
      rcases lt_or_ge time.seconds nowTime with behind | notPast
      · have past := Int.not_le.mpr behind
        by_cases before : time.seconds < 0
        · simp [behind, past, before, Int.not_le.mpr before]
        · simp [behind, past, before, Int.not_lt.mp before]
      · have ahead := Int.not_lt.mpr notPast
        have behindEpoch : ¬ time.seconds < 0 := by omega
        simp only [notPast, ahead, behindEpoch, false_imp_iff, imp_true_iff,
          true_imp_iff, and_true, true_and, false_and, or_false]
        exact iff_comm

end Whole

/-- The strings that are converted as they should be. -/
theorem convertsStated_iff (env : TimeEnv) (digits : env.ReadsDigits)
    (onlyDigits : env.ReadsOnlyDigits) (timestamp : Bytes) (nowTime : Nat)
    (ticks : nowTime ≤ 2 ^ 64 / HUNDREDS_OF_NANOS_IN_A_SECOND) :
    ConvertsStated env timestamp nowTime ↔
      TimestampFits env timestamp nowTime := by
  have accepts := @converts_iff_accepted env timestamp nowTime digits onlyDigits
    ticks
  rw [timestampFits_iff, ← converts_defined_iff digits onlyDigits ticks,
    ← accepts]
  constructor
  · intro converts
    refine ⟨converts.isDefined, ?_⟩
    constructor
    · intro accepted
      obtain ⟨expiration, accepted⟩ := accepted
      obtain ⟨instant, stated, notPast, -⟩ :=
        (converts.converts_iff _).mp accepted
      exact ⟨instant, stated, notPast⟩
    · intro states
      obtain ⟨instant, stated, notPast⟩ := states
      exact ⟨_, (converts.converts_iff _).mpr ⟨instant, stated, notPast, rfl⟩⟩
  · intro condition
    obtain ⟨isDefined, accepted⟩ := condition
    constructor
    case isDefined => exact isDefined
    case converts_iff =>
        intro expiration
        constructor
        · intro converts
          obtain ⟨instant, stated, notPast⟩ := accepted.mp ⟨_, converts⟩
          refine ⟨instant, stated, notPast, ?_⟩
          exact convertTimestampToEpoch_of_stated digits stated notPast converts
        · intro states
          obtain ⟨instant, stated, notPast, rfl⟩ := states
          obtain ⟨expiration, converts⟩ := accepted.mpr ⟨instant, stated, notPast⟩
          rw [converts, convertTimestampToEpoch_of_stated digits stated notPast
            converts]

theorem readsOnlyDigits_sampleTimeEnv : sampleTimeEnv.ReadsOnlyDigits := by
  intro text value reads
  simp only [sampleTimeEnv] at reads
  split at reads
  · rename_i number spells
    split at reads
    · cases reads
      exact spells
    · cases reads
  · cases reads

theorem convertsStated_iff_hour :
    ConvertsStated sampleTimeEnv (bytes "2019-01-31T23:00:59Z") 1548972059 ↔
      TimestampFits sampleTimeEnv (bytes "2019-01-31T23:00:59Z") 1548972059 :=
  convertsStated_iff sampleTimeEnv readsDigits_sampleTimeEnv
    readsOnlyDigits_sampleTimeEnv _ _ (by decide)

/-- A day that the month does not have is counted on into the next one. -/
theorem not_convertsStated :
    ¬ ConvertsStated sampleTimeEnv (bytes "2030-02-30T00:00:00Z")
      1548972059 := by
  intro converts
  have accepts : convertTimestampToEpoch sampleTimeEnv
      (bytes "2030-02-30T00:00:00Z") 1548972059 = .ok 18986400000000000 := by
    decide +kernel
  obtain ⟨instant, stated, -⟩ := (converts.converts_iff _).mp accepts
  have statesNothing :
      statedInstant (bytes "2030-02-30T00:00:00Z") = none := by
    decide +kernel
  rw [statesNothing] at stated
  cases stated

end Common

end KvsProducer
