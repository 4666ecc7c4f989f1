import KvsProducer.StreamInfoProvider.ContentTypes

/-!
# Stream infos for a storage size

The duration of the buffer is computed in whole seconds from the size of the
storage.  It is zero if the storage holds less than a second, which the
functions that create an info do not accept.
-/

namespace KvsProducer

namespace StreamInfoProvider

open Common

def PRODUCER_DEFRAGMENTATION_FACTOR : ℚ := 85 / 100

/-- The seconds that the storage holds for each stream, less what is lost in
fragments. -/
def storedSeconds (storageSize avgBitrate totalStreamCount : Nat) : ℚ :=
  storageSize * 8 / avgBitrate / totalStreamCount *
    PRODUCER_DEFRAGMENTATION_FACTOR

def setStreamInfoBasedOnStorageSize (storageSize avgBitrate
    totalStreamCount : Nat) (pStreamInfo : PStreamInfo) : Result StreamInfo := do
  let info ← checkSome .nullArg pStreamInfo
  check (0 < storageSize ∧ 0 < avgBitrate ∧ 0 < totalStreamCount) .invalidArg
  let bufferDuration :=
    ⌊storedSeconds storageSize avgBitrate totalStreamCount⌋₊ *
      HUNDREDS_OF_NANOS_IN_A_SECOND % 2 ^ 64
  .ok
    { info with
      streamCaps :=
        { info.streamCaps with
          bufferDuration := bufferDuration
          replayDuration := scaled REPLAY_DURATION_FACTOR bufferDuration
          maxLatency := scaled LATENCY_PRESSURE_FACTOR bufferDuration } }

/-- The durations are such as the functions that create an info accept and set,
and the storage has room for what is buffered of all streams. -/
structure StreamInfo.Buffers (storageSize avgBitrate totalStreamCount : Nat)
    (info : StreamInfo) : Prop where
  bufferDuration : info.streamCaps.bufferDuration ≠ 0
  replayDuration : info.streamCaps.replayDuration ≤
    info.streamCaps.bufferDuration
  maxLatency : info.streamCaps.maxLatency ≤ info.streamCaps.bufferDuration
  stored : (info.streamCaps.bufferDuration : ℚ) /
    HUNDREDS_OF_NANOS_IN_A_SECOND * avgBitrate * totalStreamCount / 8 ≤
      storageSize

section Proofs

variable {storageSize avgBitrate totalStreamCount : Nat}
variable {pStreamInfo : PStreamInfo} {after : StreamInfo}

theorem scaled_le {factor : ℚ} (duration : Nat) (small : factor ≤ 1) :
    scaled factor duration ≤ duration := by
  have product : factor * duration ≤ duration :=
    mul_le_of_le_one_left (Nat.cast_nonneg duration) small
  calc
    scaled factor duration ≤ ⌊(duration : ℚ)⌋₊ := Nat.floor_mono product
    _ = duration := Nat.floor_natCast duration

theorem storedSeconds_eq (storageSize avgBitrate totalStreamCount : Nat) :
    storedSeconds storageSize avgBitrate totalStreamCount =
      136 * storageSize / (20 * avgBitrate * totalStreamCount) := by
  rw [storedSeconds, PRODUCER_DEFRAGMENTATION_FACTOR, div_div]
  ring

/-- The storage holds a second if and only if it has room for it, of all
streams. -/
theorem one_le_storedSeconds (bitrate : 0 < avgBitrate)
    (count : 0 < totalStreamCount) :
    1 ≤ storedSeconds storageSize avgBitrate totalStreamCount ↔
      20 * avgBitrate * totalStreamCount ≤ 136 * storageSize := by
  have positive : (0 : ℚ) < 20 * avgBitrate * totalStreamCount := by
    have bitrateCast : (0 : ℚ) < avgBitrate := Nat.cast_pos.mpr bitrate
    have countCast : (0 : ℚ) < totalStreamCount := Nat.cast_pos.mpr count
    positivity
  rw [storedSeconds_eq, one_le_div positive]
  exact_mod_cast Iff.rfl

theorem seconds_lt (uint32 : storageSize < 2 ^ 32) (bitrate : 0 < avgBitrate)
    (count : 0 < totalStreamCount) :
    ⌊storedSeconds storageSize avgBitrate totalStreamCount⌋₊ *
      HUNDREDS_OF_NANOS_IN_A_SECOND < 2 ^ 64 := by
  have least : 1 ≤ avgBitrate * totalStreamCount := Nat.mul_pos bitrate count
  have leastCast : (1 : ℚ) ≤ avgBitrate * totalStreamCount := by
    exact_mod_cast least
  have bounded : storedSeconds storageSize avgBitrate totalStreamCount ≤
      (7 * storageSize : ℕ) := by
    rw [storedSeconds_eq, div_le_iff₀ (by linarith)]
    have storage : (0 : ℚ) ≤ storageSize := Nat.cast_nonneg storageSize
    push_cast
    nlinarith
  have seconds := Nat.floor_le_of_le bounded
  rw [HUNDREDS_OF_NANOS_IN_A_SECOND]
  omega

theorem stored_le (bitrate : 0 < avgBitrate) (count : 0 < totalStreamCount) :
    (⌊storedSeconds storageSize avgBitrate totalStreamCount⌋₊ : ℚ) *
      avgBitrate * totalStreamCount / 8 ≤ storageSize := by
  have bitrateCast : (0 : ℚ) < avgBitrate := Nat.cast_pos.mpr bitrate
  have countCast : (0 : ℚ) < totalStreamCount := Nat.cast_pos.mpr count
  have storage : (0 : ℚ) ≤ storageSize := Nat.cast_nonneg storageSize
  have whole : (⌊storedSeconds storageSize avgBitrate totalStreamCount⌋₊ : ℚ) ≤
      storedSeconds storageSize avgBitrate totalStreamCount := by
    apply Nat.floor_le
    rw [storedSeconds_eq]
    positivity
  calc
    (⌊storedSeconds storageSize avgBitrate totalStreamCount⌋₊ : ℚ) *
          avgBitrate * totalStreamCount / 8
        ≤ storedSeconds storageSize avgBitrate totalStreamCount *
            avgBitrate * totalStreamCount / 8 := by gcongr
    _ = storageSize * (17 / 20) := by
          rw [storedSeconds_eq]
          field_simp
          ring
    _ ≤ storageSize := by linarith

theorem setStreamInfo_eq_ok (uint32 : storageSize < 2 ^ 32)
    (sets : setStreamInfoBasedOnStorageSize storageSize avgBitrate
      totalStreamCount pStreamInfo = .ok after) :
    0 < avgBitrate ∧ 0 < totalStreamCount ∧
      after.streamCaps.bufferDuration =
        ⌊storedSeconds storageSize avgBitrate totalStreamCount⌋₊ *
          HUNDREDS_OF_NANOS_IN_A_SECOND ∧
      after.streamCaps.replayDuration =
        scaled REPLAY_DURATION_FACTOR after.streamCaps.bufferDuration ∧
      after.streamCaps.maxLatency =
        scaled LATENCY_PRESSURE_FACTOR after.streamCaps.bufferDuration := by
  simp only [setStreamInfoBasedOnStorageSize, bind_eq_ok, checkSome_eq_ok,
    check_eq_ok, Except.ok.injEq] at sets
  obtain ⟨info, -, _, ⟨-, bitrate, count⟩, rfl⟩ := sets
  exact ⟨bitrate, count, Nat.mod_eq_of_lt (seconds_lt uint32 bitrate count),
    rfl, rfl⟩

/-- The duration of the buffer is not zero if and only if the storage holds a
second of all streams. -/
theorem bufferDuration_ne_zero_iff (uint32 : storageSize < 2 ^ 32)
    (sets : setStreamInfoBasedOnStorageSize storageSize avgBitrate
      totalStreamCount pStreamInfo = .ok after) :
    after.streamCaps.bufferDuration ≠ 0 ↔
      20 * avgBitrate * totalStreamCount ≤ 136 * storageSize := by
  obtain ⟨bitrate, count, bufferDuration, -, -⟩ :=
    setStreamInfo_eq_ok uint32 sets
  have second : HUNDREDS_OF_NANOS_IN_A_SECOND ≠ 0 := by decide
  rw [← one_le_storedSeconds bitrate count, bufferDuration, Nat.mul_ne_zero_iff,
    ← Nat.floor_pos, Nat.pos_iff_ne_zero]
  exact and_iff_left second

end Proofs

/-- The settings for a storage size that is accepted keep an info valid if and
only if the storage holds a second of all streams: the other durations are
within that of the buffer in any case, and so is what is stored. -/
theorem buffers_iff (storageSize avgBitrate totalStreamCount : Nat)
    (info after : StreamInfo) (uint32 : storageSize < 2 ^ 32)
    (sets : setStreamInfoBasedOnStorageSize storageSize avgBitrate
      totalStreamCount (some info) = .ok after) :
    after.Buffers storageSize avgBitrate totalStreamCount ↔
      20 * avgBitrate * totalStreamCount ≤ 136 * storageSize := by
  have positive := bufferDuration_ne_zero_iff uint32 sets
  constructor
  · intro buffers
    exact positive.mp buffers.bufferDuration
  · intro holds
    obtain ⟨bitrate, count, bufferDuration, replay, latency⟩ :=
      setStreamInfo_eq_ok uint32 sets
    constructor
    case bufferDuration => exact positive.mpr holds
    case replayDuration =>
        rw [replay]
        exact scaled_le _ (by norm_num [REPLAY_DURATION_FACTOR])
    case maxLatency =>
        rw [latency]
        exact scaled_le _ (by norm_num [LATENCY_PRESSURE_FACTOR])
    case stored =>
        have second : (HUNDREDS_OF_NANOS_IN_A_SECOND : ℚ) ≠ 0 := by
          norm_num [HUNDREDS_OF_NANOS_IN_A_SECOND]
        rw [bufferDuration, Nat.cast_mul, mul_div_cancel_right₀ _ second]
        exact stored_le bitrate count

/-- The info of the sample arguments. -/
def sampleInfo : StreamInfo :=
  StreamInfoCall.created sampleNames (.video .h264) sampleArguments
    sampleStreamName

theorem sampleInfo_created :
    StreamInfoCall.perform sampleNames true (.video .h264) sampleArguments =
      (.ok (), some (some sampleInfo)) := by
  have accepted : sampleArguments.Accepted true :=
    ⟨by decide, by decide, by decide, rfl⟩
  rw [StreamInfoCall.perform_accepted _ accepted rfl]
  exact if_pos (by decide)

theorem buffers_sample :
    ∃ after, setStreamInfoBasedOnStorageSize (128 * 1024 * 1024) 4000000 2
        (some sampleInfo) = .ok after ∧
      after.Buffers (128 * 1024 * 1024) 4000000 2 := by
  refine ⟨_, rfl, ?_⟩
  exact (buffers_iff (128 * 1024 * 1024) 4000000 2 sampleInfo _ (by decide)
    rfl).mpr (by decide)

/-- A storage of a kilobyte holds no second at a megabit a second, and the
buffer has no duration. -/
theorem not_buffers :
    ¬ ∀ (names : MkvNames) (allocated : Bool) (call : StreamInfoCall)
        (arguments : StreamInfoArguments) (info after : StreamInfo)
        (storageSize avgBitrate totalStreamCount : Nat),
      call.perform names allocated arguments = (.ok (), some (some info)) →
      storageSize < 2 ^ 32 →
      setStreamInfoBasedOnStorageSize storageSize avgBitrate totalStreamCount
        (some info) = .ok after →
      after.Buffers storageSize avgBitrate totalStreamCount := by
  intro claim
  obtain ⟨after, sets⟩ : ∃ after, setStreamInfoBasedOnStorageSize 1024 1000000 1
      (some sampleInfo) = .ok after := ⟨_, rfl⟩
  have buffers := claim sampleNames true (.video .h264) sampleArguments
    sampleInfo after 1024 1000000 1 sampleInfo_created (by decide) sets
  have holds := (bufferDuration_ne_zero_iff (by decide) sets).mp
    buffers.bufferDuration
  omega

end StreamInfoProvider

end KvsProducer
