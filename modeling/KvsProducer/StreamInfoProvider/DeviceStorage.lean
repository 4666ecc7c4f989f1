import KvsProducer.StreamInfoProvider.StorageSize

/-!
# A device that is sized for a duration

`setDeviceInfoStorageSizeBasedOnBitrateAndBufferDuration` computes the size of
the storage from a duration, and `setStreamInfoBasedOnStorageSize` a duration
from the size.  The first one rounds the size down to bytes, and the second one
the duration to seconds; each takes a part for what is lost in fragments.  The
size has 64 bits in the device, and 32 bits where it is passed on.
-/

namespace KvsProducer

namespace StreamInfoProvider

open Common

def STORAGE_ALLOCATION_DEFRAGMENTATION_FACTOR : ℚ := 12 / 10

/-- PIC's limit on the storage, and its status for what exceeds it. -/
structure StorageLimit where
  maxStorageAllocationSize : Nat
  invalidStorageSize : ErrorCode

/-- `DeviceInfo` as far as the size of the storage is concerned. -/
structure DeviceInfo where
  streamCount : Nat
  storageSize : Nat
  deriving DecidableEq, Repr

section Sizing

variable (limit : StorageLimit) (pDeviceInfo : Option DeviceInfo)

def setDeviceInfoStorageSize (storageSize : Nat) : Result DeviceInfo := do
  let info ← checkSome .nullArg pDeviceInfo
  check (storageSize ≤ limit.maxStorageAllocationSize)
    limit.invalidStorageSize
  .ok { info with storageSize := storageSize }

/-- The bytes of all streams, with an allowance for fragments. -/
def estimatedStorage (streamCount averageBitsPerSecond bufferDuration : Nat) :
    ℚ :=
  streamCount * ((averageBitsPerSecond / 8) *
    (bufferDuration / HUNDREDS_OF_NANOS_IN_A_SECOND)) *
      STORAGE_ALLOCATION_DEFRAGMENTATION_FACTOR

/-- The conversion to `UINT64` is undefined for what has no room in it. -/
def setDeviceInfoStorageSizeBasedOnBitrateAndBufferDuration
    (averageBitsPerSecond bufferDuration : Nat) : Result DeviceInfo := do
  let info ← checkSome .nullArg pDeviceInfo
  check (0 < averageBitsPerSecond ∧ 0 < bufferDuration) .invalidArg
  let estimatedStorageSize :=
    ⌊estimatedStorage info.streamCount averageBitsPerSecond bufferDuration⌋₊
  defined (estimatedStorageSize < 2 ^ 64)
  setDeviceInfoStorageSize limit pDeviceInfo estimatedStorageSize

end Sizing

section Proofs

variable {limit : StorageLimit}
variable {averageBitsPerSecond bufferDuration : Nat}
variable {device sized : DeviceInfo}

theorem setDeviceInfo_eq_ok
    (sizes : setDeviceInfoStorageSizeBasedOnBitrateAndBufferDuration limit
      (some device) averageBitsPerSecond bufferDuration = .ok sized) :
    0 < averageBitsPerSecond ∧ 0 < bufferDuration ∧
      sized.streamCount = device.streamCount ∧
      sized.storageSize = ⌊estimatedStorage device.streamCount
        averageBitsPerSecond bufferDuration⌋₊ := by
  simp only [setDeviceInfoStorageSizeBasedOnBitrateAndBufferDuration,
    setDeviceInfoStorageSize, bind_eq_ok, checkSome_eq_ok, check_eq_ok,
    defined_eq_ok, Except.ok.injEq, Option.some.injEq] at sizes
  obtain ⟨info, rfl, _, ⟨bitrate, duration⟩, _, -, info, rfl, _, -, rfl⟩ :=
    sizes
  exact ⟨bitrate, duration, rfl, rfl⟩

/-- The seconds of the exact size are two percent more than those asked for. -/
theorem storedSeconds_estimated {count bitrate duration : Nat}
    (positiveCount : 0 < count) (positiveRate : 0 < bitrate) :
    136 * estimatedStorage count bitrate duration / (20 * bitrate * count) =
      102 / 100 * (duration / HUNDREDS_OF_NANOS_IN_A_SECOND) := by
  have countCast : (count : ℚ) ≠ 0 := Nat.cast_ne_zero.mpr positiveCount.ne'
  have rateCast : (bitrate : ℚ) ≠ 0 := Nat.cast_ne_zero.mpr positiveRate.ne'
  rw [estimatedStorage, STORAGE_ALLOCATION_DEFRAGMENTATION_FACTOR]
  field_simp
  ring

theorem storedSeconds_bounds {count bitrate duration : Nat}
    (positiveCount : 0 < count) (positiveRate : 0 < bitrate) :
    storedSeconds ⌊estimatedStorage count bitrate duration⌋₊ bitrate count ≤
        102 / 100 * (duration / HUNDREDS_OF_NANOS_IN_A_SECOND) ∧
      102 / 100 * ((duration : ℚ) / HUNDREDS_OF_NANOS_IN_A_SECOND) -
          136 / (20 * bitrate * count) <
        storedSeconds ⌊estimatedStorage count bitrate duration⌋₊ bitrate
          count := by
  have countCast : (0 : ℚ) < count := Nat.cast_pos.mpr positiveCount
  have rateCast : (0 : ℚ) < bitrate := Nat.cast_pos.mpr positiveRate
  have divisor : (0 : ℚ) < 20 * bitrate * count := by positivity
  have exact_ := @storedSeconds_estimated count bitrate duration positiveCount
    positiveRate
  have nonneg : 0 ≤ estimatedStorage count bitrate duration := by
    rw [estimatedStorage, STORAGE_ALLOCATION_DEFRAGMENTATION_FACTOR]
    positivity
  have below := Nat.floor_le nonneg
  have above := Nat.lt_floor_add_one (estimatedStorage count bitrate duration)
  rw [storedSeconds_eq, ← exact_]
  constructor
  · gcongr
  · rw [← sub_div]
    gcongr
    linarith

theorem storedSeconds_mono {count bitrate size larger : Nat}
    (ordered : size ≤ larger) :
    storedSeconds size bitrate count ≤ storedSeconds larger bitrate count := by
  rw [storedSeconds_eq, storedSeconds_eq]
  have sizeCast : (size : ℚ) ≤ larger := Nat.cast_le.mpr ordered
  gcongr

theorem storedSeconds_nonneg {count bitrate size : Nat} :
    0 ≤ storedSeconds size bitrate count := by
  rw [storedSeconds_eq]
  positivity

/-- A device that is sized for a bitrate and a duration has room for a stream
info of the same bitrate with at most two percent more, and with at least as
many whole seconds, if all streams together have 340 bits in the duration and
the size has room in 32 bits. -/
theorem sized_storage_buffers (info after : StreamInfo)
    (sizes : setDeviceInfoStorageSizeBasedOnBitrateAndBufferDuration limit
      (some device) averageBitsPerSecond bufferDuration = .ok sized)
    (sets : setStreamInfoBasedOnStorageSize (sized.storageSize % 2 ^ 32)
      averageBitsPerSecond sized.streamCount (some info) = .ok after) :
    (after.streamCaps.bufferDuration : ℚ) ≤ 102 / 100 * bufferDuration ∧
      (sized.storageSize < 2 ^ 32 →
        340 * HUNDREDS_OF_NANOS_IN_A_SECOND ≤
            averageBitsPerSecond * device.streamCount * bufferDuration →
          bufferDuration / HUNDREDS_OF_NANOS_IN_A_SECOND *
              HUNDREDS_OF_NANOS_IN_A_SECOND ≤
            after.streamCaps.bufferDuration) := by
  obtain ⟨-, -, sameCount, size⟩ := setDeviceInfo_eq_ok sizes
  obtain ⟨bitrate, count, seconds, -, -⟩ :=
    setStreamInfo_eq_ok (Nat.mod_lt _ (Nat.two_pow_pos 32)) sets
  rw [sameCount] at count seconds
  obtain ⟨upper, lower⟩ :=
    @storedSeconds_bounds device.streamCount averageBitsPerSecond bufferDuration
      count bitrate
  rw [← size] at upper lower
  have countCast : (0 : ℚ) < device.streamCount := Nat.cast_pos.mpr count
  have rateCast : (0 : ℚ) < averageBitsPerSecond := Nat.cast_pos.mpr bitrate
  have second : (0 : ℚ) < HUNDREDS_OF_NANOS_IN_A_SECOND := by
    norm_num [HUNDREDS_OF_NANOS_IN_A_SECOND]
  rw [seconds]
  constructor
  · have whole := (Nat.floor_le storedSeconds_nonneg).trans
      ((storedSeconds_mono (Nat.mod_le _ (2 ^ 32))).trans upper)
    rw [Nat.cast_mul]
    calc
      _ ≤ 102 / 100 * ((bufferDuration : ℚ) / HUNDREDS_OF_NANOS_IN_A_SECOND) *
            HUNDREDS_OF_NANOS_IN_A_SECOND := by gcongr
      _ = 102 / 100 * bufferDuration := by
            field_simp
  · intro uint32 enough
    have enoughCast : (340 : ℚ) * HUNDREDS_OF_NANOS_IN_A_SECOND ≤
        averageBitsPerSecond * device.streamCount * bufferDuration := by
      exact_mod_cast enough
    rw [Nat.mod_eq_of_lt uint32]
    apply Nat.mul_le_mul_right
    apply Nat.le_floor
    have asked : ((bufferDuration / HUNDREDS_OF_NANOS_IN_A_SECOND : ℕ) : ℚ) ≤
        bufferDuration / HUNDREDS_OF_NANOS_IN_A_SECOND := Nat.cast_div_le
    have lost : (136 : ℚ) /
        (20 * averageBitsPerSecond * device.streamCount) ≤
          2 / 100 * (bufferDuration / HUNDREDS_OF_NANOS_IN_A_SECOND) := by
      rw [div_le_iff₀ (by positivity)]
      have scaled_ : (340 : ℚ) ≤ averageBitsPerSecond * device.streamCount *
          bufferDuration / HUNDREDS_OF_NANOS_IN_A_SECOND := by
        rw [le_div_iff₀ second]
        exact enoughCast
      calc
        (136 : ℚ) = 2 / 5 * 340 := by norm_num
        _ ≤ 2 / 5 * (averageBitsPerSecond * device.streamCount *
              bufferDuration / HUNDREDS_OF_NANOS_IN_A_SECOND) := by gcongr
        _ = _ := by ring
    linarith

end Proofs

/-- PIC's limit. -/
def sampleLimit : StorageLimit :=
  { maxStorageAllocationSize := 10 * 1024 * 1024 * 1024
    invalidStorageSize := .invalidArg }

theorem estimatedStorage_sample :
    estimatedStorage 2 4000000 1200000000 = 144000000 := by
  norm_num [estimatedStorage, STORAGE_ALLOCATION_DEFRAGMENTATION_FACTOR,
    HUNDREDS_OF_NANOS_IN_A_SECOND]

theorem sized_storage_buffers_sample :
    ∃ sized after, setDeviceInfoStorageSizeBasedOnBitrateAndBufferDuration
        sampleLimit (some ⟨2, 0⟩) 4000000 1200000000 = .ok sized ∧
      setStreamInfoBasedOnStorageSize (sized.storageSize % 2 ^ 32) 4000000
        sized.streamCount (some sampleInfo) = .ok after ∧
      (after.streamCaps.bufferDuration : ℚ) ≤ 102 / 100 * (1200000000 : ℕ) ∧
      1200000000 ≤ after.streamCaps.bufferDuration := by
  have sizes : setDeviceInfoStorageSizeBasedOnBitrateAndBufferDuration
      sampleLimit (some ⟨2, 0⟩) 4000000 1200000000 = .ok ⟨2, 144000000⟩ := by
    have bytes_ : ⌊estimatedStorage 2 4000000 1200000000⌋₊ = 144000000 := by
      rw [estimatedStorage_sample]
      exact Nat.floor_ofNat 144000000
    simp only [setDeviceInfoStorageSizeBasedOnBitrateAndBufferDuration,
      checkSome, ok_bind, bytes_]
    rfl
  obtain ⟨after, sets⟩ : ∃ after, setStreamInfoBasedOnStorageSize
      (144000000 % 2 ^ 32) 4000000 2 (some sampleInfo) = .ok after := ⟨_, rfl⟩
  obtain ⟨upper, lower⟩ := sized_storage_buffers sampleInfo after sizes sets
  exact ⟨_, after, sizes, sets, upper, lower (by decide) (by decide)⟩

end StreamInfoProvider

end KvsProducer
