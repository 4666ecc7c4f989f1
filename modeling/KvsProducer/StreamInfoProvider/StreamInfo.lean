import KvsProducer.Common.ApiRequest

/-!
# The creation of stream infos

A `StreamInfo` is created with one track or with two: the tracks are set up, the
name is copied to a field of the object, and the rest gets its defaults.  What
PIC defines is a parameter, and floating point is exact.
-/

namespace KvsProducer

namespace StreamInfoProvider

open Common Outcome

/-! ### The data of PIC -/

/-- `STREAMING_TYPE`, of which the code names two values. -/
inductive StreamingType where
  | realtime
  | offline
  | other (value : Nat)
  deriving DecidableEq, Repr

/-- `VIDEO_CODEC_ID`, with the values that are not in the enumeration. -/
inductive VideoCodecId where
  | h264
  | h265
  | other (value : Nat)
  deriving DecidableEq, Repr

/-- `AUDIO_CODEC_ID`, with the values that are not in the enumeration. -/
inductive AudioCodecId where
  | aac
  | pcmAlaw
  | pcmMulaw
  | other (value : Nat)
  deriving DecidableEq, Repr

inductive TrackInfoType where
  | video
  | audio
  deriving DecidableEq, Repr

inductive FrameOrderMode where
  | passThrough
  | multiTrackAvComparePtsOneMsCompensateEofr
  deriving DecidableEq, Repr

inductive NalAdaptation where
  | annexbCpdNals
  | annexbNals
  deriving DecidableEq, Repr

def DEFAULT_VIDEO_TRACK_NAME : Bytes := bytes "kvs_video_track"
def DEFAULT_AUDIO_TRACK_NAME : Bytes := bytes "kvs_audio_track"

/-- The names of codecs and content types, the lengths of the fields that they
are copied to and the version of a stream info. -/
structure MkvNames where
  h264AvcCodecId : Bytes
  h265HevcCodecId : Bytes
  aacCodecId : Bytes
  pcmCodecId : Bytes
  h264ContentType : Bytes
  h265ContentType : Bytes
  aacContentType : Bytes
  alawContentType : Bytes
  mulawContentType : Bytes
  maxCodecIdLen : Nat
  maxTrackNameLen : Nat
  maxContentTypeLen : Nat
  maxStreamNameLen : Nat
  streamInfoCurrentVersion : Nat
  codecIds_le : ∀ codecId ∈ [h264AvcCodecId, h265HevcCodecId, aacCodecId,
    pcmCodecId], codecId.length ≤ maxCodecIdLen
  trackNames_le : ∀ trackName ∈ [DEFAULT_VIDEO_TRACK_NAME,
    DEFAULT_AUDIO_TRACK_NAME], trackName.length ≤ maxTrackNameLen
  contentTypes_le : ∀ video ∈ [h264ContentType, h265ContentType],
    ∀ audio ∈ [aacContentType, alawContentType, mulawContentType],
      video.length + 1 + audio.length ≤ maxContentTypeLen
  noComma : ∀ contentType ∈ [h264ContentType, h265ContentType],
    byte ',' ∉ contentType
  codecIds_ne : h264AvcCodecId ≠ h265HevcCodecId
  contentTypes_ne : h264ContentType ≠ h265ContentType

structure TrackInfo where
  trackId : Nat
  codecId : Bytes
  trackName : Bytes
  trackType : TrackInfoType
  codecPrivateData : Option Bytes
  codecPrivateDataSize : Nat
  deriving DecidableEq, Repr

structure StreamCaps where
  streamingType : StreamingType
  contentType : Bytes
  adaptive : Bool
  maxLatency : Nat
  fragmentDuration : Nat
  keyFrameFragmentation : Bool
  frameTimecodes : Bool
  absoluteFragmentTimes : Bool
  fragmentAcks : Bool
  recoverOnError : Bool
  recalculateMetrics : Bool
  nalAdaptationFlags : List NalAdaptation
  avgBandwidthBps : Nat
  frameRate : Nat
  bufferDuration : Nat
  replayDuration : Nat
  connectionStalenessDuration : Nat
  timecodeScale : Nat
  trackInfoCount : Nat
  trackInfoList : List TrackInfo
  segmentUuid : Option Bytes
  frameOrderingMode : FrameOrderMode
  allowStreamCreation : Bool
  deriving DecidableEq, Repr

structure StreamInfo where
  version : Nat
  name : Bytes
  retention : Nat
  kmsKeyId : Bytes
  tagCount : Nat
  streamCaps : StreamCaps
  deriving DecidableEq, Repr

/-- `PStreamInfo`, which is `NULL` or points to an object. -/
abbrev PStreamInfo := Option StreamInfo

/-! ### Tracks -/

def DEFAULT_VIDEO_TRACK_ID : Nat := 1
def DEFAULT_AUDIO_TRACK_ID : Nat := 2
def DEFAULT_AUDIO_ONLY_TRACK_ID : Nat := 1
def VIDEO_ONLY_TRACK_COUNT : Nat := 1
def VIDEO_WITH_AUDIO_TRACK_COUNT : Nat := 2
def AUDIO_ONLY_TRACK_COUNT : Nat := 1

/-- `STRCPY` into a field with room for `size` characters. -/
def strcpy (size : Nat) (text : Bytes) : Result Bytes := do
  defined (text.length ≤ size)
  .ok text

/-- `STRCAT` to what is in such a field. -/
def strcat (size : Nat) (text suffix : Bytes) : Result Bytes :=
  strcpy size (text ++ suffix)

section Creation

variable (names : MkvNames)

/-- What the two functions for tracks have in common: the codec id, the track
and the content type, behind the ones that are there. -/
def createTrackInfo (codecId contentType : Bytes) (trackId : Nat)
    (trackName : Bytes) (trackType : TrackInfoType) (contentTypes : Bytes) :
    Result (TrackInfo × Bytes) := do
  let codecId ← strcpy names.maxCodecIdLen codecId
  let contentTypes ← strcat names.maxContentTypeLen contentTypes contentType
  let trackName ← strcpy names.maxTrackNameLen trackName
  .ok
    ({ trackId := trackId
       codecId := codecId
       trackName := trackName
       trackType := trackType
       codecPrivateData := none
       codecPrivateDataSize := 0 }, contentTypes)

/-- The codec id and the content type of a video track. -/
def videoNames : VideoCodecId → Bytes × Bytes
  | .h264 => (names.h264AvcCodecId, names.h264ContentType)
  | .h265 => (names.h265HevcCodecId, names.h265ContentType)
  -- The default takes the codec id of one codec and the content type of the
  -- other.
  | .other _ => (names.h264AvcCodecId, names.h265ContentType)

def createVideoTrackInfo (videoCodecId : VideoCodecId) (contentType : Bytes) :
    Result (TrackInfo × Bytes) :=
  createTrackInfo names (videoNames names videoCodecId).1
    (videoNames names videoCodecId).2 DEFAULT_VIDEO_TRACK_ID
    DEFAULT_VIDEO_TRACK_NAME .video contentType

/-- The codec id and the content type of an audio track. -/
def audioNames : AudioCodecId → Bytes × Bytes
  | .aac => (names.aacCodecId, names.aacContentType)
  | .pcmAlaw => (names.pcmCodecId, names.alawContentType)
  | .pcmMulaw => (names.pcmCodecId, names.mulawContentType)
  | .other _ => (names.aacCodecId, names.aacContentType)

def createAudioTrackInfo (audioCodecId : AudioCodecId) (contentType : Bytes)
    (audioTrackId : Nat) : Result (TrackInfo × Bytes) :=
  createTrackInfo names (audioNames names audioCodecId).1
    (audioNames names audioCodecId).2 audioTrackId DEFAULT_AUDIO_TRACK_NAME
    .audio contentType

/-! ### Stream infos -/

def REPLAY_DURATION_FACTOR : ℚ := 1 / 2
def LATENCY_PRESSURE_FACTOR : ℚ := 85 / 100
def DEFAULT_AVG_BANDWIDTH : Nat := 2 * 1024 * 1024
def DEFAULT_VIDEO_AUDIO_FRAME_RATE : Nat := 120
def STREAM_INFO_DEFAULT_CONNECTION_STALE_DURATION : Nat :=
  5 * HUNDREDS_OF_NANOS_IN_A_SECOND
def STREAM_INFO_DEFAULT_FRAGMENT_DURATION : Nat :=
  2 * HUNDREDS_OF_NANOS_IN_A_SECOND
def STREAM_INFO_DEFAULT_TIMESCALE : Nat := HUNDREDS_OF_NANOS_IN_A_MILLISECOND

/-- A factor of a duration, converted to `UINT64`. -/
def scaled (factor : ℚ) (duration : Nat) : Nat := ⌊factor * duration⌋₊

/-- The object with the name and the content type that are in it. -/
def setStreamInfoDefaults (streamingType : StreamingType)
    (retention bufferDuration trackCount : Nat) (name contentType : Bytes)
    (trackInfoList : List TrackInfo) : StreamInfo :=
  { version := names.streamInfoCurrentVersion
    name := name
    retention := retention
    kmsKeyId := []
    tagCount := 0
    streamCaps :=
      { streamingType := streamingType
        contentType := contentType
        adaptive := true
        maxLatency := scaled LATENCY_PRESSURE_FACTOR bufferDuration
        fragmentDuration := STREAM_INFO_DEFAULT_FRAGMENT_DURATION
        keyFrameFragmentation := true
        frameTimecodes := true
        absoluteFragmentTimes := true
        fragmentAcks := true
        recoverOnError := true
        recalculateMetrics := true
        nalAdaptationFlags := [.annexbCpdNals, .annexbNals]
        avgBandwidthBps := DEFAULT_AVG_BANDWIDTH
        frameRate := DEFAULT_VIDEO_AUDIO_FRAME_RATE
        bufferDuration := bufferDuration
        replayDuration := scaled REPLAY_DURATION_FACTOR bufferDuration
        connectionStalenessDuration :=
          STREAM_INFO_DEFAULT_CONNECTION_STALE_DURATION
        timecodeScale := STREAM_INFO_DEFAULT_TIMESCALE
        trackInfoCount := trackCount
        trackInfoList := trackInfoList
        segmentUuid := none
        frameOrderingMode :=
          if trackCount = 1 then .passThrough
          else .multiTrackAvComparePtsOneMsCompensateEofr
        allowStreamCreation := true } }

/-- The arguments that the functions share.  `ppStreamInfo` is `NULL` or points
to a pointer. -/
structure StreamInfoArguments where
  streamingType : StreamingType
  streamName : Option CString
  retention : Nat
  bufferDuration : Nat
  ppStreamInfo : Option PStreamInfo

variable (allocated : Bool) (arguments : StreamInfoArguments)

/-- What the functions have in common up to their cleanup. -/
def buildStreamInfo (trackCount : Nat)
    (trackInfos : Result (List TrackInfo × Bytes)) : Result StreamInfo := do
  check (arguments.ppStreamInfo.isSome ∧ arguments.streamName.isSome) .nullArg
  let streamName ← checkSome .nullArg arguments.streamName
  check (arguments.bufferDuration ≠ 0) .invalidArg
  check (arguments.streamingType ≠ .offline ∨ arguments.retention ≠ 0)
    .invalidArg
  check (allocated = true) .notEnoughMemory
  let (trackInfoList, contentType) ← trackInfos
  let name ← strcpy names.maxStreamNameLen streamName.val
  .ok (setStreamInfoDefaults names arguments.streamingType arguments.retention
    arguments.bufferDuration trackCount name contentType trackInfoList)

/-- The cleanup stores an object that has been built, and frees it otherwise. -/
def cleanUp (built : Result StreamInfo) : Result Unit × Option PStreamInfo :=
  match built with
  | .ok info => (.ok (), arguments.ppStreamInfo.map fun _ => some info)
  | .error fault => (.error fault, arguments.ppStreamInfo)

def createVideoStreamInfo (videoCodecId : VideoCodecId) :
    Result Unit × Option PStreamInfo :=
  cleanUp arguments
    (buildStreamInfo names allocated arguments VIDEO_ONLY_TRACK_COUNT do
      let (video, contentType) ← createVideoTrackInfo names videoCodecId []
      .ok ([video], contentType))

def createAudioVideoStreamInfo (videoCodecId : VideoCodecId)
    (audioCodecId : AudioCodecId) : Result Unit × Option PStreamInfo :=
  cleanUp arguments
    (buildStreamInfo names allocated arguments VIDEO_WITH_AUDIO_TRACK_COUNT do
      let (video, contentType) ← createVideoTrackInfo names videoCodecId []
      let contentType ←
        strcat names.maxContentTypeLen contentType [byte ',']
      let (audio, contentType) ← createAudioTrackInfo names audioCodecId
        contentType DEFAULT_AUDIO_TRACK_ID
      .ok ([video, audio], contentType))

def createAudioStreamInfo (audioCodecId : AudioCodecId) :
    Result Unit × Option PStreamInfo :=
  cleanUp arguments
    (buildStreamInfo names allocated arguments AUDIO_ONLY_TRACK_COUNT do
      let (audio, contentType) ← createAudioTrackInfo names audioCodecId []
        DEFAULT_AUDIO_ONLY_TRACK_ID
      .ok ([audio], contentType))

end Creation

end StreamInfoProvider

end KvsProducer
