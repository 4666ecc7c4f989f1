import KvsProducer.StreamInfoProvider.StreamInfo

/-!
# The names and content types of stream infos

An info that is created has the name that is given, and a content type for each
of its tracks.  The name is copied without a look at its length, and a video
codec that is not known has the codec id of one codec and the content type of
another.
-/

namespace KvsProducer

namespace StreamInfoProvider

open Common Outcome

/-- The codec of a track. -/
inductive CodecId where
  | video (videoCodecId : VideoCodecId)
  | audio (audioCodecId : AudioCodecId)
  deriving DecidableEq, Repr

/-- The codec ids of tracks with the content types that match them.  A value
that is not in the enumeration stands for any codec of its kind. -/
def CodecId.matching (names : MkvNames) : CodecId → List (Bytes × Bytes)
  | .video .h264 => [(names.h264AvcCodecId, names.h264ContentType)]
  | .video .h265 => [(names.h265HevcCodecId, names.h265ContentType)]
  | .video (.other _) =>
      [(names.h264AvcCodecId, names.h264ContentType),
        (names.h265HevcCodecId, names.h265ContentType)]
  | .audio .aac => [(names.aacCodecId, names.aacContentType)]
  | .audio .pcmAlaw => [(names.pcmCodecId, names.alawContentType)]
  | .audio .pcmMulaw => [(names.pcmCodecId, names.mulawContentType)]
  | .audio (.other _) =>
      [(names.aacCodecId, names.aacContentType),
        (names.pcmCodecId, names.alawContentType),
        (names.pcmCodecId, names.mulawContentType)]

/-- A call of one of the three functions. -/
inductive StreamInfoCall where
  | video (videoCodecId : VideoCodecId)
  | audioVideo (videoCodecId : VideoCodecId) (audioCodecId : AudioCodecId)
  | audio (audioCodecId : AudioCodecId)

namespace StreamInfoCall

variable (names : MkvNames) (allocated : Bool) (call : StreamInfoCall)
variable (arguments : StreamInfoArguments)

def perform : Result Unit × Option PStreamInfo :=
  match call with
  | video videoCodecId =>
      createVideoStreamInfo names allocated arguments videoCodecId
  | audioVideo videoCodecId audioCodecId =>
      createAudioVideoStreamInfo names allocated arguments videoCodecId
        audioCodecId
  | audio audioCodecId =>
      createAudioStreamInfo names allocated arguments audioCodecId

/-- The codecs of the tracks in their order. -/
def codecs : List CodecId :=
  match call with
  | video videoCodecId => [.video videoCodecId]
  | audioVideo videoCodecId audioCodecId =>
      [.video videoCodecId, .audio audioCodecId]
  | audio audioCodecId => [.audio audioCodecId]

/-- Every codec of a video track is in the enumeration. -/
def KnownVideo : Prop :=
  ∀ value, CodecId.video (.other value) ∉ call.codecs

/-- The info has the name in full, its tracks, and a content type for each of
them. -/
structure Describes (name : CString) (info : StreamInfo) : Prop where
  name : info.name = name.val
  fits : info.name.length ≤ names.maxStreamNameLen
  count : info.streamCaps.trackInfoCount = info.streamCaps.trackInfoList.length
  contentTypes : ∃ types : List Bytes,
    info.streamCaps.contentType = [byte ','].intercalate types ∧
      types.length = info.streamCaps.trackInfoList.length ∧
      List.Forall₂ (fun codec pair => pair ∈ codec.matching names) call.codecs
        ((info.streamCaps.trackInfoList.map (·.codecId)).zip types)

/-- The call fails and leaves the caller's pointer as it is, or it stores an
info for its arguments. -/
def CreatesInfo : Prop :=
  match call.perform names allocated arguments with
  | (.error fault, after) => fault ≠ .undefined ∧ after = arguments.ppStreamInfo
  | (.ok _, after) => ∃ name info, arguments.streamName = some name ∧
      after = some (some info) ∧ call.Describes names name info

end StreamInfoCall

/-- The arguments pass the checks, and there is memory for the object. -/
structure StreamInfoArguments.Accepted (arguments : StreamInfoArguments)
    (allocated : Bool) : Prop where
  pointers : arguments.ppStreamInfo.isSome ∧ arguments.streamName.isSome
  bufferDuration : arguments.bufferDuration ≠ 0
  retention : arguments.streamingType ≠ .offline ∨ arguments.retention ≠ 0
  allocated : allocated = true

/-- The codec id and the content type that the code takes for a codec. -/
def CodecId.used (names : MkvNames) : CodecId → Bytes × Bytes
  | .video videoCodecId => videoNames names videoCodecId
  | .audio audioCodecId => audioNames names audioCodecId

namespace StreamInfoCall

/-- What a call sets up before it copies the name. -/
def trackInfos (names : MkvNames) :
    StreamInfoCall → Result (List TrackInfo × Bytes)
  | video videoCodecId => do
      let (videoTrack, contentType) ← createVideoTrackInfo names videoCodecId []
      .ok ([videoTrack], contentType)
  | audioVideo videoCodecId audioCodecId => do
      let (videoTrack, contentType) ← createVideoTrackInfo names videoCodecId []
      let contentType ←
        strcat names.maxContentTypeLen contentType [byte ',']
      let (audioTrack, contentType) ← createAudioTrackInfo names audioCodecId
        contentType DEFAULT_AUDIO_TRACK_ID
      .ok ([videoTrack, audioTrack], contentType)
  | audio audioCodecId => do
      let (audioTrack, contentType) ← createAudioTrackInfo names audioCodecId []
        DEFAULT_AUDIO_ONLY_TRACK_ID
      .ok ([audioTrack], contentType)

def trackCount : StreamInfoCall → Nat
  | video _ => VIDEO_ONLY_TRACK_COUNT
  | audioVideo _ _ => VIDEO_WITH_AUDIO_TRACK_COUNT
  | audio _ => AUDIO_ONLY_TRACK_COUNT

def videoTrack (names : MkvNames) (videoCodecId : VideoCodecId) : TrackInfo :=
  { trackId := DEFAULT_VIDEO_TRACK_ID
    codecId := (videoNames names videoCodecId).1
    trackName := DEFAULT_VIDEO_TRACK_NAME
    trackType := .video
    codecPrivateData := none
    codecPrivateDataSize := 0 }

def audioTrack (names : MkvNames) (audioCodecId : AudioCodecId)
    (audioTrackId : Nat) : TrackInfo :=
  { trackId := audioTrackId
    codecId := (audioNames names audioCodecId).1
    trackName := DEFAULT_AUDIO_TRACK_NAME
    trackType := .audio
    codecPrivateData := none
    codecPrivateDataSize := 0 }

/-- The tracks that a call sets up. -/
def tracks (names : MkvNames) : StreamInfoCall → List TrackInfo
  | video videoCodecId => [videoTrack names videoCodecId]
  | audioVideo videoCodecId audioCodecId =>
      [videoTrack names videoCodecId,
        audioTrack names audioCodecId DEFAULT_AUDIO_TRACK_ID]
  | audio audioCodecId =>
      [audioTrack names audioCodecId DEFAULT_AUDIO_ONLY_TRACK_ID]

/-- The content type that a call puts together. -/
def contentType (names : MkvNames) (call : StreamInfoCall) : Bytes :=
  [byte ','].intercalate (call.codecs.map fun codec => (codec.used names).2)

end StreamInfoCall

section Proofs

variable {names : MkvNames} {allocated : Bool}
variable {arguments : StreamInfoArguments} {count : Nat}
variable {built : Result (List TrackInfo × Bytes)}

/-! ### The checks -/

theorem buildStreamInfo_rejects (rejected : ¬ arguments.Accepted allocated) :
    ∃ status, buildStreamInfo names allocated arguments count built =
      .error (.failed status) := by
  by_cases pointers :
      arguments.ppStreamInfo.isSome ∧ arguments.streamName.isSome
  · obtain ⟨name, named⟩ := Option.isSome_iff_exists.mp pointers.2
    by_cases bufferDuration : arguments.bufferDuration ≠ 0
    · by_cases retention :
          arguments.streamingType ≠ .offline ∨ arguments.retention ≠ 0
      · by_cases memory : allocated = true
        · exact (rejected ⟨pointers, bufferDuration, retention, memory⟩).elim
        · refine ⟨.notEnoughMemory, ?_⟩
          simp only [buildStreamInfo, check_met pointers, checkSome_of_eq named,
            check_met bufferDuration, check_met retention, check_unmet memory,
            ok_bind]
          rfl
      · refine ⟨.invalidArg, ?_⟩
        simp only [buildStreamInfo, check_met pointers, checkSome_of_eq named,
          check_met bufferDuration, check_unmet retention, ok_bind]
        rfl
    · refine ⟨.invalidArg, ?_⟩
      simp only [buildStreamInfo, check_met pointers, checkSome_of_eq named,
        check_unmet bufferDuration, ok_bind]
      rfl
  · refine ⟨.nullArg, ?_⟩
    simp only [buildStreamInfo, check_unmet pointers]
    rfl

/-- For arguments that are accepted, the tracks and the length of the name
decide. -/
theorem buildStreamInfo_accepts {name : CString}
    {trackInfoList : List TrackInfo} {contentType : Bytes}
    (accepted : arguments.Accepted allocated)
    (named : arguments.streamName = some name)
    (tracks : built = .ok (trackInfoList, contentType)) :
    buildStreamInfo names allocated arguments count built =
      if name.val.length ≤ names.maxStreamNameLen then
        .ok (setStreamInfoDefaults names arguments.streamingType
          arguments.retention arguments.bufferDuration count name.val
          contentType trackInfoList)
      else .error .undefined := by
  obtain ⟨pointers, bufferDuration, retention, memory⟩ := accepted
  simp only [buildStreamInfo, check_met pointers, checkSome_of_eq named,
    check_met bufferDuration, check_met retention, check_met memory, tracks,
    ok_bind, strcpy, defined]
  split <;> rfl

/-! ### The tracks -/

theorem createTrackInfo_eq_ok {codecId contentType trackName before : Bytes}
    {trackId : Nat} {trackType : TrackInfoType}
    (codecIdFits : codecId.length ≤ names.maxCodecIdLen)
    (trackNameFits : trackName.length ≤ names.maxTrackNameLen)
    (contentTypeFits :
      (before ++ contentType).length ≤ names.maxContentTypeLen) :
    createTrackInfo names codecId contentType trackId trackName trackType
        before =
      .ok
        ({ trackId := trackId
           codecId := codecId
           trackName := trackName
           trackType := trackType
           codecPrivateData := none
           codecPrivateDataSize := 0 }, before ++ contentType) := by
  simp only [createTrackInfo, strcat, strcpy, defined_met codecIdFits,
    defined_met trackNameFits, defined_met contentTypeFits, ok_bind]

theorem videoNames_mem (names : MkvNames) (videoCodecId : VideoCodecId) :
    (videoNames names videoCodecId).1 ∈
        [names.h264AvcCodecId, names.h265HevcCodecId] ∧
      (videoNames names videoCodecId).2 ∈
        [names.h264ContentType, names.h265ContentType] := by
  cases videoCodecId <;> simp [videoNames]

theorem audioNames_mem (names : MkvNames) (audioCodecId : AudioCodecId) :
    (audioNames names audioCodecId).1 ∈ [names.aacCodecId, names.pcmCodecId] ∧
      (audioNames names audioCodecId).2 ∈
        [names.aacContentType, names.alawContentType,
          names.mulawContentType] := by
  cases audioCodecId <;> simp [audioNames]

theorem length_comma_contentType_le (names : MkvNames)
    (videoCodecId : VideoCodecId) (audioCodecId : AudioCodecId) :
    (videoNames names videoCodecId).2.length + 1 +
      (audioNames names audioCodecId).2.length ≤ names.maxContentTypeLen :=
  names.contentTypes_le _ (videoNames_mem names videoCodecId).2 _
    (audioNames_mem names audioCodecId).2

theorem createVideoTrackInfo_eq_ok (videoCodecId : VideoCodecId) :
    createVideoTrackInfo names videoCodecId [] =
      .ok (StreamInfoCall.videoTrack names videoCodecId,
        (videoNames names videoCodecId).2) := by
  have room := length_comma_contentType_le names videoCodecId .aac
  apply createTrackInfo_eq_ok
  · apply names.codecIds_le
    rcases List.mem_pair.mp (videoNames_mem names videoCodecId).1 with id | id
    · simp [id]
    · simp [id]
  · exact names.trackNames_le _ (by simp)
  · rw [List.nil_append]
    omega

theorem createAudioTrackInfo_eq_ok {before : Bytes}
    (audioCodecId : AudioCodecId) (audioTrackId : Nat)
    (fits : (before ++ (audioNames names audioCodecId).2).length ≤
      names.maxContentTypeLen) :
    createAudioTrackInfo names audioCodecId before audioTrackId =
      .ok (StreamInfoCall.audioTrack names audioCodecId audioTrackId,
        before ++ (audioNames names audioCodecId).2) := by
  apply createTrackInfo_eq_ok _ _ fits
  · apply names.codecIds_le
    rcases List.mem_pair.mp (audioNames_mem names audioCodecId).1 with id | id
    · simp [id]
    · simp [id]
  · exact names.trackNames_le _ (by simp)

theorem StreamInfoCall.trackInfos_eq_ok (call : StreamInfoCall) :
    call.trackInfos names =
      .ok (call.tracks names, call.contentType names) := by
  cases call with
  | video videoCodecId =>
      have text : (video videoCodecId).contentType names =
          (videoNames names videoCodecId).2 := by
        simp [contentType, codecs, CodecId.used, List.intercalate]
      rw [text, trackInfos, createVideoTrackInfo_eq_ok]
      rfl
  | audioVideo videoCodecId audioCodecId =>
      have room := length_comma_contentType_le names videoCodecId audioCodecId
      have text : (audioVideo videoCodecId audioCodecId).contentType names =
          (videoNames names videoCodecId).2 ++ [byte ','] ++
            (audioNames names audioCodecId).2 := by
        simp [contentType, codecs, CodecId.used, List.intercalate]
      have comma : strcat names.maxContentTypeLen
          (videoNames names videoCodecId).2 [byte ','] =
            .ok ((videoNames names videoCodecId).2 ++ [byte ',']) := by
        rw [strcat, strcpy, defined_met]
        · rfl
        · rw [List.length_append, List.length_singleton]
          omega
      have both : ((videoNames names videoCodecId).2 ++ [byte ','] ++
          (audioNames names audioCodecId).2).length ≤
            names.maxContentTypeLen := by
        rw [List.length_append, List.length_append, List.length_singleton]
        exact room
      rw [text, trackInfos, createVideoTrackInfo_eq_ok]
      simp only [ok_bind, comma, createAudioTrackInfo_eq_ok _ _ both]
      rfl
  | audio audioCodecId =>
      have room := length_comma_contentType_le names .h264 audioCodecId
      have text : (audio audioCodecId).contentType names =
          (audioNames names audioCodecId).2 := by
        simp [contentType, codecs, CodecId.used, List.intercalate]
      have fits : ([] ++ (audioNames names audioCodecId).2).length ≤
          names.maxContentTypeLen := by
        rw [List.nil_append]
        omega
      rw [text, trackInfos, createAudioTrackInfo_eq_ok _ _ fits]
      rfl

theorem StreamInfoCall.perform_eq (call : StreamInfoCall) :
    call.perform names allocated arguments =
      cleanUp arguments (buildStreamInfo names allocated arguments
        call.trackCount (call.trackInfos names)) := by
  cases call <;> rfl

/-! ### What is created -/

theorem eq_of_append_comma {first second rest other : Bytes}
    (noFirst : byte ',' ∉ first) (noSecond : byte ',' ∉ second)
    (same : first ++ byte ',' :: rest = second ++ byte ',' :: other) :
    first = second := by
  have front {text behind : Bytes} (noComma : byte ',' ∉ text) :
      (text ++ byte ',' :: behind).takeWhile (· ≠ byte ',') = text := by
    rw [List.takeWhile_append_of_pos]
    · simp
    · intro c listed
      simpa using fun comma : c = byte ',' => noComma (comma ▸ listed)
  rw [← @front first rest noFirst, same, front noSecond]

theorem used_mem_matching {codec : CodecId}
    (known : ∀ value, codec ≠ .video (.other value)) :
    codec.used names ∈ codec.matching names := by
  cases codec with
  | video videoCodecId =>
      cases videoCodecId with
      | other value => exact (known value rfl).elim
      | _ => exact List.mem_singleton.mpr rfl
  | audio audioCodecId =>
      cases audioCodecId with
      | other value => exact List.mem_cons_self
      | _ => exact List.mem_singleton.mpr rfl

/-- The codec id that the default takes matches one content type only. -/
theorem contentType_of_other {value : Nat} {contentType : Bytes}
    (matching : (names.h264AvcCodecId, contentType) ∈
      (CodecId.video (.other value)).matching names) :
    contentType = names.h264ContentType := by
  simpa [CodecId.matching, names.codecIds_ne] using matching

namespace StreamInfoCall

variable {call : StreamInfoCall} {name : CString} {info : StreamInfo}

theorem zip_used (call : StreamInfoCall) :
    ((call.tracks names).map (·.codecId)).zip
        (call.codecs.map fun codec => (codec.used names).2) =
      call.codecs.map fun codec => codec.used names := by
  cases call <;> rfl

theorem describes_of_known (known : call.KnownVideo)
    (named : info.name = name.val)
    (fits : name.val.length ≤ names.maxStreamNameLen)
    (count : info.streamCaps.trackInfoCount = call.trackCount)
    (list : info.streamCaps.trackInfoList = call.tracks names)
    (contentTypes : info.streamCaps.contentType = call.contentType names) :
    call.Describes names name info := by
  refine ⟨named, named ▸ fits, ?_, _, contentTypes, ?_, ?_⟩
  · rw [count, list]
    cases call <;> rfl
  · rw [list]
    cases call <;> rfl
  · rw [list, zip_used, List.forall₂_map_right_iff, List.forall₂_same]
    intro codec listed
    apply used_mem_matching
    intro value other
    exact known value (other ▸ listed)

theorem known_of_describes (describes : call.Describes names name info)
    (list : info.streamCaps.trackInfoList = call.tracks names)
    (contentTypes : info.streamCaps.contentType = call.contentType names) :
    call.KnownVideo := by
  obtain ⟨-, -, -, types, whole, length, matching⟩ := describes
  rw [contentTypes] at whole
  rw [list] at length matching
  intro value listed
  cases call with
  | video videoCodecId =>
      obtain rfl : .other value = videoCodecId := by
        simpa [codecs] using listed
      obtain ⟨type, rfl⟩ : ∃ type, types = [type] :=
        List.length_eq_one_iff.mp length
      cases matching with
      | cons first _ =>
          have same := contentType_of_other first
          have taken : names.h265ContentType = type := by
            simpa [contentType, codecs, CodecId.used, videoNames,
              List.intercalate] using whole
          exact names.contentTypes_ne (same.symm.trans taken.symm)
  | audioVideo videoCodecId audioCodecId =>
      obtain rfl : .other value = videoCodecId := by
        simpa [codecs] using listed
      obtain ⟨type, audioType, rfl⟩ : ∃ type audioType,
          types = [type, audioType] := List.length_eq_two.mp length
      cases matching with
      | cons first _ =>
          have same := contentType_of_other first
          have taken : names.h265ContentType ++ byte ',' ::
              (audioNames names audioCodecId).2 =
                type ++ byte ',' :: audioType := by
            simpa [contentType, codecs, CodecId.used, videoNames,
              List.intercalate] using whole
          have noComma := names.noComma
          have front := eq_of_append_comma (noComma _ (by simp))
            (same ▸ noComma _ (by simp)) taken
          exact names.contentTypes_ne (same.symm.trans front.symm)
  | audio audioCodecId => simp [codecs] at listed

/-- What a call with accepted arguments creates. -/
def created (names : MkvNames) (call : StreamInfoCall)
    (arguments : StreamInfoArguments) (name : CString) : StreamInfo :=
  setStreamInfoDefaults names arguments.streamingType arguments.retention
    arguments.bufferDuration call.trackCount name.val (call.contentType names)
    (call.tracks names)

theorem perform_rejected (call : StreamInfoCall)
    (rejected : ¬ arguments.Accepted allocated) :
    ∃ status, call.perform names allocated arguments =
      (.error (.failed status), arguments.ppStreamInfo) := by
  obtain ⟨status, fails⟩ := @buildStreamInfo_rejects names allocated arguments
    call.trackCount (call.trackInfos names) rejected
  refine ⟨status, ?_⟩
  rw [perform_eq, fails]
  rfl

theorem perform_accepted (call : StreamInfoCall)
    (accepted : arguments.Accepted allocated)
    (named : arguments.streamName = some name) :
    call.perform names allocated arguments =
      if name.val.length ≤ names.maxStreamNameLen then
        (.ok (), some (some (call.created names arguments name)))
      else (.error .undefined, arguments.ppStreamInfo) := by
  obtain ⟨pointer, given⟩ := Option.isSome_iff_exists.mp accepted.pointers.1
  rw [perform_eq, buildStreamInfo_accepts accepted named call.trackInfos_eq_ok]
  split
  · rw [cleanUp, given]
    rfl
  · rfl

/-- A call with accepted arguments, whose name and codec decide. -/
theorem createsInfo_accepted (accepted : arguments.Accepted allocated)
    (named : arguments.streamName = some name) :
    call.CreatesInfo names allocated arguments ↔
      name.val.length ≤ names.maxStreamNameLen ∧ call.KnownVideo := by
  unfold CreatesInfo
  rw [call.perform_accepted accepted named]
  split_ifs with fits
  · constructor
    · intro ⟨other, info, _, stored, describes⟩
      cases stored
      exact ⟨fits, known_of_describes describes rfl rfl⟩
    · intro ⟨_, known⟩
      exact ⟨name, _, named, rfl,
        describes_of_known known rfl fits rfl rfl rfl⟩
  · refine iff_of_false ?_ ?_
    · intro ⟨defined, _⟩
      exact defined rfl
    · intro claimed
      exact fits claimed.1

end StreamInfoCall

end Proofs

/-- A call creates an info for its arguments, or fails, if and only if it is
rejected, or the name fits into its field and the codec of a video track is in
the enumeration. -/
theorem createsInfo_iff (names : MkvNames) (allocated : Bool)
    (call : StreamInfoCall) (arguments : StreamInfoArguments) :
    call.CreatesInfo names allocated arguments ↔
      (arguments.Accepted allocated →
        (∀ name ∈ arguments.streamName,
          name.val.length ≤ names.maxStreamNameLen) ∧ call.KnownVideo) := by
  by_cases accepted : arguments.Accepted allocated
  · obtain ⟨name, named⟩ :=
      Option.isSome_iff_exists.mp accepted.pointers.2
    rw [StreamInfoCall.createsInfo_accepted accepted named, named]
    constructor
    · intro ⟨fits, known⟩ _
      refine ⟨?_, known⟩
      intro given isGiven
      cases isGiven
      exact fits
    · intro claimed
      obtain ⟨fits, known⟩ := claimed accepted
      exact ⟨fits name rfl, known⟩
  · obtain ⟨status, fails⟩ := call.perform_rejected accepted
    unfold StreamInfoCall.CreatesInfo
    rw [fails]
    refine iff_of_true ⟨by simp, rfl⟩ ?_
    intro isAccepted
    exact (accepted isAccepted).elim

def sampleNames : MkvNames :=
  { h264AvcCodecId := bytes "V_MPEG4/ISO/AVC"
    h265HevcCodecId := bytes "V_MPEGH/ISO/HEVC"
    aacCodecId := bytes "A_AAC"
    pcmCodecId := bytes "A_MS/ACM"
    h264ContentType := bytes "video/h264"
    h265ContentType := bytes "video/h265"
    aacContentType := bytes "audio/aac"
    alawContentType := bytes "audio/alaw"
    mulawContentType := bytes "audio/mulaw"
    maxCodecIdLen := 32
    maxTrackNameLen := 32
    maxContentTypeLen := 128
    maxStreamNameLen := 256
    streamInfoCurrentVersion := 2
    codecIds_le := by decide
    trackNames_le := by decide
    contentTypes_le := by decide
    noComma := by decide
    codecIds_ne := by decide
    contentTypes_ne := by decide }

def sampleArguments : StreamInfoArguments :=
  { streamingType := .realtime
    streamName := some sampleStreamName
    retention := 0
    bufferDuration := 120 * HUNDREDS_OF_NANOS_IN_A_SECOND
    ppStreamInfo := some none }

/-- A name of one character more than the field has room for. -/
def longName : CString :=
  ⟨List.replicate 257 (byte 'a'), fun listed =>
    absurd (List.eq_of_mem_replicate listed) (by decide)⟩

/-- A video codec that is not in the enumeration gets a content type that does
not match its codec id, and a long name is written past its field. -/
theorem not_createsInfo :
    ¬ StreamInfoCall.CreatesInfo sampleNames true (.video (.other 2))
        sampleArguments ∧
      ¬ StreamInfoCall.CreatesInfo sampleNames true (.video .h264)
        { sampleArguments with streamName := some longName } := by
  constructor
  · have accepted : sampleArguments.Accepted true :=
      ⟨by decide, by decide, by decide, rfl⟩
    rw [StreamInfoCall.createsInfo_accepted accepted rfl]
    intro creates
    exact creates.2 2 List.mem_cons_self
  · have accepted : ({ sampleArguments with
        streamName := some longName } : StreamInfoArguments).Accepted true :=
      ⟨⟨rfl, rfl⟩, by decide, by decide, rfl⟩
    have length : longName.val.length = 257 := List.length_replicate
    rw [StreamInfoCall.createsInfo_accepted accepted rfl, length]
    intro creates
    exact absurd creates.1 (by decide)

end StreamInfoProvider

end KvsProducer
