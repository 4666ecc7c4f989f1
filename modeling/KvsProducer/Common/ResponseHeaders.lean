import KvsProducer.Common.RequestInfo
import KvsProducer.DescribeStream
import KvsProducer.Lib.Outcome

/-!
# The headers of a response

curl hands each header line of a response to `writeHeaderCallback` in a buffer
that is not terminated.  A length of zero makes `createRequestHeader` measure a
string, and the name of the request id is compared up to the length of the
received name.
-/

namespace KvsProducer

namespace Common

open Outcome

def KVS_REQUEST_ID_HEADER_NAME : Bytes := bytes "x-amzn-RequestId"

/-- `STRNCHR` of PIC, as it is documented: the position of the character in a
string of at most so many bytes. -/
def strnchr (text : Bytes) (c : UInt8) : Option Nat :=
  let before := text.takeWhile fun b => b != c && b != NUL
  if text[before.length]? = some c then some before.length else none

/-- `STRLEN` from a position of a buffer on; it reads beyond the buffer if there
is no NUL. -/
def strlenFrom (behind : Bytes) : Result Nat := do
  defined (NUL ∈ behind)
  .ok (behind.takeWhile (· ≠ NUL)).length

/-- A length, or that of the string if it is zero. -/
def measured (length : Nat) (behind : Bytes) : Result Nat :=
  if length = 0 then strlenFrom behind else .ok length

/-- PIC's `TRIMSTRALL`: the start and the end of what is left of a text. -/
structure Trimming where
  trimstrall : Bytes → Nat × Nat
  ordered : ∀ text, text ≠ [] → (trimstrall text).1 ≤ (trimstrall text).2
  within : ∀ text, text ≠ [] → (trimstrall text).2 ≤ text.length

/-- A `RequestHeader` that is made of a response. -/
structure ResponseHeader where
  name : Bytes
  value : Bytes
  deriving DecidableEq, Repr

/-- `createRequestHeader` for a name and a value that begin in a buffer. -/
def createHeaderFrom (allocated : Bool) (headerName : Bytes)
    (headerNameLen : Nat) (headerValue : Bytes) (headerValueLen : Nat) :
    Result ResponseHeader := do
  let nameLen ← measured headerNameLen headerName
  let valueLen ← measured headerValueLen headerValue
  check (0 < nameLen ∧ 0 < valueLen) .invalidArg
  check (nameLen < MAX_REQUEST_HEADER_NAME_LEN) .maxRequestHeaderNameLen
  check (valueLen < MAX_REQUEST_HEADER_VALUE_LEN) .maxRequestHeaderValueLen
  check (allocated = true) .notEnoughMemory
  defined (nameLen ≤ headerName.length ∧ valueLen ≤ headerValue.length)
  .ok
    { name := headerName.take nameLen
      value := headerValue.take valueLen }

/-- Where a pointer to a header points to: into the queue, or to a header that
has not been enqueued. -/
inductive HeaderPointer where
  | stored (position : Nat)
  | lost
  deriving DecidableEq, Repr

/-- `pResponseHeaders` and `pRequestId` -/
structure ResponseHeaders where
  headers : List ResponseHeader
  requestId : Option HeaderPointer
  deriving DecidableEq, Repr

def ResponseHeaders.initial : ResponseHeaders :=
  { headers := []
    requestId := none }

/-- `stackQueueEnqueue`, of which the status is not looked at. -/
def ResponseHeaders.enqueue (response : ResponseHeaders) (node : Bool)
    (header : ResponseHeader) : ResponseHeaders × HeaderPointer :=
  if node then
    ({ response with headers := response.headers ++ [header] },
      .stored response.headers.length)
  else (response, .lost)

/-- The header is enqueued and compared with the name of the request id. -/
def ResponseHeaders.keep (response : ResponseHeaders) (node : Bool)
    (header : ResponseHeader) (nameLen : Nat) : ResponseHeaders :=
  let enqueued := response.enqueue node header
  if strncmpEqual KVS_REQUEST_ID_HEADER_NAME header.name nameLen then
    { enqueued.1 with requestId := some enqueued.2 }
  else enqueued.1

/-- A line, and the memory when it is received.  curl limits the length of a
line. -/
structure HeaderLine where
  buffer : Bytes
  memory : HeaderMemory
  length_lt : buffer.length < 2 ^ 32

def writeHeaderCallback (trimming : Trimming) (response : ResponseHeaders)
    (line : HeaderLine) : Result ResponseHeaders :=
  match strnchr line.buffer (byte ':') with
  | none => .ok response
  | some nameLen =>
      let behind := line.buffer.drop (nameLen + 1)
      let valueStart := (trimming.trimstrall behind).1
      let valueLen := (trimming.trimstrall behind).2 - valueStart
      if nameLen < MAX_REQUEST_HEADER_NAME_LEN ∧
          valueLen < MAX_REQUEST_HEADER_VALUE_LEN then
        match createHeaderFrom line.memory.header line.buffer nameLen
            (behind.drop valueStart) valueLen with
        | .error .undefined => .error .undefined
        | .error (.failed _) => .ok response
        | .ok header =>
            .ok (response.keep line.memory.node header nameLen)
      else .ok response

/-- The lines of a response, one after the other. -/
def receiveHeaders (trimming : Trimming) (lines : List HeaderLine) :
    Result ResponseHeaders :=
  lines.foldlM (writeHeaderCallback trimming) .initial

theorem measured_string (string : SizedString) :
    measured string.length (string.text ++ [NUL]) = .ok string.size := by
  rw [measured, SizedString.size]
  split
  · have plain : ∀ c ∈ string.text, decide (c ≠ NUL) = true := by
      intro c member
      have different : c ≠ NUL := by
        intro same
        subst same
        exact string.unterminated member
      simpa using different
    rw [strlenFrom, defined, if_pos (by simp),
      List.takeWhile_append_of_pos plain,
      List.takeWhile_cons_of_neg (by simp), List.append_nil]
    rfl
  · rfl

/-- For strings it is the function that the headers of requests are made
with. -/
theorem createHeaderFrom_strings (allocated : Bool) (name value : SizedString) :
    createHeaderFrom allocated (name.text ++ [NUL]) name.length
        (value.text ++ [NUL]) value.length =
      (checkStatus
        (createRequestHeader allocated (some name) (some value))).map
          fun header => { name := header.name, value := header.value } := by
  have nameTake : (name.text ++ [NUL]).take name.size = name.value :=
    List.take_append_of_le_length name.size_le
  have valueTake : (value.text ++ [NUL]).take value.size = value.value :=
    List.take_append_of_le_length value.size_le
  have within : name.size ≤ (name.text ++ [NUL]).length ∧
      value.size ≤ (value.text ++ [NUL]).length := by
    simp only [List.length_append]
    exact ⟨Nat.le_add_right_of_le name.size_le,
      Nat.le_add_right_of_le value.size_le⟩
  rw [createHeaderFrom, measured_string, measured_string]
  simp only [ok_bind, defined, if_pos within, nameTake, valueTake,
    createRequestHeader, check]
  split_ifs <;> rfl

/-! ### What is to be stored -/

/-- The trimmed text. -/
def Trimming.trimmed (trimming : Trimming) (text : Bytes) : Bytes :=
  (text.drop (trimming.trimstrall text).1).take
    ((trimming.trimstrall text).2 - (trimming.trimstrall text).1)

/-- What stands behind the first colon. -/
def behindColon (buffer : Bytes) : Bytes :=
  (buffer.dropWhile (· ≠ byte ':')).tail

/-- The header that a line stands for. -/
def headerOf (trimming : Trimming) (buffer : Bytes) : ResponseHeader :=
  { name := buffer.takeWhile (· ≠ byte ':')
    value := trimming.trimmed (behindColon buffer) }

/-- The line has a colon and a name without a NUL. -/
def HasName (buffer : Bytes) : Prop :=
  byte ':' ∈ buffer ∧ NUL ∉ buffer.takeWhile (· ≠ byte ':')

instance (buffer : Bytes) : Decidable (HasName buffer) :=
  inferInstanceAs (Decidable (_ ∧ _))

/-- Name and value are within the limits. -/
def ResponseHeader.Fits (header : ResponseHeader) : Prop :=
  header.name.length < MAX_REQUEST_HEADER_NAME_LEN ∧
    header.value.length < MAX_REQUEST_HEADER_VALUE_LEN

instance (header : ResponseHeader) : Decidable header.Fits :=
  inferInstanceAs (Decidable (_ ∧ _))

/-- The header that is stored for a line, if there is one. -/
def storedHeader (trimming : Trimming) (line : HeaderLine) :
    List ResponseHeader :=
  if HasName line.buffer ∧ (headerOf trimming line.buffer).Fits ∧
      line.memory = .available then
    [headerOf trimming line.buffer]
  else []

/-- The last header with the name of the request id. -/
def IsRequestId (headers : List ResponseHeader) (position : Nat) : Prop :=
  ∃ before header behind, headers = before ++ header :: behind ∧
    before.length = position ∧
      header.name = KVS_REQUEST_ID_HEADER_NAME ∧
        ∀ later ∈ behind, later.name ≠ KVS_REQUEST_ID_HEADER_NAME

/-- The pointer is to the last header with the name of the request id. -/
def ResponseHeaders.PointsToLast (response : ResponseHeaders) : Prop :=
  ∀ pointer, response.requestId = some pointer ↔
    ∃ position, pointer = .stored position ∧
      IsRequestId response.headers position

/-- The headers of some lines are stored, and the pointer is to the last one
with the name of the request id. -/
structure Parsed (trimming : Trimming) (lines : List HeaderLine)
    (response : ResponseHeaders) : Prop where
  headers : response.headers = lines.flatMap (storedHeader trimming)
  requestId : response.PointsToLast

/-- The lines are parsed without reading beyond a buffer. -/
def ParsesHeaders (trimming : Trimming) (lines : List HeaderLine) : Prop :=
  ∃ response, receiveHeaders trimming lines = .ok response ∧
    Parsed trimming lines response

/-- Something stands behind the colon.  If a header is made of the line, its
name and its value are not empty, and the name is not a proper prefix of the
request id's, which is enqueued. -/
structure LineIsSound (trimming : Trimming) (line : HeaderLine) : Prop where
  behind : HasName line.buffer → behindColon line.buffer ≠ []
  nonempty : HasName line.buffer → (headerOf trimming line.buffer).Fits →
    (headerOf trimming line.buffer).name ≠ [] ∧
      (headerOf trimming line.buffer).value ≠ []
  requestId : HasName line.buffer → (headerOf trimming line.buffer).Fits →
    line.memory.header = true →
      (headerOf trimming line.buffer).name <+: KVS_REQUEST_ID_HEADER_NAME →
        (headerOf trimming line.buffer).name = KVS_REQUEST_ID_HEADER_NAME ∧
          line.memory.node = true

variable {trimming : Trimming} {line : HeaderLine} {buffer : Bytes}
variable {headers : List ResponseHeader} {header : ResponseHeader}
variable {response : ResponseHeaders}

/-! ### The delimiter -/

theorem HasName.split (has : HasName buffer) :
    buffer = (buffer.takeWhile (· ≠ byte ':')) ++
      byte ':' :: behindColon buffer := by
  have whole := List.takeWhile_append_dropWhile
    (p := (· ≠ byte ':')) (l := buffer)
  rcases dropWhile_ne_stops buffer (byte ':') with nothing | ⟨later, drops⟩
  · rw [nothing, List.append_nil] at whole
    have colon := has.1
    rw [← whole] at colon
    exact absurd colon (takeWhile_ne_plain buffer (byte ':'))
  · rw [behindColon, drops, List.tail_cons]
    rw [drops] at whole
    exact whole.symm

theorem takeWhile_name {name behind : Bytes}
    (plain : ∀ c ∈ name, c ≠ byte ':' ∧ c ≠ NUL) :
    (name ++ byte ':' :: behind).takeWhile
        (fun b => b != byte ':' && b != NUL) = name ∧
      (name ++ byte ':' :: behind).takeWhile (· ≠ byte ':') = name := by
  constructor
  · rw [List.takeWhile_append_of_pos, List.takeWhile_cons_of_neg (by simp),
      List.append_nil]
    intro c member
    simpa using plain c member
  · rw [List.takeWhile_append_of_pos, List.takeWhile_cons_of_neg (by simp),
      List.append_nil]
    intro c member
    simpa using (plain c member).1

theorem strnchr_eq (has : HasName buffer) :
    strnchr buffer (byte ':') =
      some (buffer.takeWhile (· ≠ byte ':')).length := by
  have split := has.split
  have unterminated := has.2
  have colons := takeWhile_ne_plain buffer (byte ':')
  generalize buffer.takeWhile (· ≠ byte ':') = name
    at split unterminated colons ⊢
  have plain : ∀ c ∈ name, c ≠ byte ':' ∧ c ≠ NUL := by
    intro c member
    constructor
    · intro same
      subst same
      exact colons member
    · intro same
      subst same
      exact unterminated member
  rw [split, strnchr, (takeWhile_name plain).1]
  exact if_pos (by simp)

theorem strnchr_none (hasNot : ¬ HasName buffer) :
    strnchr buffer (byte ':') = none := by
  rw [strnchr]
  apply if_neg
  intro found
  have plain : ∀ c ∈ buffer.takeWhile (fun b => b != byte ':' && b != NUL),
      c ≠ byte ':' ∧ c ≠ NUL := by
    intro c member
    simpa using List.mem_takeWhile_imp member
  have whole := List.takeWhile_append_dropWhile
    (p := fun b => b != byte ':' && b != NUL) (l := buffer)
  generalize buffer.takeWhile (fun b => b != byte ':' && b != NUL) = name
    at found plain whole
  generalize buffer.dropWhile (fun b => b != byte ':' && b != NUL) = rest
    at whole
  subst whole
  rw [List.getElem?_append_right (Nat.le_refl _), Nat.sub_self] at found
  obtain ⟨behind, rfl⟩ : ∃ behind, rest = byte ':' :: behind := by
    cases rest with
    | nil => cases found
    | cons c behind =>
        obtain rfl : c = byte ':' := Option.some.inj found
        exact ⟨behind, rfl⟩
  apply hasNot
  refine ⟨List.mem_append_right _ List.mem_cons_self, ?_⟩
  rw [(takeWhile_name plain).2]
  intro member
  exact (plain NUL member).2 rfl

/-! ### The header of a line -/

theorem Trimming.length_trimmed {text : Bytes} (nonempty : text ≠ []) :
    (trimming.trimmed text).length =
      (trimming.trimstrall text).2 - (trimming.trimstrall text).1 := by
  have within := trimming.within text nonempty
  rw [trimmed, List.length_take, List.length_drop]
  omega

theorem createHeaderFrom_line {allocated : Bool}
    (behind : behindColon buffer ≠ [])
    (fits : (headerOf trimming buffer).Fits)
    (named : (headerOf trimming buffer).name ≠ [])
    (valued : (headerOf trimming buffer).value ≠ []) :
    createHeaderFrom allocated buffer (headerOf trimming buffer).name.length
        ((behindColon buffer).drop
          (trimming.trimstrall (behindColon buffer)).1)
        (headerOf trimming buffer).value.length =
      if allocated = true then .ok (headerOf trimming buffer)
      else .error (.failed .notEnoughMemory) := by
  have nameLength := List.length_pos_of_ne_nil named
  have valueLength := List.length_pos_of_ne_nil valued
  have nameShort : (headerOf trimming buffer).name.length ≤ buffer.length :=
    (List.takeWhile_prefix _).length_le
  have within := trimming.within _ behind
  have size : (headerOf trimming buffer).value.length = _ :=
    trimming.length_trimmed behind
  have name : buffer.take (headerOf trimming buffer).name.length =
      (headerOf trimming buffer).name :=
    (List.prefix_iff_eq_take.mp (List.takeWhile_prefix _)).symm
  have value : ((behindColon buffer).drop
      (trimming.trimstrall (behindColon buffer)).1).take
        (headerOf trimming buffer).value.length =
          (headerOf trimming buffer).value := by
    rw [size]
    rfl
  have valueShort : (headerOf trimming buffer).value.length ≤
      ((behindColon buffer).drop
        (trimming.trimstrall (behindColon buffer)).1).length := by
    rw [List.length_drop, size]
    omega
  rw [createHeaderFrom, measured, measured, if_neg (Nat.ne_of_gt nameLength),
    if_neg (Nat.ne_of_gt valueLength)]
  simp only [ok_bind, check, defined, if_pos (And.intro nameLength valueLength),
    if_pos fits.1, if_pos fits.2, if_pos (And.intro nameShort valueShort), name,
    value]
  split <;> rfl

theorem strncmpEqual_requestId {name : Bytes} (unterminated : NUL ∉ name) :
    strncmpEqual KVS_REQUEST_ID_HEADER_NAME name name.length = true ↔
      name <+: KVS_REQUEST_ID_HEADER_NAME := by
  rw [strncmpEqual_iff (by decide +kernel) unterminated, List.take_length,
    List.prefix_iff_eq_take, eq_comm]

theorem isRequestId_append {position : Nat} :
    IsRequestId (headers ++ [header]) position ↔
      if header.name = KVS_REQUEST_ID_HEADER_NAME then
        position = headers.length
      else IsRequestId headers position := by
  constructor
  · intro isId
    obtain ⟨before, found, behind, split, length, name, others⟩ := isId
    rcases List.eq_nil_or_concat behind with rfl | ⟨initial, last, rfl⟩
    · obtain ⟨rfl, same⟩ := List.append_inj' split rfl
      obtain rfl := List.head_eq_of_cons_eq same
      rw [if_pos name]
      exact length.symm
    · have concat : headers ++ [header] =
          (before ++ found :: initial) ++ [last] := by
        simpa using split
      rw [List.concat_eq_append] at others
      obtain ⟨rfl, same⟩ := List.append_inj' concat rfl
      obtain rfl := List.head_eq_of_cons_eq same
      rw [if_neg (others _ (List.mem_append_right _ List.mem_cons_self))]
      refine ⟨before, found, initial, rfl, length, name, ?_⟩
      intro later member
      exact others later (List.mem_append_left _ member)
  · intro last
    split at last
    · rename_i name
      exact ⟨headers, header, [], rfl, last.symm, name, by simp⟩
    · rename_i other
      obtain ⟨before, found, behind, rfl, length, name, others⟩ := last
      refine ⟨before, found, behind ++ [header], by simp, length, name, ?_⟩
      intro later member
      rcases List.mem_append.mp member with inBehind | single
      · exact others later inBehind
      · obtain rfl := List.mem_singleton.mp single
        exact other

/-! ### A line, and the lines -/

theorem HasName.drop (has : HasName buffer) :
    buffer.drop ((headerOf trimming buffer).name.length + 1) =
      behindColon buffer := by
  have split := has.split
  rw [headerOf]
  dsimp only
  generalize buffer.takeWhile (· ≠ byte ':') = name at split ⊢
  generalize behindColon buffer = behind at split ⊢
  rw [split, List.drop_append, List.drop_of_length_le (Nat.le_succ _),
    Nat.add_sub_cancel_left]
  rfl

theorem writeHeaderCallback_eq (has : HasName line.buffer)
    (behind : behindColon line.buffer ≠ []) :
    writeHeaderCallback trimming response line =
      if (headerOf trimming line.buffer).Fits then
        match createHeaderFrom line.memory.header line.buffer
            (headerOf trimming line.buffer).name.length
            ((behindColon line.buffer).drop
              (trimming.trimstrall (behindColon line.buffer)).1)
            (headerOf trimming line.buffer).value.length with
        | .error .undefined => .error .undefined
        | .error (.failed _) => .ok response
        | .ok header =>
            .ok (response.keep line.memory.node header
              (headerOf trimming line.buffer).name.length)
      else .ok response := by
  have size : (headerOf trimming line.buffer).value.length = _ :=
    trimming.length_trimmed behind
  have behindName := @HasName.drop trimming _ has
  rw [headerOf] at behindName
  rw [writeHeaderCallback, strnchr_eq has]
  dsimp only at behindName ⊢
  rw [behindName, ← size]
  rfl

theorem ResponseHeaders.PointsToLast.keep (points : response.PointsToLast)
    {node : Bool} (unterminated : NUL ∉ header.name)
    (isId : header.name <+: KVS_REQUEST_ID_HEADER_NAME →
      header.name = KVS_REQUEST_ID_HEADER_NAME ∧ node = true) :
    (response.keep node header header.name.length).headers =
        response.headers ++ (if node = true then [header] else []) ∧
      (response.keep node header header.name.length).PointsToLast := by
  have compares := strncmpEqual_requestId unterminated
  rw [ResponseHeaders.keep, ResponseHeaders.enqueue]
  by_cases same : header.name <+: KVS_REQUEST_ID_HEADER_NAME
  · obtain ⟨name, enqueued⟩ := isId same
    rw [if_pos (compares.mpr same), if_pos enqueued, if_pos enqueued]
    refine ⟨rfl, ?_⟩
    intro pointer
    simp only [isRequestId_append, if_pos name, Option.some.injEq]
    constructor
    · intro isFirst
      subst isFirst
      exact ⟨_, rfl, rfl⟩
    · intro found
      obtain ⟨position, rfl, rfl⟩ := found
      rfl
  · have other : header.name ≠ KVS_REQUEST_ID_HEADER_NAME := by
      intro name
      exact same (name ▸ List.prefix_rfl)
    rw [if_neg (mt compares.mp same)]
    cases node with
    | false => exact ⟨(List.append_nil _).symm, points⟩
    | true =>
        refine ⟨rfl, ?_⟩
        intro pointer
        simp only [if_true, isRequestId_append, if_neg other]
        exact points pointer

theorem storedHeader_eq (has : HasName line.buffer)
    (fits : (headerOf trimming line.buffer).Fits)
    (allocated : line.memory.header = true) :
    storedHeader trimming line =
      if line.memory.node = true then [headerOf trimming line.buffer]
      else [] := by
  obtain ⟨buffer, ⟨header, node⟩, short⟩ := line
  obtain rfl : header = true := allocated
  rw [storedHeader]
  cases node with
  | false =>
      apply if_neg
      intro accepted
      obtain ⟨-, -, available⟩ := accepted
      cases available
  | true => exact if_pos ⟨has, fits, rfl⟩

/-- A sound line stores its header. -/
theorem LineIsSound.parsed {lines : List HeaderLine}
    (sound : LineIsSound trimming line)
    (parsed : Parsed trimming lines response) :
    Ends (fun _ => False) (Parsed trimming (lines ++ [line]))
      (writeHeaderCallback trimming response line) := by
  obtain ⟨headers, points⟩ := parsed
  have appended : (lines ++ [line]).flatMap (storedHeader trimming) =
      response.headers ++ storedHeader trimming line := by
    rw [List.flatMap_append, ← headers, List.flatMap_singleton]
  have unchanged (stored : ¬ (HasName line.buffer ∧
      (headerOf trimming line.buffer).Fits ∧ line.memory = .available)) :
      Parsed trimming (lines ++ [line]) response := by
    rw [storedHeader, if_neg stored, List.append_nil] at appended
    exact ⟨appended.symm, points⟩
  by_cases has : HasName line.buffer
  case neg =>
      rw [writeHeaderCallback, strnchr_none has]
      exact unchanged fun stored => has stored.1
  case pos =>
      rw [writeHeaderCallback_eq has (sound.behind has)]
      by_cases fits : (headerOf trimming line.buffer).Fits
      case neg =>
          rw [if_neg fits]
          exact unchanged fun stored => fits stored.2.1
      case pos =>
          obtain ⟨named, valued⟩ := sound.nonempty has fits
          rw [if_pos fits,
            createHeaderFrom_line (sound.behind has) fits named valued]
          by_cases allocated : line.memory.header = true
          case neg =>
              rw [if_neg allocated]
              apply unchanged
              intro stored
              exact allocated (congrArg HeaderMemory.header stored.2.2)
          case pos =>
              rw [if_pos allocated]
              obtain ⟨kept, keptPoints⟩ := ResponseHeaders.PointsToLast.keep
                points has.2 (sound.requestId has fits allocated)
              refine ⟨?_, keptPoints⟩
              rw [appended, storedHeader_eq has fits allocated]
              exact kept

/-- Sound lines are parsed, whatever their number and order. -/
theorem parsesHeaders_of_sound (trimming : Trimming) (lines : List HeaderLine)
    (sound : ∀ line ∈ lines, LineIsSound trimming line) :
    ParsesHeaders trimming lines := by
  have starts : Parsed trimming [] .initial := by
    refine ⟨rfl, ?_⟩
    intro pointer
    constructor
    · intro nothing
      cases nothing
    · intro found
      obtain ⟨position, -, before, header, behind, split, -⟩ := found
      cases before <;> cases split
  have ends : Ends (fun _ => False) (Parsed trimming lines)
      (receiveHeaders trimming lines) := by
    apply @foldlM_ends _ _ _ _ _ (Parsed trimming) _ _ starts
    intro before line response listed parsed
    exact (sound line listed).parsed parsed
  cases receives : receiveHeaders trimming lines with
  | error fault => exact (ends.of_error receives).elim
  | ok response => exact ⟨response, receives, ends.of_ok receives⟩

/-! ### Concrete lines -/

/-- White space is taken off both ends. -/
def trimSpaces : Trimming where
  trimstrall text :=
    let start := (text.takeWhile (bytes " \t\n\r").contains).length
    (start, max start (text.length -
      (text.reverse.takeWhile (bytes " \t\n\r").contains).length))
  ordered _ _ := Nat.le_max_left _ _
  within _ _ :=
    Nat.max_le.mpr ⟨(List.takeWhile_prefix _).length_le, Nat.sub_le _ _⟩

/-- A line for which there is memory. -/
def responseLine (buffer : Bytes) (short : buffer.length < 2 ^ 32) :
    HeaderLine :=
  { buffer := buffer
    memory := .available
    length_lt := short }

def responseLines : List HeaderLine :=
  [responseLine (bytes "x-amzn-RequestId: 1\r\n") (by decide),
    responseLine (bytes "Date: now\r\n") (by decide)]

theorem parsesHeaders_lines : ParsesHeaders trimSpaces responseLines := by
  apply parsesHeaders_of_sound
  intro line listed
  simp only [responseLines, List.mem_cons, List.not_mem_nil, or_false] at listed
  rcases listed with rfl | rfl
  · constructor <;> decide +kernel
  · constructor <;> decide +kernel

/-- The value of spaces is measured beyond the buffer. -/
example : receiveHeaders trimSpaces
    [responseLine (bytes "Date: \r\n") (by decide)] = .error .undefined := by
  decide +kernel

/-- The name "x" is taken for the one of the request id. -/
theorem not_parsesHeaders :
    ¬ ∀ (trimming : Trimming) (lines : List HeaderLine),
      ParsesHeaders trimming lines := by
  intro claim
  obtain ⟨response, receives, -, points⟩ :=
    claim trimSpaces [responseLine (bytes "x: 1\r\n") (by decide)]
  have received : receiveHeaders trimSpaces
      [responseLine (bytes "x: 1\r\n") (by decide)] =
        .ok
          { headers := [{ name := bytes "x", value := bytes "1" }]
            requestId := some (.stored 0) } := by
    decide +kernel
  rw [received, Except.ok.injEq] at receives
  subst receives
  obtain ⟨position, -, before, header, behind, split, -, name, -⟩ :=
    (points _).mp rfl
  dsimp only at split
  have listed : header ∈ [ResponseHeader.mk (bytes "x") (bytes "1")] := by
    rw [split]
    exact List.mem_append_right _ List.mem_cons_self
  rw [List.mem_singleton.mp listed] at name
  revert name
  decide

end Common

end KvsProducer
