import KvsProducer.Common.Text

/-!
# The body of a response

The callbacks that receive a response in chunks: `postResponseWriteCallback`
for the API calls, `writeCurlResponseCallback` for the blocking curl call, and
the read branch of `lwsIotCallbackRoutine`.  A block of memory is the list of its
bytes; what a new block contains is up to the allocation.
-/

namespace KvsProducer

namespace Common

def CURL_READFUNC_ABORT : ErrorCode := .other 0x10000000

/-- The blocks that a call is given for its allocations. -/
structure Allocation where
  allocate : (size : Nat) → Option Bytes
  length_allocate : ∀ size, ∀ block ∈ allocate size, block.length = size

/-- `REALLOC` keeps what fits of a block. -/
def Allocation.realloc (memory : Allocation) (old : Bytes) (size : Nat) :
    Option Bytes :=
  (memory.allocate size).map fun block =>
    old.take size ++ block.drop (old.take size).length

/-- There is memory. -/
def Allocation.Available (memory : Allocation) : Prop :=
  ∀ size, (memory.allocate size).isSome = true

/-- `MEMCPY` to an offset of a block -/
def memcpy (block : Bytes) (offset : Nat) (data : Bytes) : Result Bytes := do
  defined (offset + data.length ≤ block.length)
  .ok (block.take offset ++ data ++ block.drop (offset + data.length))

/-- What `MEMCPY` reads at the start of a block that can be `NULL`. -/
def readBlock (block : Option Bytes) (length : Nat) : Result Bytes := do
  defined (length ≤ (block.getD []).length)
  .ok ((block.getD []).take length)

/-- The fields of `CallInfo` for the body. -/
structure ResponseBuffer where
  responseData : Option Bytes
  responseDataLen : Nat
  deriving DecidableEq, Repr

/-- No chunk has been received. -/
def ResponseBuffer.initial : ResponseBuffer :=
  { responseData := none
    responseDataLen := 0 }

/-- Both curl callbacks append the chunk and a terminator to the new buffer. -/
def storeChunk (newBuffer : Bytes) (oldLen : Nat) (chunk : Bytes) :
    Result ResponseBuffer := do
  let appended ← memcpy newBuffer oldLen chunk
  let responseDataLen := (oldLen + chunk.length) % 2 ^ 32
  let terminated ← memcpy appended responseDataLen [NUL]
  .ok
    { responseData := some terminated
      responseDataLen := responseDataLen }

def postResponseWriteCallback (terminating : Bool) (memory : Allocation)
    (buffer : ResponseBuffer) (chunk : Bytes) : Result ResponseBuffer := do
  check (terminating = false) CURL_READFUNC_ABORT
  let newBuffer ← checkSome CURL_READFUNC_ABORT
    (memory.allocate (buffer.responseDataLen + chunk.length + 1))
  let copied ←
    if 0 < buffer.responseDataLen then do
      let old ← readBlock buffer.responseData buffer.responseDataLen
      memcpy newBuffer 0 old
    else .ok newBuffer
  storeChunk copied buffer.responseDataLen chunk

def writeCurlResponseCallback (memory : Allocation) (buffer : ResponseBuffer)
    (chunk : Bytes) : Result ResponseBuffer := do
  let size := buffer.responseDataLen + chunk.length + 1
  let newBuffer ← checkSome CURL_READFUNC_ABORT
    (match buffer.responseData with
    | none => memory.allocate size
    | some old => memory.realloc old size)
  storeChunk newBuffer buffer.responseDataLen chunk

/-- `LWS_CALLBACK_RECEIVE_CLIENT_HTTP_READ` in `lwsIotCallbackRoutine`: the
chunk takes the place of what was received before. -/
def lwsReadCallback (memory : Allocation) (buffer : ResponseBuffer)
    (chunk : Bytes) : Result ResponseBuffer :=
  if chunk.length ≠ 0 then do
    let newBuffer ← checkSome .notEnoughMemory (memory.allocate chunk.length)
    let copied ← memcpy newBuffer 0 chunk
    .ok
      { responseData := some copied
        responseDataLen := chunk.length % 2 ^ 32 }
  else .ok buffer

/-- A chunk, and the memory when it is received. -/
structure Delivery where
  memory : Allocation
  chunk : Bytes

/-- The chunks are received one after the other, unless a callback fails. -/
def deliver
    (callback : Allocation → ResponseBuffer → Bytes → Result ResponseBuffer)
    (deliveries : List Delivery) (buffer : ResponseBuffer) :
    Result ResponseBuffer :=
  deliveries.foldlM (fun buffer delivery =>
    callback delivery.memory buffer delivery.chunk) buffer

/-- What the response parser sees is a text with its length. -/
structure ResponseBuffer.Holds (buffer : ResponseBuffer) (text : Bytes) :
    Prop where
  length : buffer.responseDataLen = text.length
  data : (buffer.responseData.getD []).take text.length = text

theorem holds_initial : ResponseBuffer.initial.Holds [] where
  length := rfl
  data := rfl

theorem ResponseBuffer.Holds.within {buffer : ResponseBuffer} {text : Bytes}
    (holds : buffer.Holds text) :
    text.length ≤ (buffer.responseData.getD []).length := by
  have lengths := congrArg List.length holds.data
  rw [List.length_take] at lengths
  omega

theorem memcpy_ok {block data : Bytes} {offset : Nat}
    (within : offset + data.length ≤ block.length) :
    memcpy block offset data =
      .ok (block.take offset ++ data ++ block.drop (offset + data.length)) := by
  rw [memcpy, defined_met within]
  rfl

/-- A chunk is stored behind what the new buffer keeps of a text. -/
theorem storeChunk_holds {newBuffer text chunk : Bytes}
    (length : newBuffer.length = text.length + chunk.length + 1)
    (keeps : newBuffer.take text.length = text)
    (fits : text.length + chunk.length < 2 ^ 32) :
    ∃ after, storeChunk newBuffer text.length chunk = .ok after ∧
      after.Holds (text ++ chunk) := by
  have appends : memcpy newBuffer text.length chunk =
      .ok (text ++ chunk ++ newBuffer.drop (text.length + chunk.length)) := by
    rw [memcpy_ok (by omega), keeps]
  have appendedLength : (text ++ chunk ++
      newBuffer.drop (text.length + chunk.length)).length =
        text.length + chunk.length + 1 := by
    simp only [List.length_append, List.length_drop, length]
    omega
  have kept : (text ++ chunk ++
      newBuffer.drop (text.length + chunk.length)).take
        (text.length + chunk.length) = text ++ chunk := by
    rw [← List.length_append, List.take_left]
  have terminates : memcpy (text ++ chunk ++
      newBuffer.drop (text.length + chunk.length))
        (text.length + chunk.length) [NUL] =
      .ok (text ++ chunk ++ [NUL]) := by
    have within : text.length + chunk.length + [NUL].length ≤
        (text ++ chunk ++
          newBuffer.drop (text.length + chunk.length)).length := by
      rw [appendedLength, List.length_singleton]
    have full : (text ++ chunk ++
        newBuffer.drop (text.length + chunk.length)).length ≤
          text.length + chunk.length + [NUL].length := by
      rw [appendedLength, List.length_singleton]
    rw [memcpy_ok within, kept, List.drop_of_length_le full, List.append_nil]
  refine ⟨{ responseData := some (text ++ chunk ++ [NUL])
            responseDataLen := (text ++ chunk).length }, ?_, rfl, ?_⟩
  · simp only [storeChunk, appends, ok_bind, Nat.mod_eq_of_lt fits,
      terminates, List.length_append]
  · exact List.take_left

/-- What a block contains after an allocation has the size of the block. -/
theorem Allocation.Available.exists_block {memory : Allocation}
    (available : memory.Available) (size : Nat) :
    ∃ block, memory.allocate size = some block ∧ block.length = size := by
  obtain ⟨block, allocated⟩ := Option.isSome_iff_exists.mp (available size)
  exact ⟨block, allocated, memory.length_allocate size block allocated⟩

section Chunk

variable {memory : Allocation} {buffer : ResponseBuffer} {text chunk : Bytes}

theorem postResponseWriteCallback_holds (available : memory.Available)
    (holds : buffer.Holds text) (fits : text.length + chunk.length < 2 ^ 32) :
    ∃ after, postResponseWriteCallback false memory buffer chunk =
        .ok after ∧ after.Holds (text ++ chunk) := by
  obtain ⟨block, allocated, blockLength⟩ :=
    available.exists_block (text.length + chunk.length + 1)
  have within := holds.within
  have stores (copied : Bytes) (length : copied.length = block.length)
      (keeps : copied.take text.length = text) :
      ∃ after, storeChunk copied buffer.responseDataLen chunk = .ok after ∧
        after.Holds (text ++ chunk) := by
    rw [holds.length]
    exact storeChunk_holds (length.trans blockLength) keeps fits
  have starts : postResponseWriteCallback false memory buffer chunk = (do
      let copied ←
        if 0 < buffer.responseDataLen then do
          let old ← readBlock buffer.responseData buffer.responseDataLen
          memcpy block 0 old
        else .ok block
      storeChunk copied buffer.responseDataLen chunk) := by
    rw [postResponseWriteCallback, check_met rfl, holds.length, allocated]
    rfl
  rw [starts]
  by_cases empty : text.length = 0
  · have nothing : ¬ 0 < buffer.responseDataLen := by
      rw [holds.length]
      omega
    rw [if_neg nothing]
    apply stores block rfl
    rw [empty, List.take_zero, List.length_eq_zero_iff.mp empty]
  · have something : 0 < buffer.responseDataLen := by
      rw [holds.length]
      omega
    have reads : readBlock buffer.responseData buffer.responseDataLen =
        .ok text := by
      rw [readBlock, holds.length, defined_met within, holds.data]
      rfl
    have copies : memcpy block 0 text =
        .ok (text ++ block.drop text.length) := by
      rw [memcpy_ok (by omega), List.take_zero, List.nil_append, Nat.zero_add]
    rw [if_pos something, reads, ok_bind, copies, ok_bind]
    apply stores
    · rw [List.length_append, List.length_drop]
      omega
    · exact List.take_left

theorem writeCurlResponseCallback_holds (available : memory.Available)
    (holds : buffer.Holds text) (fits : text.length + chunk.length < 2 ^ 32) :
    ∃ after, writeCurlResponseCallback memory buffer chunk = .ok after ∧
      after.Holds (text ++ chunk) := by
  obtain ⟨block, allocated, blockLength⟩ :=
    available.exists_block (text.length + chunk.length + 1)
  have within := holds.within
  have kept : ∃ newBuffer,
      (match buffer.responseData with
        | none => memory.allocate (text.length + chunk.length + 1)
        | some old => memory.realloc old (text.length + chunk.length + 1)) =
          some newBuffer ∧
        newBuffer.length = text.length + chunk.length + 1 ∧
        newBuffer.take text.length = text := by
    have data := holds.data
    cases old : buffer.responseData with
    | none =>
        rw [old] at data
        simp only [Option.getD_none, List.take_nil] at data
        refine ⟨block, allocated, blockLength, ?_⟩
        rw [← data]
        rfl
    | some bytes =>
        rw [old, Option.getD_some] at data within
        refine ⟨bytes.take (text.length + chunk.length + 1) ++
          block.drop (bytes.take (text.length + chunk.length + 1)).length,
          ?_, ?_, ?_⟩
        · simp only [Allocation.realloc, allocated, Option.map_some]
        · simp only [List.length_append, List.length_take, List.length_drop]
          omega
        · rw [List.take_append_of_le_length, List.take_take,
            Nat.min_eq_left (by omega), data]
          rw [List.length_take]
          omega
  obtain ⟨newBuffer, given, length, keeps⟩ := kept
  rw [writeCurlResponseCallback, holds.length]
  simp only [given]
  exact storeChunk_holds length keeps fits

theorem lwsReadCallback_holds (available : memory.Available)
    (holds : buffer.Holds text) (fits : chunk.length < 2 ^ 32) :
    ∃ after, lwsReadCallback memory buffer chunk = .ok after ∧
      after.Holds (if chunk = [] then text else chunk) := by
  unfold lwsReadCallback
  by_cases empty : chunk = []
  · rw [if_neg (by simp [empty]), if_pos empty]
    exact ⟨buffer, rfl, holds⟩
  · obtain ⟨block, allocated, blockLength⟩ :=
      available.exists_block chunk.length
    have copies : memcpy block 0 chunk = .ok chunk := by
      rw [memcpy_ok (by omega), List.take_zero, List.nil_append,
        List.drop_of_length_le (by omega), List.append_nil]
    rw [if_pos (by simpa using empty), if_neg empty, allocated, checkSome,
      ok_bind, copies, ok_bind]
    refine ⟨_, rfl, Nat.mod_eq_of_lt fits, ?_⟩
    simp

end Chunk

/-- What a callback makes of a text when it receives a chunk. -/
abbrev Combine := (text chunk : Bytes) → Bytes

/-- A callback that combines every chunk with the text before combines all of
them, one after the other. -/
theorem deliver_holds
    {callback : Allocation → ResponseBuffer → Bytes → Result ResponseBuffer}
    (combine : Combine) (bound : Nat)
    (shorter : ∀ text chunk, (combine text chunk).length ≤
      text.length + chunk.length)
    (receives : ∀ memory buffer text chunk, memory.Available →
      buffer.Holds text → text.length + chunk.length < bound →
      ∃ after, callback memory buffer chunk = .ok after ∧
        after.Holds (combine text chunk))
    {deliveries : List Delivery} {buffer : ResponseBuffer} {text : Bytes}
    (available : ∀ delivery ∈ deliveries, delivery.memory.Available)
    (holds : buffer.Holds text)
    (fits : text.length + (deliveries.map (·.chunk)).flatten.length < bound) :
    ∃ after, deliver callback deliveries buffer = .ok after ∧
      after.Holds ((deliveries.map (·.chunk)).foldl combine text) := by
  induction deliveries generalizing buffer text with
  | nil => exact ⟨buffer, rfl, holds⟩
  | cons delivery rest induction =>
      simp only [List.map_cons, List.flatten_cons, List.length_append] at fits
      have chunkShorter := shorter text delivery.chunk
      obtain ⟨between, received, betweenHolds⟩ := receives delivery.memory
        buffer text delivery.chunk (available delivery List.mem_cons_self)
        holds (by omega)
      have combined : (combine text delivery.chunk).length +
          (rest.map (·.chunk)).flatten.length < bound := by
        omega
      obtain ⟨after, delivered, afterHolds⟩ := induction
        (fun delivery member =>
          available delivery (List.mem_cons_of_mem _ member))
        betweenHolds combined
      refine ⟨after, ?_, afterHolds⟩
      rw [deliver, List.foldlM_cons, received, ok_bind]
      exact delivered

theorem foldl_append (chunks : List Bytes) (text : Bytes) :
    chunks.foldl (· ++ ·) text = text ++ chunks.flatten := by
  induction chunks generalizing text with
  | nil => simp
  | cons chunk rest induction => simp [induction]

/-- What is left of chunks that take each other's place is the last one that is
not empty. -/
theorem foldl_replace (chunks : List Bytes) (text : Bytes) :
    chunks.foldl (fun text chunk => if chunk = [] then text else chunk) text =
      (chunks.filter (· ≠ [])).getLastD text := by
  induction chunks generalizing text with
  | nil => rfl
  | cons chunk rest induction =>
      rw [List.foldl_cons, induction]
      by_cases empty : chunk = []
      · simp [empty]
      · rw [if_neg empty, List.filter_cons_of_pos (by simpa using empty),
          List.getLastD_cons]

theorem getLastD_eq_flatten_iff {chunks : List Bytes}
    (nonempty : ∀ chunk ∈ chunks, chunk ≠ []) :
    chunks.getLastD [] = chunks.flatten ↔ chunks.length ≤ 1 := by
  cases chunks with
  | nil => simp
  | cons first rest =>
      cases rest with
      | nil => simp
      | cons second rest =>
          have positive := List.length_pos_of_ne_nil
            (nonempty first List.mem_cons_self)
          have listed : (first :: second :: rest).getLastD [] ∈
              second :: rest := by
            rw [List.getLastD_cons, List.getLastD_cons]
            exact List.getLastD_mem_cons
          have shorter := (List.sublist_flatten_of_mem listed).length_le
          constructor
          · intro same
            have lengths := congrArg List.length same
            rw [List.flatten_cons, List.length_append] at lengths
            omega
          · intro single
            simp at single

/-- The parser sees the body in one piece, whichever implementation has received
it. -/
structure ChunkingInvisible (deliveries : List Delivery) : Prop where
  post : ∃ buffer,
    deliver (postResponseWriteCallback false) deliveries .initial =
      .ok buffer ∧ buffer.Holds (deliveries.map (·.chunk)).flatten
  curl : ∃ buffer,
    deliver writeCurlResponseCallback deliveries .initial = .ok buffer ∧
      buffer.Holds (deliveries.map (·.chunk)).flatten
  lws : ∃ buffer,
    deliver lwsReadCallback deliveries .initial = .ok buffer ∧
      buffer.Holds (deliveries.map (·.chunk)).flatten

theorem ResponseBuffer.Holds.unique {buffer : ResponseBuffer}
    {first second : Bytes} (holdsFirst : buffer.Holds first)
    (holdsSecond : buffer.Holds second) : first = second := by
  rw [← holdsFirst.data, ← holdsSecond.data, ← holdsFirst.length,
    ← holdsSecond.length]

/-- Chunks are invisible if and only if at most one of them is not empty. -/
theorem chunkingInvisible_iff (deliveries : List Delivery)
    (available : ∀ delivery ∈ deliveries, delivery.memory.Available)
    (fits : (deliveries.map (·.chunk)).flatten.length < 2 ^ 32) :
    ChunkingInvisible deliveries ↔
      ((deliveries.map (·.chunk)).filter (· ≠ [])).length ≤ 1 := by
  have bound : ([] : Bytes).length +
      (deliveries.map (·.chunk)).flatten.length < 2 ^ 32 := by
    simpa using fits
  have appends : ∀ text chunk : Bytes,
      (text ++ chunk).length ≤ text.length + chunk.length := by
    simp
  have replaces : ∀ text chunk : Bytes,
      (if chunk = [] then text else chunk).length ≤
        text.length + chunk.length := by
    intro text chunk
    split <;> omega
  have post : ∃ buffer,
      deliver (postResponseWriteCallback false) deliveries .initial =
        .ok buffer ∧
      buffer.Holds ((deliveries.map (·.chunk)).foldl (· ++ ·) []) :=
    deliver_holds (· ++ ·) (2 ^ 32) appends
      (fun _ _ _ _ => postResponseWriteCallback_holds) available holds_initial
      bound
  have curl : ∃ buffer,
      deliver writeCurlResponseCallback deliveries .initial = .ok buffer ∧
      buffer.Holds ((deliveries.map (·.chunk)).foldl (· ++ ·) []) :=
    deliver_holds (· ++ ·) (2 ^ 32) appends
      (fun _ _ _ _ => writeCurlResponseCallback_holds) available holds_initial
      bound
  obtain ⟨lwsBuffer, lwsDelivers, lwsHolds⟩ : ∃ buffer,
      deliver lwsReadCallback deliveries .initial = .ok buffer ∧
      buffer.Holds ((deliveries.map (·.chunk)).foldl
        (fun text chunk => if chunk = [] then text else chunk) []) :=
    deliver_holds _ (2 ^ 32) replaces
      (fun _ _ _ _ available holds fits =>
        lwsReadCallback_holds available holds (by omega)) available
      holds_initial bound
  rw [foldl_append, List.nil_append] at post curl
  rw [foldl_replace] at lwsHolds
  have nonempty : ∀ chunk ∈ (deliveries.map (·.chunk)).filter (· ≠ []),
      chunk ≠ [] := by
    simp
  have last := getLastD_eq_flatten_iff nonempty
  rw [List.flatten_filter_ne_nil] at last
  rw [← last]
  constructor
  · intro invisible
    obtain ⟨buffer, delivers, holds⟩ := invisible.lws
    rw [lwsDelivers, Except.ok.injEq] at delivers
    subst delivers
    exact lwsHolds.unique holds
  · intro whole
    rw [whole] at lwsHolds
    exact ⟨post, curl, lwsBuffer, lwsDelivers, lwsHolds⟩

/-- Memory that is never used up. -/
def Allocation.unlimited : Allocation :=
  { allocate := fun size => some (List.replicate size NUL)
    length_allocate := by
      rintro size block ⟨⟩
      exact List.length_replicate }

theorem Allocation.unlimited_available : unlimited.Available := fun _ => rfl

theorem chunkingInvisible_single :
    ChunkingInvisible
      [{ memory := .unlimited, chunk := bytes "\x7b\x7d" },
        { memory := .unlimited, chunk := [] }] := by
  rw [chunkingInvisible_iff _ (by simp [Allocation.unlimited_available])
    (by decide)]
  decide

/-- Of two chunks the read branch keeps the second. -/
theorem chunking_visible :
    ¬ ∀ deliveries : List Delivery,
      (∀ delivery ∈ deliveries, delivery.memory.Available) →
        (deliveries.map (·.chunk)).flatten.length < 2 ^ 32 →
        ChunkingInvisible deliveries := by
  intro claim
  obtain ⟨buffer, delivers, holds⟩ := (claim
    [{ memory := .unlimited, chunk := bytes "\x7b" },
      { memory := .unlimited, chunk := bytes "\x7d" }]
    (by simp [Allocation.unlimited_available]) (by decide)).lws
  have second :
      deliver lwsReadCallback
          [{ memory := .unlimited, chunk := bytes "\x7b" },
            { memory := .unlimited, chunk := bytes "\x7d" }] .initial =
        .ok
          { responseData := some (bytes "\x7d")
            responseDataLen := 1 } := by
    rfl
  rw [second, Except.ok.injEq] at delivers
  subst delivers
  have length := holds.length
  revert length
  decide

end Common

end KvsProducer
