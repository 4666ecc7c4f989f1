import KvsProducer.Common.RequestInfo
import KvsProducer.ServiceCall

/-!
# The list of headers of a transfer

The headers of a request are written one by one into a buffer and appended to a
list of libcurl.  When a transfer has not ended with status 200, all of them are
concatenated for the log.
-/

namespace KvsProducer

namespace Common

open StableInsertion

def REQUEST_HEADER_DELIMITER : Bytes := bytes ": "
def MAX_REQUEST_HEADER_STRING_LEN : Nat :=
  MAX_REQUEST_HEADER_NAME_LEN + MAX_REQUEST_HEADER_VALUE_LEN + 3
def MAX_REQUEST_HEADER_OUTPUT_DELIMITER : Nat := 5
def OUTPUT_DELIMITER : Bytes := bytes "\n    "

/-- The size of the array for the log. -/
def HEADERS_SIZE : Nat :=
  MAX_REQUEST_HEADER_COUNT *
    (MAX_REQUEST_HEADER_STRING_LEN + MAX_REQUEST_HEADER_OUTPUT_DELIMITER)

/-- `MEMCPY` behind what is in `headerBuffer`. -/
def copyToBuffer (written text : Bytes) : Result Bytes := do
  defined (written.length + text.length ≤ MAX_REQUEST_HEADER_STRING_LEN)
  .ok (written ++ text)

/-- A header in `headerBuffer`, in front of the NUL. -/
def formatHeader (header : RequestHeader) : Result Bytes := do
  let written ← copyToBuffer [] header.name
  let written ← copyToBuffer written REQUEST_HEADER_DELIMITER
  let written ← copyToBuffer written header.value
  defined (written.length < MAX_REQUEST_HEADER_STRING_LEN)
  .ok written

/-- `curl_slist_append`, which returns `NULL` when there is no memory. -/
def curl_slist_append (allocated : Bool) (list : List Bytes) (string : Bytes) :
    List Bytes :=
  if allocated then list ++ [string] else []

/-- The loop of `createCurlHeaderList`. -/
def appendHeaders (memory : RequestHeader → Bool) :
    List Bytes → List RequestHeader → Result (List Bytes)
  | pHeaderList, [] => .ok pHeaderList
  | pHeaderList, header :: rest => do
      let headerBuffer ← formatHeader header
      appendHeaders memory
        (curl_slist_append (memory header) pHeaderList headerBuffer) rest

def createCurlHeaderList (memory : RequestHeader → Bool)
    (headers : List RequestHeader) : Result (List Bytes) :=
  appendHeaders memory [] headers

/-- `STRCAT` to what is in the array for the log. -/
def strcatHeaders (headers text : Bytes) : Result Bytes := do
  defined ((headers ++ text).length < HEADERS_SIZE)
  .ok (headers ++ text)

/-- The loop of `curlCompleteSync` over the list. -/
def concatHeaders : Bytes → List Bytes → Result Bytes
  | headers, [] => .ok headers
  | headers, data :: next => do
      let headers ← strcatHeaders headers OUTPUT_DELIMITER
      let headers ← strcatHeaders headers data
      concatHeaders headers next

/-- What `curlCompleteSync` is answered: the memory for the list, the status of
the hook, whether the request is terminating before and after the transfer, and
the transfer. -/
structure CompletionAnswers where
  memory : RequestHeader → Bool
  hook : Except ErrorCode Unit
  terminatingBefore : Bool
  terminatingAfter : Bool
  terminated : Bool
  transfer : Transfer

/-- `curlCompleteSync`, with the headers that it logs. -/
def curlCompleteSync (answers : CompletionAnswers)
    (headers : List RequestHeader) : Result (Option Bytes) := do
  let pRequestHeaders ← createCurlHeaderList answers.memory headers
  checkStatus answers.hook
  if answers.terminatingBefore || answers.terminatingAfter then .ok none
  else if (classifyTransfer answers.terminated answers.transfer).httpStatus ≠
      HTTP_STATUS_CODE_OK then do
    let logged ← concatHeaders [] pRequestHeaders
    .ok (some logged)
  else .ok none

/-- A header as a line of the list. -/
def RequestHeader.line (header : RequestHeader) : Bytes :=
  header.name ++ REQUEST_HEADER_DELIMITER ++ header.value

/-- The longest line, without the NUL. -/
def MAX_LINE_LEN : Nat :=
  (MAX_REQUEST_HEADER_NAME_LEN - 1) + 2 + (MAX_REQUEST_HEADER_VALUE_LEN - 1)

theorem RequestHeader.length_line_le (header : RequestHeader) :
    header.line.length ≤ MAX_LINE_LEN := by
  have delimiter : REQUEST_HEADER_DELIMITER.length = 2 := by decide
  have name := header.name_lt
  have value := header.value_lt
  rw [line, List.length_append, List.length_append, delimiter, MAX_LINE_LEN]
  omega

/-- Every header fits into the buffer with the delimiter and the NUL. -/
theorem formatHeader_eq_ok (header : RequestHeader) :
    formatHeader header = .ok header.line := by
  have line := header.length_line_le
  rw [RequestHeader.line, List.length_append, List.length_append] at line
  have limits : MAX_LINE_LEN < MAX_REQUEST_HEADER_STRING_LEN := by decide
  have copies {written text : Bytes} (fits : written.length + text.length ≤
      MAX_REQUEST_HEADER_STRING_LEN) :
      copyToBuffer written text = .ok (written ++ text) := by
    rw [copyToBuffer, defined_met fits]
    rfl
  have named := @copies [] header.name (by
    rw [List.length_nil]
    omega)
  have delimited := @copies header.name REQUEST_HEADER_DELIMITER (by omega)
  have valued := @copies (header.name ++ REQUEST_HEADER_DELIMITER) header.value
    (by
      rw [List.length_append]
      omega)
  have terminated : (header.name ++ REQUEST_HEADER_DELIMITER ++
      header.value).length < MAX_REQUEST_HEADER_STRING_LEN := by
    rw [List.length_append, List.length_append]
    omega
  simp only [formatHeader, named, List.nil_append, ok_bind, delimited, valued,
    defined_met terminated]
  rfl

/-- The list that the headers make. -/
def headerList (memory : RequestHeader → Bool) (headers : List RequestHeader) :
    List Bytes :=
  headers.foldl (fun list header =>
    curl_slist_append (memory header) list header.line) []

theorem createCurlHeaderList_eq_ok (memory : RequestHeader → Bool)
    (headers : List RequestHeader) :
    createCurlHeaderList memory headers = .ok (headerList memory headers) := by
  have loop (list : List Bytes) (headers : List RequestHeader) :
      appendHeaders memory list headers =
        .ok (headers.foldl (fun list header =>
          curl_slist_append (memory header) list header.line) list) := by
    induction headers generalizing list with
    | nil => rfl
    | cons header rest induction =>
        simp only [appendHeaders, formatHeader_eq_ok, ok_bind, List.foldl_cons,
          induction]
  exact loop [] headers

/-- The list has no more lines than there are headers, and none is longer than
that of a header. -/
theorem headerList_le (memory : RequestHeader → Bool)
    (headers : List RequestHeader) :
    (headerList memory headers).length ≤ headers.length ∧
      ∀ line ∈ headerList memory headers, line.length ≤ MAX_LINE_LEN := by
  have loop (list : List Bytes) (headers : List RequestHeader)
      (short : ∀ line ∈ list, line.length ≤ MAX_LINE_LEN) :
      (headers.foldl (fun list header =>
          curl_slist_append (memory header) list header.line) list).length ≤
            list.length + headers.length ∧
        ∀ line ∈ headers.foldl (fun list header =>
          curl_slist_append (memory header) list header.line) list,
            line.length ≤ MAX_LINE_LEN := by
    induction headers generalizing list with
    | nil => exact ⟨Nat.le_refl _, short⟩
    | cons header rest induction =>
        have appended : (curl_slist_append (memory header) list
            header.line).length ≤ list.length + 1 ∧
              ∀ line ∈ curl_slist_append (memory header) list header.line,
                line.length ≤ MAX_LINE_LEN := by
          unfold curl_slist_append
          split
          · refine ⟨by simp, ?_⟩
            intro line listed
            rcases List.mem_append.mp listed with before | last
            · exact short line before
            · rw [List.mem_singleton.mp last]
              exact header.length_line_le
          · exact ⟨Nat.zero_le _, by simp⟩
        obtain ⟨count, lines⟩ := induction _ appended.2
        refine ⟨?_, lines⟩
        rw [List.foldl_cons, List.length_cons]
        omega
  obtain ⟨count, lines⟩ := loop [] headers (by simp)
  rw [List.length_nil, Nat.zero_add] at count
  exact ⟨count, lines⟩

theorem concatHeaders_eq_ok {written : Bytes} {lines : List Bytes}
    (short : ∀ line ∈ lines, line.length ≤ MAX_LINE_LEN)
    (fits : written.length +
      lines.length * (OUTPUT_DELIMITER.length + MAX_LINE_LEN) < HEADERS_SIZE) :
    concatHeaders written lines =
      .ok (written ++ lines.flatMap (OUTPUT_DELIMITER ++ ·)) := by
  induction lines generalizing written with
  | nil => simp [concatHeaders]
  | cons line rest induction =>
      have first := short line List.mem_cons_self
      rw [List.length_cons, Nat.succ_mul] at fits
      have appends {text : Bytes} {before : Bytes}
          (room : (before ++ text).length < HEADERS_SIZE) :
          strcatHeaders before text = .ok (before ++ text) := by
        rw [strcatHeaders, defined_met room]
        rfl
      have delimited := @appends OUTPUT_DELIMITER written (by
        rw [List.length_append]
        omega)
      have both := @appends line (written ++ OUTPUT_DELIMITER) (by
        rw [List.length_append, List.length_append]
        omega)
      have later := @induction (written ++ OUTPUT_DELIMITER ++ line)
        (fun other listed => short other (List.mem_cons_of_mem _ listed)) (by
          rw [List.length_append, List.length_append]
          omega)
      simp only [concatHeaders, delimited, both, ok_bind, later]
      simp

theorem length_flatMap_lines_le {lines : List Bytes}
    (short : ∀ line ∈ lines, line.length ≤ MAX_LINE_LEN) :
    (lines.flatMap (OUTPUT_DELIMITER ++ ·)).length ≤
      lines.length * (OUTPUT_DELIMITER.length + MAX_LINE_LEN) := by
  induction lines with
  | nil => exact Nat.zero_le _
  | cons line rest induction =>
      have first := short line List.mem_cons_self
      have later := induction fun other listed =>
        short other (List.mem_cons_of_mem _ listed)
      rw [List.flatMap_cons, List.length_append, List.length_append,
        List.length_cons, Nat.succ_mul]
      omega

theorem SetHeader.length_perform_le {headers : List RequestHeader}
    (call : SetHeader) (few : headers.length ≤ MAX_REQUEST_HEADER_COUNT) :
    (call.perform headers).length ≤ MAX_REQUEST_HEADER_COUNT := by
  unfold SetHeader.perform
  split
  · rename_i after sets
    obtain ⟨header, -, room, rfl⟩ := setRequestHeader_eq_ok sets
    rw [length_insertAfter]
    exact room
  · exact few

theorem length_buildHeaders_le (calls : List SetHeader) :
    (buildHeaders calls).length ≤ MAX_REQUEST_HEADER_COUNT :=
  @buildHeaders_keeps (·.length ≤ MAX_REQUEST_HEADER_COUNT) (Nat.zero_le _)
    (fun call _ few => call.length_perform_le few) calls

/-- Whatever headers a request has been set, each of them fits into the buffer,
and all of them into the array for the log. -/
theorem headers_fit (calls : List SetHeader) (answers : CompletionAnswers) :
    (∀ header ∈ buildHeaders calls, formatHeader header = .ok header.line) ∧
      Outcome.Ends (· ≠ .undefined)
        (fun logged => ∀ text ∈ logged,
          text = (headerList answers.memory (buildHeaders calls)).flatMap
            (OUTPUT_DELIMITER ++ ·) ∧ text.length < HEADERS_SIZE)
        (curlCompleteSync answers (buildHeaders calls)) := by
  refine ⟨fun header _ => formatHeader_eq_ok header, ?_⟩
  obtain ⟨count, short⟩ := headerList_le answers.memory (buildHeaders calls)
  have most := count.trans (length_buildHeaders_le calls)
  have fits : ([] : Bytes).length +
      (headerList answers.memory (buildHeaders calls)).length *
        (OUTPUT_DELIMITER.length + MAX_LINE_LEN) < HEADERS_SIZE := by
    rw [List.length_nil, Nat.zero_add]
    refine (Nat.mul_le_mul_right _ most).trans_lt ?_
    decide
  have logs := concatHeaders_eq_ok short fits
  have length := length_flatMap_lines_le short
  rw [curlCompleteSync, createCurlHeaderList_eq_ok, ok_bind]
  cases answers.hook with
  | error status => exact Fault.noConfusion
  | ok hooked =>
      simp only [checkStatus, ok_bind]
      split
      · simp
      · split
        · simp only [logs, ok_bind, List.nil_append, Outcome.ends_ok,
            Option.mem_some_iff]
          intro text same
          rw [← same]
          refine ⟨rfl, ?_⟩
          omega
        · simp

end Common

end KvsProducer
