import KvsProducer.Common.Text
import KvsProducer.Lib.StableInsertion

/-!
# The headers of a request

`createRequestHeader` and `setRequestHeader` on the list of headers of a
`RequestInfo`, with the limits that a header has passed.
-/

namespace KvsProducer

namespace Common

open StableInsertion

def MAX_REQUEST_HEADER_NAME_LEN : Nat := 128
def MAX_REQUEST_HEADER_VALUE_LEN : Nat := 2048
def MAX_REQUEST_HEADER_COUNT : Nat := 200

/-- `RequestHeader`; `nameLen` and `valueLen` are the lengths of the two
strings. -/
structure RequestHeader where
  name : Bytes
  value : Bytes
  name_pos : 0 < name.length
  value_pos : 0 < value.length
  name_lt : name.length < MAX_REQUEST_HEADER_NAME_LEN
  value_lt : value.length < MAX_REQUEST_HEADER_VALUE_LEN
  name_unterminated : NUL ∉ name
  value_unterminated : NUL ∉ value
  deriving Repr

theorem RequestHeader.ext_iff_strings {first second : RequestHeader} :
    first = second ↔
      first.name = second.name ∧ first.value = second.value := by
  constructor
  · rintro rfl
    exact ⟨rfl, rfl⟩
  · cases first with
    | mk name value => cases second with
      | mk otherName otherValue =>
          rintro ⟨rfl, rfl⟩
          rfl

instance : DecidableEq RequestHeader := fun _ _ =>
  decidable_of_iff _ RequestHeader.ext_iff_strings.symm

/-- Whether the allocations of a call succeed: of the header, and of its node
in the list. -/
structure HeaderMemory where
  header : Bool
  node : Bool
  deriving DecidableEq, Repr

def HeaderMemory.available : HeaderMemory :=
  { header := true
    node := true }

def createRequestHeader (allocated : Bool)
    (headerName headerValue : Option SizedString) :
    Except ErrorCode RequestHeader :=
  match headerName, headerValue with
  | some name, some value =>
      if nonempty : 0 < name.size ∧ 0 < value.size then
        if nameFits : name.size < MAX_REQUEST_HEADER_NAME_LEN then
          if valueFits : value.size < MAX_REQUEST_HEADER_VALUE_LEN then
            if allocated then
              .ok
                { name := name.value
                  value := value.value
                  name_pos := by simpa using nonempty.1
                  value_pos := by simpa using nonempty.2
                  name_lt := by simpa using nameFits
                  value_lt := by simpa using valueFits
                  name_unterminated := name.nul_not_mem_value
                  value_unterminated := value.nul_not_mem_value }
            else .error .notEnoughMemory
          else .error .maxRequestHeaderValueLen
        else .error .maxRequestHeaderNameLen
      else .error .invalidArg
  | _, _ => .error .nullArg

theorem createRequestHeader_eq_ok {allocated : Bool}
    {headerName headerValue : Option SizedString} {header : RequestHeader}
    (created : createRequestHeader allocated headerName headerValue =
      .ok header) :
    ∃ name value, headerName = some name ∧ headerValue = some value ∧
      header.name = name.value ∧ header.value = value.value := by
  unfold createRequestHeader at created
  split at created
  · rename_i name value
    split_ifs at created
    cases created
    exact ⟨name, value, rfl, rfl, rfl, rfl⟩
  · cases created

/-- The order of the list: the name is not greater, ignoring case. -/
def RequestHeader.NameLe (first second : RequestHeader) : Prop :=
  strcmpi first.name second.name ≠ .gt

instance : DecidableRel RequestHeader.NameLe := fun first second =>
  inferInstanceAs (Decidable (strcmpi first.name second.name ≠ .gt))

theorem RequestHeader.nameLe_iff {first second : RequestHeader} :
    first.NameLe second ↔
      Ascending (tolowerstr first.name) (tolowerstr second.name) :=
  Iff.rfl

instance : Std.Total RequestHeader.NameLe where
  total first second :=
    Std.Total.total (r := Ascending) (tolowerstr first.name) (tolowerstr second.name)

instance : IsTrans RequestHeader RequestHeader.NameLe where
  trans first second third before behind :=
    IsTrans.trans (r := Ascending) (tolowerstr first.name) (tolowerstr second.name)
      (tolowerstr third.name) before behind

/-- The header goes in front of the first one with a greater name, or to the
tail. -/
def setRequestHeader (memory : HeaderMemory) (headers : List RequestHeader)
    (headerName headerValue : Option SizedString) :
    Except ErrorCode (List RequestHeader) :=
  if headerName.isNone ∨ headerValue.isNone then .error .nullArg
  else if headers.length < MAX_REQUEST_HEADER_COUNT then do
    let header ← createRequestHeader memory.header headerName headerValue
    if memory.node then .ok (insertAfter RequestHeader.NameLe header headers)
    else .error .notEnoughMemory
  else .error .maxRequestHeaderCount

/-- A call of `setRequestHeader`. -/
structure SetHeader where
  memory : HeaderMemory
  name : Option SizedString
  value : Option SizedString
  deriving DecidableEq, Repr

/-- A call that fails leaves the headers as they are. -/
def SetHeader.perform (call : SetHeader) (headers : List RequestHeader) :
    List RequestHeader :=
  match setRequestHeader call.memory headers call.name call.value with
  | .ok headers => headers
  | .error _ => headers

/-- The headers that a sequence of calls leaves. -/
def buildHeaders (calls : List SetHeader) : List RequestHeader :=
  calls.foldl (fun headers call => call.perform headers) []

theorem setRequestHeader_eq_ok {memory : HeaderMemory}
    {headers after : List RequestHeader}
    {headerName headerValue : Option SizedString}
    (sets : setRequestHeader memory headers headerName headerValue =
      .ok after) :
    ∃ header,
      createRequestHeader memory.header headerName headerValue = .ok header ∧
        headers.length < MAX_REQUEST_HEADER_COUNT ∧
        after = insertAfter RequestHeader.NameLe header headers := by
  unfold setRequestHeader at sets
  split at sets
  · cases sets
  · split at sets
    · rename_i room
      cases created :
          createRequestHeader memory.header headerName headerValue with
      | error status =>
          rw [created] at sets
          cases sets
      | ok header =>
          rw [created] at sets
          change (if memory.node then _ else _) = _ at sets
          split at sets <;> cases sets
          exact ⟨header, rfl, room, rfl⟩
    · cases sets

/-- The header that a call sets in a request with a number of headers. -/
def SetHeader.created (call : SetHeader) (count : Nat) :
    Option RequestHeader :=
  if count < MAX_REQUEST_HEADER_COUNT ∧ call.memory.node = true then
    (createRequestHeader call.memory.header call.name call.value).toOption
  else none

/-- The headers that a sequence of calls sets, in the order of the calls. -/
def headersSet (calls : List SetHeader) : List RequestHeader :=
  calls.foldl (fun set call => set ++ (call.created set.length).toList) []

theorem SetHeader.perform_eq (call : SetHeader)
    (headers : List RequestHeader) :
    call.perform headers =
      match call.created headers.length with
      | none => headers
      | some header => insertAfter RequestHeader.NameLe header headers := by
  obtain ⟨⟨headerMemory, node⟩, name, value⟩ := call
  simp only [perform, created, setRequestHeader]
  cases name with
  | none => simp [createRequestHeader, Except.toOption]
  | some name =>
      cases value with
      | none => simp [createRequestHeader, Except.toOption]
      | some value =>
          by_cases room : headers.length < MAX_REQUEST_HEADER_COUNT
          · cases createRequestHeader headerMemory (some name) (some value) with
            | error status =>
                cases node <;> simp [room, Except.toOption, bind, Except.bind]
            | ok header =>
                cases node <;> simp [room, Except.toOption, bind, Except.bind]
          · simp [room]

/-- The list of headers is sorted, and stable in the order of the calls. -/
theorem buildHeaders_eq (calls : List SetHeader) :
    buildHeaders calls = (headersSet calls).insertionSort RequestHeader.NameLe := by
  have keeps (calls : List SetHeader) (headers set : List RequestHeader)
      (sorted : headers = set.insertionSort RequestHeader.NameLe) :
      calls.foldl (fun headers call => call.perform headers) headers =
        (calls.foldl (fun set call =>
          set ++ (call.created set.length).toList) set).insertionSort
            RequestHeader.NameLe := by
    induction calls generalizing headers set with
    | nil => exact sorted
    | cons call rest induction =>
        apply induction
        have count : headers.length = set.length := by
          rw [sorted, List.length_insertionSort]
        simp only [SetHeader.perform_eq, count]
        cases call.created set.length with
        | none => simpa using sorted
        | some header =>
            rw [sorted]
            exact insertAfter_insertionSort _ header set
  exact keeps calls [] [] rfl

theorem SetHeader.perform_sorted {headers : List RequestHeader}
    (call : SetHeader) (sorted : headers.Pairwise RequestHeader.NameLe) :
    (call.perform headers).Pairwise RequestHeader.NameLe := by
  unfold perform
  split
  · rename_i after sets
    obtain ⟨header, -, -, rfl⟩ := setRequestHeader_eq_ok sets
    exact sorted_insertAfter _ sorted
  · exact sorted

/-- What no call breaks holds of the headers that calls leave. -/
theorem buildHeaders_keeps {kept : List RequestHeader → Prop} (none : kept [])
    (performed : ∀ (call : SetHeader) headers, kept headers →
      kept (call.perform headers)) (calls : List SetHeader) :
    kept (buildHeaders calls) := by
  refine List.foldlRecOn calls _ none ?_
  intro headers held call _
  exact performed call headers held

theorem buildHeaders_sorted (calls : List SetHeader) :
    (buildHeaders calls).Pairwise RequestHeader.NameLe :=
  buildHeaders_keeps List.Pairwise.nil
    (fun call _ sorted => call.perform_sorted sorted) calls

end Common

end KvsProducer
