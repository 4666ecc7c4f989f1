import KvsProducer.Jsmn
import KvsProducer.Lib.Outcome
import Mathlib

/-!
# Strings and results of the common layer

A C string is the list of its bytes before the NUL that ends it.  Strings are
compared as `STRCMP` and `STRCMPI` compare them, byte by byte and unsigned.
-/

namespace KvsProducer

namespace Common

/-- The failures that the modelled functions return. -/
inductive ErrorCode where
  | nullArg
  | invalidArg
  | notEnoughMemory
  | bufferTooSmall
  | internalError
  | maxRequestHeaderCount
  | maxRequestHeaderNameLen
  | maxRequestHeaderValueLen
  | invalidAuthLen
  | invalidApiCallReturnJson
  | iotInvalidResponseLength
  | iotNullAwsCreds
  | invalidFileFormat
  | other (code : Nat)
  deriving DecidableEq, Repr

/-- How a function ends that does not return `STATUS_SUCCESS`: it returns a
failure, or it does something that C leaves undefined. -/
inductive Fault where
  | failed (status : ErrorCode)
  | undefined
  deriving DecidableEq, Repr

abbrev Result := Except Fault

/-- `CHK` -/
def check (condition : Prop) [Decidable condition] (status : ErrorCode) :
    Result Unit :=
  if condition then .ok () else .error (.failed status)

@[simp] theorem check_eq_ok {condition : Prop} [Decidable condition]
    {status : ErrorCode} {value : Unit} :
    check condition status = .ok value ↔ condition := by
  simp [check]

theorem check_met {condition : Prop} [Decidable condition]
    {status : ErrorCode} (met : condition) : check condition status = .ok () :=
  if_pos met

theorem check_unmet {condition : Prop} [Decidable condition]
    {status : ErrorCode} (unmet : ¬ condition) :
    check condition status = .error (.failed status) :=
  if_neg unmet

theorem check_ne_undefined {condition : Prop} [Decidable condition]
    {status : ErrorCode} : check condition status ≠ .error .undefined := by
  rw [check]
  split
  · simp
  · simp

@[simp] theorem ok_bind {α β : Type} (value : α) (next : α → Result β) :
    ((.ok value : Result α) >>= next) = next value := rfl

/-- A failing step fails the whole function. -/
@[simp] theorem bind_eq_ok {α β : Type} {first : Result α}
    {next : α → Result β} {value : β} :
    (first >>= next) = .ok value ↔
      ∃ intermediate, first = .ok intermediate ∧
        next intermediate = .ok value := by
  cases first with
  | ok intermediate => simp [bind, Except.bind]
  | error fault => simp [bind, Except.bind]

theorem bind_eq_undefined {α β : Type} {first : Result α}
    {next : α → Result β} :
    (first >>= next) = .error .undefined ↔
      first = .error .undefined ∨
        ∃ value, first = .ok value ∧ next value = .error .undefined := by
  cases first with
  | ok value => simp [bind, Except.bind]
  | error fault => simp [bind, Except.bind]

/-- What C defines only if a condition holds. -/
def defined (condition : Prop) [Decidable condition] : Result Unit :=
  if condition then .ok () else .error .undefined

@[simp] theorem defined_eq_ok {condition : Prop} [Decidable condition]
    {value : Unit} : defined condition = .ok value ↔ condition := by
  simp [defined]

theorem defined_met {condition : Prop} [Decidable condition]
    (met : condition) : defined condition = .ok () :=
  if_pos met

theorem defined_unmet {condition : Prop} [Decidable condition]
    (unmet : ¬ condition) : defined condition = .error .undefined :=
  if_neg unmet

/-- `CHK_STATUS` -/
def checkStatus {α : Type} : Except ErrorCode α → Result α
  | .ok value => .ok value
  | .error status => .error (.failed status)

@[simp] theorem checkStatus_eq_ok {α : Type} {called : Except ErrorCode α}
    {value : α} : checkStatus called = .ok value ↔ called = .ok value := by
  cases called <;> simp [checkStatus]

/-- `CHK` of a pointer that may be `NULL` -/
def checkSome {α : Type} (status : ErrorCode) : Option α → Result α
  | some value => .ok value
  | none => .error (.failed status)

@[simp] theorem checkSome_eq_ok {α : Type} {status : ErrorCode}
    {pointer : Option α} {value : α} :
    checkSome status pointer = .ok value ↔ pointer = some value := by
  cases pointer <;> simp [checkSome]

theorem checkSome_of_eq {α : Type} {pointer : Option α} {value : α}
    {status : ErrorCode} (given : pointer = some value) :
    checkSome status pointer = .ok value :=
  checkSome_eq_ok.mpr given

theorem isOk_iff {α : Type} {result : Result α} :
    result.isOk = true ↔ ∃ value, result = .ok value := by
  cases result <;> simp [Except.isOk, Except.toBool]

@[simp] theorem toOption_eq_some {α : Type} {result : Result α} {value : α} :
    result.toOption = some value ↔ result = .ok value := by
  cases result <;> simp [Except.toOption]

theorem check_congr {condition other : Prop} [Decidable condition]
    [Decidable other] {status : ErrorCode} (same : condition ↔ other) :
    check condition status = check other status :=
  if_congr same rfl rfl

section Ends

open Outcome

variable {harmless : Fault → Prop}

theorem check_ends {condition : Prop} [Decidable condition]
    {status : ErrorCode}
    (holds : condition ∨ harmless (.failed status)) :
    Ends harmless (fun _ => condition) (check condition status) := by
  by_cases met : condition
  · rw [check_met met]
    exact met
  · rw [check_unmet met]
    exact holds.resolve_left met

theorem defined_ends {condition : Prop} [Decidable condition]
    (holds : condition ∨ harmless .undefined) :
    Ends harmless (fun _ => condition) (defined condition) := by
  by_cases met : condition
  · rw [defined_met met]
    exact met
  · rw [defined_unmet met]
    exact holds.resolve_left met

end Ends

/-- What holds of every byte can be decided by looking at all of them. -/
@[elab_as_elim]
theorem forall_byte {motive : UInt8 → Prop} (c : UInt8)
    (all : ∀ n : Fin 256, motive (.ofFin n)) : motive c :=
  all c.toFin

def HUNDREDS_OF_NANOS_IN_A_SECOND : Nat := 10000000

def NUL : UInt8 := 0

/-- A string with the NUL that ends it. -/
def terminated (text : Bytes) : Bytes := text ++ [NUL]

/-- The number that decimal digits spell. -/
def decimal (text : Bytes) : Option Nat :=
  if text ≠ [] ∧ text.all fun c => 48 ≤ c && c ≤ 57 then
    some (text.foldl (fun number c => number * 10 + (c.toNat - 48)) 0)
  else none

/-- A `PCHAR` argument with the `UINT32` that tells its length, of which 0
stands for the length of the whole string. -/
structure SizedString where
  text : Bytes
  length : Nat
  unterminated : NUL ∉ text
  within : length ≤ text.length
  deriving DecidableEq, Repr

namespace SizedString

/-- A string of which the callee takes the length. -/
def whole (text : Bytes) (unterminated : NUL ∉ text) : SizedString :=
  { text := text
    length := 0
    unterminated := unterminated
    within := Nat.zero_le _ }

/-- The string at the start of a buffer. -/
def ofBuffer (buffer : Bytes) : SizedString :=
  whole (buffer.takeWhile (· ≠ NUL)) fun member => by
    have notNul := List.mem_takeWhile_imp member
    simp at notNul

/-- The string at the start of a buffer, with a length. -/
def sized (buffer : Bytes) (length : Nat) : SizedString :=
  { ofBuffer buffer with
    length := min length (ofBuffer buffer).text.length
    within := Nat.min_le_right _ _ }

/-- The length that the callee works with. -/
def size (argument : SizedString) : Nat :=
  if argument.length = 0 then argument.text.length else argument.length

def value (argument : SizedString) : Bytes :=
  argument.text.take argument.size

theorem size_le (argument : SizedString) :
    argument.size ≤ argument.text.length := by
  unfold size
  split
  · exact Nat.le_refl _
  · exact argument.within

@[simp] theorem length_value (argument : SizedString) :
    argument.value.length = argument.size := by
  simp [value, argument.size_le]

theorem nul_not_mem_value (argument : SizedString) :
    NUL ∉ argument.value := by
  intro member
  exact argument.unterminated (List.mem_of_mem_take member)

@[simp] theorem value_whole (text : Bytes) (unterminated : NUL ∉ text) :
    (whole text unterminated).value = text := by
  simp [whole, value, size]

@[simp] theorem size_whole (text : Bytes) (unterminated : NUL ∉ text) :
    (whole text unterminated).size = text.length := by
  simp [whole, size]

theorem text_ofBuffer {buffer : Bytes} (unterminated : NUL ∉ buffer) :
    (ofBuffer buffer).text = buffer := by
  have whole : ∀ c ∈ buffer, decide (c ≠ NUL) = true := by
    intro c member
    have different : c ≠ NUL := by
      rintro rfl
      exact unterminated member
    simpa using different
  exact List.takeWhile_eq_self_iff.mpr whole

theorem take_text_ofBuffer {buffer : Bytes} {count : Nat}
    (plain : NUL ∉ buffer.take count) :
    (ofBuffer buffer).text.take count = buffer.take count := by
  have whole : ∀ c ∈ buffer.take count, decide (c ≠ NUL) = true := by
    intro c member
    have different : c ≠ NUL := by
      rintro rfl
      exact plain member
    simpa using different
  have text : (ofBuffer buffer).text =
      buffer.take count ++
        (buffer.drop count).takeWhile fun c => decide (c ≠ NUL) := by
    rw [← List.takeWhile_append_of_pos whole, List.take_append_drop]
    rfl
  by_cases short : count ≤ buffer.length
  · rw [text, List.take_append_of_le_length (by simp [short]),
      List.take_take, Nat.min_self]
  · rw [text, List.take_of_length_le (by omega : buffer.length ≤ count),
      List.drop_of_length_le (by omega)]
    simp [List.take_of_length_le (by omega : buffer.length ≤ count)]

theorem value_ofBuffer {buffer : Bytes} (unterminated : NUL ∉ buffer) :
    (ofBuffer buffer).value = buffer := by
  rw [ofBuffer, value_whole]
  exact text_ofBuffer unterminated

theorem size_ofBuffer_le (buffer : Bytes) :
    (ofBuffer buffer).size ≤ buffer.length := by
  rw [ofBuffer, size_whole]
  exact (List.takeWhile_prefix _).length_le

theorem size_ofBuffer {buffer : Bytes} (unterminated : NUL ∉ buffer) :
    (ofBuffer buffer).size = buffer.length := by
  rw [← length_value, value_ofBuffer unterminated]

/-- A text in a buffer, unless it is empty: then it is the whole buffer. -/
theorem value_sized {text rest : Bytes} (unterminated : NUL ∉ text ++ rest) :
    (sized (text ++ rest) text.length).value =
      if text = [] then rest else text := by
  have within : text.length ≤ (text ++ rest).length := by simp
  simp only [value, size, sized, text_ofBuffer unterminated,
    Nat.min_eq_left within, List.length_eq_zero_iff]
  by_cases empty : text = []
  · simp [empty]
  · simp [empty]

end SizedString

/-- What stands in front of a separator does not contain it. -/
theorem takeWhile_ne_plain (text : Bytes) (separator : UInt8) :
    separator ∉ text.takeWhile (· ≠ separator) := by
  intro member
  have different := List.mem_takeWhile_imp member
  simp at different

/-- A text goes on with the separator, or it is at its end. -/
theorem dropWhile_ne_stops (text : Bytes) (separator : UInt8) :
    text.dropWhile (· ≠ separator) = [] ∨
      ∃ later, text.dropWhile (· ≠ separator) = separator :: later := by
  cases behind : text.dropWhile (· ≠ separator) with
  | nil => exact .inl rfl
  | cons c later =>
      have stops := List.head?_dropWhile_not (· ≠ separator) text
      rw [behind] at stops
      obtain rfl : c = separator := by simpa using stops
      exact .inr ⟨later, rfl⟩

/-- What `SNPRINTF` leaves in a buffer of a size, in front of the NUL. -/
def snprintf (size : Nat) (text : Bytes) : Bytes := text.take (size - 1)

/-- `STRCMP` -/
def strcmp (first second : Bytes) : Ordering := compare first second

@[simp] theorem strcmp_eq_eq {first second : Bytes} :
    strcmp first second = .eq ↔ first = second := by
  unfold strcmp
  exact Std.compare_eq_iff_eq

/-- `tolower` in the C locale -/
def tolower (c : UInt8) : UInt8 :=
  if byte 'A' ≤ c ∧ c ≤ byte 'Z' then c + 32 else c

/-- `TOLOWERSTR` -/
def tolowerstr (text : Bytes) : Bytes := text.map tolower

@[simp] theorem length_tolowerstr (text : Bytes) :
    (tolowerstr text).length = text.length := by
  simp [tolowerstr]

theorem tolower_tolower (c : UInt8) : tolower (tolower c) = tolower c := by
  refine forall_byte c ?_
  decide +kernel

@[simp] theorem tolowerstr_tolowerstr (text : Bytes) :
    tolowerstr (tolowerstr text) = tolowerstr text := by
  simp [tolowerstr, Function.comp_def, tolower_tolower]

/-- `STRCMPI` -/
def strcmpi (first second : Bytes) : Ordering :=
  strcmp (tolowerstr first) (tolowerstr second)

/-- Joined texts, each but the first behind a separator. -/
theorem intercalate_cons (separator text : Bytes) (texts : List Bytes) :
    separator.intercalate (text :: texts) =
      text ++ texts.flatMap (separator ++ ·) := by
  induction texts generalizing text with
  | nil => simp [List.intercalate]
  | cons next rest induction =>
      have joined := induction next
      simp only [List.intercalate, List.flatMap_cons] at joined ⊢
      simp [joined]

theorem length_intercalate (separator : UInt8) (texts : List Bytes) :
    ([separator].intercalate texts).length =
      (texts.map fun text => text.length + 1).sum - 1 := by
  cases texts with
  | nil => rfl
  | cons text texts =>
      rw [intercalate_cons]
      simp only [List.length_append, List.length_flatMap, List.map_cons,
        List.sum_cons, List.length_singleton]
      have commuted : (texts.map fun text => 1 + text.length) =
          texts.map fun text => text.length + 1 := by
        simp [Nat.add_comm]
      rw [commuted]
      omega

/-- The strings stand in ascending order. -/
def Ascending (first second : Bytes) : Prop := strcmp first second ≠ .gt

instance (first second : Bytes) : Decidable (Ascending first second) :=
  inferInstanceAs (Decidable (_ ≠ _))

theorem ascending_iff_isLE {first second : Bytes} :
    Ascending first second ↔ (compare first second).isLE := by
  simp [Ascending, strcmp, Ordering.isLE_iff_ne_gt]

instance : Std.Total Ascending where
  total first second := by
    have swap : compare second first = (compare first second).swap :=
      Std.OrientedCmp.eq_swap
    rw [ascending_iff_isLE, ascending_iff_isLE, swap]
    cases compare first second <;> simp

instance : IsTrans Bytes Ascending where
  trans first second third := by
    simp only [ascending_iff_isLE]
    exact Std.TransCmp.isLE_trans

end Common

end KvsProducer
