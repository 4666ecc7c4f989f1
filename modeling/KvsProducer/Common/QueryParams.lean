import KvsProducer.Common.UriCodec
import KvsProducer.Common.Url
import KvsProducer.StreamingEndpoint

/-!
# The canonical query parameters

`getCanonicalQueryParams` splits the query, encodes each value into a buffer of
its own, sorts the buffers and joins them.  A buffer is the bytes that have been
written to it.  Allocations succeed.
-/

namespace KvsProducer

namespace Common

/-- `STRCMP` of two buffers -/
def strcmpBuffers : (first second : Bytes) → Result Ordering
  | c :: first, d :: second =>
      if c ≠ d then .ok (compare c d)
      else if c = NUL then .ok .eq
      else strcmpBuffers first second
  | _, _ => .error .undefined

/-- `STRLEN` of a buffer -/
def strlenBuffer (buffer : Bytes) : Result Nat := do
  defined (NUL ∈ buffer)
  .ok (buffer.takeWhile (· ≠ NUL)).length

/-- The ends of a text behind its ampersands. -/
def paramStarts : Bytes → List Bytes
  | [] => []
  | c :: rest =>
      if c = byte '&' then rest :: paramStarts rest else paramStarts rest

/-- The buffer for the parameter at the start of a text, where lengths are
`UINT32`. -/
def newParam (uriEncode : Bool) (start : Bytes) : Result Bytes := do
  let param := start.takeWhile (· ≠ byte '&')
  check (byte '=' ∈ param) .invalidArg
  let name := param.takeWhile (· ≠ byte '=')
  let nameLen := name.length
  let valueLen := param.length - (nameLen + 1)
  let maxLen := min MAX_URI_CHAR_LEN (nameLen + 1 + valueLen * 3 + 1)
  defined (nameLen + 1 ≤ maxLen)
  let remaining := (maxLen + 2 ^ 32 - (nameLen + 2)) % 2 ^ 32
  let paramValue := start.drop (nameLen + 1)
  let value ←
    if uriEncode then do
      let coder ← uriEncodeString (.sized paramValue valueLen) (some remaining)
      .ok coder.written
    else .ok (paramValue.take valueLen)
  defined (nameLen + 1 + value.length ≤ maxLen)
  .ok (name ++ [byte '='] ++ value)

/-- The loop that inserts a parameter in an alpha order. -/
def insertParam (new : Bytes) : List Bytes → Result (List Bytes)
  | [] => .ok [new]
  | old :: rest => do
      let order ← strcmpBuffers new old
      if order ≠ .gt then .ok (new :: old :: rest)
      else do
        let inserted ← insertParam new rest
        .ok (old :: inserted)

/-- A round of the loop over the parameters. -/
def addParam (uriEncode : Bool) (params : List Bytes) (start : Bytes) :
    Result (List Bytes) := do
  let new ← newParam uriEncode start
  insertParam new params

/-- The loop that re-creates the query.  The buffer has one byte more than
`remaining`, which is not counted down. -/
def joinParams : (firstParam : Bool) → (written : Bytes) → List Bytes →
    Result Bytes
  | _, written, [] => do
      defined (written.length ≤ MAX_URI_CHAR_LEN)
      .ok written
  | firstParam, written, param :: rest => do
      let maxLen ← strlenBuffer param
      check (maxLen + 1 < MAX_URI_CHAR_LEN) .invalidArg
      let joined := written ++ (if firstParam then [] else [byte '&']) ++
        param.take maxLen
      defined (joined.length ≤ MAX_URI_CHAR_LEN + 1)
      joinParams false joined rest

/-- The length of the URL, where 0 stands for `STRNLEN`. -/
def urlLength (url : Bytes) (urlLen : Nat) : Nat :=
  if urlLen = 0 then min url.length MAX_URI_CHAR_LEN else urlLen

/-- The length is at most that of the URL.  Without a query there is no
result. -/
def getCanonicalQueryParams (url : Bytes) (urlLen : Nat) (uriEncode : Bool) :
    Result (Option Bytes) := do
  let uri ← getCanonicalUri (url.take (urlLength url urlLen))
  match uri.rest with
  | [] => .ok none
  | c :: query =>
      if c = byte '?' then do
        let params ←
          (query :: paramStarts query).foldlM (addParam uriEncode) []
        let joined ← joinParams true [] params
        .ok (some joined)
      else .ok none

theorem strcmpBuffers_terminated {first second : Bytes}
    (firstPlain : NUL ∉ first) (secondPlain : NUL ∉ second) :
    strcmpBuffers (terminated first) (terminated second) =
      .ok (strcmp first second) := by
  induction first generalizing second with
  | nil =>
      cases second with
      | nil => rfl
      | cons d second =>
          have different : NUL ≠ d := fun same =>
            secondPlain (same ▸ List.mem_cons_self)
          have less : compare NUL d = .lt := by
            revert different
            refine forall_byte d ?_
            decide +kernel
          simp [terminated, strcmpBuffers, different, less, strcmp]
  | cons c first induction =>
      cases second with
      | nil =>
          have different : c ≠ NUL := fun same =>
            firstPlain (same ▸ List.mem_cons_self)
          have greater : compare c NUL = .gt := by
            revert different
            refine forall_byte c ?_
            decide +kernel
          simp [terminated, strcmpBuffers, different, greater, strcmp]
      | cons d second =>
          simp only [List.mem_cons, not_or] at firstPlain secondPlain
          have later := induction firstPlain.2 secondPlain.2
          simp only [terminated, List.cons_append, strcmpBuffers, strcmp,
            List.compare_cons_cons] at later ⊢
          by_cases same : c = d
          · subst same
            rw [if_neg (by simp), if_neg (Ne.symm firstPlain.1), later]
            simp
          · have different : compare c d ≠ .eq := by
              simpa using same
            rw [if_pos same]
            cases order : compare c d <;> simp_all

theorem strlenBuffer_terminated {text : Bytes} (plain : NUL ∉ text) :
    strlenBuffer (terminated text) = .ok text.length := by
  have whole : ∀ c ∈ text, decide (c ≠ NUL) = true := by
    intro c member
    have different : c ≠ NUL := by
      rintro rfl
      exact plain member
    simpa using different
  have stops : ([NUL] : Bytes).takeWhile (fun c => decide (c ≠ NUL)) = [] := by
    decide
  have length : ((terminated text).takeWhile
      (fun c => decide (c ≠ NUL))).length = text.length := by
    rw [terminated, List.takeWhile_append_of_pos whole, stops,
      List.append_nil]
  have member : NUL ∈ terminated text := by simp [terminated]
  rw [strlenBuffer, length, defined_met member]
  rfl

theorem insertParam_terminated {new : Bytes} {params : List Bytes}
    (newPlain : NUL ∉ new) (plain : ∀ param ∈ params, NUL ∉ param) :
    insertParam (terminated new) (params.map terminated) =
      .ok ((params.orderedInsert Ascending new).map terminated) := by
  induction params with
  | nil => rfl
  | cons old rest induction =>
      have compared := strcmpBuffers_terminated newPlain
        (plain old List.mem_cons_self)
      rw [List.map_cons, insertParam, compared]
      change (if Ascending new old then _ else _) = _
      by_cases ascending : Ascending new old
      · rw [if_pos ascending, List.orderedInsert_cons_of_le _ _ ascending]
        rfl
      · have later := induction fun param member =>
          plain param (List.mem_cons_of_mem _ member)
        rw [if_neg ascending, List.orderedInsert_of_not_le _ _ ascending,
          later]
        rfl

theorem insertParam_eq_ok {new : Bytes} {params after : List Bytes}
    (inserts : insertParam new params = .ok after) :
    after.Perm (new :: params) := by
  induction params generalizing after with
  | nil =>
      cases inserts
      exact List.Perm.refl _
  | cons old rest induction =>
      simp only [insertParam, bind_eq_ok] at inserts
      obtain ⟨order, -, decided⟩ := inserts
      split at decided
      · cases decided
        exact List.Perm.refl _
      · obtain ⟨inserted, later, equality⟩ := bind_eq_ok.mp decided
        cases equality
        exact ((induction later).cons old).trans (List.Perm.swap new old rest)

/-! ### The parameters of a query -/

/-- A parameter of the form `name=value`. -/
structure QueryParam where
  name : Bytes
  value : Bytes
  name_pos : name ≠ []
  name_plain : ∀ c ∈ name, c ≠ byte '&' ∧ c ≠ byte '='
  value_plain : byte '&' ∉ value
  deriving DecidableEq, Repr

namespace QueryParam

def text (param : QueryParam) : Bytes :=
  param.name ++ [byte '='] ++ param.value

/-- The parameter in the canonical query. -/
def encoded (uriEncode : Bool) (param : QueryParam) : Bytes :=
  param.name ++ [byte '='] ++
    if uriEncode then uriEncoded param.value else param.value

/-- The value of the parameter can be encoded into the buffer that is allocated
for it. -/
structure Encodable (param : QueryParam) : Prop where
  unreserved : ∃ c ∈ param.value, isUnreserved c = true
  ascii : ∀ c ∈ param.value, IsAscii c
  short : param.name.length + 1 + (uriEncoded param.value).length ≤
    MAX_URI_CHAR_LEN - 2

instance (param : QueryParam) : Decidable param.Encodable :=
  decidable_of_iff
    ((∃ c ∈ param.value, isUnreserved c = true) ∧
      (∀ c ∈ param.value, IsAscii c) ∧
      param.name.length + 1 + (uriEncoded param.value).length ≤
        MAX_URI_CHAR_LEN - 2)
    ⟨fun ⟨unreserved, ascii, short⟩ => ⟨unreserved, ascii, short⟩,
      fun ⟨unreserved, ascii, short⟩ => ⟨unreserved, ascii, short⟩⟩

theorem text_plain (param : QueryParam) : byte '&' ∉ param.text := by
  simp only [text, List.mem_append, not_or]
  refine ⟨⟨fun member => ?_, by decide⟩, param.value_plain⟩
  exact (param.name_plain _ member).1 rfl

end QueryParam

/-- The query of some parameters. -/
def queryOf (params : List QueryParam) : Bytes :=
  [byte '&'].intercalate (params.map QueryParam.text)

theorem queryOf_mem {params : List QueryParam} {param : QueryParam} {c : UInt8}
    (listed : param ∈ params) (member : c ∈ param.text) :
    c ∈ queryOf params := by
  unfold queryOf
  cases params with
  | nil => cases listed
  | cons first rest =>
      rw [List.map_cons, intercalate_cons]
      rcases List.mem_cons.mp listed with rfl | later
      · exact List.mem_append_left _ member
      · apply List.mem_append_right
        exact List.mem_flatMap.mpr ⟨param.text, List.mem_map_of_mem later,
          List.mem_append_right _ member⟩

theorem takeWhile_before {before behind : Bytes} {separator : UInt8}
    (plain : separator ∉ before)
    (stops : behind = [] ∨ ∃ rest, behind = separator :: rest) :
    (before ++ behind).takeWhile (fun c => decide (c ≠ separator)) =
      before := by
  have whole : ∀ c ∈ before, decide (c ≠ separator) = true := by
    intro c member
    have different : c ≠ separator := by
      rintro rfl
      exact plain member
    simpa using different
  rw [List.takeWhile_append_of_pos whole]
  rcases stops with rfl | ⟨rest, rfl⟩
  · simp
  · rw [List.takeWhile_cons_of_neg (by simp), List.append_nil]

section Start

variable {name value behind : Bytes}

/-- The start of a parameter is followed by its end, or by the next. -/
def EndsParam (behind : Bytes) : Prop :=
  behind = [] ∨ ∃ rest, behind = byte '&' :: rest

theorem newParam_parts (uriEncode : Bool)
    (namePlain : ∀ c ∈ name, c ≠ byte '&' ∧ c ≠ byte '=')
    (valuePlain : byte '&' ∉ value) (ends : EndsParam behind) :
    newParam uriEncode (name ++ [byte '='] ++ value ++ behind) = (do
      let maxLen := min MAX_URI_CHAR_LEN
        (name.length + 1 + value.length * 3 + 1)
      defined (name.length + 1 ≤ maxLen)
      let remaining := (maxLen + 2 ^ 32 - (name.length + 2)) % 2 ^ 32
      let encoded ←
        if uriEncode then do
          let coder ← uriEncodeString
            (.sized (value ++ behind) value.length) (some remaining)
          .ok coder.written
        else .ok value
      defined (name.length + 1 + encoded.length ≤ maxLen)
      .ok (name ++ [byte '='] ++ encoded)) := by
  have plain : byte '&' ∉ name ++ [byte '='] ++ value := by
    simp only [List.mem_append, not_or]
    exact ⟨⟨fun member => (namePlain _ member).1 rfl, by decide⟩, valuePlain⟩
  have whole : (name ++ [byte '='] ++ value ++ behind).takeWhile
      (fun c => decide (c ≠ byte '&')) = name ++ [byte '='] ++ value :=
    takeWhile_before plain ends
  have nameText : (name ++ [byte '='] ++ value).takeWhile
      (fun c => decide (c ≠ byte '=')) = name := by
    rw [List.append_assoc]
    apply takeWhile_before
    · intro member
      exact (namePlain _ member).2 rfl
    · exact Or.inr ⟨value, rfl⟩
  have valueLen : (name ++ [byte '='] ++ value).length - (name.length + 1) =
      value.length := by
    simp only [List.length_append, List.length_singleton]
    omega
  have valueText : (name ++ [byte '='] ++ value ++ behind).drop
      (name.length + 1) = value ++ behind := by
    have prefixLength : name.length + 1 = (name ++ [byte '=']).length := by
      simp
    rw [List.append_assoc, prefixLength, List.drop_left]
  have equals : byte '=' ∈ name ++ [byte '='] ++ value := by simp
  simp only [newParam, whole, nameText, valueLen, valueText, check,
    if_pos equals, List.take_left]
  rfl

/-- A buffer is made exactly if the value can be encoded into it. -/
theorem newParam_parts_eq_ok
    (namePlain : ∀ c ∈ name, c ≠ byte '&' ∧ c ≠ byte '=')
    (valuePlain : byte '&' ∉ value) (ends : EndsParam behind)
    (unterminated : NUL ∉ value ++ behind)
    (room : name.length + 1 ≤ MAX_URI_CHAR_LEN) {buffer : Bytes} :
    newParam true (name ++ [byte '='] ++ value ++ behind) = .ok buffer ↔
      ((∃ c ∈ value, isUnreserved c = true) ∧ (∀ c ∈ value, IsAscii c) ∧
        name.length + 1 + (uriEncoded value).length ≤
          MAX_URI_CHAR_LEN - 2) ∧
      buffer = terminated (name ++ [byte '='] ++ uriEncoded value) := by
  obtain ⟨atLeast, atMost, less⟩ := length_uriEncoded_bounds value
  simp only [newParam_parts true namePlain valuePlain ends, bind_eq_ok,
    defined_eq_ok, if_true, uriEncodeString_eq_ok,
    SizedString.value_sized unterminated, Except.ok.injEq]
  have max : MAX_URI_CHAR_LEN = 10000 := rfl
  constructor
  · rintro ⟨_, -, coder, ⟨fits, ascii, rfl⟩, _, rfl, _, within, rfl⟩
    simp only [List.length_append, List.length_singleton] at within
    by_cases empty : value = []
    · simp only [empty, if_true, List.length_nil] at fits within
      omega
    · simp only [if_neg empty] at fits within ascii ⊢
      have positive := List.length_pos_of_ne_nil empty
      refine ⟨⟨less.mp (by omega), ascii, by omega⟩, ?_⟩
      simp [terminated]
  · rintro ⟨⟨unreserved, ascii, short⟩, rfl⟩
    have nonempty : value ≠ [] := by
      rintro empty
      simp [empty] at unreserved
    have positive := List.length_pos_of_ne_nil nonempty
    have escapes := less.mpr unreserved
    simp only [if_neg nonempty]
    refine ⟨(), by omega, _, ⟨by omega, ascii, rfl⟩, _, rfl, (), ?_, ?_⟩
    · simp only [List.length_append, List.length_singleton]
      omega
    · simp [terminated]

theorem newParam_eq_ok {param : QueryParam} (ends : EndsParam behind)
    (unterminated : NUL ∉ param.value ++ behind)
    (fits : (param.encoded true).length ≤ MAX_URI_CHAR_LEN) {buffer : Bytes} :
    newParam true (param.text ++ behind) = .ok buffer ↔
      param.Encodable ∧ buffer = terminated (param.encoded true) := by
  have room : param.name.length + 1 ≤ MAX_URI_CHAR_LEN := by
    simp only [QueryParam.encoded, List.length_append, List.length_singleton]
      at fits
    omega
  refine (newParam_parts_eq_ok param.name_plain param.value_plain ends
    unterminated room).trans (and_congr ?_ Iff.rfl)
  constructor
  · rintro ⟨unreserved, ascii, short⟩
    exact ⟨unreserved, ascii, short⟩
  · rintro ⟨unreserved, ascii, short⟩
    exact ⟨unreserved, ascii, short⟩

end Start

theorem paramStarts_append {text : Bytes} (plain : byte '&' ∉ text)
    (behind : Bytes) : paramStarts (text ++ behind) = paramStarts behind := by
  induction text with
  | nil => rfl
  | cons c rest induction =>
      simp only [List.mem_cons, not_or] at plain
      rw [List.cons_append, paramStarts, if_neg (Ne.symm plain.1),
        induction plain.2]

/-- Where the parameters of a query start. -/
def queryStarts (params : List QueryParam) : List Bytes :=
  queryOf params :: paramStarts (queryOf params)

theorem queryOf_singleton (param : QueryParam) :
    queryOf [param] = param.text ++ [] := by
  simp [queryOf]

theorem queryOf_cons (param next : QueryParam) (rest : List QueryParam) :
    queryOf (param :: next :: rest) =
      param.text ++ byte '&' :: queryOf (next :: rest) := by
  simp [queryOf, List.intercalate_cons_cons]

theorem queryStarts_singleton (param : QueryParam) :
    queryStarts [param] = [param.text ++ []] := by
  rw [queryStarts, queryOf_singleton, paramStarts_append param.text_plain]
  rfl

theorem queryStarts_cons (param next : QueryParam) (rest : List QueryParam) :
    queryStarts (param :: next :: rest) =
      (param.text ++ byte '&' :: queryOf (next :: rest)) ::
        queryStarts (next :: rest) := by
  rw [queryStarts, queryOf_cons, paramStarts_append param.text_plain]
  rfl

theorem nul_not_mem_uriEncoded (value : Bytes) : NUL ∉ uriEncoded value := by
  intro member
  obtain ⟨c, -, digit⟩ := List.mem_flatMap.mp member
  revert digit
  refine forall_byte c ?_
  decide +kernel

theorem nul_not_mem_encoded {param : QueryParam} (uriEncode : Bool)
    (unterminated : NUL ∉ param.text) : NUL ∉ param.encoded uriEncode := by
  simp only [QueryParam.text, List.mem_append, not_or] at unterminated
  simp only [QueryParam.encoded, List.mem_append, not_or]
  refine ⟨unterminated.1, ?_⟩
  cases uriEncode
  · exact unterminated.2
  · exact nul_not_mem_uriEncoded param.value

/-- The canonical parameters, sorted one after the other. -/
def sortedParams (params : List QueryParam) (texts : List Bytes) :
    List Bytes :=
  params.foldl (fun texts param =>
    texts.orderedInsert Ascending (param.encoded true)) texts

theorem addParam_eq_ok {param : QueryParam} {behind : Bytes}
    {texts after : List Bytes} (ends : EndsParam behind)
    (unterminated : NUL ∉ param.text ++ behind)
    (plain : ∀ text ∈ texts, NUL ∉ text)
    (fits : (param.encoded true).length ≤ MAX_URI_CHAR_LEN) :
    addParam true (texts.map terminated) (param.text ++ behind) = .ok after ↔
      param.Encodable ∧
        after = (texts.orderedInsert Ascending (param.encoded true)).map
          terminated := by
  have whole := unterminated
  simp only [QueryParam.text, List.append_assoc, List.mem_append, not_or]
    at unterminated
  have valuePlain : NUL ∉ param.value ++ behind := by
    simp only [List.mem_append, not_or]
    exact unterminated.2.2
  have textPlain : NUL ∉ param.text := fun member =>
    whole (List.mem_append_left _ member)
  have inserted := insertParam_terminated
    (nul_not_mem_encoded true textPlain) plain
  simp only [addParam, bind_eq_ok, newParam_eq_ok ends valuePlain fits]
  constructor
  · rintro ⟨_, ⟨encodable, rfl⟩, inserts⟩
    rw [inserted, Except.ok.injEq] at inserts
    exact ⟨encodable, inserts.symm⟩
  · rintro ⟨encodable, rfl⟩
    exact ⟨_, ⟨encodable, rfl⟩, inserted⟩

theorem addParams_eq_ok {params : List QueryParam} {texts after : List Bytes}
    (nonempty : params ≠ []) (unterminated : NUL ∉ queryOf params)
    (plain : ∀ text ∈ texts, NUL ∉ text)
    (fits : ∀ param ∈ params,
      (param.encoded true).length ≤ MAX_URI_CHAR_LEN) :
    (queryStarts params).foldlM (addParam true) (texts.map terminated) =
        .ok after ↔
      (∀ param ∈ params, param.Encodable) ∧
        after = (sortedParams params texts).map terminated := by
  induction params generalizing texts with
  | nil => exact (nonempty rfl).elim
  | cons param rest induction =>
      have first := fits param List.mem_cons_self
      cases rest with
      | nil =>
          rw [queryOf_singleton] at unterminated
          simp only [queryStarts_singleton, List.foldlM_cons, List.foldlM_nil,
            bind_eq_ok, addParam_eq_ok (Or.inl rfl) unterminated plain first,
            pure, Except.pure, Except.ok.injEq, List.mem_singleton,
            forall_eq]
          constructor
          · rintro ⟨_, ⟨encodable, rfl⟩, rfl⟩
            exact ⟨encodable, rfl⟩
          · rintro ⟨encodable, rfl⟩
            exact ⟨_, ⟨encodable, rfl⟩, rfl⟩
      | cons next rest =>
          rw [queryOf_cons] at unterminated
          have laterPlain : NUL ∉ queryOf (next :: rest) := fun member =>
            unterminated (List.mem_append_right _
              (List.mem_cons_of_mem _ member))
          have firstPlain : NUL ∉ param.text := fun member =>
            unterminated (List.mem_append_left _ member)
          have insertedPlain : ∀ text ∈ texts.orderedInsert Ascending
              (param.encoded true), NUL ∉ text := by
            intro text member
            rcases (List.mem_orderedInsert _).mp member with rfl | member
            · exact nul_not_mem_encoded true firstPlain
            · exact plain text member
          have later := induction (by simp) laterPlain insertedPlain
            fun param member => fits param (List.mem_cons_of_mem _ member)
          simp only [queryStarts_cons, List.foldlM_cons, bind_eq_ok,
            addParam_eq_ok (Or.inr ⟨_, rfl⟩) unterminated plain first]
          rw [List.forall_mem_cons]
          constructor
          · rintro ⟨_, ⟨encodable, rfl⟩, adds⟩
            obtain ⟨encodables, rfl⟩ := later.mp adds
            exact ⟨⟨encodable, encodables⟩, rfl⟩
          · rintro ⟨⟨encodable, encodables⟩, rfl⟩
            exact ⟨_, ⟨encodable, rfl⟩, later.mpr ⟨encodables, rfl⟩⟩

theorem perm_foldl_orderedInsert (added texts : List Bytes) :
    (added.foldl (fun texts text => texts.orderedInsert Ascending text)
      texts).Perm (added ++ texts) := by
  induction added generalizing texts with
  | nil => exact List.Perm.refl _
  | cons text rest induction =>
      refine (induction _).trans ?_
      refine ((List.perm_orderedInsert Ascending text texts).append_left
        _).trans ?_
      exact List.perm_middle

theorem perm_sortedParams (params : List QueryParam) (texts : List Bytes) :
    (sortedParams params texts).Perm
      (params.map (·.encoded true) ++ texts) := by
  have permuted := perm_foldl_orderedInsert (params.map (·.encoded true)) texts
  rw [List.foldl_map] at permuted
  exact permuted

theorem ascending_foldl_orderedInsert (added : List Bytes)
    {texts : List Bytes} (sorted : texts.Pairwise Ascending) :
    (added.foldl (fun texts text => texts.orderedInsert Ascending text)
      texts).Pairwise Ascending := by
  induction added generalizing texts with
  | nil => exact sorted
  | cons text rest induction => exact induction (sorted.orderedInsert _ _)

theorem sortedParams_ascending (params : List QueryParam)
    {texts : List Bytes} (sorted : texts.Pairwise Ascending) :
    (sortedParams params texts).Pairwise Ascending := by
  have ascending :=
    ascending_foldl_orderedInsert (params.map (·.encoded true)) sorted
  rw [List.foldl_map] at ascending
  exact ascending

/-- The loop that joins goes on with the parameters behind ampersands, if the
buffer is large enough. -/
theorem joinParams_rest {texts : List Bytes} {written : Bytes}
    (plain : ∀ text ∈ texts, NUL ∉ text)
    (short : ∀ text ∈ texts, text.length + 1 < MAX_URI_CHAR_LEN) :
    joinParams false written (texts.map terminated) =
      if (written ++ texts.flatMap ([byte '&'] ++ ·)).length ≤
          MAX_URI_CHAR_LEN then
        .ok (written ++ texts.flatMap ([byte '&'] ++ ·))
      else .error .undefined := by
  induction texts generalizing written with
  | nil =>
      simp only [List.map_nil, joinParams, defined, List.flatMap_nil,
        List.append_nil]
      split <;> rfl
  | cons text rest induction =>
      have length := strlenBuffer_terminated (plain text List.mem_cons_self)
      have whole : (terminated text).take text.length = text := by
        simp [terminated]
      have joined : written ++ [byte '&'] ++ text ++
            rest.flatMap ([byte '&'] ++ ·) =
          written ++ (text :: rest).flatMap ([byte '&'] ++ ·) := by
        simp
      have later := @induction (written ++ [byte '&'] ++ text)
        (fun text member => plain text (List.mem_cons_of_mem _ member))
        (fun text member => short text (List.mem_cons_of_mem _ member))
      rw [List.map_cons, joinParams, length]
      change (do
        check (text.length + 1 < MAX_URI_CHAR_LEN) .invalidArg
        defined ((written ++ [byte '&'] ++
          (terminated text).take text.length).length ≤ MAX_URI_CHAR_LEN + 1)
        joinParams false (written ++ [byte '&'] ++
          (terminated text).take text.length) (rest.map terminated)) = _
      rw [whole, check_met (short text List.mem_cons_self), ← joined,
        ← later, defined]
      by_cases within : (written ++ [byte '&'] ++ text).length ≤
          MAX_URI_CHAR_LEN + 1
      · rw [if_pos within]
        rfl
      · rw [if_neg within, later, if_neg]
        · rfl
        · rw [List.length_append]
          omega

/-- Parameters that have been encoded are joined if the buffer is large
enough.  The check in the loop does not fail. -/
theorem joinParams_terminated {texts : List Bytes} (nonempty : texts ≠ [])
    (plain : ∀ text ∈ texts, NUL ∉ text)
    (short : ∀ text ∈ texts, text.length + 1 < MAX_URI_CHAR_LEN) :
    joinParams true [] (texts.map terminated) =
      if ([byte '&'].intercalate texts).length ≤ MAX_URI_CHAR_LEN then
        .ok ([byte '&'].intercalate texts)
      else .error .undefined := by
  cases texts with
  | nil => exact (nonempty rfl).elim
  | cons text rest =>
      have length := strlenBuffer_terminated (plain text List.mem_cons_self)
      have whole : (terminated text).take text.length = text := by
        simp [terminated]
      have textShort := short text List.mem_cons_self
      have within : text.length ≤ MAX_URI_CHAR_LEN + 1 := by omega
      have later := @joinParams_rest rest text
        (fun text member => plain text (List.mem_cons_of_mem _ member))
        (fun text member => short text (List.mem_cons_of_mem _ member))
      rw [List.map_cons, joinParams, length, intercalate_cons, ← later]
      change (do
        check (text.length + 1 < MAX_URI_CHAR_LEN) .invalidArg
        defined (((terminated text).take text.length).length ≤
          MAX_URI_CHAR_LEN + 1)
        joinParams false ((terminated text).take text.length)
          (rest.map terminated)) = _
      rw [whole, check_met textShort, defined_met within]
      rfl

/-! ### Values that are not encoded -/

theorem newParam_unterminated {start buffer : Bytes} (plain : NUL ∉ start)
    (copies : newParam false start = .ok buffer) : NUL ∉ buffer := by
  simp only [newParam, bind_eq_ok, check_eq_ok, defined_eq_ok,
    Bool.false_eq_true, if_false, Except.ok.injEq] at copies
  obtain ⟨_, -, _, -, _, rfl, _, -, rfl⟩ := copies
  simp only [List.mem_append, not_or]
  refine ⟨⟨fun member => ?_, by decide⟩, fun member => ?_⟩
  · exact plain ((List.takeWhile_prefix _).mem
      ((List.takeWhile_prefix _).mem member))
  · exact plain (List.mem_of_mem_drop (List.mem_of_mem_take member))

theorem addParams_unterminated {starts params after : List Bytes}
    (startsPlain : ∀ start ∈ starts, NUL ∉ start)
    (plain : ∀ param ∈ params, NUL ∉ param)
    (adds : starts.foldlM (addParam false) params = .ok after) :
    (∀ param ∈ after, NUL ∉ param) ∧
      params.length + starts.length = after.length := by
  induction starts generalizing params with
  | nil =>
      cases adds
      exact ⟨plain, rfl⟩
  | cons start rest induction =>
      rw [List.foldlM_cons, bind_eq_ok] at adds
      obtain ⟨between, adds, later⟩ := adds
      obtain ⟨buffer, copies, inserts⟩ := bind_eq_ok.mp adds
      have permuted := insertParam_eq_ok inserts
      have bufferPlain := newParam_unterminated
        (startsPlain start List.mem_cons_self) copies
      obtain ⟨afterPlain, length⟩ := induction
        (fun start member => startsPlain start (List.mem_cons_of_mem _ member))
        (fun param member => by
          rcases List.mem_cons.mp (permuted.mem_iff.mp member) with rfl | old
          · exact bufferPlain
          · exact plain param old) later
      refine ⟨afterPlain, ?_⟩
      rw [← length, permuted.length_eq, List.length_cons, List.length_cons]
      omega

theorem paramStarts_suffix {text start : Bytes}
    (member : start ∈ paramStarts text) : start.IsSuffix text := by
  induction text with
  | nil => cases member
  | cons c rest induction =>
      rw [paramStarts] at member
      split at member
      · rcases List.mem_cons.mp member with rfl | later
        · exact List.suffix_cons c _
        · exact (induction later).trans (List.suffix_cons c rest)
      · exact (induction member).trans (List.suffix_cons c rest)

/-- Without encoding a buffer is measured that is not terminated. -/
theorem joinParams_unterminated {query : Bytes} {params : List Bytes}
    (plain : NUL ∉ query)
    (adds : (query :: paramStarts query).foldlM (addParam false) [] =
      .ok params) : joinParams true [] params = .error .undefined := by
  have startsPlain : ∀ start ∈ query :: paramStarts query, NUL ∉ start := by
    intro start member nul
    rcases List.mem_cons.mp member with rfl | later
    · exact plain nul
    · exact plain ((paramStarts_suffix later).mem nul)
  obtain ⟨unterminated, length⟩ :=
    addParams_unterminated startsPlain (by simp) adds
  cases params with
  | nil => simp at length
  | cons param rest =>
      have measured : strlenBuffer param = .error .undefined := by
        rw [strlenBuffer, defined,
          if_neg (unterminated param List.mem_cons_self)]
        rfl
      rw [joinParams, measured]
      rfl

/-! ### The canonical query -/

/-- The result is the canonical query of the parameters. -/
def QueryIsCanonical (uriEncode : Bool) (params : List QueryParam)
    (result : Result (Option Bytes)) : Prop :=
  ∃ texts : List Bytes,
    result = .ok (some ([byte '&'].intercalate texts)) ∧
      texts.Perm (params.map (·.encoded uriEncode)) ∧
      texts.Pairwise Ascending

theorem length_le_intercalate {texts : List Bytes} {text : Bytes}
    (member : text ∈ texts) :
    text.length ≤ ([byte '&'].intercalate texts).length := by
  rw [length_intercalate]
  have listed : text.length + 1 ∈ texts.map fun text => text.length + 1 :=
    List.mem_map_of_mem member
  have bound := List.le_sum_of_mem listed
  omega

/-- The order of the parameters does not matter for the length. -/
theorem length_intercalate_perm {first second : List Bytes}
    (permuted : first.Perm second) :
    ([byte '&'].intercalate first).length =
      ([byte '&'].intercalate second).length := by
  rw [length_intercalate, length_intercalate, (permuted.map _).sum_eq]

theorem getCanonicalQueryParams_query {url : Url} {urlLen : Nat}
    {query : Bytes} (uriEncode : Bool) (has : url.query = some query)
    (whole : urlLen = url.text.length ∨
      urlLen = 0 ∧ url.text.length ≤ MAX_URI_CHAR_LEN) :
    getCanonicalQueryParams url.text urlLen uriEncode = (do
      let params ← (query :: paramStarts query).foldlM (addParam uriEncode) []
      let joined ← joinParams true [] params
      .ok (some joined)) := by
  have taken : url.text.take (urlLength url.text urlLen) = url.text := by
    apply List.take_of_length_le
    unfold urlLength
    split <;> omega
  obtain ⟨uri, found, rest⟩ := url.getCanonicalUri_query has
  rw [getCanonicalQueryParams, taken, found]
  change (match uri.rest with | [] => _ | c :: query => _) = _
  rw [rest]
  rfl

/-- The canonical query is built, if and only if values are to be encoded and
each of them can be. -/
theorem queryIsCanonical_iff (url : Url) (urlLen : Nat) (uriEncode : Bool)
    (params : List QueryParam) (nonempty : params ≠ [])
    (has : url.query = some (queryOf params))
    (fits : ([byte '&'].intercalate
      (params.map (·.encoded uriEncode))).length ≤ MAX_URI_CHAR_LEN)
    (whole : urlLen = url.text.length ∨
      urlLen = 0 ∧ url.text.length ≤ MAX_URI_CHAR_LEN) :
    QueryIsCanonical uriEncode params
        (getCanonicalQueryParams url.text urlLen uriEncode) ↔
      uriEncode = true ∧ ∀ param ∈ params, param.Encodable := by
  have unterminated : NUL ∉ queryOf params := by
    intro member
    apply url.unterminated
    simp [UrlParts.text, UrlParts.queryText, has, member]
  rw [getCanonicalQueryParams_query uriEncode has whole]
  cases uriEncode with
  | false =>
      simp only [Bool.false_eq_true, false_and, iff_false]
      rintro ⟨texts, builds, -⟩
      simp only [bind_eq_ok] at builds
      obtain ⟨buffers, adds, joined, joins, -⟩ := builds
      rw [joinParams_unterminated unterminated adds] at joins
      cases joins
  | true =>
      have each : ∀ param ∈ params,
          (param.encoded true).length ≤ MAX_URI_CHAR_LEN := by
        intro param member
        exact (length_le_intercalate (List.mem_map_of_mem member)).trans fits
      have adds (after : List Bytes) :
          (queryOf params :: paramStarts (queryOf params)).foldlM
              (addParam true) [] = .ok after ↔
            (∀ param ∈ params, param.Encodable) ∧
              after = (sortedParams params []).map terminated :=
        @addParams_eq_ok params [] after nonempty unterminated (by simp) each
      have permuted := perm_sortedParams params []
      rw [List.append_nil] at permuted
      simp only [true_and]
      constructor
      · rintro ⟨texts, builds, -⟩
        simp only [bind_eq_ok] at builds
        obtain ⟨buffers, added, -⟩ := builds
        exact ((adds buffers).mp added).1
      · intro encodable
        have plain : ∀ text ∈ sortedParams params [], NUL ∉ text := by
          intro text member
          obtain ⟨param, listed, rfl⟩ :=
            List.mem_map.mp (permuted.mem_iff.mp member)
          apply nul_not_mem_encoded
          intro nul
          apply unterminated
          exact queryOf_mem listed nul
        have short : ∀ text ∈ sortedParams params [],
            text.length + 1 < MAX_URI_CHAR_LEN := by
          intro text member
          obtain ⟨param, listed, rfl⟩ :=
            List.mem_map.mp (permuted.mem_iff.mp member)
          have bound := (encodable param listed).short
          simp only [QueryParam.encoded, if_true, List.length_append,
            List.length_singleton, MAX_URI_CHAR_LEN] at bound ⊢
          omega
        have sortedNonempty : sortedParams params [] ≠ [] := by
          intro empty
          rw [empty] at permuted
          exact nonempty (List.map_eq_nil_iff.mp permuted.nil_eq.symm)
        have joins := joinParams_terminated sortedNonempty plain short
        rw [if_pos (length_intercalate_perm permuted ▸ fits)] at joins
        refine ⟨sortedParams params [], ?_, permuted,
          sortedParams_ascending params List.Pairwise.nil⟩
        simp only [bind_eq_ok]
        exact ⟨_, (adds _).mpr ⟨encodable, rfl⟩, _, joins, rfl⟩

/-- The URL `https://h/p` with a query. -/
def urlWithQuery (query : Bytes) (plain : NUL ∉ query) : Url :=
  { scheme := bytes "https"
    host := bytes "h"
    port := []
    path := bytes "/p"
    query := some query
    scheme_plain := colon_not_mem_https
    host_plain := by decide +kernel
    port_colon := noPort_colon
    port_plain := noPort_plain
    path_slash := Or.inr ⟨bytes "p", by decide⟩
    path_plain := by decide
    unterminated := by
      simp only [UrlParts.text, UrlParts.queryText, List.mem_append,
        List.mem_cons, not_or]
      exact ⟨by decide, by decide, by decide, by decide, by decide, plain⟩ }

theorem queryIsCanonical_ascending :
    QueryIsCanonical true
      [{ name := bytes "b"
         value := bytes "x y"
         name_pos := by decide
         name_plain := by decide +kernel
         value_plain := by decide },
        { name := bytes "a"
          value := bytes "1"
          name_pos := by decide
          name_plain := by decide +kernel
          value_plain := by decide }]
      (getCanonicalQueryParams
        (urlWithQuery (bytes "b=x y&a=1") (by decide)).text 0 true) := by
  rw [queryIsCanonical_iff _ _ _ _ (by decide) (by decide) (by decide)
    (Or.inr (by decide))]
  decide +kernel

/-- An empty value cannot be encoded. -/
theorem query_not_canonical :
    ¬ ∀ (url : Url) (urlLen : Nat) (uriEncode : Bool)
        (params : List QueryParam),
      params ≠ [] → url.query = some (queryOf params) →
        ([byte '&'].intercalate
          (params.map (·.encoded uriEncode))).length ≤ MAX_URI_CHAR_LEN →
        (urlLen = url.text.length ∨
          urlLen = 0 ∧ url.text.length ≤ MAX_URI_CHAR_LEN) →
        QueryIsCanonical uriEncode params
          (getCanonicalQueryParams url.text urlLen uriEncode) := by
  intro claim
  obtain ⟨texts, builds, -⟩ := claim
    (urlWithQuery (bytes "a=") (by decide)) 0 true
    [{ name := bytes "a"
       value := []
       name_pos := by decide
       name_plain := by decide +kernel
       value_plain := by decide }]
    (by decide) (by decide) (by decide) (Or.inr (by decide))
  have fails : getCanonicalQueryParams
      (urlWithQuery (bytes "a=") (by decide)).text 0 true =
        .error (.failed .notEnoughMemory) := by
    rfl
  rw [fails] at builds
  cases builds

end Common

end KvsProducer
