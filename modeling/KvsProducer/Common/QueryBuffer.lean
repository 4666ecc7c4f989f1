import KvsProducer.Common.QueryParams
import KvsProducer.Lib.Outcome

/-!
# The buffer of the canonical query

The loop of `getCanonicalQueryParams` that joins the parameters compares the
length of each with the size of the whole buffer.  The encoded parameters have
to fit into the buffer together.
-/

namespace KvsProducer

namespace Common

open Outcome

/-- What stands behind the first question mark. -/
def behindQuestionMark (text : Bytes) : Option Bytes :=
  match text.dropWhile (· ≠ byte '?') with
  | [] => none
  | _ :: query => some query

/-- The query of a URL, if there is one. -/
def queryInUrl (url : Bytes) : Option Bytes :=
  (afterScheme url).bind behindQuestionMark

/-- The texts from each parameter of a query on. -/
def startsOf (query : Bytes) : List Bytes := query :: paramStarts query

/-- The parameter at the start of a text. -/
def paramText (start : Bytes) : Bytes := start.takeWhile (· ≠ byte '&')

def paramName (start : Bytes) : Bytes :=
  (paramText start).takeWhile (· ≠ byte '=')

def paramValue (start : Bytes) : Bytes :=
  (paramText start).drop ((paramName start).length + 1)

/-- The parameter as it is joined. -/
def encodedParam (start : Bytes) : Bytes :=
  paramName start ++ [byte '='] ++ uriEncoded (paramValue start)

/-- The value at the start of a text can be encoded into its buffer. -/
def CanEncode (start : Bytes) : Prop :=
  (∃ c ∈ paramValue start, isUnreserved c = true) ∧
    (∀ c ∈ paramValue start, IsAscii c) ∧
    (encodedParam start).length ≤ MAX_URI_CHAR_LEN - 2

instance (start : Bytes) : Decidable (CanEncode start) :=
  inferInstanceAs (Decidable (_ ∧ _ ∧ _))

/-! ### The query -/

theorem findPath_rest (text : Bytes) :
    (findPath text).rest = text.dropWhile (· ≠ byte '?') := by
  induction text with
  | nil => rfl
  | cons c rest induction =>
      rw [findPath]
      split
      · rename_i question
        rw [List.dropWhile_cons_of_neg (by simp [question])]
      · rename_i notQuestion
        split
        · rfl
        · rw [List.dropWhile_cons_of_pos (by simpa using notQuestion)]
          exact induction

theorem behindQuestionMark_eq_some {text query : Bytes}
    (has : behindQuestionMark text = some query) :
    text.dropWhile (· ≠ byte '?') = byte '?' :: query := by
  unfold behindQuestionMark at has
  rcases dropWhile_ne_stops text (byte '?') with nothing | ⟨later, drops⟩
  · rw [nothing] at has
    cases has
  · rw [drops] at has ⊢
    cases has
    rfl

section Query

variable {url query : Bytes} {urlLen : Nat}

theorem queryInUrl_suffix (has : queryInUrl url = some query) :
    byte '?' :: query <:+ url := by
  obtain ⟨start, found, behind⟩ := Option.bind_eq_some_iff.mp has
  rw [← behindQuestionMark_eq_some behind]
  exact (List.dropWhile_suffix _).trans (afterScheme_suffix found)

theorem getCanonicalQueryParams_of_query (uriEncode : Bool)
    (has : queryInUrl (url.take (urlLength url urlLen)) = some query) :
    getCanonicalQueryParams url urlLen uriEncode = (do
      let params ← (startsOf query).foldlM (addParam uriEncode) []
      let joined ← joinParams true [] params
      .ok (some joined)) := by
  obtain ⟨start, found, behind⟩ := Option.bind_eq_some_iff.mp has
  have nonempty : start ≠ [] := by
    rintro rfl
    cases behind
  have uri : getCanonicalUri (url.take (urlLength url urlLen)) =
      .ok (findPath start) := by
    rw [getCanonicalUri, found]
    exact if_neg nonempty
  have rest : (findPath start).rest = byte '?' :: query := by
    rw [findPath_rest, behindQuestionMark_eq_some behind]
  simp only [getCanonicalQueryParams, uri, ok_bind, rest, if_true]
  rfl

end Query

/-! ### The parameters -/

section Start

variable {start : Bytes}

theorem paramName_plain (start : Bytes) :
    ∀ c ∈ paramName start, c ≠ byte '&' ∧ c ≠ byte '=' := by
  intro c member
  constructor
  · rintro rfl
    exact takeWhile_ne_plain start _ ((List.takeWhile_prefix _).mem member)
  · rintro rfl
    exact takeWhile_ne_plain (paramText start) _ member

theorem paramValue_plain (start : Bytes) : byte '&' ∉ paramValue start := by
  intro member
  exact takeWhile_ne_plain start _ (List.mem_of_mem_drop member)

theorem paramText_eq (equals : byte '=' ∈ paramText start) :
    paramName start ++ [byte '='] ++ paramValue start = paramText start := by
  have whole : paramName start ++
      (paramText start).dropWhile (· ≠ byte '=') = paramText start :=
    List.takeWhile_append_dropWhile
  rcases dropWhile_ne_stops (paramText start) (byte '=') with
    nothing | ⟨later, drops⟩
  · rw [nothing, List.append_nil] at whole
    rw [← whole] at equals
    exact absurd equals (takeWhile_ne_plain (paramText start) _)
  · rw [drops] at whole
    have value : paramValue start = later := by
      have length : (paramName start).length + 1 =
          (paramName start ++ [byte '=']).length := by simp
      rw [paramValue, ← whole, List.append_cons, length, List.drop_left]
    rw [value, List.append_assoc, List.singleton_append]
    exact whole

theorem start_eq_parts (equals : byte '=' ∈ paramText start) :
    ∃ behind, EndsParam behind ∧
      start = paramName start ++ [byte '='] ++ paramValue start ++ behind := by
  refine ⟨start.dropWhile (· ≠ byte '&'), dropWhile_ne_stops start _, ?_⟩
  rw [paramText_eq equals]
  exact List.takeWhile_append_dropWhile.symm

theorem newParam_refused (uriEncode : Bool)
    (absent : byte '=' ∉ paramText start) :
    newParam uriEncode start = .error (.failed .invalidArg) := by
  unfold newParam
  change (check (byte '=' ∈ paramText start) .invalidArg >>= _) = _
  rw [check_unmet absent]
  rfl

/-- A value that is to be encoded gets a buffer if it can be encoded. -/
theorem newParam_true_eq_ok (unterminated : NUL ∉ start)
    (short : start.length ≤ MAX_URI_CHAR_LEN) {buffer : Bytes} :
    newParam true start = .ok buffer ↔
      (byte '=' ∈ paramText start ∧ CanEncode start) ∧
        buffer = terminated (encodedParam start) := by
  by_cases equals : byte '=' ∈ paramText start
  · obtain ⟨behind, ends, parts⟩ := start_eq_parts equals
    have plain : NUL ∉ paramValue start ++ behind := by
      intro member
      apply unterminated
      rw [parts, List.append_assoc]
      exact List.mem_append_right _ member
    have room : (paramName start).length + 1 ≤ MAX_URI_CHAR_LEN := by
      have length := congrArg List.length parts
      simp only [List.length_append, List.length_singleton] at length
      omega
    have made := @newParam_parts_eq_ok _ _ _ (paramName_plain start)
      (paramValue_plain start) ends plain room buffer
    rw [← parts] at made
    rw [made]
    simp only [equals, true_and, CanEncode, encodedParam, List.length_append,
      List.length_singleton]
  · simp [newParam_refused _ equals, equals]

theorem newParam_false_eq_ok (short : start.length ≤ MAX_URI_CHAR_LEN)
    {buffer : Bytes} :
    newParam false start = .ok buffer ↔
      byte '=' ∈ paramText start ∧
        buffer = paramName start ++ [byte '='] ++ paramValue start := by
  by_cases equals : byte '=' ∈ paramText start
  · obtain ⟨behind, ends, parts⟩ := start_eq_parts equals
    have length := congrArg List.length parts
    simp only [List.length_append, List.length_singleton] at length
    have room : (paramName start).length + 1 + (paramValue start).length ≤
        min MAX_URI_CHAR_LEN ((paramName start).length + 1 +
          (paramValue start).length * 3 + 1) := by omega
    have made := newParam_parts false (paramName_plain start)
      (paramValue_plain start) ends
    rw [← parts] at made
    rw [made]
    simp only [bind_eq_ok, defined_eq_ok, Bool.false_eq_true, if_false, equals,
      true_and, Except.ok.injEq]
    constructor
    · intro makes
      obtain ⟨_, -, _, copied, _, -, result⟩ := makes
      rw [← result, ← copied]
    · intro result
      exact ⟨(), by omega, _, rfl, (), room, result.symm⟩
  · simp [newParam_refused _ equals, equals]

end Start

/-! ### The loop over the parameters -/

theorem nul_not_mem_encodedParam {start : Bytes} (unterminated : NUL ∉ start) :
    NUL ∉ encodedParam start := by
  simp only [encodedParam, List.mem_append, not_or]
  refine ⟨⟨?_, by decide⟩, nul_not_mem_uriEncoded _⟩
  intro member
  apply unterminated
  exact (List.takeWhile_prefix _).mem ((List.takeWhile_prefix _).mem member)

theorem addParams_encoded {starts texts : List Bytes}
    (made : ∀ start ∈ starts,
      newParam true start = .ok (terminated (encodedParam start)))
    (plain : ∀ start ∈ starts, NUL ∉ encodedParam start)
    (textsPlain : ∀ text ∈ texts, NUL ∉ text) :
    starts.foldlM (addParam true) (texts.map terminated) =
      .ok (((starts.map encodedParam).foldl
        (fun texts text => texts.orderedInsert Ascending text) texts).map
          terminated) := by
  induction starts generalizing texts with
  | nil => rfl
  | cons start rest induction =>
      have startPlain := plain start List.mem_cons_self
      rw [List.foldlM_cons, addParam, made start List.mem_cons_self, ok_bind,
        insertParam_terminated startPlain textsPlain, ok_bind]
      apply induction
      · exact fun start member => made start (List.mem_cons_of_mem _ member)
      · exact fun start member => plain start (List.mem_cons_of_mem _ member)
      · intro text member
        rcases (List.mem_orderedInsert _).mp member with rfl | old
        · exact startPlain
        · exact textsPlain text old

theorem strcmpBuffers_ends (first second : Bytes) :
    Ends (· = Fault.undefined) (fun _ => True)
      (strcmpBuffers first second) := by
  induction first generalizing second with
  | nil => rfl
  | cons c first induction =>
      cases second with
      | nil => rfl
      | cons d second =>
          rw [strcmpBuffers]
          split
          · trivial
          · split
            · trivial
            · exact induction second

theorem insertParam_ends (new : Bytes) (params : List Bytes) :
    Ends (· = Fault.undefined) (fun _ => True) (insertParam new params) := by
  induction params with
  | nil => trivial
  | cons old rest induction =>
      rw [insertParam]
      apply (strcmpBuffers_ends new old).bind
      intro order _
      split
      · trivial
      · exact induction.bind fun _ _ => trivial

/-- Parameters that have buffers are inserted, or they are compared beyond
their ends. -/
theorem addParams_ends {starts : List Bytes} (uriEncode : Bool)
    (made : ∀ start ∈ starts, ∃ buffer, newParam uriEncode start = .ok buffer)
    (params : List Bytes) :
    Ends (· = Fault.undefined) (fun _ => True)
      (starts.foldlM (addParam uriEncode) params) := by
  induction starts generalizing params with
  | nil => trivial
  | cons start rest induction =>
      obtain ⟨buffer, makes⟩ := made start List.mem_cons_self
      rw [List.foldlM_cons, addParam, makes, ok_bind]
      apply (insertParam_ends buffer params).bind
      intro inserted _
      apply induction
      exact fun start member => made start (List.mem_cons_of_mem _ member)

section Result

variable {url query : Bytes} {urlLen : Nat}

theorem nul_not_mem_start {start : Bytes} (unterminated : NUL ∉ query)
    (member : start ∈ startsOf query) : NUL ∉ start := by
  rcases List.mem_cons.mp member with rfl | later
  · exact unterminated
  · exact fun nul => unterminated ((paramStarts_suffix later).mem nul)

theorem length_start_le {start : Bytes} (member : start ∈ startsOf query) :
    start.length ≤ query.length := by
  rcases List.mem_cons.mp member with rfl | later
  · exact Nat.le_refl _
  · exact (paramStarts_suffix later).length_le

/-- Parameters that can be encoded are sorted, and joined if the buffer is large
enough. -/
theorem getCanonicalQueryParams_encoded (unterminated : NUL ∉ query)
    (short : query.length ≤ MAX_URI_CHAR_LEN)
    (has : queryInUrl (url.take (urlLength url urlLen)) = some query)
    (can : ∀ start ∈ startsOf query,
      byte '=' ∈ paramText start ∧ CanEncode start) :
    ∃ texts : List Bytes, texts.Perm ((startsOf query).map encodedParam) ∧
      texts.Pairwise Ascending ∧
      getCanonicalQueryParams url urlLen true =
        if ([byte '&'].intercalate
            ((startsOf query).map encodedParam)).length ≤
              MAX_URI_CHAR_LEN then
          .ok (some ([byte '&'].intercalate texts))
        else .error .undefined := by
  have made : ∀ start ∈ startsOf query,
      newParam true start = .ok (terminated (encodedParam start)) := by
    intro start member
    exact (newParam_true_eq_ok (nul_not_mem_start unterminated member)
      ((length_start_le member).trans short)).mpr ⟨can start member, rfl⟩
  have plain : ∀ start ∈ startsOf query, NUL ∉ encodedParam start := by
    intro start member
    exact nul_not_mem_encodedParam (nul_not_mem_start unterminated member)
  have adds := @addParams_encoded (startsOf query) [] made plain (by simp)
  have permuted := perm_foldl_orderedInsert
    ((startsOf query).map encodedParam) []
  have ascending := ascending_foldl_orderedInsert
    ((startsOf query).map encodedParam) List.Pairwise.nil
  generalize ((startsOf query).map encodedParam).foldl
    (fun texts text => texts.orderedInsert Ascending text) [] = sorted
    at adds permuted ascending
  rw [List.append_nil] at permuted
  have nonempty : sorted ≠ [] := by
    intro empty
    rw [empty] at permuted
    exact List.cons_ne_nil _ _ permuted.nil_eq.symm
  have sortedPlain : ∀ text ∈ sorted, NUL ∉ text := by
    intro text member
    obtain ⟨start, listed, encodes⟩ :=
      List.mem_map.mp (permuted.mem_iff.mp member)
    rw [← encodes]
    exact plain start listed
  have sortedShort : ∀ text ∈ sorted, text.length + 1 < MAX_URI_CHAR_LEN := by
    intro text member
    obtain ⟨start, listed, encodes⟩ :=
      List.mem_map.mp (permuted.mem_iff.mp member)
    have bound := (can start listed).2.2.2
    rw [encodes] at bound
    simp only [MAX_URI_CHAR_LEN] at bound ⊢
    omega
  refine ⟨sorted, permuted, ascending, ?_⟩
  rw [getCanonicalQueryParams_of_query true has]
  simp only [List.map_nil] at adds
  rw [adds, ok_bind, joinParams_terminated nonempty sortedPlain sortedShort,
    length_intercalate_perm permuted]
  split <;> rfl

theorem addParams_eq_ok_made {uriEncode : Bool} {starts params after : List Bytes}
    (adds : starts.foldlM (addParam uriEncode) params = .ok after) :
    ∀ start ∈ starts, ∃ buffer, newParam uriEncode start = .ok buffer := by
  induction starts generalizing params with
  | nil => simp
  | cons start rest induction =>
      rw [List.foldlM_cons, bind_eq_ok] at adds
      obtain ⟨between, first, later⟩ := adds
      obtain ⟨buffer, makes, -⟩ := bind_eq_ok.mp first
      exact List.forall_mem_cons.mpr ⟨⟨buffer, makes⟩, induction later⟩

/-- A canonical query is built of parameters that can be encoded. -/
theorem getCanonicalQueryParams_eq_ok (unterminated : NUL ∉ query)
    (short : query.length ≤ MAX_URI_CHAR_LEN)
    (has : queryInUrl (url.take (urlLength url urlLen)) = some query)
    {result : Option Bytes}
    (builds : getCanonicalQueryParams url urlLen true = .ok result) :
    ∀ start ∈ startsOf query, byte '=' ∈ paramText start ∧ CanEncode start := by
  rw [getCanonicalQueryParams_of_query true has, bind_eq_ok] at builds
  obtain ⟨params, adds, -⟩ := builds
  intro start member
  obtain ⟨buffer, makes⟩ := addParams_eq_ok_made adds start member
  exact ((newParam_true_eq_ok (nul_not_mem_start unterminated member)
    ((length_start_le member).trans short)).mp makes).1

end Result

/-! ### Long values -/

section Param

variable {param : QueryParam} {behind : Bytes}

theorem paramText_start (ends : EndsParam behind) :
    paramText (param.text ++ behind) = param.text :=
  takeWhile_before param.text_plain ends

theorem paramName_start (ends : EndsParam behind) :
    paramName (param.text ++ behind) = param.name := by
  rw [paramName, paramText_start ends, QueryParam.text, List.append_assoc]
  apply takeWhile_before
  · intro member
    exact (param.name_plain _ member).2 rfl
  · exact .inr ⟨param.value, rfl⟩

theorem paramValue_start (ends : EndsParam behind) :
    paramValue (param.text ++ behind) = param.value := by
  have length : param.name.length + 1 =
      (param.name ++ [byte '=']).length := by simp
  rw [paramValue, paramName_start ends, paramText_start ends, QueryParam.text,
    length, List.drop_left]

theorem encodedParam_start (ends : EndsParam behind) :
    encodedParam (param.text ++ behind) = param.encoded true := by
  rw [encodedParam, paramName_start ends, paramValue_start ends]
  rfl

theorem canEncode_start (ends : EndsParam behind) :
    (byte '=' ∈ paramText (param.text ++ behind) ∧
        CanEncode (param.text ++ behind)) ↔ param.Encodable := by
  rw [CanEncode, paramText_start ends, paramValue_start ends,
    encodedParam_start ends]
  simp only [QueryParam.text, QueryParam.encoded, List.mem_append,
    List.mem_singleton, or_true, true_or, true_and, if_true,
    List.length_append, List.length_singleton]
  constructor
  · intro can
    exact ⟨can.1, can.2.1, can.2.2⟩
  · intro encodable
    exact ⟨encodable.unreserved, encodable.ascii, encodable.short⟩

end Param

theorem forall_canEncode {params : List QueryParam} (nonempty : params ≠ []) :
    (∀ start ∈ startsOf (queryOf params),
        byte '=' ∈ paramText start ∧ CanEncode start) ↔
      ∀ param ∈ params, param.Encodable := by
  change (∀ start ∈ queryStarts params, _) ↔ _
  induction params with
  | nil => exact absurd rfl nonempty
  | cons param rest induction =>
      cases rest with
      | nil =>
          rw [queryStarts_singleton, List.forall_mem_singleton,
            List.forall_mem_singleton]
          exact canEncode_start (.inl rfl)
      | cons next rest =>
          rw [queryStarts_cons, List.forall_mem_cons, List.forall_mem_cons,
            canEncode_start (.inr ⟨_, rfl⟩), induction (List.cons_ne_nil _ _)]

theorem map_encodedParam {params : List QueryParam} (nonempty : params ≠ []) :
    (startsOf (queryOf params)).map encodedParam =
      params.map (·.encoded true) := by
  change (queryStarts params).map encodedParam = _
  induction params with
  | nil => exact absurd rfl nonempty
  | cons param rest induction =>
      cases rest with
      | nil =>
          rw [queryStarts_singleton, List.map_singleton,
            encodedParam_start (.inl rfl)]
          rfl
      | cons next rest =>
          rw [queryStarts_cons, List.map_cons, List.map_cons,
            induction (List.cons_ne_nil _ _),
            encodedParam_start (.inr ⟨_, rfl⟩)]

theorem slashes_name_plain :
    ∀ c ∈ bytes "a", c ≠ byte '&' ∧ c ≠ byte '=' := by
  decide +kernel

/-- A value of slashes, of which each is escaped. -/
def slashes (count : Nat) : QueryParam where
  name := bytes "a"
  value := byte '0' :: List.replicate count (byte '/')
  name_pos := by decide
  name_plain := slashes_name_plain
  value_plain := by simp [List.mem_replicate, byte]

theorem uriEncoded_slashes (count : Nat) :
    uriEncoded (slashes count).value =
      byte '0' :: (List.replicate count (bytes "%2F")).flatten := by
  have unreserved : encodedChar (byte '0') = [byte '0'] := by decide
  rw [slashes, uriEncoded, List.flatMap_cons, List.flatMap_replicate,
    encodedChar_slash, unreserved]
  rfl

theorem length_slashes (count : Nat) :
    ((slashes count).encoded true).length = 3 + 3 * count := by
  simp only [QueryParam.encoded, if_true, uriEncoded_slashes]
  simp [slashes, bytes]
  omega

theorem slashes_encodable {count : Nat} (short : count ≤ 3331) :
    (slashes count).Encodable := by
  constructor
  case unreserved => exact ⟨byte '0', List.mem_cons_self, by decide⟩
  case ascii =>
      intro c member
      rcases List.mem_cons.mp member with rfl | later
      · decide
      · rw [List.eq_of_mem_replicate later]
        decide
  case short =>
      have length := length_slashes count
      simp only [QueryParam.encoded, if_true, List.length_append,
        List.length_singleton] at length
      have max : MAX_URI_CHAR_LEN = 10000 := rfl
      omega

theorem nul_not_mem_slashes (count : Nat) :
    NUL ∉ queryOf [slashes count, slashes count] := by
  simp [queryOf, QueryParam.text, slashes, List.mem_replicate, NUL, byte,
    bytes]

theorem length_slashes_query (count : Nat) :
    (queryOf [slashes count, slashes count]).length = 7 + 2 * count := by
  simp [queryOf, QueryParam.text, slashes, bytes]
  omega

/-- A URL whose parameters have such values. -/
def slashesUrl (count : Nat) : Bytes :=
  bytes "https://h/p?" ++ queryOf [slashes count, slashes count]

end Common

end KvsProducer
