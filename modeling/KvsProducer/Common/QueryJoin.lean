import KvsProducer.Common.CodecSizing
import KvsProducer.Common.QueryBuffer

/-!
# The loop that joins the query

When `getCanonicalQueryParams` leaves its buffers.  The encoder may come to a
negative character of a value before the parameters are joined, and the
parameters that are copied are compared without terminators.
-/

namespace KvsProducer

namespace Common

open Outcome

/-- The buffers that are made for the parameters of a query. -/
def HasBuffers (uriEncode : Bool) (query : Bytes) (buffers : List Bytes) :
    Prop :=
  List.Forall₂ (fun start buffer => newParam uriEncode start = .ok buffer)
    (startsOf query) buffers

/-- The function does nothing that is not defined, such as writing behind its
buffer, and it fails if the parameters that have buffers do not fit. -/
structure JoinsWithin (url : Bytes) (urlLen : Nat) (uriEncode : Bool) :
    Prop where
  within : getCanonicalQueryParams url urlLen uriEncode ≠ .error .undefined
  refuses : ∀ query buffers, queryInUrl url = some query →
    HasBuffers uriEncode query buffers →
      MAX_URI_CHAR_LEN < ([byte '&'].intercalate
          (buffers.map fun buffer => buffer.takeWhile (· ≠ NUL))).length →
        ∃ status, getCanonicalQueryParams url urlLen uriEncode =
          .error (.failed status)

/-! ### The condition -/

/-- The room in the buffer for the value at the start of a text. -/
def valueRoom (start : Bytes) : Nat :=
  min MAX_URI_CHAR_LEN
      ((paramName start).length + 1 + (paramValue start).length * 3 + 1) -
    ((paramName start).length + 2)

/-- The encoder comes to a negative character of the value. -/
def MeetsNegative (start : Bytes) : Prop :=
  ReachesNegative (paramValue start) (valueRoom start)

/-- The encoder comes to a negative character of no parameter, as long as those
in front of it can be encoded. -/
def AvoidsNegative (starts : List Bytes) : Prop :=
  ∀ before start behind, starts = before ++ start :: behind →
    (∀ earlier ∈ before, byte '=' ∈ paramText earlier ∧ CanEncode earlier) →
      byte '=' ∈ paramText start → ¬ MeetsNegative start

/-- Neither text is the beginning of the other. -/
def Differ (first second : Bytes) : Prop :=
  ¬ first <+: second ∧ ¬ second <+: first

/-- There is a parameter without an equals sign, and those in front of it
differ. -/
def RefusesCopies (starts : List Bytes) : Prop :=
  ∃ before start behind, starts = before ++ start :: behind ∧
    (∀ earlier ∈ before, byte '=' ∈ paramText earlier) ∧
      byte '=' ∉ paramText start ∧ (before.map paramText).Pairwise Differ

/-- The parameters are encoded without negative characters, and those that can
all be encoded fit together.  Parameters are copied only to be refused. -/
def QueryFits : (uriEncode : Bool) → (query : Bytes) → Prop
  | true, query =>
      AvoidsNegative (startsOf query) ∧
        ((∀ start ∈ startsOf query,
            byte '=' ∈ paramText start ∧ CanEncode start) →
          ([byte '&'].intercalate ((startsOf query).map encodedParam)).length ≤
            MAX_URI_CHAR_LEN)
  | false, query => RefusesCopies (startsOf query)

/-! ### Parameters that are encoded -/

theorem not_reachesNegative_zero (text : Bytes) : ¬ ReachesNegative text 0 := by
  intro reaches
  obtain ⟨_, _, _, -, -, room⟩ := reaches
  exact Nat.not_lt_zero _ room

theorem not_meetsNegative_of_canEncode {start : Bytes}
    (can : CanEncode start) : ¬ MeetsNegative start :=
  not_reachesNegative_of_isAscii can.2.1

theorem avoidsNegative_cons {start : Bytes} {rest : List Bytes} :
    AvoidsNegative (start :: rest) ↔
      (byte '=' ∈ paramText start → ¬ MeetsNegative start) ∧
        (byte '=' ∈ paramText start ∧ CanEncode start →
          AvoidsNegative rest) := by
  constructor
  · intro avoids
    constructor
    · exact avoids [] start rest rfl (by simp)
    · intro can before next behind split earlier
      apply avoids (start :: before) next behind
      · rw [split, List.cons_append]
      · exact List.forall_mem_cons.mpr ⟨can, earlier⟩
  · intro avoids before next behind split earlier
    obtain ⟨first, later⟩ := avoids
    cases before with
    | nil =>
        obtain ⟨rfl, rfl⟩ := List.cons.inj split
        exact first
    | cons head before =>
        obtain ⟨rfl, rest⟩ := List.cons.inj split
        obtain ⟨can, earlier⟩ := List.forall_mem_cons.mp earlier
        exact later can before next behind rest earlier

theorem avoidsNegative_of_isAscii {starts : List Bytes}
    (ascii : ∀ start ∈ starts, ∀ ch ∈ paramValue start, IsAscii ch) :
    AvoidsNegative starts := by
  intro before start behind split _ _
  apply not_reachesNegative_of_isAscii
  apply ascii
  rw [split]
  exact List.mem_append_right _ List.mem_cons_self

section Start

variable {start : Bytes}

/-- An empty value is taken for the rest of the text, for which there is no
room. -/
theorem reachesNegative_sized {behind : Bytes}
    (plain : NUL ∉ paramValue start ++ behind) :
    ReachesNegative (SizedString.sized (paramValue start ++ behind)
        (paramValue start).length).value (valueRoom start) ↔
      MeetsNegative start := by
  rw [SizedString.value_sized plain, MeetsNegative]
  split
  · rename_i empty
    have full : valueRoom start = 0 := by
      rw [valueRoom, empty, List.length_nil]
      omega
    rw [full]
    exact iff_of_false (not_reachesNegative_zero _)
      (not_reachesNegative_zero _)
  · exact Iff.rfl

/-- A value that is to be encoded leads the encoder out of its table exactly if
there is a negative character in its room. -/
theorem newParam_true_undefined (unterminated : NUL ∉ start)
    (short : start.length < MAX_URI_CHAR_LEN) :
    newParam true start = .error .undefined ↔
      byte '=' ∈ paramText start ∧ MeetsNegative start := by
  by_cases equals : byte '=' ∈ paramText start
  · obtain ⟨behind, ends, parts⟩ := start_eq_parts equals
    have plain : NUL ∉ paramValue start ++ behind := by
      intro member
      apply unterminated
      rw [parts, List.append_assoc]
      exact List.mem_append_right _ member
    have length := congrArg List.length parts
    simp only [List.length_append, List.length_singleton] at length
    have made := newParam_parts true (paramName_plain start)
      (paramValue_plain start) ends
    rw [← parts] at made
    rw [made, and_iff_right equals]
    have max : MAX_URI_CHAR_LEN = 10000 := rfl
    have roomy : (paramName start).length + 1 ≤ min MAX_URI_CHAR_LEN
        ((paramName start).length + 1 + (paramValue start).length * 3 + 1) := by
      omega
    have remaining : (min MAX_URI_CHAR_LEN ((paramName start).length + 1 +
          (paramValue start).length * 3 + 1) + 2 ^ 32 -
            ((paramName start).length + 2)) % 2 ^ 32 = valueRoom start := by
      rw [valueRoom]
      omega
    dsimp only
    rw [defined_met roomy, ok_bind, remaining, ← reachesNegative_sized plain,
      ← uriEncodeString_undefined]
    simp only [if_true]
    cases encodes : uriEncodeString (.sized (paramValue start ++ behind)
        (paramValue start).length) (some (valueRoom start)) with
    | error fault =>
        constructor <;>
        · intro same
          cases same
          rfl
    | ok coder =>
        obtain ⟨fits, -, rfl⟩ := uriEncodeString_eq_ok.mp encodes
        have within : (paramName start).length + 1 +
            (uriEncoded (SizedString.sized (paramValue start ++ behind)
              (paramValue start).length).value ++ [NUL]).length ≤
                min MAX_URI_CHAR_LEN ((paramName start).length + 1 +
                  (paramValue start).length * 3 + 1) := by
          rw [List.length_append, List.length_singleton]
          rw [valueRoom] at fits
          omega
        rw [ok_bind, ok_bind, defined_met within]
        exact iff_of_false (by simp) (by simp)
  · simp [newParam_refused true equals, equals]

end Start

theorem addParams_undefined {starts texts : List Bytes}
    (plain : ∀ start ∈ starts, NUL ∉ start)
    (short : ∀ start ∈ starts, start.length < MAX_URI_CHAR_LEN)
    (textsPlain : ∀ text ∈ texts, NUL ∉ text) :
    starts.foldlM (addParam true) (texts.map terminated) =
        .error .undefined ↔
      ¬ AvoidsNegative starts := by
  induction starts generalizing texts with
  | nil =>
      have avoids : AvoidsNegative [] := avoidsNegative_of_isAscii (by simp)
      simp [avoids, pure, Except.pure]
  | cons start rest induction =>
      obtain ⟨startPlain, restPlain⟩ := List.forall_mem_cons.mp plain
      obtain ⟨startShort, restShort⟩ := List.forall_mem_cons.mp short
      have meets := newParam_true_undefined startPlain startShort
      have makes := @newParam_true_eq_ok start startPlain
        (Nat.le_of_lt startShort)
      rw [List.foldlM_cons, addParam, avoidsNegative_cons]
      cases made : newParam true start with
      | error fault =>
          have cannot : ¬ (byte '=' ∈ paramText start ∧ CanEncode start) := by
            intro can
            have success := makes.mpr ⟨can, rfl⟩
            rw [made] at success
            cases success
          rw [made] at meets
          simp only [cannot, false_implies, and_true]
          rw [← not_and, not_not, ← meets]
          constructor <;>
          · intro same
            cases same
            rfl
      | ok buffer =>
          obtain ⟨can, rfl⟩ := makes.mp made
          have encodedPlain := nul_not_mem_encodedParam startPlain
          rw [ok_bind, insertParam_terminated encodedPlain textsPlain, ok_bind]
          rw [induction restPlain restShort]
          · simp [can, not_meetsNegative_of_canEncode can.2]
          · intro text member
            rcases (List.mem_orderedInsert _).mp member with rfl | old
            · exact encodedPlain
            · exact textsPlain text old

section Query

variable {url query : Bytes} {urlLen : Nat}

theorem queryInUrl_short (unterminated : NUL ∉ url)
    (short : url.length ≤ MAX_URI_CHAR_LEN)
    (has : queryInUrl url = some query) :
    NUL ∉ query ∧ query.length < MAX_URI_CHAR_LEN := by
  have suffix := queryInUrl_suffix has
  constructor
  · intro nul
    exact unterminated (suffix.mem (List.mem_cons_of_mem _ nul))
  · have shorter := suffix.length_le
    rw [List.length_cons] at shorter
    omega

theorem take_urlLength (short : url.length ≤ MAX_URI_CHAR_LEN)
    (whole : urlLen = url.length ∨ urlLen = 0) :
    url.take (urlLength url urlLen) = url := by
  apply List.take_of_length_le
  rw [urlLength]
  rcases whole with rfl | rfl
  · split <;> omega
  · rw [if_pos rfl]
    omega

theorem getCanonicalQueryParams_true_undefined (unterminated : NUL ∉ query)
    (short : query.length < MAX_URI_CHAR_LEN)
    (has : queryInUrl (url.take (urlLength url urlLen)) = some query) :
    getCanonicalQueryParams url urlLen true = .error .undefined ↔
      ¬ QueryFits true query := by
  have startPlain (start : Bytes) (member : start ∈ startsOf query) :=
    nul_not_mem_start unterminated member
  have startShort (start : Bytes) (member : start ∈ startsOf query) :
      start.length < MAX_URI_CHAR_LEN :=
    Nat.lt_of_le_of_lt (length_start_le member) short
  rw [QueryFits]
  by_cases can : ∀ start ∈ startsOf query,
      byte '=' ∈ paramText start ∧ CanEncode start
  · obtain ⟨texts, -, -, result⟩ :=
      getCanonicalQueryParams_encoded unterminated (Nat.le_of_lt short) has can
    have avoids : AvoidsNegative (startsOf query) := by
      apply avoidsNegative_of_isAscii
      intro start member
      exact (can start member).2.2.1
    rw [result, and_iff_right avoids, imp_iff_right can]
    split
    · rename_i fits
      simp [fits]
    · rename_i long
      simp [long]
  · have adds := @addParams_undefined (startsOf query) [] startPlain startShort
      (by simp)
    simp only [can, false_implies, and_true]
    rw [← adds, getCanonicalQueryParams_of_query true has, List.map_nil]
    cases added : (startsOf query).foldlM (addParam true) [] with
    | error fault =>
        constructor <;>
        · intro same
          cases same
          rfl
    | ok params =>
        exfalso
        apply can
        intro start member
        obtain ⟨buffer, makes⟩ := addParams_eq_ok_made added start member
        exact ((newParam_true_eq_ok (startPlain start member)
          (Nat.le_of_lt (startShort start member))).mp makes).1

theorem getCanonicalQueryParams_of_none (uriEncode : Bool)
    (absent : queryInUrl (url.take (urlLength url urlLen)) = none) :
    getCanonicalQueryParams url urlLen uriEncode ≠ .error .undefined := by
  unfold getCanonicalQueryParams getCanonicalUri
  cases found : afterScheme (url.take (urlLength url urlLen)) with
  | none => simp [bind, Except.bind]
  | some start =>
      rw [queryInUrl, found, Option.bind_some, behindQuestionMark] at absent
      have rest : (findPath start).rest = [] := by
        rw [findPath_rest]
        cases behind : start.dropWhile (· ≠ byte '?') with
        | nil => rfl
        | cons c query =>
            rw [behind] at absent
            cases absent
      dsimp only
      split
      · simp [bind, Except.bind]
      · simp [bind, Except.bind, rest]

end Query

/-! ### Parameters that are copied -/

/-- The first text has the smaller byte where the texts differ first. -/
def Before : (first second : Bytes) → Prop
  | c :: first, d :: second => compare c d = .lt ∨ c = d ∧ Before first second
  | _, _ => False

theorem Before.trans {first second third : Bytes} (less : Before first second)
    (later : Before second third) : Before first third := by
  induction first generalizing second third with
  | nil => exact less.elim
  | cons c first induction =>
      cases second with
      | nil => exact less.elim
      | cons d second =>
          cases third with
          | nil => exact later.elim
          | cons e third =>
              rcases less with smaller | ⟨rfl, less⟩
              · rcases later with above | ⟨rfl, -⟩
                · exact .inl (Std.TransCmp.lt_trans smaller above)
                · exact .inl smaller
              · rcases later with above | ⟨rfl, later⟩
                · exact .inl above
                · exact .inr ⟨rfl, induction less later⟩

theorem Differ.symm {first second : Bytes} (differ : Differ first second) :
    Differ second first := ⟨differ.2, differ.1⟩

theorem differ_cons {c d : UInt8} {first second : Bytes} :
    Differ (c :: first) (d :: second) ↔ c ≠ d ∨ Differ first second := by
  simp only [Differ, List.cons_prefix_cons]
  by_cases same : c = d
  · subst same
    simp
  · simp [same, Ne.symm same]

theorem compare_cases (c d : UInt8) :
    c = d ∨ c ≠ d ∧
      (compare c d = .lt ∧ compare d c = .gt ∨
        compare c d = .gt ∧ compare d c = .lt) := by
  by_cases same : c = d
  · exact .inl same
  · refine .inr ⟨same, ?_⟩
    cases order : compare c d with
    | eq => exact absurd (Std.LawfulEqCmp.compare_eq_iff_eq.mp order) same
    | lt => exact .inl ⟨rfl, Std.OrientedCmp.gt_iff_lt.mpr order⟩
    | gt => exact .inr ⟨rfl, Std.OrientedCmp.gt_iff_lt.mp order⟩

theorem differ_iff {first second : Bytes} :
    Differ first second ↔ Before first second ∨ Before second first := by
  induction first generalizing second with
  | nil => simp [Differ, Before]
  | cons c first induction =>
      cases second with
      | nil => simp [Differ, Before]
      | cons d second =>
          rw [differ_cons, induction, Before, Before]
          rcases compare_cases c d with
            rfl | ⟨different, ⟨less, greater⟩ | ⟨greater, less⟩⟩
          · simp
          · simp [less, different]
          · simp [less, different]

/-- Texts that are not terminated are compared as C defines it exactly if they
differ. -/
theorem strcmpBuffers_eq_ok {first second : Bytes} {order : Ordering}
    (plain : NUL ∉ first) :
    strcmpBuffers first second = .ok order ↔
      order = .lt ∧ Before first second ∨
        order = .gt ∧ Before second first := by
  induction first generalizing second with
  | nil => simp [strcmpBuffers, Before]
  | cons c first induction =>
      cases second with
      | nil => simp [strcmpBuffers, Before]
      | cons d second =>
          simp only [List.mem_cons, not_or] at plain
          rw [strcmpBuffers, Before, Before]
          rcases compare_cases c d with
            rfl | ⟨different, ⟨less, greater⟩ | ⟨greater, less⟩⟩
          · rw [if_neg (by simp), if_neg (Ne.symm plain.1),
              induction plain.2]
            simp
          · rw [if_pos different]
            simp [less, greater, different, Ne.symm different, eq_comm]
          · rw [if_pos different]
            simp [less, greater, different, Ne.symm different, eq_comm]

section Copies

variable {new : Bytes} {params after : List Bytes}

theorem insertParam_copied_iff (plain : NUL ∉ new)
    (sorted : params.Pairwise Before) :
    (∃ after, insertParam new params = .ok after) ↔
      ∀ old ∈ params, Differ new old := by
  induction params with
  | nil => simp [insertParam]
  | cons old rest induction =>
      obtain ⟨below, sortedRest⟩ := List.pairwise_cons.mp sorted
      rw [List.forall_mem_cons, ← induction sortedRest, differ_iff]
      have compares := @strcmpBuffers_eq_ok new old
      cases order : strcmpBuffers new old with
      | error fault =>
          have undecided : ¬ (Before new old ∨ Before old new) := by
            intro decided
            rcases decided with less | greater
            · have compared := (compares plain).mpr (.inl ⟨rfl, less⟩)
              rw [order] at compared
              cases compared
            · have compared := (compares plain).mpr (.inr ⟨rfl, greater⟩)
              rw [order] at compared
              cases compared
          simp [insertParam, order, undecided, bind, Except.bind]
      | ok decided =>
          rcases (compares plain).mp order with ⟨rfl, less⟩ | ⟨rfl, greater⟩
          · -- the text is inserted in front, and the others are above it
            have above : ∀ later ∈ rest, Differ new later := by
              intro later member
              exact differ_iff.mpr (.inl (less.trans (below later member)))
            simp [insertParam, order, less, (induction sortedRest).mpr above]
          · simp [insertParam, order, greater]

theorem insertParam_copied_sorted (plain : NUL ∉ new)
    (sorted : params.Pairwise Before)
    (inserts : insertParam new params = .ok after) :
    after.Pairwise Before := by
  induction params generalizing after with
  | nil =>
      cases inserts
      exact List.pairwise_singleton _ _
  | cons old rest induction =>
      obtain ⟨below, sortedRest⟩ := List.pairwise_cons.mp sorted
      obtain ⟨order, compared, decided⟩ := bind_eq_ok.mp inserts
      rcases (strcmpBuffers_eq_ok plain).mp compared with
        ⟨rfl, less⟩ | ⟨rfl, greater⟩
      · rw [if_pos (by decide)] at decided
        cases decided
        refine List.pairwise_cons.mpr ⟨?_, sorted⟩
        intro text member
        rcases List.mem_cons.mp member with rfl | listed
        · exact less
        · exact less.trans (below text listed)
      · rw [if_neg (by decide)] at decided
        obtain ⟨inserted, later, same⟩ := bind_eq_ok.mp decided
        cases same
        refine List.pairwise_cons.mpr ⟨?_, induction sortedRest later⟩
        intro text member
        rcases List.mem_cons.mp ((insertParam_eq_ok later).mem_iff.mp member)
          with rfl | listed
        · exact greater
        · exact below text listed

theorem addParams_copied_iff {starts : List Bytes}
    (short : ∀ start ∈ starts, start.length ≤ MAX_URI_CHAR_LEN)
    (plain : ∀ start ∈ starts, NUL ∉ start)
    (equals : ∀ start ∈ starts, byte '=' ∈ paramText start)
    (sorted : params.Pairwise Before) :
    (∃ after, starts.foldlM (addParam false) params = .ok after) ↔
      (starts.map paramText).Pairwise Differ ∧
        ∀ start ∈ starts, ∀ old ∈ params, Differ (paramText start) old := by
  induction starts generalizing params with
  | nil => simp [pure, Except.pure]
  | cons start rest induction =>
      obtain ⟨startShort, restShort⟩ := List.forall_mem_cons.mp short
      obtain ⟨startPlain, restPlain⟩ := List.forall_mem_cons.mp plain
      obtain ⟨startEquals, restEquals⟩ := List.forall_mem_cons.mp equals
      have made := (newParam_false_eq_ok startShort).mpr
        ⟨startEquals, (paramText_eq startEquals).symm⟩
      have textPlain : NUL ∉ paramText start := fun member =>
        startPlain ((List.takeWhile_prefix _).mem member)
      have inserts := insertParam_copied_iff textPlain sorted
      rw [List.foldlM_cons, addParam, made, ok_bind, List.map_cons,
        List.pairwise_cons, List.forall_mem_cons, ← inserts]
      cases inserted : insertParam (paramText start) params with
      | error fault => simp [bind, Except.bind]
      | ok between =>
          have listed (text : Bytes) :
              text ∈ between ↔ text ∈ paramText start :: params :=
            (insertParam_eq_ok inserted).mem_iff
          rw [ok_bind, induction restShort restPlain restEquals
            (insertParam_copied_sorted textPlain sorted inserted)]
          simp only [listed, List.forall_mem_cons, List.forall_mem_map]
          constructor
          · intro condition
            obtain ⟨differ, others⟩ := condition
            exact ⟨⟨fun later member => (others later member).1.symm, differ⟩,
              ⟨_, rfl⟩, fun later member => (others later member).2⟩
          · intro condition
            obtain ⟨⟨fromStart, differ⟩, -, others⟩ := condition
            exact ⟨differ, fun later member =>
              ⟨(fromStart later member).symm, others later member⟩⟩

end Copies

section Query

variable {url query : Bytes} {urlLen : Nat}

/-- Parameters that are copied are compared or measured beyond their ends. -/
theorem getCanonicalQueryParams_copied (unterminated : NUL ∉ query)
    (short : query.length ≤ MAX_URI_CHAR_LEN)
    (has : queryInUrl (url.take (urlLength url urlLen)) = some query)
    (equals : ∀ start ∈ startsOf query, byte '=' ∈ paramText start) :
    getCanonicalQueryParams url urlLen false = .error .undefined := by
  have made : ∀ start ∈ startsOf query,
      ∃ buffer, newParam false start = .ok buffer := by
    intro start member
    exact ⟨_, (newParam_false_eq_ok
      ((length_start_le member).trans short)).mpr ⟨equals start member, rfl⟩⟩
  have ends := addParams_ends false made []
  rw [getCanonicalQueryParams_of_query false has]
  cases adds : (startsOf query).foldlM (addParam false) [] with
  | ok params => rw [ok_bind, joinParams_unterminated unterminated adds]; rfl
  | error fault =>
      rw [ends.of_error adds]
      rfl

theorem addParams_before {before behind : List Bytes} {start : Bytes}
    (unterminated : NUL ∉ query) (short : query.length ≤ MAX_URI_CHAR_LEN)
    (split : startsOf query = before ++ start :: behind)
    (equals : ∀ earlier ∈ before, byte '=' ∈ paramText earlier) :
    (∃ params, before.foldlM (addParam false) [] = .ok params) ↔
      (before.map paramText).Pairwise Differ := by
  have listed (earlier : Bytes) (member : earlier ∈ before) :
      earlier ∈ startsOf query := split ▸ List.mem_append_left _ member
  rw [addParams_copied_iff
    (fun earlier member => (length_start_le (listed earlier member)).trans short)
    (fun earlier member =>
      nul_not_mem_start unterminated (listed earlier member))
    equals List.Pairwise.nil]
  simp

/-- A query is copied as C defines it exactly if it is refused. -/
theorem getCanonicalQueryParams_false_undefined (unterminated : NUL ∉ query)
    (short : query.length ≤ MAX_URI_CHAR_LEN)
    (has : queryInUrl (url.take (urlLength url urlLen)) = some query) :
    getCanonicalQueryParams url urlLen false = .error .undefined ↔
      ¬ QueryFits false query := by
  constructor
  · intro undefined refuses
    obtain ⟨before, start, behind, split, equals, absent, differ⟩ := refuses
    obtain ⟨params, adds⟩ :=
      (addParams_before unterminated short split equals).mpr differ
    rw [getCanonicalQueryParams_of_query false has, split, List.foldlM_append,
      adds, ok_bind, List.foldlM_cons, addParam,
      newParam_refused false absent] at undefined
    cases undefined
  · intro accepts
    by_cases equals : ∀ start ∈ startsOf query, byte '=' ∈ paramText start
    · exact getCanonicalQueryParams_copied unterminated short has equals
    · push Not at equals
      obtain ⟨first, listed, firstAbsent⟩ := equals
      obtain ⟨start, before, behind, earlier, absent, split, -⟩ :=
        @List.exists_of_eraseP _
          (fun start => decide (byte '=' ∉ paramText start)) (startsOf query)
          first listed (by simpa using firstAbsent)
      simp only [decide_eq_true_eq, not_not] at earlier absent
      have copies := addParams_before unterminated short split earlier
      have made : ∀ start ∈ before,
          ∃ buffer, newParam false start = .ok buffer := by
        intro start member
        have inQuery : start ∈ startsOf query :=
          split ▸ List.mem_append_left _ member
        exact ⟨_, (newParam_false_eq_ok
          ((length_start_le inQuery).trans short)).mpr
            ⟨earlier start member, rfl⟩⟩
      rw [getCanonicalQueryParams_of_query false has, split,
        List.foldlM_append]
      cases adds : before.foldlM (addParam false) [] with
      | error fault =>
          rw [(addParams_ends false made []).of_error adds]
          rfl
      | ok params =>
          exfalso
          exact accepts ⟨before, start, behind, split, earlier, absent,
            copies.mp ⟨params, adds⟩⟩

theorem forall₂_eq_ok_iff {make : Bytes → Result Bytes} {made : Bytes → Prop}
    {buffer : Bytes → Bytes} {starts : List Bytes}
    (makes : ∀ start ∈ starts, ∀ after,
      make start = .ok after ↔ made start ∧ after = buffer start)
    (buffers : List Bytes) :
    List.Forall₂ (fun start after => make start = .ok after) starts buffers ↔
      (∀ start ∈ starts, made start) ∧ buffers = starts.map buffer := by
  induction starts generalizing buffers with
  | nil => simp
  | cons start rest induction =>
      have later := induction fun start member =>
        makes start (List.mem_cons_of_mem _ member)
      simp only [List.forall₂_cons_left_iff, later,
        makes start List.mem_cons_self, List.forall_mem_cons, List.map_cons]
      constructor
      · intro both
        obtain ⟨_, _, ⟨first, rfl⟩, ⟨others, rfl⟩, rfl⟩ := both
        exact ⟨⟨first, others⟩, rfl⟩
      · intro both
        obtain ⟨⟨first, others⟩, rfl⟩ := both
        exact ⟨_, _, ⟨first, rfl⟩, ⟨others, rfl⟩, rfl⟩

theorem string_terminated {text : Bytes} (plain : NUL ∉ text) :
    (terminated text).takeWhile (· ≠ NUL) = text :=
  takeWhile_before plain (.inr ⟨[], rfl⟩)

/-- In a query that fits, the parameters that have buffers do. -/
theorem QueryFits.length_le {uriEncode : Bool} {buffers : List Bytes}
    (fits : QueryFits uriEncode query) (unterminated : NUL ∉ query)
    (short : query.length ≤ MAX_URI_CHAR_LEN)
    (buffered : HasBuffers uriEncode query buffers) :
    ([byte '&'].intercalate
        (buffers.map fun buffer => buffer.takeWhile (· ≠ NUL))).length ≤
      MAX_URI_CHAR_LEN := by
  have startShort (start : Bytes) (member : start ∈ startsOf query) :=
    (length_start_le member).trans short
  cases uriEncode with
  | true =>
      obtain ⟨can, made⟩ := (forall₂_eq_ok_iff
        (fun start member _ => newParam_true_eq_ok
          (nul_not_mem_start unterminated member) (startShort start member))
        buffers).mp buffered
      have texts : buffers.map (fun buffer => buffer.takeWhile (· ≠ NUL)) =
          (startsOf query).map encodedParam := by
        rw [made, List.map_map]
        apply List.map_congr_left
        intro start member
        exact string_terminated
          (nul_not_mem_encodedParam (nul_not_mem_start unterminated member))
      rw [texts]
      exact fits.2 can
  | false =>
      obtain ⟨equals, -⟩ := (forall₂_eq_ok_iff
        (fun start member _ => newParam_false_eq_ok (startShort start member))
        buffers).mp buffered
      obtain ⟨before, start, behind, split, -, absent, -⟩ := fits
      refine absurd (equals start ?_) absent
      rw [split]
      exact List.mem_append_right _ List.mem_cons_self

theorem getCanonicalQueryParams_undefined {uriEncode : Bool}
    (unterminated : NUL ∉ query) (short : query.length < MAX_URI_CHAR_LEN)
    (has : queryInUrl (url.take (urlLength url urlLen)) = some query) :
    getCanonicalQueryParams url urlLen uriEncode = .error .undefined ↔
      ¬ QueryFits uriEncode query := by
  cases uriEncode with
  | true => exact getCanonicalQueryParams_true_undefined unterminated short has
  | false =>
      exact getCanonicalQueryParams_false_undefined unterminated
        (Nat.le_of_lt short) has

end Query

/-- The canonical query is joined within its buffer, if and only if the query
fits. -/
theorem joinsWithin_iff (url : Bytes) (urlLen : Nat) (uriEncode : Bool)
    (unterminated : NUL ∉ url) (short : url.length ≤ MAX_URI_CHAR_LEN)
    (whole : urlLen = url.length ∨ urlLen = 0) :
    JoinsWithin url urlLen uriEncode ↔
      ∀ query ∈ queryInUrl url, QueryFits uriEncode query := by
  have taken := take_urlLength short whole
  constructor
  · intro joins query has
    obtain ⟨plain, queryShort⟩ := queryInUrl_short unterminated short has
    by_contra overflows
    exact joins.within ((getCanonicalQueryParams_undefined plain queryShort
      (taken.symm ▸ has)).mpr overflows)
  · intro fits
    constructor
    case within =>
        cases has : queryInUrl url with
        | none => exact getCanonicalQueryParams_of_none _ (taken.symm ▸ has)
        | some query =>
            obtain ⟨plain, queryShort⟩ := queryInUrl_short unterminated short has
            rw [Ne, getCanonicalQueryParams_undefined plain queryShort
              (taken.symm ▸ has), not_not]
            exact fits query has
    case refuses =>
        intro query buffers has buffered long
        obtain ⟨plain, queryShort⟩ := queryInUrl_short unterminated short has
        have joined := (fits query has).length_le plain
          (Nat.le_of_lt queryShort) buffered
        exact absurd joined (Nat.not_le_of_lt long)

theorem joinsWithin_ascending :
    JoinsWithin (bytes "https://h/p?b=x y&a=1") 0 true := by
  apply (joinsWithin_iff _ _ _ (by decide) (by decide) (.inr rfl)).mpr
  intro query has
  obtain rfl : query = bytes "b=x y&a=1" :=
    Option.some.inj (has.symm.trans (by decide))
  refine ⟨avoidsNegative_of_isAscii ?_, fun _ => ?_⟩
  · decide +kernel
  · decide +kernel

/-- Each parameter is shorter than the buffer, and they are longer together. -/
theorem not_joinsWithin :
    ¬ ∀ (url : Bytes) (urlLen : Nat) (uriEncode : Bool),
      NUL ∉ url → url.length ≤ MAX_URI_CHAR_LEN →
        (urlLen = url.length ∨ urlLen = 0) →
          JoinsWithin url urlLen uriEncode := by
  intro claim
  have plain : NUL ∉ slashesUrl 1700 := by
    simp only [slashesUrl, List.mem_append, not_or]
    exact ⟨by decide, nul_not_mem_slashes 1700⟩
  have short : (slashesUrl 1700).length ≤ MAX_URI_CHAR_LEN := by
    rw [slashesUrl, List.length_append, length_slashes_query]
    decide
  have has : queryInUrl (slashesUrl 1700) =
      some (queryOf [slashes 1700, slashes 1700]) := rfl
  have encodable := @slashes_encodable 1700 (by decide)
  have can := (forall_canEncode
    (List.cons_ne_nil (slashes 1700) [slashes 1700])).mpr
      (by simp [encodable])
  obtain ⟨queryPlain, queryShort⟩ := queryInUrl_short plain short has
  apply (claim _ 0 true plain short (.inr rfl)).within
  rw [getCanonicalQueryParams_undefined queryPlain queryShort
    ((take_urlLength short (.inr rfl)).symm ▸ has)]
  intro fits
  have joined := fits.2 can
  rw [map_encodedParam (List.cons_ne_nil _ _), length_intercalate] at joined
  simp [length_slashes, MAX_URI_CHAR_LEN] at joined

end Common

end KvsProducer
