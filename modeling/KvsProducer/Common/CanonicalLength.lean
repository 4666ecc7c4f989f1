import KvsProducer.Common.QueryBuffer

/-!
# The length of a canonical query

A query is joined of its parameters, and parameters that are appended to it are
joined behind them.  Encoding makes a parameter longer, and a value with an
ampersand falls apart into parameters that are shorter together than its
encoding.
-/

namespace KvsProducer

namespace Common

/-- The length that the parameters at some starts are joined to, with an
ampersand behind each. -/
def joinedLength (starts : List Bytes) : Nat :=
  (starts.map fun start => (encodedParam start).length + 1).sum

/-- A name with its value. -/
def pairText (pair : Bytes × Bytes) : Bytes := pair.1 ++ [byte '='] ++ pair.2

/-- A name with its encoded value. -/
def encodedPair (pair : Bytes × Bytes) : Bytes :=
  pair.1 ++ [byte '='] ++ uriEncoded pair.2

/-- A text is a parameter, or it begins with one that is followed by others. -/
theorem query_induction {motive : Bytes → Prop}
    (last : ∀ param, byte '&' ∉ param → motive param)
    (more : ∀ param rest, byte '&' ∉ param → motive rest →
      motive (param ++ byte '&' :: rest)) (text : Bytes) : motive text := by
  generalize bound : text.length = length
  induction length using Nat.strong_induction_on generalizing text with
  | h length induction =>
      have whole : text.takeWhile (· ≠ byte '&') ++
          text.dropWhile (· ≠ byte '&') = text :=
        List.takeWhile_append_dropWhile
      have plain := takeWhile_ne_plain text (byte '&')
      rcases dropWhile_ne_stops text (byte '&') with nothing | ⟨rest, drops⟩
      · rw [nothing, List.append_nil] at whole
        rw [← whole]
        exact last _ plain
      · rw [drops] at whole
        rw [← whole]
        apply more _ _ plain
        apply induction rest.length _ rest rfl
        have lengths := congrArg List.length whole
        simp only [List.length_append, List.length_cons] at lengths
        omega

/-! ### Parameters one after the other -/

theorem paramStarts_plain {text : Bytes} (plain : byte '&' ∉ text) :
    paramStarts text = [] := by
  have starts := paramStarts_append plain []
  rw [List.append_nil] at starts
  exact starts

theorem startsOf_plain {text : Bytes} (plain : byte '&' ∉ text) :
    startsOf text = [text] := by
  rw [startsOf, paramStarts_plain plain]

theorem startsOf_append (first second : Bytes) :
    startsOf (first ++ byte '&' :: second) =
      (startsOf first).map (· ++ byte '&' :: second) ++ startsOf second := by
  have later : paramStarts (first ++ byte '&' :: second) =
      (paramStarts first).map (· ++ byte '&' :: second) ++
        startsOf second := by
    induction first with
    | nil => rfl
    | cons c first induction =>
        rw [List.cons_append, paramStarts, paramStarts, induction]
        split <;> rfl
  rw [startsOf, later]
  rfl

theorem paramText_append (start behind : Bytes) :
    paramText (start ++ byte '&' :: behind) = paramText start := by
  unfold paramText
  induction start with
  | nil => rfl
  | cons c start induction =>
      rw [List.cons_append, List.takeWhile_cons, List.takeWhile_cons,
        induction]

theorem encodedParam_append (start behind : Bytes) :
    encodedParam (start ++ byte '&' :: behind) = encodedParam start := by
  unfold encodedParam paramValue paramName
  rw [paramText_append]

theorem map_encodedParam_append (first second : Bytes) :
    (startsOf (first ++ byte '&' :: second)).map encodedParam =
      (startsOf first).map encodedParam ++
        (startsOf second).map encodedParam := by
  rw [startsOf_append, List.map_append, List.map_map]
  congr 1
  apply List.map_congr_left
  intro start _
  exact encodedParam_append start second

theorem joinedLength_eq (starts : List Bytes) :
    joinedLength starts =
      ((starts.map encodedParam).map fun text => text.length + 1).sum := by
  rw [joinedLength, List.map_map]
  rfl

theorem joinedLength_append (first second : Bytes) :
    joinedLength (startsOf (first ++ byte '&' :: second)) =
      joinedLength (startsOf first) + joinedLength (startsOf second) := by
  rw [joinedLength_eq, joinedLength_eq, joinedLength_eq,
    map_encodedParam_append, List.map_append, List.sum_append]

theorem joinedLength_plain {text : Bytes} (plain : byte '&' ∉ text) :
    joinedLength (startsOf text) = (encodedParam text).length + 1 := by
  rw [startsOf_plain plain]
  rfl

/-! ### Bounds -/

theorem uriEncoded_append (first second : Bytes) :
    uriEncoded (first ++ second) = uriEncoded first ++ uriEncoded second :=
  List.flatMap_append

theorem paramText_plain {text : Bytes} (plain : byte '&' ∉ text) :
    paramText text = text := by
  have whole := takeWhile_before plain (.inl rfl : ([] : Bytes) = [] ∨ _)
  rw [List.append_nil] at whole
  exact whole

/-- A parameter is at most as long as it is joined, and its encoding as a whole
is longer than that, up to an equals sign. -/
theorem length_encodedParam_bounds {text : Bytes} (plain : byte '&' ∉ text) :
    text.length ≤ (encodedParam text).length ∧
      (encodedParam text).length ≤ (uriEncoded text).length + 1 := by
  have equals : (uriEncoded [byte '=']).length = 3 := by decide
  by_cases has : byte '=' ∈ paramText text
  · obtain ⟨behind, ends, parts⟩ := start_eq_parts has
    have nothing : behind = [] := by
      rcases ends with nothing | ⟨rest, more⟩
      · exact nothing
      · rw [parts, more] at plain
        simp at plain
    rw [nothing, List.append_nil] at parts
    have name := (length_uriEncoded_bounds (paramName text)).1
    have value := (length_uriEncoded_bounds (paramValue text)).1
    have lengths := congrArg List.length parts
    have encoded := congrArg (fun text => (uriEncoded text).length) parts
    simp only [uriEncoded_append, List.length_append, List.length_singleton,
      equals] at lengths encoded
    simp only [encodedParam, List.length_append, List.length_singleton]
    omega
  · have name : paramName text = text := by
      rw [paramText_plain plain] at has
      have whole := takeWhile_before has (.inl rfl : ([] : Bytes) = [] ∨ _)
      rw [List.append_nil] at whole
      rw [paramName, paramText_plain plain]
      exact whole
    have value : paramValue text = [] := by
      rw [paramValue, paramText_plain plain, name]
      exact List.drop_of_length_le (Nat.le_succ _)
    have longer := (length_uriEncoded_bounds text).1
    simp only [encodedParam, name, value, uriEncoded, List.flatMap_nil,
      List.length_append, List.length_singleton, List.length_nil] at longer ⊢
    omega

theorem joinedLength_bounds (text : Bytes) :
    text.length + 1 ≤ joinedLength (startsOf text) ∧
      joinedLength (startsOf text) ≤ (uriEncoded text).length + 2 := by
  have ampersand : (uriEncoded [byte '&']).length = 3 := by decide
  induction text using query_induction with
  | last param plain =>
      obtain ⟨atLeast, atMost⟩ := length_encodedParam_bounds plain
      rw [joinedLength_plain plain]
      omega
  | more param rest plain induction =>
      obtain ⟨atLeast, atMost⟩ := length_encodedParam_bounds plain
      have encoded : (uriEncoded (param ++ byte '&' :: rest)).length =
          (uriEncoded param).length + 3 + (uriEncoded rest).length := by
        rw [← List.singleton_append, uriEncoded_append, uriEncoded_append,
          List.length_append, List.length_append, ampersand]
        omega
      rw [joinedLength_append, joinedLength_plain plain, encoded,
        List.length_append, List.length_cons]
      omega

section Pair

variable {pair : Bytes × Bytes}

theorem pairText_plain (name : ∀ c ∈ pair.1, c ≠ byte '&' ∧ c ≠ byte '=')
    (value : byte '&' ∉ pair.2) : byte '&' ∉ pairText pair := by
  simp only [pairText, List.mem_append, not_or]
  exact ⟨⟨fun member => (name _ member).1 rfl, by decide⟩, value⟩

theorem encodedParam_pairText
    (name : ∀ c ∈ pair.1, c ≠ byte '&' ∧ c ≠ byte '=')
    (value : byte '&' ∉ pair.2) :
    encodedParam (pairText pair) = encodedPair pair := by
  have text := paramText_plain (pairText_plain name value)
  have nameText : paramName (pairText pair) = pair.1 := by
    rw [paramName, text, pairText, List.append_assoc]
    apply takeWhile_before
    · exact fun member => (name _ member).2 rfl
    · exact .inr ⟨pair.2, rfl⟩
  have length : pair.1.length + 1 = (pair.1 ++ [byte '=']).length := by simp
  rw [encodedParam, paramValue, text, nameText, pairText, length,
    List.drop_left]
  rfl

/-- A pair is joined to at most its encoding, and to less if there is an
ampersand in its value. -/
theorem joinedLength_pair
    (name : ∀ c ∈ pair.1, c ≠ byte '&' ∧ c ≠ byte '=') :
    joinedLength (startsOf (pairText pair)) ≤
        (encodedPair pair).length + 1 ∧
      (joinedLength (startsOf (pairText pair)) =
          (encodedPair pair).length + 1 →
        byte '&' ∉ pair.2) := by
  by_cases value : byte '&' ∈ pair.2
  · have whole : pair.2.takeWhile (· ≠ byte '&') ++
        pair.2.dropWhile (· ≠ byte '&') = pair.2 :=
      List.takeWhile_append_dropWhile
    have plain := takeWhile_ne_plain pair.2 (byte '&')
    rcases dropWhile_ne_stops pair.2 (byte '&') with nothing | ⟨rest, drops⟩
    · rw [nothing, List.append_nil] at whole
      rw [whole] at plain
      exact absurd value plain
    · rw [drops] at whole
      generalize pair.2.takeWhile (· ≠ byte '&') = before at whole plain
      have text : pairText pair =
          pairText (pair.1, before) ++ byte '&' :: rest := by
        simp [pairText, ← whole]
      have ampersand : (uriEncoded [byte '&']).length = 3 := by decide
      have encoded : (uriEncoded pair.2).length =
          (uriEncoded before).length + 3 + (uriEncoded rest).length := by
        rw [← whole, ← List.singleton_append, uriEncoded_append,
          uriEncoded_append, List.length_append, List.length_append, ampersand]
        omega
      have shorter := (joinedLength_bounds rest).2
      have first : joinedLength (startsOf (pairText (pair.1, before))) =
          (encodedPair (pair.1, before)).length + 1 := by
        rw [joinedLength_plain (@pairText_plain (pair.1, before) name plain),
          @encodedParam_pairText (pair.1, before) name plain]
      rw [text, joinedLength_append, first]
      simp only [encodedPair, List.length_append, List.length_singleton,
        encoded]
      omega
  · rw [joinedLength_plain (pairText_plain name value),
      encodedParam_pairText name value]
    exact ⟨Nat.le_refl _, fun _ => value⟩

end Pair

/-- Pairs as they are appended to a query. -/
def pairsText (pairs : List (Bytes × Bytes)) : Bytes :=
  pairs.flatMap fun pair => byte '&' :: pairText pair

section Pairs

variable {pairs : List (Bytes × Bytes)}

theorem pairsText_cons (pair : Bytes × Bytes) (query : Bytes) :
    query ++ pairsText (pair :: pairs) =
      query ++ byte '&' :: (pairText pair ++ pairsText pairs) := by
  simp [pairsText]

/-- Pairs without ampersands in their values are joined as they are encoded. -/
theorem map_encodedParam_pairs
    (names : ∀ pair ∈ pairs, ∀ c ∈ pair.1, c ≠ byte '&' ∧ c ≠ byte '=')
    (values : ∀ pair ∈ pairs, byte '&' ∉ pair.2) (query : Bytes) :
    (startsOf (query ++ pairsText pairs)).map encodedParam =
      (startsOf query).map encodedParam ++ pairs.map encodedPair := by
  induction pairs generalizing query with
  | nil => simp [pairsText]
  | cons pair rest induction =>
      obtain ⟨name, laterNames⟩ := List.forall_mem_cons.mp names
      obtain ⟨value, laterValues⟩ := List.forall_mem_cons.mp values
      rw [pairsText_cons, map_encodedParam_append,
        induction laterNames laterValues,
        startsOf_plain (pairText_plain name value), List.map_singleton,
        encodedParam_pairText name value]
      rfl

theorem joinedLength_pairs
    (names : ∀ pair ∈ pairs, ∀ c ∈ pair.1, c ≠ byte '&' ∧ c ≠ byte '=')
    (query : Bytes) :
    joinedLength (startsOf (query ++ pairsText pairs)) ≤
        joinedLength (startsOf query) +
          (pairs.map fun pair => (encodedPair pair).length + 1).sum ∧
      (joinedLength (startsOf (query ++ pairsText pairs)) =
          joinedLength (startsOf query) +
            (pairs.map fun pair => (encodedPair pair).length + 1).sum →
        ∀ pair ∈ pairs, byte '&' ∉ pair.2) := by
  induction pairs generalizing query with
  | nil => simp [pairsText]
  | cons pair rest induction =>
      obtain ⟨name, laterNames⟩ := List.forall_mem_cons.mp names
      obtain ⟨atMost, plain⟩ := joinedLength_pair name
      obtain ⟨laterAtMost, laterPlain⟩ :=
        induction laterNames (pairText pair)
      rw [pairsText_cons, joinedLength_append, List.map_cons, List.sum_cons]
      refine ⟨by omega, ?_⟩
      intro same
      exact List.forall_mem_cons.mpr
        ⟨plain (by omega), laterPlain (by omega)⟩

end Pairs

theorem length_joined (query : Bytes) :
    ([byte '&'].intercalate ((startsOf query).map encodedParam)).length + 1 =
      joinedLength (startsOf query) := by
  have positive := (joinedLength_bounds query).1
  rw [length_intercalate, ← joinedLength_eq]
  omega

end Common

end KvsProducer
