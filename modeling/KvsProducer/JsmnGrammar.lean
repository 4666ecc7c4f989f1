import KvsProducer.JsmnTokens
import KvsProducer.JsonMembers

/-!
# What the tokenizer takes for a string and for a primitive

The texts between two quotes and the words without quotes, by grammars of
their own.  Each of the two loops stops at the end of the longest text of its
grammar, and fails if no such text is delimited.
-/

namespace KvsProducer

/-! ### Strings -/

/-- A text between two quotes: every escape is one of JSON, and no quote and no
NUL stands for itself. -/
inductive StringText : Bytes → Prop where
  | nil : StringText []
  | plain {c : UInt8} {rest : Bytes} (notNul : c ≠ 0)
      (notQuote : c ≠ byte '"') (notEscape : c ≠ byte '\\') :
      StringText rest → StringText (c :: rest)
  | escape {c : UInt8} {rest : Bytes} (simple : isSimpleEscape c = true) :
      StringText rest → StringText (byte '\\' :: c :: rest)
  | unicode {digits rest : Bytes} (four : digits.length = 4)
      (hex : ∀ c ∈ digits, isHexDigit c = true) :
      StringText rest → StringText (byte '\\' :: byte 'u' :: (digits ++ rest))

theorem isHexDigit_ne_zero {c : UInt8} (hex : isHexDigit c = true) :
    c ≠ 0 := by
  intro nul
  subst nul
  revert hex
  decide

theorem hexRun_digits {digits : Bytes}
    (hex : ∀ c ∈ digits, isHexDigit c = true) (behind : Bytes) :
    hexRun digits.length (digits ++ behind) = .ok digits.length := by
  induction digits with
  | nil => rfl
  | cons c digits induction =>
      have digit := hex c List.mem_cons_self
      have later := induction fun other listed =>
        hex other (List.mem_cons_of_mem _ listed)
      simp [hexRun, isHexDigit_ne_zero digit, digit, later, Except.map]

/-- Fewer digits than wanted are counted only in front of the end. -/
theorem hexRun_cases {wanted count : Nat} {text : Bytes}
    (run : hexRun wanted text = .ok count) :
    (∃ digits rest, text = digits ++ rest ∧ digits.length = wanted ∧
        count = wanted ∧ ∀ c ∈ digits, isHexDigit c = true) ∨
      text.drop count = [] ∨ (text.drop count).head? = some 0 := by
  induction wanted generalizing text count with
  | zero =>
      cases run
      exact Or.inl ⟨[], text, rfl, rfl, rfl, by simp⟩
  | succ wanted induction =>
      cases text with
      | nil =>
          cases run
          exact Or.inr (Or.inl rfl)
      | cons c rest =>
          simp only [hexRun] at run
          split at run
          · rename_i nul
            cases run
            right
            right
            simp [nul]
          · split at run
            · rename_i hex
              obtain ⟨before, later, rfl⟩ := map_add_eq_ok run
              rcases induction later with
                ⟨digits, behind, rfl, length, rfl, digitsHex⟩ | ended
              · left
                refine ⟨c :: digits, behind, rfl, by simp [length], rfl, ?_⟩
                exact List.forall_mem_cons.mpr ⟨hex, digitsHex⟩
              · exact Or.inr ended
            · cases run

/-- The loop over a string stops at the quote behind a text of the grammar. -/
theorem stringRun_of_stringText {text : Bytes} (string : StringText text)
    {fuel : Nat} (enough : text.length < fuel) (behind : Bytes) :
    stringRun fuel (text ++ byte '"' :: behind) = .ok text.length := by
  have escapes : byte '\\' ≠ 0 ∧ byte '\\' ≠ byte '"' := by decide
  have quotes : byte '"' ≠ 0 := by decide
  obtain ⟨fuel, rfl⟩ := Nat.exists_eq_add_of_le' (Nat.one_le_of_lt enough)
  induction string generalizing fuel with
  | nil => simp [stringRun, quotes]
  | @plain c rest notNul notQuote notEscape _ induction =>
      rw [List.length_cons] at enough
      obtain ⟨fuel, rfl⟩ := Nat.exists_eq_add_of_le' (show 1 ≤ fuel by omega)
      rw [List.cons_append, stringRun.eq_def]
      simp only [if_neg notNul, if_neg notQuote, if_neg notEscape,
        induction fuel (by omega)]
      rfl
  | @escape c rest simple _ induction =>
      simp only [List.length_cons] at enough
      obtain ⟨fuel, rfl⟩ := Nat.exists_eq_add_of_le' (show 1 ≤ fuel by omega)
      rw [List.cons_append, List.cons_append, stringRun, if_neg escapes.1,
        if_neg escapes.2, if_pos rfl]
      simp only [if_pos simple, induction fuel (by omega)]
      rfl
  | @unicode digits rest four hex _ induction =>
      simp only [List.length_cons, List.length_append] at enough
      obtain ⟨fuel, rfl⟩ := Nat.exists_eq_add_of_le' (show 1 ≤ fuel by omega)
      have notSimple : isSimpleEscape (byte 'u') = false := by decide
      have counted := hexRun_digits hex (rest ++ byte '"' :: behind)
      rw [four] at counted
      have dropped : (digits ++ (rest ++ byte '"' :: behind)).drop 4 =
          rest ++ byte '"' :: behind := List.drop_left' four
      rw [List.cons_append, List.cons_append, List.append_assoc, stringRun,
        if_neg escapes.1, if_neg escapes.2, if_pos rfl]
      simp only [notSimple, Bool.false_eq_true, if_false, if_true, counted]
      change (stringRun _ ((digits ++ (rest ++ byte '"' :: behind)).drop 4)).map
        _ = _
      rw [dropped, induction fuel (by omega)]
      simp only [Except.map, List.length_cons, List.length_append, four]
      congr 1
      omega

theorem stringRun_end {fuel count : Nat} {text : Bytes}
    (ended : text = [] ∨ text.head? = some 0) :
    stringRun fuel text ≠ .ok count := by
  intro run
  cases fuel with
  | zero => cases run
  | succ fuel =>
      rcases ended with rfl | nul
      · cases run
      · cases text with
        | nil => cases nul
        | cons c rest =>
            cases nul
            simp [stringRun] at run

/-- The loop over a string stops behind a text of the grammar, at a quote. -/
theorem stringRun_sound {fuel count : Nat} {text : Bytes}
    (run : stringRun fuel text = .ok count) :
    ∃ string behind, text = string ++ byte '"' :: behind ∧
      string.length = count ∧ StringText string := by
  induction fuel generalizing text count with
  | zero => cases run
  | succ fuel induction =>
      cases text with
      | nil => cases run
      | cons c rest =>
          simp only [stringRun] at run
          split at run
          · cases run
          · rename_i notNul
            split at run
            · rename_i quote
              cases run
              exact ⟨[], rest, by simp [quote], rfl, .nil⟩
            · rename_i notQuote
              split at run
              · rename_i isEscape
                subst isEscape
                cases rest with
                | nil => cases run
                | cons escape after =>
                    simp only at run
                    split at run
                    · rename_i simple
                      obtain ⟨length, later, rfl⟩ := map_add_eq_ok run
                      obtain ⟨string, behind, rfl, rfl, grammar⟩ :=
                        induction later
                      exact ⟨_ :: escape :: string, behind, rfl, rfl,
                        grammar.escape simple⟩
                    · split at run
                      · rename_i unicode
                        subst unicode
                        rw [jsmn_bind_eq_ok] at run
                        obtain ⟨digitCount, counted, run⟩ := run
                        obtain ⟨length, later, rfl⟩ := map_add_eq_ok run
                        rcases hexRun_cases counted with
                          ⟨digits, behind, rfl, four, rfl, hex⟩ | ended
                        · rw [List.drop_left' four] at later
                          obtain ⟨string, behind, rfl, rfl, grammar⟩ :=
                            induction later
                          refine ⟨_ :: _ :: (digits ++ string), behind,
                            by simp, ?_, grammar.unicode four hex⟩
                          simp only [List.length_cons, List.length_append,
                            four]
                          omega
                        · exact absurd later (stringRun_end ended)
                      · cases run
              · rename_i notEscape
                obtain ⟨length, later, rfl⟩ := map_add_eq_ok run
                obtain ⟨string, behind, rfl, rfl, grammar⟩ := induction later
                exact ⟨c :: string, behind, rfl, rfl,
                  grammar.plain notNul notQuote notEscape⟩

/-! ### Primitives -/

/-- A byte of a primitive. -/
def isPrimitiveByte (c : UInt8) : Bool :=
  !isPrimitiveEnd c && 32 ≤ c && c < 127

/-- A byte that starts a token of another type, or none. -/
def isStructural (c : UInt8) : Bool :=
  (bytes "\x7b[\x7d]\"\t\r\n :,").contains c

theorem isStructural_iff {c : UInt8} :
    isStructural c = true ↔ c = byte '\x7b' ∨ c = byte '[' ∨
      c = byte '\x7d' ∨ c = byte ']' ∨ c = byte '"' ∨
      (bytes "\t\r\n ").contains c = true ∨ c = byte ':' ∨ c = byte ',' := by
  simp [isStructural, bytes, or_assoc]

theorem structural_of_primitiveEnd {c : UInt8}
    (ends : isPrimitiveEnd c = true) : isStructural c = true := by
  simp only [isPrimitiveEnd, bytes, List.contains_iff_mem] at ends
  rw [isStructural, List.contains_iff_mem]
  revert ends
  simp [bytes]
  tauto

/-- A word without quotes. -/
structure PrimitiveText (text : Bytes) : Prop where
  nonempty : text ≠ []
  inside : ∀ c ∈ text, isPrimitiveByte c = true
  starts : ∀ c ∈ text.head?, isStructural c = false

theorem primitiveText_iff {text : Bytes} :
    (!text.isEmpty && text.all isPrimitiveByte &&
      text.head?.all fun c => !isStructural c) = true ↔ PrimitiveText text := by
  rw [Bool.and_eq_true, Bool.and_eq_true, List.all_eq_true]
  constructor
  · intro tests
    obtain ⟨⟨nonempty, inside⟩, starts⟩ := tests
    refine ⟨by simpa using nonempty, inside, ?_⟩
    intro c head
    rw [Option.mem_def.mp head] at starts
    simpa using starts
  · intro grammar
    refine ⟨⟨by simpa using grammar.nonempty, grammar.inside⟩, ?_⟩
    cases head : text.head? with
    | none => rfl
    | some c => simpa using grammar.starts c head

instance (text : Bytes) : Decidable (PrimitiveText text) :=
  decidable_of_iff _ primitiveText_iff

/-- What may stand behind a primitive. -/
def EndsPrimitive (behind : Bytes) : Prop :=
  ∀ c ∈ behind.head?, c = 0 ∨ isPrimitiveEnd c = true

theorem primitiveRun_of_ends {behind : Bytes} (ends : EndsPrimitive behind) :
    primitiveRun behind = .ok 0 := by
  cases behind with
  | nil => rfl
  | cons c behind =>
      rw [primitiveRun]
      rcases ends c rfl with nul | stops
      · rw [if_pos nul]
      · rw [if_pos stops, ite_self]

theorem primitiveRun_of_bytes {text behind : Bytes}
    (inside : ∀ c ∈ text, isPrimitiveByte c = true)
    (ends : EndsPrimitive behind) :
    primitiveRun (text ++ behind) = .ok text.length := by
  induction text with
  | nil => exact primitiveRun_of_ends ends
  | cons c text induction =>
      have later := induction fun other listed =>
        inside other (List.mem_cons_of_mem _ listed)
      have first := inside c List.mem_cons_self
      simp only [isPrimitiveByte, Bool.and_eq_true, Bool.not_eq_true',
        decide_eq_true_eq] at first
      obtain ⟨⟨goesOn, printable⟩, ascii⟩ := first
      have notNul : c ≠ 0 := by
        intro nul
        subst nul
        exact absurd printable (by decide)
      have noControl : ¬ (c < 32 || 127 ≤ c) = true := by
        simp only [Bool.or_eq_true, decide_eq_true_eq, not_or]
        exact ⟨UInt8.not_lt.mpr printable, UInt8.not_le.mpr ascii⟩
      rw [List.cons_append, primitiveRun, if_neg notNul,
        if_neg (by simp [goesOn]), if_neg noControl, later]
      rfl

theorem primitiveRun_sound {count : Nat} {text : Bytes}
    (run : primitiveRun text = .ok count) :
    ∃ word behind, text = word ++ behind ∧ word.length = count ∧
      (∀ c ∈ word, isPrimitiveByte c = true) ∧ EndsPrimitive behind := by
  induction text generalizing count with
  | nil =>
      cases run
      exact ⟨[], [], rfl, rfl, by simp, by simp [EndsPrimitive]⟩
  | cons c rest induction =>
      simp only [primitiveRun] at run
      split at run
      · rename_i nul
        cases run
        exact ⟨[], c :: rest, rfl, rfl, by simp, by simp [EndsPrimitive, nul]⟩
      · split at run
        · rename_i stops
          cases run
          exact ⟨[], c :: rest, rfl, rfl, by simp,
            by simp [EndsPrimitive, stops]⟩
        · rename_i goesOn
          split at run
          · cases run
          · rename_i noControl
            obtain ⟨length, later, rfl⟩ := map_add_eq_ok run
            obtain ⟨word, behind, rfl, rfl, inside, ends⟩ := induction later
            refine ⟨c :: word, behind, rfl, rfl, ?_, ends⟩
            simp only [Bool.or_eq_true, decide_eq_true_eq, not_or] at noControl
            have first : isPrimitiveByte c = true := by
              simp only [isPrimitiveByte, Bool.and_eq_true,
                Bool.not_eq_true', decide_eq_true_eq]
              exact ⟨⟨by simpa using goesOn, UInt8.not_lt.mp noControl.1⟩,
                UInt8.not_le.mp noControl.2⟩
            exact List.forall_mem_cons.mpr ⟨first, inside⟩

/-- A round that starts no other token reads a primitive. -/
theorem primitiveRun_word {c : UInt8} {rest : Bytes} {count : Nat}
    (notNul : c ≠ 0) (plain : isStructural c = false)
    (run : primitiveRun (c :: rest) = .ok count) :
    ∃ word behind, c :: rest = word ++ behind ∧ word.length = count ∧
      PrimitiveText word ∧ EndsPrimitive behind := by
  obtain ⟨word, behind, parts, length, inside, ends⟩ := primitiveRun_sound run
  have first : word.head? = some c := by
    cases word with
    | nil =>
        rw [List.nil_append] at parts
        rcases ends c (parts ▸ rfl) with nul | stops
        · exact absurd nul notNul
        · rw [structural_of_primitiveEnd stops] at plain
          cases plain
    | cons other word =>
        rw [List.cons_append, List.cons.injEq] at parts
        rw [parts.1]
        rfl
  refine ⟨word, behind, parts, length, ⟨?_, inside, ?_⟩, ends⟩
  · intro empty
    simp [empty] at first
  · simpa [first] using plain

end KvsProducer
