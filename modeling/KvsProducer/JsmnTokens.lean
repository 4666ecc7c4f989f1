import KvsProducer.Jsmn

/-!
# Where the tokens of a text are

Every token that the tokenizer returns lies in the text, in front of the first
NUL.  The loop keeps this for the text before its position, for tokens that are
still open without their ends.
-/

namespace KvsProducer

/-- The first bytes of a text are there, and are not NUL. -/
structure Unterminated (text : Bytes) (count : Nat) : Prop where
  within : count ≤ text.length
  plain : 0 ∉ text.take count

theorem unterminated_zero (text : Bytes) : Unterminated text 0 where
  within := Nat.zero_le _
  plain := by simp

namespace Unterminated

variable {text rest : Bytes} {c : UInt8} {count more : Nat}

theorem cons (notNul : c ≠ 0) (later : Unterminated rest count) :
    Unterminated (c :: rest) (count + 1) where
  within := Nat.succ_le_succ later.within
  plain := by
    rw [List.take_succ_cons, List.mem_cons, not_or]
    exact ⟨notNul.symm, later.plain⟩

theorem append (before : Unterminated text count)
    (behind : Unterminated (text.drop count) more) :
    Unterminated text (count + more) where
  within := by
    have within := behind.within
    have start := before.within
    rw [List.length_drop] at within
    omega
  plain := by
    rw [List.take_add, List.mem_append, not_or]
    exact ⟨before.plain, behind.plain⟩

end Unterminated

theorem map_add_eq_ok {run : Except JsmnErr Nat} {more count : Nat}
    (mapped : run.map (· + more) = .ok count) :
    ∃ before, run = .ok before ∧ count = before + more := by
  cases run with
  | error err => cases mapped
  | ok before =>
      cases mapped
      exact ⟨before, rfl, rfl⟩

theorem hexRun_ok {wanted count : Nat} {text : Bytes}
    (run : hexRun wanted text = .ok count) : Unterminated text count := by
  induction wanted generalizing text count with
  | zero =>
      cases run
      exact unterminated_zero _
  | succ wanted induction =>
      cases text with
      | nil =>
          cases run
          exact unterminated_zero _
      | cons c rest =>
          simp only [hexRun] at run
          split at run
          · cases run
            exact unterminated_zero _
          · rename_i notNul
            split at run
            · obtain ⟨digits, later, rfl⟩ := map_add_eq_ok run
              exact (induction later).cons notNul
            · cases run

theorem isSimpleEscape_ne_zero {c : UInt8} (escape : isSimpleEscape c = true) :
    c ≠ 0 := by
  rintro rfl
  revert escape
  decide

theorem stringRun_ok {fuel count : Nat} {text : Bytes}
    (run : stringRun fuel text = .ok count) :
    Unterminated text (count + 1) := by
  induction fuel generalizing text count with
  | zero => cases run
  | succ fuel induction =>
      cases text with
      | nil => cases run
      | cons c rest =>
          simp only [stringRun] at run
          split at run
          · cases run
          · rename_i notNul
            split at run
            · cases run
              exact (unterminated_zero rest).cons notNul
            · split at run
              · cases rest with
                | nil => cases run
                | cons escape after =>
                    simp only at run
                    split at run
                    · rename_i simple
                      obtain ⟨length, later, rfl⟩ := map_add_eq_ok run
                      exact ((induction later).cons
                        (isSimpleEscape_ne_zero simple)).cons notNul
                    · split at run
                      · rename_i unicode
                        cases digits : hexRun 4 after with
                        | error err =>
                            rw [digits] at run
                            cases run
                        | ok digitCount =>
                            rw [digits] at run
                            obtain ⟨length, later, rfl⟩ := map_add_eq_ok run
                            have whole := (hexRun_ok digits).append
                              (induction later)
                            have escapes : escape ≠ 0 := by
                              rw [unicode]
                              decide
                            have spans := (whole.cons escapes).cons notNul
                            have counts : digitCount + (length + 1) + 1 + 1 =
                                length + (2 + digitCount) + 1 := by omega
                            exact counts ▸ spans
                      · cases run
              · obtain ⟨length, later, rfl⟩ := map_add_eq_ok run
                exact (induction later).cons notNul

theorem primitiveRun_ok {count : Nat} {text : Bytes}
    (run : primitiveRun text = .ok count) : Unterminated text count := by
  induction text generalizing count with
  | nil =>
      cases run
      exact unterminated_zero _
  | cons c rest induction =>
      simp only [primitiveRun] at run
      split at run
      · cases run
        exact unterminated_zero _
      · rename_i notNul
        split at run
        · cases run
          exact unterminated_zero _
        · split at run
          · cases run
          · obtain ⟨length, later, rfl⟩ := map_add_eq_ok run
            exact (induction later).cons notNul

/-- The token starts in front of a position and, if it is closed, ends there,
too. -/
structure JsmnTok.Before (token : JsmnTok) (pos : Nat) : Prop where
  start_nonneg : 0 ≤ token.start
  start_le : token.start ≤ pos
  closed : token.isOpen = true ∨ token.start ≤ token.stop ∧ token.stop ≤ pos

theorem JsmnTok.Before.mono {token : JsmnTok} {first second : Nat}
    (before : token.Before first) (le : first ≤ second) :
    token.Before second := by
  obtain ⟨nonneg, start, closed⟩ := before
  refine ⟨nonneg, by omega, closed.imp_right ?_⟩
  rintro ⟨ordered, stop⟩
  exact ⟨ordered, by omega⟩

/-- What the loop keeps. -/
structure JsmnParser.Within (parser : JsmnParser) (js : Bytes) : Prop where
  unterminated : Unterminated js parser.pos
  tokens : ∀ token ∈ parser.tokens, token.Before parser.pos

theorem mem_countChild {toksuper : Option Nat} {tokens : List JsmnTok}
    {token : JsmnTok} (member : token ∈ countChild toksuper tokens) :
    ∃ before ∈ tokens, token.start = before.start ∧
      token.stop = before.stop := by
  unfold countChild at member
  split at member
  · exact ⟨token, member, rfl, rfl⟩
  · obtain ⟨index, get⟩ := List.mem_iff_getElem?.mp member
    rw [List.getElem?_modify] at get
    obtain ⟨before, listed, changed⟩ := Option.map_eq_some_iff.mp get
    refine ⟨before, List.mem_of_getElem? listed, ?_⟩
    split at changed <;> subst changed <;> exact ⟨rfl, rfl⟩

theorem jsmn_bind_eq_ok {α β : Type} {first : Except JsmnErr α}
    {next : α → Except JsmnErr β} {value : β} :
    (first >>= next) = .ok value ↔
      ∃ intermediate, first = .ok intermediate ∧
        next intermediate = .ok value := by
  cases first with
  | ok intermediate => simp [bind, Except.bind]
  | error err => simp [bind, Except.bind]

/-- A token with the same ends is in front of the same positions. -/
theorem JsmnTok.Before.congr {first second : JsmnTok} {pos : Nat}
    (before : first.Before pos) (start : second.start = first.start)
    (stop : second.stop = first.stop) : second.Before pos := by
  obtain ⟨nonneg, startLe, closed⟩ := before
  refine ⟨start ▸ nonneg, start ▸ startLe, ?_⟩
  rw [isOpen, start, stop]
  exact closed

section Round

variable {numTokens : Nat} {js : Bytes} {parser after : JsmnParser}

/-- The position goes on, and every token is one from before or is new. -/
theorem JsmnParser.Within.advance {count : Nat} (within : parser.Within js)
    (spans : Unterminated (js.drop parser.pos) count)
    (moved : after.pos = parser.pos + count)
    (tokens : ∀ token ∈ after.tokens,
      token.Before (parser.pos + count) ∨
        ∃ before ∈ parser.tokens, token.start = before.start ∧
          token.stop = before.stop) : after.Within js := by
  constructor
  case unterminated =>
      rw [moved]
      exact within.unterminated.append spans
  case tokens =>
      intro token member
      rw [moved]
      rcases tokens token member with new | ⟨before, listed, start, stop⟩
      · exact new
      · exact ((within.tokens before listed).mono (by omega)).congr start stop

theorem allocToken_ok {tokens allocated : List JsmnTok} {token : JsmnTok}
    (allocates : allocToken numTokens tokens token = .ok allocated) :
    allocated = tokens ++ [token] := by
  unfold allocToken at allocates
  split at allocates <;> cases allocates
  rfl

theorem mem_alloc_countChild {toksuper : Option Nat}
    {tokens : List JsmnTok} {new token : JsmnTok} {pos : Nat}
    (newBefore : new.Before pos)
    (member : token ∈ countChild toksuper (tokens ++ [new])) :
    token.Before pos ∨
      ∃ before ∈ tokens, token.start = before.start ∧
        token.stop = before.stop := by
  obtain ⟨before, listed, start, stop⟩ := mem_countChild member
  rcases List.mem_append.mp listed with old | isNew
  · exact Or.inr ⟨before, old, start, stop⟩
  · rw [List.mem_singleton] at isNew
    subst isNew
    exact Or.inl (newBefore.congr start stop)

theorem openBracket_within {type : JsmnType} (within : parser.Within js)
    (spans : Unterminated (js.drop parser.pos) 1)
    (opens : openBracket numTokens type parser = .ok after) :
    after.Within js := by
  rw [openBracket, jsmn_bind_eq_ok] at opens
  obtain ⟨allocated, allocates, equality⟩ := opens
  cases equality
  refine within.advance spans rfl fun token member => ?_
  rw [allocToken_ok allocates] at member
  refine mem_alloc_countChild ?_ member
  constructor
  case start_nonneg => exact Int.natCast_nonneg _
  case start_le =>
      change (parser.pos : Int) ≤ _
      omega
  case closed =>
      left
      have nonneg : (parser.pos : Int) ≠ -1 := by omega
      simp [JsmnTok.isOpen, nonneg]

theorem closeBracket_within {type : JsmnType} (within : parser.Within js)
    (spans : Unterminated (js.drop parser.pos) 1)
    (closes : closeBracket type parser = .ok after) : after.Within js := by
  unfold closeBracket at closes
  split at closes
  · cases closes
  · rename_i index found
    split at closes
    · cases closes
      refine within.advance spans rfl fun token member => ?_
      obtain ⟨position, get⟩ := List.mem_iff_getElem?.mp member
      rw [List.getElem?_modify] at get
      obtain ⟨before, listed, changed⟩ := Option.map_eq_some_iff.mp get
      have old := List.mem_of_getElem? listed
      split at changed
      · subst changed
        left
        obtain ⟨nonneg, start, -⟩ := within.tokens before old
        exact ⟨nonneg, by simp only; omega, Or.inr ⟨by simp only; omega, by simp⟩⟩
      · subst changed
        exact Or.inr ⟨before, old, rfl, rfl⟩
    · cases closes

theorem leaf_within {type : JsmnType} {start length next count : Nat}
    (within : parser.Within js)
    (spans : Unterminated (js.drop parser.pos) count)
    (moved : next = parser.pos + count) (ends : start + length ≤ next)
    (adds : leaf numTokens type start length next parser = .ok after) :
    after.Within js := by
  rw [leaf, jsmn_bind_eq_ok] at adds
  obtain ⟨allocated, allocates, equality⟩ := adds
  cases equality
  refine within.advance spans moved fun token member => ?_
  rw [allocToken_ok allocates] at member
  refine mem_alloc_countChild ?_ member
  constructor
  case start_nonneg => exact Int.natCast_nonneg _
  case start_le =>
      change (start : Int) ≤ _
      omega
  case closed =>
      right
      change (start : Int) ≤ start + length ∧ (start : Int) + length ≤ _
      omega

/-- A round of the loop keeps the tokens within the text. -/
theorem jsmnRound_within {c : UInt8} {rest : Bytes} (within : parser.Within js)
    (text : js.drop parser.pos = c :: rest) (notNul : c ≠ 0)
    (round : jsmnRound numTokens c rest parser = .ok after) :
    after.Within js := by
  have one : Unterminated (js.drop parser.pos) 1 := by
    rw [text]
    exact (unterminated_zero rest).cons notNul
  have skips (toksuper : Option Nat) :
      JsmnParser.Within
        { parser with
          pos := parser.pos + 1
          toksuper := toksuper } js :=
    within.advance one rfl fun token member =>
      Or.inr ⟨token, member, rfl, rfl⟩
  unfold jsmnRound at round
  split at round
  · exact openBracket_within within one round
  split at round
  · exact openBracket_within within one round
  split at round
  · exact closeBracket_within within one round
  split at round
  · exact closeBracket_within within one round
  split at round
  · rw [jsmn_bind_eq_ok] at round
    obtain ⟨length, run, adds⟩ := round
    have spans : Unterminated (js.drop parser.pos) (length + 2) := by
      rw [text]
      exact (stringRun_ok run).cons notNul
    exact leaf_within within spans (by omega) (by omega) adds
  split at round
  · cases round
    exact skips parser.toksuper
  split at round
  · cases round
    exact skips _
  split at round
  · cases round
    exact skips _
  · rw [jsmn_bind_eq_ok] at round
    obtain ⟨length, run, adds⟩ := round
    have spans : Unterminated (js.drop parser.pos) length := by
      rw [text]
      exact primitiveRun_ok run
    exact leaf_within within spans rfl (Nat.le_refl _) adds

theorem jsmnLoop_within {fuel : Nat} (within : parser.Within js)
    (loops : jsmnLoop numTokens js fuel parser = .ok after) :
    after.Within js := by
  induction fuel generalizing parser with
  | zero =>
      cases loops
      exact within
  | succ fuel induction =>
      rw [jsmnLoop] at loops
      split at loops
      · cases loops
        exact within
      · rename_i c rest text
        split at loops
        · cases loops
          exact within
        · rename_i notNul
          rw [jsmn_bind_eq_ok] at loops
          obtain ⟨between, round, later⟩ := loops
          exact induction (jsmnRound_within within text notNul round) later

end Round

/-- Where a token of a text is. -/
structure JsmnTok.Within (token : JsmnTok) (js : Bytes) : Prop where
  start_nonneg : 0 ≤ token.start
  ordered : token.start ≤ token.stop
  unterminated : Unterminated js token.stop.toNat

theorem JsmnTok.Within.fitsInt {token : JsmnTok} {js : Bytes}
    (within : token.Within js) (short : js.length ≤ INT_MAX) :
    token.FitsInt where
  start_nonneg := within.start_nonneg
  ordered := within.ordered
  stop_le := by
    have ends := within.unterminated.within
    omega

/-- The tokens of a text lie in the text, in front of the first NUL. -/
theorem jsmnParse_within {numTokens : Nat} {js : Bytes}
    {tokens : List JsmnTok} (parses : jsmnParse numTokens js = .ok tokens) :
    ∀ token ∈ tokens, token.Within js := by
  rw [jsmnParse, jsmn_bind_eq_ok] at parses
  obtain ⟨parser, loops, closes⟩ := parses
  have initial : jsmnInit.Within js :=
    ⟨unterminated_zero js, by simp [jsmnInit]⟩
  have within := jsmnLoop_within initial loops
  split at closes
  · cases closes
  · rename_i closed
    cases closes
    intro token member
    obtain ⟨nonneg, -, ends⟩ := within.tokens token member
    have isClosed : token.isOpen = false := by
      rw [Bool.not_eq_true, List.any_eq_false] at closed
      simpa using closed token member
    rw [isClosed] at ends
    obtain ⟨ordered, stop⟩ := ends.resolve_left nofun
    refine ⟨nonneg, ordered, ?_, ?_⟩
    · have length := within.unterminated.within
      omega
    · intro nul
      apply within.unterminated.plain
      exact (List.take_sublist_take_left (by omega)).subset nul

end KvsProducer
