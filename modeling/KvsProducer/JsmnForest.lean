import KvsProducer.JsmnGrammar
import Mathlib.Data.List.Induction

/-!
# How the tokens of a text are nested

The tokens of a text come in the order of their starts, and of two of them the
earlier one encloses the later one or ends in front of it.  The loop keeps this
with the tokens that are still open, of which only the last can be closed.
-/

namespace KvsProducer

/-! ### The last token that satisfies a test -/

theorem lastIndex_append_cons {test : JsmnTok → Bool}
    {before behind : List JsmnTok} {token : JsmnTok}
    (found : test token = true)
    (none : ∀ later ∈ behind, test later = false) :
    lastIndex test (before ++ token :: behind) = some before.length := by
  have skipped : behind.reverse.findIdx? test = .none :=
    List.findIdx?_eq_none_iff.mpr fun later listed =>
      none later (List.mem_reverse.mp listed)
  simp only [lastIndex, List.reverse_append, List.reverse_cons,
    List.append_assoc, List.findIdx?_append, skipped, List.length_append,
    List.length_cons]
  simp [found]

theorem lastIndex_eq_none_iff {test : JsmnTok → Bool}
    {tokens : List JsmnTok} :
    lastIndex test tokens = none ↔ ∀ token ∈ tokens, test token = false := by
  simp [lastIndex, List.findIdx?_eq_none_iff]

/-- The tokens in front of the one that is found, and those behind it. -/
theorem exists_of_lastIndex {test : JsmnTok → Bool} {tokens : List JsmnTok}
    {index : Nat} (found : lastIndex test tokens = some index) :
    ∃ before token behind, tokens = before ++ token :: behind ∧
      before.length = index ∧ test token = true ∧
      ∀ later ∈ behind, test later = false := by
  induction tokens using List.reverseRecOn generalizing index with
  | nil => cases found
  | append_singleton tokens token induction =>
      by_cases last : test token = true
      · have here := @lastIndex_append_cons test tokens [] token last (by simp)
        rw [here] at found
        cases found
        exact ⟨tokens, token, [], rfl, rfl, last, by simp⟩
      · have earlier : lastIndex test tokens = some index := by
          cases before : lastIndex test tokens with
          | none =>
              have absent := lastIndex_eq_none_iff.mp before
              have all : lastIndex test (tokens ++ [token]) = none := by
                rw [lastIndex_eq_none_iff, List.forall_mem_append]
                exact ⟨absent, by simpa using last⟩
              rw [all] at found
              cases found
          | some other =>
              obtain ⟨front, chosen, behind, rfl, length, satisfies, none⟩ :=
                induction before
              have again : lastIndex test
                  (front ++ chosen :: (behind ++ [token])) =
                    some front.length := by
                apply lastIndex_append_cons satisfies
                rw [List.forall_mem_append]
                exact ⟨none, by simpa using last⟩
              rw [List.append_assoc, List.cons_append, again, length] at found
              exact found
        obtain ⟨front, chosen, behind, rfl, length, satisfies, none⟩ :=
          induction earlier
        refine ⟨front, chosen, behind ++ [token], by simp, length, satisfies, ?_⟩
        rw [List.forall_mem_append]
        exact ⟨none, by simpa using last⟩

theorem modify_append_cons {before behind : List JsmnTok} {token : JsmnTok}
    (change : JsmnTok → JsmnTok) :
    (before ++ token :: behind).modify before.length change =
      before ++ change token :: behind := by
  rw [List.modify_eq_take_drop, List.take_left, List.drop_left]
  rfl

/-! ### Where a token stands -/

theorem text_of_drop {js text behind : Bytes} {start : Nat}
    (at_ : js.drop start = text ++ behind) (type : JsmnType) (size : Nat) :
    JsmnTok.text js
        { type := type, start := start, stop := start + text.length,
          size := size } = text := by
  have length : ((start : Int) + text.length - start).toNat = text.length := by
    omega
  simp only [JsmnTok.text, Int.toNat_natCast, length, at_, List.take_left]

theorem drop_behind {js text behind : Bytes} {start : Nat}
    (at_ : js.drop start = text ++ behind) :
    js.drop (start + text.length) = behind := by
  rw [← List.drop_drop, at_, List.drop_left]

theorem getElem?_of_drop {js rest : Bytes} {start : Nat} {c : UInt8}
    (at_ : js.drop start = c :: rest) : js[start]? = some c := by
  rw [← List.head?_drop, at_]
  rfl

/-- The bytes at the ends of an object or an array. -/
def JsmnType.brackets : JsmnType → Option (UInt8 × UInt8)
  | .object => some (byte '\x7b', byte '\x7d')
  | .array => some (byte '[', byte ']')
  | .undefined => none
  | .string => none
  | .primitive => none

namespace JsmnTok

/-- The text at the ends of a token, and between them, is what its type
says. -/
inductive Framed (js : Bytes) (token : JsmnTok) : Prop where
  | bracketed {first last : UInt8}
      (type : token.type.brackets = some (first, last))
      (opens : js[token.start.toNat]? = some first)
      (closes : js[token.stop.toNat - 1]? = some last)
      (apart : token.start + 2 ≤ token.stop)
  | string (type : token.type = .string)
      (opens : 0 < token.start ∧ js[token.start.toNat - 1]? = some (byte '"'))
      (grammar : StringText (token.text js))
      (closes : js[token.stop.toNat]? = some (byte '"'))
  | primitive (type : token.type = .primitive)
      (grammar : PrimitiveText (token.text js))
      (ends : EndsPrimitive (js.drop token.stop.toNat))

/-- Of two tokens the earlier one encloses the later one or ends in front of
it. -/
def Precedes (first second : JsmnTok) : Prop :=
  first.encloses second = true ∨ first.stop ≤ second.start

/-- An object or array that is open, and starts in front of the position. -/
structure Opened (js : Bytes) (pos : Nat) (token : JsmnTok) : Prop where
  started : token.start < pos
  bracket : ∃ first last, token.type.brackets = some (first, last) ∧
    js[token.start.toNat]? = some first

/-- How two tokens stand while the earlier one may still be open. -/
def Stands (first second : JsmnTok) : Prop :=
  (first.isOpen = true ∧ first.start < second.start) ∨
    (first.isOpen = false ∧ second.isOpen = false ∧
      first.encloses second = true) ∨
    (first.isOpen = false ∧ first.stop ≤ second.start)

/-- The token without the number of its children. -/
def place (token : JsmnTok) : JsmnTok := { token with size := 0 }

theorem framed_place {js : Bytes} {token : JsmnTok} :
    token.place.Framed js ↔ token.Framed js := by
  constructor
  · intro framed
    cases framed with
    | bracketed type opens closes apart =>
        exact .bracketed type opens closes apart
    | string type opens grammar closes =>
        exact .string type opens grammar closes
    | primitive type grammar ends => exact .primitive type grammar ends
  · intro framed
    cases framed with
    | bracketed type opens closes apart =>
        exact .bracketed type opens closes apart
    | string type opens grammar closes =>
        exact .string type opens grammar closes
    | primitive type grammar ends => exact .primitive type grammar ends

theorem opened_place {js : Bytes} {pos : Nat} {token : JsmnTok} :
    token.place.Opened js pos ↔ token.Opened js pos :=
  ⟨fun ⟨started, bracket⟩ => ⟨started, bracket⟩,
    fun ⟨started, bracket⟩ => ⟨started, bracket⟩⟩

end JsmnTok

theorem map_place_countChild (toksuper : Option Nat)
    (tokens : List JsmnTok) :
    (countChild toksuper tokens).map JsmnTok.place =
      tokens.map JsmnTok.place := by
  cases toksuper with
  | none => rfl
  | some index =>
      apply List.ext_getElem? fun position => ?_
      simp only [countChild, List.getElem?_map, List.getElem?_modify]
      cases tokens[position]? with
      | none => rfl
      | some token =>
          by_cases same : index = position <;> simp [same, JsmnTok.place]

theorem forall_mem_countChild {holds : JsmnTok → Prop}
    (places : ∀ token, holds token.place ↔ holds token)
    {toksuper : Option Nat} {tokens : List JsmnTok} :
    (∀ token ∈ countChild toksuper tokens, holds token) ↔
      ∀ token ∈ tokens, holds token := by
  have mapped (list : List JsmnTok) : (∀ token ∈ list, holds token) ↔
      ∀ token ∈ list.map JsmnTok.place, holds token := by
    rw [List.forall_mem_map]
    exact forall₂_congr fun token _ => (places token).symm
  rw [mapped, map_place_countChild, ← mapped]

theorem pairwise_countChild {toksuper : Option Nat} {tokens : List JsmnTok} :
    (countChild toksuper tokens).Pairwise JsmnTok.Stands ↔
      tokens.Pairwise JsmnTok.Stands := by
  have mapped (list : List JsmnTok) : list.Pairwise JsmnTok.Stands ↔
      (list.map JsmnTok.place).Pairwise JsmnTok.Stands := by
    rw [List.pairwise_map]
    rfl
  rw [mapped, map_place_countChild, ← mapped]

/-! ### What the loop keeps -/

structure JsmnParser.Nested (parser : JsmnParser) (js : Bytes) : Prop where
  within : parser.Within js
  opened : ∀ token ∈ parser.tokens, token.isOpen = true →
    token.Opened js parser.pos
  framed : ∀ token ∈ parser.tokens, token.isOpen = false → token.Framed js
  pairs : parser.tokens.Pairwise JsmnTok.Stands

namespace JsmnTok

variable {js : Bytes} {pos : Nat} {token other : JsmnTok}

/-- The token as the bracket at a position closes it. -/
def closedAt (token : JsmnTok) (pos : Nat) : JsmnTok :=
  { token with stop := pos + 1 }

theorem closedAt_isOpen : (token.closedAt pos).isOpen = false := by
  have ends : ((pos : Int) + 1 == -1) = false := by
    rw [beq_eq_false_iff_ne]
    omega
  simp [isOpen, closedAt, ends]

theorem Opened.framed {first last : UInt8} (opened : token.Opened js pos)
    (brackets : token.type.brackets = some (first, last))
    (closes : js[pos]? = some last) : (token.closedAt pos).Framed js := by
  obtain ⟨started, opening, closing, ends, opens⟩ := opened
  rw [brackets] at ends
  cases ends
  have lastByte : js[((pos : Int) + 1).toNat - 1]? = some last := closes
  have apart : token.start + 2 ≤ (pos : Int) + 1 := by omega
  exact @Framed.bracketed js (token.closedAt pos) _ _ brackets opens lastByte
    apart

/-- The innermost open token encloses what is behind it once it is closed. -/
theorem Stands.closeFirst (stands : token.Stands other)
    (isOpen : token.isOpen = true) (opened : token.Opened js pos)
    (closed : other.isOpen = false) (ends : other.stop ≤ pos) :
    (token.closedAt pos).Stands other := by
  obtain ⟨-, first, last, brackets, -⟩ := opened
  have starts : token.start < other.start := by
    rcases stands with opened | inside | behind
    · exact opened.2
    · exact absurd isOpen (by simp [inside.1])
    · exact absurd isOpen (by simp [behind.1])
  have isBracket : (token.type == .object || token.type == .array) = true := by
    revert brackets
    cases token.type <;> simp [JsmnType.brackets]
  have encloses : (token.closedAt pos).encloses other = true := by
    have inside : other.stop < (pos : Int) + 1 := by omega
    simp [JsmnTok.encloses, closedAt, isBracket, starts, inside]
  exact Or.inr (Or.inl ⟨closedAt_isOpen, closed, encloses⟩)

theorem Stands.closeSecond (stands : other.Stands token)
    (isOpen : token.isOpen = true) : other.Stands (token.closedAt pos) := by
  rcases stands with opened | inside | behind
  · exact Or.inl opened
  · exact absurd isOpen (by simp [inside.2.1])
  · exact Or.inr (Or.inr behind)

end JsmnTok

section Round

variable {numTokens : Nat} {js : Bytes} {parser after : JsmnParser}

theorem JsmnParser.Nested.skip (nested : parser.Nested js)
    (within : after.Within js) (same : after.tokens = parser.tokens)
    (moved : parser.pos ≤ after.pos) : after.Nested js := by
  constructor
  case within => exact within
  case opened =>
      intro token member isOpen
      rw [same] at member
      obtain ⟨started, bracket⟩ := nested.opened token member isOpen
      exact ⟨by omega, bracket⟩
  case framed =>
      intro token member
      rw [same] at member
      exact nested.framed token member
  case pairs =>
      rw [same]
      exact nested.pairs

theorem JsmnParser.Nested.add {new : JsmnTok} (nested : parser.Nested js)
    (within : after.Within js)
    (added : after.tokens = countChild parser.toksuper (parser.tokens ++ [new]))
    (moved : parser.pos ≤ after.pos) (starts : parser.pos ≤ new.start)
    (opened : new.isOpen = true → new.Opened js after.pos)
    (framed : new.isOpen = false → new.Framed js) : after.Nested js := by
  constructor
  case within => exact within
  case opened =>
      rw [added, forall_mem_countChild fun token =>
        imp_congr_right fun _ => token.opened_place, List.forall_mem_append]
      refine ⟨fun token member isOpen => ?_, by simpa using opened⟩
      obtain ⟨started, bracket⟩ := nested.opened token member isOpen
      exact ⟨by omega, bracket⟩
  case framed =>
      rw [added, forall_mem_countChild fun token =>
        imp_congr_right fun _ => token.framed_place, List.forall_mem_append]
      exact ⟨nested.framed, by simpa using framed⟩
  case pairs =>
      rw [added, pairwise_countChild, List.pairwise_append]
      refine ⟨nested.pairs, List.pairwise_singleton .., ?_⟩
      intro token member other isNew
      rw [List.mem_singleton] at isNew
      subst isNew
      by_cases isOpen : token.isOpen = true
      · obtain ⟨started, -⟩ := nested.opened token member isOpen
        exact Or.inl ⟨isOpen, by omega⟩
      · obtain ⟨-, -, ends⟩ := nested.within.tokens token member
        obtain ⟨-, stop⟩ := ends.resolve_left isOpen
        exact Or.inr (Or.inr ⟨by simpa using isOpen, by omega⟩)

theorem openBracket_nested {type : JsmnType} {first last : UInt8}
    {rest : Bytes} (nested : parser.Nested js)
    (brackets : type.brackets = some (first, last))
    (text : js.drop parser.pos = first :: rest) (within : after.Within js)
    (opens : openBracket numTokens type parser = .ok after) :
    after.Nested js := by
  rw [openBracket, jsmn_bind_eq_ok] at opens
  obtain ⟨allocated, allocates, equality⟩ := opens
  cases equality
  cases allocToken_ok allocates
  have head : js[parser.pos]? = some first := getElem?_of_drop text
  apply nested.add within rfl (Nat.le_succ _) (Int.le_refl _)
  · intro _
    exact ⟨Int.ofNat_lt.mpr (Nat.lt_succ_self _), first, last, brackets,
      by simpa using head⟩
  · intro closed
    have nonneg : (parser.pos : Int) ≠ -1 := by omega
    simp [JsmnTok.isOpen, nonneg] at closed

theorem leaf_nested {type : JsmnType} {start length next : Nat}
    (nested : parser.Nested js) (within : after.Within js)
    (moved : parser.pos ≤ next) (starts : parser.pos ≤ start)
    (framed : JsmnTok.Framed js
      { type := type, start := start, stop := start + length, size := 0 })
    (adds : leaf numTokens type start length next parser = .ok after) :
    after.Nested js := by
  rw [leaf, jsmn_bind_eq_ok] at adds
  obtain ⟨allocated, allocates, equality⟩ := adds
  cases equality
  cases allocToken_ok allocates
  apply nested.add within rfl moved
  · exact Int.ofNat_le.mpr starts
  · intro isOpen
    simp only [JsmnTok.isOpen, Bool.and_eq_true, beq_iff_eq] at isOpen
    omega
  · exact fun _ => framed

/-- The innermost open token is closed: what is behind it is inside it. -/
theorem closeBracket_nested {type : JsmnType} {first last : UInt8}
    {rest : Bytes} (nested : parser.Nested js)
    (brackets : type.brackets = some (first, last))
    (text : js.drop parser.pos = last :: rest) (within : after.Within js)
    (closes : closeBracket type parser = .ok after) : after.Nested js := by
  unfold closeBracket at closes
  split at closes
  · cases closes
  · rename_i index found
    obtain ⟨before, token, behind, tokens, rfl, isOpen, closed⟩ :=
      exists_of_lastIndex found
    split at closes
    · rename_i sameType
      cases closes
      have isType : token.type = type := by
        simpa [tokens, List.getElem?_append_right] using sameType
      have opened := nested.opened token (by simp [tokens]) isOpen
      have changed : parser.tokens.modify before.length
          (fun token => { token with stop := parser.pos + 1 }) =
            before ++ token.closedAt parser.pos :: behind := by
        rw [tokens]
        exact modify_append_cons _
      have closing : js[parser.pos]? = some last := getElem?_of_drop text
      have pairs := nested.pairs
      rw [tokens, List.pairwise_append, List.pairwise_cons] at pairs
      obtain ⟨front, ⟨inside, back⟩, across⟩ := pairs
      have cases_mem {other : JsmnTok}
          (member : other ∈ before ++ token.closedAt parser.pos :: behind) :
          other ∈ parser.tokens ∨ other = token.closedAt parser.pos := by
        simp only [tokens, List.mem_append, List.mem_cons] at member ⊢
        rcases member with early | isNew | late
        · exact Or.inl (Or.inl early)
        · exact Or.inr isNew
        · exact Or.inl (Or.inr (Or.inr late))
      constructor
      case within => exact within
      case opened =>
          simp only [changed]
          intro other member stillOpen
          rcases cases_mem member with old | isNew
          · obtain ⟨started, bracket⟩ := nested.opened other old stillOpen
            exact ⟨by omega, bracket⟩
          · rw [isNew, JsmnTok.closedAt_isOpen] at stillOpen
            cases stillOpen
      case framed =>
          simp only [changed]
          intro other member isClosed
          rcases cases_mem member with old | isNew
          · exact nested.framed other old isClosed
          · rw [isNew]
            exact opened.framed (isType ▸ brackets) closing
      case pairs =>
          simp only [changed]
          rw [List.pairwise_append, List.pairwise_cons]
          refine ⟨front, ⟨?_, back⟩, ?_⟩
          · intro other member
            have listed : other ∈ parser.tokens := by simp [tokens, member]
            obtain ⟨-, -, ends⟩ := nested.within.tokens other listed
            have ended := ends.resolve_left (by simp [closed other member])
            exact (inside other member).closeFirst isOpen opened
              (closed other member) ended.2
          · intro earlier early other member
            rcases List.mem_cons.mp member with isNew | late
            · rw [isNew]
              exact (across earlier early token List.mem_cons_self).closeSecond
                isOpen
            · exact across earlier early other (List.mem_cons_of_mem _ late)
    · cases closes

/-- What a round of the loop has done. -/
inductive JsmnRound (numTokens : Nat) (c : UInt8) (rest : Bytes)
    (parser after : JsmnParser) : Prop where
  | opened {type : JsmnType} {last : UInt8}
      (brackets : type.brackets = some (c, last))
      (opens : openBracket numTokens type parser = .ok after)
  | closed {type : JsmnType} {first : UInt8}
      (brackets : type.brackets = some (first, c))
      (closes : closeBracket type parser = .ok after)
  | string {text behind : Bytes} (quote : c = byte '"')
      (parts : rest = text ++ byte '"' :: behind) (grammar : StringText text)
      (adds : leaf numTokens .string (parser.pos + 1) text.length
        (parser.pos + text.length + 2) parser = .ok after)
  | skipped (moved : after.pos = parser.pos + 1)
      (same : after.tokens = parser.tokens)
  | primitive {text behind : Bytes} (parts : c :: rest = text ++ behind)
      (grammar : PrimitiveText text) (ends : EndsPrimitive behind)
      (adds : leaf numTokens .primitive parser.pos text.length
        (parser.pos + text.length) parser = .ok after)

theorem jsmnRound_cases {c : UInt8} {rest : Bytes} (notNul : c ≠ 0)
    (round : jsmnRound numTokens c rest parser = .ok after) :
    JsmnRound numTokens c rest parser after := by
  unfold jsmnRound at round
  split at round
  · rename_i bracket
    have brackets : JsmnType.object.brackets = some (c, byte '\x7d') := by
      rw [bracket]
      rfl
    exact .opened brackets round
  split at round
  · rename_i bracket
    have brackets : JsmnType.array.brackets = some (c, byte ']') := by
      rw [bracket]
      rfl
    exact .opened brackets round
  split at round
  · rename_i bracket
    have brackets : JsmnType.object.brackets = some (byte '\x7b', c) := by
      rw [bracket]
      rfl
    exact .closed brackets round
  split at round
  · rename_i bracket
    have brackets : JsmnType.array.brackets = some (byte '[', c) := by
      rw [bracket]
      rfl
    exact .closed brackets round
  split at round
  · rename_i quote
    rw [jsmn_bind_eq_ok] at round
    obtain ⟨length, run, adds⟩ := round
    obtain ⟨text, behind, parts, rfl, grammar⟩ := stringRun_sound run
    exact .string quote parts grammar adds
  split at round
  · cases round
    exact .skipped rfl rfl
  split at round
  · cases round
    exact .skipped rfl rfl
  split at round
  · cases round
    exact .skipped rfl rfl
  · rename_i noBrace noBracket noClosingBrace noClosingBracket noQuote noSpace
      noColon noComma
    rw [jsmn_bind_eq_ok] at round
    obtain ⟨length, run, adds⟩ := round
    have plain : isStructural c = false := by
      rw [← Bool.not_eq_true, isStructural_iff]
      simp only [noBrace, noBracket, noClosingBrace, noClosingBracket, noQuote,
        noSpace, noColon, noComma, Bool.false_eq_true, or_self,
        not_false_eq_true]
    obtain ⟨text, behind, parts, rfl, grammar, ends⟩ :=
      primitiveRun_word notNul plain run
    exact .primitive parts grammar ends adds

/-- A round of the loop keeps the nesting. -/
theorem jsmnRound_nested {c : UInt8} {rest : Bytes} (nested : parser.Nested js)
    (here : js.drop parser.pos = c :: rest) (notNul : c ≠ 0)
    (round : jsmnRound numTokens c rest parser = .ok after) :
    after.Nested js := by
  have within := jsmnRound_within nested.within here notNul round
  cases jsmnRound_cases notNul round with
  | opened brackets opens =>
      exact openBracket_nested nested brackets here within opens
  | closed brackets closes =>
      exact closeBracket_nested nested brackets here within closes
  | @string text behind quote parts grammar adds =>
      rw [quote, parts] at here
      have inside : js.drop (parser.pos + 1) = text ++ byte '"' :: behind :=
        @drop_behind js [byte '"'] _ parser.pos here
      have opens : js[parser.pos]? = some (byte '"') := getElem?_of_drop here
      have closes : js[parser.pos + 1 + text.length]? = some (byte '"') :=
        getElem?_of_drop (drop_behind inside)
      have framed : JsmnTok.Framed js
          { type := .string, start := (parser.pos + 1 : ℕ),
            stop := (parser.pos + 1 : ℕ) + text.length, size := 0 } := by
        refine .string rfl ⟨Int.natCast_pos.mpr (Nat.succ_pos _), ?_⟩ ?_ closes
        · simpa using opens
        · rw [text_of_drop inside]
          exact grammar
      exact leaf_nested nested within (by omega) (Nat.le_succ _) framed adds
  | skipped moved same => exact nested.skip within same (by omega)
  | @primitive text behind parts grammar ends adds =>
      rw [parts] at here
      have framed : JsmnTok.Framed js
          { type := .primitive, start := (parser.pos : ℕ),
            stop := (parser.pos : ℕ) + text.length, size := 0 } := by
        refine .primitive rfl ?_ ?_
        · rw [text_of_drop here]
          exact grammar
        · have stop : ((parser.pos : Int) + text.length).toNat =
              parser.pos + text.length := by omega
          rw [stop, drop_behind here]
          exact ends
      exact leaf_nested nested within (Nat.le_add_right _ _) (Nat.le_refl _)
        framed adds

theorem jsmnLoop_nested {fuel : Nat} (nested : parser.Nested js)
    (loops : jsmnLoop numTokens js fuel parser = .ok after) :
    after.Nested js := by
  induction fuel generalizing parser with
  | zero =>
      cases loops
      exact nested
  | succ fuel induction =>
      rw [jsmnLoop] at loops
      split at loops
      · cases loops
        exact nested
      · rename_i c rest text
        split at loops
        · cases loops
          exact nested
        · rename_i notNul
          rw [jsmn_bind_eq_ok] at loops
          obtain ⟨between, round, later⟩ := loops
          exact induction (jsmnRound_nested nested text notNul round) later

end Round

/-- The tokens of every text that is accepted are a forest in pre-order. -/
theorem jsmnParse_nested {numTokens : Nat} {js : Bytes}
    {tokens : List JsmnTok} (parses : jsmnParse numTokens js = .ok tokens) :
    (∀ token ∈ tokens, token.Framed js) ∧
      tokens.Pairwise JsmnTok.Precedes := by
  rw [jsmnParse, jsmn_bind_eq_ok] at parses
  obtain ⟨parser, loops, closes⟩ := parses
  have initial : jsmnInit.Nested js := by
    constructor
    case within => exact ⟨unterminated_zero js, by simp [jsmnInit]⟩
    case opened => simp [jsmnInit]
    case framed => simp [jsmnInit]
    case pairs => exact List.Pairwise.nil
  obtain ⟨-, -, framed, pairs⟩ := jsmnLoop_nested initial loops
  split at closes
  · cases closes
  · rename_i closed
    cases closes
    have isClosed : ∀ token ∈ parser.tokens, token.isOpen = false := by
      rw [Bool.not_eq_true, List.any_eq_false] at closed
      simpa using closed
    refine ⟨fun token member => framed token member (isClosed token member),
      pairs.imp_of_mem ?_⟩
    intro first second listed _ stands
    rcases stands with opened | inside | behind
    · exact absurd opened.1 (by simp [isClosed first listed])
    · exact Or.inl inside.2.2
    · exact Or.inr behind.2

/-- The tokens of every text that is accepted are a forest in pre-order: the
text at each of them is what its type says, and of two tokens the earlier one
encloses the later one or ends in front of it.  Their positions are ones of an
`int`. -/
theorem jsmnParse_forest {numTokens : Nat} {js : Bytes}
    {tokens : List JsmnTok} (short : js.length < 2 ^ 31)
    (parses : jsmnParse numTokens js = .ok tokens) :
    (∀ token ∈ tokens, token.Framed js ∧ token.FitsInt) ∧
      tokens.Pairwise JsmnTok.Precedes := by
  obtain ⟨framed, pairs⟩ := jsmnParse_nested parses
  refine ⟨fun token member => ⟨framed token member, ?_⟩, pairs⟩
  apply (jsmnParse_within parses token member).fitsInt
  rw [INT_MAX]
  omega

/-- An array in an object. -/
def nestedSample : Bytes := bytes "\x7b\"key\": [1, \"x\"]\x7d"

def nestedSampleTokens : List JsmnTok :=
  [⟨.object, 0, 17, 1⟩, ⟨.string, 2, 5, 1⟩, ⟨.array, 8, 16, 2⟩,
    ⟨.primitive, 9, 10, 0⟩, ⟨.string, 13, 14, 0⟩]

theorem jsmnParse_forest_sample :
    (∀ token ∈ nestedSampleTokens,
        token.Framed nestedSample ∧ token.FitsInt) ∧
      nestedSampleTokens.Pairwise JsmnTok.Precedes :=
  jsmnParse_forest (by decide +kernel) (by decide +kernel :
    jsmnParse 5 nestedSample = .ok nestedSampleTokens)

end KvsProducer
