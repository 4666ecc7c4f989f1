import KvsProducer.JsmnForest
import KvsProducer.JsonDocument

/-!
# The tokens of a document

A document is a tree of values with the blanks between them.  The tokenizer
makes no difference between the members of an object and the values of an
array, so an entry of either may be a member.  Its tokens are those of the tree
in pre-order, where a name has its value for its only child.  They are what the
tokenizer returns, or it returns that there are too many.
-/

namespace KvsProducer

open JsonValue (Gap inQuotes)

/-! ### Documents -/

inductive Bracket where
  | object | array
  deriving DecidableEq, Repr

namespace Bracket

def type : Bracket → JsmnType
  | .object => .object
  | .array => .array

def opening : Bracket → UInt8
  | .object => byte '\x7b'
  | .array => byte '['

def closing : Bracket → UInt8
  | .object => byte '\x7d'
  | .array => byte ']'

end Bracket

/-- A name with the blanks around it. -/
structure JsonKey where
  before : Bytes
  blankBefore : Gap before
  name : Bytes
  grammar : StringText name
  after : Bytes
  blankAfter : Gap after

mutual

/-- A value as it is spelt. -/
inductive JsonTree where
  | primitive (text : Bytes) (grammar : PrimitiveText text)
  | string (text : Bytes) (grammar : StringText text)
  | bracket (kind : Bracket) (entries : JsonEntries)
  | padded (before : Bytes) (blankBefore : Gap before) (tree : JsonTree)
      (after : Bytes) (blankAfter : Gap after)

/-- What stands between two brackets. -/
inductive JsonEntries where
  | close (gap : Bytes) (blank : Gap gap)
  | value (tree : JsonTree) (rest : JsonEntries)
  | member (key : JsonKey) (tree : JsonTree) (rest : JsonEntries)

end

def JsonKey.text (key : JsonKey) : Bytes :=
  key.before ++ (inQuotes key.name ++ key.after)

mutual

def JsonTree.text : JsonTree → Bytes
  | .primitive text _ => text
  | .string text _ => inQuotes text
  | .bracket kind entries =>
      kind.opening :: (entries.text [] ++ [kind.closing])
  | .padded before _ tree after _ => before ++ (tree.text ++ after)

/-- The text of entries behind the comma or the bracket in front of them. -/
def JsonEntries.text : JsonEntries → (lead : Bytes) → Bytes
  | .close gap _, _ => gap
  | .value tree rest, lead => lead ++ (tree.text ++ rest.text [byte ','])
  | .member key tree rest, lead =>
      lead ++ (key.text ++
        (byte ':' :: (tree.text ++ rest.text [byte ','])))

end

def JsonEntries.count : JsonEntries → Nat
  | .close .. => 0
  | .value _ rest => rest.count + 1
  | .member _ _ rest => rest.count + 1

/-- The token of a string whose quote stands at the position. -/
def stringToken (text : Bytes) (pos size : Nat) : JsmnTok :=
  { type := .string
    start := (pos + 1 : ℕ)
    stop := (pos + 1 : ℕ) + text.length
    size := size }

mutual

/-- The tokens of a value whose text starts at the position. -/
def JsonTree.tokens : JsonTree → (pos : Nat) → List JsmnTok
  | .primitive text _, pos =>
      [{ type := .primitive
         start := pos
         stop := pos + text.length
         size := 0 }]
  | .string text _, pos => [stringToken text pos 0]
  | .bracket kind entries, pos =>
      { type := kind.type
        start := pos
        stop := (pos + 1 + (entries.text []).length : ℕ) + 1
        size := entries.count } :: entries.tokens [] (pos + 1)
  | .padded before _ tree _ _, pos => tree.tokens (pos + before.length)

def JsonEntries.tokens : JsonEntries → (lead : Bytes) → (pos : Nat) →
    List JsmnTok
  | .close .., _, _ => []
  | .value tree rest, lead, pos =>
      tree.tokens (pos + lead.length) ++
        rest.tokens [byte ','] (pos + lead.length + tree.text.length)
  | .member key tree rest, lead, pos =>
      stringToken key.name (pos + lead.length + key.before.length) 1 ::
        (tree.tokens (pos + lead.length + key.text.length + 1) ++
          rest.tokens [byte ',']
            (pos + lead.length + key.text.length + 1 + tree.text.length))

end

theorem StringText.of_plain {text : Bytes} (plain : JsonValue.Plain text) :
    StringText text := by
  induction text with
  | nil => exact .nil
  | cons c text induction =>
      obtain ⟨printable, notQuote, notEscape⟩ := plain c List.mem_cons_self
      have notNul : c ≠ 0 := by
        intro nul
        subst nul
        exact absurd printable (by decide)
      exact .plain notNul notQuote notEscape (induction fun other listed =>
        plain other (List.mem_cons_of_mem _ listed))

theorem gap_nil : Gap [] := fun _ listed => absurd listed List.not_mem_nil

/-- A name without escapes, and without blanks around it. -/
def JsonKey.ofPlain {name : Bytes} (plain : JsonValue.Plain name) : JsonKey where
  before := []
  blankBefore := gap_nil
  name := name
  grammar := .of_plain plain
  after := []
  blankAfter := gap_nil

/-- No entry. -/
def JsonEntries.nothing : JsonEntries := .close [] gap_nil

theorem JsmnTok.closed_of_nonneg {token : JsmnTok} (ends : 0 ≤ token.stop) :
    token.isOpen = false := by
  have notOpen : (token.stop == -1) = false := by
    rw [beq_eq_false_iff_ne]
    omega
  rw [isOpen, notOpen, Bool.and_false]

mutual

theorem JsonTree.tokens_closed (tree : JsonTree) (pos : Nat) :
    ∀ token ∈ tree.tokens pos, token.isOpen = false := by
  cases tree with
  | primitive text grammar =>
      rw [JsonTree.tokens, List.forall_mem_singleton]
      exact JsmnTok.closed_of_nonneg (by simp only; omega)
  | string text grammar =>
      rw [JsonTree.tokens, List.forall_mem_singleton]
      exact JsmnTok.closed_of_nonneg (by simp only [stringToken]; omega)
  | bracket kind entries =>
      rw [JsonTree.tokens, List.forall_mem_cons]
      refine ⟨?_, entries.tokens_closed [] (pos + 1)⟩
      exact JsmnTok.closed_of_nonneg (by simp only; omega)
  | padded before blankBefore tree after blankAfter =>
      exact tree.tokens_closed _

theorem JsonEntries.tokens_closed (entries : JsonEntries) (lead : Bytes)
    (pos : Nat) : ∀ token ∈ entries.tokens lead pos, token.isOpen = false := by
  cases entries with
  | close gap blank => simp [JsonEntries.tokens]
  | value tree rest =>
      rw [JsonEntries.tokens, List.forall_mem_append]
      exact ⟨tree.tokens_closed _, rest.tokens_closed _ _⟩
  | member key tree rest =>
      rw [JsonEntries.tokens, List.forall_mem_cons, List.forall_mem_append]
      refine ⟨?_, tree.tokens_closed _, rest.tokens_closed _ _⟩
      exact JsmnTok.closed_of_nonneg (by simp only [stringToken]; omega)

end

/-! ### Behind a value -/

theorem endsPrimitive_of_gap {gap behind : Bytes} (blank : Gap gap)
    (ends : EndsPrimitive behind) : EndsPrimitive (gap ++ behind) := by
  cases gap with
  | nil => exact ends
  | cons c gap =>
      intro other first
      cases first
      right
      have space := blank c List.mem_cons_self
      simp only [JsonValue.isSpace, bytes, List.contains_iff_mem] at space
      rw [isPrimitiveEnd, List.contains_iff_mem]
      revert space
      simp [bytes]
      tauto

theorem endsPrimitive_cons {c : UInt8} (ends : isPrimitiveEnd c = true)
    (behind : Bytes) : EndsPrimitive (c :: behind) := by
  intro other first
  cases first
  exact Or.inr ends

theorem Bracket.closing_ends (kind : Bracket) :
    isPrimitiveEnd kind.closing = true := by
  cases kind <;> decide

theorem JsonEntries.ends (entries : JsonEntries) {behind : Bytes}
    (ends : EndsPrimitive behind) :
    EndsPrimitive (entries.text [byte ','] ++ behind) := by
  have comma : isPrimitiveEnd (byte ',') = true := by decide
  cases entries with
  | close gap blank => exact endsPrimitive_of_gap blank ends
  | value tree rest => exact endsPrimitive_cons comma _
  | member key tree rest => exact endsPrimitive_cons comma _

/-! ### The rest of a run -/

/-- What the loop makes of the text behind its position. -/
def jsmnRest (numTokens : Nat) (js : Bytes) (parser : JsmnParser) :
    Except JsmnErr JsmnParser :=
  jsmnLoop numTokens js (js.length - parser.pos) parser

section Rest

variable {numTokens : Nat} {js : Bytes} {parser after : JsmnParser}

/-- Every round goes on in the text. -/
theorem jsmnRound_advances {c : UInt8} {rest : Bytes} (notNul : c ≠ 0)
    (round : jsmnRound numTokens c rest parser = .ok after) :
    parser.pos < after.pos := by
  have adds_pos {type : JsmnType} {start length next : Nat}
      (added : leaf numTokens type start length next parser = .ok after) :
      after.pos = next := by
    rw [leaf, jsmn_bind_eq_ok] at added
    obtain ⟨_, -, equality⟩ := added
    cases equality
    rfl
  cases jsmnRound_cases notNul round with
  | opened brackets opens =>
      rw [openBracket, jsmn_bind_eq_ok] at opens
      obtain ⟨_, -, equality⟩ := opens
      cases equality
      exact Nat.lt_succ_self _
  | closed brackets closes =>
      unfold closeBracket at closes
      split at closes
      · cases closes
      · split at closes <;> cases closes
        exact Nat.lt_succ_self _
  | string quote parts grammar adds =>
      rw [adds_pos adds]
      omega
  | skipped moved same => omega
  | primitive parts grammar ends adds =>
      rw [adds_pos adds]
      have nonempty := List.length_pos_iff.mpr grammar.nonempty
      omega

/-- One unit of fuel for each byte is enough. -/
theorem jsmnLoop_enough {fuel more : Nat}
    (enough : js.length - parser.pos ≤ fuel)
    (larger : js.length - parser.pos ≤ more) :
    jsmnLoop numTokens js fuel parser = jsmnLoop numTokens js more parser := by
  induction fuel generalizing more parser with
  | zero =>
      cases more with
      | zero => rfl
      | succ more =>
          have ended : js.drop parser.pos = [] :=
            List.drop_eq_nil_of_le (by omega)
          rw [jsmnLoop, jsmnLoop, ended]
  | succ fuel induction =>
      cases text : js.drop parser.pos with
      | nil =>
          cases more with
          | zero => rw [jsmnLoop, jsmnLoop, text]
          | succ more => rw [jsmnLoop, jsmnLoop, text]
      | cons c rest =>
          have remains := congrArg List.length text
          rw [List.length_drop, List.length_cons] at remains
          obtain ⟨more, rfl⟩ := Nat.exists_eq_add_of_le'
            (show 1 ≤ more by omega)
          rw [jsmnLoop, jsmnLoop, text]
          by_cases nul : c = 0
          · simp only [if_pos nul]
          · simp only [if_neg nul]
            cases round : jsmnRound numTokens c rest parser with
            | error err => rfl
            | ok between =>
                have advances := jsmnRound_advances nul round
                exact induction (by omega) (by omega)

theorem jsmnRest_of_end (ended : js.drop parser.pos = [] ∨
    (js.drop parser.pos).head? = some 0) :
    jsmnRest numTokens js parser = .ok parser := by
  rw [jsmnRest]
  cases js.length - parser.pos with
  | zero => rfl
  | succ fuel =>
      rw [jsmnLoop]
      cases text : js.drop parser.pos with
      | nil => rfl
      | cons c rest =>
          rw [text] at ended
          obtain rfl : c = 0 := by simpa using ended
          rfl

theorem jsmnRest_of_error {c : UInt8} {rest : Bytes} {err : JsmnErr}
    (text : js.drop parser.pos = c :: rest) (notNul : c ≠ 0)
    (round : jsmnRound numTokens c rest parser = .error err) :
    jsmnRest numTokens js parser = .error err := by
  have remains := congrArg List.length text
  rw [List.length_drop, List.length_cons] at remains
  rw [jsmnRest, remains, jsmnLoop, text]
  simp only [if_neg notNul, round]
  rfl

theorem jsmnRest_of_ok {c : UInt8} {rest : Bytes}
    (text : js.drop parser.pos = c :: rest) (notNul : c ≠ 0)
    (round : jsmnRound numTokens c rest parser = .ok after) :
    jsmnRest numTokens js parser = jsmnRest numTokens js after := by
  have remains := congrArg List.length text
  have advances := jsmnRound_advances notNul round
  rw [List.length_drop, List.length_cons] at remains
  rw [jsmnRest, remains, jsmnLoop, text]
  simp only [if_neg notNul, round]
  exact jsmnLoop_enough (by omega) (Nat.le_refl _)

/-! ### One round -/

theorem jsmnRound_opening (kind : Bracket) (rest : Bytes) :
    jsmnRound numTokens kind.opening rest parser =
      openBracket numTokens kind.type parser := by
  cases kind <;> rfl

theorem jsmnRound_closing (kind : Bracket) (rest : Bytes) :
    jsmnRound numTokens kind.closing rest parser =
      closeBracket kind.type parser := by
  cases kind <;> rfl

theorem jsmnRound_quote (rest : Bytes) :
    jsmnRound numTokens (byte '"') rest parser =
      stringRun (rest.length + 1) rest >>= fun length =>
        leaf numTokens .string (parser.pos + 1) length
          (parser.pos + length + 2) parser := rfl

theorem jsmnRound_colon (rest : Bytes) :
    jsmnRound numTokens (byte ':') rest parser =
      .ok { parser with
            pos := parser.pos + 1
            toksuper := if parser.tokens = [] then none
              else some (parser.tokens.length - 1) } := rfl

theorem jsmnRound_comma (rest : Bytes) :
    jsmnRound numTokens (byte ',') rest parser = .ok (comma parser) := rfl

theorem jsmnRound_space {c : UInt8} (space : JsonValue.isSpace c = true)
    (rest : Bytes) :
    jsmnRound numTokens c rest parser =
      .ok { parser with pos := parser.pos + 1 } := by
  have same : c = byte ' ' ∨ c = byte '\t' ∨ c = byte '\n' ∨ c = byte '\r' := by
    simpa [JsonValue.isSpace, bytes] using space
  rcases same with rfl | rfl | rfl | rfl <;> rfl

theorem jsmnRound_primitive {c : UInt8} (plain : isStructural c = false)
    (rest : Bytes) :
    jsmnRound numTokens c rest parser =
      primitiveRun (c :: rest) >>= fun length =>
        leaf numTokens .primitive parser.pos length (parser.pos + length)
          parser := by
  rw [← Bool.not_eq_true, isStructural_iff] at plain
  simp only [not_or] at plain
  obtain ⟨noBrace, noBracket, noClosingBrace, noClosingBracket, noQuote,
    noSpace, noColon, noComma⟩ := plain
  rw [jsmnRound, if_neg noBrace, if_neg noBracket, if_neg noClosingBrace,
    if_neg noClosingBracket, if_neg noQuote, if_neg noSpace, if_neg noColon,
    if_neg noComma]

/-- The superior token is among those that have been allocated. -/
def Allocated (toksuper : Option Nat) (tokens : List JsmnTok) : Prop :=
  ∀ index ∈ toksuper, index < tokens.length

theorem length_countChild (toksuper : Option Nat) (tokens : List JsmnTok) :
    (countChild toksuper tokens).length = tokens.length := by
  cases toksuper with
  | none => rfl
  | some index => simp [countChild]

theorem countChild_append {toksuper : Option Nat} {tokens : List JsmnTok}
    (allocated : Allocated toksuper tokens) (more : List JsmnTok) :
    countChild toksuper (tokens ++ more) =
      countChild toksuper tokens ++ more := by
  cases toksuper with
  | none => rfl
  | some index =>
      have within := allocated index rfl
      rw [countChild, countChild, List.modify_eq_take_cons_drop within,
        List.modify_eq_take_cons_drop (by rw [List.length_append]; omega),
        List.take_append_of_le_length within.le,
        List.drop_append_of_le_length within, List.getElem_append_left within]
      simp

theorem lastIndex_countChild (toksuper : Option Nat)
    (tokens : List JsmnTok) :
    lastIndex JsmnTok.isOpen (countChild toksuper tokens) =
      lastIndex JsmnTok.isOpen tokens := by
  have placed (list : List JsmnTok) : lastIndex JsmnTok.isOpen list =
      lastIndex JsmnTok.isOpen (list.map JsmnTok.place) := by
    rw [lastIndex, lastIndex, ← List.map_reverse, List.findIdx?_map,
      List.length_map]
    rfl
  rw [placed, map_place_countChild, ← placed]

/-- A round that allocates a token for a string or a primitive. -/
theorem jsmnRest_leaf {c : UInt8} {rest : Bytes} {type : JsmnType}
    {start length next : Nat} (text : js.drop parser.pos = c :: rest)
    (notNul : c ≠ 0)
    (round : jsmnRound numTokens c rest parser =
      leaf numTokens type start length next parser)
    (allocated : Allocated parser.toksuper parser.tokens) :
    jsmnRest numTokens js parser =
      if parser.tokens.length + 1 ≤ numTokens then
        jsmnRest numTokens js
          { pos := next
            toksuper := parser.toksuper
            tokens := countChild parser.toksuper parser.tokens ++
              [{ type := type
                 start := start
                 stop := start + length
                 size := 0 }] }
      else .error .noMem := by
  split
  · rename_i fits
    apply jsmnRest_of_ok text notNul
    rw [round, leaf, allocToken, if_pos (by omega),
      ← countChild_append allocated]
    rfl
  · rename_i full
    apply jsmnRest_of_error text notNul
    rw [round, leaf, allocToken, if_neg (by omega)]
    rfl

theorem jsmnRest_gap {gap behind : Bytes} {pos : Nat}
    {toksuper : Option Nat} {tokens : List JsmnTok} (blank : Gap gap)
    (text : js.drop pos = gap ++ behind) :
    jsmnRest numTokens js
        { pos := pos, toksuper := toksuper, tokens := tokens } =
      jsmnRest numTokens js
        { pos := pos + gap.length, toksuper := toksuper, tokens := tokens } := by
  induction gap generalizing pos with
  | nil => rfl
  | cons c gap induction =>
      have space := blank c List.mem_cons_self
      have notNul : c ≠ 0 := by
        intro nul
        subst nul
        revert space
        decide
      have later : js.drop (pos + 1) = gap ++ behind :=
        @drop_behind js [c] _ pos text
      rw [jsmnRest_of_ok text notNul (jsmnRound_space space _),
        induction (fun other listed =>
          blank other (List.mem_cons_of_mem _ listed)) later,
        List.length_cons]
      congr 2
      omega

/-! ### One value -/

theorem jsmnRest_string {text behind : Bytes} (grammar : StringText text)
    (here : js.drop parser.pos = inQuotes text ++ behind)
    (allocated : Allocated parser.toksuper parser.tokens) :
    jsmnRest numTokens js parser =
      if parser.tokens.length + 1 ≤ numTokens then
        jsmnRest numTokens js
          { pos := parser.pos + (inQuotes text).length
            toksuper := parser.toksuper
            tokens := countChild parser.toksuper parser.tokens ++
              [stringToken text parser.pos 0] }
      else .error .noMem := by
  have split_ : js.drop parser.pos =
      byte '"' :: (text ++ byte '"' :: behind) := by
    simpa [inQuotes] using here
  have quote : byte '"' ≠ 0 := by decide
  have run : stringRun ((text ++ byte '"' :: behind).length + 1)
      (text ++ byte '"' :: behind) = .ok text.length := by
    apply stringRun_of_stringText grammar
    rw [List.length_append]
    omega
  have round := @jsmnRound_quote numTokens parser (text ++ byte '"' :: behind)
  rw [run] at round
  have next : parser.pos + (inQuotes text).length =
      parser.pos + text.length + 2 := by
    simp [inQuotes, Nat.add_assoc]
  rw [next]
  exact jsmnRest_leaf split_ quote round allocated

theorem jsmnRest_primitive {text behind : Bytes} (grammar : PrimitiveText text)
    (ends : EndsPrimitive behind)
    (here : js.drop parser.pos = text ++ behind)
    (allocated : Allocated parser.toksuper parser.tokens) :
    jsmnRest numTokens js parser =
      if parser.tokens.length + 1 ≤ numTokens then
        jsmnRest numTokens js
          { pos := parser.pos + text.length
            toksuper := parser.toksuper
            tokens := countChild parser.toksuper parser.tokens ++
              [{ type := .primitive
                 start := parser.pos
                 stop := parser.pos + text.length
                 size := 0 }] }
      else .error .noMem := by
  have run := primitiveRun_of_bytes grammar.inside ends
  obtain ⟨nonempty, inside, starts⟩ := grammar
  cases text with
  | nil => exact absurd rfl nonempty
  | cons c text =>
      have notNul : c ≠ 0 := by
        intro nul
        have first := inside c List.mem_cons_self
        rw [nul] at first
        revert first
        decide
      have round := @jsmnRound_primitive numTokens parser c (starts c rfl)
        (text ++ behind)
      rw [← List.cons_append, run] at round
      exact jsmnRest_leaf here notNul round allocated

theorem jsmnRest_close {kind : Bracket} {behind : Bytes} {pos : Nat}
    {toksuper : Option Nat} {before inside : List JsmnTok} {token : JsmnTok}
    (here : js.drop pos = kind.closing :: behind)
    (type : token.type = kind.type) (isOpen : token.isOpen = true)
    (closed : ∀ other ∈ inside, other.isOpen = false) :
    jsmnRest numTokens js
        { pos := pos
          toksuper := toksuper
          tokens := before ++ token :: inside } =
      jsmnRest numTokens js
        { pos := pos + 1
          toksuper := lastIndex JsmnTok.isOpen before
          tokens := before ++ token.closedAt pos :: inside } := by
  have notNul : kind.closing ≠ 0 := by
    cases kind <;> decide
  apply jsmnRest_of_ok here notNul
  rw [jsmnRound_closing, closeBracket]
  simp only [@lastIndex_append_cons _ before inside token isOpen closed]
  have sameType : Option.any (fun other => other.type == kind.type)
      (before ++ token :: inside)[before.length]? = true := by
    simp [type]
  rw [if_pos sameType]
  simp only [modify_append_cons, List.take_left]
  rfl

/-- The bracket or the comma in front of an entry. -/
inductive Leads (before inside : List JsmnTok) (token : JsmnTok) :
    Bytes → Nat → Prop where
  | bracket : Leads before inside token [] before.length
  | comma : Leads before inside token [byte ','] before.length
  | name {index : Nat} {name : JsmnTok}
      (listed : (before ++ token :: inside)[index]? = some name)
      (string : name.type = .string) : Leads before inside token [byte ','] index

/-- Behind a comma the superior token is the bracket again. -/
theorem jsmnRest_lead {kind : Bracket} {lead behind : Bytes}
    {pos super : Nat} {before inside : List JsmnTok} {token : JsmnTok}
    (leads : Leads before inside token lead super)
    (here : js.drop pos = lead ++ behind)
    (type : token.type = kind.type) (isOpen : token.isOpen = true)
    (closed : ∀ other ∈ inside, other.isOpen = false) :
    jsmnRest numTokens js
        { pos := pos
          toksuper := some super
          tokens := before ++ token :: inside } =
      jsmnRest numTokens js
        { pos := pos + lead.length
          toksuper := some before.length
          tokens := before ++ token :: inside } := by
  have notNul : byte ',' ≠ 0 := by decide
  have isBracket : (token.type == .array || token.type == .object) = true := by
    rw [type]
    cases kind <;> rfl
  cases leads with
  | bracket => rfl
  | comma =>
      apply jsmnRest_of_ok here notNul
      rw [jsmnRound_comma, comma]
      simp [isBracket]
  | name listed string =>
      have back := @lastIndex_append_cons
        (fun token => (token.type == .array || token.type == .object) &&
          token.isOpen) before inside token (by simp [isBracket, isOpen])
        (fun other member => by simp [closed other member])
      apply jsmnRest_of_ok here notNul
      rw [jsmnRound_comma, comma]
      simp [listed, string, back]

/-! ### The whole document -/

/-- The token with so many children more. -/
def JsmnTok.counted (token : JsmnTok) (children : Nat) : JsmnTok :=
  { token with size := token.size + children }

theorem JsmnTok.counted_counted (token : JsmnTok) (first second : Nat) :
    (token.counted first).counted second = token.counted (second + first) := by
  simp only [counted, JsmnTok.mk.injEq, true_and]
  omega

theorem countChild_bracket (before inside : List JsmnTok) (token : JsmnTok) :
    countChild (some before.length) (before ++ token :: inside) =
      before ++ token.counted 1 :: inside :=
  modify_append_cons _

theorem countChild_last (before inside : List JsmnTok)
    (token last : JsmnTok) :
    countChild (some (before ++ token :: inside).length)
        (before ++ token :: (inside ++ [last])) =
      before ++ token :: (inside ++ [last.counted 1]) := by
  have parts (other : JsmnTok) : before ++ token :: (inside ++ [other]) =
      (before ++ token :: inside) ++ [other] := by simp
  rw [parts, parts, countChild_bracket]

theorem JsonTree.tokens_length_pos (tree : JsonTree) (pos : Nat) :
    0 < (tree.tokens pos).length := by
  cases tree with
  | primitive text grammar => exact Nat.one_pos
  | string text grammar => exact Nat.one_pos
  | bracket kind entries => exact Nat.succ_pos _
  | padded before blankBefore tree after blankAfter =>
      exact tree.tokens_length_pos _

/-- The tokens of a value are added, with the value as a child of the superior
token, unless they are too many. -/
def RunsValue (numTokens : Nat) (js : Bytes) (tree : JsonTree) : Prop :=
  ∀ (parser : JsmnParser) (behind : Bytes),
    js.drop parser.pos = tree.text ++ behind → EndsPrimitive behind →
    Allocated parser.toksuper parser.tokens →
    ∃ super, (super = parser.toksuper ∨
        super = lastIndex JsmnTok.isOpen parser.tokens) ∧
      jsmnRest numTokens js parser =
        if parser.tokens.length + (tree.tokens parser.pos).length ≤ numTokens
        then
          jsmnRest numTokens js
            { pos := parser.pos + tree.text.length
              toksuper := super
              tokens := countChild parser.toksuper parser.tokens ++
                tree.tokens parser.pos }
        else .error .noMem

/-- The tokens of the entries are added behind those of their bracket, which
counts the entries, unless they are too many. -/
def RunsEntries (numTokens : Nat) (js : Bytes) (entries : JsonEntries) : Prop :=
  ∀ (kind : Bracket) (lead behind : Bytes) (pos super : Nat)
    (before inside : List JsmnTok) (token : JsmnTok),
    Leads before inside token lead super →
    js.drop pos = entries.text lead ++ behind → EndsPrimitive behind →
    token.type = kind.type → token.isOpen = true →
    (∀ other ∈ inside, other.isOpen = false) →
    before.length + 1 + inside.length ≤ numTokens →
    ∃ last, jsmnRest numTokens js
        { pos := pos
          toksuper := some super
          tokens := before ++ token :: inside } =
      if before.length + 1 + inside.length +
          (entries.tokens lead pos).length ≤ numTokens then
        jsmnRest numTokens js
          { pos := pos + (entries.text lead).length
            toksuper := last
            tokens := before ++ token.counted entries.count ::
              (inside ++ entries.tokens lead pos) }
      else .error .noMem

theorem runsValue_bracket {kind : Bracket} {entries : JsonEntries}
    (runs : RunsEntries numTokens js entries) :
    RunsValue numTokens js (.bracket kind entries) := by
  intro parser behind here ends allocated
  refine ⟨_, Or.inr rfl, ?_⟩
  have notNul : kind.opening ≠ 0 := by
    cases kind <;> decide
  have opens : js.drop parser.pos =
      kind.opening :: (entries.text [] ++ kind.closing :: behind) := by
    simpa [JsonTree.text] using here
  have inner : js.drop (parser.pos + 1) =
      entries.text [] ++ kind.closing :: behind :=
    @drop_behind js [kind.opening] _ parser.pos opens
  have round := @jsmnRound_opening numTokens parser kind
    (entries.text [] ++ kind.closing :: behind)
  by_cases full : numTokens ≤ parser.tokens.length
  · rw [openBracket, allocToken, if_neg (by omega)] at round
    rw [jsmnRest_of_error opens notNul round, if_neg]
    simp only [JsonTree.tokens, List.length_cons]
    omega
  · rw [openBracket, allocToken, if_pos (by omega)] at round
    have opened := jsmnRest_of_ok opens notNul round
    have length := length_countChild parser.toksuper parser.tokens
    rw [countChild_append allocated] at opened
    have isOpen : JsmnTok.isOpen
        { type := kind.type, start := parser.pos, stop := -1, size := 0 } =
          true := by
      have nonneg : (parser.pos : Int) ≠ -1 := by omega
      simp [JsmnTok.isOpen, nonneg]
    have fits : (countChild parser.toksuper parser.tokens).length + 1 +
        ([] : List JsmnTok).length ≤ numTokens := by
      rw [length, List.length_nil]
      omega
    obtain ⟨last, inside⟩ := runs kind [] (kind.closing :: behind)
      (parser.pos + 1) parser.tokens.length
      (countChild parser.toksuper parser.tokens) []
      { type := kind.type, start := parser.pos, stop := -1, size := 0 }
      (length ▸ .bracket) inner (endsPrimitive_cons kind.closing_ends behind)
      rfl isOpen (by simp) fits
    have count : (countChild parser.toksuper parser.tokens).length + 1 +
        ([] : List JsmnTok).length +
          (entries.tokens [] (parser.pos + 1)).length =
        parser.tokens.length +
          ((JsonTree.bracket kind entries).tokens parser.pos).length := by
      rw [length, JsonTree.tokens, List.length_cons, List.length_nil]
      omega
    rw [opened, inside, count]
    by_cases room : parser.tokens.length +
        ((JsonTree.bracket kind entries).tokens parser.pos).length ≤ numTokens
    · rw [if_pos room, if_pos room, List.nil_append]
      have closes := drop_behind inner
      have closed := @jsmnRest_close numTokens js kind behind _ last
        (countChild parser.toksuper parser.tokens)
        (entries.tokens [] (parser.pos + 1))
        (JsmnTok.counted
          { type := kind.type, start := parser.pos, stop := -1, size := 0 }
          entries.count)
        closes rfl isOpen (entries.tokens_closed _ _)
      rw [closed, lastIndex_countChild]
      have moved : parser.pos + 1 + (entries.text []).length + 1 =
          parser.pos + (JsonTree.bracket kind entries).text.length := by
        simp only [JsonTree.text, List.length_cons, List.length_append,
          List.length_nil]
        omega
      rw [moved]
      congr 2
      simp [JsonTree.tokens, JsmnTok.counted, JsmnTok.closedAt]
    · rw [if_neg room, if_neg room]

theorem runsValue_padded {before after : Bytes} {tree : JsonTree}
    {blankBefore : Gap before} {blankAfter : Gap after}
    (runs : RunsValue numTokens js tree) :
    RunsValue numTokens js
      (.padded before blankBefore tree after blankAfter) := by
  intro parser behind here ends allocated
  have opens : js.drop parser.pos =
      before ++ (tree.text ++ (after ++ behind)) := by
    simpa [JsonTree.text] using here
  have inner := drop_behind opens
  have skips := @jsmnRest_gap numTokens js before _ parser.pos parser.toksuper
    parser.tokens blankBefore opens
  obtain ⟨super, innermost, run⟩ := runs
    { parser with pos := parser.pos + before.length } _ inner
    (endsPrimitive_of_gap blankAfter ends) allocated
  refine ⟨super, innermost, ?_⟩
  have skipsBehind := @jsmnRest_gap numTokens js after behind
    (parser.pos + before.length + tree.text.length) super
    (countChild parser.toksuper parser.tokens ++
      tree.tokens (parser.pos + before.length)) blankAfter (drop_behind inner)
  have moved : parser.pos + before.length + tree.text.length + after.length =
      parser.pos + (JsonTree.padded before blankBefore tree after
        blankAfter).text.length := by
    simp only [JsonTree.text, List.length_append]
    omega
  rw [skips, run, skipsBehind, moved]
  rfl

/-- A value with the comma or the bracket in front of it is one more child of
the bracket. -/
theorem runsEntries_value {tree : JsonTree} {rest : JsonEntries}
    (runs : RunsValue numTokens js tree)
    (later : RunsEntries numTokens js rest) :
    RunsEntries numTokens js (.value tree rest) := by
  intro kind lead behind pos super before inside token leads here ends type
    isOpen closed fits
  have opens : js.drop pos =
      lead ++ (tree.text ++ (rest.text [byte ','] ++ behind)) := by
    simpa [JsonEntries.text] using here
  have inner := drop_behind opens
  have innermost := @lastIndex_append_cons JsmnTok.isOpen before inside token
    isOpen closed
  obtain ⟨after, sameSuper, run⟩ := runs
    { pos := pos + lead.length
      toksuper := some before.length
      tokens := before ++ token :: inside } _ inner (rest.ends ends)
    (by simp [Allocated])
  have onBracket : after = some before.length := by
    rcases sameSuper with same | same
    · exact same
    · exact same.trans innermost
  subst onBracket
  have first : (before ++ token :: inside).length =
      before.length + 1 + inside.length := by
    rw [List.length_append, List.length_cons]
    omega
  rw [jsmnRest_lead leads opens type isOpen closed, run]
  simp only [countChild_bracket, List.append_assoc, List.cons_append, first]
  by_cases room : before.length + 1 + inside.length +
      (tree.tokens (pos + lead.length)).length ≤ numTokens
  · obtain ⟨last, runLater⟩ := later kind [byte ','] behind
      (pos + lead.length + tree.text.length) before.length before
      (inside ++ tree.tokens (pos + lead.length)) (token.counted 1) .comma
      (drop_behind inner) ends type isOpen
      (List.forall_mem_append.mpr ⟨closed, tree.tokens_closed _⟩)
      (by rw [List.length_append]; omega)
    refine ⟨last, ?_⟩
    rw [if_pos room, runLater, JsonEntries.tokens, JsonEntries.text,
      JsonEntries.count, JsmnTok.counted_counted]
    simp only [List.length_append, List.append_assoc, Nat.add_assoc]
  · refine ⟨none, ?_⟩
    rw [if_neg room, if_neg]
    rw [JsonEntries.tokens, List.length_append]
    omega

/-- Behind the colon the name is the superior token. -/
theorem jsmnRest_key {key : JsonKey} {kind : Bracket} {lead behind : Bytes}
    {pos super : Nat} {before inside : List JsmnTok} {token : JsmnTok}
    (leads : Leads before inside token lead super)
    (here : js.drop pos = lead ++ (key.text ++ byte ':' :: behind))
    (type : token.type = kind.type) (isOpen : token.isOpen = true)
    (closed : ∀ other ∈ inside, other.isOpen = false) :
    jsmnRest numTokens js
        { pos := pos
          toksuper := some super
          tokens := before ++ token :: inside } =
      if before.length + 1 + inside.length + 1 ≤ numTokens then
        jsmnRest numTokens js
          { pos := pos + lead.length + key.text.length + 1
            toksuper := some (before ++ token.counted 1 :: inside).length
            tokens := before ++ token.counted 1 :: (inside ++ [stringToken
              key.name (pos + lead.length + key.before.length) 0]) }
      else .error .noMem := by
  have opens : js.drop pos = lead ++ (key.before ++ (inQuotes key.name ++
      (key.after ++ byte ':' :: behind))) := by
    simpa [JsonKey.text] using here
  have atGap := drop_behind opens
  have atName := drop_behind atGap
  have atGapBehind := drop_behind atName
  have atColon := drop_behind atGapBehind
  have key_length : pos + lead.length + key.before.length +
      (inQuotes key.name).length + key.after.length =
        pos + lead.length + key.text.length := by
    simp only [JsonKey.text, List.length_append]
    omega
  rw [key_length] at atColon
  have colon : byte ':' ≠ 0 := by decide
  have first : (before ++ token :: inside).length =
      before.length + 1 + inside.length := by
    rw [List.length_append, List.length_cons]
    omega
  rw [jsmnRest_lead leads opens type isOpen closed,
    jsmnRest_gap key.blankBefore atGap,
    jsmnRest_string key.grammar atName (by simp [Allocated])]
  simp only [countChild_bracket, List.append_assoc, List.cons_append, first]
  split
  · rw [jsmnRest_gap key.blankAfter atGapBehind, key_length,
      jsmnRest_of_ok atColon colon (jsmnRound_colon _)]
    simp
  · rfl

/-- Behind a name, the value is its only child, and the name one more child of
the bracket. -/
theorem runsEntries_member {key : JsonKey} {tree : JsonTree}
    {rest : JsonEntries} (runs : RunsValue numTokens js tree)
    (later : RunsEntries numTokens js rest) :
    RunsEntries numTokens js (.member key tree rest) := by
  intro kind lead behind pos super before inside token leads here ends type
    isOpen closed fits
  have opens : js.drop pos = lead ++ (key.text ++
      byte ':' :: (tree.text ++ (rest.text [byte ','] ++ behind))) := by
    simpa [JsonEntries.text] using here
  have atColon := drop_behind (drop_behind opens)
  have atValue := @drop_behind js [byte ':'] _ _ atColon
  rw [jsmnRest_key leads opens type isOpen closed]
  have named (size : Nat) : (stringToken key.name
      (pos + lead.length + key.before.length) size).isOpen = false :=
    JsmnTok.closed_of_nonneg (by simp only [stringToken]; omega)
  have innermost := @lastIndex_append_cons JsmnTok.isOpen before
    (inside ++ [stringToken key.name
      (pos + lead.length + key.before.length) 0]) (token.counted 1) isOpen
    (List.forall_mem_append.mpr
      ⟨closed, List.forall_mem_singleton.mpr (named 0)⟩)
  by_cases roomName : before.length + 1 + inside.length + 1 ≤ numTokens
  · obtain ⟨after, sameSuper, run⟩ := runs
      { pos := pos + lead.length + key.text.length + 1
        toksuper := some (before ++ token.counted 1 :: inside).length
        tokens := before ++ token.counted 1 :: (inside ++ [stringToken key.name
          (pos + lead.length + key.before.length) 0]) } _ atValue
      (rest.ends ends) (by simp [Allocated])
    have total : (before ++ token.counted 1 :: (inside ++ [stringToken key.name
        (pos + lead.length + key.before.length) 0])).length =
          before.length + 1 + inside.length + 1 := by
      simp
      omega
    rw [if_pos roomName, run]
    simp only [countChild_last, total]
    by_cases room : before.length + 1 + inside.length + 1 +
        (tree.tokens (pos + lead.length + key.text.length + 1)).length ≤
          numTokens
    · have leadsBehind : ∃ index, after = some index ∧
          Leads before (inside ++ stringToken key.name
            (pos + lead.length + key.before.length) 1 ::
              tree.tokens (pos + lead.length + key.text.length + 1))
            (token.counted 1) [byte ','] index := by
        rcases sameSuper with onName | onBracket
        · refine ⟨_, onName, @Leads.name _ _ _ _ (stringToken key.name
            (pos + lead.length + key.before.length) 1) ?_ rfl⟩
          rw [← List.cons_append, ← List.append_assoc,
            List.getElem?_append_right (Nat.le_refl _), Nat.sub_self]
          rfl
        · exact ⟨_, onBracket.trans innermost, .comma⟩
      obtain ⟨index, rfl, leadsBehind⟩ := leadsBehind
      obtain ⟨last, runLater⟩ := later kind [byte ','] behind
        (pos + lead.length + key.text.length + 1 + tree.text.length) index
        before _ (token.counted 1) leadsBehind (drop_behind atValue) ends type
        isOpen
        (List.forall_mem_append.mpr ⟨closed,
          List.forall_mem_cons.mpr ⟨named 1, tree.tokens_closed _⟩⟩)
        (by rw [List.length_append, List.length_cons]; omega)
      refine ⟨last, ?_⟩
      have joined : (before ++ token.counted 1 :: (inside ++ [(stringToken
          key.name (pos + lead.length + key.before.length) 0).counted 1])) ++
            tree.tokens (pos + lead.length + key.text.length + 1) =
          before ++ token.counted 1 :: (inside ++ stringToken key.name
            (pos + lead.length + key.before.length) 1 ::
              tree.tokens (pos + lead.length + key.text.length + 1)) := by
        simp [JsmnTok.counted, stringToken]
      rw [if_pos room, joined, runLater, JsonEntries.tokens, JsonEntries.text,
        JsonEntries.count, JsmnTok.counted_counted]
      simp only [List.length_append, List.length_cons, List.append_assoc,
        List.cons_append, Nat.add_assoc, Nat.add_comm 1]
    · refine ⟨none, ?_⟩
      rw [if_neg room, if_neg]
      rw [JsonEntries.tokens, List.length_cons, List.length_append]
      omega
  · refine ⟨none, ?_⟩
    rw [if_neg roomName, if_neg]
    rw [JsonEntries.tokens, List.length_cons]
    omega

theorem runsEntries_close {gap : Bytes} {blank : Gap gap} :
    RunsEntries numTokens js (.close gap blank) := by
  intro kind lead behind pos super before inside token leads here ends type
    isOpen closed fits
  refine ⟨some super, ?_⟩
  rw [jsmnRest_gap blank here, JsonEntries.tokens, List.length_nil, Nat.add_zero,
    if_pos fits, List.append_nil]
  rfl

mutual

theorem JsonTree.runs (tree : JsonTree) : RunsValue numTokens js tree := by
  cases tree with
  | primitive text grammar =>
      intro parser behind here ends allocated
      exact ⟨_, Or.inl rfl, jsmnRest_primitive grammar ends here allocated⟩
  | string text grammar =>
      intro parser behind here ends allocated
      exact ⟨_, Or.inl rfl, jsmnRest_string grammar here allocated⟩
  | bracket kind entries => exact runsValue_bracket entries.runs
  | padded before blankBefore tree after blankAfter =>
      exact runsValue_padded tree.runs

theorem JsonEntries.runs (entries : JsonEntries) :
    RunsEntries numTokens js entries := by
  cases entries with
  | close gap blank => exact runsEntries_close
  | value tree rest => exact runsEntries_value tree.runs rest.runs
  | member key tree rest => exact runsEntries_member tree.runs rest.runs

end

end Rest

/-- A document in front of the end of the text or of a NUL is returned as the
tokens of its tree. -/
theorem jsmnParse_tree (numTokens : Nat) (tree : JsonTree)
    (behind : Bytes) (ends : behind = [] ∨ behind.head? = some 0) :
    jsmnParse numTokens (tree.text ++ behind) =
      if (tree.tokens 0).length ≤ numTokens then .ok (tree.tokens 0)
      else .error .noMem := by
  have delimited : EndsPrimitive behind := by
    intro c first
    rcases ends with empty | nul
    · simp [empty] at first
    · rw [nul] at first
      exact Or.inl (Option.some.inj first).symm
  obtain ⟨super, -, run⟩ := @JsonTree.runs numTokens (tree.text ++ behind) tree
    jsmnInit behind rfl delimited (by simp [Allocated, jsmnInit])
  have loops : jsmnLoop numTokens (tree.text ++ behind)
      (tree.text ++ behind).length jsmnInit =
        jsmnRest numTokens (tree.text ++ behind) jsmnInit := rfl
  have count : jsmnInit.tokens.length + (tree.tokens jsmnInit.pos).length =
      (tree.tokens 0).length := Nat.zero_add _
  rw [jsmnParse, loops, run, count]
  split
  · have ended : (tree.text ++ behind).drop tree.text.length = behind :=
      List.drop_left
    rw [jsmnRest_of_end]
    · have closed : (tree.tokens 0).any JsmnTok.isOpen = false :=
        List.any_eq_false.mpr fun token member => by
          simp [tree.tokens_closed 0 token member]
      simp [bind, Except.bind, jsmnInit, countChild, closed]
    · simpa only [jsmnInit, Nat.zero_add, ended] using ends
  · rfl

theorem JsonTree.fitsInt_tokens (tree : JsonTree)
    (short : tree.text.length < 2 ^ 31) :
    ∀ token ∈ tree.tokens 0, token.FitsInt := by
  have parses := jsmnParse_tree (tree.tokens 0).length tree [] (Or.inl rfl)
  rw [List.append_nil, if_pos (Nat.le_refl _)] at parses
  intro token member
  apply (jsmnParse_within parses token member).fitsInt
  rw [INT_MAX]
  omega

/-- A document in front of the end of the text or of a NUL is returned as the
tokens of its tree in pre-order, each with the number of its children and with
positions of an `int`; if they are more than fit, that is what is returned. -/
theorem jsmnParse_document (numTokens : Nat) (tree : JsonTree)
    (short : tree.text.length < 2 ^ 31) (behind : Bytes)
    (ends : behind = [] ∨ behind.head? = some 0) :
    (jsmnParse numTokens (tree.text ++ behind) =
        if (tree.tokens 0).length ≤ numTokens then .ok (tree.tokens 0)
        else .error .noMem) ∧
      ∀ token ∈ tree.tokens 0, token.FitsInt :=
  ⟨jsmnParse_tree numTokens tree behind ends, tree.fitsInt_tokens short⟩

theorem primitiveText_sampleWord : PrimitiveText (bytes "null") := by
  decide +kernel

theorem gap_sampleSpace : Gap (bytes " ") := by decide +kernel

/-- A word in an array, with a space in front of it. -/
def wordInArray : JsonTree :=
  .bracket .array (.value (.padded (bytes " ") gap_sampleSpace
    (.primitive (bytes "null") primitiveText_sampleWord) [] gap_nil) .nothing)

theorem jsmnParse_document_sample :
    (jsmnParse 1 (wordInArray.text ++ [0, byte '!']) =
        if (wordInArray.tokens 0).length ≤ 1 then .ok (wordInArray.tokens 0)
        else .error .noMem) ∧
      ∀ token ∈ wordInArray.tokens 0, token.FitsInt :=
  jsmnParse_document 1 wordInArray (by decide +kernel) [0, byte '!']
    (Or.inr rfl)

end KvsProducer
