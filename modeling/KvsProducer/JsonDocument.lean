import KvsProducer.JsonMembers
import KvsProducer.Lib.Decimal

/-!
# What a JSON document says

The values that a text spells, by the grammar of JSON: an object is the list of
its members in their order.  Bytes from 0x80 on are parts of encoded characters
and are taken over as they are.
-/

namespace KvsProducer

open Decimal

inductive JsonValue where
  | null
  | boolean (value : Bool)
  | number (value : ℚ)
  | string (text : Bytes)
  | array (items : List JsonValue)
  | object (members : List (Bytes × JsonValue))

namespace JsonValue

/-- Reads something at the start of a text, and tells what is behind it. -/
abbrev Reader (α : Type) := Bytes → Option (α × Bytes)

def isSpace (c : UInt8) : Bool := (bytes " \t\n\r").contains c

def skipSpace (text : Bytes) : Bytes := text.dropWhile isSpace

/-- A character that a value ends before. -/
def isDelimiter (c : UInt8) : Bool := isSpace c || (bytes ",]\x7d").contains c

/-- A character of its own. -/
def expect (wanted : UInt8) (text : Bytes) : Option Bytes :=
  match skipSpace text with
  | [] => none
  | c :: rest => if c = wanted then some rest else none

/-- What stands between two quotes, behind the first one.  Control characters
are not allowed there. -/
def quoted : Reader Bytes
  | [] => none
  | c :: rest =>
      if c = byte '"' then some ([], rest)
      else if c < 32 then none
      else if c = byte '\\' then
        match rest with
        | [] => none
        | escape :: after =>
            if escape < 32 then none
            else (quoted after).map fun (text, behind) =>
              (c :: escape :: text, behind)
      else (quoted rest).map fun (text, behind) => (c :: text, behind)

/-- A string behind its first quote. -/
def readString : Reader Bytes := fun text => do
  let (escaped, behind) ← quoted text
  let text ← unescape escaped
  return (text, behind)

/-- The exponent of a number, behind its `e`. -/
def exponent (text : Bytes) : Option ℤ :=
  match text with
  | [] => none
  | c :: rest =>
      if c = byte '-' then (natural rest).map fun number => -(number : ℤ)
      else if c = byte '+' then (natural rest).map (↑)
      else (natural text).map (↑)

/-- A number that is not negative: no zero stands in front of its digits. -/
def unsignedNumber (text : Bytes) : Option ℚ :=
  let whole := text.takeWhile isDigit
  let isMark (c : UInt8) := c == byte 'e' || c == byte 'E'
  if whole.head? = some (byte '0') ∧ whole ≠ [byte '0'] then none
  else
    match text.dropWhile (!isMark ·) with
    | [] => fraction text
    | _ :: power => do
        let digits ← fraction (text.takeWhile (!isMark ·))
        let power ← exponent power
        return digits * 10 ^ power

def signedNumber (text : Bytes) : Option ℚ :=
  match text with
  | [] => none
  | c :: rest =>
      if c = byte '-' then (unsignedNumber rest).map (-·)
      else unsignedNumber text

/-- A literal name or a number. -/
def readWord : Reader JsonValue := fun text =>
  let word := text.takeWhile (!isDelimiter ·)
  let value :=
    if word = bytes "null" then some .null
    else if word = bytes "true" then some (.boolean true)
    else if word = bytes "false" then some (.boolean false)
    else (signedNumber word).map .number
  value.map fun value => (value, text.dropWhile (!isDelimiter ·))

/-- Items with commas between them, and the closing bracket. -/
def readItems {α : Type} (readItem : Reader α) (close : UInt8) :
    (fuel : Nat) → Reader (List α)
  | 0, _ => none
  | fuel + 1, text => do
      let (item, behind) ← readItem text
      match skipSpace behind with
      | [] => none
      | c :: rest =>
          if c = close then some ([item], rest)
          else if c = byte ',' then do
            let (items, behind) ← readItems readItem close fuel rest
            return (item :: items, behind)
          else none

/-- What stands between two brackets, behind the first one. -/
def readBracket {α : Type} (readItem : Reader α) (close : UInt8) (fuel : Nat) :
    Reader (List α) := fun text =>
  match skipSpace text with
  | [] => none
  | c :: rest =>
      if c = close then some ([], rest)
      else readItems readItem close fuel text

def readMember (readValue : Reader JsonValue) : Reader (Bytes × JsonValue) :=
  fun text => do
    let text ← expect (byte '"') text
    let (name, text) ← readString text
    let text ← expect (byte ':') text
    let (value, behind) ← readValue text
    return ((name, value), behind)

def readValue : (fuel : Nat) → Reader JsonValue
  | 0, _ => none
  | fuel + 1, text =>
      match skipSpace text with
      | [] => none
      | c :: rest =>
          if c = byte '"' then
            (readString rest).map fun (text, behind) => (.string text, behind)
          else if c = byte '\x7b' then
            (readBracket (readMember (readValue fuel)) (byte '\x7d') fuel
              rest).map fun (members, behind) => (.object members, behind)
          else if c = byte '[' then
            (readBracket (readValue fuel) (byte ']') fuel rest).map
              fun (items, behind) => (.array items, behind)
          else readWord (c :: rest)

/-- The whole text spells the value. -/
def Decodes (text : Bytes) (value : JsonValue) : Prop :=
  ∃ fuel behind, readValue fuel text = some (value, behind) ∧
    skipSpace behind = []

/-! ### How values are spelt -/

/-- A byte that stands for itself between quotes. -/
def PlainByte (c : UInt8) : Prop := 32 ≤ c ∧ c ≠ byte '"' ∧ c ≠ byte '\\'

instance (c : UInt8) : Decidable (PlainByte c) :=
  inferInstanceAs (Decidable (_ ∧ _))

/-- A text that stands for itself between quotes. -/
def Plain (text : Bytes) : Prop := ∀ c ∈ text, PlainByte c

instance (text : Bytes) : Decidable (Plain text) :=
  List.decidableBAll PlainByte text

def inQuotes (text : Bytes) : Bytes := byte '"' :: (text ++ [byte '"'])

def Gap (text : Bytes) : Prop := ∀ c ∈ text, isSpace c = true

instance (text : Bytes) : Decidable (Gap text) :=
  List.decidableBAll (fun c => isSpace c = true) text

/-- Nothing follows that could belong to the value in front of it. -/
def Delimited (behind : Bytes) : Prop :=
  ∀ c ∈ behind.head?, isDelimiter c = true

/-- The text is read as the item, whatever follows it. -/
def Spells {α : Type} (readItem : (fuel : Nat) → Reader α) (text : Bytes)
    (item : α) : Prop :=
  ∃ least, ∀ fuel, least ≤ fuel → ∀ behind, Delimited behind →
    readItem fuel (text ++ behind) = some (item, behind)

abbrev SpellsValue := Spells readValue

abbrev SpellsMember := Spells fun fuel => readMember (readValue fuel)

theorem skipSpace_gap {gap : Bytes} (blank : Gap gap) (text : Bytes) :
    skipSpace (gap ++ text) = skipSpace text :=
  List.dropWhile_append_of_pos blank

theorem skipSpace_cons {c : UInt8} (visible : isSpace c = false)
    (text : Bytes) : skipSpace (c :: text) = c :: text :=
  List.dropWhile_cons_of_neg (by simp [visible])

theorem expect_gap {gap : Bytes} (blank : Gap gap) (wanted : UInt8)
    (text : Bytes) : expect wanted (gap ++ text) = expect wanted text := by
  rw [expect, expect, skipSpace_gap blank]

theorem expect_cons {c : UInt8} (visible : isSpace c = false) (text : Bytes) :
    expect c (c :: text) = some text := by
  simp [expect, skipSpace_cons visible]

theorem quoted_quote (behind : Bytes) :
    quoted (byte '"' :: behind) = some ([], behind) := by
  rw [quoted.eq_def]
  exact if_pos rfl

theorem quoted_cons {c : UInt8} (plain : PlainByte c) (text : Bytes) :
    quoted (c :: text) =
      (quoted text).map fun (text, behind) => (c :: text, behind) := by
  obtain ⟨printable, noQuote, noEscape⟩ := plain
  have noControl : ¬ c < 32 := by
    simpa using printable
  rw [quoted.eq_def]
  simp only [if_neg noQuote, if_neg noControl, if_neg noEscape]

theorem quoted_plain {text : Bytes} (plain : Plain text) (behind : Bytes) :
    quoted (text ++ byte '"' :: behind) = some (text, behind) := by
  induction text with
  | nil => exact quoted_quote behind
  | cons c text induction =>
      have later := induction fun other listed =>
        plain other (List.mem_cons_of_mem _ listed)
      rw [List.cons_append, quoted_cons (plain c List.mem_cons_self), later]
      rfl

theorem readString_plain {text : Bytes} (plain : Plain text) (behind : Bytes) :
    readString (text ++ byte '"' :: behind) = some (text, behind) := by
  have noEscape : byte '\\' ∉ text := fun listed => (plain _ listed).2.2 rfl
  simp [readString, quoted_plain plain, unescape_plain noEscape]

theorem digit_unmarked {c : UInt8} (digit : isDigit c = true) :
    isSpace c = false ∧ c ≠ byte '"' ∧ c ≠ byte '\x7b' ∧ c ≠ byte '[' ∧
      isDelimiter c = false ∧ c ≠ byte '-' ∧ c ≠ byte 'e' ∧ c ≠ byte 'E' ∧
      c ≠ byte 'n' ∧ c ≠ byte 't' ∧ c ≠ byte 'f' := by
  revert c
  decide +kernel

theorem signedNumber_spell (value : Nat) :
    signedNumber (spell value) = some (value : ℚ) := by
  have all := all_isDigit_spell value
  have digits := List.all_eq_true.mp all
  have whole : (spell value).takeWhile isDigit = spell value :=
    List.takeWhile_eq_self_iff.mpr digits
  have plain : (spell value).dropWhile
      (fun c => !(c == byte 'e' || c == byte 'E')) = [] := by
    rw [List.dropWhile_eq_nil_iff]
    intro c listed
    obtain ⟨-, -, -, -, -, -, notLower, notUpper, -⟩ :=
      digit_unmarked (digits c listed)
    simp [notLower, notUpper]
  have unsigned : unsignedNumber (spell value) = some (value : ℚ) := by
    have notPadded : ¬ ((spell value).head? = some (byte '0') ∧
        spell value ≠ [byte '0']) := by
      intro ⟨zero, padded⟩
      exact padded (spell_head zero)
    simp only [unsignedNumber, whole, if_neg notPadded, plain]
    rw [fraction, List.dropWhile_eq_nil_iff.mpr digits, whole, natural_spell]
    rfl
  cases spelt : spell value with
  | nil => exact (spell_ne_nil value spelt).elim
  | cons c rest =>
      have noSign : c ≠ byte '-' := by
        obtain ⟨-, -, -, -, -, noSign, -⟩ := digit_unmarked (digits c (by
          rw [spelt]
          exact List.mem_cons_self))
        exact noSign
      rw [signedNumber, if_neg noSign, ← spelt]
      exact unsigned

theorem readWord_spell (value : Nat) {behind : Bytes}
    (delimited : Delimited behind) :
    readWord (spell value ++ behind) = some (.number value, behind) := by
  have digits := List.all_eq_true.mp (all_isDigit_spell value)
  have inside : ∀ c ∈ spell value, (!isDelimiter c) = true := by
    intro c listed
    obtain ⟨-, -, -, -, undelimited, -⟩ := digit_unmarked (digits c listed)
    simp [undelimited]
  have ends : behind.takeWhile (!isDelimiter ·) = [] ∧
      behind.dropWhile (!isDelimiter ·) = behind := by
    cases behind with
    | nil => exact ⟨rfl, rfl⟩
    | cons c rest =>
        have stops := delimited c rfl
        simp [stops]
  have noName {name : Bytes}
      (noDigit : name.head?.map isDigit = some false) :
      spell value ≠ name := by
    intro same
    rw [← same] at noDigit
    obtain ⟨c, head, other⟩ := Option.map_eq_some_iff.mp noDigit
    have digit := digits c (List.mem_of_mem_head? head)
    simp [digit] at other
  rw [readWord, List.takeWhile_append_of_pos inside,
    List.dropWhile_append_of_pos inside, ends.1, ends.2, List.append_nil,
    if_neg (noName rfl), if_neg (noName rfl), if_neg (noName rfl),
    signedNumber_spell]
  rfl

namespace Spells

theorem string {text : Bytes} (plain : Plain text) :
    SpellsValue (inQuotes text) (.string text) := by
  refine ⟨1, ?_⟩
  intro fuel enough behind _
  obtain ⟨fuel, rfl⟩ := Nat.exists_eq_add_of_le' enough
  have quote : isSpace (byte '"') = false := by decide
  simp [inQuotes, readValue, skipSpace_cons quote, readString_plain plain]

theorem gap {gap text : Bytes} {value : JsonValue} (blank : Gap gap)
    (spells : SpellsValue text value) : SpellsValue (gap ++ text) value := by
  obtain ⟨least, reads⟩ := spells
  refine ⟨least, ?_⟩
  intro fuel enough behind delimited
  rw [← reads fuel enough behind delimited, List.append_assoc]
  cases fuel with
  | zero => rfl
  | succ fuel => simp only [readValue, skipSpace_gap blank]

theorem member {gap name text : Bytes} {value : JsonValue} (blank : Gap gap)
    (plain : Plain name) (spells : SpellsValue text value) :
    SpellsMember (gap ++ inQuotes name ++ byte ':' :: text) (name, value) := by
  obtain ⟨least, reads⟩ := spells
  refine ⟨least, ?_⟩
  intro fuel enough behind delimited
  have quote : isSpace (byte '"') = false := by decide
  have colon : isSpace (byte ':') = false := by decide
  have parts : gap ++ inQuotes name ++ byte ':' :: text ++ behind =
      gap ++ byte '"' :: (name ++ byte '"' ::
        (byte ':' :: (text ++ behind))) := by
    simp [inQuotes]
  simp only [parts, readMember, expect_gap blank, expect_cons quote,
    readString_plain plain, expect_cons colon,
    reads fuel enough behind delimited, Option.bind_eq_bind,
    Option.bind_some, Option.pure_def]

theorem number (value : Nat) :
    SpellsValue (spell value) (.number value) := by
  refine ⟨1, ?_⟩
  intro fuel enough behind delimited
  obtain ⟨fuel, rfl⟩ := Nat.exists_eq_add_of_le' enough
  have digits := List.all_eq_true.mp (all_isDigit_spell value)
  cases spelt : spell value with
  | nil => exact (spell_ne_nil value spelt).elim
  | cons c rest =>
      have digit : isDigit c = true := by
        apply digits
        rw [spelt]
        exact List.mem_cons_self
      obtain ⟨visible, notQuote, notBrace, notBracket, -⟩ :=
        digit_unmarked digit
      have word := readWord_spell value delimited
      rw [spelt] at word
      simp only [List.cons_append] at word ⊢
      simp [readValue, skipSpace_cons visible, notQuote, notBrace, notBracket,
        word]

end Spells

/-! ### Lists of items -/

/-- The text is read as the item by this reader, whatever follows it. -/
def ReadAs {α : Type} (readItem : Reader α) (text : Bytes) (item : α) : Prop :=
  ∀ behind, Delimited behind → readItem (text ++ behind) = some (item, behind)

/-- All of the texts are read with the same fuel. -/
theorem Spells.forall₂ {α : Type} {readItem : (fuel : Nat) → Reader α}
    {texts : List Bytes} {items : List α}
    (spells : List.Forall₂ (Spells readItem) texts items) :
    ∃ least, ∀ fuel, least ≤ fuel →
      List.Forall₂ (ReadAs (readItem fuel)) texts items := by
  induction spells with
  | nil => exact ⟨0, fun _ _ => .nil⟩
  | cons first _ induction =>
      obtain ⟨least, reads⟩ := first
      obtain ⟨leastLater, readsLater⟩ := induction
      refine ⟨max least leastLater, ?_⟩
      intro fuel enough
      exact .cons (reads fuel (le_trans (le_max_left _ _) enough))
        (readsLater fuel (le_trans (le_max_right _ _) enough))

/-- A closing bracket. -/
structure Closes (close : UInt8) : Prop where
  delimits : isDelimiter close = true
  visible : isSpace close = false
  notComma : close ≠ byte ','

theorem readItems_intercalate {α : Type} {readItem : Reader α} {close : UInt8}
    {gap text : Bytes} {texts : List Bytes} {item : α} {items : List α}
    {fuel : Nat} (closes : Closes close) (blank : Gap gap)
    (first : ReadAs readItem text item)
    (later : List.Forall₂ (ReadAs readItem) texts items)
    (enough : texts.length < fuel) (behind : Bytes) :
    readItems readItem close fuel
        ([byte ','].intercalate (text :: texts) ++ gap ++ close :: behind) =
      some (item :: items, behind) := by
  induction later generalizing text item fuel with
  | nil =>
      obtain ⟨fuel, rfl⟩ := Nat.exists_eq_add_of_lt enough
      have delimited : Delimited (gap ++ close :: behind) := by
        intro c ahead
        cases gap with
        | nil =>
            obtain rfl : close = c := by simpa using ahead
            exact closes.delimits
        | cons blankByte gap =>
            obtain rfl : blankByte = c := by simpa using ahead
            have space := blank blankByte List.mem_cons_self
            simp [isDelimiter, space]
      simp [readItems, List.intercalate, first _ delimited,
        skipSpace_gap blank, skipSpace_cons closes.visible]
  | cons next rest induction =>
      rename_i nextText nextItem texts items
      obtain ⟨fuel, rfl⟩ := Nat.exists_eq_add_of_le'
        (Nat.one_le_of_lt enough)
      have comma : isSpace (byte ',') = false := by decide
      have delimited (behind : Bytes) : Delimited (byte ',' :: behind) := by
        intro c ahead
        obtain rfl : byte ',' = c := by simpa using ahead
        decide
      have parts : [byte ','].intercalate (text :: nextText :: texts) ++ gap ++
          close :: behind = text ++ byte ',' ::
            ([byte ','].intercalate (nextText :: texts) ++ gap ++
              close :: behind) := by
        simp [List.intercalate]
      have rest := @induction nextText nextItem fuel next
        (Nat.lt_of_succ_lt_succ enough)
      rw [parts, readItems, first _ (delimited _)]
      simp only [Option.bind_eq_bind, Option.bind_some,
        skipSpace_cons comma, if_neg closes.notComma.symm, if_pos, rest]
      rfl

theorem readItems_first {α : Type} {readItem : Reader α} {close : UInt8}
    {fuel : Nat} {text : Bytes} {read : List α × Bytes}
    (reads : readItems readItem close fuel text = some read) :
    ∃ first, readItem text = some first := by
  cases fuel with
  | zero => cases reads
  | succ fuel =>
      obtain ⟨first, readsFirst, -⟩ := Option.bind_eq_some_iff.mp reads
      exact ⟨first, readsFirst⟩

theorem skipSpace_of_readMember {readValue : Reader JsonValue} {text : Bytes}
    {read : (Bytes × JsonValue) × Bytes}
    (reads : readMember readValue text = some read) :
    ∃ rest, skipSpace text = byte '"' :: rest := by
  obtain ⟨rest, expected, -⟩ := Option.bind_eq_some_iff.mp reads
  unfold expect at expected
  split at expected
  · cases expected
  · rename_i c behind skipped
    split at expected
    · rename_i quote
      exact ⟨behind, quote ▸ skipped⟩
    · cases expected

/-- An object is spelt by the texts of its members with commas between them. -/
theorem Spells.object {gap : Bytes} {texts : List Bytes}
    {members : List (Bytes × JsonValue)} (blank : Gap gap)
    (spells : List.Forall₂ SpellsMember texts members) :
    SpellsValue
      (byte '\x7b' :: ([byte ','].intercalate texts ++ gap ++ [byte '\x7d']))
      (.object members) := by
  have closes : Closes (byte '\x7d') := by
    constructor <;> decide
  have opens : isSpace (byte '\x7b') = false := by decide
  have noString : byte '\x7b' ≠ byte '"' := by decide
  obtain ⟨least, reads⟩ := Spells.forall₂ spells
  refine ⟨max least texts.length + 1, ?_⟩
  intro fuel enough behind _
  obtain ⟨fuel, rfl⟩ := Nat.exists_eq_add_of_le' (Nat.one_le_of_lt enough)
  have enoughInside : max least texts.length ≤ fuel :=
    Nat.le_of_succ_le_succ enough
  have read := reads fuel (le_trans (le_max_left _ _) enoughInside)
  have bracket : readBracket (readMember (readValue fuel)) (byte '\x7d') fuel
      ([byte ','].intercalate texts ++ gap ++ byte '\x7d' :: behind) =
        some (members, behind) := by
    cases read with
    | nil =>
        simp [readBracket, List.intercalate, skipSpace_gap blank,
          skipSpace_cons closes.visible]
    | cons first later =>
        rename_i text item texts items
        have whole := readItems_intercalate closes blank first later
          (le_trans (le_max_right least _) enoughInside) behind
        obtain ⟨_, readsFirst⟩ := readItems_first whole
        obtain ⟨rest, skipped⟩ := skipSpace_of_readMember readsFirst
        have noClose : byte '"' ≠ byte '\x7d' := by decide
        rw [readBracket, skipped]
        simp only [if_neg noClose]
        exact whole
  have parts : byte '\x7b' :: ([byte ','].intercalate texts ++ gap ++
      [byte '\x7d']) ++ behind = byte '\x7b' ::
        ([byte ','].intercalate texts ++ gap ++ byte '\x7d' :: behind) := by
    simp
  rw [parts, readValue, skipSpace_cons opens]
  simp only [if_neg noString, if_pos, bracket, Option.map_some]

theorem Spells.decodes {text : Bytes} {value : JsonValue}
    (spells : SpellsValue text value) : Decodes text value := by
  obtain ⟨least, reads⟩ := spells
  have read := reads least (Nat.le_refl _) [] (by simp [Delimited])
  rw [List.append_nil] at read
  exact ⟨least, [], read, rfl⟩

/-! ### A document has one value -/

/-- What is read is read with more fuel and by a reader that reads more. -/
theorem readItems_mono {α : Type} {less more : Reader α} {close : UInt8}
    {fuel larger : Nat} {text : Bytes} {read : List α × Bytes}
    (reads : ∀ text read, less text = some read → more text = some read)
    (enough : fuel ≤ larger)
    (readsItems : readItems less close fuel text = some read) :
    readItems more close larger text = some read := by
  induction fuel generalizing larger text read with
  | zero => cases readsItems
  | succ fuel induction =>
      obtain ⟨larger, rfl⟩ := Nat.exists_eq_add_of_le'
        (Nat.one_le_of_lt enough)
      obtain ⟨⟨item, behind⟩, first, readsItems⟩ :=
        Option.bind_eq_some_iff.mp readsItems
      rw [readItems, reads _ _ first]
      simp only [Option.bind_eq_bind, Option.bind_some] at readsItems ⊢
      split at readsItems
      · cases readsItems
      · split at readsItems
        · rename_i closes
          rw [if_pos closes]
          exact readsItems
        · rename_i open_
          rw [if_neg open_]
          split at readsItems
          · rename_i comma
            rw [if_pos comma]
            obtain ⟨later, readsLater, readsItems⟩ :=
              Option.bind_eq_some_iff.mp readsItems
            rw [induction (Nat.le_of_succ_le_succ enough) readsLater]
            exact readsItems
          · cases readsItems

theorem readBracket_mono {α : Type} {less more : Reader α} {close : UInt8}
    {fuel larger : Nat} {text : Bytes} {read : List α × Bytes}
    (reads : ∀ text read, less text = some read → more text = some read)
    (enough : fuel ≤ larger)
    (readsItems : readBracket less close fuel text = some read) :
    readBracket more close larger text = some read := by
  unfold readBracket at readsItems ⊢
  split at readsItems
  · cases readsItems
  · split at readsItems
    · rename_i closes
      rw [if_pos closes]
      exact readsItems
    · rename_i opened
      rw [if_neg opened]
      exact readItems_mono reads enough readsItems

theorem readMember_mono {less more : Reader JsonValue}
    (reads : ∀ text read, less text = some read → more text = some read)
    (text : Bytes) (read : (Bytes × JsonValue) × Bytes)
    (readsMember : readMember less text = some read) :
    readMember more text = some read := by
  simp only [readMember, Option.bind_eq_bind, Option.bind_eq_some_iff]
    at readsMember ⊢
  obtain ⟨quote, quoteRead, name, nameRead, colon, colonRead, value,
    valueRead, same⟩ := readsMember
  exact ⟨quote, quoteRead, name, nameRead, colon, colonRead, value,
    reads _ _ valueRead, same⟩

theorem readValue_mono {fuel larger : Nat} (enough : fuel ≤ larger)
    (text : Bytes) (read : JsonValue × Bytes)
    (reads : readValue fuel text = some read) :
    readValue larger text = some read := by
  induction fuel generalizing larger text read with
  | zero => cases reads
  | succ fuel induction =>
      obtain ⟨larger, rfl⟩ := Nat.exists_eq_add_of_le'
        (Nat.one_le_of_lt enough)
      have enoughInside := Nat.le_of_succ_le_succ enough
      have readsInside := fun text read => induction enoughInside text read
      unfold readValue at reads ⊢
      split at reads
      · cases reads
      · split at reads
        · rename_i quote
          rw [if_pos quote]
          exact reads
        · rename_i noQuote
          rw [if_neg noQuote]
          split at reads
          · rename_i brace
            rw [if_pos brace]
            obtain ⟨members, readsMembers, rfl⟩ :=
              Option.map_eq_some_iff.mp reads
            rw [readBracket_mono (readMember_mono readsInside) enoughInside
              readsMembers]
            rfl
          · rename_i noBrace
            rw [if_neg noBrace]
            split at reads
            · rename_i bracket
              rw [if_pos bracket]
              obtain ⟨items, readsItems, rfl⟩ :=
                Option.map_eq_some_iff.mp reads
              rw [readBracket_mono readsInside enoughInside readsItems]
              rfl
            · rename_i noBracket
              rw [if_neg noBracket]
              exact reads

theorem Decodes.unique {text : Bytes} {first second : JsonValue}
    (decodesFirst : Decodes text first) (decodesSecond : Decodes text second) :
    first = second := by
  obtain ⟨fuel, behind, reads, -⟩ := decodesFirst
  obtain ⟨otherFuel, otherBehind, otherReads, -⟩ := decodesSecond
  have read := readValue_mono (le_max_left fuel otherFuel) _ _ reads
  have otherRead := readValue_mono (le_max_right fuel otherFuel) _ _ otherReads
  rw [read] at otherRead
  cases otherRead
  rfl

end JsonValue

end KvsProducer
