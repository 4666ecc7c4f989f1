import KvsProducer.JsmnDocument
import KvsProducer.Lib.SeparatedKeys

/-!
# The members of a document

The strings of a document in their order, and the members whose values are
strings, at any depth.  The tokens of the document are those of its strings,
with the token of such a member's value behind the one of its name.
-/

namespace KvsProducer

/-- The string that a value is. -/
def JsonTree.string? : JsonTree → Option Bytes
  | .primitive .. => none
  | .string text _ => some text
  | .bracket .. => none
  | .padded _ _ tree _ _ => tree.string?

mutual

/-- The names and the strings in the order of the document. -/
def JsonTree.strings : JsonTree → List Bytes
  | .primitive .. => []
  | .string text _ => [text]
  | .bracket _ entries => entries.strings
  | .padded _ _ tree _ _ => tree.strings

def JsonEntries.strings : JsonEntries → List Bytes
  | .close .. => []
  | .value tree rest => tree.strings ++ rest.strings
  | .member key tree rest => key.name :: (tree.strings ++ rest.strings)

end

mutual

/-- The members with their values, at any depth. -/
def JsonTree.members : JsonTree → List (Bytes × JsonTree)
  | .primitive .. => []
  | .string .. => []
  | .bracket _ entries => entries.members
  | .padded _ _ tree _ _ => tree.members

def JsonEntries.members : JsonEntries → List (Bytes × JsonTree)
  | .close .. => []
  | .value tree rest => tree.members ++ rest.members
  | .member key tree rest =>
      (key.name, tree) :: (tree.members ++ rest.members)

end

mutual

theorem JsonTree.members_of_member (tree : JsonTree) {name : Bytes}
    {value : JsonTree} {other : Bytes × JsonTree}
    (member : (name, value) ∈ tree.members) (inside : other ∈ value.members) :
    other ∈ tree.members := by
  cases tree with
  | primitive text grammar => exact absurd member List.not_mem_nil
  | string text grammar => exact absurd member List.not_mem_nil
  | bracket kind entries => exact entries.members_of_member member inside
  | padded before blankBefore tree after blankAfter =>
      exact tree.members_of_member member inside

theorem JsonEntries.members_of_member (entries : JsonEntries) {name : Bytes}
    {value : JsonTree} {other : Bytes × JsonTree}
    (member : (name, value) ∈ entries.members)
    (inside : other ∈ value.members) : other ∈ entries.members := by
  cases entries with
  | close gap blank => exact absurd member List.not_mem_nil
  | value tree rest =>
      apply List.mem_append.mpr
      rcases List.mem_append.mp member with inTree | later
      · exact Or.inl (tree.members_of_member inTree inside)
      · exact Or.inr (rest.members_of_member later inside)
  | member key tree rest =>
      apply List.mem_cons_of_mem
      apply List.mem_append.mpr
      rcases List.mem_cons.mp member with own | inner
      · cases own
        exact Or.inl inside
      · rcases List.mem_append.mp inner with inTree | later
        · exact Or.inl (tree.members_of_member inTree inside)
        · exact Or.inr (rest.members_of_member later inside)

end

/-- The document is an object. -/
def JsonTree.isObject : JsonTree → Bool
  | .primitive .. => false
  | .string .. => false
  | .bracket kind _ => kind == .object
  | .padded _ _ tree _ _ => tree.isObject

/-- What a token spells if it is a string. -/
def JsmnTok.spelling (js : Bytes) (token : JsmnTok) : Option Bytes :=
  if token.type = .string then some (token.text js) else none

section Tokens

variable {js : Bytes} {pos : Nat} {behind : Bytes}

theorem spelling_stringToken {text : Bytes} {size : Nat}
    (here : js.drop pos = JsonValue.inQuotes text ++ behind) :
    (stringToken text pos size).spelling js = some text := by
  have inside : js.drop (pos + 1) = text ++ ([byte '"'] ++ behind) :=
    @drop_behind js [byte '"'] _ pos (by simpa [JsonValue.inQuotes] using here)
  rw [JsmnTok.spelling, stringToken, if_pos rfl, text_of_drop inside]

theorem member_parts {key : JsonKey} {tree : JsonTree} {rest : JsonEntries}
    {lead : Bytes}
    (here : js.drop pos = (JsonEntries.member key tree rest).text lead ++
      behind) :
    (∃ more, js.drop (pos + lead.length + key.before.length) =
        JsonValue.inQuotes key.name ++ more) ∧
      js.drop (pos + lead.length + key.text.length + 1) =
        tree.text ++ (rest.text [byte ','] ++ behind) := by
  have opens : js.drop pos = lead ++ (key.text ++
      byte ':' :: (tree.text ++ (rest.text [byte ','] ++ behind))) := by
    simpa [JsonEntries.text] using here
  have atKey := drop_behind opens
  have atColon := drop_behind atKey
  constructor
  · have atGap : js.drop (pos + lead.length) = key.before ++
        (JsonValue.inQuotes key.name ++ (key.after ++
          byte ':' :: (tree.text ++ (rest.text [byte ','] ++ behind)))) := by
      simpa [JsonKey.text] using atKey
    exact ⟨_, drop_behind atGap⟩
  · exact @drop_behind js [byte ':'] _ _ atColon

theorem value_parts {tree : JsonTree} {rest : JsonEntries} {lead : Bytes}
    (here : js.drop pos = (JsonEntries.value tree rest).text lead ++ behind) :
    js.drop (pos + lead.length) =
      tree.text ++ (rest.text [byte ','] ++ behind) := by
  apply drop_behind
  simpa [JsonEntries.text] using here

mutual

theorem JsonTree.spellings {js : Bytes} (tree : JsonTree) {pos : Nat}
    {behind : Bytes} (here : js.drop pos = tree.text ++ behind) :
    (tree.tokens pos).filterMap (JsmnTok.spelling js) = tree.strings := by
  cases tree with
  | primitive text grammar =>
      simp [JsonTree.tokens, JsonTree.strings, JsmnTok.spelling]
  | string text grammar =>
      simp [JsonTree.tokens, JsonTree.strings, spelling_stringToken here]
  | bracket kind entries =>
      have notString : kind.type ≠ .string := by
        cases kind <;> decide
      have inner : js.drop (pos + 1) =
          entries.text [] ++ ([kind.closing] ++ behind) :=
        @drop_behind js [kind.opening] _ pos (by
          simpa [JsonTree.text] using here)
      rw [JsonTree.tokens, JsonTree.strings, ← entries.spellings inner]
      simp [JsmnTok.spelling, notString]
  | padded before blankBefore tree after blankAfter =>
      have inner : js.drop (pos + before.length) =
          tree.text ++ (after ++ behind) :=
        drop_behind (by simpa [JsonTree.text] using here)
      exact tree.spellings inner

theorem JsonEntries.spellings {js : Bytes} (entries : JsonEntries) {pos : Nat}
    {lead behind : Bytes} (here : js.drop pos = entries.text lead ++ behind) :
    (entries.tokens lead pos).filterMap (JsmnTok.spelling js) =
      entries.strings := by
  cases entries with
  | close gap blank => rfl
  | value tree rest =>
      have atTree := value_parts here
      rw [JsonEntries.tokens, JsonEntries.strings, List.filterMap_append,
        tree.spellings atTree, rest.spellings (drop_behind atTree)]
  | member key tree rest =>
      obtain ⟨⟨more, atName⟩, atTree⟩ := member_parts here
      rw [JsonEntries.tokens, JsonEntries.strings,
        List.filterMap_cons_some (spelling_stringToken atName),
        List.filterMap_append, tree.spellings atTree,
        rest.spellings (drop_behind atTree)]

end

/-- The first token of a value is no name: it spells what the value is, and has
no child if it is a string. -/
theorem JsonTree.firstToken {js : Bytes} (tree : JsonTree) {pos : Nat}
    {behind : Bytes} (here : js.drop pos = tree.text ++ behind) :
    ∃ val more, tree.tokens pos = val :: more ∧
      val.spelling js = tree.string? ∧
      (val.spelling js ≠ none → val.size = 0) := by
  cases tree with
  | primitive text grammar => exact ⟨_, _, rfl, rfl, fun _ => rfl⟩
  | string text grammar =>
      exact ⟨_, _, rfl, spelling_stringToken here, fun _ => rfl⟩
  | bracket kind entries =>
      refine ⟨_, _, rfl, ?_, ?_⟩
      · cases kind <;> rfl
      · cases kind <;> exact fun spells => absurd rfl spells
  | padded before blankBefore tree after blankAfter =>
      have inner : js.drop (pos + before.length) =
          tree.text ++ (after ++ behind) :=
        drop_behind (by simpa [JsonTree.text] using here)
      exact tree.firstToken inner

/-- The tokens of a member are found among those of the document. -/
structure HasMember (js name : Bytes) (value : JsonTree)
    (tokens front : List JsmnTok) (key : JsmnTok) (place : Nat)
    (back : List JsmnTok) : Prop where
  parts : tokens = front ++ key :: (value.tokens place ++ back)
  name : key.spelling js = some name
  child : key.size = 1
  value : ∃ behind, js.drop place = value.text ++ behind

theorem HasMember.append {name : Bytes} {value : JsonTree}
    {tokens front back : List JsmnTok} {key : JsmnTok} {place : Nat}
    (has : HasMember js name value tokens front key place back)
    (before after : List JsmnTok) :
    HasMember js name value (before ++ (tokens ++ after)) (before ++ front) key
      place (back ++ after) where
  parts := by simp [has.parts]
  name := has.name
  child := has.child
  value := has.value

mutual

/-- The tokens of a member's value stand behind the one of its name. -/
theorem JsonTree.hasMember {js : Bytes} (tree : JsonTree) {pos : Nat}
    {behind name : Bytes} {value : JsonTree}
    (here : js.drop pos = tree.text ++ behind)
    (member : (name, value) ∈ tree.members) :
    ∃ front key place back,
      HasMember js name value (tree.tokens pos) front key place back := by
  cases tree with
  | primitive text grammar => exact absurd member List.not_mem_nil
  | string text grammar => exact absurd member List.not_mem_nil
  | bracket kind entries =>
      have inner : js.drop (pos + 1) =
          entries.text [] ++ ([kind.closing] ++ behind) :=
        @drop_behind js [kind.opening] _ pos (by
          simpa [JsonTree.text] using here)
      obtain ⟨front, key, place, back, has⟩ := entries.hasMember inner member
      have shifted := has.append
        [{ type := kind.type
           start := pos
           stop := (pos + 1 + (entries.text []).length : ℕ) + 1
           size := entries.count }] []
      simp only [List.append_nil] at shifted
      exact ⟨_, _, _, _, shifted⟩
  | padded before blankBefore tree after blankAfter =>
      have inner : js.drop (pos + before.length) =
          tree.text ++ (after ++ behind) :=
        drop_behind (by simpa [JsonTree.text] using here)
      exact tree.hasMember inner member

theorem JsonEntries.hasMember {js : Bytes} (entries : JsonEntries) {pos : Nat}
    {lead behind name : Bytes} {value : JsonTree}
    (here : js.drop pos = entries.text lead ++ behind)
    (member : (name, value) ∈ entries.members) :
    ∃ front key place back,
      HasMember js name value (entries.tokens lead pos) front key place
        back := by
  cases entries with
  | close gap blank => exact absurd member List.not_mem_nil
  | value tree rest =>
      have atTree := value_parts here
      rw [JsonEntries.tokens]
      rcases List.mem_append.mp member with inTree | later
      · obtain ⟨front, key, place, back, has⟩ := tree.hasMember atTree inTree
        exact ⟨_, _, _, _, has.append [] _⟩
      · obtain ⟨front, key, place, back, has⟩ :=
          rest.hasMember (drop_behind atTree) later
        have shifted := has.append (tree.tokens (pos + lead.length)) []
        simp only [List.append_nil] at shifted
        exact ⟨_, _, _, _, shifted⟩
  | member key tree rest =>
      obtain ⟨⟨more, atName⟩, atTree⟩ := member_parts here
      rw [JsonEntries.tokens]
      rcases List.mem_cons.mp member with own | inside
      · cases own
        exact ⟨[], _, _, _, rfl, spelling_stringToken atName, rfl, _, atTree⟩
      · rcases List.mem_append.mp inside with inTree | later
        · obtain ⟨front, name, place, back, has⟩ := tree.hasMember atTree inTree
          exact ⟨_, _, _, _, has.append [_] _⟩
        · obtain ⟨front, name, place, back, has⟩ :=
            rest.hasMember (drop_behind atTree) later
          have shifted := has.append (stringToken key.name
            (pos + lead.length + key.before.length) 1 ::
              tree.tokens (pos + lead.length + key.text.length + 1)) []
          simp only [List.append_nil] at shifted
          exact ⟨_, _, _, _, shifted⟩

end

end Tokens

/-! ### Names that are not ambiguous -/

/-- The document has one string that spells the name, and that is the name of a
member with the value. -/
structure JsonTree.Names (tree : JsonTree) (name : Bytes) (value : JsonTree) :
    Prop where
  member : (name, value) ∈ tree.members
  once : tree.strings.count name = 1

/-- The only member of a name. -/
structure OnlyMember (js name : Bytes) (value : JsonTree)
    (tokens front : List JsmnTok) (key : JsmnTok) (place : Nat)
    (back : List JsmnTok) : Prop where
  has : HasMember js name value tokens front key place back
  before : ∀ token ∈ front, token.spelling js ≠ some name
  behind : ∀ token ∈ value.tokens place ++ back,
    token.spelling js ≠ some name

theorem spelling_ne_of_count {js name : Bytes} {tokens : List JsmnTok}
    (absent : (tokens.filterMap (JsmnTok.spelling js)).count name = 0) :
    ∀ token ∈ tokens, token.spelling js ≠ some name := by
  intro token listed spells
  exact List.count_eq_zero.mp absent
    (List.mem_filterMap.mpr ⟨token, listed, spells⟩)

/-- A member whose name is spelt once is the only one. -/
theorem HasMember.only {js : Bytes} {tree value : JsonTree} {pos place : Nat}
    {behind name : Bytes} {front back : List JsmnTok} {key : JsmnTok}
    (has : HasMember js name value (tree.tokens pos) front key place back)
    (here : js.drop pos = tree.text ++ behind)
    (once : tree.strings.count name = 1) :
    OnlyMember js name value (tree.tokens pos) front key place back := by
  have spelt := tree.spellings here
  rw [has.parts, List.filterMap_append, List.filterMap_cons_some has.name]
    at spelt
  rw [← spelt, List.count_append, List.count_cons_self] at once
  exact ⟨has, spelling_ne_of_count (by omega),
    spelling_ne_of_count (by omega)⟩

theorem JsonTree.Names.onlyMember {js : Bytes} {tree value : JsonTree}
    {pos : Nat} {behind name : Bytes} (names : tree.Names name value)
    (here : js.drop pos = tree.text ++ behind) :
    ∃ front key place back,
      OnlyMember js name value (tree.tokens pos) front key place back := by
  obtain ⟨front, key, place, back, has⟩ := tree.hasMember here names.member
  exact ⟨front, key, place, back, has.only here names.once⟩

/-- No string spells one of the names, unless it is the name of the only member
of that name. -/
def JsonTree.Unambiguous (tree : JsonTree) (names : List Bytes) : Prop :=
  ∀ name ∈ names, tree.strings.count name = 0 ∨
    ∃ value, tree.Names name value

section Unambiguous

variable {js : Bytes} {tree : JsonTree} {pos : Nat} {behind : Bytes}
variable {names : List Bytes}

/-- A token that spells one of the names is the name of the only member. -/
theorem JsonTree.Unambiguous.onlyMember (unambiguous : tree.Unambiguous names)
    (here : js.drop pos = tree.text ++ behind) {token : JsmnTok}
    {name : Bytes} (listed : token ∈ tree.tokens pos) (isName : name ∈ names)
    (spells : token.spelling js = some name) :
    ∃ value front key place back,
      OnlyMember js name value (tree.tokens pos) front key place back ∧
        token = key := by
  rcases unambiguous name isName with absent | ⟨value, only⟩
  · rw [← tree.spellings here] at absent
    exact absurd spells (spelling_ne_of_count absent token listed)
  · obtain ⟨front, key, place, back, member⟩ := only.onlyMember here
    refine ⟨value, front, key, place, back, member, ?_⟩
    rw [member.has.parts, List.mem_append, List.mem_cons] at listed
    rcases listed with early | same | late
    · exact absurd spells (member.before token early)
    · exact same
    · exact absurd spells (member.behind token late)

/-- A scan for the names finds no name behind a name. -/
theorem JsonTree.Unambiguous.separated {Key State Exit : Type}
    {reader : KeyScan.Reader JsmnTok Key State Exit}
    (unambiguous : tree.Unambiguous names)
    (here : js.drop pos = tree.text ++ behind)
    (keys : ∀ token ∈ tree.tokens pos, reader.key token ≠ none →
      ∃ name ∈ names, token.spelling js = some name) :
    KeyScan.Separated reader (tree.tokens pos) where
  value front item value back parts isKey := by
    by_contra valueIsKey
    have itemListed : item ∈ tree.tokens pos := by simp [parts]
    have valueListed : value ∈ tree.tokens pos := by simp [parts]
    obtain ⟨name, isName, spells⟩ := keys item itemListed isKey
    obtain ⟨other, otherIsName, valueSpells⟩ :=
      keys value valueListed valueIsKey
    obtain ⟨tree, before, key, place, after, only, -⟩ :=
      unambiguous.onlyMember here itemListed isName spells
    obtain ⟨_, _, _, _, _, onlyOther, rfl⟩ :=
      unambiguous.onlyMember here valueListed otherIsName valueSpells
    obtain ⟨-, -, rest⟩ := KeyScan.append_cons_unique
      (parts.symm.trans only.has.parts) spells only.before only.behind
    obtain ⟨behind, atValue⟩ := only.has.value
    obtain ⟨val, more, tokens, -, leaf⟩ := tree.firstToken atValue
    rw [tokens, List.cons_append, List.cons.injEq] at rest
    have noChild := leaf (rest.1 ▸ by simp [valueSpells])
    have oneChild := onlyOther.has.child
    rw [rest.1] at oneChild
    omega
  last front item parts := by
    by_contra isKey
    have listed : item ∈ tree.tokens pos := by simp [parts]
    obtain ⟨name, isName, spells⟩ := keys item listed isKey
    obtain ⟨tree, before, key, place, after, only, -⟩ :=
      unambiguous.onlyMember here listed isName spells
    obtain ⟨-, -, rest⟩ := KeyScan.append_cons_unique
      (parts.symm.trans only.has.parts) spells only.before only.behind
    have nonempty := tree.tokens_length_pos place
    have length := congrArg List.length rest
    rw [List.length_nil, List.length_append] at length
    omega

end Unambiguous

/-- A scan that finds no name behind a name finds the only member of a name
once, with the first token of its value. -/
theorem OnlyMember.found {Key State Exit : Type}
    {reader : KeyScan.Reader JsmnTok Key State Exit} {js name : Bytes}
    {value : JsonTree} {tokens front back items skipped before : List JsmnTok}
    {token : JsmnTok} {place : Nat} {key : Key} {wanted : Key → Bool}
    (only : OnlyMember js name value tokens front token place back)
    (separated : KeyScan.Separated reader items)
    (parts : tokens = skipped ++ items) (early : front = skipped ++ before)
    (keys : ∀ other ∈ items, ∀ key ∈ reader.key other, wanted key = true →
      other.spelling js = some name)
    (spelled : reader.key token = some key) (reads : reader.reads key = true)
    (isWanted : wanted key = true) :
    ∃ val ∈ items, val.spelling js = value.string? ∧
      value.tokens place = val :: (value.tokens place).tail ∧
      (KeyScan.pairs reader items).filter (fun found => wanted found.1) =
        [(key, some val)] := by
  obtain ⟨behind, atValue⟩ := only.has.value
  obtain ⟨val, more, valueTokens, valSpells, -⟩ := value.firstToken atValue
  have items_eq : items = before ++ token :: val :: (more ++ back) := by
    have same := parts.symm.trans only.has.parts
    rw [early, List.append_assoc, List.append_right_inj, valueTokens,
      List.cons_append] at same
    exact same
  have unwanted (other : JsmnTok) (listed : other ∈ items)
      (notNamed : other.spelling js ≠ some name) :
      ∀ key ∈ reader.key other, wanted key = false := by
    intro key isKey
    by_contra held
    exact notNamed (keys other listed key isKey (by simpa using held))
  refine ⟨val, by simp [items_eq], valSpells, by simp [valueTokens], ?_⟩
  rw [KeyScan.pairs_of_separated separated, items_eq]
  apply KeyScan.filter_adjacent_only spelled reads isWanted
  · intro other listed
    exact unwanted other (by simp [items_eq, listed])
      (only.before other (by simp [early, listed]))
  · intro other listed
    have behindName : other ∈ value.tokens place ++ back := by
      rw [valueTokens]
      exact listed
    exact unwanted other (by
      rw [items_eq, List.mem_append, List.mem_cons]
      exact Or.inr (Or.inr listed)) (only.behind other behindName)

/-! ### Responses -/

theorem compareJsonString_iff {js name : Bytes} {token : JsmnTok}
    (within : token.Within js) :
    compareJsonString js token .string name = true ↔
      token.spelling js = some name := by
  obtain ⟨nonneg, ordered, ends, -⟩ := within
  have length : ((token.text js).length : Int) = token.stop - token.start := by
    rw [JsmnTok.text, List.length_take, List.length_drop]
    omega
  rw [compareJsonString, JsmnTok.spelling, Bool.and_eq_true, Bool.and_eq_true,
    beq_iff_eq, beq_iff_eq, beq_iff_eq]
  constructor
  · intro compared
    obtain ⟨⟨type, -⟩, text⟩ := compared
    rw [if_pos type, text]
  · intro spells
    split at spells
    · rename_i type
      cases spells
      exact ⟨⟨type, length⟩, rfl⟩
    · cases spells

theorem find?_spells_iff {Key : Type} {name : Key → Bytes} {all : List Key}
    (injective : Function.Injective name) {key : Key} (listed : key ∈ all)
    {js : Bytes} {token : JsmnTok} (within : token.Within js) :
    (all.find? fun key => compareJsonString js token .string (name key)) =
        some key ↔ token.spelling js = some (name key) := by
  constructor
  · intro found
    have compared := List.find?_some found
    exact (compareJsonString_iff within).mp compared
  · intro spells
    have satisfied : ∃ other ∈ all,
        compareJsonString js token .string (name other) = true :=
      ⟨key, listed, (compareJsonString_iff within).mpr spells⟩
    obtain ⟨other, found⟩ :=
      Option.isSome_iff_exists.mp (List.find?_isSome.mpr satisfied)
    have compared := List.find?_some found
    have otherSpells := (compareJsonString_iff within).mp compared
    rw [spells, Option.some.injEq] at otherSpells
    rw [found, injective otherSpells]

/-- A document that is a response. -/
structure JsonTree.Response (tree : JsonTree) : Prop where
  isObject : tree.isObject = true
  few : (tree.tokens 0).length ≤ MAX_JSON_TOKEN_COUNT
  short : tree.text.length < 2 ^ 31

namespace JsonTree.Response

variable {tree : JsonTree}

theorem lt_wrap (response : tree.Response) : tree.text.length < 2 ^ 32 := by
  have short := response.short
  omega

theorem here (tree : JsonTree) : tree.text.drop 0 = tree.text ++ [] :=
  (List.append_nil _).symm

theorem parses (response : tree.Response) :
    jsmnParse MAX_JSON_TOKEN_COUNT tree.text = .ok (tree.tokens 0) := by
  have parsed := jsmnParse_tree MAX_JSON_TOKEN_COUNT tree [] (Or.inl rfl)
  rwa [List.append_nil, if_pos response.few] at parsed

theorem within (response : tree.Response) :
    ∀ token ∈ tree.tokens 0, token.Within tree.text :=
  jsmnParse_within response.parses

theorem root (tree : JsonTree) (isObject : tree.isObject = true) (pos : Nat) :
    ∃ root rest, tree.tokens pos = root :: rest ∧ root.type = .object := by
  cases tree with
  | primitive text grammar => cases isObject
  | string text grammar => cases isObject
  | bracket kind entries =>
      cases kind with
      | object => exact ⟨_, _, rfl, rfl⟩
      | array => cases isObject
  | padded before blankBefore tree after blankAfter =>
      exact root tree isObject _

theorem behind_root (response : tree.Response) {name : Bytes}
    {value : JsonTree} {front back : List JsmnTok} {key : JsmnTok} {place : Nat}
    (only : OnlyMember tree.text name value (tree.tokens 0) front key place
      back) :
    ∃ root rest before, tree.tokens 0 = root :: rest ∧
      root.type = .object ∧ front = root :: before := by
  obtain ⟨root, rest, tokens, isObject⟩ := root tree response.isObject 0
  have parts := only.has.parts
  cases front with
  | nil =>
      rw [tokens, List.nil_append, List.cons.injEq] at parts
      have name := only.has.name
      rw [← parts.1, JsmnTok.spelling, isObject] at name
      cases name
  | cons first before =>
      rw [tokens, List.cons_append, List.cons.injEq] at parts
      exact ⟨root, rest, before, tokens, isObject, by rw [parts.1]⟩

theorem text_of_spelling {js : Bytes} {token : JsmnTok} {text : Bytes}
    (spells : token.spelling js = some text) : token.text js = text := by
  rw [JsmnTok.spelling] at spells
  split at spells
  · exact Option.some.inj spells
  · cases spells

end JsonTree.Response

end KvsProducer
