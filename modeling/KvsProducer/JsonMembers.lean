import KvsProducer.StreamingEndpoint
import Mathlib.Algebra.GroupWithZero.Nat

/-!
# Members of a JSON object

What a document says, independently of how the handlers search it: the text
that a string stands for once its escapes are replaced, and the members of an
object among the tokens of the document.
-/

namespace KvsProducer

/-! ### Strings -/

/-- What a string is made of: a byte of its text, or a code unit of UTF-16 that
an escape gives. -/
inductive JsonPiece where
  | byte (value : UInt8)
  | unit (code : Nat)
  deriving DecidableEq, Repr

/-- The byte that a simple escape stands for. -/
def simpleEscape (c : UInt8) : Option UInt8 :=
  if c = byte '"' ∨ c = byte '\\' ∨ c = byte '/' then some c
  else if c = byte 'b' then some 8
  else if c = byte 'f' then some 12
  else if c = byte 'n' then some 10
  else if c = byte 'r' then some 13
  else if c = byte 't' then some 9
  else none

/-- The number that a hexadecimal digit stands for. -/
def hexDigit (c : UInt8) : Option Nat :=
  if 48 ≤ c ∧ c ≤ 57 then some (c.toNat - 48)
  else if 65 ≤ c ∧ c ≤ 70 then some (c.toNat - 55)
  else if 97 ≤ c ∧ c ≤ 102 then some (c.toNat - 87)
  else none

/-- The number that four of them stand for. -/
def hexUnit (first second third fourth : UInt8) : Option Nat := do
  let a ← hexDigit first
  let b ← hexDigit second
  let c ← hexDigit third
  let d ← hexDigit fourth
  return ((a * 16 + b) * 16 + c) * 16 + d

/-- The pieces of a string, if all of its escapes are ones. -/
def jsonPieces : Bytes → Option (List JsonPiece)
  | [] => some []
  | c :: rest =>
      if c = byte '\\' then
        match rest with
        | [] => none
        | escape :: after =>
            match simpleEscape escape with
            | some value => (jsonPieces after).map (.byte value :: ·)
            | none =>
                match after with
                | first :: second :: third :: fourth :: later =>
                    if escape = byte 'u' then do
                      let code ← hexUnit first second third fourth
                      (jsonPieces later).map (.unit code :: ·)
                    else none
                | _ => none
      else (jsonPieces rest).map (.byte c :: ·)

def isHighSurrogate (code : Nat) : Bool := 0xD800 ≤ code && code < 0xDC00
def isLowSurrogate (code : Nat) : Bool := 0xDC00 ≤ code && code < 0xE000

/-- The pieces in UTF-8; a surrogate stands for a character only together with
the other one. -/
def utf8Pieces : List JsonPiece → Option Bytes
  | [] => some []
  | .byte value :: rest => (utf8Pieces rest).map (value :: ·)
  | .unit high :: .unit low :: rest =>
      if isHighSurrogate high && isLowSurrogate low then
        let code := 0x10000 + (high - 0xD800) * 0x400 + (low - 0xDC00)
        (utf8Pieces rest).map
          (String.utf8EncodeChar (Char.ofNat code) ++ ·)
      else if isHighSurrogate high || isLowSurrogate high then none
      else
        (utf8Pieces (.unit low :: rest)).map
          (String.utf8EncodeChar (Char.ofNat high) ++ ·)
  | .unit code :: rest =>
      if isHighSurrogate code || isLowSurrogate code then none
      else
        (utf8Pieces rest).map
          (String.utf8EncodeChar (Char.ofNat code) ++ ·)

/-- The text that the bytes between two quotes stand for. -/
def unescape (text : Bytes) : Option Bytes :=
  (jsonPieces text).bind utf8Pieces

theorem jsonPieces_plain {text : Bytes} (plain : byte '\\' ∉ text) :
    jsonPieces text = some (text.map .byte) := by
  induction text with
  | nil => rfl
  | cons c rest induction =>
      rw [List.mem_cons, not_or] at plain
      obtain ⟨first, later⟩ := plain
      unfold jsonPieces
      rw [if_neg (Ne.symm first), induction later]
      rfl

theorem utf8Pieces_bytes (text : Bytes) :
    utf8Pieces (text.map .byte) = some text := by
  induction text with
  | nil => rfl
  | cons c rest induction => simp [utf8Pieces, induction]

theorem unescape_plain {text : Bytes} (plain : byte '\\' ∉ text) :
    unescape text = some text := by
  simp [unescape, jsonPieces_plain plain, utf8Pieces_bytes]

/-- The least number of bytes that give a piece. -/
def JsonPiece.width : JsonPiece → Nat
  | .byte _ => 1
  | .unit _ => 5

theorem length_utf8Pieces {pieces : List JsonPiece} {out : Bytes}
    (encodes : utf8Pieces pieces = some out) :
    out.length ≤ (pieces.map JsonPiece.width).sum := by
  have four (c : Char) : (String.utf8EncodeChar c).length ≤ 4 := by
    rw [String.length_utf8EncodeChar]
    exact Char.utf8Size_le_four c
  induction pieces using utf8Pieces.induct generalizing out with
  | case1 =>
      cases encodes
      exact Nat.le_refl _
  | case2 value rest induction =>
      obtain ⟨later, encodesRest, rfl⟩ := Option.map_eq_some_iff.mp encodes
      have shorter := induction encodesRest
      simp only [List.length_cons, List.map_cons, List.sum_cons,
        JsonPiece.width]
      omega
  | case3 high low rest surrogates induction =>
      rw [utf8Pieces, if_pos surrogates] at encodes
      obtain ⟨later, encodesRest, rfl⟩ := Option.map_eq_some_iff.mp encodes
      have shorter := induction encodesRest
      have char := four
        (Char.ofNat (0x10000 + (high - 0xD800) * 0x400 + (low - 0xDC00)))
      simp only [List.length_append, List.map_cons, List.sum_cons,
        JsonPiece.width]
      omega
  | case4 high low rest apart surrogate =>
      rw [utf8Pieces, if_neg apart, if_pos surrogate] at encodes
      cases encodes
  | case5 high low rest apart single induction =>
      rw [utf8Pieces, if_neg apart, if_neg single] at encodes
      obtain ⟨later, encodesRest, rfl⟩ := Option.map_eq_some_iff.mp encodes
      have shorter := induction encodesRest
      have char := four (Char.ofNat high)
      simp only [List.length_append, List.map_cons, List.sum_cons,
        JsonPiece.width] at shorter ⊢
      omega
  | case6 code rest last surrogate =>
      rw [utf8Pieces, if_pos surrogate] at encodes
      · cases encodes
      · exact last
  | case7 code rest last single induction =>
      rw [utf8Pieces, if_neg single] at encodes
      · obtain ⟨later, encodesRest, rfl⟩ := Option.map_eq_some_iff.mp encodes
        have shorter := induction encodesRest
        have char := four (Char.ofNat code)
        simp only [List.length_append, List.map_cons, List.sum_cons,
          JsonPiece.width] at shorter ⊢
        omega
      · exact last

theorem width_jsonPieces {text : Bytes} {pieces : List JsonPiece}
    (reads : jsonPieces text = some pieces) :
    (pieces.map JsonPiece.width).sum ≤ text.length ∧
      (byte '\\' ∈ text → (pieces.map JsonPiece.width).sum < text.length) := by
  induction text using jsonPieces.induct generalizing pieces with
  | case1 =>
      cases reads
      simp
  | case2 =>
      simp [jsonPieces] at reads
  | case3 escape after value simple induction =>
      unfold jsonPieces at reads
      simp only [if_pos, simple] at reads
      obtain ⟨later, readsRest, rfl⟩ := Option.map_eq_some_iff.mp reads
      have shorter := (induction readsRest).1
      simp only [List.length_cons, List.map_cons, List.sum_cons,
        JsonPiece.width]
      omega
  | case4 first second third fourth later noEscape induction =>
      rw [jsonPieces, if_pos rfl] at reads
      simp only [noEscape, if_pos, Option.bind_eq_bind,
        Option.bind_eq_some_iff] at reads
      obtain ⟨code, -, reads⟩ := reads
      obtain ⟨pieces, readsRest, rfl⟩ := Option.map_eq_some_iff.mp reads
      have shorter := (induction readsRest).1
      simp only [List.length_cons, List.map_cons, List.sum_cons,
        JsonPiece.width]
      omega
  | case5 escape noEscape first second third fourth later notUnicode =>
      rw [jsonPieces, if_pos rfl] at reads
      simp only [noEscape, if_neg notUnicode] at reads
      cases reads
  | case6 escape after noEscape short =>
      rw [jsonPieces] at reads
      · simp only [if_pos, noEscape] at reads
        cases reads
      · exact short
  | case7 c rest notEscape induction =>
      unfold jsonPieces at reads
      rw [if_neg notEscape] at reads
      obtain ⟨later, readsRest, rfl⟩ := Option.map_eq_some_iff.mp reads
      obtain ⟨shorter, strictly⟩ := induction readsRest
      rw [List.mem_cons, or_iff_right (Ne.symm notEscape)]
      simp only [List.length_cons, List.map_cons, List.sum_cons,
        JsonPiece.width]
      refine ⟨by omega, fun escaped => ?_⟩
      have fewer := strictly escaped
      omega

/-- A string that is as long as what it stands for has no escapes, and stands
for itself. -/
theorem unescape_of_length {text out : Bytes} (stands : unescape text = some out)
    (length : text.length = out.length) : text = out := by
  obtain ⟨pieces, reads, encodes⟩ := Option.bind_eq_some_iff.mp stands
  have short := length_utf8Pieces encodes
  have strictly := (width_jsonPieces reads).2
  have plain : byte '\\' ∉ text := by
    intro escaped
    have fewer := strictly escaped
    omega
  rw [unescape_plain plain] at stands
  exact Option.some.inj stands

example : unescape (bytes "video\\/h264 \\u0041\\u00E9") =
    some (bytes "video/h264 A" ++ [0xC3, 0xA9]) := by
  decide +kernel

/-! ### Members -/

/-- The string that a token is. -/
def JsmnTok.string? (js : Bytes) (token : JsmnTok) : Option Bytes :=
  if token.type = .string then unescape (token.text js) else none

/-- The token is an object or an array, and the other one is inside it. -/
def JsmnTok.encloses (outer inner : JsmnTok) : Bool :=
  (outer.type == .object || outer.type == .array) &&
    decide (outer.start < inner.start) && decide (inner.stop < outer.stop)

/-- The names in an object, each with the token of its value: a name is a string
with a child that is inside the object, and in nothing else that is. -/
def objectMembers (tokens : List JsmnTok) (object : JsmnTok) :
    List (JsmnTok × JsmnTok) :=
  (tokens.zip tokens.tail).filter fun (key, _) =>
    key.type == .string && decide (0 < key.size) && object.encloses key &&
      !tokens.any fun other => object.encloses other && other.encloses key

/-- The value of the last member of that name. -/
def memberValue (js : Bytes) (tokens : List JsmnTok) (object : JsmnTok)
    (name : Bytes) : Option JsmnTok :=
  ((objectMembers tokens object).filter fun (key, _) =>
    key.string? js = some name).getLast?.map (·.2)

/-- The value of a member of the whole document. -/
def documentMember (js : Bytes) (name : Bytes) : Option JsmnTok :=
  (objectTokens js).head?.bind fun root =>
    memberValue js (objectTokens js) root name

end KvsProducer
