import KvsProducer.Common.UriCodec

/-!
# The two passes of the URI codec

Both functions are first called without a destination, for the length, and
then with one of that length.  The second pass reads more than the first: the
encoder indexes its table with the upper half of a character, and the decoder
has the digits of an escape decoded.  The lengths are counted in 32 bits.
-/

namespace KvsProducer

namespace Common

/-! ### The property -/

/-- A call with a destination succeeds exactly if the call without one tells a
length that the destination has, and tells the same length. -/
structure SizingAgrees (code : Option Nat → Result UriCoder)
    (capacity : UInt32) : Prop where
  succeeds : (∃ filled, code (some capacity.toNat) = .ok filled) ↔
    ∃ sized, code none = .ok sized ∧ sized.length ≤ capacity
  length : ∀ filled sized, code (some capacity.toNat) = .ok filled →
    code none = .ok sized → filled.length = sized.length
  defined : code (some capacity.toNat) ≠ .error .undefined
  within : ∀ filled, code (some capacity.toNat) = .ok filled →
    filled.written.length ≤ capacity.toNat

/-- A pass that has not written anything. -/
def UriCoder.start (capacity : Nat) : UriCoder :=
  { length := 0
    remaining := capacity
    written := [] }

/-- At no time has the loop of the encoder written behind the destination, nor
`STRCPY` its terminator behind a slash. -/
def EncodesWithin (text : Bytes) (capacity : Nat) : Prop :=
  ∀ count coder,
    (text.take count).foldlM (encodeChar true) (.start capacity) =
        .ok coder →
      coder.written.length +
        (if (text.take count).getLast? = some (byte '/') then 1 else 0) ≤
          capacity

/-- At no time has the loop of the decoder written behind the destination. -/
def DecodesWithin (hexDecode : HexDecode) (text : Bytes) (capacity : Nat) :
    Prop :=
  ∀ count coder,
    decodeChars hexDecode true (.start capacity) (text.take count) =
        .ok coder →
      coder.written.length ≤ capacity

/-- The passes of both functions agree on a source and a capacity. -/
structure PassesAgree (hexDecode : HexDecode) (src : SizedString)
    (capacity : UInt32) : Prop where
  encode : SizingAgrees (uriEncodeString src) capacity
  encodeWithin : EncodesWithin src.value capacity.toNat
  decode : SizingAgrees (uriDecodeString hexDecode src) capacity
  decodeWithin : DecodesWithin hexDecode src.value capacity.toNat

/-! ### The condition -/

/-- The encoder comes to a negative character before the destination is
full. -/
def ReachesNegative (text : Bytes) (capacity : Nat) : Prop :=
  ∃ before ch behind, text = before ++ ch :: behind ∧ ¬ IsAscii ch ∧
    (uriEncoded before).length + ESCAPE_LEN < capacity

/-- A length that is counted in 32 bits is not taken for one that a buffer
has. -/
def LengthCounted (length : Nat) (capacity : UInt32) : Prop :=
  length < 2 ^ 32 ∨ capacity.toNat < length % 2 ^ 32

/-- What the decoder takes for a character. -/
inductive UriToken where
  | plain (ch : UInt8)
  | escape (high low : UInt8)
  deriving DecidableEq, Repr

/-- The characters and escapes of a text, unless the last escape is cut off. -/
def uriTokens : Bytes → Option (List UriToken)
  | [] => some []
  | ch :: rest =>
      if ch = byte '%' then
        match rest with
        | high :: low :: rest =>
            (uriTokens rest).map (.escape high low :: ·)
        | _ => none
      else (uriTokens rest).map (.plain ch :: ·)

/-- An escape consists of two digits. -/
def UriToken.Valid : UriToken → Prop
  | .plain _ => True
  | .escape high low => isHexDigit high = true ∧ isHexDigit low = true

instance (token : UriToken) : Decidable token.Valid :=
  match token with
  | .plain _ => inferInstanceAs (Decidable True)
  | .escape _ _ => inferInstanceAs (Decidable (_ ∧ _))

/-- What the decoder relies on: `hexDecode` decodes two digits if there is room
for a byte, and fails otherwise. -/
structure HexDecode.Checks (hexDecode : HexDecode) : Prop where
  digits : ∀ high low room, isHexDigit high = true → isHexDigit low = true →
    0 < room → ∃ value, hexDecode.decode [high, low] room = .ok [value]
  others : ∀ high low room,
    ¬ (isHexDigit high = true ∧ isHexDigit low = true) →
      ∃ status, hexDecode.decode [high, low] room = .error (.failed status)
  noRoom : ∀ high low,
    ∃ status, hexDecode.decode [high, low] 0 = .error (.failed status)

/-- Wherever the decoder has room, the escapes are digits. -/
def EscapesValid (text : Bytes) (capacity : Nat) : Prop :=
  ∀ tokens, uriTokens text = some tokens → tokens.length < capacity →
    ∀ token ∈ tokens, token.Valid

/-! ### The encoder -/

theorem length_encodedChar_of_not_isAscii {ch : UInt8}
    (negative : ¬ IsAscii ch) : (encodedChar ch).length = ESCAPE_LEN := by
  have reserved : ¬ isUnreserved ch = true := fun plain =>
    negative (isAscii_of_isUnreserved plain).1
  simp [encodedChar, reserved, ESCAPE_LEN]

theorem reachesNegative_cons {ch : UInt8} {rest : Bytes} {capacity : Nat} :
    ReachesNegative (ch :: rest) capacity ↔
      ¬ IsAscii ch ∧ ESCAPE_LEN < capacity ∨
        ReachesNegative rest (capacity - (encodedChar ch).length) := by
  constructor
  · rintro ⟨before, negative, behind, split, notAscii, room⟩
    cases before with
    | nil =>
        obtain ⟨rfl, rfl⟩ := List.cons.inj split
        refine .inl ⟨notAscii, ?_⟩
        simpa [uriEncoded] using room
    | cons first before =>
        obtain ⟨rfl, rfl⟩ := List.cons.inj split
        refine .inr ⟨before, negative, behind, rfl, notAscii, ?_⟩
        simp only [uriEncoded, List.flatMap_cons, List.length_append] at room
        unfold uriEncoded
        omega
  · rintro (⟨notAscii, room⟩ | ⟨before, negative, behind, rfl, notAscii, room⟩)
    · refine ⟨[], ch, rest, rfl, notAscii, ?_⟩
      simpa [uriEncoded] using room
    · refine ⟨ch :: before, negative, behind, rfl, notAscii, ?_⟩
      simp only [uriEncoded, List.flatMap_cons, List.length_append] at room ⊢
      omega

theorem write_ne_undefined {coder : UriCoder} {hasDst : Bool} {reserved : Nat}
    {text : Bytes} : coder.write hasDst reserved text ≠ .error .undefined := by
  unfold UriCoder.write
  split
  · split <;> simp
  · simp

/-- A character that is not negative, and one without room, is not looked up. -/
theorem encodeChar_undefined {coder : UriCoder} {ch : UInt8} :
    encodeChar true coder ch = .error .undefined ↔
      ¬ IsAscii ch ∧ ESCAPE_LEN < coder.remaining := by
  constructor
  · intro undefined
    unfold encodeChar at undefined
    split at undefined
    · exact absurd undefined write_ne_undefined
    · split at undefined
      · exact absurd undefined write_ne_undefined
      · cases writes : coder.write true 1
            [byte '%', hexDigit (ch >>> 4), hexDigit (ch &&& 15)] with
        | error fault =>
            rw [writes] at undefined
            cases undefined
            exact absurd writes write_ne_undefined
        | ok after =>
            obtain ⟨room, -⟩ := write_eq_ok writes
            rw [writes] at undefined
            refine ⟨?_, room⟩
            intro ascii
            simp [ascii] at undefined
  · rintro ⟨negative, room⟩
    rw [encodeChar_some, if_neg negative]
    rwa [length_encodedChar_of_not_isAscii negative]

theorem encodeChars_undefined {coder : UriCoder} {text : Bytes} :
    text.foldlM (encodeChar true) coder = .error .undefined ↔
      ReachesNegative text coder.remaining := by
  induction text generalizing coder with
  | nil => simp [ReachesNegative, pure, Except.pure]
  | cons ch rest induction =>
      rw [List.foldlM_cons, reachesNegative_cons, ← encodeChar_undefined]
      cases encodes : encodeChar true coder ch with
      | ok after =>
          obtain ⟨-, -, rfl⟩ := encodeChar_eq_ok encodes
          rw [ok_bind, induction]
          simp [UriCoder.emit]
      | error fault =>
          constructor
          · intro undefined
            cases undefined
            exact .inl rfl
          · rintro (undefined | ⟨before, negative, behind, rfl, _, room⟩)
            · cases undefined
              rfl
            · rw [encodeChar_some (by omega)] at encodes
              split at encodes <;> cases encodes
              rfl

theorem uriEncodeString_undefined {src : SizedString} {capacity : Nat} :
    uriEncodeString src (some capacity) = .error .undefined ↔
      ReachesNegative src.value capacity := by
  have loop := @encodeChars_undefined (.start capacity) src.value
  unfold uriEncodeString
  rw [← show (UriCoder.start capacity).remaining = capacity from rfl, ← loop]
  change (src.value.foldlM (encodeChar true) (.start capacity) >>= _) = _ ↔ _
  rw [bind_eq_undefined]
  simp [write_ne_undefined]

theorem isAscii_of_not_reachesNegative {text : Bytes} {capacity : Nat}
    (avoids : ¬ ReachesNegative text capacity)
    (room : (uriEncoded text).length < capacity) : ∀ ch ∈ text, IsAscii ch := by
  intro ch member
  by_contra negative
  obtain ⟨before, behind, rfl⟩ := List.append_of_mem member
  apply avoids
  refine ⟨before, ch, behind, rfl, negative, ?_⟩
  have escape := length_encodedChar_of_not_isAscii negative
  simp only [uriEncoded, List.flatMap_append, List.flatMap_cons,
    List.length_append] at room ⊢
  omega

theorem not_reachesNegative_of_isAscii {text : Bytes} {capacity : Nat}
    (ascii : ∀ ch ∈ text, IsAscii ch) : ¬ ReachesNegative text capacity := by
  rintro ⟨before, ch, behind, rfl, negative, -⟩
  exact negative (ascii ch (by simp))

theorem lengthCounted_iff {length : Nat} {capacity : UInt32} :
    LengthCounted length capacity ↔
      (UInt32.ofNat length ≤ capacity → length ≤ capacity.toNat) := by
  have below := capacity.toNat_lt
  rw [LengthCounted, UInt32.le_iff_toNat_le, UInt32.toNat_ofNat']
  constructor
  · intro counted told
    rcases counted with small | above
    · rwa [Nat.mod_eq_of_lt small] at told
    · omega
  · intro told
    by_cases small : length < 2 ^ 32
    · exact .inl small
    · right
      by_contra fits
      have short := told (by omega)
      omega

theorem ofNat_le_of_le {length : Nat} {capacity : UInt32}
    (room : length ≤ capacity.toNat) : UInt32.ofNat length ≤ capacity := by
  rw [UInt32.le_iff_toNat_le, UInt32.toNat_ofNat']
  exact (Nat.mod_le _ _).trans room

/-- The passes of the encoder agree exactly if it comes to no negative
character, and the length is counted. -/
theorem encode_sizingAgrees_iff {src : SizedString} {capacity : UInt32} :
    SizingAgrees (uriEncodeString src) capacity ↔
      ¬ ReachesNegative src.value capacity.toNat ∧
        LengthCounted ((uriEncoded src.value).length + 1) capacity := by
  rw [lengthCounted_iff]
  constructor
  · intro agrees
    constructor
    · intro reaches
      exact agrees.defined (uriEncodeString_undefined.mpr reaches)
    · intro told
      obtain ⟨filled, fills⟩ := agrees.succeeds.mpr
        ⟨_, uriEncodeString_none src, told⟩
      exact (uriEncodeString_eq_ok.mp fills).1
  · intro condition
    obtain ⟨avoids, counted⟩ := condition
    constructor
    case succeeds =>
        rw [uriEncodeString_none]
        constructor
        · intro success
          obtain ⟨filled, fills⟩ := success
          exact ⟨_, rfl, ofNat_le_of_le (uriEncodeString_eq_ok.mp fills).1⟩
        · intro told
          obtain ⟨sized, sizes, told⟩ := told
          cases sizes
          have room := counted told
          exact ⟨_, uriEncodeString_eq_ok.mpr
            ⟨room, isAscii_of_not_reachesNegative avoids room, rfl⟩⟩
    case length =>
        intro filled sized fills sizes
        obtain ⟨-, -, rfl⟩ := uriEncodeString_eq_ok.mp fills
        rw [uriEncodeString_none] at sizes
        cases sizes
        rfl
    case defined => exact mt uriEncodeString_undefined.mp avoids
    case within =>
        intro filled fills
        obtain ⟨room, -, rfl⟩ := uriEncodeString_eq_ok.mp fills
        simpa using room

theorem encodeChar_slash (coder : UriCoder) :
    encodeChar true coder (byte '/') = coder.write true 1 (bytes "%2F") := by
  unfold encodeChar
  rw [if_neg (by decide), if_pos rfl]

theorem encodesWithin (text : Bytes) (capacity : Nat) :
    EncodesWithin text capacity := by
  intro count coder encodes
  obtain ⟨-, room, rfl⟩ := encodeChars_eq_ok encodes
  split
  · rename_i slash
    obtain ⟨before, ends⟩ := List.getLast?_eq_some_iff.mp slash
    rw [ends, List.foldlM_append] at encodes
    obtain ⟨between, first, last⟩ := bind_eq_ok.mp encodes
    obtain ⟨-, -, rfl⟩ := encodeChars_eq_ok first
    rw [List.foldlM_cons, encodeChar_slash] at last
    obtain ⟨_, writes, -⟩ := bind_eq_ok.mp last
    obtain ⟨free, -⟩ := write_eq_ok writes
    have escape : (bytes "%2F").length = ESCAPE_LEN := by decide
    have slashLength := congrArg List.length encodedChar_slash
    simp only [UriCoder.emit, UriCoder.start, escape, ends, uriEncoded,
      List.flatMap_append, List.flatMap_singleton, List.length_append,
      List.nil_append] at free slashLength ⊢
    omega
  · simpa [UriCoder.emit, UriCoder.start] using room

/-! ### The decoder -/

section Decoder

variable {hexDecode : HexDecode} {coder after : UriCoder} {hasDst : Bool}
variable {ch high low : UInt8} {rest text : Bytes}

theorem uriTokens_cut (cut : ∀ high low later, rest = high :: low :: later →
    False) : uriTokens (byte '%' :: rest) = none := by
  cases rest with
  | nil => rfl
  | cons high rest =>
      cases rest with
      | nil => rfl
      | cons low rest => exact (cut high low rest rfl).elim

theorem decodeChars_cut (cut : ∀ high low later, rest = high :: low :: later →
    False) :
    decodeChars hexDecode hasDst coder (byte '%' :: rest) =
      .error (.failed .invalidArg) := by
  cases rest with
  | nil => simp [decodeChars]
  | cons high rest =>
      cases rest with
      | nil => simp [decodeChars]
      | cons low rest => exact (cut high low rest rfl).elim

theorem uriTokens_plain (plain : ch ≠ byte '%') :
    uriTokens (ch :: rest) = (uriTokens rest).map (.plain ch :: ·) := by
  rw [uriTokens.eq_def]
  simp only [if_neg plain]

theorem decodeChars_other (plain : ch ≠ byte '%') :
    decodeChars hexDecode hasDst coder (ch :: rest) =
      coder.write hasDst 0 [ch] >>= fun coder =>
        decodeChars hexDecode hasDst coder rest := by
  rw [decodeChars.eq_def]
  simp only [if_neg plain]
  cases coder.write hasDst 0 [ch] <;> rfl

theorem uriTokens_escape :
    uriTokens (byte '%' :: high :: low :: rest) =
      (uriTokens rest).map (.escape high low :: ·) := by
  rw [uriTokens.eq_def]
  simp only [if_true]

theorem decodeChars_escape (checks : hexDecode.Checks) :
    (UriToken.Valid (.escape high low) ∧ 0 < coder.remaining ∧ ∃ value,
        decodeChars hexDecode true coder (byte '%' :: high :: low :: rest) =
          decodeChars hexDecode true (coder.emit [value]) rest) ∨
      (UriToken.Valid (.escape high low) → coder.remaining = 0) ∧ ∃ status,
        decodeChars hexDecode true coder (byte '%' :: high :: low :: rest) =
          .error (.failed status) := by
  simp only [decodeChars, if_true]
  by_cases valid : isHexDigit high = true ∧ isHexDigit low = true
  · rcases Nat.eq_zero_or_pos coder.remaining with full | room
    · obtain ⟨status, fails⟩ := checks.noRoom high low
      rw [full, fails]
      exact .inr ⟨fun _ => rfl, status, rfl⟩
    · obtain ⟨value, decodes⟩ :=
        checks.digits high low coder.remaining valid.1 valid.2 room
      rw [decodes]
      exact .inl ⟨valid, room, value, rfl⟩
  · obtain ⟨status, fails⟩ := checks.others high low coder.remaining valid
    rw [fails]
    exact .inr ⟨fun digits => (valid digits).elim, status, rfl⟩

theorem count_succ (length : UInt32) (count : Nat) :
    length + .ofNat (count + 1) = length + 1 + .ofNat count := by
  rw [Nat.add_comm, UInt32.ofNat_add, ← UInt32.add_assoc]
  rfl

theorem decodeChars_none :
    decodeChars hexDecode false coder text =
      match uriTokens text with
      | none => .error (.failed .invalidArg)
      | some tokens =>
          .ok { coder with
            length := coder.length + .ofNat tokens.length } := by
  induction text using uriTokens.induct generalizing coder with
  | case1 => simp [decodeChars, uriTokens]
  | case2 high low rest induction =>
      simp only [decodeChars, if_true, Bool.false_eq_true, if_false,
        induction, uriTokens_escape]
      cases uriTokens rest with
      | none => rfl
      | some tokens =>
          simp only [Option.map_some, List.length_cons, count_succ]
  | case3 rest cut => rw [decodeChars_cut cut, uriTokens_cut cut]
  | case4 ch rest plain induction =>
      rw [decodeChars_other plain, uriTokens_plain plain]
      simp only [UriCoder.write, Bool.false_eq_true, if_false, ok_bind,
        induction, List.length_singleton]
      cases uriTokens rest with
      | none => rfl
      | some tokens =>
          simp only [Option.map_some, List.length_cons]
          rw [count_succ coder.length tokens.length]
          rfl

/-- What the decoder has done with some tokens. -/
structure Decoded (coder after : UriCoder) (tokens : List UriToken) :
    Prop where
  room : tokens.length ≤ coder.remaining
  length : after.length = coder.length + .ofNat tokens.length
  remaining : after.remaining = coder.remaining - tokens.length
  written : after.written.length = coder.written.length + tokens.length

theorem Decoded.cons {value : UInt8} {token : UriToken}
    {tokens : List UriToken} (room : 0 < coder.remaining)
    (decoded : Decoded (coder.emit [value]) after tokens) :
    Decoded coder after (token :: tokens) := by
  obtain ⟨later, length, remaining, written⟩ := decoded
  simp only [UriCoder.emit, List.length_append, List.length_singleton]
    at later length remaining written
  constructor
  case length =>
      rw [List.length_cons, count_succ]
      exact length
  all_goals
    rw [List.length_cons]
    omega

/-- With a destination only digits are decoded, as far as there is room. -/
theorem decodeChars_eq_ok (checks : hexDecode.Checks)
    (decodes : decodeChars hexDecode true coder text = .ok after) :
    ∃ tokens, uriTokens text = some tokens ∧
      (∀ token ∈ tokens, token.Valid) ∧ Decoded coder after tokens := by
  induction text using uriTokens.induct generalizing coder with
  | case1 =>
      cases decodes
      refine ⟨[], rfl, by simp, Nat.zero_le _, ?_, rfl, rfl⟩
      exact (UInt32.add_zero _).symm
  | case2 high low rest induction =>
      rcases @decodeChars_escape hexDecode coder high low rest checks with
        ⟨valid, room, value, goesOn⟩ | ⟨-, status, fails⟩
      · rw [goesOn] at decodes
        obtain ⟨tokens, found, allValid, decoded⟩ := induction decodes
        refine ⟨.escape high low :: tokens, ?_, ?_, decoded.cons room⟩
        · rw [uriTokens_escape, found]
          rfl
        · exact List.forall_mem_cons.mpr ⟨valid, allValid⟩
      · rw [fails] at decodes
        cases decodes
  | case3 rest cut =>
      rw [decodeChars_cut cut] at decodes
      cases decodes
  | case4 ch rest plain induction =>
      rw [decodeChars_other plain, bind_eq_ok] at decodes
      obtain ⟨between, writes, later⟩ := decodes
      obtain ⟨room, rfl⟩ := write_eq_ok writes
      obtain ⟨tokens, found, allValid, decoded⟩ := induction later
      refine ⟨.plain ch :: tokens, ?_, ?_, decoded.cons room⟩
      · rw [uriTokens_plain plain, found]
        rfl
      · exact List.forall_mem_cons.mpr ⟨trivial, allValid⟩

theorem decodeChars_of_valid (checks : hexDecode.Checks)
    {tokens : List UriToken} (found : uriTokens text = some tokens)
    (valid : ∀ token ∈ tokens, token.Valid)
    (room : tokens.length ≤ coder.remaining) :
    ∃ after, decodeChars hexDecode true coder text = .ok after := by
  induction text using uriTokens.induct generalizing coder tokens with
  | case1 => exact ⟨coder, rfl⟩
  | case2 high low rest induction =>
      rw [uriTokens_escape] at found
      obtain ⟨later, foundLater, rfl⟩ := Option.map_eq_some_iff.mp found
      obtain ⟨validFirst, validLater⟩ := List.forall_mem_cons.mp valid
      rw [List.length_cons] at room
      rcases @decodeChars_escape hexDecode coder high low rest checks with
        ⟨-, -, value, goesOn⟩ | ⟨full, -⟩
      · rw [goesOn]
        apply induction foundLater validLater
        simp only [UriCoder.emit, List.length_singleton]
        omega
      · have full := full validFirst
        omega
  | case3 rest cut =>
      rw [uriTokens_cut cut] at found
      cases found
  | case4 ch rest plain induction =>
      rw [uriTokens_plain plain] at found
      obtain ⟨later, foundLater, rfl⟩ := Option.map_eq_some_iff.mp found
      rw [List.length_cons] at room
      rw [decodeChars_other plain, write_eq_emit, ok_bind]
      · apply induction foundLater (List.forall_mem_cons.mp valid).2
        simp only [UriCoder.emit, List.length_singleton]
        omega
      · simp only [List.length_singleton]
        omega

theorem decodeChars_defined (checks : hexDecode.Checks) :
    decodeChars hexDecode true coder text ≠ .error .undefined := by
  induction text using uriTokens.induct generalizing coder with
  | case1 => simp [decodeChars]
  | case2 high low rest induction =>
      rcases @decodeChars_escape hexDecode coder high low rest checks with
        ⟨-, -, value, goesOn⟩ | ⟨-, status, fails⟩
      · rw [goesOn]
        exact induction
      · simp [fails]
  | case3 rest cut => simp [decodeChars_cut cut]
  | case4 ch rest plain induction =>
      rw [decodeChars_other plain]
      cases writes : coder.write true 0 [ch] with
      | ok between => exact induction
      | error fault =>
          rintro undefined
          cases undefined
          exact write_ne_undefined writes

theorem uriDecodeString_none {src : SizedString} :
    uriDecodeString hexDecode src none =
      match uriTokens src.value with
      | none => .error (.failed .invalidArg)
      | some tokens =>
          .ok
            { length := .ofNat (tokens.length + 1)
              remaining := 0
              written := [] } := by
  unfold uriDecodeString
  rw [Option.isSome_none, decodeChars_none]
  cases uriTokens src.value with
  | none => rfl
  | some tokens => simp [UriCoder.write]

theorem uriDecodeString_of_tokens {src : SizedString}
    {tokens : List UriToken} (found : uriTokens src.value = some tokens) :
    uriDecodeString hexDecode src none =
      .ok
        { length := .ofNat (tokens.length + 1)
          remaining := 0
          written := [] } := by
  rw [uriDecodeString_none, found]

theorem uriDecodeString_eq_ok (checks : hexDecode.Checks) {src : SizedString}
    {capacity : Nat} {filled : UriCoder}
    (fills : uriDecodeString hexDecode src (some capacity) = .ok filled) :
    ∃ tokens, uriTokens src.value = some tokens ∧
      (∀ token ∈ tokens, token.Valid) ∧ tokens.length < capacity ∧
      filled.length = .ofNat (tokens.length + 1) ∧
      filled.written.length = tokens.length + 1 := by
  obtain ⟨between, loop, last⟩ := bind_eq_ok.mp fills
  obtain ⟨tokens, found, valid, decoded⟩ := decodeChars_eq_ok checks loop
  obtain ⟨free, rfl⟩ := write_eq_ok last
  obtain ⟨room, length, remaining, written⟩ := decoded
  simp only [Option.getD_some, List.length_nil, List.length_singleton]
    at room length remaining written free
  refine ⟨tokens, found, valid, by omega, ?_, ?_⟩
  · simp only [UriCoder.emit, List.length_singleton, length, UInt32.zero_add,
      UInt32.ofNat_add]
  · simp only [UriCoder.emit, List.length_append, List.length_singleton,
      written]
    omega

theorem uriDecodeString_of_valid (checks : hexDecode.Checks)
    {src : SizedString} {capacity : Nat} {tokens : List UriToken}
    (found : uriTokens src.value = some tokens)
    (valid : ∀ token ∈ tokens, token.Valid)
    (room : tokens.length < capacity) :
    ∃ filled, uriDecodeString hexDecode src (some capacity) = .ok filled := by
  obtain ⟨between, loop⟩ := @decodeChars_of_valid hexDecode (.start capacity)
    src.value checks tokens found valid (Nat.le_of_lt room)
  obtain ⟨same, foundAgain, -, decoded⟩ := decodeChars_eq_ok checks loop
  obtain rfl : tokens = same := Option.some.inj (found.symm.trans foundAgain)
  refine ⟨between.emit [NUL], bind_eq_ok.mpr ⟨between, loop, ?_⟩⟩
  have remaining := decoded.remaining
  apply write_eq_emit
  simp only [UriCoder.start, List.length_singleton] at remaining ⊢
  omega

theorem uriDecodeString_defined (checks : hexDecode.Checks)
    {src : SizedString} {capacity : Nat} :
    uriDecodeString hexDecode src (some capacity) ≠ .error .undefined := by
  intro undefined
  have loop := @decodeChars_defined hexDecode (.start capacity) src.value
    checks
  change decodeChars hexDecode true (.start capacity) src.value >>= _ = _
    at undefined
  cases decodes : decodeChars hexDecode true (.start capacity) src.value with
  | ok between =>
      rw [decodes, ok_bind] at undefined
      exact write_ne_undefined undefined
  | error fault =>
      rw [decodes] at undefined
      cases undefined
      exact loop decodes

theorem length_uriTokens_le {tokens : List UriToken}
    (found : uriTokens text = some tokens) : tokens.length ≤ text.length := by
  induction text using uriTokens.induct generalizing tokens with
  | case1 =>
      cases found
      exact Nat.le_refl _
  | case2 high low rest induction =>
      rw [uriTokens_escape] at found
      obtain ⟨later, foundLater, rfl⟩ := Option.map_eq_some_iff.mp found
      have shorter := induction foundLater
      simp only [List.length_cons]
      omega
  | case3 rest cut =>
      rw [uriTokens_cut cut] at found
      cases found
  | case4 ch rest plain induction =>
      rw [uriTokens_plain plain] at found
      obtain ⟨later, foundLater, rfl⟩ := Option.map_eq_some_iff.mp found
      exact Nat.succ_le_succ (induction foundLater)

/-- The passes of the decoder agree exactly if every escape that it has room for
consists of digits, or the last one is cut off. -/
theorem decode_sizingAgrees_iff (checks : hexDecode.Checks)
    {src : SizedString} {capacity : UInt32}
    (addressed : src.size + 2 < 2 ^ 32) :
    SizingAgrees (uriDecodeString hexDecode src) capacity ↔
      EscapesValid src.value capacity.toNat := by
  have counted {tokens : List UriToken}
      (found : uriTokens src.value = some tokens) :
      LengthCounted (tokens.length + 1) capacity := by
    have shorter := length_uriTokens_le found
    rw [src.length_value] at shorter
    left
    omega
  constructor
  · intro agrees tokens found room
    obtain ⟨filled, fills⟩ := agrees.succeeds.mpr
      ⟨_, uriDecodeString_of_tokens found, ofNat_le_of_le room⟩
    obtain ⟨same, foundAgain, valid, -⟩ := uriDecodeString_eq_ok checks fills
    obtain rfl : tokens = same := Option.some.inj (found.symm.trans foundAgain)
    exact valid
  · intro escapes
    constructor
    case succeeds =>
        constructor
        · intro success
          obtain ⟨filled, fills⟩ := success
          obtain ⟨tokens, found, -, room, -⟩ :=
            uriDecodeString_eq_ok checks fills
          exact ⟨_, uriDecodeString_of_tokens found, ofNat_le_of_le room⟩
        · intro told
          obtain ⟨sized, sizes, told⟩ := told
          rw [uriDecodeString_none] at sizes
          cases found : uriTokens src.value with
          | none =>
              rw [found] at sizes
              cases sizes
          | some tokens =>
              rw [found] at sizes
              cases sizes
              have room := lengthCounted_iff.mp (counted found) told
              exact uriDecodeString_of_valid checks found
                (escapes tokens found room) room
    case length =>
        intro filled sized fills sizes
        obtain ⟨tokens, found, -, -, length, -⟩ :=
          uriDecodeString_eq_ok checks fills
        rw [uriDecodeString_of_tokens found] at sizes
        cases sizes
        exact length
    case defined => exact uriDecodeString_defined checks
    case within =>
        intro filled fills
        obtain ⟨tokens, -, -, room, -, written⟩ :=
          uriDecodeString_eq_ok checks fills
        omega

theorem decodesWithin (checks : hexDecode.Checks) (text : Bytes)
    (capacity : Nat) : DecodesWithin hexDecode text capacity := by
  intro count coder decodes
  obtain ⟨tokens, -, -, decoded⟩ := decodeChars_eq_ok checks decodes
  obtain ⟨room, -, -, written⟩ := decoded
  simp only [UriCoder.start, List.length_nil] at room written
  omega

/-- The passes of both functions agree if and only if the encoder comes to no
negative character, and the decoder to no escape of other characters than
digits, before the destination is full, and the length of the encoding is
counted.  The offsets in the source are those that the loops compute in 32 bits,
as long as an escape behind them is addressed. -/
theorem passesAgree_iff (checks : hexDecode.Checks) (src : SizedString)
    (capacity : UInt32) (addressed : src.size + 2 < 2 ^ 32) :
    PassesAgree hexDecode src capacity ↔
      ¬ ReachesNegative src.value capacity.toNat ∧
        LengthCounted ((uriEncoded src.value).length + 1) capacity ∧
        EscapesValid src.value capacity.toNat := by
  constructor
  · intro agree
    obtain ⟨avoids, counted⟩ := encode_sizingAgrees_iff.mp agree.encode
    exact ⟨avoids, counted,
      (decode_sizingAgrees_iff checks addressed).mp agree.decode⟩
  · intro condition
    obtain ⟨avoids, counted, escapes⟩ := condition
    constructor
    case encode => exact encode_sizingAgrees_iff.mpr ⟨avoids, counted⟩
    case encodeWithin => exact encodesWithin _ _
    case decode =>
        exact (decode_sizingAgrees_iff checks addressed).mpr escapes
    case decodeWithin => exact decodesWithin checks _ _

end Decoder

/-- The value of a digit in either case. -/
def digitValue (digit : UInt8) : Option UInt8 :=
  if isHexDigit digit then
    if digit ≤ byte '9' then some (digit - byte '0')
    else some ((digit ||| 32) - byte 'a' + 10)
  else none

/-- A decoder of pairs of digits in either case. -/
def decodeDigits (digits : Bytes) (room : Nat) : Result Bytes :=
  match digits.map digitValue with
  | [some high, some low] =>
      if 0 < room then .ok [high <<< 4 ||| low]
      else .error (.failed .bufferTooSmall)
  | _ => .error (.failed .invalidArg)

theorem digitValue_hexDigit (value : UInt8) :
    [hexDigit (value >>> 4), hexDigit (value &&& 15)].map digitValue =
        [some (value >>> 4), some (value &&& 15)] ∧
      value >>> 4 <<< 4 ||| value &&& 15 = value := by
  refine forall_byte value ?_
  decide +kernel

def HexDecode.ofDigits : HexDecode where
  decode := decodeDigits
  decode_pair value room free := by
    obtain ⟨digits, joined⟩ := digitValue_hexDigit value
    simp only [decodeDigits, digits, if_pos free, joined]

theorem digitValue_isSome (digit : UInt8) :
    (digitValue digit).isSome = isHexDigit digit := by
  unfold digitValue
  cases isHexDigit digit with
  | true =>
      simp only [if_true, apply_ite Option.isSome, Option.isSome_some,
        ite_self]
  | false => rfl

theorem HexDecode.ofDigits_checks : ofDigits.Checks where
  digits high low room highDigit lowDigit free := by
    rw [← digitValue_isSome] at highDigit lowDigit
    obtain ⟨highValue, isHigh⟩ := Option.isSome_iff_exists.mp highDigit
    obtain ⟨lowValue, isLow⟩ := Option.isSome_iff_exists.mp lowDigit
    simp [ofDigits, decodeDigits, isHigh, isLow, free]
  others high low room invalid := by
    rw [← digitValue_isSome, ← digitValue_isSome] at invalid
    simp only [ofDigits, decodeDigits, List.map_cons, List.map_nil]
    cases isHigh : digitValue high with
    | none => exact ⟨_, rfl⟩
    | some highValue =>
        cases isLow : digitValue low with
        | none => exact ⟨_, rfl⟩
        | some lowValue => simp [isHigh, isLow] at invalid
  noRoom high low := by
    simp only [ofDigits, decodeDigits, List.map_cons, List.map_nil]
    cases digitValue high with
    | none => exact ⟨_, rfl⟩
    | some highValue =>
        cases digitValue low with
        | none => exact ⟨_, rfl⟩
        | some lowValue => exact ⟨_, rfl⟩

theorem passesAgree_escape :
    PassesAgree .ofDigits (.ofBuffer (bytes "a%2fb")) 4 := by
  apply (passesAgree_iff HexDecode.ofDigits_checks _ _ (by decide)).mpr
  refine ⟨?_, ?_, ?_⟩
  · apply not_reachesNegative_of_isAscii
    rw [SizedString.value_ofBuffer (by decide)]
    decide +kernel
  · left
    decide +kernel
  · intro tokens found _
    have split : uriTokens (SizedString.ofBuffer (bytes "a%2fb")).value =
        some [.plain 97, .escape 50 102, .plain 98] := by
      rw [SizedString.value_ofBuffer (by decide)]
      rfl
    obtain rfl := Option.some.inj (split.symm.trans found)
    decide

/-- The length of an escape without digits is told, but it cannot be
decoded. -/
theorem passes_disagree :
    ¬ ∀ (hexDecode : HexDecode) (src : SizedString) (capacity : UInt32),
      hexDecode.Checks → src.size + 2 < 2 ^ 32 →
        PassesAgree hexDecode src capacity := by
  intro claim
  have agree := claim .ofDigits (.ofBuffer (bytes "%zz")) 2
    HexDecode.ofDigits_checks (by decide)
  have split : uriTokens (SizedString.ofBuffer (bytes "%zz")).value =
      some [.escape 122 122] := by
    rw [SizedString.value_ofBuffer (by decide)]
    rfl
  have valid := (decode_sizingAgrees_iff HexDecode.ofDigits_checks
    (by decide)).mp agree.decode _ split (by decide) (.escape 122 122) (by simp)
  revert valid
  decide

end Common

end KvsProducer
