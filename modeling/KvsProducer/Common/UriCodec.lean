import KvsProducer.Common.Text

/-!
# The URI codec

`uriEncodeString` and `uriDecodeString`.  A result is the length that the
function tells, which counts the terminator, with the bytes that it has written.
The length is a `UINT32` and wraps around.  PIC's `hexDecode` is a parameter.
-/

namespace KvsProducer

namespace Common

/-- The characters that are not encoded. -/
def isUnreserved (ch : UInt8) : Bool :=
  (byte 'A' ≤ ch && ch ≤ byte 'Z') || (byte 'a' ≤ ch && ch ≤ byte 'z') ||
    (byte '0' ≤ ch && ch ≤ byte '9') || (bytes "_-~.").contains ch

/-- The byte is not negative as a `CHAR`, which is signed. -/
def IsAscii (ch : UInt8) : Prop := ch < 128

instance (ch : UInt8) : Decidable (IsAscii ch) :=
  inferInstanceAs (Decidable (ch < 128))

/-- `alpha` -/
def hexDigits : Bytes := bytes "0123456789ABCDEF"

def hexDigit (nibble : UInt8) : UInt8 := hexDigits.getD nibble.toNat NUL

/-- What `uriEncodeString` has done with the characters before: `encodedLen`,
`remaining` and the bytes in the destination. -/
structure UriCoder where
  length : UInt32
  remaining : Nat
  written : Bytes
  deriving DecidableEq, Repr

/-- `encLen` and `decLen`, the length of an escape. -/
def ESCAPE_LEN : Nat := 3

/-- Write to the destination, if there is one: `reserved` bytes have to be
free behind what is written. -/
def UriCoder.write (coder : UriCoder) (hasDst : Bool) (reserved : Nat)
    (text : Bytes) : Result UriCoder :=
  if hasDst then
    if text.length + reserved ≤ coder.remaining then
      .ok
        { length := coder.length + .ofNat text.length
          remaining := coder.remaining - text.length
          written := coder.written ++ text }
    else .error (.failed .notEnoughMemory)
  else .ok { coder with length := coder.length + .ofNat text.length }

/-- A round of the loop of `uriEncodeString`.  An escape needs one byte more than
it has; `alpha` is indexed by the upper half of the signed character. -/
def encodeChar (hasDst : Bool) (coder : UriCoder) (ch : UInt8) :
    Result UriCoder :=
  if isUnreserved ch then coder.write hasDst 0 [ch]
  else if ch = byte '/' then coder.write hasDst 1 (bytes "%2F")
  else do
    let coder ← coder.write hasDst 1
      [byte '%', hexDigit (ch >>> 4), hexDigit (ch &&& 15)]
    if hasDst ∧ ¬ IsAscii ch then .error .undefined else .ok coder

def uriEncodeString (src : SizedString) (dst : Option Nat) :
    Result UriCoder := do
  let coder ← src.value.foldlM (encodeChar dst.isSome)
    { length := 0, remaining := dst.getD 0, written := [] }
  coder.write dst.isSome 0 [NUL]

/-- PIC's `hexDecode`: the bytes that some digits stand for, when the
destination has room for them. -/
structure HexDecode where
  decode : (digits : Bytes) → (room : Nat) → Result Bytes
  decode_pair : ∀ (value : UInt8) (room : Nat), 0 < room →
    decode [hexDigit (value >>> 4), hexDigit (value &&& 15)] room =
      .ok [value]

/-- The loop of `uriDecodeString`. -/
def decodeChars (hexDecode : HexDecode) (hasDst : Bool) :
    UriCoder → Bytes → Result UriCoder
  | coder, [] => .ok coder
  | coder, ch :: rest =>
      if ch = byte '%' then
        match rest with
        | high :: low :: rest =>
            if hasDst then
              match hexDecode.decode [high, low] coder.remaining with
              | .error fault => .error fault
              | .ok [value] =>
                  decodeChars hexDecode hasDst
                    { length := coder.length + 1
                      remaining := coder.remaining - 1
                      written := coder.written ++ [value] } rest
              | .ok _ => .error (.failed .invalidArg)
            else
              decodeChars hexDecode hasDst
                { coder with length := coder.length + 1 } rest
        | _ => .error (.failed .invalidArg)
      else
        match coder.write hasDst 0 [ch] with
        | .error fault => .error fault
        | .ok coder => decodeChars hexDecode hasDst coder rest

def uriDecodeString (hexDecode : HexDecode) (src : SizedString)
    (dst : Option Nat) : Result UriCoder := do
  let coder ← decodeChars hexDecode dst.isSome
    { length := 0, remaining := dst.getD 0, written := [] } src.value
  coder.write dst.isSome 0 [NUL]

/-! ### The encoded text -/

def encodedChar (ch : UInt8) : Bytes :=
  if isUnreserved ch then [ch]
  else [byte '%', hexDigit (ch >>> 4), hexDigit (ch &&& 15)]

/-- The percent-encoding of a text. -/
def uriEncoded (text : Bytes) : Bytes := text.flatMap encodedChar

/-- Unreserved characters, and escapes with upper-case digits. -/
inductive WellEncoded : Bytes → Prop where
  | nil : WellEncoded []
  | unreserved {ch : UInt8} {rest : Bytes}
      (plain : isUnreserved ch = true) (later : WellEncoded rest) :
      WellEncoded (ch :: rest)
  | escape {high low : UInt8} {rest : Bytes}
      (highDigit : high ∈ hexDigits) (lowDigit : low ∈ hexDigits)
      (later : WellEncoded rest) :
      WellEncoded (byte '%' :: high :: low :: rest)

/-- The coder when it has gone on with some text. -/
def UriCoder.emit (coder : UriCoder) (text : Bytes) : UriCoder :=
  { length := coder.length + .ofNat text.length
    remaining := coder.remaining - text.length
    written := coder.written ++ text }

@[simp] theorem emit_nil (coder : UriCoder) : coder.emit [] = coder := by
  simp [UriCoder.emit]

@[simp] theorem emit_emit (coder : UriCoder) (first second : Bytes) :
    (coder.emit first).emit second = coder.emit (first ++ second) := by
  simp [UriCoder.emit, UInt32.ofNat_add, UInt32.add_assoc, Nat.sub_sub]

theorem write_eq_emit {coder : UriCoder} {reserved : Nat} {text : Bytes}
    (room : text.length + reserved ≤ coder.remaining) :
    coder.write true reserved text = .ok (coder.emit text) := by
  simp [UriCoder.write, UriCoder.emit, room]

theorem hexDigit_mem (ch : UInt8) :
    hexDigit (ch >>> 4) ∈ hexDigits ∧ hexDigit (ch &&& 15) ∈ hexDigits := by
  refine forall_byte ch ?_
  decide +kernel

theorem isAscii_of_isUnreserved {ch : UInt8}
    (plain : isUnreserved ch = true) : IsAscii ch ∧ ch ≠ byte '%' := by
  revert plain
  refine forall_byte ch ?_
  decide +kernel

theorem encodedChar_slash : encodedChar (byte '/') = bytes "%2F" := by
  decide

theorem wellEncoded_uriEncoded (text : Bytes) :
    WellEncoded (uriEncoded text) := by
  induction text with
  | nil => exact .nil
  | cons ch rest induction =>
      rw [uriEncoded, List.flatMap_cons, encodedChar]
      split
      · rename_i plain
        exact .unreserved plain induction
      · obtain ⟨high, low⟩ := hexDigit_mem ch
        exact .escape high low induction

theorem length_encodedChar (c : UInt8) :
    (encodedChar c).length = if isUnreserved c then 1 else 3 := by
  unfold encodedChar
  split <;> rfl

/-- An encoding is at least as long as the value, and less than three times as
long exactly if something is not escaped. -/
theorem length_uriEncoded_bounds (value : Bytes) :
    value.length ≤ (uriEncoded value).length ∧
      (uriEncoded value).length ≤ value.length * 3 ∧
      ((uriEncoded value).length < value.length * 3 ↔
        ∃ c ∈ value, isUnreserved c = true) := by
  induction value with
  | nil => simp [uriEncoded]
  | cons c rest induction =>
      obtain ⟨atLeast, atMost, less⟩ := induction
      have split : (uriEncoded (c :: rest)).length =
          (encodedChar c).length + (uriEncoded rest).length := by
        simp [uriEncoded]
      rw [split, length_encodedChar, List.length_cons]
      by_cases plain : isUnreserved c = true
      · simp only [plain, if_true, List.mem_cons, exists_eq_or_imp, true_or,
          iff_true]
        omega
      · simp only [plain, Bool.false_eq_true, if_false, List.mem_cons,
          exists_eq_or_imp, false_or]
        refine ⟨by omega, by omega, ?_⟩
        rw [← less]
        omega

theorem encodeChar_none (coder : UriCoder) (ch : UInt8) :
    encodeChar false coder ch =
      .ok { coder with
        length := coder.length + .ofNat (encodedChar ch).length } := by
  unfold encodeChar
  split
  · rename_i plain
    simp [UriCoder.write, encodedChar, plain]
  · rename_i reserved
    split
    · rename_i slash
      subst slash
      rfl
    · simp [UriCoder.write, encodedChar, reserved]

/-- With enough room a character is encoded if it is not negative. -/
theorem encodeChar_some {coder : UriCoder} {ch : UInt8}
    (room : (encodedChar ch).length < coder.remaining) :
    encodeChar true coder ch =
      if IsAscii ch then .ok (coder.emit (encodedChar ch))
      else .error .undefined := by
  unfold encodeChar
  split
  · rename_i plain
    have one : encodedChar ch = [ch] := by simp [encodedChar, plain]
    rw [one] at room ⊢
    rw [if_pos (isAscii_of_isUnreserved plain).1]
    exact write_eq_emit (Nat.le_of_lt room)
  · rename_i reserved
    split
    · rename_i slash
      subst slash
      rw [encodedChar_slash] at room ⊢
      rw [if_pos (by decide), write_eq_emit room]
    · have escape : encodedChar ch =
          [byte '%', hexDigit (ch >>> 4), hexDigit (ch &&& 15)] := by
        simp [encodedChar, reserved]
      rw [escape] at room ⊢
      rw [write_eq_emit room]
      by_cases ascii : IsAscii ch <;> simp [ascii, bind, Except.bind]

theorem encodeChars_none (coder : UriCoder) (text : Bytes) :
    text.foldlM (encodeChar false) coder =
      .ok { coder with
        length := coder.length + .ofNat (uriEncoded text).length } := by
  induction text generalizing coder with
  | nil => simp [uriEncoded, pure, Except.pure]
  | cons ch rest induction =>
      rw [List.foldlM_cons, encodeChar_none]
      change rest.foldlM (encodeChar false) _ = _
      rw [induction]
      simp [uriEncoded, UInt32.ofNat_add, UInt32.add_assoc]

theorem encodeChars_some {coder : UriCoder} {text : Bytes}
    (room : (uriEncoded text).length < coder.remaining) :
    text.foldlM (encodeChar true) coder =
      if ∀ ch ∈ text, IsAscii ch then .ok (coder.emit (uriEncoded text))
      else .error .undefined := by
  induction text generalizing coder with
  | nil => simp [uriEncoded, pure, Except.pure]
  | cons ch rest induction =>
      have split : uriEncoded (ch :: rest) =
          encodedChar ch ++ uriEncoded rest := rfl
      rw [split, List.length_append] at room
      rw [List.foldlM_cons, encodeChar_some (by omega)]
      by_cases ascii : IsAscii ch
      · rw [if_pos ascii]
        change rest.foldlM (encodeChar true) (coder.emit (encodedChar ch)) = _
        rw [induction (by simp only [UriCoder.emit]; omega)]
        simp [ascii, split]
      · simp [ascii, bind, Except.bind]

theorem uriEncodeString_none (src : SizedString) :
    uriEncodeString src none =
      .ok
        { length := .ofNat ((uriEncoded src.value).length + 1)
          remaining := 0
          written := [] } := by
  simp [uriEncodeString, encodeChars_none, UriCoder.write, bind, Except.bind]

/-- With enough room a string is encoded if it has no negative characters. -/
theorem uriEncodeString_some {src : SizedString} {dstLen : Nat}
    (room : (uriEncoded src.value).length < dstLen) :
    uriEncodeString src (some dstLen) =
      if ∀ ch ∈ src.value, IsAscii ch then
        .ok
          { length := .ofNat ((uriEncoded src.value).length + 1)
            remaining := dstLen - (uriEncoded src.value).length - 1
            written := uriEncoded src.value ++ [NUL] }
      else .error .undefined := by
  unfold uriEncodeString
  rw [Option.isSome_some, encodeChars_some room]
  split
  · have last : 1 + 0 ≤ dstLen - (uriEncoded src.value).length := by omega
    change UriCoder.write _ true 0 [NUL] = _
    rw [write_eq_emit (by simpa [UriCoder.emit] using last)]
    simp [UriCoder.emit]
  · rfl

theorem write_eq_ok {coder after : UriCoder} {reserved : Nat} {text : Bytes}
    (writes : coder.write true reserved text = .ok after) :
    text.length + reserved ≤ coder.remaining ∧ after = coder.emit text := by
  unfold UriCoder.write at writes
  rw [if_pos rfl] at writes
  split_ifs at writes with room
  cases writes
  exact ⟨room, rfl⟩

theorem encodeChar_eq_ok {coder after : UriCoder} {ch : UInt8}
    (encodes : encodeChar true coder ch = .ok after) :
    IsAscii ch ∧ (encodedChar ch).length ≤ coder.remaining ∧
      after = coder.emit (encodedChar ch) := by
  unfold encodeChar at encodes
  split at encodes
  · rename_i plain
    obtain ⟨room, rfl⟩ := write_eq_ok encodes
    have one : encodedChar ch = [ch] := by simp [encodedChar, plain]
    rw [one]
    exact ⟨(isAscii_of_isUnreserved plain).1, room, rfl⟩
  · rename_i reserved
    split at encodes
    · rename_i slash
      subst slash
      obtain ⟨room, rfl⟩ := write_eq_ok encodes
      rw [encodedChar_slash]
      exact ⟨by decide, Nat.le_of_succ_le room, rfl⟩
    · have escape : encodedChar ch =
          [byte '%', hexDigit (ch >>> 4), hexDigit (ch &&& 15)] := by
        simp [encodedChar, reserved]
      rw [bind_eq_ok] at encodes
      obtain ⟨written, writes, checked⟩ := encodes
      obtain ⟨room, rfl⟩ := write_eq_ok writes
      split_ifs at checked with negative
      cases checked
      rw [escape]
      exact ⟨by simpa using negative, Nat.le_of_succ_le room, rfl⟩

theorem encodeChars_eq_ok {coder after : UriCoder} {text : Bytes}
    (encodes : text.foldlM (encodeChar true) coder = .ok after) :
    (∀ ch ∈ text, IsAscii ch) ∧
      (uriEncoded text).length ≤ coder.remaining ∧
      after = coder.emit (uriEncoded text) := by
  induction text generalizing coder with
  | nil =>
      cases encodes
      simp [uriEncoded]
  | cons ch rest induction =>
      rw [List.foldlM_cons, bind_eq_ok] at encodes
      obtain ⟨between, first, later⟩ := encodes
      obtain ⟨ascii, room, rfl⟩ := encodeChar_eq_ok first
      obtain ⟨asciiRest, roomRest, rfl⟩ := induction later
      have split : uriEncoded (ch :: rest) =
          encodedChar ch ++ uriEncoded rest := rfl
      simp only [UriCoder.emit] at roomRest
      refine ⟨?_, ?_, ?_⟩
      · intro c member
        rcases List.mem_cons.mp member with rfl | inRest
        · exact ascii
        · exact asciiRest c inRest
      · rw [split, List.length_append]
        omega
      · rw [emit_emit, split]

/-- A string is encoded into a destination exactly if it has no negative
characters and the destination has room for the terminator, too. -/
theorem uriEncodeString_eq_ok {src : SizedString} {dstLen : Nat}
    {coder : UriCoder} :
    uriEncodeString src (some dstLen) = .ok coder ↔
      (uriEncoded src.value).length < dstLen ∧
        (∀ ch ∈ src.value, IsAscii ch) ∧
        coder =
          { length := .ofNat ((uriEncoded src.value).length + 1)
            remaining := dstLen - (uriEncoded src.value).length - 1
            written := uriEncoded src.value ++ [NUL] } := by
  constructor
  · intro encodes
    have ends := encodes
    unfold uriEncodeString at ends
    rw [bind_eq_ok] at ends
    obtain ⟨between, loop, last⟩ := ends
    obtain ⟨ascii, room, rfl⟩ := encodeChars_eq_ok loop
    obtain ⟨terminator, -⟩ := write_eq_ok last
    have fits : (uriEncoded src.value).length < dstLen := by
      simp only [UriCoder.emit, Option.getD_some, List.length_singleton]
        at terminator room
      omega
    rw [uriEncodeString_some fits, if_pos ascii, Except.ok.injEq] at encodes
    exact ⟨fits, ascii, encodes.symm⟩
  · rintro ⟨fits, ascii, rfl⟩
    rw [uriEncodeString_some fits, if_pos ascii]

theorem decodeChars_plain (hexDecode : HexDecode) {coder : UriCoder}
    {ch : UInt8} {rest : Bytes} (notPercent : ch ≠ byte '%')
    (room : 1 ≤ coder.remaining) :
    decodeChars hexDecode true coder (ch :: rest) =
      decodeChars hexDecode true (coder.emit [ch]) rest := by
  rw [decodeChars.eq_def]
  simp only [if_neg notPercent]
  rw [write_eq_emit room]

theorem decodeChars_uriEncoded (hexDecode : HexDecode) {coder : UriCoder}
    {text : Bytes} (room : text.length < coder.remaining) :
    decodeChars hexDecode true coder (uriEncoded text) =
      .ok (coder.emit text) := by
  induction text generalizing coder with
  | nil => simp [uriEncoded, decodeChars]
  | cons ch rest induction =>
      have split : uriEncoded (ch :: rest) =
          encodedChar ch ++ uriEncoded rest := rfl
      rw [List.length_cons] at room
      have roomRest : rest.length < (coder.emit [ch]).remaining := by
        simp only [UriCoder.emit, List.length_singleton]
        omega
      have emitted : (coder.emit [ch]).emit rest = coder.emit (ch :: rest) := by
        simp
      by_cases plain : isUnreserved ch
      · have one : encodedChar ch = [ch] := by simp [encodedChar, plain]
        have notPercent := (isAscii_of_isUnreserved plain).2
        rw [split, one, List.singleton_append,
          decodeChars_plain hexDecode notPercent (by omega), ← emitted]
        exact induction roomRest
      · have escape : encodedChar ch =
            [byte '%', hexDigit (ch >>> 4), hexDigit (ch &&& 15)] := by
          simp [encodedChar, plain]
        rw [split, escape]
        simp only [List.cons_append, List.nil_append, decodeChars, if_true]
        rw [hexDecode.decode_pair ch coder.remaining (by omega)]
        rw [← emitted]
        exact induction roomRest

theorem uriDecodeString_uriEncoded (hexDecode : HexDecode)
    {src : SizedString} {text : Bytes} (encoded : src.value = uriEncoded text)
    {dstLen : Nat} (room : text.length < dstLen) :
    uriDecodeString hexDecode src (some dstLen) =
      .ok
        { length := .ofNat (text.length + 1)
          remaining := dstLen - text.length - 1
          written := text ++ [NUL] } := by
  have last : 1 + 0 ≤ dstLen - text.length := by omega
  unfold uriDecodeString
  rw [encoded, Option.isSome_some, decodeChars_uriEncoded hexDecode room]
  change UriCoder.write _ true 0 [NUL] = _
  rw [write_eq_emit (by simpa [UriCoder.emit] using last)]
  simp [UriCoder.emit]

/-- With buffers of the lengths that the functions tell, the string is encoded
into unreserved characters and escapes, and decoded into itself again. -/
def RoundTrips (hexDecode : HexDecode) (src : SizedString) : Prop :=
  ∃ sized, uriEncodeString src none = .ok sized ∧
    ∀ dstLen, sized.length.toNat ≤ dstLen →
      ∃ encoded coder, uriEncodeString src (some dstLen) = .ok coder ∧
        coder.length = sized.length ∧ coder.written = encoded ++ [NUL] ∧
        WellEncoded encoded ∧
        ∀ argument : SizedString, argument.value = encoded →
          ∀ decodedLen, src.size + 1 ≤ decodedLen →
            ∃ decoder, uriDecodeString hexDecode argument (some decodedLen) =
                .ok decoder ∧
              decoder.length.toNat = src.size + 1 ∧
              decoder.written = src.value ++ [NUL]

theorem RoundTrips.encodes {hexDecode : HexDecode} {src : SizedString}
    (roundTrips : RoundTrips hexDecode src) :
    (∀ ch ∈ src.value, IsAscii ch) ∧
      (uriEncoded src.value).length + 1 < 2 ^ 32 := by
  obtain ⟨sized, sizes, encodes⟩ := roundTrips
  rw [uriEncodeString_none] at sizes
  cases sizes
  obtain ⟨encoded, coder, encodes, -⟩ := encodes _ (Nat.le_refl _)
  obtain ⟨fits, ascii, -⟩ := uriEncodeString_eq_ok.mp encodes
  refine ⟨ascii, ?_⟩
  rw [UInt32.toNat_ofNat'] at fits
  exact Nat.lt_of_le_of_lt fits (Nat.mod_lt _ (by decide))

/-- A string survives the codec if and only if it is an ASCII string, and the
length of its encoding does not wrap around. -/
theorem roundTrips_iff (hexDecode : HexDecode) (src : SizedString) :
    RoundTrips hexDecode src ↔
      (∀ ch ∈ src.value, IsAscii ch) ∧
        (uriEncoded src.value).length + 1 < 2 ^ 32 := by
  refine ⟨RoundTrips.encodes, ?_⟩
  intro condition
  obtain ⟨ascii, counted⟩ := condition
  refine ⟨_, uriEncodeString_none src, ?_⟩
  intro dstLen room
  rw [UInt32.toNat_ofNat', Nat.mod_eq_of_lt counted] at room
  have encodes := uriEncodeString_some room
  rw [if_pos ascii] at encodes
  refine ⟨uriEncoded src.value, _, encodes, rfl, rfl,
    wellEncoded_uriEncoded _, ?_⟩
  intro argument encoded decodedLen roomDecoded
  have decodedCounted := (length_uriEncoded_bounds src.value).1
  rw [← src.length_value] at roomDecoded ⊢
  refine ⟨_, uriDecodeString_uriEncoded hexDecode encoded roomDecoded, ?_, rfl⟩
  rw [UInt32.toNat_ofNat', Nat.mod_eq_of_lt (by omega)]

/-- The value of a digit. -/
def hexValue (digit : UInt8) : Option UInt8 :=
  (hexDigits.idxOf? digit).map fun value => value.toUInt8

theorem hexValue_hexDigit (value : UInt8) :
    [hexDigit (value >>> 4), hexDigit (value &&& 15)].map hexValue =
      [some (value >>> 4), some (value &&& 15)] ∧
      value >>> 4 <<< 4 ||| value &&& 15 = value := by
  refine forall_byte value ?_
  decide +kernel

/-- A decoder of pairs of digits. -/
def HexDecode.ofPairs : HexDecode where
  decode digits room :=
    match digits.map hexValue with
    | [some high, some low] =>
        if 0 < room then .ok [high <<< 4 ||| low]
        else .error (.failed .bufferTooSmall)
    | _ => .error (.failed .invalidArg)
  decode_pair value room free := by
    obtain ⟨digits, joined⟩ := hexValue_hexDigit value
    simp only [digits, if_pos free, joined]

/-- A character at or above `0x80` indexes the table out of bounds. -/
theorem not_roundTrips :
    ¬ ∀ (hexDecode : HexDecode) (src : SizedString), src.value ≠ [] →
      RoundTrips hexDecode src := by
  intro claim
  have survives := claim .ofPairs (.ofBuffer [0xE9]) (by decide)
  have ascii := survives.encodes.1 0xE9 (by decide)
  revert ascii
  decide

end Common

end KvsProducer
