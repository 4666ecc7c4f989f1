import Mathlib.Data.List.Basic

/-!
# The vendored JSON tokenizer

`jsmn.h` as it is compiled here: neither `JSMN_STRICT` nor
`JSMN_PARENT_LINKS` is defined, and every caller passes a token array.  The
C token array with its `toknext` is the list of tokens allocated so far, and
`count`, incremented with every allocation, is its length.  Positions are not
cut to the 32 bits of an `int` here: the functions are those of the header for
texts of fewer than 2³¹ bytes, where they all fit.
-/

namespace KvsProducer

/-- The bytes of a C buffer. -/
abbrev Bytes := List UInt8

/-- The byte of an ASCII character. -/
def byte (character : Char) : UInt8 := character.toNat.toUInt8

/-- The bytes of an ASCII literal, without the terminator. -/
def bytes (text : String) : Bytes := text.toList.map byte

inductive JsmnType where
  | undefined | object | array | string | primitive
  deriving DecidableEq, Repr

/-- `jsmntok_t`; `stop` is its field `end`. -/
structure JsmnTok where
  type : JsmnType
  start : Int
  stop : Int
  size : Nat
  deriving DecidableEq, Repr

def INT_MAX : Nat := 2147483647

/-- The positions of a closed token are those of two fields of type `int`. -/
structure JsmnTok.FitsInt (token : JsmnTok) : Prop where
  start_nonneg : 0 ≤ token.start
  ordered : token.start ≤ token.stop
  stop_le : token.stop.toNat ≤ INT_MAX

inductive JsmnErr where
  | noMem | inval | part
  deriving DecidableEq, Repr

/-- An object or array whose closing bracket has not been read. -/
def JsmnTok.isOpen (token : JsmnTok) : Bool :=
  token.start != -1 && token.stop == -1

def isHexDigit (c : UInt8) : Bool :=
  (48 ≤ c && c ≤ 57) || (65 ≤ c && c ≤ 70) || (97 ≤ c && c ≤ 102)

/-- The digits of an escape `\uXXXX`: how many were read before the fourth or
before the end of the text, which is not an error here. -/
def hexRun : Nat → Bytes → Except JsmnErr Nat
  | 0, _ => .ok 0
  | _ + 1, [] => .ok 0
  | wanted + 1, c :: rest =>
      if c = 0 then .ok 0
      else if isHexDigit c then (hexRun wanted rest).map (· + 1)
      else .error .inval

def isSimpleEscape (c : UInt8) : Bool :=
  (bytes "\"/\\bfrnt").contains c

/-- The loop of `jsmn_parse_string` after the opening quote: the number of
bytes before the closing one. -/
def stringRun : (fuel : Nat) → Bytes → Except JsmnErr Nat
  | 0, _ => .error .part
  | _ + 1, [] => .error .part
  | fuel + 1, c :: rest =>
      if c = 0 then .error .part
      else if c = byte '"' then .ok 0
      else if c = byte '\\' then
        match rest with
        | [] => .error .part
        | escape :: after =>
            if isSimpleEscape escape then
              (stringRun fuel after).map (· + 2)
            else if escape = byte 'u' then do
              let digits ← hexRun 4 after
              (stringRun fuel (after.drop digits)).map (· + (2 + digits))
            else .error .inval
      else (stringRun fuel rest).map (· + 1)

def isPrimitiveEnd (c : UInt8) : Bool :=
  (bytes ":\t\r\n ,]\x7d").contains c

/-- The loop of `jsmn_parse_primitive`: the number of bytes of the primitive. -/
def primitiveRun : Bytes → Except JsmnErr Nat
  | [] => .ok 0
  | c :: rest =>
      if c = 0 then .ok 0
      else if isPrimitiveEnd c then .ok 0
      else if c < 32 || 127 ≤ c then .error .inval
      else (primitiveRun rest).map (· + 1)

/-- The last allocated token that satisfies a test, searched from the end. -/
def lastIndex (test : JsmnTok → Bool) (tokens : List JsmnTok) : Option Nat :=
  (tokens.reverse.findIdx? test).map fun back => tokens.length - 1 - back

/-- `jsmn_parser` with the tokens it has filled. -/
structure JsmnParser where
  pos : Nat
  toksuper : Option Nat
  tokens : List JsmnTok
  deriving DecidableEq, Repr

/-- `jsmn_init` -/
def jsmnInit : JsmnParser := { pos := 0, toksuper := none, tokens := [] }

/-- `tokens[parser->toksuper].size++`, when there is a superior token. -/
def countChild (toksuper : Option Nat) (tokens : List JsmnTok) :
    List JsmnTok :=
  match toksuper with
  | none => tokens
  | some index =>
      tokens.modify index fun token => { token with size := token.size + 1 }

/-- `jsmn_alloc_token` and `jsmn_fill_token` -/
def allocToken (numTokens : Nat) (tokens : List JsmnTok) (token : JsmnTok) :
    Except JsmnErr (List JsmnTok) :=
  if tokens.length < numTokens then .ok (tokens ++ [token])
  else .error .noMem

/-- The branch `'{'`, `'['` of `jsmn_parse`. -/
def openBracket (numTokens : Nat) (type : JsmnType) (parser : JsmnParser) :
    Except JsmnErr JsmnParser := do
  let tokens ← allocToken numTokens parser.tokens
    { type := type, start := parser.pos, stop := -1, size := 0 }
  return { pos := parser.pos + 1
           toksuper := some parser.tokens.length
           tokens := countChild parser.toksuper tokens }

/-- The branch `'}'`, `']'`: close the innermost open token and go back to
the one around it. -/
def closeBracket (type : JsmnType) (parser : JsmnParser) :
    Except JsmnErr JsmnParser :=
  match lastIndex JsmnTok.isOpen parser.tokens with
  | none => .error .inval
  | some index =>
      if (parser.tokens[index]?).any fun token => token.type == type then
        let tokens := parser.tokens.modify index fun token =>
          { token with stop := parser.pos + 1 }
        .ok { pos := parser.pos + 1
              toksuper := lastIndex JsmnTok.isOpen (tokens.take index)
              tokens := tokens }
      else .error .inval

/-- The branch `','`: after a member or a value, the innermost open object or
array is the superior token again. -/
def comma (parser : JsmnParser) : JsmnParser :=
  let isBracket (token : JsmnTok) : Bool :=
    token.type == .array || token.type == .object
  let back :=
    match parser.toksuper with
    | none => none
    | some index =>
        if (parser.tokens[index]?).any isBracket then none
        else lastIndex (fun token => isBracket token && token.isOpen)
          parser.tokens
  { parser with
    pos := parser.pos + 1
    toksuper := back.or parser.toksuper }

/-- A string or primitive that spans `length` bytes of text from `start` and
leaves the parser at `next`. -/
def leaf (numTokens : Nat) (type : JsmnType) (start length next : Nat)
    (parser : JsmnParser) : Except JsmnErr JsmnParser := do
  let tokens ← allocToken numTokens parser.tokens
    { type := type, start := start, stop := start + length, size := 0 }
  return { pos := next
           toksuper := parser.toksuper
           tokens := countChild parser.toksuper tokens }

/-- One round of the loop of `jsmn_parse` at byte `c`, `rest` being the text
after it. -/
def jsmnRound (numTokens : Nat) (c : UInt8) (rest : Bytes)
    (parser : JsmnParser) : Except JsmnErr JsmnParser :=
  if c = byte '{' then openBracket numTokens .object parser
  else if c = byte '[' then openBracket numTokens .array parser
  else if c = byte '}' then closeBracket .object parser
  else if c = byte ']' then closeBracket .array parser
  else if c = byte '"' then do
    let length ← stringRun (rest.length + 1) rest
    leaf numTokens .string (parser.pos + 1) length (parser.pos + length + 2)
      parser
  else if (bytes "\t\r\n ").contains c then
    .ok { parser with pos := parser.pos + 1 }
  else if c = byte ':' then
    .ok { parser with
          pos := parser.pos + 1
          toksuper := if parser.tokens = [] then none
            else some (parser.tokens.length - 1) }
  else if c = byte ',' then .ok (comma parser)
  else do
    let length ← primitiveRun (c :: rest)
    leaf numTokens .primitive parser.pos length (parser.pos + length) parser

/-- The loop of `jsmn_parse`; every round consumes a byte, so one unit of
fuel a byte is enough. -/
def jsmnLoop (numTokens : Nat) (js : Bytes) :
    (fuel : Nat) → JsmnParser → Except JsmnErr JsmnParser
  | 0, parser => .ok parser
  | fuel + 1, parser =>
      match js.drop parser.pos with
      | [] => .ok parser
      | c :: rest =>
          if c = 0 then .ok parser
          else do
            let parser ← jsmnRound numTokens c rest parser
            jsmnLoop numTokens js fuel parser

/-- `jsmn_parse` after `jsmn_init`: the filled tokens, whose number is the
result of the C function, or its negative result. -/
def jsmnParse (numTokens : Nat) (js : Bytes) :
    Except JsmnErr (List JsmnTok) := do
  let parser ← jsmnLoop numTokens js js.length jsmnInit
  if parser.tokens.any JsmnTok.isOpen then .error .part
  else .ok parser.tokens

example :
    jsmnParse 100 (bytes "\x7b\"a\": [1, \"b\"]\x7d") =
      .ok [⟨.object, 0, 15, 1⟩, ⟨.string, 2, 3, 1⟩, ⟨.array, 6, 14, 2⟩,
        ⟨.primitive, 7, 8, 0⟩, ⟨.string, 11, 12, 0⟩] := by
  decide

/-- The bytes a token spans. -/
def JsmnTok.text (js : Bytes) (token : JsmnTok) : Bytes :=
  (js.drop token.start.toNat).take (token.stop - token.start).toNat

/-- `compareJsonString`: the token has the type and spells the string. -/
def compareJsonString (js : Bytes) (token : JsmnTok) (type : JsmnType)
    (text : Bytes) : Bool :=
  token.type == type && (text.length : Int) == token.stop - token.start &&
    token.text js == text

end KvsProducer
