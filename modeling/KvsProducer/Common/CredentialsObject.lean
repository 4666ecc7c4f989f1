import KvsProducer.Common.Auth

/-!
# The memory of a credentials object

`createAwsCredentials` lays the strings out behind the structure, in the same
allocation, and `deserializeAwsCredentials` finds them again where the bytes of
the object have been copied to.  Writing or reading outside of a buffer is
undefined.
-/

namespace KvsProducer

namespace Common

/-- A `PCHAR` argument, the bytes that may be read from it or `NULL`, with its
`UINT32` length, of which 0 stands for the length of the string. -/
structure AuthArgument where
  pointer : Option Bytes
  length : Nat
  length_lt : length < 2 ^ 32
  deriving Repr

/-- `STRNLEN` -/
def strnlen (buffer : Bytes) (maxLen : Nat) : Result Nat :=
  let run := (buffer.takeWhile (· != NUL)).length
  if maxLen ≤ run then .ok maxLen
  else if run < buffer.length then .ok run
  else .error .undefined

/-- `IS_EMPTY_STRING` -/
def checkNonempty : Option Bytes → Result Unit
  | none => .ok ()
  | some [] => .error .undefined
  | some (c :: _) => check (c ≠ NUL) .invalidArg

namespace AuthArgument

/-- The length, calculated if not specified. -/
def size (argument : AuthArgument) : Result Nat :=
  match argument.pointer with
  | none => .ok argument.length
  | some buffer =>
      if argument.length = 0 then strnlen buffer MAX_AUTH_LEN
      else .ok argument.length

/-- What the caller has passed: as many bytes as specified, or a string. -/
def original (argument : AuthArgument) : Option Bytes :=
  argument.pointer.map fun buffer =>
    if argument.length = 0 then buffer.takeWhile (· != NUL)
    else buffer.take argument.length

end AuthArgument

/-- `AwsCredentials`, with 0 for a pointer that is `NULL`. -/
structure CredentialsHeader where
  version : Nat
  size : Nat
  accessKeyId : Nat
  accessKeyIdLen : Nat
  secretKey : Nat
  secretKeyLen : Nat
  sessionToken : Nat
  sessionTokenLen : Nat
  expiration : Nat
  deriving DecidableEq, Repr

def AWS_CREDENTIALS_CURRENT_VERSION : Nat := 0

/-- The bytes of an object at an address: the structure and what follows it. -/
structure CredentialsObject where
  address : Nat
  header : CredentialsHeader
  strings : Bytes
  deriving DecidableEq, Repr

/-- The part of the allocation behind the structure, of which `pCurPtr` has
passed the first bytes. -/
structure StringArea where
  memory : Bytes
  used : Nat
  deriving Repr

/-- `MEMCPY` to `pCurPtr`, which goes on behind the copy. -/
def StringArea.put (area : StringArea) (text : Bytes) : Result StringArea := do
  defined (area.used + text.length ≤ area.memory.length)
  .ok
    { memory := area.memory.take area.used ++ text ++
        area.memory.drop (area.used + text.length)
      used := area.used + text.length }

/-- One of the strings with the NUL behind it, unless it is `NULL`. -/
def StringArea.putString (area : StringArea) (source : Option Bytes)
    (length : Nat) : Result StringArea :=
  match source with
  | none => .ok area
  | some source => do
      defined (length ≤ source.length)
      let area ← area.put (source.take length)
      area.put [NUL]

/-- The 32-bit size of the object. -/
def credentialsSize (accessKeyIdLen secretKeyLen : Nat)
    (sessionTokenLen : Option Nat) : Nat :=
  let size := (SIZEOF_AWS_CREDENTIALS +
    (accessKeyIdLen + 1 + secretKeyLen + 1) % 2 ^ 32) % 2 ^ 32
  match sessionTokenLen with
  | none => size
  | some sessionTokenLen => (size + (sessionTokenLen + 1) % 2 ^ 32) % 2 ^ 32

/-- `createAwsCredentials`; the allocation, if there is one, is at the given
address. -/
def createCredentialsObject (accessKeyId secretKey sessionToken : AuthArgument)
    (expiration : Nat) (allocation : Option Nat) :
    Result CredentialsObject := do
  check (accessKeyId.pointer.isSome ∧ secretKey.pointer.isSome ∧
    (sessionToken.pointer.isSome ∨ sessionToken.length = 0)) .nullArg
  checkNonempty accessKeyId.pointer
  checkNonempty secretKey.pointer
  checkNonempty sessionToken.pointer
  let accessKeyIdLen ← accessKeyId.size
  let secretKeyLen ← secretKey.size
  let sessionTokenLen ← sessionToken.size
  let size := credentialsSize accessKeyIdLen secretKeyLen
    (sessionToken.pointer.map fun _ => sessionTokenLen)
  check (size < MAX_AUTH_LEN) .invalidAuthLen
  let address ← checkSome .notEnoughMemory allocation
  -- the structure has to fit into what has been allocated
  defined (SIZEOF_AWS_CREDENTIALS ≤ size)
  let start := address + SIZEOF_AWS_CREDENTIALS
  let area : StringArea :=
    { memory := List.replicate (size - SIZEOF_AWS_CREDENTIALS) 0
      used := 0 }
  let afterId ← area.putString accessKeyId.pointer accessKeyIdLen
  let afterKey ← afterId.putString secretKey.pointer secretKeyLen
  let afterToken ← afterKey.putString sessionToken.pointer sessionTokenLen
  check (address + size = start + afterToken.used) .internalError
  .ok
    { address := address
      header :=
        { version := AWS_CREDENTIALS_CURRENT_VERSION
          size := size
          accessKeyId := start
          accessKeyIdLen := accessKeyIdLen
          secretKey := start + afterId.used
          secretKeyLen := secretKeyLen
          sessionToken :=
            if sessionToken.pointer.isSome then start + afterKey.used else 0
          sessionTokenLen := sessionTokenLen
          expiration := expiration }
      strings := afterToken.memory }

/-- The bytes of the object at another address. -/
def CredentialsObject.copyTo (object : CredentialsObject) (address : Nat) :
    CredentialsObject :=
  { object with address := address }

/-- The object with its pointers set to where its own strings are. -/
def CredentialsObject.repointed (token : CredentialsObject) :
    CredentialsObject :=
  let accessKeyId := token.address + SIZEOF_AWS_CREDENTIALS
  let secretKey := accessKeyId + token.header.accessKeyIdLen + 1
  { token with
    header :=
      { token.header with
        accessKeyId := accessKeyId
        secretKey := secretKey
        sessionToken :=
          if token.header.sessionToken ≠ 0 then
            secretKey + token.header.secretKeyLen + 1
          else token.header.sessionToken } }

def deserializeAwsCredentials (token : CredentialsObject) :
    Result CredentialsObject := do
  check (token.address ≠ 0) .nullArg
  check (token.header.accessKeyId ≠ 0 ∧ token.header.secretKey ≠ 0 ∧
    (token.header.sessionToken ≠ 0 ∨ token.header.sessionTokenLen = 0))
    .invalidArg
  .ok token.repointed

/-- Copy the bytes to one address after the other, and deserialize them at each
of them. -/
def deserializeCopies (object : CredentialsObject) :
    (addresses : List Nat) → Result CredentialsObject
  | [] => .ok object
  | address :: addresses => do
      let copy ← deserializeAwsCredentials (object.copyTo address)
      deserializeCopies copy addresses

/-! ### What an object holds -/

/-- The strings of a credentials object. -/
structure CredentialStrings where
  accessKeyId : Bytes
  secretKey : Bytes
  sessionToken : Option Bytes
  deriving DecidableEq, Repr

namespace CredentialsObject

/-- The string that a pointer into the object points to, if as many bytes as the
length are inside the object and a NUL follows. -/
def stringAt (object : CredentialsObject) (pointer length : Nat) :
    Option Bytes :=
  let start := object.address + SIZEOF_AWS_CREDENTIALS
  let behind := object.strings.drop (pointer - start)
  if start ≤ pointer ∧ behind[length]? = some NUL then
    some (behind.take length)
  else none

/-- The object holds the strings, and nothing behind them. -/
structure Holds (object : CredentialsObject) (strings : CredentialStrings)
    (expiration : Nat) : Prop where
  size : object.header.size = SIZEOF_AWS_CREDENTIALS + object.strings.length
  used : object.header.size = awsCredentialsSize strings.accessKeyId.length
    strings.secretKey.length (strings.sessionToken.map List.length)
  size_lt : object.header.size < MAX_AUTH_LEN
  accessKeyId : object.stringAt object.header.accessKeyId
    object.header.accessKeyIdLen = some strings.accessKeyId
  accessKeyIdLen : object.header.accessKeyIdLen = strings.accessKeyId.length
  secretKey : object.stringAt object.header.secretKey
    object.header.secretKeyLen = some strings.secretKey
  secretKeyLen : object.header.secretKeyLen = strings.secretKey.length
  sessionToken : ∀ token ∈ strings.sessionToken,
    object.stringAt object.header.sessionToken
      object.header.sessionTokenLen = some token
  sessionToken_null :
    object.header.sessionToken = 0 ↔ strings.sessionToken = none
  sessionTokenLen : object.header.sessionTokenLen =
    (strings.sessionToken.getD []).length
  expiration : object.header.expiration = expiration

end CredentialsObject

/-- What is laid out behind the structure. -/
def CredentialStrings.layout (strings : CredentialStrings) : Bytes :=
  terminated strings.accessKeyId ++ (terminated strings.secretKey ++
    (strings.sessionToken.map terminated).getD [])

/-- What the bytes of an object say, wherever they are. -/
structure CredentialsObject.Lays (object : CredentialsObject)
    (strings : CredentialStrings) (expiration : Nat) : Prop where
  layout : object.strings = strings.layout
  size : object.header.size = SIZEOF_AWS_CREDENTIALS + object.strings.length
  size_lt : object.header.size < MAX_AUTH_LEN
  accessKeyIdLen : object.header.accessKeyIdLen = strings.accessKeyId.length
  secretKeyLen : object.header.secretKeyLen = strings.secretKey.length
  sessionTokenLen : object.header.sessionTokenLen =
    (strings.sessionToken.getD []).length
  accessKeyId : object.header.accessKeyId ≠ 0
  secretKey : object.header.secretKey ≠ 0
  sessionToken : object.header.sessionToken = 0 ↔ strings.sessionToken = none
  expiration : object.header.expiration = expiration

/-- The pointers point to the strings of the object itself. -/
structure CredentialsObject.Points (object : CredentialsObject) : Prop where
  accessKeyId : object.header.accessKeyId =
    object.address + SIZEOF_AWS_CREDENTIALS
  secretKey : object.header.secretKey =
    object.header.accessKeyId + object.header.accessKeyIdLen + 1
  sessionToken : object.header.sessionToken ≠ 0 →
    object.header.sessionToken =
      object.header.secretKey + object.header.secretKeyLen + 1

section Reading

variable {object : CredentialsObject} {strings : CredentialStrings}
variable {expiration : Nat}

theorem stringAt_offset {before text behind : Bytes} {pointer length : Nat}
    (memory : object.strings = before ++ (terminated text ++ behind))
    (points : pointer =
      object.address + SIZEOF_AWS_CREDENTIALS + before.length)
    (sized : length = text.length) :
    object.stringAt pointer length = some text := by
  have offset :
      pointer - (object.address + SIZEOF_AWS_CREDENTIALS) = before.length := by
    omega
  simp only [CredentialsObject.stringAt, offset, memory, List.drop_left,
    sized, terminated, List.append_assoc]
  rw [if_pos]
  · simp
  · refine ⟨by omega, ?_⟩
    rw [List.getElem?_append_right (Nat.le_refl _)]
    simp

theorem length_layout (strings : CredentialStrings) :
    SIZEOF_AWS_CREDENTIALS + strings.layout.length =
      awsCredentialsSize strings.accessKeyId.length strings.secretKey.length
        (strings.sessionToken.map List.length) := by
  rw [CredentialStrings.layout, awsCredentialsSize.eq_def]
  cases strings.sessionToken <;>
    simp [terminated, Nat.add_assoc, Nat.add_comm, Nat.add_left_comm]

/-- Where the pointers point to the strings, the object holds them. -/
theorem CredentialsObject.Lays.holds (lays : object.Lays strings expiration)
    (points : object.Points) : object.Holds strings expiration := by
  have memory := lays.layout
  rw [CredentialStrings.layout] at memory
  have start := points.accessKeyId
  have second := points.secretKey
  have idLen := lays.accessKeyIdLen
  have keyLen := lays.secretKeyLen
  constructor
  case size => exact lays.size
  case used => rw [lays.size, lays.layout, length_layout]
  case size_lt => exact lays.size_lt
  case accessKeyId => exact @stringAt_offset _ [] _ _ _ _ memory start idLen
  case accessKeyIdLen => exact idLen
  case secretKey =>
      refine stringAt_offset memory ?_ keyLen
      rw [terminated, List.length_append, List.length_singleton]
      omega
  case secretKeyLen => exact keyLen
  case sessionToken =>
      intro token isToken
      have nonnull : object.header.sessionToken ≠ 0 := by
        rw [Ne, lays.sessionToken, isToken]
        simp
      have third := points.sessionToken nonnull
      have tokenLen := lays.sessionTokenLen
      rw [isToken, Option.getD_some] at tokenLen
      have behind : object.strings =
          (terminated strings.accessKeyId ++ terminated strings.secretKey) ++
            (terminated token ++ []) := by
        rw [memory, isToken]
        simp
      refine stringAt_offset behind ?_ tokenLen
      simp only [terminated, List.length_append, List.length_singleton]
      omega
  case sessionToken_null => exact lays.sessionToken
  case sessionTokenLen => exact lays.sessionTokenLen
  case expiration => exact lays.expiration

theorem CredentialsObject.Lays.copyTo (lays : object.Lays strings expiration)
    (address : Nat) : (object.copyTo address).Lays strings expiration := by
  obtain ⟨layout, size, size_lt, idLen, keyLen, tokenLen, id, key, token,
    expires⟩ := lays
  exact ⟨layout, size, size_lt, idLen, keyLen, tokenLen, id, key, token,
    expires⟩

theorem CredentialsObject.Lays.repointed
    (lays : object.Lays strings expiration) :
    object.repointed.Lays strings expiration ∧ object.repointed.Points := by
  obtain ⟨layout, size, size_lt, idLen, keyLen, tokenLen, id, key, token,
    expires⟩ := lays
  by_cases null : object.header.sessionToken = 0
  · constructor
    · refine ⟨layout, size, size_lt, idLen, keyLen, tokenLen, ?_, ?_, ?_,
        expires⟩
      · simp [CredentialsObject.repointed, SIZEOF_AWS_CREDENTIALS]
      · simp [CredentialsObject.repointed]
      · simpa [CredentialsObject.repointed, null] using token
    · exact ⟨rfl, rfl, by simp [CredentialsObject.repointed, null]⟩
  · constructor
    · refine ⟨layout, size, size_lt, idLen, keyLen, tokenLen, ?_, ?_, ?_,
        expires⟩
      · simp [CredentialsObject.repointed, SIZEOF_AWS_CREDENTIALS]
      · simp [CredentialsObject.repointed]
      · simpa [CredentialsObject.repointed, null] using token
    · exact ⟨rfl, rfl, by simp [CredentialsObject.repointed, null]⟩

theorem CredentialsObject.Lays.deserialize
    (lays : object.Lays strings expiration) (address : object.address ≠ 0) :
    deserializeAwsCredentials object = .ok object.repointed := by
  have valid : object.header.accessKeyId ≠ 0 ∧ object.header.secretKey ≠ 0 ∧
      (object.header.sessionToken ≠ 0 ∨ object.header.sessionTokenLen = 0) := by
    refine ⟨lays.accessKeyId, lays.secretKey, ?_⟩
    by_cases null : object.header.sessionToken = 0
    · right
      rw [lays.sessionTokenLen, lays.sessionToken.mp null]
      rfl
    · exact Or.inl null
  simp only [deserializeAwsCredentials, check, if_pos address, if_pos valid,
    ok_bind]

/-- After any number of copies, the object holds the strings. -/
theorem CredentialsObject.Lays.deserializeCopies
    (lays : object.Lays strings expiration) (points : object.Points)
    {addresses : List Nat} (nonnull : 0 ∉ addresses) :
    ∃ copy, Common.deserializeCopies object addresses = .ok copy ∧
      copy.address = addresses.getLastD object.address ∧
      copy.Holds strings expiration := by
  induction addresses generalizing object with
  | nil => exact ⟨object, rfl, rfl, lays.holds points⟩
  | cons address addresses induction =>
      rw [List.mem_cons, not_or] at nonnull
      obtain ⟨laysCopy, pointsCopy⟩ := (lays.copyTo address).repointed
      obtain ⟨copy, copies, last, holds⟩ :=
        induction laysCopy pointsCopy nonnull.2
      refine ⟨copy, ?_, ?_, holds⟩
      · rw [Common.deserializeCopies,
          (lays.copyTo address).deserialize (Ne.symm nonnull.1), ok_bind]
        exact copies
      · rw [last, List.getLastD_cons]
        rfl

end Reading

/-! ### What the constructor lays out -/

section Writing

variable {area after : StringArea} {text : Bytes}

theorem StringArea.put_eq_ok (within : area.used ≤ area.memory.length)
    (puts : area.put text = .ok after) :
    after.used = area.used + text.length ∧
      after.used ≤ after.memory.length ∧
      after.memory.length = area.memory.length ∧
      after.memory.take after.used = area.memory.take area.used ++ text := by
  simp only [put, bind_eq_ok, defined_eq_ok, Except.ok.injEq] at puts
  obtain ⟨_, fits, rfl⟩ := puts
  have length : (area.memory.take area.used ++ text ++
      area.memory.drop (area.used + text.length)).length =
      area.memory.length := by
    simp only [List.length_append, List.length_take, List.length_drop]
    omega
  refine ⟨rfl, ?_, length, ?_⟩
  · simp only [length]
    exact fits
  · have prefixLength :
        (area.memory.take area.used ++ text).length =
          area.used + text.length := by
      simp only [List.length_append, List.length_take]
      omega
    simp only [← prefixLength]
    exact List.take_left

theorem StringArea.putString_eq_ok {source : Bytes} {length : Nat}
    (within : area.used ≤ area.memory.length)
    (puts : area.putString (some source) length = .ok after) :
    length ≤ source.length ∧
      after.used = area.used + length + 1 ∧
      after.used ≤ after.memory.length ∧
      after.memory.length = area.memory.length ∧
      after.memory.take after.used =
        area.memory.take area.used ++ terminated (source.take length) := by
  simp only [putString, bind_eq_ok, defined_eq_ok] at puts
  obtain ⟨_, readable, between, copies, terminates⟩ := puts
  obtain ⟨used, inside, size, copied⟩ := put_eq_ok within copies
  obtain ⟨usedAfter, insideAfter, sizeAfter, ended⟩ :=
    put_eq_ok inside terminates
  have taken : (source.take length).length = length :=
    List.length_take_of_le readable
  refine ⟨readable, ?_, insideAfter, sizeAfter.trans size, ?_⟩
  · rw [usedAfter, used, taken]
    rfl
  · rw [ended, copied, List.append_assoc]
    rfl

end Writing

theorem strnlen_eq_ok {buffer : Bytes} {maxLen length : Nat}
    (counts : strnlen buffer maxLen = .ok length) (short : length < maxLen) :
    buffer.take length = buffer.takeWhile (· != NUL) := by
  simp only [strnlen] at counts
  split at counts
  · cases counts
    exact absurd short (Nat.lt_irrefl _)
  · split at counts
    · cases counts
      exact List.prefix_iff_eq_take.mp (List.takeWhile_prefix _) |>.symm
    · cases counts

/-- As many bytes as have been copied are what the caller has passed. -/
theorem AuthArgument.original_of_size {argument : AuthArgument} {buffer : Bytes}
    {length : Nat} (points : argument.pointer = some buffer)
    (sized : argument.size = .ok length) (short : length < MAX_AUTH_LEN) :
    argument.original = some (buffer.take length) := by
  simp only [size, points] at sized
  simp only [original, points, Option.map_some]
  split at sized
  · rename_i calculated
    rw [if_pos calculated, strnlen_eq_ok sized short]
  · rename_i specified
    cases sized
    rw [if_neg specified]

/-- The arguments are the strings. -/
def CredentialStrings.Of (strings : CredentialStrings)
    (accessKeyId secretKey sessionToken : AuthArgument) : Prop :=
  accessKeyId.original = some strings.accessKeyId ∧
    secretKey.original = some strings.secretKey ∧
    sessionToken.original = strings.sessionToken

theorem createCredentialsObject_lays
    {accessKeyId secretKey sessionToken : AuthArgument} {expiration : Nat}
    {allocation : Option Nat} {object : CredentialsObject}
    (creates : createCredentialsObject accessKeyId secretKey sessionToken
      expiration allocation = .ok object) :
    ∃ strings : CredentialStrings,
      strings.Of accessKeyId secretKey sessionToken ∧
      object.Lays strings expiration ∧ object.Points := by
  simp only [createCredentialsObject, bind_eq_ok, check_eq_ok, checkSome_eq_ok,
    defined_eq_ok, Except.ok.injEq] at creates
  obtain ⟨_, ⟨hasId, hasKey, hasToken⟩, _, -, _, -, _, -, idLen, sizedId,
    keyLen, sizedKey, tokenLen, sizedToken, _, small, address, -, _, roomy,
    afterId, putsId, afterKey, putsKey, afterToken, putsToken, _, exact,
    rfl⟩ := creates
  obtain ⟨id, idPoints⟩ := Option.isSome_iff_exists.mp hasId
  obtain ⟨key, keyPoints⟩ := Option.isSome_iff_exists.mp hasKey
  rw [idPoints] at putsId
  rw [keyPoints] at putsKey
  obtain ⟨idReadable, usedId, insideId, memoryId, laysId⟩ :=
    StringArea.putString_eq_ok (Nat.zero_le _) putsId
  obtain ⟨keyReadable, usedKey, insideKey, memoryKey, laysKey⟩ :=
    StringArea.putString_eq_ok insideId putsKey
  dsimp only at usedId memoryId laysId
  rw [List.length_replicate] at memoryId
  rw [List.take_zero, List.nil_append] at laysId
  have summary : afterToken.memory.length = afterKey.memory.length ∧
      afterKey.used ≤ afterToken.used ∧
      (∀ token ∈ sessionToken.pointer, tokenLen ≤ token.length ∧
        afterToken.used = afterKey.used + tokenLen + 1) ∧
      afterToken.used ≤ afterToken.memory.length ∧
      afterToken.memory.take afterToken.used =
        afterKey.memory.take afterKey.used ++
          ((sessionToken.pointer.map (·.take tokenLen)).map
            terminated).getD [] := by
    cases tokenPoints : sessionToken.pointer with
    | none =>
        rw [tokenPoints] at putsToken
        cases putsToken
        simp [insideKey]
    | some token =>
        rw [tokenPoints] at putsToken
        obtain ⟨readable, used, inside, memory, lays⟩ :=
          StringArea.putString_eq_ok insideKey putsToken
        refine ⟨memory, by omega, ?_, inside, lays⟩
        rintro _ ⟨⟩
        exact ⟨readable, used⟩
  obtain ⟨memoryToken, grows, usedToken, insideToken, laysToken⟩ := summary
  have full : afterToken.used = afterToken.memory.length := by omega
  have sizes : idLen < MAX_AUTH_LEN ∧ keyLen < MAX_AUTH_LEN := by omega
  rw [full, List.take_length] at laysToken
  refine ⟨⟨id.take idLen, key.take keyLen,
    sessionToken.pointer.map (·.take tokenLen)⟩, ⟨?_, ?_, ?_⟩, ?_, ?_⟩
  · exact AuthArgument.original_of_size idPoints sizedId sizes.1
  · exact AuthArgument.original_of_size keyPoints sizedKey sizes.2
  · cases tokenPoints : sessionToken.pointer with
    | none => simp [AuthArgument.original, tokenPoints]
    | some token =>
        have short := (usedToken token tokenPoints).2
        exact AuthArgument.original_of_size tokenPoints sizedToken (by omega)
  · constructor
    case layout =>
        rw [laysToken, laysKey, laysId, List.append_assoc]
        rfl
    case size => simp only; omega
    case size_lt => exact small
    case accessKeyIdLen => exact (List.length_take_of_le idReadable).symm
    case secretKeyLen => exact (List.length_take_of_le keyReadable).symm
    case sessionTokenLen =>
        cases tokenPoints : sessionToken.pointer with
        | none =>
            simp only [AuthArgument.size, tokenPoints] at sizedToken
            rw [tokenPoints] at hasToken
            cases sizedToken
            simpa using hasToken
        | some token =>
            have readable := (usedToken token tokenPoints).1
            exact (List.length_take_of_le readable).symm
    case accessKeyId => simp only [SIZEOF_AWS_CREDENTIALS]; omega
    case secretKey => simp only [SIZEOF_AWS_CREDENTIALS]; omega
    case sessionToken =>
        cases sessionToken.pointer <;> simp [SIZEOF_AWS_CREDENTIALS]
    case expiration => rfl
  · constructor
    case accessKeyId => rfl
    case secretKey => simp only; omega
    case sessionToken =>
        intro nonnull
        have isSome : sessionToken.pointer.isSome = true := by
          by_contra null
          exact nonnull (if_neg null)
        simp only [if_pos isSome]
        omega

/-- Credentials that have been constructed are found again wherever their bytes
are copied to: the object is as large as its strings need, and any number of
copies hold the strings that were passed. -/
theorem createAwsCredentials_roundTrip
    {accessKeyId secretKey sessionToken : AuthArgument} {expiration : Nat}
    {allocation : Option Nat} {object : CredentialsObject}
    (creates : createCredentialsObject accessKeyId secretKey sessionToken
      expiration allocation = .ok object)
    {addresses : List Nat} (nonnull : 0 ∉ addresses) :
    ∃ strings : CredentialStrings,
      strings.Of accessKeyId secretKey sessionToken ∧
      object.Holds strings expiration ∧
      ∃ copy, deserializeCopies object addresses = .ok copy ∧
        copy.address = addresses.getLastD object.address ∧
        copy.header.size = object.header.size ∧
        copy.Holds strings expiration := by
  obtain ⟨strings, passed, lays, points⟩ := createCredentialsObject_lays creates
  obtain ⟨copy, copies, last, holds⟩ := lays.deserializeCopies points nonnull
  have original := lays.holds points
  refine ⟨strings, passed, original, copy, copies, last, ?_, holds⟩
  rw [holds.used, original.used]

/-- An access key ID with its length, a secret key without, and a token that is
not used up. -/
def sampleId : AuthArgument where
  pointer := some (terminated (bytes "AKID"))
  length := 4
  length_lt := by decide

def sampleSecret : AuthArgument where
  pointer := some (terminated (bytes "SECRET"))
  length := 0
  length_lt := Nat.two_pow_pos 32

def sampleSessionToken : AuthArgument where
  pointer := some (bytes "TOKEN and more")
  length := 5
  length_lt := Nat.lt_of_lt_of_le (Nat.lt_succ_self 5) (by decide)

theorem createCredentialsObject_sample :
    (createCredentialsObject sampleId sampleSecret sampleSessionToken 7
      (some 4096)).isOk = true := by
  decide +kernel

theorem createAwsCredentials_roundTrip_sample :
    ∃ object, createCredentialsObject sampleId sampleSecret sampleSessionToken 7
        (some 4096) = .ok object ∧
      ∃ strings : CredentialStrings,
        strings.Of sampleId sampleSecret sampleSessionToken ∧
        object.Holds strings 7 ∧
        ∃ copy, deserializeCopies object [8192, 8192, 64] = .ok copy ∧
          copy.address = 64 ∧ copy.header.size = object.header.size ∧
          copy.Holds strings 7 := by
  obtain ⟨object, creates⟩ := isOk_iff.mp createCredentialsObject_sample
  exact ⟨object, creates,
    createAwsCredentials_roundTrip creates (by decide)⟩

/-! ### The credentials of the other modules -/

/-- The argument is the string with its length. -/
def AuthArgument.Passes (argument : AuthArgument) (string : SizedString) :
    Prop :=
  argument.pointer = some (terminated string.text) ∧
    argument.length = string.length

def AuthArgument.PassesToken (argument : AuthArgument) : SessionToken → Prop
  | .null length => argument.pointer = none ∧ argument.length = length
  | .token string => argument.Passes string

section Refines

variable {argument : AuthArgument} {string : SizedString} {text : Bytes}

theorem takeWhile_terminated (string : SizedString) :
    (terminated string.text).takeWhile (· != NUL) = string.text := by
  have plain : ∀ c ∈ string.text, (c != NUL) = true := by
    intro c member
    rw [bne_iff_ne]
    rintro rfl
    exact string.unterminated member
  rw [terminated, List.takeWhile_append_of_pos plain]
  simp

/-- What has been passed is the value of the string, unless it is too long. -/
theorem AuthArgument.Passes.value (passes : argument.Passes string)
    (original : argument.original = some text)
    (short : text.length < MAX_AUTH_LEN) : text = string.authValue := by
  obtain ⟨pointer, length⟩ := passes
  have within := string.within
  simp only [AuthArgument.original, pointer, Option.map_some, length,
    takeWhile_terminated, Option.some.injEq] at original
  rw [SizedString.authValue, SizedString.authLen]
  split at original
  · rename_i calculated
    rw [if_pos calculated, original, Nat.min_eq_left (Nat.le_of_lt short),
      List.take_length]
  · rename_i specified
    rw [if_neg specified, ← original, terminated,
      List.take_append_of_le_length within]

theorem checkNonempty_terminated :
    checkNonempty (some (terminated string.text)) = .ok () ↔
      string.text ≠ [] := by
  cases text : string.text with
  | nil => simp [terminated, checkNonempty]
  | cons c rest =>
      have other : c ≠ NUL := by
        rintro rfl
        exact string.unterminated (by simp [text])
      simp [terminated, checkNonempty, other]

theorem createCredentialsObject_nonempty
    {accessKeyId secretKey sessionToken : AuthArgument} {expiration : Nat}
    {allocation : Option Nat} {object : CredentialsObject}
    (creates : createCredentialsObject accessKeyId secretKey sessionToken
      expiration allocation = .ok object) :
    (sessionToken.pointer.isSome = true ∨ sessionToken.length = 0) ∧
      checkNonempty accessKeyId.pointer = .ok () ∧
      checkNonempty secretKey.pointer = .ok () ∧
      checkNonempty sessionToken.pointer = .ok () := by
  simp only [createCredentialsObject, bind_eq_ok, check_eq_ok] at creates
  obtain ⟨_, ⟨-, -, hasToken⟩, ⟨⟩, id, ⟨⟩, key, ⟨⟩, token, -⟩ := creates
  exact ⟨hasToken, id, key, token⟩

/-- An object that has been constructed holds the credentials of
`createAwsCredentials`. -/
theorem createCredentialsObject_refines
    {accessKeyId secretKey sessionToken : AuthArgument} {expiration : Nat}
    {allocation : Option Nat} {object : CredentialsObject}
    {id key : SizedString} {token : SessionToken}
    (creates : createCredentialsObject accessKeyId secretKey sessionToken
      expiration allocation = .ok object)
    (passesId : accessKeyId.Passes id) (passesKey : secretKey.Passes key)
    (passesToken : sessionToken.PassesToken token) :
    ∃ credentials, createAwsCredentials true (some id) (some key) token
        expiration = .ok credentials ∧
      object.Holds ⟨credentials.accessKeyId, credentials.secretKey,
        credentials.sessionToken⟩ expiration := by
  obtain ⟨hasToken, idChecked, keyChecked, tokenChecked⟩ :=
    createCredentialsObject_nonempty creates
  obtain ⟨⟨idText, keyText, tokenText⟩, ⟨ofId, ofKey, ofToken⟩, lays, points⟩ :=
    createCredentialsObject_lays creates
  have holds := lays.holds points
  have used := holds.used
  have small := holds.size_lt
  have short : idText.length < MAX_AUTH_LEN ∧ keyText.length < MAX_AUTH_LEN ∧
      ∀ text ∈ tokenText, text.length < MAX_AUTH_LEN := by
    rw [used] at small
    cases tokenText with
    | none =>
        simp only [awsCredentialsSize, Option.map_none] at small
        exact ⟨by omega, by omega, by simp⟩
    | some text =>
        simp only [awsCredentialsSize, Option.map_some] at small
        refine ⟨by omega, by omega, ?_⟩
        rintro _ ⟨⟩
        omega
  obtain rfl := passesId.value ofId short.1
  obtain rfl := passesKey.value ofKey short.2.1
  have tokenValue : tokenText = token.string.map (·.authValue) := by
    cases token with
    | null length =>
        rw [AuthArgument.original, passesToken.1] at ofToken
        exact ofToken.symm
    | token string =>
        obtain ⟨text, isText⟩ : ∃ text, tokenText = some text := by
          rw [AuthArgument.original, passesToken.1] at ofToken
          exact ⟨_, ofToken.symm⟩
        subst isText
        exact congrArg some (passesToken.value ofToken (short.2.2 text rfl))
  subst tokenValue
  have fits : awsCredentialsSize id.authLen key.authLen
      (token.string.map (·.authLen)) < MAX_AUTH_LEN := by
    rw [used] at small
    simpa [Function.comp_def] using small
  have nonempty : id.text ≠ [] ∧ key.text ≠ [] := by
    rw [passesId.1, checkNonempty_terminated] at idChecked
    rw [passesKey.1, checkNonempty_terminated] at keyChecked
    exact ⟨idChecked, keyChecked⟩
  have tokenNonempty : ∀ string ∈ token.string, string.text ≠ [] := by
    cases token with
    | null length => simp [SessionToken.string]
    | token string =>
        rintro _ ⟨⟩
        rw [passesToken.1, checkNonempty_terminated] at tokenChecked
        exact tokenChecked
  have noLength : ¬ token.nullLen ≠ 0 := by
    cases token with
    | null length =>
        rw [passesToken.1, passesToken.2] at hasToken
        simpa [SessionToken.nullLen] using hasToken
    | token string => simp [SessionToken.nullLen]
  have wraps : awsCredentialsSize id.authLen key.authLen
      (token.string.map (·.authLen)) % 2 ^ 32 < MAX_AUTH_LEN :=
    Nat.lt_of_le_of_lt (Nat.mod_le _ _) fits
  have created : (createAwsCredentials true (some id) (some key) token
      expiration).isOk = true := by
    rw [createAwsCredentials, if_neg noLength, dif_pos nonempty,
      dif_pos tokenNonempty, if_pos wraps, if_pos rfl, dif_pos fits]
    rfl
  obtain ⟨credentials, creates⟩ := isOk_iff.mp created
  obtain ⟨sameId, sameKey, sameToken, -⟩ := createAwsCredentials_ok creates
  refine ⟨credentials, creates, ?_⟩
  rw [sameId, sameKey, sameToken]
  exact holds

end Refines

end Common

end KvsProducer
