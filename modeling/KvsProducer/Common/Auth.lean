import KvsProducer.Common.Text

/-!
# The credentials object

`createAwsCredentials` allocates the object with its strings behind it.  What
has passed its checks is carried by the object.
-/

namespace KvsProducer

namespace Common

def MAX_AUTH_LEN : Nat := 10000
def MAX_ACCESS_KEY_LEN : Nat := 128
def MAX_SECRET_KEY_LEN : Nat := 128
def MAX_SESSION_TOKEN_LEN : Nat := 2048

/-- `SIZEOF(AwsCredentials)` where pointers have eight bytes -/
def SIZEOF_AWS_CREDENTIALS : Nat := 64

/-- The bytes that the object and its strings need. -/
def awsCredentialsSize (accessKeyIdLen secretKeyLen : Nat)
    (sessionTokenLen : Option Nat) : Nat :=
  SIZEOF_AWS_CREDENTIALS + (accessKeyIdLen + 1 + secretKeyLen + 1) +
    match sessionTokenLen with
    | none => 0
    | some sessionTokenLen => sessionTokenLen + 1

/-- `AwsCredentials`; the lengths are the lengths of the strings. -/
structure AwsCredentials where
  accessKeyId : Bytes
  secretKey : Bytes
  sessionToken : Option Bytes
  expiration : Nat
  accessKeyId_unterminated : NUL ∉ accessKeyId
  secretKey_unterminated : NUL ∉ secretKey
  sessionToken_unterminated : ∀ token ∈ sessionToken, NUL ∉ token
  accessKeyId_pos : 0 < accessKeyId.length
  secretKey_pos : 0 < secretKey.length
  sessionToken_pos : ∀ token ∈ sessionToken, 0 < token.length
  size_lt :
    awsCredentialsSize accessKeyId.length secretKey.length
      (sessionToken.map List.length) < MAX_AUTH_LEN
  deriving Repr

def AwsCredentials.sessionTokenLen (credentials : AwsCredentials) : Nat :=
  (credentials.sessionToken.getD []).length

theorem AwsCredentials.nul_not_mem_sessionToken (credentials : AwsCredentials) :
    NUL ∉ credentials.sessionToken.getD [] := by
  cases token : credentials.sessionToken with
  | none => simp
  | some text => exact credentials.sessionToken_unterminated text token

/-- The strings are not longer than the providers admit. -/
structure AwsCredentials.Admitted (credentials : AwsCredentials) : Prop where
  accessKeyId : credentials.accessKeyId.length ≤ MAX_ACCESS_KEY_LEN
  secretKey : credentials.secretKey.length ≤ MAX_SECRET_KEY_LEN
  sessionToken : credentials.sessionTokenLen ≤ MAX_SESSION_TOKEN_LEN

/-- The argument for the session token, which can be `NULL`. -/
inductive SessionToken where
  | null (length : Nat)
  | token (string : SizedString)
  deriving DecidableEq, Repr

def SessionToken.string : SessionToken → Option SizedString
  | .null _ => none
  | .token string => some string

/-- The length that comes with `NULL`. -/
def SessionToken.nullLen : SessionToken → Nat
  | .null length => length
  | .token _ => 0

namespace SizedString

/-- The length of a credential, where 0 stands for `STRNLEN`. -/
def authLen (argument : SizedString) : Nat :=
  if argument.length = 0 then min argument.text.length MAX_AUTH_LEN
  else argument.length

def authValue (argument : SizedString) : Bytes :=
  argument.text.take argument.authLen

@[simp] theorem length_authValue (argument : SizedString) :
    argument.authValue.length = argument.authLen := by
  have within := argument.within
  rw [authValue, List.length_take, authLen]
  split <;> omega

theorem nul_not_mem_authValue (argument : SizedString) :
    NUL ∉ argument.authValue := by
  intro member
  exact argument.unterminated (List.mem_of_mem_take member)

theorem authLen_pos {argument : SizedString} (nonempty : argument.text ≠ []) :
    0 < argument.authLen := by
  have positive := List.length_pos_of_ne_nil nonempty
  rw [authLen]
  split
  · simp only [MAX_AUTH_LEN]
    omega
  · omega

theorem authValue_of_take {argument : SizedString} {text : Bytes}
    (nonempty : text ≠ []) (length : argument.length = text.length)
    (taken : argument.text.take text.length = text) :
    argument.authValue = text := by
  have positive := List.length_pos_of_ne_nil nonempty
  rw [authValue, authLen, length, if_neg (by omega), taken]

end SizedString

/-- An object whose size wraps around in 32 bits is too small for its
strings. -/
def createAwsCredentials (allocated : Bool)
    (accessKeyId secretKey : Option SizedString) (sessionToken : SessionToken)
    (expiration : Nat) : Result AwsCredentials :=
  match accessKeyId, secretKey with
  | some accessKeyId, some secretKey =>
      if sessionToken.nullLen ≠ 0 then
        .error (.failed .nullArg)
      else if nonempty : accessKeyId.text ≠ [] ∧ secretKey.text ≠ [] then
        if tokenNonempty : ∀ token ∈ sessionToken.string, token.text ≠ [] then
          let size := awsCredentialsSize accessKeyId.authLen secretKey.authLen
            (sessionToken.string.map (·.authLen))
          if size % 2 ^ 32 < MAX_AUTH_LEN then
            if allocated then
              if sizeFits : size < MAX_AUTH_LEN then
                .ok
                  { accessKeyId := accessKeyId.authValue
                    secretKey := secretKey.authValue
                    sessionToken := sessionToken.string.map (·.authValue)
                    expiration := expiration
                    accessKeyId_unterminated :=
                      accessKeyId.nul_not_mem_authValue
                    secretKey_unterminated := secretKey.nul_not_mem_authValue
                    sessionToken_unterminated := by
                      simp [SizedString.nul_not_mem_authValue]
                    accessKeyId_pos := by
                      simpa using SizedString.authLen_pos nonempty.1
                    secretKey_pos := by
                      simpa using SizedString.authLen_pos nonempty.2
                    sessionToken_pos := by
                      intro token member
                      obtain ⟨string, listed, rfl⟩ :=
                        Option.map_eq_some_iff.mp member
                      simpa using
                        SizedString.authLen_pos (tokenNonempty string listed)
                    size_lt := by
                      simpa [size, Function.comp_def] using sizeFits }
              else .error .undefined
            else .error (.failed .notEnoughMemory)
          else .error (.failed .invalidAuthLen)
        else .error (.failed .invalidArg)
      else .error (.failed .invalidArg)
  | _, _ => .error (.failed .nullArg)

/-- The object holds copies of the strings. -/
theorem createAwsCredentials_ok {allocated : Bool}
    {accessKeyId secretKey : SizedString} {sessionToken : SessionToken}
    {expiration : Nat} {credentials : AwsCredentials}
    (creates : createAwsCredentials allocated (some accessKeyId)
      (some secretKey) sessionToken expiration = .ok credentials) :
    credentials.accessKeyId = accessKeyId.authValue ∧
      credentials.secretKey = secretKey.authValue ∧
      credentials.sessionToken = sessionToken.string.map (·.authValue) ∧
      credentials.expiration = expiration := by
  simp only [createAwsCredentials] at creates
  split at creates
  · cases creates
  split at creates
  case isFalse => cases creates
  split at creates
  case isFalse => cases creates
  split at creates
  case isFalse => cases creates
  split at creates
  case isFalse => cases creates
  split at creates
  case isFalse => cases creates
  cases creates
  exact ⟨rfl, rfl, rfl, rfl⟩

end Common

end KvsProducer
