import KvsProducer.Common.Text

/-!
# The reference algorithm of a signature

The `Authorization` header that a service expects: a canonical request, the
string to sign, the signing key and the header, each as a text of its parts.
The hash functions and the like are parameters.
-/

namespace KvsProducer

namespace Common

/-- The functions that a signature is computed with: SHA-256, HMAC-SHA256, the
lower-case hex digits of a buffer, the time in the format of the header, and
PIC's `TRIMSTRALL`. -/
structure Primitives where
  sha256 : Bytes → Bytes
  hmac : (key message : Bytes) → Bytes
  hexEncode : Bytes → Bytes
  dateTime : (seconds : Nat) → Option Bytes
  trimstrall : Bytes → Bytes
  length_sha256 : ∀ message, (sha256 message).length = 32
  length_hmac : ∀ key message, (hmac key message).length = 32
  length_hexEncode : ∀ data, (hexEncode data).length = 2 * data.length
  length_dateTime : ∀ seconds, ∀ text ∈ dateTime seconds, text.length = 16
  length_trimstrall : ∀ text, (trimstrall text).length ≤ text.length
  hexEncode_unterminated : ∀ data, NUL ∉ hexEncode data
  dateTime_unterminated : ∀ seconds, ∀ text ∈ dateTime seconds, NUL ∉ text

/-- The hex digits of a hash. -/
def Primitives.hexSha256 (primitives : Primitives) (message : Bytes) : Bytes :=
  primitives.hexEncode (primitives.sha256 message)

@[simp] theorem Primitives.length_hexSha256 (primitives : Primitives)
    (message : Bytes) : (primitives.hexSha256 message).length = 64 := by
  rw [hexSha256, primitives.length_hexEncode, primitives.length_sha256]

namespace SigV4

/-- What is signed, and with what.  The headers are the names and the values in
the order in which they were set. -/
structure Request where
  verb : Bytes
  path : Bytes
  query : Bytes
  headers : List (Bytes × Bytes)
  body : Option Bytes
  dateTime : Bytes
  region : Bytes
  service : Bytes
  accessKeyId : Bytes
  secretKey : Bytes
  deriving DecidableEq, Repr

def algorithm : Bytes := bytes "AWS4-HMAC-SHA256"

def terminator : Bytes := bytes "aws4_request"

/-- The names of the headers that are not signed. -/
def unsignedNames : List Bytes :=
  [bytes "x-amz-security-token", bytes "content-type",
    bytes "content-length", bytes "authorization"]

/-- The order of the canonical headers. -/
def NameLe (first second : Bytes × Bytes) : Prop :=
  Ascending first.1 second.1

instance : DecidableRel NameLe := fun first second =>
  inferInstanceAs (Decidable (Ascending first.1 second.1))

/-- The text of the canonical headers. -/
def canonicalText (headers : List (Bytes × Bytes)) : Bytes :=
  headers.flatMap fun (name, value) =>
    name ++ [byte ':'] ++ value ++ [byte '\n']

/-- The list of the signed headers. -/
def signedText (headers : List (Bytes × Bytes)) : Bytes :=
  [byte ';'].intercalate (headers.map Prod.fst)

variable (primitives : Primitives) (request : Request)
variable (headers : List (Bytes × Bytes))

/-- The canonical headers: lower-case names and trimmed values, sorted, without
those that are not signed. -/
def canonicalHeaders : List (Bytes × Bytes) :=
  ((request.headers.map fun (name, value) =>
      (tolowerstr name, primitives.trimstrall value)).insertionSort
    NameLe).filter fun header => header.1 ∉ unsignedNames

theorem canonicalHeaders_eq :
    canonicalHeaders primitives request =
      ((request.headers.map fun header =>
          (tolowerstr header.1, primitives.trimstrall header.2)).insertionSort
        NameLe).filter fun header => header.1 ∉ unsignedNames := by
  rfl

def canonicalRequest : Bytes :=
  [byte '\n'].intercalate
    [request.verb, request.path, request.query, canonicalText headers,
      signedText headers, primitives.hexSha256 (request.body.getD [])]

def credentialScope : Bytes :=
  [byte '/'].intercalate
    [request.dateTime.take 8, request.region, request.service, terminator]

def stringToSign : Bytes :=
  [byte '\n'].intercalate
    [algorithm, request.dateTime, credentialScope request,
      primitives.hexSha256 (canonicalRequest primitives request headers)]

def signingKey : Bytes :=
  let dateKey := primitives.hmac (bytes "AWS4" ++ request.secretKey)
    (request.dateTime.take 8)
  let regionKey := primitives.hmac dateKey request.region
  let serviceKey := primitives.hmac regionKey request.service
  primitives.hmac serviceKey terminator

def signature : Bytes :=
  primitives.hexEncode
    (primitives.hmac (signingKey primitives request)
      (stringToSign primitives request headers))

/-- The header for given canonical headers. -/
def authorizationOf : Bytes :=
  algorithm ++ bytes " Credential=" ++ request.accessKeyId ++ [byte '/'] ++
    credentialScope request ++ bytes ", SignedHeaders=" ++
    signedText headers ++ bytes ", Signature=" ++
    signature primitives request headers

/-- The header that the service expects. -/
def authorization : Bytes :=
  authorizationOf primitives request (canonicalHeaders primitives request)

@[simp] theorem length_signature :
    (signature primitives request headers).length = 64 := by
  rw [signature, primitives.length_hexEncode, primitives.length_hmac]

/-- Headers with the same value have signed lists of the same length. -/
theorem length_signedText_of_authorizationOf {first second : List (Bytes × Bytes)}
    (same : authorizationOf primitives request first =
      authorizationOf primitives request second) :
    (signedText first).length = (signedText second).length := by
  have lengths := congrArg List.length same
  simp only [authorizationOf, List.length_append, length_signature] at lengths
  omega

/-- The length of the signed headers in terms of their names. -/
def nameLength (header : Bytes × Bytes) : Nat := header.1.length + 1

theorem length_signedText :
    (signedText headers).length = (headers.map nameLength).sum - 1 := by
  rw [signedText, length_intercalate, List.map_map]
  rfl

/-- A list that lacks a name that is not empty is shorter. -/
theorem signedText_filter_lt {keeps : Bytes × Bytes → Bool}
    {header : Bytes × Bytes} (listed : header ∈ headers)
    (dropped : keeps header = false) (nonempty : header.1 ≠ []) :
    (signedText (headers.filter keeps)).length <
      (signedText headers).length := by
  have smaller (headers : List (Bytes × Bytes)) :
      ((headers.filter keeps).map nameLength).sum ≤
        (headers.map nameLength).sum :=
    (List.filter_sublist.map nameLength).sum_le_sum (by simp)
  have shorter :
      ((headers.filter keeps).map nameLength).sum + nameLength header ≤
        (headers.map nameLength).sum := by
    obtain ⟨before, behind, rfl⟩ := List.append_of_mem listed
    have smallerBefore := smaller before
    have smallerBehind := smaller behind
    simp only [List.filter_append, List.filter_cons, dropped,
      Bool.false_eq_true, if_false, List.map_append, List.sum_append,
      List.map_cons, List.sum_cons]
    omega
  have positive := List.length_pos_of_ne_nil nonempty
  rw [length_signedText, length_signedText]
  unfold nameLength at shorter ⊢
  omega

end SigV4

end Common

end KvsProducer
