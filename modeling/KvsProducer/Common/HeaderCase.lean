import KvsProducer.Common.SignatureRefinement
import KvsProducer.Lib.TwoRuns

/-!
# The case of header names

The list of headers is ordered ignoring case, and the names are written in
lower case.  Whether a header is signed is decided by the name as it is.
-/

namespace KvsProducer

namespace Common

open StableInsertion TwoRuns

/-- The headers differ at most in the case of the name. -/
def RequestHeader.SameButCase (first second : RequestHeader) : Prop :=
  tolowerstr first.name = tolowerstr second.name ∧ first.value = second.value

/-- The names are both excluded names as they are, or neither is. -/
def RequestHeader.SpelledAlike (first second : RequestHeader) : Prop :=
  first.name ∈ excludedNames ↔ second.name ∈ excludedNames

instance : DecidableRel RequestHeader.SpelledAlike := fun first second =>
  inferInstanceAs (Decidable (first.name ∈ excludedNames ↔
    second.name ∈ excludedNames))

/-- Two lists of headers are signed in the same way, whatever else there is to
the requests. -/
structure CaseInvisible (primitives : Primitives)
    (first second : List RequestHeader) : Prop where
  signed : ∀ buffer,
    generateSignedHeaders first buffer = generateSignedHeaders second buffer
  canonical : ∀ buffer,
    generateCanonicalHeaders primitives.trimstrall first buffer =
      generateCanonicalHeaders primitives.trimstrall second buffer
  signature : ∀ (memory : SigningMemory) (info : RequestInfo),
    Agree (fun signed other => signed.authorization = other.authorization)
      (signAwsRequestInfo primitives memory
        { info with requestHeaders := first })
      (signAwsRequestInfo primitives memory
        { info with requestHeaders := second })
  excluded : List.Forall₂
    (fun header other => isCanonicalHeaderName header.name =
      isCanonicalHeaderName other.name) first second

/-- The headers are written in the same way, and both are signed or neither. -/
structure RequestHeader.Alike (first second : RequestHeader) : Prop where
  sameButCase : first.SameButCase second
  canonical : isCanonicalHeaderName first.name =
    isCanonicalHeaderName second.name

theorem RequestHeader.Alike.refl (header : RequestHeader) :
    header.Alike header :=
  ⟨⟨rfl, rfl⟩, rfl⟩

theorem spelledAlike_iff {first second : RequestHeader} :
    first.SpelledAlike second ↔
      isCanonicalHeaderName first.name = isCanonicalHeaderName second.name := by
  unfold RequestHeader.SpelledAlike
  rw [Bool.eq_iff_iff, isCanonicalHeaderName_iff, isCanonicalHeaderName_iff,
    not_iff_not]

variable {first second : List RequestHeader}

/-! ## The generators -/

/-- What is written does not depend on the case of the name. -/
def HeaderFormat.IgnoresCase (format : HeaderFormat) : Prop :=
  ∀ appended header other, header.SameButCase other →
    format.size appended header = format.size appended other ∧
      format.text appended header = format.text appended other

theorem length_name_of_sameButCase {header other : RequestHeader}
    (same : header.SameButCase other) :
    header.name.length = other.name.length := by
  rw [← length_tolowerstr, same.1, length_tolowerstr]

theorem canonicalFormat_ignoresCase (trimstrall : Bytes → Bytes) :
    (canonicalFormat trimstrall).IgnoresCase := by
  intro appended header other same
  simp only [canonicalFormat, same.1, same.2,
    length_name_of_sameButCase same, and_self]

theorem signedFormat_ignoresCase : signedFormat.IgnoresCase := by
  intro appended header other same
  simp only [signedFormat, same.1, length_name_of_sameButCase same, and_self]

theorem generateHeaders_alike {format : HeaderFormat}
    (ignores : format.IgnoresCase) (buffer : Option Nat) (appended : Bool)
    (generated : Generated)
    (alike : List.Forall₂ RequestHeader.Alike first second) :
    generateHeaders format buffer appended generated first =
      generateHeaders format buffer appended generated second := by
  induction alike generalizing appended generated with
  | nil => rfl
  | @cons header other rest others same _ induction =>
      obtain ⟨size, text⟩ := ignores appended header other same.sameButCase
      simp only [generateHeaders, same.canonical, size, text,
        same.sameButCase.1, induction]

theorem generateSignedHeaders_alike
    (alike : List.Forall₂ RequestHeader.Alike first second) :
    generateSignedHeaders first = generateSignedHeaders second := by
  funext buffer
  exact generateHeaders_alike signedFormat_ignoresCase buffer _ _ alike

theorem generateCanonicalHeaders_alike (trimstrall : Bytes → Bytes)
    (alike : List.Forall₂ RequestHeader.Alike first second) :
    generateCanonicalHeaders trimstrall first =
      generateCanonicalHeaders trimstrall second := by
  funext buffer
  exact generateHeaders_alike (canonicalFormat_ignoresCase trimstrall) buffer
    _ _ alike

/-! ## The list -/

theorem insertAfter_alike (header : RequestHeader)
    (alike : List.Forall₂ RequestHeader.Alike first second) :
    List.Forall₂ RequestHeader.Alike
      (insertAfter RequestHeader.NameLe header first)
      (insertAfter RequestHeader.NameLe header second) := by
  induction alike with
  | nil => exact .cons (.refl header) .nil
  | @cons listed other rest others same later induction =>
      have sameOrder : listed.NameLe header ↔ other.NameLe header := by
        rw [RequestHeader.nameLe_iff, RequestHeader.nameLe_iff,
          same.sameButCase.1]
      by_cases before : listed.NameLe header
      · rw [insertAfter_cons_of_le _ _ before,
          insertAfter_cons_of_le _ _ (sameOrder.mp before)]
        exact .cons same induction
      · rw [insertAfter_cons_of_not_le _ _ before,
          insertAfter_cons_of_not_le _ _ (mt sameOrder.mpr before)]
        exact .cons (.refl header) (.cons same later)

theorem setRequestHeader_alike (memory : HeaderMemory)
    (name value : Option SizedString)
    (alike : List.Forall₂ RequestHeader.Alike first second) :
    Agree (List.Forall₂ RequestHeader.Alike)
      (checkStatus (setRequestHeader memory first name value))
      (checkStatus (setRequestHeader memory second name value)) := by
  unfold setRequestHeader
  rw [alike.length_eq]
  split
  · rfl
  · split
    · cases createRequestHeader memory.header name value with
      | error status => rfl
      | ok header =>
          cases memory.node with
          | true => exact insertAfter_alike header alike
          | false => rfl
    · rfl

/-! ## The signer -/

/-- Two requests that differ at most in the case of header names. -/
def RequestInfo.Alike (info other : RequestInfo) : Prop :=
  ∃ headers, other = { info with requestHeaders := headers } ∧
    List.Forall₂ RequestHeader.Alike info.requestHeaders headers

variable {primitives : Primitives} {info other : RequestInfo}

theorem setHeader_alike (memory : HeaderMemory) (name value : Bytes)
    (alike : info.Alike other) :
    Agree RequestInfo.Alike (setHeader memory name value info)
      (setHeader memory name value other) := by
  obtain ⟨headers, rfl, related⟩ := alike
  unfold setHeader
  apply (setRequestHeader_alike memory _ _ related).bind
  intro set otherSet later
  exact ⟨otherSet, rfl, later⟩

theorem setContentLength_alike (memory : HeaderMemory)
    (alike : info.Alike other) :
    Agree RequestInfo.Alike (setContentLength memory info)
      (setContentLength memory other) := by
  have sameBody : other.body = info.body := by
    obtain ⟨headers, rfl, -⟩ := alike
    rfl
  unfold setContentLength
  rw [sameBody]
  split
  · exact alike
  · exact setHeader_alike memory _ _ alike

theorem setSecurityToken_alike (memory : HeaderMemory)
    (credentials : AwsCredentials) (alike : info.Alike other) :
    Agree RequestInfo.Alike (setSecurityToken memory credentials info)
      (setSecurityToken memory credentials other) := by
  unfold setSecurityToken
  split
  · exact setHeader_alike memory _ _ alike
  · exact alike

theorem generateAwsSigV4Signature_alike (memory : SigningMemory)
    (dateTimeStr : Bytes) (authHeaders : Bool) (alike : info.Alike other) :
    generateAwsSigV4Signature primitives memory info dateTimeStr authHeaders =
      generateAwsSigV4Signature primitives memory other dateTimeStr
        authHeaders := by
  obtain ⟨headers, rfl, related⟩ := alike
  have canonical :=
    generateCanonicalHeaders_alike primitives.trimstrall related
  have request (buffer : Option Nat) :
      generateCanonicalRequestString primitives info buffer =
        generateCanonicalRequestString primitives
          { info with requestHeaders := headers } buffer := by
    simp only [generateCanonicalRequestString, canonical,
      generateSignedHeaders_alike related, related.length_eq]
  simp only [generateAwsSigV4Signature, request,
    generateSignedHeaders_alike related]
  rfl

/-- Requests that are alike are signed with the same signature. -/
theorem signAwsRequestInfo_alike (memory : SigningMemory)
    (alike : info.Alike other) :
    Agree (fun signed otherSigned =>
        signed.authorization = otherSigned.authorization)
      (signAwsRequestInfo primitives memory info)
      (signAwsRequestInfo primitives memory other) := by
  obtain ⟨headers, rfl, related⟩ := alike
  unfold signAwsRequestInfo
  dsimp only
  apply agree_same.bind
  rintro credentials _ rfl
  apply agree_same.bind
  rintro dateTimeStr _ rfl
  apply agree_same.bind
  rintro host _ rfl
  apply (setRequestHeader_alike memory.host _ _ related).bind
  intro withHost otherHost alike
  have alike : RequestInfo.Alike { info with requestHeaders := withHost }
      { info with requestHeaders := otherHost } := ⟨otherHost, rfl, alike⟩
  apply (setHeader_alike memory.amzDate _ _ alike).bind
  intro withDate otherDate alike
  apply (setHeader_alike memory.contentType _ _ alike).bind
  intro withType otherType alike
  apply (setContentLength_alike memory.contentLength alike).bind
  intro withLength otherLength alike
  rw [generateAwsSigV4Signature_alike memory dateTimeStr true alike]
  apply agree_same.bind
  rintro signatureInfo _ rfl
  apply (setHeader_alike memory.auth _ _ alike).bind
  intro withAuth otherAuth alike
  apply (setSecurityToken_alike memory.securityToken credentials alike).bind
  intro _ _ _
  rfl

/-- The case of header names does not matter to signing if and only if no header
is excluded in one of its spellings only. -/
theorem caseInvisible_iff
    (same : List.Forall₂ RequestHeader.SameButCase first second) :
    CaseInvisible primitives first second ↔
      List.Forall₂ RequestHeader.SpelledAlike first second := by
  constructor
  · intro invisible
    apply invisible.excluded.imp
    intro header other canonical
    exact spelledAlike_iff.mpr canonical
  · intro spelled
    have alike : List.Forall₂ RequestHeader.Alike first second := by
      induction same with
      | nil => exact .nil
      | cons related _ induction =>
          obtain ⟨spelledFirst, spelledRest⟩ := List.forall₂_cons.mp spelled
          exact .cons ⟨related, spelledAlike_iff.mp spelledFirst⟩
            (induction spelledRest)
    constructor
    case signed => exact congrFun (generateSignedHeaders_alike alike)
    case canonical =>
        exact congrFun (generateCanonicalHeaders_alike _ alike)
    case signature =>
        intro memory info
        exact signAwsRequestInfo_alike memory ⟨second, rfl, alike⟩
    case excluded =>
        apply alike.imp
        exact fun _ _ alike => alike.canonical

/-- A list of one header. -/
def oneHeader (name value : String) : List RequestHeader :=
  buildHeaders [sampleHeader name value]

instance : DecidableRel RequestHeader.SameButCase := fun _ _ =>
  inferInstanceAs (Decidable (_ ∧ _))

/-- Four headers under the given names; the last one is not signed. -/
def fourHeaders (accept agent custom : String) : List RequestHeader :=
  buildHeaders
    [sampleHeader agent "agent", sampleHeader custom "value",
      sampleHeader accept "text/plain",
      sampleHeader "content-type" "application/json"]

theorem caseInvisible_fourHeaders :
    CaseInvisible samplePrimitives
      (fourHeaders "Accept" "User-Agent" "X-Custom")
      (fourHeaders "ACCEPT" "user-agent" "x-CUSTOM") :=
  (caseInvisible_iff (by decide +kernel)).mpr (by decide +kernel)

/-- A content type is signed in one spelling and not in the other. -/
theorem not_caseInvisible :
    ¬ ∀ (primitives : Primitives) (first second : List RequestHeader),
      List.Forall₂ RequestHeader.SameButCase first second →
        CaseInvisible primitives first second := by
  intro claim
  have invisible := claim samplePrimitives
    (oneHeader "Content-Type" "text/plain")
    (oneHeader "content-type" "text/plain") (by decide +kernel)
  have differ :
      (generateSignedHeaders (oneHeader "Content-Type" "text/plain")
          none).length ≠
        (generateSignedHeaders (oneHeader "content-type" "text/plain")
          none).length := by
    decide +kernel
  exact differ (congrArg Generated.length (invisible.signed none))

end Common

end KvsProducer
