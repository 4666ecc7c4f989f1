import KvsProducer.Common.RequestInfo

/-!
# The canonical and the signed headers

`generateCanonicalHeaders` and `generateSignedHeaders` walk over the headers of
a request.  Without a buffer they tell the length of their text, with a buffer
they write it.  PIC's `TRIMSTRALL` is a parameter.
-/

namespace KvsProducer

namespace Common

def AWS_SIG_V4_HEADER_AMZ_SECURITY_TOKEN : Bytes :=
  bytes "x-amz-security-token"

def AWS_SIG_V4_CONTENT_TYPE_NAME : Bytes := bytes "content-type"

def AWS_SIG_V4_CONTENT_LENGTH_NAME : Bytes := bytes "content-length"

def AWS_SIG_V4_HEADER_AUTH : Bytes := bytes "Authorization"

def excludedNames : List Bytes :=
  [AWS_SIG_V4_HEADER_AMZ_SECURITY_TOKEN, AWS_SIG_V4_CONTENT_TYPE_NAME,
    AWS_SIG_V4_CONTENT_LENGTH_NAME, AWS_SIG_V4_HEADER_AUTH]

/-- `IS_CANONICAL_HEADER_NAME` -/
def isCanonicalHeaderName (name : Bytes) : Bool :=
  strcmp name AWS_SIG_V4_HEADER_AMZ_SECURITY_TOKEN != .eq &&
    strcmp name AWS_SIG_V4_CONTENT_TYPE_NAME != .eq &&
    strcmp name AWS_SIG_V4_CONTENT_LENGTH_NAME != .eq &&
    strcmp name AWS_SIG_V4_HEADER_AUTH != .eq

theorem isCanonicalHeaderName_iff {name : Bytes} :
    isCanonicalHeaderName name = true ↔ name ∉ excludedNames := by
  simp [isCanonicalHeaderName, excludedNames, and_assoc]

/-- What a walk leaves: its status, the length that it tells, the bytes that it
has written to the buffer, and the header names among them. -/
structure Generated where
  status : Except ErrorCode Unit
  length : Nat
  written : Bytes
  names : List Bytes
  deriving DecidableEq, Repr

/-- No header has been looked at. -/
def Generated.initial : Generated :=
  { status := .ok ()
    length := 0
    written := []
    names := [] }

/-- What a walk counts and what it writes for a canonical header, depending on
whether one came before. -/
structure HeaderFormat where
  size : (appended : Bool) → RequestHeader → Nat
  text : (appended : Bool) → RequestHeader → Bytes

/-- The loop of the two functions.  `buffer` is the length of the buffer, if
there is one. -/
def generateHeaders (format : HeaderFormat) (buffer : Option Nat) :
    (appended : Bool) → Generated → List RequestHeader → Generated
  | _, generated, [] => generated
  | appended, generated, header :: rest =>
      if isCanonicalHeaderName header.name then
        let overallLen := generated.length + format.size appended header
        match buffer with
        | none =>
            generateHeaders format buffer true
              { generated with length := overallLen } rest
        | some specifiedLen =>
            if overallLen ≤ specifiedLen then
              generateHeaders format buffer true
                { status := generated.status
                  length := overallLen
                  written := generated.written ++ format.text appended header
                  names := generated.names ++ [tolowerstr header.name] } rest
            else
              { generated with
                status := .error .bufferTooSmall
                length := overallLen }
      else generateHeaders format buffer appended generated rest

/-- A line with the name in lower case and the trimmed value. -/
def canonicalFormat (trimstrall : Bytes → Bytes) : HeaderFormat :=
  { size := fun _ header =>
      header.name.length + 1 + (trimstrall header.value).length + 1
    text := fun _ header =>
      tolowerstr header.name ++ [byte ':'] ++ trimstrall header.value ++
        [byte '\n'] }

/-- The name in lower case, behind a semicolon if it is not the first. -/
def signedFormat : HeaderFormat :=
  { size := fun appended header =>
      header.name.length + if appended then 1 else 0
    text := fun appended header =>
      (if appended then [byte ';'] else []) ++ tolowerstr header.name }

def generateCanonicalHeaders (trimstrall : Bytes → Bytes)
    (headers : List RequestHeader) (buffer : Option Nat) : Generated :=
  generateHeaders (canonicalFormat trimstrall) buffer false .initial headers

def generateSignedHeaders (headers : List RequestHeader)
    (buffer : Option Nat) : Generated :=
  generateHeaders signedFormat buffer false .initial headers

/-- The headers that are signed. -/
def canonicalHeaders (headers : List RequestHeader) : List RequestHeader :=
  headers.filter fun header => isCanonicalHeaderName header.name

/-- The names of the headers that are signed. -/
def canonicalNames (headers : List RequestHeader) : List Bytes :=
  (canonicalHeaders headers).map fun header => tolowerstr header.name

/-- The text of a format. -/
def HeaderFormat.render (format : HeaderFormat) :
    (appended : Bool) → List RequestHeader → Bytes
  | _, [] => []
  | appended, header :: rest =>
      if isCanonicalHeaderName header.name then
        format.text appended header ++ format.render true rest
      else format.render appended rest

variable {format : HeaderFormat} {appended : Bool} {generated : Generated}
variable {header : RequestHeader} {headers : List RequestHeader}

theorem render_cons (canonical : isCanonicalHeaderName header.name = true) :
    format.render appended (header :: headers) =
      format.text appended header ++ format.render true headers := by
  simp [HeaderFormat.render, canonical]

theorem render_cons_excluded
    (excluded : ¬ isCanonicalHeaderName header.name = true) :
    format.render appended (header :: headers) =
      format.render appended headers := by
  simp [HeaderFormat.render, excluded]

theorem canonicalHeaders_cons
    (canonical : isCanonicalHeaderName header.name = true) :
    canonicalHeaders (header :: headers) =
      header :: canonicalHeaders headers := by
  simp [canonicalHeaders, canonical]

theorem canonicalHeaders_cons_excluded
    (excluded : ¬ isCanonicalHeaderName header.name = true) :
    canonicalHeaders (header :: headers) = canonicalHeaders headers := by
  simp [canonicalHeaders, excluded]

/-- A format counts what it writes. -/
def HeaderFormat.Sized (format : HeaderFormat) : Prop :=
  ∀ appended header,
    format.size appended header = (format.text appended header).length

theorem canonicalFormat_sized (trimstrall : Bytes → Bytes) :
    (canonicalFormat trimstrall).Sized := by
  intro appended header
  simp only [canonicalFormat, List.length_append, length_tolowerstr,
    List.length_singleton]

theorem signedFormat_sized : signedFormat.Sized := by
  intro appended header
  cases appended <;> simp [signedFormat]

theorem generateHeaders_none (sized : format.Sized) :
    generateHeaders format none appended generated headers =
      { generated with
        length :=
          generated.length + (format.render appended headers).length } := by
  induction headers generalizing appended generated with
  | nil => rfl
  | cons header rest induction =>
      by_cases canonical : isCanonicalHeaderName header.name
      · simp [generateHeaders, HeaderFormat.render, canonical, induction,
          sized appended header, Nat.add_assoc]
      · simp [generateHeaders, HeaderFormat.render, canonical, induction]

theorem generateHeaders_some (sized : format.Sized) {specifiedLen : Nat}
    (fits : generated.length + (format.render appended headers).length ≤
      specifiedLen) :
    generateHeaders format (some specifiedLen) appended generated headers =
      { status := generated.status
        length := generated.length + (format.render appended headers).length
        written := generated.written ++ format.render appended headers
        names := generated.names ++ canonicalNames headers } := by
  induction headers generalizing appended generated with
  | nil => simp [generateHeaders, HeaderFormat.render, canonicalNames,
      canonicalHeaders]
  | cons header rest induction =>
      by_cases canonical : isCanonicalHeaderName header.name
      · simp only [HeaderFormat.render, canonical, if_true,
          List.length_append] at fits
        have fitsFirst : generated.length + format.size appended header ≤
            specifiedLen := by
          rw [sized appended header]
          omega
        have fitsRest : generated.length + format.size appended header +
            (format.render true rest).length ≤ specifiedLen := by
          rw [sized appended header]
          omega
        simp only [generateHeaders, HeaderFormat.render, canonical, if_true,
          if_pos fitsFirst]
        rw [induction fitsRest]
        simp [canonicalNames, canonicalHeaders, canonical,
          sized appended header, Nat.add_assoc]
      · simp only [HeaderFormat.render, canonical, if_false,
          Bool.false_eq_true] at fits
        simp [generateHeaders, HeaderFormat.render, canonical, induction fits,
          canonicalNames, canonicalHeaders]

theorem generateHeaders_small (sized : format.Sized) {specifiedLen : Nat}
    (started : generated.length ≤ specifiedLen)
    (small : specifiedLen <
      generated.length + (format.render appended headers).length) :
    (generateHeaders format (some specifiedLen) appended generated
      headers).status = .error .bufferTooSmall := by
  induction headers generalizing appended generated with
  | nil =>
      simp only [HeaderFormat.render, List.length_nil] at small
      omega
  | cons header rest induction =>
      by_cases canonical : isCanonicalHeaderName header.name
      · simp only [HeaderFormat.render, canonical, if_true, List.length_append,
          ← sized appended header, ← Nat.add_assoc] at small
        simp only [generateHeaders, canonical, if_true]
        split
        · rename_i fits
          exact induction fits small
        · rfl
      · simp only [HeaderFormat.render, canonical, if_false,
          Bool.false_eq_true] at small
        simp only [generateHeaders, canonical, if_false, Bool.false_eq_true]
        exact induction started small

/-- What a walk over the headers tells and writes. -/
structure Generates (format : HeaderFormat) (headers : List RequestHeader)
    (generate : Option Nat → Generated) : Prop where
  sizing : (generate none).status = .ok () ∧
    (generate none).length = (format.render false headers).length
  filling : ∀ specifiedLen, (generate none).length ≤ specifiedLen →
    generate (some specifiedLen) =
      { status := .ok ()
        length := (generate none).length
        written := format.render false headers
        names := canonicalNames headers }
  failing : ∀ specifiedLen, specifiedLen < (generate none).length →
    (generate (some specifiedLen)).status = .error .bufferTooSmall

theorem generates_of_sized (sized : format.Sized)
    (headers : List RequestHeader) :
    Generates format headers fun buffer =>
      generateHeaders format buffer false .initial headers := by
  have sizing : generateHeaders format none false .initial headers =
      { Generated.initial with
        length := Generated.initial.length +
          (format.render false headers).length } :=
    generateHeaders_none sized
  constructor
  case sizing =>
      rw [sizing]
      exact ⟨rfl, Nat.zero_add _⟩
  case filling =>
      intro specifiedLen fits
      simp only [sizing] at fits
      rw [sizing, generateHeaders_some sized fits]
      simp [Generated.initial]
  case failing =>
      intro specifiedLen small
      simp only [sizing] at small
      exact generateHeaders_small sized (Nat.zero_le _) small

theorem generateCanonicalHeaders_generates (trimstrall : Bytes → Bytes)
    (headers : List RequestHeader) :
    Generates (canonicalFormat trimstrall) headers
      (generateCanonicalHeaders trimstrall headers) :=
  generates_of_sized (canonicalFormat_sized trimstrall) headers

theorem generateSignedHeaders_generates (headers : List RequestHeader) :
    Generates signedFormat headers (generateSignedHeaders headers) :=
  generates_of_sized signedFormat_sized headers

theorem render_canonical (trimstrall : Bytes → Bytes)
    (headers : List RequestHeader) :
    (canonicalFormat trimstrall).render appended headers =
      (canonicalHeaders headers).flatMap fun header =>
        tolowerstr header.name ++ [byte ':'] ++ trimstrall header.value ++
          [byte '\n'] := by
  induction headers generalizing appended with
  | nil => rfl
  | cons header rest induction =>
      by_cases canonical : isCanonicalHeaderName header.name
      · rw [render_cons canonical, canonicalHeaders_cons canonical, induction,
          List.flatMap_cons]
        rfl
      · rw [render_cons_excluded canonical,
          canonicalHeaders_cons_excluded canonical, induction]

theorem render_signed (headers : List RequestHeader) :
    signedFormat.render false headers =
      [byte ';'].intercalate (canonicalNames headers) := by
  have behind (headers : List RequestHeader) :
      signedFormat.render true headers =
        (canonicalNames headers).flatMap ([byte ';'] ++ ·) := by
    induction headers with
    | nil => rfl
    | cons header rest induction =>
        by_cases canonical : isCanonicalHeaderName header.name
        · rw [render_cons canonical, canonicalNames,
            canonicalHeaders_cons canonical, induction, List.map_cons,
            List.flatMap_cons]
          rfl
        · rw [render_cons_excluded canonical, canonicalNames,
            canonicalHeaders_cons_excluded canonical, induction]
          rfl
  induction headers with
  | nil => rfl
  | cons header rest induction =>
      by_cases canonical : isCanonicalHeaderName header.name
      · rw [render_cons canonical, canonicalNames,
          canonicalHeaders_cons canonical, List.map_cons, intercalate_cons,
          behind]
        rfl
      · rw [render_cons_excluded canonical, canonicalNames,
          canonicalHeaders_cons_excluded canonical, induction]
        rfl

theorem length_render_canonical_le {trimstrall : Bytes → Bytes}
    (shorter : ∀ text, (trimstrall text).length ≤ text.length)
    (headers : List RequestHeader) :
    ((canonicalFormat trimstrall).render appended headers).length ≤
      headers.length *
        (MAX_REQUEST_HEADER_NAME_LEN + MAX_REQUEST_HEADER_VALUE_LEN) := by
  induction headers generalizing appended with
  | nil => exact Nat.zero_le _
  | cons header rest induction =>
      have name := header.name_lt
      have value := header.value_lt
      have trimmed := shorter header.value
      have size : (canonicalFormat trimstrall).size appended header =
          header.name.length + 1 + (trimstrall header.value).length + 1 := rfl
      have later := @induction true
      have skipped := @induction appended
      by_cases canonical : isCanonicalHeaderName header.name
      · rw [render_cons canonical, List.length_append, List.length_cons,
          ← canonicalFormat_sized trimstrall appended header, Nat.succ_mul,
          size]
        omega
      · rw [render_cons_excluded canonical, List.length_cons, Nat.succ_mul]
        omega

/-- The sum of the lengths of the header names, each with a byte more. -/
def namesLength (headers : List RequestHeader) : Nat :=
  (headers.map fun header => header.name.length + 1).sum

theorem namesLength_le (headers : List RequestHeader) :
    namesLength headers ≤ headers.length * MAX_REQUEST_HEADER_NAME_LEN := by
  induction headers with
  | nil => exact Nat.zero_le _
  | cons header rest induction =>
      have name := header.name_lt
      rw [namesLength] at induction ⊢
      rw [List.map_cons, List.sum_cons, List.length_cons, Nat.succ_mul]
      omega

theorem length_render_signed_le (headers : List RequestHeader) :
    (signedFormat.render appended headers).length ≤ namesLength headers := by
  induction headers generalizing appended with
  | nil => exact Nat.zero_le _
  | cons header rest induction =>
      have size : signedFormat.size appended header ≤
          header.name.length + 1 := by
        cases appended <;> simp [signedFormat]
      have later := @induction true
      have skipped := @induction appended
      rw [namesLength] at later skipped ⊢
      rw [List.map_cons, List.sum_cons]
      by_cases canonical : isCanonicalHeaderName header.name
      · rw [render_cons canonical, List.length_append,
          ← signedFormat_sized appended header]
        omega
      · rw [render_cons_excluded canonical]
        omega

/-- The length that is told without a buffer is the length of what is written,
which fails for shorter buffers only. -/
def LengthAgrees (generate : Option Nat → Generated) : Prop :=
  (generate none).status = .ok () ∧
    ∀ specifiedLen,
      ((generate (some specifiedLen)).status = .ok () ↔
          (generate none).length ≤ specifiedLen) ∧
        ((generate (some specifiedLen)).status = .ok () →
          (generate (some specifiedLen)).written.length =
            (generate none).length)

theorem Generates.lengthAgrees {generate : Option Nat → Generated}
    (generates : Generates format headers generate) :
    LengthAgrees generate := by
  obtain ⟨⟨succeeds, length⟩, filling, failing⟩ := generates
  refine ⟨succeeds, fun specifiedLen => ?_⟩
  by_cases fits : (generate none).length ≤ specifiedLen
  · rw [filling specifiedLen fits]
    exact ⟨⟨fun _ => fits, fun _ => rfl⟩, fun _ => length.symm⟩
  · rw [failing specifiedLen (Nat.lt_of_not_le fits)]
    exact ⟨⟨nofun, fun long => (fits long).elim⟩, nofun⟩

/-- A walk that succeeds with a buffer writes the text of the format. -/
theorem Generates.of_ok {generate : Option Nat → Generated}
    (generates : Generates format headers generate) {specifiedLen : Nat}
    (succeeds : (generate (some specifiedLen)).status = .ok ()) :
    (generate (some specifiedLen)).names = canonicalNames headers ∧
      (generate (some specifiedLen)).written =
        format.render false headers ∧
      (generate (some specifiedLen)).length =
        (format.render false headers).length := by
  have fits := (generates.lengthAgrees.2 specifiedLen).1.mp succeeds
  rw [generates.filling specifiedLen fits]
  exact ⟨rfl, rfl, generates.sizing.2⟩

/-- The canonical and the signed headers of a list of headers agree, and are as
the signature needs them. -/
structure HeadersAgree (trimstrall : Bytes → Bytes)
    (headers : List RequestHeader) : Prop where
  same : ∀ canonicalLen signedLen,
    (generateCanonicalHeaders trimstrall headers
      (some canonicalLen)).status = .ok () →
    (generateSignedHeaders headers (some signedLen)).status = .ok () →
    (generateSignedHeaders headers (some signedLen)).names =
      (generateCanonicalHeaders trimstrall headers (some canonicalLen)).names
  signed : ∀ signedLen,
    (generateSignedHeaders headers (some signedLen)).status = .ok () →
    (generateSignedHeaders headers (some signedLen)).written =
      [byte ';'].intercalate
        (generateSignedHeaders headers (some signedLen)).names
  canonical : ∀ canonicalLen,
    (generateCanonicalHeaders trimstrall headers
      (some canonicalLen)).status = .ok () →
    ∃ values : List Bytes,
      (generateCanonicalHeaders trimstrall headers
        (some canonicalLen)).written =
        (List.zipWith
          (fun name value => name ++ [byte ':'] ++ value ++ [byte '\n'])
          (generateCanonicalHeaders trimstrall headers
            (some canonicalLen)).names values).flatten
  lower : ∀ signedLen,
    (generateSignedHeaders headers (some signedLen)).status = .ok () →
    ∀ name ∈ (generateSignedHeaders headers (some signedLen)).names,
      tolowerstr name = name
  ascending : ∀ signedLen,
    (generateSignedHeaders headers (some signedLen)).status = .ok () →
    (generateSignedHeaders headers (some signedLen)).names.Pairwise Ascending
  unexcluded : ∀ signedLen,
    (generateSignedHeaders headers (some signedLen)).status = .ok () →
    ∀ name ∈ (generateSignedHeaders headers (some signedLen)).names,
      name ∉ excludedNames.map tolowerstr
  canonicalLength : LengthAgrees (generateCanonicalHeaders trimstrall headers)
  signedLength : LengthAgrees (generateSignedHeaders headers)

/-- The names that are excluded ignoring case are the excluded names. -/
def ExcludedExactly (headers : List RequestHeader) : Prop :=
  ∀ header ∈ headers,
    tolowerstr header.name ∈ excludedNames.map tolowerstr →
      header.name ∈ excludedNames

instance (headers : List RequestHeader) :
    Decidable (ExcludedExactly headers) :=
  inferInstanceAs (Decidable (∀ _ ∈ _, _))

theorem mem_canonicalNames {name : Bytes} :
    name ∈ canonicalNames headers ↔
      ∃ header ∈ headers, header.name ∉ excludedNames ∧
        tolowerstr header.name = name := by
  simp [canonicalNames, canonicalHeaders, isCanonicalHeaderName_iff, and_assoc]

theorem canonicalNames_ascending
    (sorted : headers.Pairwise RequestHeader.NameLe) :
    (canonicalNames headers).Pairwise Ascending := by
  rw [canonicalNames, List.pairwise_map]
  exact sorted.filter _

theorem excludedExactly_iff :
    ExcludedExactly headers ↔
      ∀ name ∈ canonicalNames headers, name ∉ excludedNames.map tolowerstr := by
  constructor
  · intro exactly name member excluded
    obtain ⟨header, listed, canonical, rfl⟩ := mem_canonicalNames.mp member
    exact canonical (exactly header listed excluded)
  · intro unexcluded header listed excluded
    by_contra canonical
    exact unexcluded _ (mem_canonicalNames.mpr ⟨header, listed, canonical, rfl⟩)
      excluded

/-- The canonical and the signed headers agree, if and only if no header has a
name that is excluded in lower case but was not excluded as it is. -/
theorem headersAgree_iff (trimstrall : Bytes → Bytes)
    (calls : List SetHeader) :
    HeadersAgree trimstrall (buildHeaders calls) ↔
      ExcludedExactly (buildHeaders calls) := by
  have sorted := buildHeaders_sorted calls
  generalize buildHeaders calls = headers at sorted ⊢
  have canonical := generateCanonicalHeaders_generates trimstrall headers
  have signed := generateSignedHeaders_generates headers
  rw [excludedExactly_iff]
  constructor
  · intro agree name member
    have succeeds := (signed.lengthAgrees.2 _).1.mpr (Nat.le_refl _)
    apply agree.unexcluded _ succeeds
    rwa [(signed.of_ok succeeds).1]
  · intro unexcluded
    constructor
    case same =>
        intro canonicalLen signedLen canonicalOk signedOk
        rw [(canonical.of_ok canonicalOk).1, (signed.of_ok signedOk).1]
    case signed =>
        intro signedLen signedOk
        obtain ⟨names, written, -⟩ := signed.of_ok signedOk
        rw [names, written, render_signed]
    case canonical =>
        intro canonicalLen canonicalOk
        obtain ⟨names, written, -⟩ := canonical.of_ok canonicalOk
        refine ⟨(canonicalHeaders headers).map fun header =>
          trimstrall header.value, ?_⟩
        rw [names, written, render_canonical, canonicalNames,
          List.zipWith_map, List.zipWith_self]
        rfl
    case lower =>
        intro signedLen signedOk name member
        rw [(signed.of_ok signedOk).1] at member
        obtain ⟨header, -, -, rfl⟩ := mem_canonicalNames.mp member
        exact tolowerstr_tolowerstr _
    case ascending =>
        intro signedLen signedOk
        rw [(signed.of_ok signedOk).1]
        exact canonicalNames_ascending sorted
    case unexcluded =>
        intro signedLen signedOk name member
        rw [(signed.of_ok signedOk).1] at member
        exact unexcluded name member
    case canonicalLength => exact canonical.lengthAgrees
    case signedLength => exact signed.lengthAgrees

/-- A content type that the application sets is signed. -/
theorem headers_disagree :
    ¬ ∀ (trimstrall : Bytes → Bytes) (calls : List SetHeader),
      HeadersAgree trimstrall (buildHeaders calls) := by
  intro claim
  have agree := claim id
    [{ memory := .available
       name := some (.ofBuffer (bytes "Content-Type"))
       value := some (.ofBuffer (bytes "text/plain")) }]
  have unexcluded := agree.unexcluded 100 (by decide) (bytes "content-type")
    (by decide)
  revert unexcluded
  decide

end Common

end KvsProducer
