import KvsProducer.Common.SigningLimits

/-!
# The host and the path of a URL

`getRequestHost` and `getCanonicalUri` scan what follows the scheme.  A URL
ends where its host does if there is neither a slash nor a question mark behind
it; then `getCanonicalUri` leaves its start pointer `NULL`.
-/

namespace KvsProducer

namespace Common

open Outcome

/-- A URL of the form scheme, delimiter, rest; the delimiter is the first. -/
structure HasScheme (url scheme rest : Bytes) : Prop where
  form : url = scheme ++ SCHEMA_DELIMITER_STRING ++ rest
  first : ∀ before behind, scheme ++ SCHEMA_DELIMITER_STRING =
    before ++ SCHEMA_DELIMITER_STRING ++ behind → behind = []

/-- No byte of the text ends a host. -/
def HostBytes (text : Bytes) : Prop :=
  ∀ c ∈ text, c ≠ byte '/' ∧ c ≠ byte ':' ∧ c ≠ byte '?'

/-- The longest part at the start of a text that is free of the delimiters. -/
structure IsHost (rest host : Bytes) : Prop where
  start : host <+: rest
  plain : HostBytes host
  longest : ∀ other, other <+: rest → HostBytes other →
    other.length ≤ host.length

/-- The text consists of what is in front of the path, the path, which is empty
or absolute, and the query with its question mark. -/
structure IsPath (rest path query : Bytes) : Prop where
  split : ∃ authority, rest = authority ++ (path ++ query) ∧
    ∀ c ∈ authority, c ≠ byte '/' ∧ c ≠ byte '?'
  absolute : path = [] ∨ ∃ later, path = byte '/' :: later
  plain : byte '?' ∉ path
  query_mark : query = [] ∨ ∃ later, query = byte '?' :: later

/-- The path as it is signed. -/
def signedPath (path : Bytes) : Bytes :=
  if path = [] then DEFAULT_CANONICAL_URI_STRING else path

/-- The canonical request goes on with a path behind the verb. -/
def WritesPath (url path : Bytes) : Prop :=
  ∀ (primitives : Primitives) (info : RequestInfo) (requestLen : Nat),
    info.url = url →
      generateCanonicalRequestString primitives info (some requestLen) ≠
          .error .undefined ∧
        ∀ filled,
          generateCanonicalRequestString primitives info (some requestLen) =
              .ok filled →
            getRequestVerbString info.verb ++ [byte '\n'] ++ path ++
              [byte '\n'] <+: filled.written

/-- The host and the path of a URL are found, and the path is written. -/
structure UrlIsSplit (url : Bytes) (unterminated : NUL ∉ url)
    (rest : Bytes) : Prop where
  host : ∃ host, getRequestHost url unterminated = .ok host ∧
    IsHost rest (host.text.take host.length)
  path : ∃ uri path, getCanonicalUri url = .ok uri ∧
    IsPath rest path uri.rest ∧ uri.path = some (signedPath path) ∧
    WritesPath url (signedPath path)

variable {url scheme rest : Bytes}

/-! ## The scheme -/

theorem HasScheme.strstr (form : HasScheme url scheme rest) :
    strstr SCHEMA_DELIMITER_STRING url =
      some (SCHEMA_DELIMITER_STRING ++ rest) := by
  obtain ⟨rfl, first⟩ := form
  induction scheme with
  | nil => rfl
  | cons c scheme induction =>
      have later : ¬ SCHEMA_DELIMITER_STRING.isPrefixOf
          (c :: (scheme ++ SCHEMA_DELIMITER_STRING ++ rest)) = true := by
        intro starts
        have inside : SCHEMA_DELIMITER_STRING <+:
            c :: scheme ++ SCHEMA_DELIMITER_STRING := by
          apply List.prefix_of_prefix_length_le
            (List.isPrefixOf_iff_prefix.mp starts)
          · exact ⟨rest, by simp⟩
          · simp only [List.length_append, List.length_cons]
            omega
        obtain ⟨behind, split⟩ := inside
        have nothing := first [] behind split.symm
        have lengths := congrArg List.length split
        simp only [nothing, List.append_nil, List.length_append,
          List.length_cons] at lengths
        omega
      rw [List.cons_append, List.cons_append, Common.strstr, if_neg later]
      apply induction
      intro before behind split
      apply first (c :: before) behind
      simpa using split

theorem HasScheme.afterScheme (form : HasScheme url scheme rest) :
    afterScheme url = some rest := by
  rw [Common.afterScheme, form.strstr, Option.map_some, List.drop_left]

/-! ## The host -/

theorem isHostDelimiter_eq_false {c : UInt8} :
    (!isHostDelimiter c) = true ↔
      c ≠ byte '/' ∧ c ≠ byte ':' ∧ c ≠ byte '?' := by
  simp [isHostDelimiter, bytes]

theorem isHost_takeWhile (rest : Bytes) :
    IsHost rest (rest.takeWhile fun c => !isHostDelimiter c) := by
  constructor
  case start => exact List.takeWhile_prefix _
  case plain =>
      intro c member
      have notDelimiter := List.mem_takeWhile_imp member
      exact isHostDelimiter_eq_false.mp notDelimiter
  case longest =>
      rintro other ⟨behind, rfl⟩ plain
      rw [List.takeWhile_append_of_pos, List.length_append]
      · omega
      · intro c member
        exact isHostDelimiter_eq_false.mpr (plain c member)

theorem HasScheme.getRequestHost (form : HasScheme url scheme rest)
    (unterminated : NUL ∉ url) (nonempty : rest ≠ []) :
    ∃ host, getRequestHost url unterminated = .ok host ∧
      IsHost rest (host.text.take host.length) := by
  unfold Common.getRequestHost
  split
  · rename_i absent
    rw [form.afterScheme] at absent
    cases absent
  · rename_i start found
    rw [form.afterScheme] at found
    cases found
    rw [if_neg nonempty]
    refine ⟨_, rfl, ?_⟩
    dsimp only
    rw [← List.prefix_iff_eq_take.mp (List.takeWhile_prefix _)]
    exact isHost_takeWhile rest

/-! ## The path -/

/-- Behind the host and the port there is a path or a query. -/
def HasPathOrQuery (rest : Bytes) : Prop :=
  byte '/' ∈ rest ∨ byte '?' ∈ rest

instance (rest : Bytes) : Decidable (HasPathOrQuery rest) :=
  inferInstanceAs (Decidable (_ ∨ _))

theorem findPath_isPath (has : HasPathOrQuery rest) :
    ∃ path, IsPath rest path (findPath rest).rest ∧
      (findPath rest).path = some (signedPath path) := by
  induction rest with
  | nil => simp [HasPathOrQuery] at has
  | cons c rest induction =>
      rw [findPath]
      split
      · rename_i question
        subst question
        refine ⟨[], ⟨⟨[], rfl, by simp⟩, .inl rfl, by simp, .inr ⟨rest, rfl⟩⟩,
          rfl⟩
      · rename_i notQuestion
        split
        · rename_i slash
          subst slash
          have plain := takeWhile_ne_plain (byte '/' :: rest) (byte '?')
          have mark := dropWhile_ne_stops (byte '/' :: rest) (byte '?')
          have path : (byte '/' :: rest).takeWhile (· ≠ byte '?') =
              byte '/' :: rest.takeWhile (· ≠ byte '?') :=
            List.takeWhile_cons_of_pos (by decide)
          refine ⟨_, ⟨⟨[], ?_, by simp⟩, .inr ⟨_, path⟩, plain, mark⟩, ?_⟩
          · exact List.takeWhile_append_dropWhile.symm
          · rw [signedPath, path, if_neg (List.cons_ne_nil _ _)]
        · rename_i notSlash
          have hasLater : HasPathOrQuery rest := by
            rcases has with slash | question
            · exact .inl (List.mem_of_ne_of_mem (Ne.symm notSlash) slash)
            · exact .inr (List.mem_of_ne_of_mem (Ne.symm notQuestion) question)
          obtain ⟨path, ⟨⟨authority, split, free⟩, absolute, plain, mark⟩,
            found⟩ := induction hasLater
          refine ⟨path, ⟨⟨c :: authority, ?_, ?_⟩, absolute, plain, mark⟩,
            found⟩
          · rw [List.cons_append, ← split]
          · exact List.forall_mem_cons.mpr ⟨⟨notSlash, notQuestion⟩, free⟩

theorem findPath_none (has : ¬ HasPathOrQuery rest) :
    (findPath rest).path = none := by
  unfold HasPathOrQuery at has
  induction rest with
  | nil => rfl
  | cons c rest induction =>
      simp only [List.mem_cons, not_or] at has induction
      rw [findPath, if_neg (Ne.symm has.2.1), if_neg (Ne.symm has.1.1)]
      exact induction ⟨has.1.2, has.2.2⟩

theorem HasScheme.getCanonicalUri (form : HasScheme url scheme rest)
    (nonempty : rest ≠ []) :
    getCanonicalUri url = .ok (findPath rest) := by
  rw [Common.getCanonicalUri, form.afterScheme]
  exact if_neg nonempty

/-! ## The canonical request -/

/-- The canonical request is computed without undefined behaviour when there is
a path. -/
theorem generateCanonicalRequestString_defined {primitives : Primitives}
    {info : RequestInfo} {requestLen : Nat} {uri : CanonicalUri}
    (splits : Common.getCanonicalUri info.url = .ok uri)
    (located : uri.path.isSome = true) :
    generateCanonicalRequestString primitives info (some requestLen) ≠
      .error .undefined := by
  have checks {condition : Prop} [Decidable condition] {status : ErrorCode} :
      Ends (· ≠ Fault.undefined) (fun _ => True) (check condition status) :=
    (check_ends (.inr (by simp))).mono fun _ _ => trivial
  have appends {written line : Bytes} :
      Ends (· ≠ Fault.undefined) (fun _ => True)
        (appendLine requestLen written line) :=
    checks.bind fun _ _ => trivial
  have texts (generated : Generated) :
      Ends (· ≠ Fault.undefined) (fun _ => True) generated.text := by
    unfold Generated.text
    cases generated.status with
    | ok done => trivial
    | error status => simp [checkStatus, bind, Except.bind]
  have ends : Ends (· ≠ Fault.undefined) (fun _ => True)
      (generateCanonicalRequestString primitives info (some requestLen)) := by
    apply appends.bind
    intro verbLine _
    rw [splits, ok_bind]
    apply (defined_ends (.inl located)).bind
    intro _ _
    apply appends.bind
    intro pathLine _
    apply appends.bind
    intro queryLine _
    apply (texts _).bind
    intro canonical _
    apply appends.bind
    intro canonicalLine _
    apply (texts _).bind
    intro signed _
    apply appends.bind
    intro signedLine _
    apply checks.bind
    exact fun _ _ => trivial
  intro undefined
  exact ends.of_error undefined rfl

theorem generateCanonicalRequestString_prefix {primitives : Primitives}
    {info : RequestInfo} {requestLen : Nat} {uri : CanonicalUri}
    {path : Bytes} {filled : Filled}
    (splits : Common.getCanonicalUri info.url = .ok uri)
    (located : uri.path = some path)
    (generates : generateCanonicalRequestString primitives info
      (some requestLen) = .ok filled) :
    getRequestVerbString info.verb ++ [byte '\n'] ++ path ++ [byte '\n'] <+:
      filled.written := by
  simp only [generateCanonicalRequestString, bind_eq_ok, appendLine_eq_ok,
    splits, check_eq_ok, defined_eq_ok, Except.ok.injEq] at generates
  obtain ⟨_, ⟨-, rfl⟩, _, rfl, _, -, _, ⟨-, rfl⟩, _, ⟨-, rfl⟩, canonical, -, _,
    ⟨-, rfl⟩, signed, -, _, ⟨-, rfl⟩, _, -, rfl⟩ := generates
  simp [located]

/-- A URL is split into its host and its path if and only if there is a path or
a query behind the host and the port. -/
theorem urlIsSplit_iff (form : HasScheme url scheme rest)
    (unterminated : NUL ∉ url) (nonempty : rest ≠ []) :
    UrlIsSplit url unterminated rest ↔ HasPathOrQuery rest := by
  have splits := form.getCanonicalUri nonempty
  constructor
  · rintro ⟨-, uri, path, found, -, located, -⟩
    obtain rfl := Except.ok.inj (splits.symm.trans found)
    by_contra has
    rw [findPath_none has] at located
    cases located
  · intro has
    obtain ⟨path, isPath, located⟩ := findPath_isPath has
    refine ⟨form.getRequestHost unterminated nonempty, _, path, splits, isPath,
      located, ?_⟩
    rintro primitives info requestLen rfl
    constructor
    · apply generateCanonicalRequestString_defined splits
      rw [located, Option.isSome_some]
    · intro filled generates
      exact generateCanonicalRequestString_prefix splits located generates

/-- A scheme without a colon ends at the first delimiter. -/
theorem hasScheme_of_plain (plain : byte ':' ∉ scheme) (rest : Bytes) :
    HasScheme (scheme ++ SCHEMA_DELIMITER_STRING ++ rest) scheme rest := by
  refine ⟨rfl, ?_⟩
  induction scheme with
  | nil =>
      intro before behind split
      have lengths := congrArg List.length split
      simp only [List.length_append, List.length_nil] at lengths
      exact List.eq_nil_of_length_eq_zero (by omega)
  | cons c scheme induction =>
      simp only [List.mem_cons, not_or] at plain
      intro before behind split
      cases before with
      | nil =>
          have colon : c = byte ':' := (List.cons.inj split).1
          exact absurd colon.symm plain.1
      | cons first before =>
          exact induction plain.2 before behind (List.cons.inj split).2

theorem query_unterminated : NUL ∉ bytes "https://h:8080?a=1" := by
  decide +kernel

theorem host_unterminated : NUL ∉ bytes "https://h" := by
  decide +kernel

theorem urlIsSplit_query :
    UrlIsSplit (bytes "https://h:8080?a=1") query_unterminated
      (bytes "h:8080?a=1") :=
  (urlIsSplit_iff (hasScheme_of_plain colon_not_mem_https _) _
    (by decide)).mpr (by decide)

/-- The path of a URL that consists of a host is empty, and there is no default
for it. -/
theorem url_not_split :
    ¬ ∀ (url scheme rest : Bytes) (unterminated : NUL ∉ url),
      url.length ≤ MAX_URI_CHAR_LEN → HasScheme url scheme rest →
        rest ≠ [] → UrlIsSplit url unterminated rest := by
  intro claim
  have form : HasScheme (bytes "https://h") (bytes "https") (bytes "h") :=
    hasScheme_of_plain colon_not_mem_https _
  obtain ⟨uri, path, found, -, located, -⟩ :=
    (claim _ _ _ host_unterminated (by decide) form (by decide)).path
  rw [form.getCanonicalUri (by decide)] at found
  cases found
  cases located

end Common

end KvsProducer
