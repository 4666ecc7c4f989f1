import KvsProducer.Common.Text

/-!
# The parts of a URL

`getRequestHost` and `getCanonicalUri` search the URL for its delimiters.  A
pointer into the URL is the text from there on.
-/

namespace KvsProducer

namespace Common

def SCHEMA_DELIMITER_STRING : Bytes := bytes "://"

def DEFAULT_CANONICAL_URI_STRING : Bytes := bytes "/"

/-- `STRSTR`: the text from the first occurrence on. -/
def strstr (pattern : Bytes) : Bytes → Option Bytes
  | [] => if pattern.isPrefixOf [] then some [] else none
  | c :: rest =>
      if pattern.isPrefixOf (c :: rest) then some (c :: rest)
      else strstr pattern rest

theorem strstr_suffix {pattern text found : Bytes}
    (finds : strstr pattern text = some found) : found.IsSuffix text := by
  induction text with
  | nil =>
      simp only [strstr] at finds
      split at finds <;> cases finds
      exact List.suffix_refl _
  | cons c rest induction =>
      simp only [strstr] at finds
      split at finds
      · cases finds
        exact List.suffix_refl _
      · exact (induction finds).trans (List.suffix_cons c rest)

/-- The text after the delimiter of the scheme. -/
def afterScheme (url : Bytes) : Option Bytes :=
  (strstr SCHEMA_DELIMITER_STRING url).map
    (·.drop SCHEMA_DELIMITER_STRING.length)

theorem afterScheme_suffix {url start : Bytes}
    (found : afterScheme url = some start) : start.IsSuffix url := by
  obtain ⟨suffix, finds, rfl⟩ := Option.map_eq_some_iff.mp found
  exact (List.drop_suffix _ suffix).trans (strstr_suffix finds)

def isHostDelimiter (c : UInt8) : Bool := (bytes "/:?").contains c

/-- The host is what stands between `pStart` and `pEnd`. -/
def getRequestHost (url : Bytes) (unterminated : NUL ∉ url) :
    Result SizedString :=
  match found : afterScheme url with
  | none => .error (.failed .invalidArg)
  | some start =>
      if start = [] then .error (.failed .invalidArg)
      else
        .ok
          { text := start
            length := (start.takeWhile fun c => !isHostDelimiter c).length
            unterminated := fun member =>
              unterminated ((afterScheme_suffix found).mem member)
            within := (List.takeWhile_prefix _).length_le }

/-- What `getCanonicalUri` finds: the path from `pStart` on, if there is one,
and the URL from `pEnd` on. -/
structure CanonicalUri where
  path : Option Bytes
  rest : Bytes
  defaultPath : Bool
  deriving DecidableEq, Repr

/-- The loop of `getCanonicalUri`. -/
def findPath : Bytes → CanonicalUri
  | [] =>
      { path := none
        rest := []
        defaultPath := false }
  | c :: rest =>
      if c = byte '?' then
        { path := some DEFAULT_CANONICAL_URI_STRING
          rest := c :: rest
          defaultPath := true }
      else if c = byte '/' then
        { path := some ((c :: rest).takeWhile (· ≠ byte '?'))
          rest := (c :: rest).dropWhile (· ≠ byte '?')
          defaultPath := false }
      else findPath rest

def getCanonicalUri (url : Bytes) : Result CanonicalUri :=
  match afterScheme url with
  | none => .error (.failed .invalidArg)
  | some start =>
      if start = [] then .error (.failed .invalidArg) else .ok (findPath start)

/-- A path and what follows it are parts of the text, apart from the default
path. -/
theorem length_findPath_le (text : Bytes) :
    ((findPath text).path.getD []).length + (findPath text).rest.length ≤
      text.length + 1 := by
  induction text with
  | nil => exact Nat.zero_le _
  | cons c rest induction =>
      rw [findPath]
      split
      · rw [Option.getD_some, Nat.add_comm]
        exact Nat.le_refl _
      · split
        · rw [Option.getD_some, ← List.length_append,
            List.takeWhile_append_dropWhile]
          exact Nat.le_succ _
        · exact Nat.le_succ_of_le induction

theorem length_getCanonicalUri_le {url : Bytes} {uri : CanonicalUri}
    (splits : getCanonicalUri url = .ok uri) :
    (uri.path.getD []).length + uri.rest.length ≤ url.length + 1 := by
  unfold getCanonicalUri at splits
  split at splits
  · cases splits
  · rename_i start found
    split at splits
    · cases splits
    · cases splits
      have shorter := (afterScheme_suffix found).length_le
      exact (length_findPath_le start).trans (Nat.succ_le_succ shorter)

/-- A URL has a host if and only if it has a canonical URI. -/
theorem getRequestHost_iff_uri {url : Bytes} (unterminated : NUL ∉ url) :
    (∃ host, getRequestHost url unterminated = .ok host) ↔
      ∃ uri, getCanonicalUri url = .ok uri := by
  unfold getRequestHost getCanonicalUri
  split
  · rename_i absent
    simp [absent]
  · rename_i start found
    by_cases nonempty : start = [] <;> simp [found, nonempty]

/-- The parts of a URL; a port has its colon. -/
structure UrlParts where
  scheme : Bytes
  host : Bytes
  port : Bytes
  path : Bytes
  query : Option Bytes
  deriving DecidableEq, Repr

namespace UrlParts

/-- The query with its question mark. -/
def queryText (parts : UrlParts) : Bytes :=
  match parts.query with
  | none => []
  | some query => byte '?' :: query

def text (parts : UrlParts) : Bytes :=
  parts.scheme ++ SCHEMA_DELIMITER_STRING ++
    (parts.host ++ (parts.port ++ (parts.path ++ parts.queryText)))

end UrlParts

/-- A URL that is put together of its parts. -/
structure Url extends UrlParts where
  scheme_plain : byte ':' ∉ scheme
  host_plain : ∀ c ∈ host, isHostDelimiter c = false
  port_colon : port = [] ∨ ∃ rest, port = byte ':' :: rest
  port_plain : ∀ c ∈ port, c ≠ byte '/' ∧ c ≠ byte '?'
  path_slash : path = [] ∨ ∃ rest, path = byte '/' :: rest
  path_plain : byte '?' ∉ path
  unterminated : NUL ∉ toUrlParts.text

theorem colon_not_mem_https : byte ':' ∉ bytes "https" := by
  decide +kernel

theorem noPort_colon : ([] : Bytes) = [] ∨ ∃ rest, [] = byte ':' :: rest :=
  Or.inl rfl

theorem noPort_plain : ∀ c ∈ ([] : Bytes), c ≠ byte '/' ∧ c ≠ byte '?' := by
  simp

namespace Url

variable (url : Url)

/-- What follows the scheme. -/
def location : Bytes :=
  url.host ++ (url.port ++ (url.path ++ url.queryText))

theorem strstr_text :
    strstr SCHEMA_DELIMITER_STRING url.text =
      some (SCHEMA_DELIMITER_STRING ++ url.location) := by
  have finds (scheme : Bytes) (plain : byte ':' ∉ scheme) :
      strstr SCHEMA_DELIMITER_STRING
          (scheme ++ SCHEMA_DELIMITER_STRING ++ url.location) =
        some (SCHEMA_DELIMITER_STRING ++ url.location) := by
    induction scheme with
    | nil =>
        rw [List.nil_append, SCHEMA_DELIMITER_STRING]
        rfl
    | cons c rest induction =>
        simp only [List.mem_cons, not_or] at plain
        have different : ¬ SCHEMA_DELIMITER_STRING.isPrefixOf
            (c :: (rest ++ SCHEMA_DELIMITER_STRING ++ url.location)) := by
          simp [SCHEMA_DELIMITER_STRING, bytes, plain.1]
        rw [List.cons_append, List.cons_append, strstr, if_neg different,
          induction plain.2]
  exact finds url.scheme url.scheme_plain

theorem afterScheme_text : afterScheme url.text = some url.location := by
  simp [afterScheme, strstr_text]

theorem takeWhile_location :
    url.location.takeWhile (fun c => !isHostDelimiter c) = url.host := by
  have stops : (url.port ++ (url.path ++ url.queryText)).takeWhile
      (fun c => !isHostDelimiter c) = [] := by
    rcases url.port_colon with noPort | ⟨portRest, port⟩
    · rcases url.path_slash with noPath | ⟨pathRest, path⟩
      · rw [noPort, noPath, UrlParts.queryText]
        cases url.query with
        | none => rfl
        | some query => exact List.takeWhile_cons_of_neg (by decide)
      · rw [noPort, path]
        exact List.takeWhile_cons_of_neg (by decide)
    · rw [port]
      exact List.takeWhile_cons_of_neg (by decide)
  have plain : ∀ c ∈ url.host, (!isHostDelimiter c) = true := by
    intro c member
    simp [url.host_plain c member]
  rw [location, List.takeWhile_append_of_pos plain, stops, List.append_nil]

theorem getRequestHost_text {host : SizedString} (nonempty : url.host ≠ [])
    (found : getRequestHost url.text url.unterminated = .ok host) :
    host.value = url.host := by
  unfold getRequestHost at found
  split at found
  · cases found
  · rename_i start begins
    rw [afterScheme_text] at begins
    cases begins
    split at found
    · cases found
    · cases found
      have positive : url.host.length ≠ 0 := by simpa using nonempty
      simp only [SizedString.value, SizedString.size, takeWhile_location,
        if_neg positive]
      simp [location]

theorem findPath_append {before text : Bytes}
    (plain : ∀ c ∈ before, c ≠ byte '/' ∧ c ≠ byte '?') :
    findPath (before ++ text) = findPath text := by
  induction before with
  | nil => rfl
  | cons c rest induction =>
      obtain ⟨noSlash, noQuestion⟩ := plain c List.mem_cons_self
      rw [List.cons_append, findPath, if_neg noQuestion, if_neg noSlash]
      apply induction
      intro c member
      exact plain c (List.mem_cons_of_mem _ member)

theorem host_plain_path : ∀ c ∈ url.host, c ≠ byte '/' ∧ c ≠ byte '?' := by
  intro c member
  have plain := url.host_plain c member
  constructor <;> rintro rfl <;> exact absurd plain (by decide)

theorem findPath_location (nonempty : url.path ≠ []) :
    findPath url.location =
      { path := some url.path
        rest := url.queryText
        defaultPath := false } := by
  obtain ⟨rest, path⟩ := url.path_slash.resolve_left nonempty
  have plain : ∀ c ∈ url.path, decide (c ≠ byte '?') = true := by
    intro c member
    have different : c ≠ byte '?' := by
      rintro rfl
      exact url.path_plain member
    simpa using different
  have stops : url.queryText.takeWhile (fun c => decide (c ≠ byte '?')) = [] ∧
      url.queryText.dropWhile (fun c => decide (c ≠ byte '?')) =
        url.queryText := by
    unfold UrlParts.queryText
    cases url.query with
    | none => exact ⟨rfl, rfl⟩
    | some query => simp
  rw [location, findPath_append url.host_plain_path,
    findPath_append url.port_plain]
  have found : findPath (url.path ++ url.queryText) =
      { path := some ((url.path ++ url.queryText).takeWhile (· ≠ byte '?'))
        rest := (url.path ++ url.queryText).dropWhile (· ≠ byte '?')
        defaultPath := false } := by
    rw [path, List.cons_append, findPath, if_neg (by decide), if_pos rfl]
  rw [found, List.takeWhile_append_of_pos plain,
    List.dropWhile_append_of_pos plain, stops.1, stops.2, List.append_nil]

theorem getCanonicalUri_text (nonempty : url.path ≠ []) :
    getCanonicalUri url.text =
      .ok
        { path := some url.path
          rest := url.queryText
          defaultPath := false } := by
  have begins : url.location ≠ [] := by simp [location, nonempty]
  simp [getCanonicalUri, afterScheme_text, begins,
    url.findPath_location nonempty]

theorem getCanonicalUri_query {query : Bytes} (has : url.query = some query) :
    ∃ uri, getCanonicalUri url.text = .ok uri ∧
      uri.rest = byte '?' :: query := by
  have queryText : url.queryText = byte '?' :: query := by
    simp [UrlParts.queryText, has]
  by_cases noPath : url.path = []
  · have begins : url.location ≠ [] := by simp [location, queryText]
    refine ⟨findPath url.location, ?_, ?_⟩
    · simp [getCanonicalUri, afterScheme_text, begins]
    · rw [location, findPath_append url.host_plain_path,
        findPath_append url.port_plain, noPath, List.nil_append, queryText,
        findPath, if_pos rfl]
  · exact ⟨_, url.getCanonicalUri_text noPath, queryText⟩

end Url

end Common

end KvsProducer
