import Mathlib.Data.List.TakeWhile

/-!
# The words of a text

A text is cut at its separators into words that are not empty.  A scanner that
takes at most so many characters at a time cuts a longer word into pieces.
-/

namespace Words

variable {α : Type} {separator : α → Bool}

/-- The words between the separators. -/
def words (separator : α → Bool) (text : List α) : List (List α) :=
  (text.splitOnP separator).filter fun word => !word.isEmpty

/-- What is left of some words when a piece of the first one is taken. -/
def behindPiece (maxLen : Nat) (word : List α) (later : List (List α)) :
    List (List α) :=
  if word.length ≤ maxLen then later else word.drop maxLen :: later

/-- The pieces that are taken of some words. -/
def pieces : (maxLens : List Nat) → (words : List (List α)) → List (List α)
  | [], _ => []
  | _, [] => []
  | maxLen :: maxLens, word :: later =>
      word.take maxLen :: pieces maxLens (behindPiece maxLen word later)

/-- No word is longer than its piece can be, and there is a piece for each. -/
def Fit : (maxLens : List Nat) → (words : List (List α)) → Prop
  | _, [] => True
  | [], _ :: _ => False
  | maxLen :: maxLens, word :: later =>
      word.length ≤ maxLen ∧ Fit maxLens later

/-! ### Words -/

theorem words_separator {c : α} (separates : separator c = true)
    (text : List α) : words separator (c :: text) = words separator text := by
  rw [words, List.splitOnP_cons_eq_if_modifyHead, if_pos separates]
  rfl

theorem words_dropWhile (text : List α) :
    words separator (text.dropWhile separator) = words separator text := by
  induction text with
  | nil => rfl
  | cons c text induction =>
      by_cases separates : separator c = true
      · rw [List.dropWhile_cons_of_pos separates, induction,
          words_separator separates]
      · rw [List.dropWhile_cons_of_neg separates]

/-- A word is followed by a separator or by nothing. -/
theorem words_append {word behind : List α} (nonempty : word ≠ [])
    (plain : ∀ c ∈ word, separator c = false)
    (ends : ∀ c ∈ behind.head?, separator c = true) :
    words separator (word ++ behind) = word :: words separator behind := by
  have kept : (!word.isEmpty) = true := by
    simpa using nonempty
  cases behind with
  | nil =>
      rw [List.append_nil, words, List.splitOnP_eq_singleton plain,
        List.filter_cons, if_pos kept]
      rfl
  | cons c later =>
      have separates := ends c rfl
      rw [words_separator separates, words,
        List.splitOnP_append_cons_of_forall_mem plain _ separates,
        List.filter_cons, if_pos kept]
      rfl

theorem ne_nil_of_mem_words {word text : List α}
    (listed : word ∈ words separator text) : word ≠ [] := by
  have kept := (List.mem_filter.mp listed).2
  simpa using kept

theorem mem_of_mem_splitOnP {piece text : List α} {c : α}
    (listed : piece ∈ text.splitOnP separator) (member : c ∈ piece) :
    c ∈ text := by
  induction text generalizing piece with
  | nil =>
      rw [List.splitOnP_nil, List.mem_singleton] at listed
      exact listed ▸ member
  | cons d text induction =>
      rw [List.splitOnP_cons_eq_if_modifyHead] at listed
      split at listed
      · rcases List.mem_cons.mp listed with rfl | later
        · cases member
        · exact List.mem_cons_of_mem d (induction later member)
      · cases split : text.splitOnP separator with
        | nil => exact absurd split (List.splitOnP_ne_nil _ _)
        | cons first others =>
            rw [split] at listed induction
            rcases List.mem_cons.mp listed with rfl | later
            · rcases List.mem_cons.mp member with rfl | inFirst
              · exact List.mem_cons_self
              · apply List.mem_cons_of_mem
                exact induction List.mem_cons_self inFirst
            · apply List.mem_cons_of_mem
              exact induction (List.mem_cons_of_mem _ later) member

theorem mem_of_mem_words {word text : List α} {c : α}
    (listed : word ∈ words separator text) (member : c ∈ word) :
    c ∈ text :=
  mem_of_mem_splitOnP (List.mem_filter.mp listed).1 member

theorem exists_word {text : List α} (nonempty : text ≠ [])
    (begins : ∀ c ∈ text.head?, separator c = false) :
    ∃ word behind, text = word ++ behind ∧ word ≠ [] ∧
      (text.takeWhile fun c => !separator c) = word ∧
      (∀ c ∈ word, separator c = false) ∧
      ∀ c ∈ behind.head?, separator c = true := by
  refine ⟨text.takeWhile fun c => !separator c,
    text.dropWhile fun c => !separator c, ?_, ?_, rfl, ?_, ?_⟩
  · exact List.takeWhile_append_dropWhile.symm
  · cases text with
    | nil => exact absurd rfl nonempty
    | cons c rest =>
        rw [List.takeWhile_cons_of_pos (by simp [begins c rfl])]
        exact List.cons_ne_nil _ _
  · intro c member
    simpa using List.mem_takeWhile_imp member
  · intro c leads
    have other := List.head?_dropWhile_not (fun c => !separator c) text
    rw [Option.mem_def.mp leads] at other
    simpa using other

/-! ### Pieces -/

/-- One piece is taken of what stands in front of the next separator. -/
theorem words_piece {text : List α} (nonempty : text ≠ [])
    (begins : ∀ c ∈ text.head?, separator c = false) (maxLen : Nat) :
    ∃ word later, words separator text = word :: later ∧
      ((text.take maxLen).takeWhile fun c => !separator c) =
        word.take maxLen ∧
      words separator (text.drop (word.take maxLen).length) =
        behindPiece maxLen word later := by
  obtain ⟨word, behind, rfl, kept, run, plain, ends⟩ :=
    exists_word nonempty begins
  refine ⟨word, words separator behind, words_append kept plain ends, ?_, ?_⟩
  · rw [← List.take_takeWhile, run]
  · by_cases short : word.length ≤ maxLen
    · rw [List.take_of_length_le short, List.drop_left, behindPiece,
        if_pos short]
    · have cut : (word.take maxLen).length = maxLen :=
        List.length_take_of_le (by omega)
      have left : word.drop maxLen ≠ [] := by
        intro empty
        have longest := List.drop_eq_nil_iff.mp empty
        omega
      rw [cut, List.drop_append_of_le_length (by omega), behindPiece,
        if_neg short]
      apply words_append left _ ends
      intro c member
      exact plain c (List.mem_of_mem_drop member)

theorem pieces_of_fit {maxLens : List Nat} {words : List (List α)}
    (fits : Fit maxLens words) : pieces maxLens words = words := by
  induction maxLens generalizing words with
  | nil =>
      cases words with
      | nil => rfl
      | cons word later => exact fits.elim
  | cons maxLen maxLens induction =>
      cases words with
      | nil => rfl
      | cons word later =>
          obtain ⟨short, laterFits⟩ := fits
          rw [pieces, List.take_of_length_le short, behindPiece, if_pos short,
            induction laterFits]

end Words
