import Mathlib.Data.List.TakeWhile

/-!
# Segments of a sequence

The part of a sequence from the first item that begins a segment through the
first one from there on that ends it.  The item that begins the segment may end
it, too.
-/

namespace Segments

variable {α : Type*}

/-- The items through the first one that ends the segment. -/
def throughFirst (ends : α → Bool) : List α → List α
  | [] => []
  | item :: items =>
      if ends item then [item] else item :: throughFirst ends items

def segment (begins ends : α → Bool) (items : List α) : List α :=
  throughFirst ends (items.dropWhile (!begins ·))

variable {begins ends : α → Bool} {items : List α} {item : α}

/-- A sequence that has not ended goes on with the next item. -/
theorem throughFirst_concat
    (open_ : ∀ other ∈ throughFirst ends items, ends other = false) :
    throughFirst ends (items ++ [item]) = throughFirst ends items ++ [item] := by
  induction items with
  | nil => simp [throughFirst]
  | cons first rest induction =>
      have goesOn : ends first = false := by
        apply open_
        rw [throughFirst]
        split <;> exact List.mem_cons_self
      rw [throughFirst, goesOn] at open_
      rw [List.cons_append, throughFirst, throughFirst, goesOn]
      simp only [Bool.false_eq_true, if_false] at open_ ⊢
      rw [List.cons_append, induction]
      intro other listed
      exact open_ other (List.mem_cons_of_mem _ listed)

/-- Only the last item ends the sequence. -/
theorem not_ends_of_mem_dropLast
    (listed : item ∈ (throughFirst ends items).dropLast) :
    ends item = false := by
  induction items with
  | nil => cases listed
  | cons first rest induction =>
      rw [throughFirst] at listed
      split at listed
      · cases listed
      · rename_i goesOn
        cases behind : throughFirst ends rest with
        | nil =>
            rw [behind] at listed
            cases listed
        | cons next later =>
            rw [behind, List.dropLast_cons_cons, ← behind] at listed
            rcases List.mem_cons.mp listed with rfl | inside
            · exact eq_false_of_ne_true goesOn
            · exact induction inside

theorem mem_dropLast_append {front back : List α}
    (listed : item ∈ front.dropLast) : item ∈ (front ++ back).dropLast := by
  rw [List.dropLast_append]
  split
  · exact listed
  · exact List.mem_append_left _ ((List.dropLast_sublist front).subset listed)

/-! ### The segment of a sequence that grows -/

theorem segment_eq_nil (waiting : items.any begins = false) :
    segment begins ends items = [] := by
  have skipped : items.dropWhile (!begins ·) = [] := by
    rw [List.dropWhile_eq_nil_iff]
    intro other listed
    simpa using List.any_eq_false.mp waiting other listed
  rw [segment, skipped]
  rfl

theorem segment_begin (waiting : items.any begins = false)
    (first : begins item = true) :
    segment begins ends (items ++ [item]) = [item] := by
  have skipped : (items ++ [item]).dropWhile (!begins ·) = [item] := by
    rw [List.dropWhile_append_of_pos]
    · simp [first]
    · intro other listed
      simpa using List.any_eq_false.mp waiting other listed
  rw [segment, skipped]
  simp [throughFirst]

theorem segment_concat (begun : items.any begins = true)
    (open_ : ∀ other ∈ segment begins ends items, ends other = false) :
    segment begins ends (items ++ [item]) =
      segment begins ends items ++ [item] := by
  have kept : (items ++ [item]).dropWhile (!begins ·) =
      items.dropWhile (!begins ·) ++ [item] := by
    rw [List.dropWhile_append, if_neg]
    obtain ⟨first, listed, begins⟩ := List.any_eq_true.mp begun
    rw [List.isEmpty_iff, List.dropWhile_eq_nil_iff]
    intro skipped
    simpa [begins] using skipped first listed
  rw [segment, kept]
  exact throughFirst_concat open_

end Segments
