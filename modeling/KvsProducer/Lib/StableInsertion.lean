import Mathlib.Data.List.Sort

/-!
# Insertion behind equal elements

A list that is kept sorted by insertion stays stable when an element is put
behind the elements that are equal to it.  `insertAfter` puts it in front of
the first element that is greater.  Elements that are inserted one after the
other end up in the order in which `List.insertionSort` puts them, which sorts
from the other end.
-/

namespace StableInsertion

variable {α : Type*} (r : α → α → Prop) [DecidableRel r]

/-- Put an element in front of the first one that is greater than it. -/
def insertAfter (x : α) (l : List α) : List α :=
  l.orderedInsert (fun new old => ¬ r old new) x

@[simp] theorem insertAfter_nil (x : α) : insertAfter r x [] = [x] := rfl

theorem insertAfter_cons_of_le {x y : α} (l : List α) (le : r y x) :
    insertAfter r x (y :: l) = y :: insertAfter r x l := by
  simp [insertAfter, le]

theorem insertAfter_cons_of_not_le {x y : α} (l : List α) (greater : ¬ r y x) :
    insertAfter r x (y :: l) = x :: y :: l := by
  simp [insertAfter, greater]

theorem perm_insertAfter (x : α) (l : List α) :
    (insertAfter r x l).Perm (x :: l) :=
  List.perm_orderedInsert _ x l

@[simp] theorem mem_insertAfter {x y : α} {l : List α} :
    y ∈ insertAfter r x l ↔ y = x ∨ y ∈ l := by
  simp [insertAfter]

@[simp] theorem length_insertAfter (x : α) (l : List α) :
    (insertAfter r x l).length = l.length + 1 :=
  List.orderedInsert_length _ l x

variable [IsTrans α r]

/-- Insertion keeps a list sorted by any relation that is finer than the order:
one that holds between the new element and those that are greater than it, and
between those that are not and the new element. -/
theorem pairwise_insertAfter {s : α → α → Prop} {x : α} {l : List α}
    (sorted : l.Pairwise r) (pairwise : l.Pairwise s)
    (before : ∀ y ∈ l, r y x → s y x)
    (behind : ∀ y ∈ l, ¬ r y x → s x y) :
    (insertAfter r x l).Pairwise s := by
  induction l with
  | nil => simp
  | cons y l induction =>
      obtain ⟨below, sortedRest⟩ := List.pairwise_cons.mp sorted
      obtain ⟨related, pairwiseRest⟩ := List.pairwise_cons.mp pairwise
      by_cases le : r y x
      · rw [insertAfter_cons_of_le r l le, List.pairwise_cons]
        constructor
        · intro z member
          rcases (mem_insertAfter r).mp member with rfl | member
          · exact before y List.mem_cons_self le
          · exact related z member
        · apply induction sortedRest pairwiseRest
          · intro z member
            exact before z (List.mem_cons_of_mem y member)
          · intro z member
            exact behind z (List.mem_cons_of_mem y member)
      · rw [insertAfter_cons_of_not_le r l le, List.pairwise_cons]
        refine ⟨?_, pairwise⟩
        intro z member
        rcases List.mem_cons.mp member with rfl | inRest
        · exact behind z List.mem_cons_self le
        · apply behind z member
          intro leLater
          exact le (IsTrans.trans y z x (below z inRest) leLater)

variable [Std.Total r]

theorem sorted_insertAfter {x : α} {l : List α} (sorted : l.Pairwise r) :
    (insertAfter r x l).Pairwise r := by
  apply pairwise_insertAfter r sorted sorted
  · exact fun y _ le => le
  · intro y _ greater
    exact (Std.Total.total y x).resolve_left greater

/-- It does not matter which one of two elements is inserted first, as long as
the later one goes behind its equals and the earlier one before them. -/
theorem insertAfter_orderedInsert (x y : α) (l : List α) :
    insertAfter r y (l.orderedInsert r x) =
      (insertAfter r y l).orderedInsert r x := by
  induction l with
  | nil =>
      by_cases le : r x y
      · simp [insertAfter_cons_of_le r _ le, le]
      · simp [insertAfter_cons_of_not_le r _ le, le]
  | cons z l induction =>
      by_cases first : r x z
      · rw [List.orderedInsert_cons_of_le r l first]
        by_cases le : r x y
        · rw [insertAfter_cons_of_le r _ le]
          by_cases later : r z y
          · rw [insertAfter_cons_of_le r l later,
              List.orderedInsert_cons_of_le r _ first]
          · rw [insertAfter_cons_of_not_le r l later,
              List.orderedInsert_cons_of_le r _ le]
        · have later : ¬ r z y := fun later =>
            le (IsTrans.trans x z y first later)
          rw [insertAfter_cons_of_not_le r _ le,
            insertAfter_cons_of_not_le r l later,
            List.orderedInsert_of_not_le r _ le,
            List.orderedInsert_cons_of_le r _ first]
      · rw [List.orderedInsert_of_not_le r l first]
        by_cases later : r z y
        · rw [insertAfter_cons_of_le r _ later,
            insertAfter_cons_of_le r l later,
            List.orderedInsert_of_not_le r _ first, induction]
        · have le : ¬ r x y := by
            intro le
            have below := (Std.Total.total x z).resolve_left first
            exact later (IsTrans.trans z x y below le)
          rw [insertAfter_cons_of_not_le r _ later,
            insertAfter_cons_of_not_le r l later,
            List.orderedInsert_of_not_le r _ le,
            List.orderedInsert_of_not_le r _ first]

theorem foldl_insertAfter (l : List α) :
    l.foldl (fun sorted x => insertAfter r x sorted) [] =
      l.insertionSort r := by
  have extends_first (x : α) (l sorted : List α) :
      l.foldl (fun sorted x => insertAfter r x sorted)
          (sorted.orderedInsert r x) =
        (l.foldl (fun sorted x => insertAfter r x sorted) sorted).orderedInsert
          r x := by
    induction l generalizing sorted with
    | nil => rfl
    | cons y l induction =>
        simp only [List.foldl_cons]
        rw [insertAfter_orderedInsert, induction]
  induction l with
  | nil => rfl
  | cons x l induction =>
      rw [List.foldl_cons, List.insertionSort_cons, ← induction,
        ← extends_first]
      rfl

/-- An element that is inserted into a sorted list comes last among those that
are sorted. -/
theorem insertAfter_insertionSort (x : α) (l : List α) :
    insertAfter r x (l.insertionSort r) = (l ++ [x]).insertionSort r := by
  rw [← foldl_insertAfter, ← foldl_insertAfter, List.foldl_append]
  rfl

end StableInsertion
