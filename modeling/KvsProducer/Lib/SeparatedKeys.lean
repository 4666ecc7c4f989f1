import KvsProducer.Lib.KeyScan

/-!
# Scans over keys that are apart from each other

A scan that finds no key behind a key takes every key with the item behind it,
whether or not it steps over the values.  A key that stands in one place only
is found once, with the item behind it.
-/

namespace KeyScan

variable {Item Key State Exit : Type*}
variable (reader : Reader Item Key State Exit)

/-- What is behind a key is no key, and there is something. -/
structure Separated (items : List Item) : Prop where
  value : ∀ front item value back, items = front ++ item :: value :: back →
    reader.key item ≠ none → reader.key value = none
  last : ∀ front item, items = front ++ [item] → reader.key item = none

/-- The key that an item is, with the item behind it, if the value is read. -/
def entry (item value : Item) : Option (Key × Option Item) :=
  ((reader.key item).filter reader.reads).map fun key => (key, some value)

/-- The keys among some items with the items behind them. -/
def adjacent : List Item → List (Key × Option Item)
  | [] => []
  | [_] => []
  | item :: value :: rest =>
      (entry reader item value).toList ++ adjacent (value :: rest)

variable {reader} {items front back : List Item} {item value : Item} {key : Key}

theorem Separated.of_append (separated : Separated reader (front ++ items)) :
    Separated reader items where
  value before item value back parts := by
    apply separated.value (front ++ before) item value back
    rw [parts, List.append_assoc]
  last before item parts := by
    apply separated.last (front ++ before) item
    rw [parts, List.append_assoc]

theorem Separated.tail (separated : Separated reader (item :: items)) :
    Separated reader items :=
  @Separated.of_append _ _ _ _ reader items [item] separated

theorem entry_of_plain (plain : reader.key item = none) :
    entry reader item value = none := by
  simp [entry, plain]

theorem entry_of_reads (spelled : reader.key item = some key)
    (reads : reader.reads key = true) :
    entry reader item value = some (key, some value) := by
  simp [entry, spelled, Option.filter, reads]

theorem entry_of_skips (spelled : reader.key item = some key)
    (skips : ¬ reader.reads key = true) : entry reader item value = none := by
  simp [entry, spelled, Option.filter, skips]

/-- Stepping over the values does not matter. -/
theorem pairs_of_separated (separated : Separated reader items) :
    pairs reader items = adjacent reader items := by
  induction items using pairs.induct reader with
  | case1 => rfl
  | case2 item plain => simp [pairs, plain, adjacent]
  | case3 item key spelled reads =>
      rw [separated.last [] item rfl] at spelled
      cases spelled
  | case4 item key spelled skips => simp [pairs, spelled, skips, adjacent]
  | case5 item value rest plain induction =>
      rw [adjacent, entry_of_plain plain, ← induction separated.tail]
      simp [pairs, plain]
  | case6 item value rest key spelled reads induction =>
      have plain := separated.value [] item value rest rfl (by simp [spelled])
      have later := induction separated.tail.tail
      rw [adjacent, entry_of_reads spelled reads]
      cases rest with
      | nil => simp [pairs, spelled, reads, adjacent]
      | cons next rest =>
          rw [adjacent, entry_of_plain plain, ← later]
          simp [pairs, spelled, reads]
  | case7 item value rest key spelled skips induction =>
      have plain := separated.value [] item value rest rfl (by simp [spelled])
      have later := induction separated.tail.tail
      rw [adjacent, entry_of_skips spelled skips]
      cases rest with
      | nil => simp [pairs, spelled, skips, adjacent]
      | cons next rest =>
          rw [adjacent, entry_of_plain plain, ← later]
          simp [pairs, spelled, skips]

section Filter

variable {wanted : Key → Bool}

theorem filter_entry_of_unwanted
    (other : ∀ key ∈ reader.key item, wanted key = false) :
    (entry reader item value).toList.filter (fun found => wanted found.1) =
      [] := by
  rw [List.filter_eq_nil_iff]
  intro found listed isWanted
  obtain ⟨spelled, filtered, rfl⟩ :=
    Option.map_eq_some_iff.mp (Option.mem_toList.mp listed)
  rw [other spelled (Option.filter_eq_some_iff.mp filtered).1] at isWanted
  cases isWanted

theorem filter_adjacent_none
    (absent : ∀ item ∈ items, ∀ key ∈ reader.key item, wanted key = false) :
    (adjacent reader items).filter (fun found => wanted found.1) = [] := by
  induction items using adjacent.induct with
  | case1 => rfl
  | case2 item => rfl
  | case3 item value rest induction =>
      rw [adjacent, List.filter_append,
        filter_entry_of_unwanted (absent item List.mem_cons_self),
        induction fun other listed => absent other (List.mem_cons_of_mem _ listed)]
      rfl

theorem filter_adjacent_only (spelled : reader.key item = some key)
    (reads : reader.reads key = true) (isWanted : wanted key = true)
    (before : ∀ other ∈ front, ∀ key ∈ reader.key other, wanted key = false)
    (behind : ∀ other ∈ value :: back, ∀ key ∈ reader.key other,
      wanted key = false) :
    (adjacent reader (front ++ item :: value :: back)).filter
      (fun found => wanted found.1) = [(key, some value)] := by
  induction front with
  | nil =>
      rw [List.nil_append, adjacent, List.filter_append,
        filter_adjacent_none behind, entry_of_reads spelled reads]
      simp [isWanted]
  | cons first front induction =>
      have later := induction fun other listed =>
        before other (List.mem_cons_of_mem _ listed)
      have skipped (next : Item) :=
        @filter_entry_of_unwanted _ _ _ _ reader first next wanted
          (before first List.mem_cons_self)
      cases front with
      | nil =>
          rw [List.singleton_append, adjacent, List.filter_append, skipped]
          exact later
      | cons second front =>
          rw [List.cons_append, List.cons_append, adjacent, List.filter_append,
            skipped]
          exact later

end Filter

/-- A place where something stands that stands nowhere else. -/
theorem append_cons_unique {holds : Item → Prop} {left right : List Item}
    {other : Item} (parts : left ++ other :: right = front ++ item :: back)
    (isHeld : holds other) (before : ∀ item ∈ front, ¬ holds item)
    (behind : ∀ item ∈ back, ¬ holds item) :
    left = front ∧ other = item ∧ right = back := by
  rw [List.append_eq_append_iff] at parts
  rcases parts with ⟨middle, frontParts, rest⟩ | ⟨middle, leftParts, rest⟩
  · cases middle with
    | nil =>
        rw [List.nil_append, List.cons.injEq] at rest
        rw [List.append_nil] at frontParts
        exact ⟨frontParts.symm, rest.1, rest.2⟩
    | cons first middle =>
        rw [List.cons_append, List.cons.injEq] at rest
        exact absurd isHeld (before other (by simp [frontParts, rest.1]))
  · cases middle with
    | nil =>
        rw [List.nil_append, List.cons.injEq] at rest
        rw [List.append_nil] at leftParts
        exact ⟨leftParts, rest.1.symm, rest.2.symm⟩
    | cons first middle =>
        rw [List.cons_append, List.cons.injEq] at rest
        exact absurd isHeld (behind other (by simp [rest.2]))

end KeyScan
