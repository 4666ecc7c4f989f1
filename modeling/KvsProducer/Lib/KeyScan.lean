import Mathlib.Data.List.Basic

/-!
# Flat scans for keys and values

A scan walks once over the items of an array.  An item that spells a key is
taken together with the item after it, whatever that is, and the scan goes on
behind both.  The value of a key is read or stepped over, and may end the scan.

`scan` is the walk with the indexes that it reads.  The value of a key that is
the last item lies behind the array: all reads are within the array unless the
scan arrives at such a key.
-/

namespace KeyScan

variable {Item Key State Exit : Type*}

/-- What the value of a key leads to. -/
inductive Step (State Exit : Type*) where
  | next (after : State)
  | leave (exit : Exit)

def Step.toExcept : Step State Exit → Except Exit State
  | .next after => .ok after
  | .leave exit => .error exit

/-- A scan: the key that an item spells, whether the value of a key is read,
and what is done with it.  Whether an item is a value that ends the scan is
decided by the key and the item. -/
structure Reader (Item Key State Exit : Type*) where
  key : Item → Option Key
  reads : Key → Bool
  use : State → Key → Option Item → Step State Exit
  leaves : Key → Item → Bool
  use_leaves : ∀ state key item,
    (∃ exit, use state key (some item) = .leave exit) ↔ leaves key item = true

variable (reader : Reader Item Key State Exit)

/-- The walk: the indexes that it reads, and how it ends. -/
def scan : State → Nat → List Item → List Nat × Step State Exit
  | state, _, [] => ([], .next state)
  | state, index, [item] =>
      match reader.key item with
      | none => ([index], .next state)
      | some key =>
          if reader.reads key then
            ([index, index + 1], reader.use state key none)
          else ([index], .next state)
  | state, index, item :: value :: rest =>
      match reader.key item with
      | none =>
          let (read, result) := scan state (index + 1) (value :: rest)
          (index :: read, result)
      | some key =>
          if reader.reads key then
            match reader.use state key (some value) with
            | .leave exit => ([index, index + 1], .leave exit)
            | .next after =>
                let (read, result) := scan after (index + 2) rest
                (index :: (index + 1) :: read, result)
          else
            let (read, result) := scan state (index + 2) rest
            (index :: read, result)

/-! ### The keys of an array -/

/-- The item at an index is taken for a key: it spells one, and the item before
it is not itself taken for a key. -/
def IsKeyAt (items : List Item) : Nat → Prop
  | 0 => (items[0]?.bind reader.key).isSome
  | index + 1 =>
      (items[index + 1]?.bind reader.key).isSome ∧ ¬ IsKeyAt items index

instance decidableIsKeyAt (items : List Item) :
    (index : Nat) → Decidable (IsKeyAt reader items index)
  | 0 => inferInstanceAs (Decidable (_ = true))
  | index + 1 =>
      have := decidableIsKeyAt items index
      inferInstanceAs (Decidable (_ ∧ ¬ _))

/-- The item at an index is taken for a key whose value is read. -/
def ReadsAt (items : List Item) (index : Nat) : Prop :=
  IsKeyAt reader items index ∧
    ((items[index]?.bind reader.key).any reader.reads) = true

/-- The value behind the item at an index ends the scan. -/
def LeavesAt (items : List Item) (index : Nat) : Prop :=
  ReadsAt reader items index ∧
    ∃ key ∈ items[index]?.bind reader.key, ∃ value ∈ items[index + 1]?,
      reader.leaves key value = true

/-- The last item is taken for a key whose value is read, and no value before
it ends the scan. -/
def EndsInKey (items : List Item) : Prop :=
  items ≠ [] ∧ ReadsAt reader items (items.length - 1) ∧
    ∀ index < items.length, ¬ LeavesAt reader items index

instance (items : List Item) (index : Nat) :
    Decidable (ReadsAt reader items index) :=
  inferInstanceAs (Decidable (_ ∧ _))

instance (items : List Item) (index : Nat) :
    Decidable (LeavesAt reader items index) :=
  inferInstanceAs (Decidable (_ ∧ ∃ _ ∈ _, ∃ _ ∈ _, _))

instance [DecidableEq Item] (items : List Item) :
    Decidable (EndsInKey reader items) :=
  inferInstanceAs (Decidable (_ ∧ _ ∧ ∀ _ < _, _))

/-- The keys that are read, with the items behind them. -/
def pairs : List Item → List (Key × Option Item)
  | [] => []
  | [item] =>
      match reader.key item with
      | none => []
      | some key => if reader.reads key then [(key, none)] else []
  | item :: value :: rest =>
      match reader.key item with
      | none => pairs (value :: rest)
      | some key =>
          if reader.reads key then (key, some value) :: pairs rest
          else pairs rest

/-- The keys one after the other, up to one that ends the scan. -/
def useAll : State → List (Key × Option Item) → Step State Exit
  | state, [] => .next state
  | state, (key, value) :: rest =>
      match reader.use state key value with
      | .leave exit => .leave exit
      | .next after => useAll after rest

section Shift

variable {reader} {items rest : List Item} {item value : Item} {key : Key}
variable {index : Nat}

/-- An item that is no key does not matter to those behind it. -/
theorem isKeyAt_cons_plain (plain : reader.key item = none) :
    IsKeyAt reader (item :: rest) (index + 1) ↔ IsKeyAt reader rest index := by
  induction index with
  | zero => simp [IsKeyAt, plain]
  | succ index induction =>
      rw [IsKeyAt, induction]
      simp [IsKeyAt]

theorem isKeyAt_cons_key (spelled : reader.key item = some key) :
    IsKeyAt reader (item :: value :: rest) (index + 2) ↔
      IsKeyAt reader rest index := by
  induction index with
  | zero => simp [IsKeyAt, spelled]
  | succ index induction =>
      rw [IsKeyAt, induction]
      simp [IsKeyAt]

theorem isKeyAt_zero (spelled : reader.key item = some key) :
    IsKeyAt reader (item :: rest) 0 := by
  simp [IsKeyAt, spelled]

theorem not_isKeyAt_one (spelled : reader.key item = some key) :
    ¬ IsKeyAt reader (item :: rest) 1 := by
  simp [IsKeyAt, spelled]

theorem not_isKeyAt_zero (plain : reader.key item = none) :
    ¬ IsKeyAt reader (item :: rest) 0 := by
  simp [IsKeyAt, plain]

theorem leavesAt_cons_plain (plain : reader.key item = none) :
    LeavesAt reader (item :: rest) (index + 1) ↔
      LeavesAt reader rest index := by
  simp [LeavesAt, ReadsAt, isKeyAt_cons_plain plain]

theorem leavesAt_cons_key (spelled : reader.key item = some key) :
    LeavesAt reader (item :: value :: rest) (index + 2) ↔
      LeavesAt reader rest index := by
  simp [LeavesAt, ReadsAt, isKeyAt_cons_key spelled]

theorem leavesAt_zero (spelled : reader.key item = some key) :
    LeavesAt reader (item :: value :: rest) 0 ↔
      reader.reads key = true ∧ reader.leaves key value = true := by
  simp [LeavesAt, ReadsAt, isKeyAt_zero spelled, spelled]

end Shift

section EndsInKey

variable {reader} {rest : List Item} {item value : Item} {key : Key}

theorem not_endsInKey_nil : ¬ EndsInKey reader [] := fun ends => ends.1 rfl

theorem endsInKey_single :
    EndsInKey reader [item] ↔ (reader.key item).any reader.reads = true := by
  cases spelled : reader.key item with
  | none => simp [EndsInKey, ReadsAt, spelled]
  | some key =>
      simp [EndsInKey, ReadsAt, LeavesAt, spelled, isKeyAt_zero spelled]

theorem endsInKey_cons_plain (plain : reader.key item = none) :
    EndsInKey reader (item :: value :: rest) ↔
      EndsInKey reader (value :: rest) := by
  have head : ¬ LeavesAt reader (item :: value :: rest) 0 := by
    simp [LeavesAt, ReadsAt, not_isKeyAt_zero plain]
  simp only [EndsInKey, ne_eq, reduceCtorEq, not_false_eq_true, true_and]
  constructor
  · rintro ⟨ends, stays⟩
    constructor
    · simpa [ReadsAt, isKeyAt_cons_plain plain] using ends
    · intro index below leaves
      exact stays (index + 1) (Nat.succ_lt_succ below)
        ((leavesAt_cons_plain plain).mpr leaves)
  · rintro ⟨ends, stays⟩
    constructor
    · simpa [ReadsAt, isKeyAt_cons_plain plain] using ends
    · intro index below
      cases index with
      | zero => exact head
      | succ index =>
          rw [leavesAt_cons_plain plain]
          exact stays index (Nat.lt_of_succ_lt_succ below)

/-- After a key whose value does not end the scan, the rest decides. -/
theorem endsInKey_cons_key (spelled : reader.key item = some key) :
    EndsInKey reader (item :: value :: rest) ↔
      ¬ (reader.reads key = true ∧ reader.leaves key value = true) ∧
        EndsInKey reader rest := by
  have second : ¬ LeavesAt reader (item :: value :: rest) 1 := by
    simp [LeavesAt, ReadsAt, not_isKeyAt_one spelled]
  cases rest with
  | nil =>
      have last : ¬ ReadsAt reader [item, value] 1 := by
        simp [ReadsAt, not_isKeyAt_one spelled]
      constructor
      · exact fun ends => absurd ends.2.1 last
      · exact fun ends => absurd ends.2 not_endsInKey_nil
  | cons next rest =>
      simp only [EndsInKey, ne_eq, reduceCtorEq, not_false_eq_true, true_and]
      rw [← @leavesAt_zero _ _ _ _ reader (next :: rest) item value key spelled]
      constructor
      · rintro ⟨ends, stays⟩
        refine ⟨stays 0 (Nat.succ_pos _), ?_, fun index below leaves => ?_⟩
        · simpa [ReadsAt, isKeyAt_cons_key spelled] using ends
        · exact stays (index + 2) (Nat.succ_lt_succ (Nat.succ_lt_succ below))
            ((leavesAt_cons_key spelled).mpr leaves)
      · rintro ⟨first, ends, stays⟩
        constructor
        · simpa [ReadsAt, isKeyAt_cons_key spelled] using ends
        · intro index below
          match index with
          | 0 => exact first
          | 1 => exact second
          | index + 2 =>
              rw [leavesAt_cons_key spelled]
              exact stays index
                (Nat.lt_of_succ_lt_succ (Nat.lt_of_succ_lt_succ below))

end EndsInKey

/-! ### What the scan does -/

/-- The scan uses the keys that are read, in order. -/
theorem scan_snd (state : State) (index : Nat) (items : List Item) :
    (scan reader state index items).2 = useAll reader state (pairs reader items) := by
  induction items using pairs.induct reader generalizing state index with
  | case1 => rfl
  | case2 item plain => simp [scan, pairs, plain, useAll]
  | case3 item key spelled reads =>
      simp only [scan, pairs, spelled, reads, if_true, useAll]
      cases reader.use state key none <;> rfl
  | case4 item key spelled skips => simp [scan, pairs, spelled, skips, useAll]
  | case5 item value rest plain induction =>
      simp [scan, pairs, plain, induction]
  | case6 item value rest key spelled reads induction =>
      simp only [scan, pairs, spelled, reads, if_true, useAll]
      cases reader.use state key (some value) with
      | next after => exact induction _ _
      | leave exit => rfl
  | case7 item value rest key spelled skips induction =>
      simp [scan, pairs, spelled, skips, induction]

/-- All reads are within the array unless the scan arrives at a key that is the
last item. -/
theorem scan_reads_within_iff (state : State) (index : Nat)
    (items : List Item) :
    (∀ read ∈ (scan reader state index items).1, read < index + items.length) ↔
      ¬ EndsInKey reader items := by
  induction items using pairs.induct reader generalizing state index with
  | case1 => simp [scan, not_endsInKey_nil]
  | case2 item plain => simp [scan, plain, endsInKey_single]
  | case3 item key spelled reads => simp [scan, spelled, reads, endsInKey_single]
  | case4 item key spelled skips => simp [scan, spelled, skips, endsInKey_single]
  | case5 item value rest plain induction =>
      have bound : index + (item :: value :: rest).length =
          index + 1 + (value :: rest).length := by
        simp only [List.length_cons]
        omega
      rw [endsInKey_cons_plain plain, ← induction state (index + 1), bound]
      simp only [scan, plain, List.forall_mem_cons, and_iff_right_iff_imp]
      omega
  | case6 item value rest key spelled reads induction =>
      rw [endsInKey_cons_key spelled]
      simp only [scan, spelled, reads, if_true, true_and]
      cases used : reader.use state key (some value) with
      | leave exit =>
          have leaves := (reader.use_leaves state key value).mp ⟨exit, used⟩
          simp [leaves]
      | next after =>
          have stays : ¬ reader.leaves key value = true := by
            rw [← reader.use_leaves state key value, used]
            simp
          have bound : index + (item :: value :: rest).length =
              index + 2 + rest.length := by
            simp only [List.length_cons]
            omega
          rw [bound, and_iff_right stays, ← induction after (index + 2)]
          simp only [List.forall_mem_cons]
          exact ⟨fun all => all.2.2, fun all => ⟨by omega, by omega, all⟩⟩
  | case7 item value rest key spelled skips induction =>
      have stays : ¬ (reader.reads key = true ∧
          reader.leaves key value = true) := fun both => skips both.1
      have bound : index + (item :: value :: rest).length =
          index + 2 + rest.length := by
        simp only [List.length_cons]
        omega
      rw [endsInKey_cons_key spelled, and_iff_right stays,
        ← induction state (index + 2), bound]
      simp only [scan, spelled, if_neg skips, List.forall_mem_cons]
      exact ⟨fun all => all.2, fun all => ⟨by omega, all⟩⟩

/-! ### The places of a key -/

/-- The item at an index is taken for that key, and its value is read. -/
def KeyAt (items : List Item) (key : Key) (index : Nat) : Prop :=
  ReadsAt reader items index ∧ items[index]?.bind reader.key = some key

instance [DecidableEq Key] (items : List Item) (key : Key) (index : Nat) :
    Decidable (KeyAt reader items key index) :=
  inferInstanceAs (Decidable (_ ∧ _))

/-- The indexes of a key, in order. -/
def placesOf [DecidableEq Key] (items : List Item) (key : Key) : List Nat :=
  (List.range items.length).filter fun index => KeyAt reader items key index

section Places

variable {reader} {items rest : List Item} {item value : Item}
variable {key other : Key} {index : Nat}

theorem keyAt_cons_plain (plain : reader.key item = none) :
    KeyAt reader (item :: rest) key (index + 1) ↔
      KeyAt reader rest key index := by
  simp [KeyAt, ReadsAt, isKeyAt_cons_plain plain]

theorem keyAt_cons_key (spelled : reader.key item = some other) :
    KeyAt reader (item :: value :: rest) key (index + 2) ↔
      KeyAt reader rest key index := by
  simp [KeyAt, ReadsAt, isKeyAt_cons_key spelled]

theorem keyAt_zero (spelled : reader.key item = some other) :
    KeyAt reader (item :: rest) key 0 ↔
      reader.reads other = true ∧ other = key := by
  simp [KeyAt, ReadsAt, isKeyAt_zero spelled, spelled]

variable [DecidableEq Key]

/-- An item that is no key moves the places of those behind it. -/
theorem placesOf_cons_plain (plain : reader.key item = none) :
    placesOf reader (item :: rest) key =
      (placesOf reader rest key).map (· + 1) := by
  have head : ¬ KeyAt reader (item :: rest) key 0 := by
    simp [KeyAt, plain]
  rw [placesOf, List.length_cons, List.range_succ_eq_map,
    List.filter_cons_of_neg (by simpa using head), List.filter_map]
  refine congrArg _ (List.filter_congr fun index _ => ?_)
  exact decide_eq_decide.mpr (keyAt_cons_plain plain)

theorem placesOf_single (spelled : reader.key item = some other) :
    placesOf reader [item] key =
      if reader.reads other = true ∧ other = key then [0] else [] := by
  have first := @keyAt_zero _ _ _ _ reader [] item key other spelled
  rw [placesOf]
  by_cases isKey : reader.reads other = true ∧ other = key
  · simp [if_pos isKey, first.mpr isKey]
  · have none : ¬ KeyAt reader [item] key 0 := fun isAt =>
      isKey (first.mp isAt)
    simp [if_neg isKey, none]

theorem placesOf_cons_key (spelled : reader.key item = some other) :
    placesOf reader (item :: value :: rest) key =
      (if reader.reads other = true ∧ other = key then [0] else []) ++
        (placesOf reader rest key).map (· + 2) := by
  have first :=
    @keyAt_zero _ _ _ _ reader (value :: rest) item key other spelled
  have second : ¬ KeyAt reader (item :: value :: rest) key 1 := by
    simp [KeyAt, ReadsAt, not_isKeyAt_one spelled]
  have later : ((List.range rest.length).map fun index => index + 2).filter
      (fun index => KeyAt reader (item :: value :: rest) key index) =
        (placesOf reader rest key).map (· + 2) := by
    rw [List.filter_map, placesOf]
    refine congrArg _ (List.filter_congr fun index _ => ?_)
    exact decide_eq_decide.mpr (keyAt_cons_key spelled)
  have indexes : List.range (item :: value :: rest).length =
      0 :: 1 :: (List.range rest.length).map (· + 2) := by
    simp [List.range_succ_eq_map, Function.comp_def]
  rw [placesOf, indexes]
  by_cases isKey : reader.reads other = true ∧ other = key
  · rw [List.filter_cons_of_pos (by simpa using first.mpr isKey),
      List.filter_cons_of_neg (by simpa using second), later, if_pos isKey]
    rfl
  · have none := fun isAt => isKey (first.mp isAt)
    rw [List.filter_cons_of_neg (by simpa using none),
      List.filter_cons_of_neg (by simpa using second), later, if_neg isKey]
    rfl

theorem filter_pairs_eq (items : List Item) (key : Key) :
    ((pairs reader items).filter (·.1 = key)).map (·.2) =
      (placesOf reader items key).map fun index => items[index + 1]? := by
  induction items using pairs.induct reader with
  | case1 => rfl
  | case2 item plain =>
      rw [placesOf_cons_plain plain]
      simp [pairs, plain, placesOf]
  | case3 item other spelled reads =>
      rw [placesOf_single spelled]
      by_cases same : other = key
      · subst same
        simp [pairs, spelled, reads]
      · simp [pairs, spelled, reads, same]
  | case4 item other spelled skips =>
      rw [placesOf_single spelled]
      simp [pairs, spelled, skips]
  | case5 item value rest plain induction =>
      rw [placesOf_cons_plain plain, List.map_map]
      simpa [pairs, plain, Function.comp_def] using induction
  | case6 item value rest other spelled reads induction =>
      rw [placesOf_cons_key spelled, List.map_append, List.map_map]
      by_cases same : other = key
      · subst same
        simpa [pairs, spelled, reads, Function.comp_def] using induction
      · simpa [pairs, spelled, reads, same, Function.comp_def] using induction
  | case7 item value rest other spelled skips induction =>
      rw [placesOf_cons_key spelled, List.map_append, List.map_map]
      simpa [pairs, spelled, skips, Function.comp_def] using induction

end Places

end KeyScan
