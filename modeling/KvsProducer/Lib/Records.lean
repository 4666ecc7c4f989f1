import Mathlib.Data.List.Basic

/-!
# Records of a fixed size

A stream is cut into consecutive records of one size; what is left over at its
end is no record.
-/

namespace Records

variable {α : Type*} {size : Nat} {stream rest : List α}

def records (size : Nat) (stream : List α) : List (List α) :=
  (List.range (stream.length / size)).map fun index =>
    (stream.drop (index * size)).take size

@[simp] theorem records_nil : records size ([] : List α) = [] := by
  simp [records]

/-- The records of a prefix of whole records stay when the stream goes on. -/
theorem records_whole (whole : size ∣ stream.length) :
    (List.range (stream.length / size)).map (fun index =>
        ((stream ++ rest).drop (index * size)).take size) =
      records size stream := by
  unfold records
  apply List.map_congr_left
  intro index listed
  have fits : (index + 1) * size ≤ stream.length := by
    obtain ⟨count, same⟩ := whole
    rcases Nat.eq_zero_or_pos size with rfl | positive
    · simp
    · rw [List.mem_range, same, Nat.mul_div_cancel_left _ positive] at listed
      rw [same, Nat.mul_comm size]
      exact Nat.mul_le_mul_right size listed
  have inside : index * size ≤ stream.length := by
    rw [Nat.add_one_mul] at fits
    omega
  rw [List.drop_append_of_le_length inside, List.take_append_of_le_length]
  rw [List.length_drop, Nat.add_one_mul] at *
  omega

theorem records_append_short (whole : size ∣ stream.length)
    (short : rest.length < size) :
    records size (stream ++ rest) = records size stream := by
  obtain ⟨count, same⟩ := whole
  have sameCount : (stream ++ rest).length / size = stream.length / size := by
    rw [List.length_append, same, Nat.mul_add_div (Nat.zero_lt_of_lt short),
      Nat.div_eq_of_lt short, Nat.mul_div_cancel_left _ (Nat.zero_lt_of_lt short),
      Nat.add_zero]
  rw [← @records_whole _ _ _ rest ⟨count, same⟩, records, sameCount]

theorem records_append_record (whole : size ∣ stream.length)
    (full : rest.length = size) (positive : 0 < size) :
    records size (stream ++ rest) = records size stream ++ [rest] := by
  obtain ⟨count, same⟩ := whole
  have counted : stream.length / size = count := by
    rw [same, Nat.mul_div_cancel_left _ positive]
  have more : (stream ++ rest).length / size = count + 1 := by
    rw [List.length_append, same, full, ← Nat.mul_add_one,
      Nat.mul_div_cancel_left _ positive]
  rw [records, more, List.range_succ, List.map_append]
  congr 1
  · rw [← @records_whole _ _ _ rest ⟨count, same⟩, counted]
  · rw [List.map_singleton, Nat.mul_comm, ← same, List.drop_left,
      List.take_of_length_le (Nat.le_of_eq full)]

end Records
