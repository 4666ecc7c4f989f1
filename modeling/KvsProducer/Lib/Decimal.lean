import Mathlib

/-!
# Decimal numbers

Natural numbers and decimal fractions as they are spelt in ASCII digits, with
the point between the integral and the fractional part.  What follows the point
counts by its position, so that its number of digits matters.
-/

namespace Decimal

abbrev Digits := List UInt8

def isDigit (c : UInt8) : Bool := 48 ≤ c && c ≤ 57

/-- One more digit behind a number. -/
def push (number : Nat) (c : UInt8) : Nat := number * 10 + (c.toNat - 48)

/-- The number that digits spell. -/
def natural (text : Digits) : Option Nat :=
  if text ≠ [] ∧ text.all isDigit then some (text.foldl push 0) else none

/-- The digits of a number, without zeros in front. -/
def spell (number : Nat) : Digits :=
  (Nat.toDigits 10 number).map fun digit => digit.toNat.toUInt8

def point : UInt8 := 46

/-- The number that digits spell which may have a point between them. -/
def fraction (text : Digits) : Option ℚ :=
  match text.dropWhile isDigit with
  | [] => (natural (text.takeWhile isDigit)).map (↑)
  | c :: behind =>
      if c = point then do
        let whole ← natural (text.takeWhile isDigit)
        let parts ← natural behind
        return (whole : ℚ) + parts / 10 ^ behind.length
      else none

/-! ### The digits of a number -/

theorem foldl_push_lt (text : Digits) (number : Nat)
    (digits : text.all isDigit = true) :
    text.foldl push number < (number + 1) * 10 ^ text.length := by
  induction text generalizing number with
  | nil => simp
  | cons c rest induction =>
      rw [List.all_cons, Bool.and_eq_true] at digits
      obtain ⟨digit, later⟩ := digits
      have small : c.toNat ≤ 57 := by
        simp only [isDigit, Bool.and_eq_true, decide_eq_true_eq] at digit
        exact digit.2
      have step := induction (push number c) later
      rw [List.foldl_cons, List.length_cons, Nat.pow_succ']
      refine Nat.lt_of_lt_of_le step ?_
      rw [← Nat.mul_assoc, push]
      exact Nat.mul_le_mul_right _ (by omega)

theorem natural_lt {text : Digits} {number : Nat}
    (spells : natural text = some number) : number < 10 ^ text.length := by
  unfold natural at spells
  split at spells
  · rename_i digits
    cases spells
    simpa using foldl_push_lt text 0 digits.2
  · cases spells

theorem isDigit_toUInt8 {digit : Char} (isDigit : digit.isDigit = true) :
    Decimal.isDigit digit.toNat.toUInt8 = true ∧
      digit.toNat.toUInt8.toNat = digit.toNat := by
  obtain ⟨large, small⟩ : 48 ≤ digit.toNat ∧ digit.toNat ≤ 57 := by
    simpa [Char.isDigit, UInt32.le_iff_toNat_le] using isDigit
  have same : digit.toNat.toUInt8.toNat = digit.toNat := by
    simp only [Nat.toUInt8, UInt8.toNat_ofNat']
    omega
  refine ⟨?_, same⟩
  have least : (48 : UInt8).toNat = 48 := rfl
  have greatest : (57 : UInt8).toNat = 57 := rfl
  rw [Decimal.isDigit, Bool.and_eq_true, decide_eq_true_eq, decide_eq_true_eq,
    UInt8.le_iff_toNat_le, UInt8.le_iff_toNat_le, same]
  omega

theorem isDigit_of_mem_toDigits {number : Nat} {digit : Char}
    (listed : digit ∈ Nat.toDigits 10 number) : digit.isDigit = true :=
  Nat.isDigit_of_mem_toDigits (by decide) (by decide) listed

theorem all_isDigit_spell (number : Nat) :
    (spell number).all isDigit = true := by
  rw [spell, List.all_map, List.all_eq_true]
  intro digit listed
  exact (isDigit_toUInt8 (isDigit_of_mem_toDigits listed)).1

theorem spell_ne_nil (number : Nat) : spell number ≠ [] := by
  simp [spell, Nat.toDigits_ne_nil]

theorem length_spell_le_iff {number count : Nat} (positive : 0 < count) :
    (spell number).length ≤ count ↔ number < 10 ^ count := by
  rw [spell, List.length_map]
  exact Nat.length_toDigits_le_iff (by decide) positive

theorem foldl_push_toDigits (digits : List Char) (number : Nat)
    (areDigits : ∀ digit ∈ digits, digit.isDigit = true) :
    (digits.map fun digit => digit.toNat.toUInt8).foldl push number =
      Nat.ofDigitChars 10 digits number := by
  induction digits generalizing number with
  | nil => simp
  | cons digit digits induction =>
      have same := (isDigit_toUInt8 (areDigits digit List.mem_cons_self)).2
      rw [List.map_cons, List.foldl_cons, Nat.ofDigitChars_cons, induction]
      · rw [push, same, Nat.mul_comm]
        rfl
      · intro other listed
        exact areDigits other (List.mem_cons_of_mem _ listed)

theorem natural_spell (number : Nat) : natural (spell number) = some number := by
  rw [natural, if_pos ⟨spell_ne_nil number, all_isDigit_spell number⟩, spell,
    foldl_push_toDigits _ _ fun _ => isDigit_of_mem_toDigits,
    Nat.ofDigitChars_ten_toDigits]

/-! ### Fractions -/

/-- Two numbers with a point between them: the second counts by the number of
its digits. -/
theorem fraction_spell (whole parts : Nat) :
    fraction (spell whole ++ point :: spell parts) =
      some ((whole : ℚ) + parts / 10 ^ (spell parts).length) := by
  have digits := List.all_eq_true.mp (all_isDigit_spell whole)
  have noDigit : isDigit point = false := rfl
  unfold fraction
  rw [List.dropWhile_append_of_pos digits, List.takeWhile_append_of_pos digits,
    List.dropWhile_cons_of_neg (by simp [noDigit]),
    List.takeWhile_cons_of_neg (by simp [noDigit]), List.append_nil,
    natural_spell]
  simp [natural_spell]

theorem length_spell_eq_iff {number count : Nat} (few : number < 10 ^ count)
    (positive : 0 < number) :
    (spell number).length = count ↔ 10 ^ (count - 1) ≤ number := by
  obtain ⟨fewer, rfl⟩ : ∃ fewer, count = fewer + 1 := by
    apply Nat.exists_eq_succ_of_ne_zero
    intro zero
    subst zero
    omega
  have short := (length_spell_le_iff (Nat.succ_pos fewer)).mpr few
  rw [Nat.add_sub_cancel]
  rcases Nat.eq_zero_or_pos fewer with rfl | positiveFewer
  · have some := List.length_pos_of_ne_nil (spell_ne_nil number)
    simp only [pow_zero]
    omega
  · have shorter := @length_spell_le_iff number fewer positiveFewer
    omega

theorem spell_head {number : Nat} (zero : (spell number).head? = some 48) :
    spell number = [48] := by
  rcases Nat.eq_zero_or_pos number with rfl | positive
  · rfl
  · cases spelt : spell number with
    | nil => exact (spell_ne_nil number spelt).elim
    | cons c rest =>
        rw [spelt] at zero
        obtain rfl : c = 48 := by simpa using zero
        have few : number < 10 ^ (spell number).length :=
          (length_spell_le_iff (List.length_pos_of_ne_nil
            (spell_ne_nil number))).mp (Nat.le_refl _)
        have many := (length_spell_eq_iff few positive).mp rfl
        have digits := all_isDigit_spell number
        have value := natural_spell number
        rw [natural, if_pos ⟨spell_ne_nil number, digits⟩] at value
        rw [spelt] at value digits many
        rw [List.all_cons, Bool.and_eq_true] at digits
        have less : rest.foldl push 0 < 10 ^ rest.length := by
          simpa using foldl_push_lt rest 0 digits.2
        have same : rest.foldl push 0 = number := Option.some.inj value
        rw [List.length_cons, Nat.add_sub_cancel] at many
        omega

/-- A number behind the point counts as so many parts of a power of ten if and
only if it is zero or has as many digits as the power has zeros. -/
theorem div_length_spell_eq_iff {parts count : Nat} (few : parts < 10 ^ count) :
    (parts : ℚ) / 10 ^ (spell parts).length = parts / 10 ^ count ↔
      parts = 0 ∨ 10 ^ (count - 1) ≤ parts := by
  by_cases zero : parts = 0
  · simp [zero]
  · have positive : (parts : ℚ) ≠ 0 := Nat.cast_ne_zero.mpr zero
    rw [or_iff_right zero,
      ← length_spell_eq_iff few (Nat.pos_of_ne_zero zero)]
    constructor
    · intro same
      rw [div_eq_div_iff (by positivity) (by positivity)] at same
      have powers := mul_left_cancel₀ positive same
      exact (pow_right_injective₀ (by norm_num) (by norm_num) powers).symm
    · intro same
      rw [same]

end Decimal
