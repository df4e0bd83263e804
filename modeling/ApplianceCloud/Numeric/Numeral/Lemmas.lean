import ApplianceCloud.Numeric.Numeral
import Mathlib.Algebra.Order.Ring.Nat

namespace ApplianceCloud

theorem tenTo_natCast (n : Nat) : tenTo n = 10 ^ n := rfl

namespace Numeral

theorem write?_of_lt {n : Int} (short : n.natAbs < 10 ^ longestNumeral) :
    write? n = some (toString n) := by
  rw [write?, tenTo_natCast, if_pos short]

theorem isSome_write?_iff {n : Int} :
    (write? n).isSome = true ↔ n.natAbs < 10 ^ longestNumeral := by
  rw [write?, tenTo_natCast]
  split <;> simp_all

theorem foldl_valueOf_lt {digits : List Nat} (small : ∀ digit ∈ digits, digit ≤ 9) (value : Nat) :
    digits.foldl (fun value digit => 10 * value + digit) value < (value + 1) * 10 ^ digits.length := by
  induction digits generalizing value with
  | nil => simp
  | cons digit rest ih =>
    obtain ⟨here, later⟩ := List.forall_mem_cons.1 small
    rw [List.foldl_cons, List.length_cons, Nat.pow_succ']
    calc rest.foldl (fun value digit => 10 * value + digit) (10 * value + digit)
        < (10 * value + digit + 1) * 10 ^ rest.length := ih later _
      _ ≤ ((value + 1) * 10) * 10 ^ rest.length := Nat.mul_le_mul_right _ (by omega)
      _ = (value + 1) * (10 * 10 ^ rest.length) := Nat.mul_assoc ..

theorem asciiValue_le {c : Char} (digit : c.isDigit = true) : asciiValue c ≤ 9 := by
  simp only [Char.isDigit, Bool.and_eq_true, decide_eq_true_eq, ge_iff_le] at digit
  have upper : c.toNat ≤ '9'.toNat := digit.2
  have nine : '9'.toNat = 57 := rfl
  have zero : '0'.toNat = 48 := rfl
  rw [asciiValue]
  omega

theorem valueOfChars_lt {digits : List Char} (decimal : ∀ c ∈ digits, c.isDigit = true) :
    valueOfChars digits < 10 ^ digits.length := by
  have small : ∀ digit ∈ digits.map asciiValue, digit ≤ 9 := by
    intro digit member
    obtain ⟨c, inside, rfl⟩ := List.mem_map.1 member
    exact asciiValue_le (decimal c inside)
  simpa [valueOfChars, valueOf] using foldl_valueOf_lt small 0

theorem isSome_write?_valueOfChars {digits : List Char} (decimal : ∀ c ∈ digits, c.isDigit = true)
    (short : digits.length ≤ longestNumeral) :
    (write? (valueOfChars digits)).isSome = true ∧ (write? (-valueOfChars digits)).isSome = true := by
  have bound : valueOfChars digits < 10 ^ longestNumeral := calc
    valueOfChars digits < 10 ^ digits.length := valueOfChars_lt decimal
    _ ≤ 10 ^ longestNumeral := Nat.pow_le_pow_right (by decide) short
  rw [isSome_write?_iff, isSome_write?_iff, Int.natAbs_neg, Int.natAbs_natCast]
  exact ⟨bound, bound⟩

end Numeral

end ApplianceCloud
