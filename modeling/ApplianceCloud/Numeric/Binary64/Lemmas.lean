import ApplianceCloud.Numeric.Binary64
import Mathlib.Algebra.Order.Ring.Nat

namespace ApplianceCloud.Binary64

variable {n d k : Nat} {i : Int}

theorem twoTo_natCast (n : Nat) : twoTo n = 2 ^ n := rfl

theorem le_roundQuotient_iff (positive : 0 < d) (even : k % 2 = 0) :
    k ≤ roundQuotient n d ↔ 2 * (k * d) ≤ 2 * n + d := by
  have whole : n / d * d + n % d = n := Nat.div_add_mod' n d
  have part : n % d < d := Nat.mod_lt n positive
  unfold roundQuotient
  generalize n / d = q at *
  generalize n % d = r at *
  -- Where `k` stands to the whole part decides all but the number just above it.
  obtain low | next | high : k ≤ q ∨ k = q + 1 ∨ q + 2 ≤ k := by omega
  · have scaled : k * d ≤ q * d := Nat.mul_le_mul_right d low
    refine iff_of_true ?_ (by omega)
    simp only
    split_ifs <;> omega
  · have scaled : k * d = q * d + d := by rw [next, Nat.succ_mul]
    simp only
    split_ifs <;> omega
  · have scaled : (q + 2) * d ≤ k * d := Nat.mul_le_mul_right d high
    rw [Nat.add_mul] at scaled
    refine iff_of_false ?_ (by omega)
    simp only
    split_ifs <;> omega

theorem roundQuotient_le (positive : 0 < d) (bound : n ≤ k * d) : roundQuotient n d ≤ k := by
  have whole : n / d * d + n % d = n := Nat.div_add_mod' n d
  have low : n / d ≤ k := (Nat.div_le_iff_le_mul_add_pred positive).2 (by rw [Nat.mul_comm]; omega)
  unfold roundQuotient
  generalize n / d = q at *
  generalize n % d = r at *
  obtain less | same : q < k ∨ q = k := by omega
  · simp only
    split_ifs <;> omega
  · subst same
    simp only
    split_ifs <;> omega

theorem unitExponent_one (positive : n ≠ 0) :
    unitExponent n 1 = max leastExponent ((n.log2 : Int) - 52) := by
  have log : 2 ^ n.log2 ≤ n := Nat.log2_self_le positive
  have large : ¬ n * twoTo (-(n.log2 - 52 : Int)) < 1 * twoTo (n.log2 - 52 : Int) * twoTo 52 := by
    simp only [twoTo, Nat.pow_eq, Nat.one_mul, ← Nat.pow_add, Nat.not_lt]
    calc 2 ^ ((n.log2 - 52 : Int).toNat + (52 : Int).toNat)
        = 2 ^ n.log2 * 2 ^ (-(n.log2 - 52 : Int)).toNat := by
          rw [← Nat.pow_add]
          congr 1
          omega
      _ ≤ n * 2 ^ (-(n.log2 - 52 : Int)).toNat := Nat.mul_le_mul_right _ log
  simp only [unitExponent, show Nat.log2 1 = 0 from rfl, Int.natCast_zero, Int.sub_zero, large, if_false]

def leastOverflow : Nat := 2 ^ 1024 - 2 ^ 970

theorem leastOverflow_bounds : 2 ^ 1023 ≤ leastOverflow ∧ leastOverflow ≤ 2 ^ 1024 := by
  decide +kernel

theorem ofInt?_eq_none_iff_of_ne_zero (positive : i.natAbs ≠ 0) : ofInt? i = none ↔
    greatestExponent < if inUnits i.natAbs 1 (unitExponent i.natAbs 1) = twoTo 53
      then unitExponent i.natAbs 1 + 1 else unitExponent i.natAbs 1 := by
  simp only [ofInt?, ofRatio, positive, if_false]
  by_cases beyond : greatestExponent < if inUnits i.natAbs 1 (unitExponent i.natAbs 1) = twoTo 53
      then unitExponent i.natAbs 1 + 1 else unitExponent i.natAbs 1 <;> simp [beyond]

theorem inUnits_greatestExponent_iff (below : n < 2 ^ 1024) :
    inUnits n 1 greatestExponent = twoTo 53 ↔ leastOverflow ≤ n := by
  have unit : inUnits n 1 greatestExponent = roundQuotient n (2 ^ 971) := by
    rw [inUnits, show twoTo (-greatestExponent) = 1 from rfl, Nat.mul_one, Nat.one_mul]
    exact congrArg (roundQuotient n) (twoTo_natCast 971)
  have top : 2 ^ 53 * 2 ^ 971 = 2 ^ 1024 := by decide +kernel
  have half : 2 ^ 971 = 2 ^ 970 * 2 := by decide +kernel
  have atMost : roundQuotient n (2 ^ 971) ≤ 2 ^ 53 :=
    roundQuotient_le (pow_pos Nat.two_pos 971) (by rw [top]; exact Nat.le_of_lt below)
  have fromHalf : 2 ^ 53 ≤ roundQuotient n (2 ^ 971) ↔ leastOverflow ≤ n := by
    rw [le_roundQuotient_iff (pow_pos Nat.two_pos 971) rfl, top, half, leastOverflow]
    omega
  rw [unit, ← fromHalf]
  exact ⟨Nat.le_of_eq ∘ Eq.symm, Nat.le_antisymm atMost⟩

theorem ofInt?_eq_none_iff : ofInt? i = none ↔ leastOverflow ≤ i.natAbs := by
  obtain ⟨lower, upper⟩ := leastOverflow_bounds
  by_cases isZero : i.natAbs = 0
  · refine iff_of_false ?_ (by omega)
    simp [ofInt?, ofRatio, isZero, zero]
  · have unit := unitExponent_one isZero
    have length (k : Nat) : i.natAbs.log2 < k ↔ i.natAbs < 2 ^ k := Nat.log2_lt isZero
    rw [ofInt?_eq_none_iff_of_ne_zero isZero]
    -- The exponent depends on the length of the number, and at one length also on the rounding.
    obtain short | atLimit | long :
        i.natAbs.log2 < 1023 ∨ i.natAbs.log2 = 1023 ∨ 1024 ≤ i.natAbs.log2 := by omega
    · have small := (length 1023).1 short
      refine iff_of_false ?_ (Nat.not_le.2 (Nat.lt_of_lt_of_le small lower))
      simp only [unit, leastExponent, greatestExponent]
      split_ifs <;> omega
    · have below := (length 1024).1 (by omega)
      have exponent : unitExponent i.natAbs 1 = greatestExponent := by
        rw [unit, atLimit]
        rfl
      rw [exponent, ← inUnits_greatestExponent_iff below]
      split_ifs with carried
      · exact iff_of_true (Int.lt_succ _) carried
      · exact iff_of_false (Int.lt_irrefl _) carried
    · have large := Nat.not_lt.1 (mt (length 1024).2 (Nat.not_lt.2 long))
      refine iff_of_true ?_ (Nat.le_trans upper large)
      simp only [unit, leastExponent, greatestExponent]
      split_ifs <;> omega

end ApplianceCloud.Binary64
