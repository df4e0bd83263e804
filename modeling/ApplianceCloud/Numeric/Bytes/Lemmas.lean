import ApplianceCloud.Numeric.Bytes
import Mathlib.Algebra.BigOperators.Group.Finset.Basic

namespace ApplianceCloud

theorem foldl_bigEndian (bytes : List UInt8) (value : Nat) :
    bytes.foldl (fun value byte => value * 256 + byte.toNat) value =
      value * 256 ^ bytes.length + bigEndian bytes := by
  induction bytes generalizing value with
  | nil => simp [bigEndian]
  | cons byte rest ih =>
    simp only [bigEndian, List.foldl_cons, List.length_cons, ih (value * 256 + byte.toNat),
      ih (0 * 256 + byte.toNat), Nat.pow_succ]
    simp only [Nat.zero_mul, Nat.zero_add, Nat.add_mul, Nat.mul_assoc, Nat.add_assoc]
    congr 2
    rw [Nat.mul_comm 256]

theorem bigEndian_cons (byte : UInt8) (rest : List UInt8) :
    bigEndian (byte :: rest) = byte.toNat * 256 ^ rest.length + bigEndian rest := by
  simpa [bigEndian] using foldl_bigEndian rest byte.toNat

theorem bigEndian_lt (bytes : List UInt8) : bigEndian bytes < 256 ^ bytes.length := by
  induction bytes with
  | nil => simp [bigEndian]
  | cons byte rest ih =>
    have bound : byte.toNat < 256 := byte.toNat_lt
    rw [bigEndian_cons, List.length_cons, Nat.pow_succ]
    calc byte.toNat * 256 ^ rest.length + bigEndian rest
        < byte.toNat * 256 ^ rest.length + 256 ^ rest.length := by omega
      _ = (byte.toNat + 1) * 256 ^ rest.length := by rw [Nat.succ_mul]
      _ ≤ 256 * 256 ^ rest.length := Nat.mul_le_mul_right _ bound
      _ = 256 ^ rest.length * 256 := Nat.mul_comm ..

theorem bigEndian_eq_sum (bytes : List UInt8) : bigEndian bytes =
    ∑ i ∈ Finset.range bytes.length, (bytes.getD i 0).toNat * 256 ^ (bytes.length - 1 - i) := by
  induction bytes with
  | nil => rfl
  | cons byte rest ih =>
    rw [bigEndian_cons, List.length_cons, Finset.sum_range_succ', ih, Nat.add_comm]
    congr 1
    refine Finset.sum_congr rfl fun i _ => ?_
    have weight : rest.length + 1 - 1 - (i + 1) = rest.length - 1 - i := by omega
    rw [weight, List.getD_cons_succ]

end ApplianceCloud
