import ApplianceCloud.Numeric.Binary64.Lemmas
import ApplianceCloud.Numeric.Bytes.Lemmas
import ApplianceCloud.Numeric.Numeral.Lemmas
import ApplianceCloud.Status.Telemetry

namespace ApplianceCloud

theorem Binary64.exists_ofInt? {n : Int} {bits : Nat} (few : bits ≤ 1016)
    (small : n.natAbs < 2 ^ bits) : ∃ x, Binary64.ofInt? n = some x := by
  have low : n.natAbs < leastOverflow := calc
    n.natAbs < 2 ^ bits := small
    _ ≤ 2 ^ 1023 := pow_le_pow_right₀ (by decide) (by omega)
    _ ≤ leastOverflow := leastOverflow_bounds.1
  exact Option.ne_none_iff_exists'.1 fun none => Nat.not_le.2 low (ofInt?_eq_none_iff.1 none)

namespace Reading

theorem ofNatural_eq {kind : ReadingKind} (carried : kind ≠ .truth) (n : Nat) :
    ofNatural kind n = some (ofDocument kind (.int n)) := by
  cases kind with
  | text =>
    simp only [ofNatural, ofDocument, Document.toText_int]
    cases Numeral.write? n <;> rfl
  | truth => exact absurd rfl carried
  | _ => rfl

inductive Coerces : ReadingKind → Nat → Reading → Prop where
  | text (n : Nat) : Coerces .text n (.text (toString (n : Int)))
  | integer (n : Nat) : Coerces .integer n (.integer n)
  | number {n : Nat} {x : Binary64} (nearest : Binary64.ofInt? n = some x) :
      Coerces .number n (.number x)

theorem exists_ofNatural {kind : ReadingKind} (carried : kind ≠ .truth) {n size : Nat}
    (few : size ≤ 127) (small : n < 256 ^ size) :
    ∃ reading, ofNatural kind n = some (.ok reading) ∧ Coerces kind n reading := by
  cases kind with
  | text =>
    have short : n < 10 ^ Numeral.longestNumeral := calc
      n < 256 ^ size := small
      _ ≤ (10 ^ 3) ^ size := Nat.pow_le_pow_left (by decide) _
      _ = 10 ^ (3 * size) := (Nat.pow_mul ..).symm
      _ ≤ 10 ^ Numeral.longestNumeral :=
        Nat.pow_le_pow_right (by decide) (by rw [Numeral.longestNumeral]; omega)
    have writable := Numeral.write?_of_lt (n := n) short
    exact ⟨_, by simp [ofNatural, writable], .text n⟩
  | integer => exact ⟨_, rfl, .integer n⟩
  | number =>
    have bits : n < 2 ^ (8 * size) := calc
      n < (2 ^ 8) ^ size := small
      _ = 2 ^ (8 * size) := (Nat.pow_mul ..).symm
    obtain ⟨x, nearest⟩ := Binary64.exists_ofInt? (n := n) (by omega) bits
    exact ⟨.number x, by simp [ofNatural, Document.numberOfInt, nearest, Except.map],
      .number nearest⟩
  | truth => exact absurd rfl carried

end Reading

namespace ReportField

variable {field : ReportField} {size : Nat} {bytes : List UInt8}

def IsOutside (field : ReportField) (size : Nat) : Prop :=
  field.start < 0 ∨ field.length ≤ 0 ∨ size < field.start + field.length

theorem fits_iff : field.fits size = true ↔ ¬ field.IsOutside size := by
  simp only [fits, Bool.and_eq_true, decide_eq_true_eq, and_assoc]
  simp only [IsOutside, stop, not_or, Int.not_lt, Int.not_le]

/-- The unsigned number at the place of a field: every byte by the weight of its place. -/
def number (field : ReportField) (bytes : List UInt8) : Nat :=
  ∑ i ∈ Finset.range field.length.toNat,
    (bytes.getD (field.start.toNat + i) 0).toNat * 256 ^ (field.length.toNat - 1 - i)

theorem length_window (inside : ¬ field.IsOutside bytes.length) :
    ((bytes.drop field.start.toNat).take field.length.toNat).length = field.length.toNat := by
  simp only [IsOutside] at inside
  rw [List.length_take, List.length_drop]
  omega

theorem valueIn_eq_number (inside : ¬ field.IsOutside bytes.length) :
    field.valueIn bytes = field.number bytes := by
  rw [valueIn, bigEndian_eq_sum, length_window inside]
  refine Finset.sum_congr rfl fun i member => ?_
  have byte : ((bytes.drop field.start.toNat).take field.length.toNat).getD i 0 =
      bytes.getD (field.start.toNat + i) 0 := by
    simp [List.getD_eq_getElem?_getD, Finset.mem_range.1 member]
  rw [byte]

theorem number_lt (inside : ¬ field.IsOutside bytes.length) :
    field.number bytes < 256 ^ field.length.toNat := by
  rw [← valueIn_eq_number inside]
  have bound := bigEndian_lt ((bytes.drop field.start.toNat).take field.length.toNat)
  rwa [length_window inside] at bound

theorem number_congr {other : List UInt8} (positive : 0 ≤ field.start)
    (same : ∀ place : Nat, field.start ≤ place → (place : Int) < field.start + field.length →
      other[place]? = bytes[place]?) : field.number other = field.number bytes := by
  refine Finset.sum_congr rfl fun i member => ?_
  have inField := Finset.mem_range.1 member
  have byte := same (field.start.toNat + i) (by omega) (by omega)
  rw [List.getD_eq_getElem?_getD, List.getD_eq_getElem?_getD, byte]

end ReportField

end ApplianceCloud
