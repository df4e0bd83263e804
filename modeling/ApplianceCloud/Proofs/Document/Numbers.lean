import ApplianceCloud.Document.Reader
import ApplianceCloud.Document.Writer
import ApplianceCloud.Numeric.Numeral.Lemmas
import Mathlib.Data.List.TakeWhile

namespace ApplianceCloud

/-! ## Digits -/

theorem isDigit_of_mem_decimalDigits {n : Nat} {c : Char} (member : c ∈ decimalDigits n) :
    c.isDigit = true :=
  Nat.isDigit_of_mem_toDigits (by decide) (by decide) member

theorem decimalDigits_ne_nil (n : Nat) : decimalDigits n ≠ [] := Nat.toDigits_ne_nil

theorem head?_decimalDigits_ne_zero {n : Nat} (positive : n ≠ 0) :
    (decimalDigits n).head? ≠ some '0' := by
  induction n using Nat.strong_induction_on with
  | _ n ih =>
    rw [decimalDigits, Nat.toDigits_eq_if (by decide)]
    split_ifs with small
    · simpa using positive
    · have quotient : n / 10 ≠ 0 := by omega
      rw [List.head?_append, Option.or_of_isSome (by simp [Nat.toDigits_ne_nil])]
      exact ih (n / 10) (by omega) quotient

theorem twoTo_pos (exponent : Int) : 0 < twoTo exponent := Nat.pow_pos (by decide)

theorem tenTo_pos (exponent : Int) : 0 < tenTo exponent := Nat.pow_pos (by decide)

theorem tenTo_le_pow {exponent : Int} {n : Nat} (le : exponent.toNat ≤ n) : tenTo exponent ≤ 10 ^ n :=
  Nat.pow_le_pow_right (by decide) le

namespace Decimal

def IsProper (d : Decimal) : Prop := d.digits = 0 → d.exponent ≤ 0

theorem IsProper.dropZeros {d : Decimal} (proper : d.IsProper) (fuel : Nat) :
    (dropZeros fuel d).IsProper := by
  induction fuel generalizing d with
  | zero => exact proper
  | succ fuel ih =>
    rw [Decimal.dropZeros]
    split_ifs with zeros
    · refine ih fun none => absurd none ?_
      have := zeros.1
      dsimp only
      omega
    · exact proper

variable {mantissa : Nat} {exponent scale : Int} {d : Decimal}

theorem digits_ne_zero_of_roundsTo (positive : mantissa ≠ 0)
    (rounds : d.roundsTo mantissa exponent = true) : d.digits ≠ 0 := by
  intro none
  have less {bound : Nat} (large : 0 < bound) : d.compareBinary bound (exponent - 2) = .lt := by
    rw [compareBinary, none, Nat.zero_mul, Nat.zero_mul, Nat.compare_eq_lt]
    exact Nat.mul_pos (Nat.mul_pos large (twoTo_pos _)) (tenTo_pos _)
  have lower : 0 < 4 * mantissa - if mantissa = twoTo 52 ∧ Binary64.leastExponent < exponent
      then 1 else 2 := by
    split_ifs <;> omega
  simp [roundsTo, less lower] at rounds

theorem digits_ne_zero_of_onGrid? (positive : mantissa ≠ 0)
    (found : onGrid? mantissa exponent scale = some d) : d.digits ≠ 0 := by
  unfold onGrid? at found
  dsimp only at found
  split at found
  · next below above =>
    cases found
    split_ifs
    · exact digits_ne_zero_of_roundsTo positive above
    · exact digits_ne_zero_of_roundsTo positive below
  · next below _ =>
    cases found
    exact digits_ne_zero_of_roundsTo positive below
  · next _ above =>
    cases found
    exact digits_ne_zero_of_roundsTo positive above
  · cases found

theorem le_of_decimalLength {n length : Nat} (long : Binary64.decimalLength n = length + 1)
    (positive : 0 < length) : 10 ^ length ≤ n := by
  have least := (Nat.length_toDigits_le_iff (by decide) positive).not.1
    (show ¬ Binary64.decimalLength n ≤ length by omega)
  exact Nat.not_lt.1 least

theorem isProper_floorOn (mantissa : Nat) (exponent : Int) :
    let scale := pointPosition mantissa exponent - 17
    IsProper ⟨floorOn mantissa exponent scale, scale⟩ := by
  intro scale none
  by_contra large
  dsimp only at none large
  have many : 348 ≤
      Binary64.decimalLength (mantissa * twoTo exponent * tenTo 330 / twoTo (-exponent)) := by
    simp only [scale, pointPosition] at large
    omega
  obtain ⟨length, long⟩ := Nat.exists_eq_add_of_le' many
  have scale_eq : scale = ((length + 1 : Nat) : Int) := by
    simp only [scale, pointPosition, long]
    omega
  have unit : 0 < twoTo (-exponent) := twoTo_pos _
  have above : 10 ^ (length + 347) * twoTo (-exponent) ≤ mantissa * twoTo exponent * tenTo 330 :=
    (Nat.le_div_iff_mul_le unit).1 (le_of_decimalLength long (by omega))
  have below : mantissa * twoTo exponent < twoTo (-exponent) * 10 ^ (length + 1) := by
    have one : tenTo (-((length + 1 : Nat) : Int)) = 1 := by
      rw [tenTo, Int.toNat_neg_natCast]
    rw [scale_eq, floorOn, one, Nat.mul_one, tenTo_natCast, Nat.div_eq_zero_iff] at none
    exact none.resolve_left (Nat.mul_pos unit (Nat.pow_pos (by decide))).ne'
  refine absurd above (Nat.not_le.2 ?_)
  calc mantissa * twoTo exponent * tenTo 330
      < twoTo (-exponent) * 10 ^ (length + 1) * tenTo 330 :=
        Nat.mul_lt_mul_of_pos_right below (tenTo_pos _)
    _ ≤ twoTo (-exponent) * 10 ^ (length + 1) * 10 ^ 346 :=
        Nat.mul_le_mul_left _ (tenTo_le_pow (by decide))
    _ = 10 ^ (length + 347) * twoTo (-exponent) := by
        rw [Nat.mul_assoc, Nat.mul_comm, ← Nat.pow_add]

theorem isProper_shortest (positive : mantissa ≠ 0) : (shortest mantissa exponent).IsProper := by
  unfold shortest
  refine IsProper.dropZeros ?_ 18
  cases found : (List.range 17).findSome? fun (n : Nat) =>
      onGrid? mantissa exponent (pointPosition mantissa exponent - (n + 1)) with
  | none => exact isProper_floorOn mantissa exponent
  | some d =>
    obtain ⟨n, -, found⟩ := List.exists_of_findSome?_eq_some found
    exact fun none => absurd none (digits_ne_zero_of_onGrid? positive found)

end Decimal

namespace Document

def Ends (rest : List Char) : Prop :=
  ∀ c ∈ rest.head?, c ∈ [',', ']', '}', ' ', '\t', '\n', '\r']

def IsWhole (s : List Char) : Prop :=
  s = ['0'] ∨ s ≠ [] ∧ s.head? ≠ some '0' ∧ ∀ c ∈ s, c.isDigit = true

def IsFraction (s : List Char) : Prop :=
  s = [] ∨ ∃ digits, s = '.' :: digits ∧ digits ≠ [] ∧ ∀ c ∈ digits, c.isDigit = true

def IsMark (s : List Char) : Prop :=
  s = [] ∨ ∃ sign digits, s = 'e' :: sign :: digits ∧ (sign = '+' ∨ sign = '-') ∧ digits ≠ [] ∧
    ∀ c ∈ digits, c.isDigit = true

/-- What is read as the magnitude of a number: an integer is not too long. -/
inductive IsMagnitude : List Char → Prop where
  | parts {whole fraction mark : List Char} (isWhole : IsWhole whole)
      (isFraction : IsFraction fraction) (isMark : IsMark mark)
      (short : fraction = [] → mark = [] → whole.length ≤ Numeral.longestNumeral) :
      IsMagnitude (whole ++ (fraction ++ mark))

section Reading

variable {whole fraction mark rest digits s : List Char}

theorem ends_nil : Ends [] := nofun

theorem ends_cons {c : Char} (member : c ∈ [',', ']', '}', ' ', '\t', '\n', '\r'])
    (rest : List Char) : Ends (c :: rest) := by
  rintro _ ⟨⟩
  exact member

theorem not_numeric_of_ends (ends : Ends rest) :
    ∀ c ∈ rest.head?, c.isDigit = false ∧ c ≠ '.' ∧ c ≠ 'e' ∧ c ≠ 'E' := by
  have all : ∀ c ∈ [',', ']', '}', ' ', '\t', '\n', '\r'],
      c.isDigit = false ∧ c ≠ '.' ∧ c ≠ 'e' ∧ c ≠ 'E' := by simp
  exact fun c head => all c (ends c head)

theorem not_isDigit_of_ends (ends : Ends rest) : ∀ c ∈ rest.head?, c.isDigit = false :=
  fun c head => (not_numeric_of_ends ends c head).1

theorem takeWhile_isDigit (decimal : ∀ c ∈ digits, c.isDigit = true)
    (stops : ∀ c ∈ rest.head?, c.isDigit = false) :
    (digits ++ rest).takeWhile Char.isDigit = digits := by
  rw [List.takeWhile_append_of_pos decimal]
  cases rest with
  | nil => simp
  | cons c rest => simp [stops c rfl]

theorem dropWhile_isDigit (decimal : ∀ c ∈ digits, c.isDigit = true)
    (stops : ∀ c ∈ rest.head?, c.isDigit = false) :
    (digits ++ rest).dropWhile Char.isDigit = rest := by
  rw [List.dropWhile_append_of_pos decimal]
  cases rest with
  | nil => rfl
  | cons c rest => simp [stops c rfl]

theorem splitWhole_append (isWhole : IsWhole whole)
    (stops : ∀ c ∈ rest.head?, c.isDigit = false) : splitWhole (whole ++ rest) = (whole, rest) := by
  rcases isWhole with rfl | ⟨nonempty, nonzero, decimal⟩
  · rfl
  · unfold splitWhole
    split
    · next same =>
      obtain ⟨first, others, rfl⟩ := List.exists_cons_of_ne_nil nonempty
      cases (List.cons.inj same).1
      exact absurd rfl nonzero
    · rw [takeWhile_isDigit decimal stops, dropWhile_isDigit decimal stops]

theorem splitFraction_append (isFraction : IsFraction fraction)
    (stops : ∀ c ∈ rest.head?, c.isDigit = false ∧ c ≠ '.') :
    splitFraction (fraction ++ rest) = (fraction.tail, rest) := by
  rcases isFraction with rfl | ⟨digits, rfl, nonempty, decimal⟩
  · rw [List.nil_append]
    unfold splitFraction
    split
    · exact absurd rfl (stops '.' rfl).2
    · rfl
  · have unmixed : ∀ c ∈ rest.head?, c.isDigit = false := fun c head => (stops c head).1
    rw [List.cons_append, splitFraction, takeWhile_isDigit decimal unmixed,
      dropWhile_isDigit decimal unmixed, if_neg (by simpa using nonempty)]
    rfl

theorem splitExponent_of_ends (ends : Ends rest) : splitExponent rest = (none, rest) := by
  cases rest with
  | nil => rfl
  | cons c rest =>
    obtain ⟨-, -, unmarked⟩ := not_numeric_of_ends ends c rfl
    simp [splitExponent, unmarked]

theorem splitExponent_append (isMark : IsMark mark) :
    ∃ exponent, (exponent.isNone = true ↔ mark = []) ∧
      ∀ rest, Ends rest → splitExponent (mark ++ rest) = (exponent, rest) := by
  rcases isMark with rfl | ⟨sign, digits, rfl, signed, nonempty, decimal⟩
  · exact ⟨none, by simp, fun rest => splitExponent_of_ends⟩
  · obtain ⟨negative, split⟩ : ∃ negative, ∀ rest, Numeral.splitSign (sign :: (digits ++ rest)) =
        (negative, digits ++ rest) := by
      rcases signed with rfl | rfl
      · exact ⟨false, fun _ => rfl⟩
      · exact ⟨true, fun _ => rfl⟩
    have complete : digits.isEmpty = false := by simpa using nonempty
    let magnitude : Int := Numeral.valueOfChars digits
    refine ⟨some (if negative then -magnitude else magnitude), by simp, fun rest ends => ?_⟩
    have stops := not_isDigit_of_ends ends
    simp only [List.cons_append, splitExponent, split, takeWhile_isDigit decimal stops,
      dropWhile_isDigit decimal stops, complete]
    rfl

theorem stops_of_isMark (isMark : IsMark mark) (ends : Ends rest) :
    ∀ c ∈ (mark ++ rest).head?, c.isDigit = false ∧ c ≠ '.' := by
  intro c head
  rcases isMark with rfl | ⟨sign, digits, rfl, -⟩
  · obtain ⟨digit, point, -⟩ := not_numeric_of_ends ends c head
    exact ⟨digit, point⟩
  · cases head
    exact ⟨rfl, by decide⟩

theorem stops_of_isFraction (isFraction : IsFraction fraction)
    (stops : ∀ c ∈ rest.head?, c.isDigit = false ∧ c ≠ '.') :
    ∀ c ∈ (fraction ++ rest).head?, c.isDigit = false := by
  intro c head
  rcases isFraction with rfl | ⟨digits, rfl, -⟩
  · exact (stops c head).1
  · cases head
    rfl

theorem IsWhole.ne_nil (isWhole : IsWhole whole) : whole ≠ [] := by
  rcases isWhole with rfl | ⟨nonempty, -⟩
  · exact List.cons_ne_nil _ _
  · exact nonempty

theorem IsWhole.isDigit (isWhole : IsWhole whole) : ∀ c ∈ whole, c.isDigit = true := by
  rcases isWhole with rfl | ⟨-, -, decimal⟩
  · exact List.forall_mem_singleton.2 rfl
  · exact decimal

theorem IsMagnitude.exists_cons (magnitude : IsMagnitude s) :
    ∃ first others, s = first :: others ∧ first.isDigit = true := by
  cases magnitude with
  | parts isWhole _ _ _ =>
    obtain ⟨first, others, split⟩ := List.exists_cons_of_ne_nil isWhole.ne_nil
    exact ⟨first, _, by rw [split, List.cons_append], isWhole.isDigit first (by simp [split])⟩

theorem readMagnitude_whole (isWhole : IsWhole whole) (ends : Ends rest)
    (short : whole.length ≤ Numeral.longestNumeral) (negative : Bool) :
    readMagnitude negative (whole ++ rest) =
      .ok (.int (if negative then -Numeral.valueOfChars whole else Numeral.valueOfChars whole), rest) := by
  have none := splitFraction_append (.inl rfl) (stops_of_isMark (.inl rfl) ends)
  have noMark := splitExponent_of_ends ends
  have nonempty : whole.isEmpty = false := by simpa using isWhole.ne_nil
  simp only [List.nil_append, List.tail_nil] at none
  simp only [readMagnitude, splitWhole_append isWhole (not_isDigit_of_ends ends), none, noMark,
    nonempty, List.isEmpty_nil, Option.isNone_none, Bool.and_self, Bool.false_eq_true, if_false,
    if_true, if_neg (Nat.not_lt.2 short)]

theorem readMagnitude_append (magnitude : IsMagnitude s) (negative : Bool) :
    ∃ d, ∀ rest, Ends rest → readMagnitude negative (s ++ rest) = .ok (d, rest) := by
  cases magnitude with
  | @parts whole fraction mark isWhole isFraction isMark short =>
    obtain ⟨exponent, isNone, split⟩ := splitExponent_append isMark
    have nonempty : whole.isEmpty = false := by simpa using isWhole.ne_nil
    by_cases integer : (fraction.tail.isEmpty && exponent.isNone) = true
    · rw [Bool.and_eq_true, isNone] at integer
      have bare : fraction = [] := by
        rcases isFraction with rfl | ⟨digits, rfl, some, -⟩
        · rfl
        · simp [some] at integer
      have fits := short bare integer.2
      rw [bare, integer.2]
      exact ⟨_, fun rest ends => by simpa using readMagnitude_whole isWhole ends fits negative⟩
    · refine ⟨.number (.ofDecimal negative (Numeral.valueOfChars (whole ++ fraction.tail))
        (exponent.getD 0 - fraction.tail.length)), fun rest ends => ?_⟩
      have stops := stops_of_isMark isMark ends
      simp only [readMagnitude, List.append_assoc,
        splitWhole_append isWhole (stops_of_isFraction isFraction stops),
        splitFraction_append isFraction stops, split rest ends, nonempty, Bool.false_eq_true,
        if_false]
      rw [if_neg integer]

theorem ne_of_isDigit {c letter : Char} (digit : c.isDigit = true) (no : letter.isDigit = false) :
    c ≠ letter := by
  rintro rfl
  cases digit.symm.trans no

theorem readSimple_of_isDigit {c : Char} (digit : c.isDigit = true) (s : List Char) :
    readSimple (c :: s) = readMagnitude false (c :: s) := by
  unfold readSimple
  split
  case h_8 => rfl
  all_goals
    next same => exact absurd (List.cons.inj same).1 (ne_of_isDigit digit rfl)

theorem readSimple_minus {c : Char} (digit : c.isDigit = true) (s : List Char) :
    readSimple ('-' :: c :: s) = readMagnitude true (c :: s) := by
  have noInfinity : c ≠ 'I' := ne_of_isDigit digit rfl
  simp [readSimple, noInfinity]

end Reading

section Writing

variable {rest digits : List Char} {n : Int} {d : Decimal} {point : Int}

theorem isWhole_decimalDigits (n : Nat) : IsWhole (decimalDigits n) := by
  by_cases zero : n = 0
  · rw [zero]
    exact .inl (by decide)
  · exact .inr ⟨decimalDigits_ne_nil n, head?_decimalDigits_ne_zero zero,
      fun _ => isDigit_of_mem_decimalDigits⟩

theorem valueOfChars_decimalDigits (n : Nat) : Numeral.valueOfChars (decimalDigits n) = n := by
  have digits := Nat.ofDigitChars_ten_toDigits (n := n)
  rw [Numeral.valueOfChars, Numeral.valueOf, List.foldl_map]
  exact digits

theorem length_decimalDigits_le (short : (Numeral.write? n).isSome = true) :
    (decimalDigits n.natAbs).length ≤ Numeral.longestNumeral :=
  (Nat.length_toDigits_le_iff (by decide) (by decide)).2 (Numeral.isSome_write?_iff.1 short)

theorem readSimple_writtenInt (short : (Numeral.write? n).isSome = true) (ends : Ends rest) :
    readSimple (writtenInt n ++ rest) = .ok (.int n, rest) := by
  have isWhole := isWhole_decimalDigits n.natAbs
  obtain ⟨first, others, digits⟩ := List.exists_cons_of_ne_nil isWhole.ne_nil
  have digit : first.isDigit = true := isWhole.isDigit first (by simp [digits])
  have read := readMagnitude_whole isWhole ends (length_decimalDigits_le short)
  rw [valueOfChars_decimalDigits, digits] at read
  unfold writtenInt
  split_ifs with negative
  · have value : -(n.natAbs : Int) = n := by omega
    rw [digits, List.cons_append, List.cons_append, readSimple_minus digit, ← List.cons_append, read,
      if_pos rfl, value]
  · have value : (n.natAbs : Int) = n := by omega
    rw [digits, List.cons_append, readSimple_of_isDigit digit, ← List.cons_append, read,
      if_neg Bool.false_ne_true, value]

theorem isMark_exponentMark (leading : Int) : IsMark (Decimal.exponentMark leading) := by
  refine .inr ⟨_, _, rfl, ?_, ?_, ?_⟩
  · split_ifs <;> simp
  · split_ifs
    · exact List.cons_ne_nil _ _
    · exact decimalDigits_ne_nil _
  · split_ifs
    · exact List.forall_mem_cons.2 ⟨rfl, fun _ => isDigit_of_mem_decimalDigits⟩
    · exact fun _ => isDigit_of_mem_decimalDigits

theorem isMagnitude_scientific (nonempty : digits ≠ []) (decimal : ∀ c ∈ digits, c.isDigit = true)
    (leading : Int) : IsMagnitude (Decimal.scientific digits leading) := by
  have isMark := isMark_exponentMark leading
  have isWhole {c : Char} (digit : c.isDigit = true) : IsWhole [c] := by
    by_cases zero : c = '0'
    · exact .inl (by rw [zero])
    · exact .inr ⟨List.cons_ne_nil _ _, by simpa using zero, List.forall_mem_singleton.2 digit⟩
  have marked : Decimal.exponentMark leading ≠ [] := List.cons_ne_nil _ _
  cases digits with
  | nil => exact absurd rfl nonempty
  | cons d rest =>
    obtain ⟨digit, others⟩ := List.forall_mem_cons.1 decimal
    cases rest with
    | nil => exact .parts (isWhole digit) (.inl rfl) isMark fun _ bare => absurd bare marked
    | cons d' rest =>
      exact .parts (isWhole digit) (.inr ⟨_, rfl, List.cons_ne_nil _ _, others⟩) isMark
        fun _ bare => absurd bare marked

theorem isMagnitude_fraction {whole : List Char} (isWhole : IsWhole whole) (nonempty : digits ≠ [])
    (decimal : ∀ c ∈ digits, c.isDigit = true) : IsMagnitude (whole ++ '.' :: digits) := by
  have parts := IsMagnitude.parts isWhole (.inr ⟨digits, rfl, nonempty, decimal⟩) (.inl rfl) nofun
  rwa [List.append_nil] at parts

theorem isMagnitude_positional (nonempty : digits ≠ []) (decimal : ∀ c ∈ digits, c.isDigit = true)
    (proper : digits.head? = some '0' → digits = ['0'] ∧ point ≤ 1) :
    IsMagnitude (Decimal.positional digits point) := by
  have zeros (n : Nat) : ∀ c ∈ List.replicate n '0', c.isDigit = true := fun c member => by
    rw [(List.mem_replicate.1 member).2]
    rfl
  unfold Decimal.positional
  split_ifs with small whole
  · rw [List.cons_append, List.cons_append]
    exact isMagnitude_fraction (.inl rfl) (List.append_ne_nil_of_right_ne_nil _ nonempty)
      (List.forall_mem_append.2 ⟨zeros _, decimal⟩)
  · refine isMagnitude_fraction ?_ (List.cons_ne_nil _ _) (List.forall_mem_singleton.2 rfl)
    by_cases leading : digits.head? = some '0'
    · obtain ⟨rfl, one⟩ := proper leading
      have none : point.toNat - ['0'].length = 0 := by
        rw [List.length_singleton]
        omega
      rw [none]
      exact .inl rfl
    · obtain ⟨first, others, rfl⟩ := List.exists_cons_of_ne_nil nonempty
      exact .inr ⟨List.cons_ne_nil _ _, leading, List.forall_mem_append.2 ⟨decimal, zeros _⟩⟩
  · obtain ⟨first, others, rfl⟩ := List.exists_cons_of_ne_nil nonempty
    obtain ⟨k, split⟩ : ∃ k, point.toNat = k + 1 := ⟨point.toNat - 1, by omega⟩
    rw [split] at whole ⊢
    have leading : (first :: others).head? ≠ some '0' := by
      intro leading
      obtain ⟨same, -⟩ := proper leading
      rw [same, List.length_singleton] at whole
      omega
    refine isMagnitude_fraction (.inr ⟨List.cons_ne_nil _ _, leading, ?_⟩) ?_ ?_
    · exact fun c member => decimal c (List.mem_of_mem_take member)
    · simpa using whole
    · exact fun c member => decimal c (List.mem_of_mem_drop member)

theorem isMagnitude_written (proper : d.IsProper) : IsMagnitude d.written := by
  have nonempty := decimalDigits_ne_nil d.digits
  have decimal : ∀ c ∈ decimalDigits d.digits, c.isDigit = true :=
    fun _ => isDigit_of_mem_decimalDigits
  unfold Decimal.written
  dsimp only
  split_ifs
  · refine isMagnitude_positional nonempty decimal fun leading => ?_
    have none : d.digits = 0 := by
      by_contra positive
      exact head?_decimalDigits_ne_zero positive leading
    have digits : decimalDigits d.digits = ['0'] := by
      rw [none]
      rfl
    refine ⟨digits, ?_⟩
    have small := proper none
    rw [digits, List.length_singleton]
    omega
  · exact isMagnitude_scientific nonempty decimal _

theorem isMagnitude_magnitudeText (mantissa : Nat) (exponent : Int) :
    IsMagnitude (Binary64.magnitudeText mantissa exponent) := by
  unfold Binary64.magnitudeText
  split_ifs with zero
  · exact isMagnitude_fraction (.inl rfl) (List.cons_ne_nil _ _) (List.forall_mem_singleton.2 rfl)
  · exact isMagnitude_written (Decimal.isProper_shortest zero)

theorem exists_readSimple_writtenNumber (x : Binary64) :
    ∃ d, ∀ rest, Ends rest → readSimple (writtenNumber x ++ rest) = .ok (d, rest) := by
  cases x with
  | nan => exact ⟨_, fun _ _ => rfl⟩
  | infinite negative =>
    refine ⟨.number (.infinite negative), fun rest _ => ?_⟩
    cases negative <;> simp [writtenNumber, Binary64.writtenWith, readSimple, readSimple.infinity]
  | finite negative mantissa exponent =>
    have magnitude := isMagnitude_magnitudeText mantissa exponent
    obtain ⟨first, others, text, digit⟩ := magnitude.exists_cons
    obtain ⟨d, read⟩ := readMagnitude_append magnitude negative
    refine ⟨d, fun rest ends => ?_⟩
    have read := read rest ends
    rw [text] at read
    cases negative with
    | false =>
      have written : writtenNumber (.finite false mantissa exponent) = first :: others := by
        simp [writtenNumber, Binary64.writtenWith, text]
      rw [written, List.cons_append, readSimple_of_isDigit digit]
      exact read
    | true =>
      have written : writtenNumber (.finite true mantissa exponent) = '-' :: first :: others := by
        simp [writtenNumber, Binary64.writtenWith, text]
      rw [written, List.cons_append, List.cons_append, readSimple_minus digit]
      exact read

end Writing

end Document

end ApplianceCloud
