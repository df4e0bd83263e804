import ApplianceCloud.Proofs.Document.Numbers

namespace ApplianceCloud

namespace Text

theorem digit_bounds {c : Char} (digit : c.isDigit = true) : 48 ≤ c.toNat ∧ c.toNat ≤ 57 := by
  simp only [Char.isDigit, Bool.and_eq_true, decide_eq_true_eq, ge_iff_le] at digit
  exact digit

theorem digitValue?_of_isDigit {c : Char} (digit : c.isDigit = true) :
    digitValue? c = some (c.toNat - 48) := by
  have bounds := digit_bounds digit
  have split : zeroDigits = 0x30 :: zeroDigits.tail := rfl
  have found : (zeroDigits.find? fun start => start ≤ c.toNat ∧ c.toNat < start + 10) = some 0x30 := by
    rw [split]
    exact List.find?_cons_of_pos (decide_eq_true (by omega))
  rw [digitValue?, found, Option.map_some]

theorem not_isPadding_of_isDigit {c : Char} (digit : c.isDigit = true) : isPadding c = false := by
  have bounds := digit_bounds digit
  simp only [isPadding, isBlank, inRanges, blankRanges, List.any_cons, List.any_nil, Bool.or_false,
    Bool.and_eq_false_iff, Bool.or_eq_false_iff, decide_eq_false_iff_not]
  left
  omega

theorem trimEnds_of_forall {isOuter : Char → Bool} {s : List Char}
    (inner : ∀ c ∈ s, isOuter c = false) : trimEnds isOuter s = s := by
  have drop {s : List Char} (inner : ∀ c ∈ s, isOuter c = false) : s.dropWhile isOuter = s := by
    cases s with
    | nil => rfl
    | cons c rest => simp [inner c List.mem_cons_self]
  rw [trimEnds, drop inner, drop fun c member => inner c (List.mem_reverse.1 member),
    List.reverse_reverse]

end Text

namespace Numeral

variable {digits : List Char} {n : Int} {s : String}

theorem inAscii_of_plain (plain : ∀ c ∈ digits, c.isDigit = true ∨ c = '-') :
    inAscii digits = digits := by
  rw [inAscii, List.map_congr_left (g := id), List.map_id]
  intro c member
  rcases plain c member with digit | rfl
  · have bounds := Text.digit_bounds digit
    have same : '0'.toNat + (c.toNat - 48) = c.toNat := by
      change 48 + _ = _
      omega
    simp only [Text.digitValue?_of_isDigit digit, same, Char.ofNat_toNat, id]
  · decide

theorem ne_separator {c : Char} (digit : c.isDigit = true) : c ≠ '_' := by
  rintro rfl
  exact absurd digit (by decide)

theorem withoutSeparators_of_isDigit (decimal : ∀ c ∈ digits, c.isDigit = true) (afterDigit : Bool) :
    withoutSeparators afterDigit digits = some digits := by
  induction digits generalizing afterDigit with
  | nil => simp [withoutSeparators]
  | cons c rest ih =>
    obtain ⟨digit, later⟩ := List.forall_mem_cons.1 decimal
    simp [withoutSeparators, ne_separator digit, ih later]

theorem isDigit_of_withoutSeparators {afterDigit : Bool} {row : List Char}
    (inRow : ∀ c ∈ row, isInRow c = true) (read : withoutSeparators afterDigit row = some digits) :
    ∀ c ∈ digits, c.isDigit = true := by
  induction afterDigit, row using withoutSeparators.induct generalizing digits with
  | case1 =>
    cases read
    exact fun _ => nofun
  | case2 => cases read
  | case3 afterDigit c rest digit ih =>
    have later : ∀ d ∈ rest, isInRow d = true := fun d member => inRow d (by simp [member])
    rw [withoutSeparators, if_pos digit] at read
    obtain ⟨others, remains, rfl⟩ := Option.map_eq_some_iff.1 read
    exact List.forall_mem_cons.2 ⟨(Bool.and_eq_true_iff.1 digit).2, ih later remains⟩
  | case4 afterDigit c rest noDigit =>
    rw [withoutSeparators, if_neg noDigit] at read
    cases read
  | case5 afterDigit c rest single double ih =>
    have ne : c ≠ '_' := by
      rintro rfl
      cases rest with
      | nil => exact single rfl rfl
      | cons d rest => exact double d rest rfl rfl
    have here : c.isDigit = true := by simpa [isInRow, ne] using inRow c List.mem_cons_self
    have later : ∀ d ∈ rest, isInRow d = true := fun d member => inRow d (by simp [member])
    rw [withoutSeparators.eq_4 afterDigit c rest single double] at read
    obtain ⟨others, remains, rfl⟩ := Option.map_eq_some_iff.1 read
    exact List.forall_mem_cons.2 ⟨here, ih later remains⟩

theorem toList_toString (n : Int) : (toString n).toList = Document.writtenInt n := by
  unfold Document.writtenInt
  cases n with
  | ofNat n =>
    rw [if_neg (by simp)]
    exact String.toList_ofList
  | negSucc n =>
    rw [if_pos (Int.negSucc_lt_zero n)]
    change ("-" ++ toString (n + 1)).toList = _
    rw [String.toList_append]
    exact congrArg _ String.toList_ofList

theorem plain_of_mem_writtenInt {c : Char} (member : c ∈ Document.writtenInt n) :
    c.isDigit = true ∨ c = '-' := by
  unfold Document.writtenInt at member
  split at member
  · rcases List.mem_cons.1 member with rfl | member
    · exact .inr rfl
    · exact .inl (isDigit_of_mem_decimalDigits member)
  · exact .inl (isDigit_of_mem_decimalDigits member)

theorem normalized_toString (n : Int) : normalized (toString n) = Document.writtenInt n := by
  rw [normalized, toList_toString, Text.trimEnds_of_forall, inAscii_of_plain]
  · exact fun _ => plain_of_mem_writtenInt
  · intro c member
    rcases plain_of_mem_writtenInt member with digit | rfl
    · exact Text.not_isPadding_of_isDigit digit
    · decide

theorem splitSign_writtenInt (n : Int) :
    splitSign (Document.writtenInt n) = (decide (n < 0), decimalDigits n.natAbs) := by
  unfold Document.writtenInt
  by_cases negative : n < 0
  · rw [if_pos negative, splitSign, decide_eq_true negative]
  · rw [if_neg negative, decide_eq_false negative]
    obtain ⟨first, others, digits⟩ := List.exists_cons_of_ne_nil (decimalDigits_ne_nil n.natAbs)
    have digit : first.isDigit = true := isDigit_of_mem_decimalDigits (digits ▸ List.mem_cons_self)
    rw [digits]
    unfold splitSign
    split
    · next same =>
      cases same
      cases digit
    · next same =>
      cases same
      cases digit
    · rfl

theorem readInteger_toString (short : (write? n).isSome = true) : readInteger (toString n) = .ok n := by
  have decimal : ∀ c ∈ decimalDigits n.natAbs, c.isDigit = true := fun _ => isDigit_of_mem_decimalDigits
  have inRow : ∀ c ∈ decimalDigits n.natAbs, isInRow c = true := fun c member => by
    simp [isInRow, decimal c member]
  have whole : ((decimalDigits n.natAbs).isEmpty || !(decimalDigits n.natAbs).all isInRow) = false := by
    rw [List.isEmpty_eq_false_iff.2 (decimalDigits_ne_nil _), List.all_eq_true.2 inRow]
    rfl
  rw [readInteger, normalized_toString, splitSign_writtenInt]
  dsimp only
  rw [List.takeWhile_eq_self_iff.2 inRow, withoutSeparators_of_isDigit decimal]
  dsimp only
  rw [if_neg (Nat.not_lt.2 (Document.length_decimalDigits_le short)), whole,
    if_neg Bool.false_ne_true, Document.valueOfChars_decimalDigits]
  by_cases negative : n < 0
  · rw [if_pos (decide_eq_true negative), show -(n.natAbs : Int) = n by omega]
  · rw [if_neg (by rwa [decide_eq_true_eq]), show (n.natAbs : Int) = n by omega]

theorem isSome_write?_of_readInteger (read : readInteger s = .ok n) : (write? n).isSome = true := by
  unfold readInteger at read
  dsimp only at read
  split at read
  · cases read
  · next digits whole =>
    split at read
    · cases read
    · next short =>
      split at read
      · cases read
      · have decimal := isDigit_of_withoutSeparators (List.all_eq_true.1 List.all_takeWhile) whole
        have written := isSome_write?_valueOfChars decimal (Nat.not_lt.1 short)
        cases read
        split
        · exact written.2
        · exact written.1

end Numeral

end ApplianceCloud
