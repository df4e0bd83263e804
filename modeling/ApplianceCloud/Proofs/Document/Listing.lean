import ApplianceCloud.Proofs.Document.Readable
import Mathlib.Data.List.Forall2

namespace ApplianceCloud

section Listing

variable {α β : Type}

inductive IsListing (write : α → List Char) : List Char → List α → Prop where
  | last {before after : List Char} (item : α) (blank : ∀ c ∈ before, Document.isSpace c = true)
      (blank' : ∀ c ∈ after, Document.isSpace c = true) :
      IsListing write (before ++ (write item ++ after)) [item]
  | cons {before after s : List Char} {items : List α} (item : α)
      (blank : ∀ c ∈ before, Document.isSpace c = true)
      (blank' : ∀ c ∈ after, Document.isSpace c = true) (rest : IsListing write s items) :
      IsListing write (before ++ (write item ++ (after ++ ',' :: s))) (item :: items)

inductive IsBracketed (write : α → List Char) : List Char → List α → Prop where
  | none {blanks : List Char} (blank : ∀ c ∈ blanks, Document.isSpace c = true) :
      IsBracketed write ('[' :: (blanks ++ [']'])) []
  | some {s : List Char} {items : List α} (listing : IsListing write s items) :
      IsBracketed write ('[' :: (s ++ [']'])) items

variable {write : α → List Char} {write' : β → List Char} {s : List Char} {items : List α}
  {items' : List β}

theorem IsListing.map (listing : IsListing write s items)
    (same : List.Forall₂ (fun item item' => write item = write' item') items items') :
    IsListing write' s items' := by
  induction listing generalizing items' with
  | last item blank blank' =>
    obtain ⟨item', _, here, later, rfl⟩ := List.forall₂_cons_left_iff.1 same
    cases later
    rw [here]
    exact .last item' blank blank'
  | cons item blank blank' _ ih =>
    obtain ⟨item', others, here, later, rfl⟩ := List.forall₂_cons_left_iff.1 same
    rw [here]
    exact .cons item' blank blank' (ih later)

theorem IsBracketed.map (bracketed : IsBracketed write s items)
    (same : List.Forall₂ (fun item item' => write item = write' item') items items') :
    IsBracketed write' s items' := by
  cases bracketed with
  | none blank =>
    cases same
    exact .none blank
  | some listing => exact .some (listing.map same)

theorem IsListing.not_mem {c : Char} (listing : IsListing write s items)
    (outside : ∀ item, c ∉ write item) (noSpace : Document.isSpace c = false) (noComma : c ≠ ',') :
    c ∉ s := by
  have noBlank {blanks : List Char} (blank : ∀ c ∈ blanks, Document.isSpace c = true) :
      c ∉ blanks := fun member => Bool.false_ne_true (noSpace.symm.trans (blank c member))
  induction listing with
  | last item blank blank' => simp [noBlank blank, noBlank blank', outside]
  | cons item blank blank' _ ih => simp [noBlank blank, noBlank blank', outside, noComma, ih]

theorem IsBracketed.not_mem {c : Char} (bracketed : IsBracketed write s items)
    (outside : ∀ item, c ∉ write item) (noSpace : Document.isSpace c = false)
    (other : c ∉ [',', '[', ']']) : c ∉ s := by
  simp only [List.mem_cons, List.not_mem_nil, or_false, not_or] at other
  cases bracketed with
  | none blank =>
    have noBlank : c ∉ _ := fun member => Bool.false_ne_true (noSpace.symm.trans (blank c member))
    simp [other, noBlank]
  | some listing => simp [other, listing.not_mem outside noSpace other.1]

end Listing

namespace Document

def byteDigits (byte : UInt8) : List Char := decimalDigits byte.toNat

def ofByte (byte : UInt8) : Document := .int byte.toNat

section Bytes

variable {byte : UInt8} {bytes : List UInt8} {blanks s rest : List Char} {depth : Nat}

theorem skipSpace_append (blank : ∀ c ∈ blanks, isSpace c = true) (rest : List Char) :
    skipSpace (blanks ++ rest) = skipSpace rest := by
  rw [skipSpace, List.dropWhile_append_of_pos blank, skipSpace]

theorem ends_append (blank : ∀ c ∈ blanks, isSpace c = true) (ends : Ends rest) :
    Ends (blanks ++ rest) := by
  cases blanks with
  | nil => exact ends
  | cons c blanks =>
    have space := blank c List.mem_cons_self
    simp only [isSpace, Bool.or_eq_true, decide_eq_true_eq] at space
    refine ends_cons ?_ _
    rcases space with ((rfl | rfl) | rfl) | rfl <;> decide

theorem write?_ofByte (byte : UInt8) :
    Numeral.write? (byte.toNat : Int) = some (String.ofList (byteDigits byte)) := by
  have small : ((byte.toNat : Int)).natAbs < 10 ^ Numeral.longestNumeral := by
    refine Nat.lt_of_lt_of_le byte.toNat_lt (Nat.le_trans (show 2 ^ 8 ≤ 10 ^ 3 by decide) ?_)
    exact Nat.pow_le_pow_right (by decide) (by decide)
  rw [Numeral.write?_of_lt small]
  rfl

theorem opens_byteDigits (byte : UInt8) (rest : List Char) : Opens (byteDigits byte ++ rest) := by
  obtain ⟨c, digits, text⟩ := List.exists_cons_of_ne_nil (decimalDigits_ne_nil byte.toNat)
  have digit : c.isDigit = true := isDigit_of_mem_decimalDigits (text ▸ List.mem_cons_self)
  exact ⟨c, digits ++ rest, by rw [byteDigits, text, List.cons_append], .inl (.inl digit)⟩

theorem readValue_byteDigits (byte : UInt8) (ends : Ends rest) (depth : Nat) :
    readValue (depth + 1) (byteDigits byte ++ rest) = .ok (ofByte byte, rest) := by
  have text : writtenInt byte.toNat = byteDigits byte := if_neg (by omega)
  obtain ⟨c, digits, split, starts⟩ := exists_cons_writtenInt byte.toNat
  have read : readSimple (writtenInt byte.toNat ++ rest) = .ok (.int byte.toNat, rest) :=
    readSimple_writtenInt (by rw [write?_ofByte, Option.isSome_some]) ends
  rw [split, List.cons_append] at read
  rw [← text, split, List.cons_append, readValue_simple starts, read, ofByte]

theorem opens_listing (listing : IsListing byteDigits s bytes) (rest : List Char) :
    Opens (skipSpace (s ++ rest)) := by
  cases listing with
  | last byte blank blank' =>
    rw [List.append_assoc, List.append_assoc, skipSpace_append blank,
      skipSpace_of_opens (opens_byteDigits byte _)]
    exact opens_byteDigits byte _
  | cons byte blank blank' _ =>
    rw [List.append_assoc, List.append_assoc, skipSpace_append blank,
      skipSpace_of_opens (opens_byteDigits byte _)]
    exact opens_byteDigits byte _

theorem readItems_listing (listing : IsListing byteDigits s bytes) (rest : List Char)
    (deep : bytes.length < depth) :
    readItems depth (skipSpace (s ++ ']' :: rest)) = .ok (bytes.map ofByte, rest) := by
  induction listing generalizing depth with
  | @last before after byte blank blank' =>
    obtain ⟨depth, rfl⟩ := Nat.exists_eq_add_of_le' (show 2 ≤ depth from deep)
    have ends : Ends (after ++ ']' :: rest) := ends_append blank' (ends_cons (by decide) rest)
    have bracket : skipSpace (']' :: rest) = ']' :: rest := rfl
    rw [List.append_assoc, List.append_assoc, skipSpace_append blank,
      skipSpace_of_opens (opens_byteDigits byte _)]
    simp [readItems, readValue_byteDigits byte ends depth, skipSpace_append blank', bracket]
  | @cons before after s bytes byte blank blank' listing ih =>
    obtain ⟨depth, rfl⟩ := Nat.exists_eq_add_of_le' (show 2 ≤ depth by
      rw [List.length_cons] at deep
      omega)
    have ends : Ends (after ++ ',' :: (s ++ ']' :: rest)) :=
      ends_append blank' (ends_cons (by decide) _)
    have comma : skipSpace (',' :: (s ++ ']' :: rest)) = ',' :: (s ++ ']' :: rest) := rfl
    have others := ih (Nat.lt_of_succ_lt_succ deep)
    simp only [List.append_assoc, List.cons_append]
    rw [skipSpace_append blank, skipSpace_of_opens (opens_byteDigits byte _), readItems]
    simp [readValue_byteDigits byte ends depth, skipSpace_append blank', comma, others]

theorem length_le_of_listing (listing : IsListing byteDigits s bytes) : bytes.length ≤ s.length := by
  have some (byte : UInt8) : 0 < (byteDigits byte).length :=
    List.length_pos_iff.2 (decimalDigits_ne_nil byte.toNat)
  induction listing with
  | last byte =>
    have := some byte
    simp only [List.length_append, List.length_singleton]
    omega
  | cons byte _ _ _ ih =>
    simp only [List.length_append, List.length_cons]
    omega

theorem read_bracketed (bracketed : IsBracketed byteDigits s bytes) :
    read (String.ofList s) = .ok (.list (bytes.map ofByte)) := by
  have read {s : List Char} {items : List Document}
      (value : readValue (2 * ('[' :: s).length + 1) ('[' :: s) = .ok (.list items, [])) :
      read (String.ofList ('[' :: s)) = .ok (.list items) := by
    have start : skipSpace ('[' :: s) = '[' :: s := rfl
    rw [Document.read, String.toList_ofList, if_neg (by simp), readChars, start, value]
    rfl
  cases bracketed with
  | @none blanks blank =>
    refine read ?_
    have bracket : skipSpace (blanks ++ [']']) = [']'] := skipSpace_append blank [']']
    rw [readValue, bracket]
    rfl
  | @some s bytes listing =>
    refine read (readValue_list (opens_listing listing [']']) (readItems_listing listing [] ?_))
    have := length_le_of_listing listing
    simp only [List.length_cons, List.length_append]
    omega

end Bytes

end Document

end ApplianceCloud
