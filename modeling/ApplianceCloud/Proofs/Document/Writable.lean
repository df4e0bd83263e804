import ApplianceCloud.Document.Display
import ApplianceCloud.Document.Reader
import ApplianceCloud.Numeric.Numeral.Lemmas
import ApplianceCloud.Proofs.Outcome

namespace ApplianceCloud

namespace Document

theorem areWritable_iff {items : List Document} :
    areWritable items = true ↔ ∀ item ∈ items, item.isWritable = true := by
  induction items with
  | nil => simp [areWritable]
  | cons item rest ih => simp [areWritable, ih]

theorem areMembersWritable_iff {members : Fields Document} : areMembersWritable members = true ↔
    ∀ member ∈ members, member.2.isWritable = true := by
  induction members with
  | nil => simp [areMembersWritable]
  | cons member rest ih => simp [areMembersWritable, ih]

theorem areMembersWritable_put {members : Fields Document} {key : String} {value : Document}
    (old : areMembersWritable members = true) (new : value.isWritable = true) :
    areMembersWritable (Fields.put members key value) = true := by
  induction members with
  | nil => simp [areMembersWritable, new]
  | cons member rest ih =>
    simp only [areMembersWritable, Bool.and_eq_true] at old
    rw [Fields.put]
    split_ifs <;> simp [areMembersWritable, *]

theorem areMembersWritable_putAll {members extra : Fields Document}
    (old : areMembersWritable members = true) (new : areMembersWritable extra = true) :
    areMembersWritable (Fields.putAll members extra) = true := by
  induction extra generalizing members with
  | nil => exact old
  | cons member rest ih =>
    simp only [areMembersWritable, Bool.and_eq_true] at new
    exact ih (areMembersWritable_put old new.1) new.2

theorem isWritable_of_lookup {members : Fields Document} {key : String} {value : Document}
    (writable : areMembersWritable members = true) (found : members.lookup key = some value) :
    value.isWritable = true := by
  exact areMembersWritable_iff.1 writable (key, value) (Fields.mem_of_lookup found)

theorem isWritable_orNull {members : Fields Document} (writable : areMembersWritable members = true)
    (key : String) : (Fields.orNull members key).isWritable = true := by
  cases found : members.lookup key with
  | none =>
    rw [Fields.orNull_of_none found]
    rfl
  | some value => rw [Fields.orNull_of_lookup found, isWritable_of_lookup writable found]

section Reader

variable {d : Document} {s rest : List Char} {depth : Nat}

theorem splitWhole_digits (s : List Char) : ∀ c ∈ (splitWhole s).1, c.isDigit = true := by
  unfold splitWhole
  split
  · simp
  · exact List.all_eq_true.1 List.all_takeWhile

theorem isWritable_readMagnitude {negative : Bool} (read : readMagnitude negative s = .ok (d, rest)) :
    d.isWritable = true := by
  simp only [readMagnitude] at read
  split at read
  · cases read
  · split at read
    · split at read
      · cases read
      · next short =>
        have written :=
          Numeral.isSome_write?_valueOfChars (splitWhole_digits s) (Nat.not_lt.1 short)
        cases read
        cases negative
        · exact written.1
        · exact written.2
    · cases read
      rfl

theorem isWritable_infinity {negative : Bool}
    (read : readSimple.infinity negative s = .ok (d, rest)) : d.isWritable = true := by
  unfold readSimple.infinity at read
  split at read <;> cases read
  rfl

theorem isWritable_readSimple (read : readSimple s = .ok (d, rest)) : d.isWritable = true := by
  unfold readSimple at read
  split at read
  case h_5 => exact isWritable_infinity read
  case h_6 => exact isWritable_infinity read
  case h_7 => exact isWritable_readMagnitude read
  case h_8 => exact isWritable_readMagnitude read
  all_goals
    cases read
    rfl

theorem isWritable_readParts (depth : Nat) :
    (∀ s d rest, readValue depth s = .ok (d, rest) → d.isWritable = true) ∧
    (∀ s items rest, readItems depth s = .ok (items, rest) → areWritable items = true) ∧
    (∀ s members rest, readMembers depth s = .ok (members, rest) →
      areMembersWritable members = true) := by
  induction depth with
  | zero => simp [readValue, readItems, readMembers]
  | succ depth ih =>
    obtain ⟨value, items, members⟩ := ih
    refine ⟨fun s d rest read => ?_, fun s found rest read => ?_, fun s found rest read => ?_⟩
    · unfold readValue at read
      split at read
      · obtain ⟨⟨text, after⟩, -, same⟩ := bind_eq_ok_iff.1 read
        cases same
        rfl
      · split at read
        · cases read
          rfl
        · obtain ⟨⟨listed, after⟩, inner, same⟩ := bind_eq_ok_iff.1 read
          cases same
          exact items _ _ _ inner
      · split at read
        · cases read
          rfl
        · obtain ⟨⟨pairs, after⟩, inner, same⟩ := bind_eq_ok_iff.1 read
          cases same
          exact areMembersWritable_putAll rfl (members _ _ _ inner)
      · exact isWritable_readSimple read
    · rw [readItems] at read
      obtain ⟨⟨item, after⟩, first, read⟩ := bind_eq_ok_iff.1 read
      have here := value _ _ _ first
      dsimp only at read
      split at read
      · obtain ⟨⟨later, after⟩, others, same⟩ := bind_eq_ok_iff.1 read
        cases same
        simp [areWritable, here, items _ _ _ others]
      · cases read
        simp [areWritable, here]
      · cases read
    · unfold readMembers at read
      dsimp only at read
      split at read
      · obtain ⟨⟨key, afterKey⟩, -, read⟩ := bind_eq_ok_iff.1 read
        dsimp only at read
        split at read
        · obtain ⟨⟨d, after⟩, first, read⟩ := bind_eq_ok_iff.1 read
          have here := value _ _ _ first
          dsimp only at read
          split at read
          · obtain ⟨⟨later, rest⟩, others, same⟩ := bind_eq_ok_iff.1 read
            cases same
            simp [areMembersWritable, here, members _ _ _ others]
          · cases read
            simp [areMembersWritable, here]
          · cases read
        · cases read
      · cases read

theorem isWritable_of_read {s : String} (read : Document.read s = .ok d) : d.isWritable = true := by
  unfold Document.read at read
  split at read
  · cases read
  · obtain ⟨⟨whole, after⟩, inner, same⟩ := bind_eq_ok_iff.1 read
    dsimp only at same
    split at same <;> cases same
    exact (isWritable_readParts _).1 _ _ _ inner

end Reader

end Document

end ApplianceCloud
