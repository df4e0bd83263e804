import ApplianceCloud.Proofs.Document.Readable

namespace ApplianceCloud.Document

/-- Whether the text of a document loses nothing of it. -/
inductive IsExact : Document → Prop where
  | null : IsExact .null
  | bool (value : Bool) : IsExact (.bool value)
  | int {n : Int} (short : (Numeral.write? n).isSome = true) : IsExact (.int n)
  | text (value : String) : IsExact (.text value)
  | list {items : List Document} (each : ∀ item ∈ items, IsExact item) : IsExact (.list items)
  | object {members : Fields Document} (distinct : members.keys.Nodup)
      (each : ∀ member ∈ members, IsExact member.2) : IsExact (.object members)

variable {d : Document} {members : Fields Document}

theorem IsExact.isReadAs (exact : d.IsExact) : IsReadAs d d := by
  induction exact with
  | null => exact .null
  | bool value => exact .bool value
  | int short => exact .int short
  | text value => exact .text value
  | list _ ih => exact .list (List.forall₂_same.2 ih)
  | object distinct _ ih =>
    have read := IsReadAs.object (List.forall₂_same.2 fun member listed => ⟨rfl, ih member listed⟩)
    rwa [Fields.ofPairs_of_nodup distinct] at read

theorem IsExact.read_write (exact : d.IsExact) : Document.read d.write = .ok d :=
  exact.isReadAs.read_write

theorem IsExact.without (exact : (Document.object members).IsExact) (key : String) :
    (Document.object (members.without key)).IsExact := by
  cases exact with
  | object distinct each =>
    exact .object (Fields.nodup_keys_filter distinct _)
      fun member kept => each member (List.mem_filter.1 kept).1

end ApplianceCloud.Document
