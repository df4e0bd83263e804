import ApplianceCloud.Proofs.Control.Payload

namespace ApplianceCloud

inductive Refusal where
  | undeclared
  | noBytes
  | unconverted
  | misdeclared
  deriving DecidableEq

def Refusal.IsOf : Refusal → Failure → Prop
  | undeclared, failure => ∃ fault, failure = .call fault ∧ fault.kind = .resultCode ∧
      fault.category? = some .unsupportedControl
  | noBytes, failure => ∃ fault, failure = .decoding fault
  | unconverted, failure => ∃ fault, failure = .conversion fault
  | misdeclared, failure => (∃ fault, failure = .reading fault) ∨ ∃ fault, failure = .shape fault

namespace Command

def ListsBytes (text : String) : Prop :=
  ∃ items bytes, Document.read text = .ok (.list items) ∧ List.Forall₂ IsByte items bytes

/-- Why no payload can be made of a command with some values. -/
inductive Refuses (command : Command) (values : Fields Document) : Refusal → Prop where
  | misread {failure : Failure} (unread : command.declared = .error failure) :
      Refuses command values .misdeclared
  | unwritable {declaration : Document} {entry : String × Document}
      (read : command.declared = .ok declaration) (place : entry ∈ command.data)
      (unwritable : (valueOf values entry).isWritable = false) : Refuses command values .unconverted
  | noBytes {declaration : Document} {text : String} (read : command.declared = .ok declaration)
      (binary : command.binary = true) (filled : command.filled values = .ok text)
      (noBytes : ¬ ListsBytes text) : Refuses command values .noBytes
  | misshapen {declaration : Document} {text : String} (read : command.declared = .ok declaration)
      (filled : command.filled values = .ok text) (bytes : command.binary = true → ListsBytes text)
      (noObject : declaration.isObject = false) : Refuses command values .misdeclared

variable {command : Command} {values data : Fields Document} {value : Document} {text : String}

theorem listsBytes_iff : ListsBytes text ↔ ∃ bytes, bytesOf text = .ok bytes := by
  simp only [ListsBytes, bytesOf_eq_ok_iff]
  exact exists_comm

theorem exists_textOfValue (writable : value.isWritable = true) :
    ∃ text, textOfValue value = .ok text := by
  unfold textOfValue
  split
  · exact ⟨_, rfl⟩
  · rw [Document.toText, if_pos writable]
    exact ⟨_, rfl⟩

theorem textOfValue_of_not_isWritable (unwritable : value.isWritable = false) :
    textOfValue value = .error (.conversion .integerTooLong) := by
  unfold textOfValue
  split
  · cases unwritable
  · rw [Document.toText, if_neg (by simp [unwritable])]
    rfl

theorem exists_fill (writable : ∀ entry ∈ data, (valueOf values entry).isWritable = true)
    (template : List Char) : ∃ s, fill values data template = .ok s := by
  induction data generalizing template with
  | nil => exact ⟨template, rfl⟩
  | cons entry rest ih =>
    obtain ⟨here, later⟩ := List.forall_mem_cons.1 writable
    obtain ⟨text, written⟩ := exists_textOfValue here
    rw [fill, written]
    exact ih later _

theorem fill_of_not_isWritable {entry : String × Document} (place : entry ∈ data)
    (unwritable : (valueOf values entry).isWritable = false) (template : List Char) :
    fill values data template = .error (.conversion .integerTooLong) := by
  induction data generalizing template with
  | nil => cases place
  | cons first rest ih =>
    cases writable : (valueOf values first).isWritable with
    | false =>
      rw [fill, textOfValue_of_not_isWritable writable]
      rfl
    | true =>
      obtain ⟨text, written⟩ := exists_textOfValue writable
      have later : entry ∈ rest := by
        rcases List.mem_cons.1 place with rfl | later
        · rw [writable] at unwritable
          cases unwritable
        · exact later
      rw [fill, written]
      exact ih later _

theorem exists_reading_of_declared {failure : Failure} (unread : command.declared = .error failure) :
    ∃ fault, failure = .reading fault := by
  unfold declared at unread
  split_ifs at unread
  split at unread
  · cases unread
  · cases unread
    exact ⟨_, rfl⟩

theorem exists_dataMembers (bytes : command.binary = true → ListsBytes text) :
    ∃ members, command.dataMembers text = .ok members := by
  unfold dataMembers
  split_ifs with binary
  · obtain ⟨bytes, carried⟩ := listsBytes_iff.1 (bytes binary)
    rw [carried]
    exact ⟨_, rfl⟩
  · exact ⟨_, rfl⟩

theorem payload_of_refuses {refusal : Refusal} (refuses : command.Refuses values refusal) :
    ∃ failure, command.payload values = .error failure ∧ refusal.IsOf failure := by
  cases refuses with
  | misread unread =>
    obtain ⟨fault, rfl⟩ := exists_reading_of_declared unread
    refine ⟨_, ?_, .inl ⟨fault, rfl⟩⟩
    rw [payload, unread, error_bind]
  | unwritable read place unwritable =>
    refine ⟨.conversion .integerTooLong, ?_, _, rfl⟩
    rw [payload, read, ok_bind, filled, fill_of_not_isWritable place unwritable]
    rfl
  | noBytes read binary filled noBytes =>
    obtain ⟨fault, refused⟩ := payload_of_not_bytes binary read filled fun bytes carried =>
      noBytes (listsBytes_iff.2 ⟨bytes, carried⟩)
    exact ⟨_, refused, fault, rfl⟩
  | @misshapen declaration text read filled bytes noObject =>
    obtain ⟨members, made⟩ := exists_dataMembers bytes
    refine ⟨.shape (.notIndexable declaration.kind), ?_, .inr ⟨_, rfl⟩⟩
    rw [payload, read, ok_bind, filled, ok_bind, made, ok_bind]
    cases declaration with
    | object members => cases noObject
    | _ => rfl

theorem exists_payload (accepted : ∀ refusal, ¬ command.Refuses values refusal) :
    ∃ payload, command.payload values = .ok payload := by
  cases read : command.declared with
  | error failure => exact absurd (.misread read) (accepted _)
  | ok declaration =>
    have writable : ∀ entry ∈ command.data, (valueOf values entry).isWritable = true := by
      intro entry place
      by_contra unwritable
      exact accepted _ (.unwritable read place (by simpa using unwritable))
    obtain ⟨s, made⟩ := exists_fill writable command.template.toList
    have filled : command.filled values = .ok (String.ofList s) := by
      rw [filled, made]
      rfl
    have bytes : command.binary = true → ListsBytes (String.ofList s) := by
      intro binary
      by_contra noBytes
      exact accepted _ (.noBytes read binary filled noBytes)
    obtain ⟨data, added⟩ := exists_dataMembers bytes
    cases declaration with
    | object members =>
      refine ⟨Fields.putAll members data, ?_⟩
      rw [payload, read, ok_bind, filled, ok_bind, added]
      rfl
    | _ => exact absurd (.misshapen read filled bytes rfl) (accepted _)

end Command

end ApplianceCloud
