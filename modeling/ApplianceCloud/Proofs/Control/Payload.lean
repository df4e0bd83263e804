import ApplianceCloud.Control.Payload
import ApplianceCloud.Proofs.Base64
import ApplianceCloud.Proofs.Control.Substitution
import ApplianceCloud.Proofs.Document.Listing

namespace ApplianceCloud.Command

open Document

inductive Element where
  | literal (byte : UInt8)
  | place (name : String) (isName : IsName name)

namespace Element

def textWith (texts : String → String) : Element → List Char
  | literal byte => byteDigits byte
  | place name _ => (texts name).toList

def text : Element → List Char := textWith fun name => String.ofList (placeOf name)

/-- The byte that an element has in a map of values: zero for a place without a value. -/
inductive Has (values : Fields Document) : Element → UInt8 → Prop where
  | literal (byte : UInt8) : Has values (.literal byte) byte
  | missing {name : String} {isName : IsName name} (unknown : values.lookup name = none) :
      Has values (.place name isName) 0
  | empty {name : String} {isName : IsName name} (known : values.lookup name = some (.text "")) :
      Has values (.place name isName) 0
  | integer {name : String} {isName : IsName name} (byte : UInt8)
      (known : values.lookup name = some (ofByte byte)) : Has values (.place name isName) byte
  | numeral {name : String} {isName : IsName name} (byte : UInt8)
      (known : values.lookup name = some (.text (String.ofList (byteDigits byte)))) :
      Has values (.place name isName) byte

end Element

inductive IsByte : Document → UInt8 → Prop where
  | truth : IsByte (.bool true) 1
  | falsehood : IsByte (.bool false) 0
  | int (byte : UInt8) : IsByte (ofByte byte) byte

structure Holds (payload : Fields Document) (bytes : List UInt8) : Prop where
  format : payload.lookup "format" = some (.text "B64")
  data : ∃ text, payload.lookup "data" = some (.text text) ∧ Base64.decode? text = some bytes

section Templates

variable {texts : String → String} {s rest : List Char} {elements : List Element}
  {values : Fields Document} {name : String}

theorem not_mem_of_blank {blanks : List Char} (blank : ∀ c ∈ blanks, isSpace c = true) :
    '{' ∉ blanks :=
  fun member => Bool.false_ne_true (blank _ member)

theorem not_mem_byteDigits (byte : UInt8) : '{' ∉ byteDigits byte :=
  fun member => Bool.false_ne_true (isDigit_of_mem_decimalDigits member)

theorem substituted_text (element : Element) (rest : List Char) :
    substituted texts (element.text ++ rest) = element.textWith texts ++ substituted texts rest := by
  cases element with
  | literal byte => exact substituted_append_of_no_open (not_mem_byteDigits byte) rest
  | place name isName =>
    rw [Element.text, Element.textWith, String.toList_ofList, substituted_placeOf isName]
    rfl

theorem substituted_listing (listing : IsListing Element.text s elements)
    (texts : String → String) : ∃ s', IsListing (Element.textWith texts) s' elements ∧
      ∀ rest, substituted texts (s ++ rest) = s' ++ substituted texts rest := by
  induction listing with
  | @last before after element blank blank' =>
    refine ⟨_, .last element blank blank', fun rest => ?_⟩
    simp only [List.append_assoc]
    rw [substituted_append_of_no_open (not_mem_of_blank blank), substituted_text,
      substituted_append_of_no_open (not_mem_of_blank blank')]
  | @cons before after s elements element blank blank' _ ih =>
    obtain ⟨s', listing, same⟩ := ih
    refine ⟨_, .cons element blank blank' listing, fun rest => ?_⟩
    simp only [List.append_assoc, List.cons_append]
    rw [substituted_append_of_no_open (not_mem_of_blank blank), substituted_text,
      substituted_append_of_no_open (not_mem_of_blank blank'),
      substituted_cons_of_ne_open (by decide), same]

theorem substituted_bracketed (bracketed : IsBracketed Element.text s elements)
    (texts : String → String) : IsBracketed (Element.textWith texts) (substituted texts s) elements := by
  have bracket : substituted texts [']'] = [']'] := by
    rw [substituted_cons_of_ne_open (by decide), substituted_nil]
  cases bracketed with
  | none blank =>
    rw [substituted_cons_of_ne_open (by decide),
      substituted_append_of_no_open (not_mem_of_blank blank), bracket]
    exact .none blank
  | some listing =>
    obtain ⟨s', listing, same⟩ := substituted_listing listing texts
    rw [substituted_cons_of_ne_open (by decide), same, bracket]
    exact .some listing

theorem mem_places_listing (listing : IsListing Element.text s elements)
    (member : name ∈ places (s ++ rest)) :
    (∃ isName, Element.place name isName ∈ elements) ∨ name ∈ places rest := by
  have text {element : Element} {rest : List Char} (member : name ∈ places (element.text ++ rest)) :
      (∃ isName, Element.place name isName = element) ∨ name ∈ places rest := by
    cases element with
    | literal byte =>
      rw [Element.text, Element.textWith, places_append_of_no_open (not_mem_byteDigits byte)] at member
      exact .inr member
    | place other isName =>
      rw [Element.text, Element.textWith, String.toList_ofList, places_placeOf isName,
        List.mem_cons] at member
      exact member.imp (fun same => by cases same; exact ⟨isName, rfl⟩) id
  induction listing with
  | last element blank blank' =>
    simp only [List.append_assoc] at member
    rw [places_append_of_no_open (not_mem_of_blank blank)] at member
    refine (text member).imp (fun ⟨isName, same⟩ => ⟨isName, same ▸ List.mem_cons_self⟩) fun later => ?_
    rwa [places_append_of_no_open (not_mem_of_blank blank')] at later
  | cons element blank blank' _ ih =>
    simp only [List.append_assoc, List.cons_append] at member
    rw [places_append_of_no_open (not_mem_of_blank blank)] at member
    rcases text member with ⟨isName, same⟩ | later
    · exact .inl ⟨isName, same ▸ List.mem_cons_self⟩
    · rw [places_append_of_no_open (not_mem_of_blank blank'),
        places_cons_of_ne_open (by decide)] at later
      exact (ih later).imp (fun ⟨isName, member⟩ => ⟨isName, List.mem_cons_of_mem _ member⟩) id

theorem mem_places_bracketed (bracketed : IsBracketed Element.text s elements)
    (member : name ∈ places s) : ∃ isName, Element.place name isName ∈ elements := by
  have bracket : places [']'] = [] := places_cons_of_ne_open (by decide)
  cases bracketed with
  | none blank =>
    rw [places_cons_of_ne_open (by decide),
      places_append_of_no_open (not_mem_of_blank blank), bracket] at member
    cases member
  | some listing =>
    rw [places_cons_of_ne_open (by decide)] at member
    refine (mem_places_listing listing member).resolve_right ?_
    rw [bracket]
    exact List.not_mem_nil

def givenText (values : Fields Document) (name : String) : String :=
  ((textOfValue (valueOf values (name, .text ""))).toOption).getD ""

theorem Gives.givenText_eq {text : String} (gives : Gives values name text) :
    givenText values name = text := by
  rw [givenText, textOfValue_valueOf_eq_ok_iff.2 gives]
  rfl

theorem Element.Has.gives {isName : IsName name} {byte : UInt8}
    (has : Element.Has values (.place name isName) byte) :
    Gives values name (String.ofList (byteDigits byte)) := by
  cases has with
  | missing unknown => exact .missing unknown
  | empty known => exact .empty known
  | integer _ known =>
    refine .shown known nofun ?_
    rw [ofByte, toText_int, write?_ofByte]
    rfl
  | numeral _ known =>
    refine .shown known ?_ rfl
    simpa [byteDigits] using decimalDigits_ne_nil byte.toNat

theorem Element.Has.textWith_eq {element : Element} {byte : UInt8} (has : element.Has values byte) :
    element.textWith (givenText values) = byteDigits byte := by
  cases element with
  | literal => cases has; rfl
  | place name isName => rw [Element.textWith, has.gives.givenText_eq, String.toList_ofList]

variable {command : Command} {bytes : List UInt8}

theorem exists_of_forall₂_of_mem {α β : Type} {R : α → β → Prop} {items : List α} {items' : List β}
    (related : List.Forall₂ R items items') {item : α} (member : item ∈ items) :
    ∃ item', R item item' := by
  induction related with
  | nil => cases member
  | @cons _ item' _ _ here _ ih =>
    rcases List.mem_cons.1 member with rfl | later
    · exact ⟨item', here⟩
    · exact ih later

theorem filled_bracketed (isData : IsDataFor (places command.template.toList) command.data)
    (bracketed : IsBracketed Element.text command.template.toList elements)
    (has : List.Forall₂ (Element.Has values) elements bytes) :
    ∃ s, IsBracketed byteDigits s bytes ∧ command.filled values = .ok (String.ofList s) := by
  have whole := substituted_bracketed bracketed (givenText values)
  refine ⟨_, whole.map (has.imp fun _ _ => Element.Has.textWith_eq), ?_⟩
  have given : ∀ name ∈ places command.template.toList,
      ∃ byte, Gives values name (String.ofList (byteDigits byte)) := by
    intro name member
    obtain ⟨isName, listed⟩ := mem_places_bracketed bracketed member
    obtain ⟨byte, has⟩ := exists_of_forall₂_of_mem has listed
    exact ⟨byte, has.gives⟩
  have gives : ∀ name ∈ places command.template.toList, Gives values name (givenText values name) := by
    intro name member
    obtain ⟨byte, gives⟩ := given name member
    rwa [gives.givenText_eq]
  have texts_bare : ∀ name ∈ places command.template.toList,
      '{' ∉ (givenText values name).toList := by
    intro name member
    obtain ⟨byte, gives⟩ := given name member
    rw [gives.givenText_eq, String.toList_ofList]
    exact not_mem_byteDigits byte
  have bare : '{' ∉ substituted (fun _ => "") command.template.toList := by
    refine (substituted_bracketed bracketed fun _ => "").not_mem (fun element => ?_) rfl (by decide)
    cases element with
    | literal byte => exact not_mem_byteDigits byte
    | place name isName => exact List.not_mem_nil
  have undisturbed := undisturbed_of_no_open isData.distinct bare texts_bare
  exact filled_of_undisturbed isData gives undisturbed

end Templates

section Payloads

variable {command : Command} {values payload : Fields Document} {bytes : List UInt8}
  {items : List Document} {text : String}

theorem byteOf_eq_ok_iff {item : Document} {byte : UInt8} :
    byteOf text item = .ok byte ↔ IsByte item byte := by
  constructor
  · intro read
    cases item with
    | bool value =>
      cases value with
      | false => cases read; exact .falsehood
      | true => cases read; exact .truth
    | int value =>
      rw [byteOf] at read
      split_ifs at read with small
      cases read
      obtain ⟨n, rfl⟩ := Int.eq_ofNat_of_zero_le small.1
      have isByte := IsByte.int (UInt8.ofNat n)
      rwa [ofByte, UInt8.toNat_ofNat_of_lt' (Int.ofNat_lt.1 small.2)] at isByte
    | _ => cases read
  · rintro (_ | _ | byte)
    · rfl
    · rfl
    · have small : (byte.toNat : Int) < 256 := Int.ofNat_lt.2 byte.toNat_lt
      simp [ofByte, byteOf, small]

theorem bytesOf_eq_ok_iff : bytesOf text = .ok bytes ↔
    ∃ items, Document.read text = .ok (.list items) ∧ List.Forall₂ IsByte items bytes := by
  have each (items : List Document) : items.mapM (byteOf text) = .ok bytes ↔
      List.Forall₂ IsByte items bytes := by
    rw [mapM_eq_ok_iff]
    simp only [byteOf_eq_ok_iff]
  unfold bytesOf
  split
  · next fault failed => simp [failed]
  · next items read => simp [read, each]
  · next other noList read =>
    refine ⟨nofun, fun ⟨items, same, _⟩ => ?_⟩
    rw [read, Except.ok.injEq] at same
    exact absurd same (noList items)

theorem exists_decoding_of_bytesOf {failure : Failure} (failed : bytesOf text = .error failure) :
    ∃ fault, failure = .decoding fault := by
  unfold bytesOf at failed
  split at failed
  · cases failed
    exact ⟨_, rfl⟩
  · obtain ⟨-, item, -, -, -, failed⟩ := mapM_eq_error_iff.1 failed
    unfold byteOf at failed
    split at failed
    · cases failed
    · split_ifs at failed
      cases failed
      exact ⟨_, rfl⟩
    · cases failed
      exact ⟨_, rfl⟩
  · cases failed
    exact ⟨_, rfl⟩

theorem holds_putAll (members : Fields Document) (bytes : List UInt8) : Holds
    (members.putAll [("format", .text "B64"), ("data", .text (Base64.encode bytes))]) bytes := by
  have put : members.putAll [("format", .text "B64"), ("data", .text (Base64.encode bytes))] =
      (members.put "format" (.text "B64")).put "data" (.text (Base64.encode bytes)) := rfl
  rw [put]
  refine ⟨?_, _, ?_, Base64.decode?_encode bytes⟩
  · rw [Fields.lookup_put, if_neg (by decide), Fields.lookup_put, if_pos rfl]
  · rw [Fields.lookup_put, if_pos rfl]

theorem isWritable_of_member? {d value : Document} {key : String} (writable : d.isWritable = true)
    (found : d.member? key = some value) : value.isWritable = true := by
  cases d with
  | object members => exact isWritable_of_lookup writable found
  | _ => cases found

theorem exists_declared_of_write {members : Fields Document}
    (writable : (Document.object members).isWritable = true)
    (written : command.declaration = (Document.object members).write) :
    ∃ kept, command.declared = .ok (.object kept) := by
  obtain ⟨d, read, isObject⟩ := exists_isReadAs _ writable
  cases d with
  | object kept =>
    refine ⟨kept, ?_⟩
    have nonempty : (Document.object members).write ≠ "" := by
      obtain ⟨c, s, text, -⟩ := exists_cons_written (.object members)
      rw [write, text]
      simp
    simp only [Command.declared, written, if_neg nonempty, read.read_write]
  | _ => cases isObject rfl

theorem exists_declared {control : Document} {name : String}
    (declared : (name, command) ∈ ofFirstControl control) (writable : control.isWritable = true) :
    ∃ members, command.declared = .ok (.object members) := by
  obtain ⟨actions, members, found, listed, rfl⟩ := exists_of_mem_ofFirstControl declared
  have writableActions := isWritable_of_member? writable found
  have writableMembers := areMembersWritable_iff.1 writableActions _ listed
  refine exists_declared_of_write (areMembersWritable_iff.2 fun member kept => ?_) rfl
  exact areMembersWritable_iff.1 writableMembers member (List.mem_filter.1 kept).1

theorem binary_of_mem_ofFirstControl {control : Document} {name : String}
    (binary : ReportFormat.ofDocument ((control.member? "type").getD .null) = .binary)
    (declared : (name, command) ∈ ofFirstControl control) (nonempty : command.template ≠ "") :
    command.binary = true := by
  obtain ⟨-, members, -, -, rfl⟩ := exists_of_mem_ofFirstControl declared
  have both (first : Bool) : (ofAction first members).binary =
      (first && decide ((ofAction first members).template ≠ "")) := rfl
  rw [decide_eq_true binary] at nonempty ⊢
  rw [both, decide_eq_true nonempty, Bool.and_self]

theorem forall₂_isByte (bytes : List UInt8) : List.Forall₂ IsByte (bytes.map ofByte) bytes :=
  List.forall₂_map_left_iff.2 (List.forall₂_same.2 fun byte _ => .int byte)

theorem payload_of_bytesOf {members : Fields Document} (binary : command.binary = true)
    (declared : command.declared = .ok (.object members)) (filled : command.filled values = .ok text)
    (carried : bytesOf text = .ok bytes) :
    ∃ payload, command.payload values = .ok payload ∧ Holds payload bytes := by
  refine ⟨_, ?_, holds_putAll members bytes⟩
  simp only [payload, dataMembers, declared, filled, binary, carried, ok_bind, pure_bind, if_true,
    object?, pure_eq_ok_iff]

theorem exists_of_payload (binary : command.binary = true)
    (made : command.payload values = .ok payload) :
    ∃ text bytes, command.filled values = .ok text ∧ bytesOf text = .ok bytes ∧
      Holds payload bytes := by
  obtain ⟨declaration, -, made⟩ := bind_eq_ok_iff.1 made
  obtain ⟨text, filled, made⟩ := bind_eq_ok_iff.1 made
  obtain ⟨data, dataMade, made⟩ := bind_eq_ok_iff.1 made
  rw [dataMembers, if_pos binary] at dataMade
  obtain ⟨bytes, carried, same⟩ := bind_eq_ok_iff.1 dataMade
  cases same
  split at made
  · cases made
    exact ⟨text, bytes, filled, carried, holds_putAll _ bytes⟩
  · cases made

theorem payload_of_not_bytes {declaration : Document} (binary : command.binary = true)
    (declared : command.declared = .ok declaration) (filled : command.filled values = .ok text)
    (noBytes : ∀ bytes, bytesOf text ≠ .ok bytes) :
    ∃ fault, command.payload values = .error (.decoding fault) := by
  cases failed : bytesOf text with
  | ok bytes => exact absurd failed (noBytes bytes)
  | error failure =>
    obtain ⟨fault, rfl⟩ := exists_decoding_of_bytesOf failed
    refine ⟨fault, ?_⟩
    simp only [payload, dataMembers, declared, filled, binary, failed, ok_bind, error_bind, if_true]

end Payloads

/-- A command of a binary control whose template lists bytes and places for bytes carries the bytes of
its elements in order. Whatever a binary command carries is the list of bytes that its filled template
is read as; a filled template that is no such list is refused. -/
theorem payload_carries :
    (∀ {control : Document} {name : String} {command : Command},
      ReportFormat.ofDocument ((control.member? "type").getD .null) = .binary →
      (name, command) ∈ ofFirstControl control → control.isWritable = true →
      ∀ elements, IsBracketed Element.text command.template.toList elements →
      ∀ values bytes, List.Forall₂ (Element.Has values) elements bytes →
        ∃ payload, command.payload values = .ok payload ∧ Holds payload bytes) ∧
    ∀ (command : Command) (values : Fields Document), command.binary = true →
      (∀ payload, command.payload values = .ok payload → ∃ text items bytes,
        command.filled values = .ok text ∧ Document.read text = .ok (.list items) ∧
        List.Forall₂ IsByte items bytes ∧ Holds payload bytes) ∧
      ∀ declaration text, command.declared = .ok declaration → command.filled values = .ok text →
        (¬ ∃ items bytes, Document.read text = .ok (.list items) ∧
          List.Forall₂ IsByte items bytes) →
        ∃ fault, command.payload values = .error (.decoding fault) := by
  constructor
  · intro control name command isBinary listed writable elements bracketed values bytes has
    obtain ⟨members, declared⟩ := exists_declared listed writable
    obtain ⟨s, whole, filled⟩ :=
      filled_bracketed (isDataFor_of_mem_ofFirstControl listed) bracketed has
    have nonempty : command.template ≠ "" := by
      intro empty
      rw [empty] at bracketed
      cases bracketed
    have carried : bytesOf (String.ofList s) = .ok bytes :=
      bytesOf_eq_ok_iff.2 ⟨_, read_bracketed whole, forall₂_isByte bytes⟩
    exact payload_of_bytesOf (binary_of_mem_ofFirstControl isBinary listed nonempty) declared filled
      carried
  · intro command values binary
    refine ⟨fun payload made => ?_, fun declaration text declared filled noBytes => ?_⟩
    · obtain ⟨text, bytes, filled, carried, holds⟩ := exists_of_payload binary made
      obtain ⟨items, read, isByte⟩ := bytesOf_eq_ok_iff.1 carried
      exact ⟨text, items, bytes, filled, read, isByte, holds⟩
    · refine payload_of_not_bytes binary declared filled fun bytes carried => noBytes ?_
      obtain ⟨items, read, isByte⟩ := bytesOf_eq_ok_iff.1 carried
      exact ⟨items, bytes, read, isByte⟩

def listedAction : Fields Document :=
  [("cmd", .text "Control"), ("data", .text
    "[\x7b\x7ba\x7d\x7d, \x7b\x7bab\x7d\x7d,7,\x7b\x7ba\x7d\x7d ,\x7b\x7bc\x7d\x7d]")]

def listedControl : Document :=
  .object [("type", .text "BINARY(BYTE)"), ("action", .object [("Start", .object listedAction)])]

def listedElements : List Element :=
  [.place "a" (by decide +kernel), .place "ab" (by decide +kernel), .literal 7,
    .place "a" (by decide +kernel), .place "c" (by decide +kernel)]

theorem payload_carries_listed :
    ("Start", ofAction true listedAction) ∈ ofFirstControl listedControl ∧
    (∃ payload, (ofAction true listedAction).payload [("a", .int 5), ("ab", .text "255")] =
      .ok payload ∧ Holds payload [5, 255, 7, 5, 0]) ∧
    ∃ fault, (ofAction true listedAction).payload [("a", .int 256)] = .error (.decoding fault) := by
  have binary : ReportFormat.ofDocument ((listedControl.member? "type").getD .null) = .binary := by
    decide +kernel
  have declared : ofFirstControl listedControl = [("Start", ofAction true listedAction)] := by
    rw [ofFirstControl, decide_eq_true binary]
    rfl
  have member : ("Start", ofAction true listedAction) ∈ ofFirstControl listedControl := by
    rw [declared]
    exact List.mem_singleton_self _
  have none : ∀ c ∈ [], isSpace c = true := List.forall_mem_nil _
  have one : ∀ c ∈ [' '], isSpace c = true := List.forall_mem_singleton.2 rfl
  have bracketed : IsBracketed Element.text (ofAction true listedAction).template.toList
      listedElements := by
    have built : IsBracketed Element.text _ listedElements := .some (.cons _ none none
      (.cons _ one none (.cons _ none none (.cons _ none one (.last _ none none)))))
    convert built using 1
    decide +kernel
  have ab : String.ofList (byteDigits 255) = "255" := by decide +kernel
  have has : List.Forall₂ (Element.Has [("a", .int 5), ("ab", .text "255")]) listedElements
      [5, 255, 7, 5, 0] :=
    .cons (.integer 5 rfl) (.cons (.numeral 255 (by rw [ab]; rfl)) (.cons (.literal 7)
      (.cons (.integer 5 rfl) (.cons (.missing rfl) .nil))))
  obtain ⟨members, read⟩ := exists_declared member rfl
  have filled : (ofAction true listedAction).filled [("a", .int 256)] = .ok "[256, 0,7,256 ,0]" := by
    decide +kernel
  have noBytes : bytesOf "[256, 0,7,256 ,0]" =
      .error (.decoding (.commandItemOutOfRange "[256, 0,7,256 ,0]")) := by
    decide +kernel
  refine ⟨member, payload_carries.1 binary member rfl listedElements bracketed _ _ has,
    (payload_carries.2 _ _ rfl).2 _ _ read filled ?_⟩
  rintro ⟨items, bytes, same, isByte⟩
  cases noBytes.symm.trans (bytesOf_eq_ok_iff.2 ⟨items, same, isByte⟩)

end ApplianceCloud.Command
