import ApplianceCloud.Proofs.Capability.Bijection
import ApplianceCloud.Proofs.Outcome
import ApplianceCloud.Proofs.Status.Telemetry

namespace ApplianceCloud

section Outcomes

variable {α β : Type}

/-- An outcome that fails as a decoding fault only, but for the conversions that break. -/
structure DecodesBut (Breaks : ConversionFault → Prop) (outcome : Except Failure α) : Prop where
  known : ∀ failure, outcome = .error failure →
    (∃ fault, failure = .decoding fault) ∨ ∃ fault, failure = .conversion fault
  breaks_iff : ∀ fault, outcome = .error (.conversion fault) ↔ Breaks fault

namespace DecodesBut

variable {Breaks : ConversionFault → Prop} {first : Except Failure α} {rest : α → Except Failure β}

theorem ok (a : α) : DecodesBut (fun _ => False) (.ok a : Except Failure α) :=
  ⟨nofun, fun _ => ⟨nofun, nofun⟩⟩

theorem decoding (fault : DecodingFault) :
    DecodesBut (fun _ => False) (.error (.decoding fault) : Except Failure α) := by
  refine ⟨?_, fun _ => ⟨nofun, nofun⟩⟩
  rintro _ ⟨⟩
  exact .inl ⟨fault, rfl⟩

theorem conversion (fault : ConversionFault) :
    DecodesBut (· = fault) (.error (.conversion fault) : Except Failure α) := by
  refine ⟨?_, fun other => ?_⟩
  · rintro _ ⟨⟩
    exact .inr ⟨fault, rfl⟩
  · simp [eq_comm]

theorem congr {Same : ConversionFault → Prop} (decodes : DecodesBut Breaks first)
    (same : ∀ fault, Breaks fault ↔ Same fault) : DecodesBut Same first :=
  ⟨decodes.known, fun fault => (decodes.breaks_iff fault).trans (same fault)⟩

theorem bind {Later : α → ConversionFault → Prop} (decodes : DecodesBut Breaks first)
    (later : ∀ a, first = .ok a → DecodesBut (Later a) (rest a)) :
    DecodesBut (fun fault => Breaks fault ∨ ∃ a, first = .ok a ∧ Later a fault)
      (first >>= rest) := by
  cases first with
  | error failure =>
    refine ⟨fun other failed => decodes.known other ?_, fun fault => ?_⟩
    · cases failed
      rfl
    · simp [← decodes.breaks_iff, Bind.bind, Except.bind]
  | ok a =>
    refine ⟨(later a rfl).known, fun fault => ?_⟩
    simp [← decodes.breaks_iff, ← (later a rfl).breaks_iff, Bind.bind, Except.bind]

theorem foldlM {step : β → α → Except Failure β} {GoesOn : α → Prop}
    {Breaks : α → ConversionFault → Prop}
    (goesOn : ∀ state item, (∃ next, step state item = .ok next) ↔ GoesOn item)
    (decodes : ∀ state item, DecodesBut (Breaks item) (step state item))
    (items : List α) (state : β) :
    DecodesBut (fun fault => ∃ before item after, items = before ++ item :: after ∧
      (∀ earlier ∈ before, GoesOn earlier) ∧ Breaks item fault) (items.foldlM step state) := by
  induction items generalizing state with
  | nil => exact (ok state).congr fun fault => by simp
  | cons item items ih =>
    refine ((decodes state item).bind fun next _ => ih next).congr fun fault => ?_
    rw [exists_first_cons_iff, ← goesOn state item]
    simp only [exists_and_right]

end DecodesBut

end Outcomes

namespace Reading

inductive Breaks : ReadingKind → Document → ConversionFault → Prop where
  | number {n : Int} (large : Binary64.leastOverflow ≤ n.natAbs) :
      Breaks .number (.int n) .integerTooLarge
  | text {n : Int} (long : 10 ^ Numeral.longestNumeral ≤ n.natAbs) :
      Breaks .text (.int n) .integerTooLong
  | list (kind : ReadingKind) {items : List Document}
      (long : (Document.list items).isWritable = false) : Breaks kind (.list items) .integerTooLong
  | object (kind : ReadingKind) {members : Fields Document}
      (long : (Document.object members).isWritable = false) :
      Breaks kind (.object members) .integerTooLong

variable {kind : ReadingKind} {value : Document} {fault : ConversionFault}

theorem Breaks.isNull (breaks : Breaks kind value fault) : value.isNull = false := by
  cases breaks <;> rfl

theorem eq_error_int_iff {n : Int} :
    ofDocument kind (.int n) = .error fault ↔ Breaks kind (.int n) fault := by
  constructor
  · intro refused
    cases kind with
    | text =>
      simp only [ofDocument, Document.toText_int, map_eq_error_iff] at refused
      cases written : Numeral.write? n with
      | none =>
        simp only [written] at refused
        cases refused
        refine .text (Nat.not_lt.1 ?_)
        rw [← Numeral.isSome_write?_iff, written]
        exact Bool.false_ne_true
      | some s => simp [written] at refused
    | number =>
      simp only [ofDocument, Document.toNumber, Document.numberOfInt, map_eq_error_iff] at refused
      cases nearest : Binary64.ofInt? n with
      | none =>
        simp only [nearest] at refused
        cases refused
        exact .number (Binary64.ofInt?_eq_none_iff.1 nearest)
      | some x => simp [nearest] at refused
    | _ => cases refused
  · rintro (large | long)
    · have nearest : Binary64.ofInt? n = none := Binary64.ofInt?_eq_none_iff.2 large
      simp [ofDocument, Document.toNumber, Document.numberOfInt, nearest, Except.map]
    · have unwritten : Numeral.write? n = none := by
        rwa [← Option.not_isSome_iff_eq_none, Numeral.isSome_write?_iff, Nat.not_lt]
      simp [ofDocument, Document.toText_int, unwritten, Except.map]

theorem isOverflow_toNumber (other : ∀ n, value ≠ .int n)
    (refused : value.toNumber = .error fault) : fault.isOverflow = false := by
  cases value with
  | int n => exact absurd rfl (other n)
  | bool b => cases b <;> cases refused
  | text s =>
    simp only [Document.toNumber] at refused
    split at refused <;> cases refused
    rfl
  | _ => cases refused <;> rfl

theorem isOverflow_integerOf (other : ∀ n, value ≠ .int n)
    (refused : integerOf value = .error fault) : fault.isOverflow = false := by
  unfold integerOf at refused
  split at refused
  · cases refused
    rfl
  · cases refused
  · cases read : value.toNumber with
    | error cause =>
      rw [read] at refused
      cases refused
      exact isOverflow_toNumber other read
    | ok x =>
      simp only [read, Bind.bind, Except.bind] at refused
      split at refused <;> cases refused
      rfl

theorem isOverflow_truthOf (refused : truthOf value = .error fault) : fault.isOverflow = false := by
  cases value with
  | text s =>
    simp only [truthOf] at refused
    cases word : truthOfWord? (Text.capitals (Text.trim s)) with
    | none =>
      rw [word] at refused
      cases refused
      rfl
    | some b =>
      rw [word] at refused
      cases refused
  | _ => cases refused <;> rfl

/-- Only integers are too large for a reading themselves; what is in a list or an object is too large
for the words of its fault. -/
theorem isOverflow_of_ne_int (other : ∀ n, value ≠ .int n)
    (refused : ofDocument kind value = .error fault) : fault.isOverflow = false := by
  unfold ofDocument at refused
  split at refused
  · exact isOverflow_truthOf (map_eq_error_iff.1 refused)
  · cases refused
    rfl
  · cases refused
    rfl
  · have long := map_eq_error_iff.1 refused
    unfold Document.toText at long
    split at long <;> cases long
    rfl
  · exact isOverflow_integerOf other (map_eq_error_iff.1 refused)
  · exact isOverflow_toNumber other (map_eq_error_iff.1 refused)

theorem breaks_of_isOverflow (refused : ofDocument kind value = .error fault)
    (overflow : fault.isOverflow = true) : Breaks kind value fault := by
  by_cases other : ∀ n, value ≠ .int n
  · simp [isOverflow_of_ne_int other refused] at overflow
  · simp only [ne_eq, not_forall, not_not] at other
    obtain ⟨n, rfl⟩ := other
    exact eq_error_int_iff.1 refused

theorem breaks_of_not_isWritable (refused : ofDocument kind value = .error fault)
    (overflow : fault.isOverflow = false) (long : value.isWritable = false) :
    Breaks kind value .integerTooLong := by
  cases value with
  | list items => exact .list kind long
  | object members => exact .object kind long
  | int n =>
    obtain large | tooLong := eq_error_int_iff.1 refused
    · cases overflow
    · exact .text tooLong
  | _ => cases long

theorem Breaks.exists_fault {other : ConversionFault} (breaks : Breaks kind value other) :
    ∃ fault, ofDocument kind value = .error fault ∧
      (fault.isOverflow = true ∧ fault = other ∨
        fault.isOverflow = false ∧ value.isWritable = false ∧ other = .integerTooLong) := by
  cases breaks with
  | number large => exact ⟨_, eq_error_int_iff.2 (.number large), .inl ⟨rfl, rfl⟩⟩
  | @text n long =>
    refine ⟨_, eq_error_int_iff.2 (.text long), .inr ⟨rfl, ?_, rfl⟩⟩
    rwa [Document.isWritable, ← Bool.not_eq_true, Numeral.isSome_write?_iff, Nat.not_lt]
  | list kind long => cases kind <;> exact ⟨_, rfl, .inr ⟨rfl, long, rfl⟩⟩
  | object kind long => cases kind <;> exact ⟨_, rfl, .inr ⟨rfl, long, rfl⟩⟩

theorem decodes_conversionFailure {attr : Attribute} (key : String)
    (refused : ofDocument attr.kind value = .error fault) : DecodesBut (α := α)
      (Breaks attr.kind value) (.error (Status.conversionFailure key attr value fault)) := by
  refine ⟨?_, fun other => ⟨?_, ?_⟩⟩
  · rintro _ ⟨⟩
    unfold Status.conversionFailure
    split_ifs <;> simp
  · intro failed
    unfold Status.conversionFailure at failed
    split_ifs at failed with overflow writable <;> cases failed
    · exact breaks_of_isOverflow refused overflow
    · exact breaks_of_not_isWritable refused (Bool.eq_false_of_not_eq_true overflow)
        (Bool.eq_false_of_not_eq_true writable)
  · intro breaks
    obtain ⟨same, found, cause⟩ := breaks.exists_fault
    cases refused.symm.trans found
    obtain ⟨overflow, rfl⟩ | ⟨overflow, long, rfl⟩ := cause <;>
      simp [Status.conversionFailure, *]

end Reading

theorem Capability.family_of_ofFamily {members : Fields Document} {family : Family} {unit : Capability}
    (read : ofFamily members family = .ok unit) : unit.family = family ∧ family ≠ .unknown := by
  obtain ⟨generation, known, read⟩ := bind_eq_ok_iff.1 read
  constructor
  · split at read
    · obtain ⟨air, made, read⟩ := bind_eq_ok_iff.1 read
      cases pure_eq_ok_iff.1 read
      unfold AirConditioner.ofDocument at made
      split at made
      · cases made
      · simp only [bind_eq_ok_iff, pure_eq_ok_iff] at made
        obtain ⟨_, _, _, _, _, _, rfl⟩ := made
        rfl
    · split at read
      · obtain ⟨laundry, made, read⟩ := bind_eq_ok_iff.1 read
        cases pure_eq_ok_iff.1 read
        exact (Laundry.ofDocument_ok made).1
      · obtain ⟨cold, made, read⟩ := bind_eq_ok_iff.1 read
        cases pure_eq_ok_iff.1 read
        unfold Refrigerator.ofDocument at made
        split at made
        · cases made
        · obtain ⟨_, _, made⟩ := bind_eq_ok_iff.1 made
          cases pure_eq_ok_iff.1 made
          rfl
  · rintro rfl
    cases known

namespace Status

variable {table : AliasTable} {family : Family} {capability : Option Capability}

def MemberPasses (table : AliasTable) (member : String × Document) : Prop :=
  ∀ attr, table.lookup member.1 = some attr →
    member.2 = .null ∨ ∃ reading, Reading.ofDocument attr.kind member.2 = .ok reading

def MemberBreaks (table : AliasTable) (member : String × Document) (fault : ConversionFault) : Prop :=
  ∃ attr, table.lookup member.1 = some attr ∧ Reading.Breaks attr.kind member.2 fault

theorem exists_siftMember_iff (sifted : Sifted) (member : String × Document) :
    (∃ next, siftMember table sifted member = .ok next) ↔ MemberPasses table member := by
  unfold siftMember MemberPasses
  cases table.lookup member.1 with
  | none => simp
  | some attr =>
    by_cases null : member.2 = .null
    · simp [null, Document.isNull]
    · have given : member.2.isNull = false := by
        cases value : member.2 <;> simp_all [Document.isNull]
      cases made : Reading.ofDocument attr.kind member.2 <;> simp [given, null, made]

theorem decodes_siftMember (sifted : Sifted) (member : String × Document) :
    DecodesBut (MemberBreaks table member) (siftMember table sifted member) := by
  unfold siftMember MemberBreaks
  cases table.lookup member.1 with
  | none => exact (DecodesBut.ok _).congr fun fault => by simp
  | some attr =>
    simp only [Option.some.injEq, exists_eq_left']
    split_ifs with null
    · refine (DecodesBut.ok _).congr fun fault => iff_of_false id fun breaks => ?_
      simp [breaks.isNull] at null
    · split
      · next reading made =>
        refine (DecodesBut.ok _).congr fun fault => iff_of_false id fun breaks => ?_
        obtain ⟨other, refused, -⟩ := breaks.exists_fault
        cases made.symm.trans refused
      · next fault refused => exact Reading.decodes_conversionFailure member.1 refused

theorem sift_eq_foldlM (sifted : Sifted) (members : Fields Document) :
    sift table sifted members = members.foldlM (siftMember table) sifted := by
  induction members generalizing sifted with
  | nil => rfl
  | cons member rest ih =>
    rw [sift, List.foldlM_cons]
    exact congrArg (siftMember table sifted member >>= ·) (funext ih)

theorem exists_newAliases {table : AliasTable} {names : List (String × String)}
    (known : ∀ name ∈ names, table.has name.2 = true) :
    ∃ extra, newAliases table names = .ok extra := by
  induction names with
  | nil => exact ⟨_, rfl⟩
  | cons name rest ih =>
    obtain ⟨here, later⟩ := List.forall_mem_cons.1 known
    obtain ⟨extra, made⟩ := ih later
    obtain ⟨attr, found⟩ := Option.isSome_iff_exists.1 here
    rw [newAliases]
    split_ifs
    · exact ⟨extra, made⟩
    · exact ⟨(name.1, attr) :: extra, by simp [found, made, Except.map]⟩

theorem exists_courseAliases (laundry : Laundry) :
    ∃ extra, newAliases StatusModel.laundry.aliases (courseNames laundry) = .ok extra := by
  apply exists_newAliases
  simp only [courseNames, List.forall_mem_cons]
  decide

/-- Whether a capability that names course fields goes with a family that reports them. -/
def Suits (family : Family) (capability : Option Capability) : Prop :=
  ∀ laundry, capability.bind Capability.laundry? = some laundry →
    family.statusModel? = some .laundry

theorem statusModel?_of_isLaundry (isLaundry : family.isLaundry = true) :
    family.statusModel? = some .laundry := by
  revert isLaundry
  cases family <;> decide

theorem suits_of_ofDocument {document : Document} {requested : Option Family} {unit : Capability}
    (read : Capability.ofDocument document requested = .ok unit) :
    Suits unit.family (some unit) := by
  intro laundry named
  cases unit with
  | laundry unit =>
    obtain ⟨members, family, -, read⟩ := Capability.ofFamily_of_ofDocument read
    obtain ⟨isLaundry, generation, read⟩ := Capability.laundry_of_ofFamily read
    obtain ⟨same, -⟩ := Laundry.ofDocument_ok read
    refine statusModel?_of_isLaundry ?_
    rwa [Capability.family, Capability.header, same]
  | airConditioner unit => cases named
  | refrigerator unit => cases named

theorem offline_of_ofDocument {document : Document} {requested : Option Family}
    {unit : Capability} (described : Capability.ofDocument document requested = .ok unit) :
    offline unit.family = .ok { family := unit.family, online := false } := by
  obtain ⟨members, family, -, read⟩ := Capability.ofFamily_of_ofDocument described
  obtain ⟨same, known⟩ := Capability.family_of_ofFamily read
  rw [same]
  cases family with
  | unknown => exact absurd rfl known
  | _ => rfl

theorem decodes_modelOf (family : Family) : DecodesBut (fun _ => False) (modelOf family) := by
  unfold modelOf
  split
  · exact .ok _
  · exact .decoding _

theorem decodes_aliasTable (suits : Suits family capability) :
    DecodesBut (fun _ => False) (aliasTable family capability) := by
  unfold aliasTable
  refine ((decodes_modelOf family).bind fun model found => (?_ : DecodesBut (fun _ => False) _)).congr
    fun fault => by simp
  split
  · exact .ok _
  · next laundry named =>
    have isLaundry := suits laundry named
    simp only [modelOf, isLaundry] at found
    cases found
    obtain ⟨extra, made⟩ := exists_courseAliases laundry
    simp only [made]
    exact .ok _

def Breaks (family : Family) (capability : Option Capability) (document : Document)
    (fault : ConversionFault) : Prop :=
  ∃ model table members, modelOf family = .ok model ∧ aliasTable family capability = .ok table ∧
    document = .object members ∧
    ∃ before member after, selected model members = before ++ member :: after ∧
      (∀ earlier ∈ before, MemberPasses table earlier) ∧ MemberBreaks table member fault

theorem decodes_ofDocument (suits : Suits family capability) (online : Bool) (document : Document) :
    DecodesBut (Breaks family capability document)
      (ofDocument family capability online document) := by
  unfold ofDocument Breaks
  cases document with
  | object members =>
    simp only [Document.object?, sift_eq_foldlM]
    refine ((decodes_modelOf family).bind fun model found =>
      (decodes_aliasTable suits).bind fun table named =>
        (DecodesBut.foldlM exists_siftMember_iff decodes_siftMember (selected model members) {}).bind
          fun sifted taken => DecodesBut.ok _).congr fun fault => ?_
    simp
  | _ =>
    refine ((decodes_modelOf family).bind fun model found => DecodesBut.decoding _).congr fun fault => ?_
    simp

theorem decodes_ofRead (suits : Suits family capability) (online : Bool)
    (read : Except ReadFault Document) :
    DecodesBut (fun fault => ∃ document, read = .ok document ∧ Breaks family capability document fault)
      (ofRead family capability online read) := by
  unfold ofRead
  cases read with
  | ok document =>
    refine ((decodes_modelOf family).bind fun model found =>
      decodes_ofDocument suits online document).congr fun fault => ?_
    simp only [false_or, exists_and_right, Except.ok.injEq, exists_eq_left']
    exact and_iff_right_of_imp fun ⟨model, _, _, found, _⟩ => ⟨model, found⟩
  | error cause =>
    refine ((decodes_modelOf family).bind fun model found => DecodesBut.decoding _).congr fun fault => ?_
    simp

end Status

namespace ReportField

variable {field : ReportField} {table : AliasTable} {bytes : List UInt8}

def Passes (field : ReportField) (table : AliasTable) (bytes : List UInt8) : Prop :=
  ¬ field.IsOutside bytes.length ∧ ∀ attr, table.lookup field.name = some attr →
    ∃ reading, Reading.ofNatural attr.kind (field.number bytes) = some (.ok reading)

inductive Breaks (field : ReportField) (table : AliasTable) (bytes : List UInt8) :
    ConversionFault → Prop where
  | unwritable (outside : field.IsOutside bytes.length) (endless : ¬ field.HasWritableEnds) :
      Breaks field table bytes .integerTooLong
  | claimed {attr : Attribute} {fault : ConversionFault} (inside : ¬ field.IsOutside bytes.length)
      (claimed : table.lookup field.name = some attr)
      (breaks : Reading.Breaks attr.kind (.int (field.number bytes)) fault) :
      Breaks field table bytes fault

end ReportField

namespace Telemetry

variable {bytes : List UInt8} {table : AliasTable} {field : ReportField}

theorem decodes_readingOf (field : ReportField) (attr : Attribute) (n : Nat) :
    DecodesBut (Reading.Breaks attr.kind (.int n)) (readingOf field attr n) := by
  unfold readingOf
  by_cases carried : attr.kind = .truth
  · rw [carried]
    exact (DecodesBut.decoding _).congr fun fault => iff_of_false id nofun
  · rw [Reading.ofNatural_eq carried]
    cases made : Reading.ofDocument attr.kind (.int n) with
    | ok reading =>
      refine (DecodesBut.ok reading).congr fun fault => iff_of_false id fun breaks => ?_
      cases made.symm.trans (Reading.eq_error_int_iff.2 breaks)
    | error cause =>
      refine (DecodesBut.conversion cause).congr fun fault => ?_
      rw [← Reading.eq_error_int_iff, made, Except.error.injEq, eq_comm]

theorem exists_addField_iff_passes (telemetry : Telemetry) (field : ReportField) :
    (∃ next, addField bytes table telemetry field = .ok next) ↔ field.Passes table bytes := by
  unfold ReportField.Passes
  obtain outside | inside := Classical.em (field.IsOutside bytes.length)
  · simp [addField_outside outside, outside]
  · cases claimed : table.lookup field.name with
    | none => simp [addField_unclaimed inside claimed, inside]
    | some attr =>
      simp only [addField_eq_bind inside claimed, bind_eq_ok_iff, readingOf_eq_ok_iff]
      simp [inside]

theorem decodes_addField (telemetry : Telemetry) (field : ReportField) :
    DecodesBut (field.Breaks table bytes) (addField bytes table telemetry field) := by
  obtain outside | inside := Classical.em (field.IsOutside bytes.length)
  · rw [addField_outside outside, ReportField.outside]
    split_ifs with writable
    · refine (DecodesBut.decoding _).congr fun fault => iff_of_false id ?_
      rintro (⟨-, endless⟩ | ⟨inside, -, -⟩)
      · exact endless (ReportField.HasWritableEnds.iff.2 writable)
      · exact inside outside
    · refine (DecodesBut.conversion _).congr fun fault => ⟨?_, ?_⟩
      · rintro rfl
        exact .unwritable outside (mt ReportField.HasWritableEnds.iff.1 writable)
      · rintro (⟨-, -⟩ | ⟨inside, -, -⟩)
        · rfl
        · exact absurd outside inside
  · cases claimed : table.lookup field.name with
    | none =>
      rw [addField_unclaimed inside claimed]
      refine (DecodesBut.ok _).congr fun fault => iff_of_false id ?_
      rintro (⟨outside, -⟩ | ⟨-, here, -⟩)
      · exact inside outside
      · cases claimed.symm.trans here
    | some attr =>
      rw [addField_eq_bind inside claimed]
      refine ((decodes_readingOf field attr _).bind fun _ _ => DecodesBut.ok _).congr fun fault => ?_
      simp only [and_false, exists_false, or_false]
      refine ⟨.claimed inside claimed, ?_⟩
      rintro (⟨outside, -⟩ | ⟨-, here, breaks⟩)
      · exact absurd outside inside
      · cases claimed.symm.trans here
        exact breaks

theorem addFields_eq_foldlM (telemetry : Telemetry) (layout : List ReportField) :
    addFields bytes table telemetry layout = layout.foldlM (addField bytes table) telemetry := by
  induction layout generalizing telemetry with
  | nil => rfl
  | cons field rest ih =>
    rw [addFields, List.foldlM_cons]
    exact congrArg (addField bytes table telemetry field >>= ·) (funext ih)

def Breaks (family : Family) (capability : Option Capability) (layout : List ReportField)
    (bytes : List UInt8) (fault : ConversionFault) : Prop :=
  ∃ table, Status.aliasTable family capability = .ok table ∧
    ∃ before field after, layout = before ++ field :: after ∧
      (∀ earlier ∈ before, earlier.Passes table bytes) ∧ field.Breaks table bytes fault

theorem decodes_ofTelemetry {family : Family} {capability : Option Capability}
    (suits : Status.Suits family capability) (layout : List ReportField) (bytes : List UInt8) :
    DecodesBut (Breaks family capability layout bytes)
      (Status.ofTelemetry family capability layout bytes) := by
  unfold Status.ofTelemetry Breaks
  simp only [decode, addFields_eq_foldlM]
  refine ((Status.decodes_aliasTable suits).bind fun table named =>
    (DecodesBut.foldlM exists_addField_iff_passes decodes_addField layout {}).bind
      fun telemetry taken => DecodesBut.ok _).congr fun fault => ?_
  simp

end Telemetry

namespace Status

variable {family : Family} {capability : Option Capability}

def PayloadBreaks (unit : Capability) (bytes : List UInt8) (fault : ConversionFault) : Prop :=
  if unit.header.reporting.format = .binary then
    Telemetry.Breaks unit.family (some unit) unit.header.reporting.layout bytes fault
  else ∃ document, Document.readBytes bytes = .ok document ∧
    Breaks unit.family (some unit) document fault

theorem decodes_ofPayload {unit : Capability} (suits : Suits unit.family (some unit))
    (bytes : List UInt8) : DecodesBut (PayloadBreaks unit bytes) (ofPayload unit bytes) := by
  unfold ofPayload
  by_cases binary : unit.header.reporting.format = .binary
  · simp only [binary, if_true]
    exact (Telemetry.decodes_ofTelemetry suits _ bytes).congr fun fault => by
      simp [PayloadBreaks, binary]
  · simp only [binary, if_false]
    exact (decodes_ofRead suits true _).congr fun fault => by simp [PayloadBreaks, binary]

/-- Every way to decode a status gives a status or fails as a decoding fault, except that a number
which is too large breaks its conversion: exactly if the first that is refused is refused for it. -/
theorem decodes_but (suits : Suits family capability) :
    (∀ online document, DecodesBut (Breaks family capability document)
      (ofDocument family capability online document)) ∧
    (∀ online s, DecodesBut
      (fun fault => ∃ document, Document.read s = .ok document ∧
        Breaks family capability document fault)
      (ofText family capability online s)) ∧
    (∀ online bytes, DecodesBut
      (fun fault => ∃ document, Document.readBytes bytes = .ok document ∧
        Breaks family capability document fault)
      (ofBytes family capability online bytes)) ∧
    (∀ layout bytes, DecodesBut (Telemetry.Breaks family capability layout bytes)
      (ofTelemetry family capability layout bytes)) ∧
    (∀ unit bytes, Suits unit.family (some unit) →
      DecodesBut (PayloadBreaks unit bytes) (ofPayload unit bytes)) ∧
    ∀ document requested unit, Capability.ofDocument document requested = .ok unit →
      ∀ bytes, DecodesBut (PayloadBreaks unit bytes) (ofPayload unit bytes) :=
  ⟨decodes_ofDocument suits, fun online _ => decodes_ofRead suits online _,
    fun online _ => decodes_ofRead suits online _, Telemetry.decodes_ofTelemetry suits,
    fun _ bytes suits => decodes_ofPayload suits bytes,
    fun _ _ _ read bytes => decodes_ofPayload (suits_of_ofDocument read) bytes⟩

theorem decodes_but_leastOverflow : Suits .airConditioner none ∧
    ofDocument .airConditioner none true (.object [("TempCfg", .int Binary64.leastOverflow)]) =
      .error (.conversion .integerTooLarge) := by
  have suits : Suits .airConditioner none := by
    intro laundry named
    cases named
  have breaks {n : Int} (large : Binary64.leastOverflow ≤ n.natAbs) :
      Breaks .airConditioner none (.object [("TempCfg", .int n)]) .integerTooLarge :=
    ⟨.airConditioner, _, _, rfl, rfl, rfl, [], _, [], rfl, nofun, .targetTemperature, rfl,
      .number large⟩
  refine ⟨suits, (((decodes_but suits).1 true _).breaks_iff _).2 (breaks ?_)⟩
  rw [Int.natAbs_natCast]

/-- The largest number of 128 bytes, which has no nearest floating-point number. -/
theorem not_decodes_of_large_field : ¬ DecodesBut (fun _ => False)
    (ofTelemetry .airConditioner none [{ name := "TempCfg", start := 0, length := 128 }]
      (List.replicate 128 255)) := by
  intro decodes
  have large : Telemetry.decode (List.replicate 128 255)
      [{ name := "TempCfg", start := 0, length := 128 }] StatusModel.airConditioner.aliases =
        .error (.conversion .integerTooLarge) := by decide +kernel
  refine (decodes.breaks_iff .integerTooLarge).1 ?_
  have named : aliasTable .airConditioner none = .ok StatusModel.airConditioner.aliases := rfl
  simp only [ofTelemetry, named, Bind.bind, Except.bind, large]

end Status

end ApplianceCloud
