import ApplianceCloud.Proofs.Capability.Escape

namespace ApplianceCloud

variable {α β : Type}

section Layout

def PassesLayout (outcome : Except Failure α) : Prop :=
  ∃ failure, outcome = .error failure ∧ ReportField.isLayoutFault failure = false ∧
    failure.isCapabilityFault = false

def IsInfinite (members : Fields Document) (key : String) : Prop :=
  ∃ negative, members.lookup key = some (.number (.infinite negative))

theorem isOverflow_toInteger_iff (d : Document) :
    (∃ fault, d.toInteger = .error fault ∧ fault.isOverflow = true) ↔
      ∃ negative, d = .number (.infinite negative) := by
  cases d with
  | number value =>
    cases value <;>
      simp [Document.toInteger, Document.wholeNumber, ConversionFault.isOverflow]
  | text s =>
    simp only [Document.toInteger]
    split <;> simp [ConversionFault.isOverflow]
  | _ => simp [Document.toInteger, ConversionFault.isOverflow]

theorem passesLayout_integerIn_iff (members : Fields Document) (key : String) :
    PassesLayout (ReportField.integerIn members key) ↔ IsInfinite members key := by
  unfold ReportField.integerIn PassesLayout IsInfinite
  cases members.lookup key with
  | none => simp [ReportField.isLayoutFault]
  | some d =>
    simp only [Option.some.injEq, ← isOverflow_toInteger_iff]
    cases d.toInteger <;> simp [ReportField.isLayoutFault, Failure.isCapabilityFault]

theorem passesLayout_bind_iff {first : Except Failure α} {rest : α → Except Failure β} :
    PassesLayout (first >>= rest) ↔
      PassesLayout first ∨ ∃ a, first = .ok a ∧ PassesLayout (rest a) := by
  cases first <;> simp [PassesLayout, bind, Except.bind]

inductive IsNoField : Document → Prop where
  | shape {entry : Document} (shape : entry.isObject = false) : IsNoField entry
  | start {members : Fields Document} (infinite : IsInfinite members "startByte") :
      IsNoField (.object members)
  | length {members : Fields Document} {n : Int}
      (start : ReportField.integerIn members "startByte" = .ok n)
      (infinite : IsInfinite members "length") : IsNoField (.object members)

theorem passesLayout_ofDocument_iff (entry : Document) :
    PassesLayout (ReportField.ofDocument entry) ↔ IsNoField entry := by
  cases entry with
  | object members =>
    simp only [ReportField.ofDocument, passesLayout_bind_iff, passesLayout_integerIn_iff]
    constructor
    · rintro (infinite | ⟨n, start, infinite | ⟨_, _, ⟨_, failed, _⟩⟩⟩)
      · exact .start infinite
      · exact .length start infinite
      · cases failed
    · rintro (shape | infinite | ⟨start, infinite⟩)
      · cases shape
      · exact .inl infinite
      · exact .inr ⟨_, start, .inl infinite⟩
  | _ => exact iff_of_true ⟨_, rfl, rfl, rfl⟩ (.shape rfl)

def HasNoField (entries : List Document) : Prop :=
  ∃ before entry after, entries = before ++ entry :: after ∧
    (∀ earlier ∈ before, ∃ field, ReportField.ofDocument earlier = .ok field) ∧ IsNoField entry

theorem escapes_ofLayout_iff (entries : List Document) :
    Escapes (ReportField.ofLayout entries) ↔ HasNoField entries := by
  have passes : Escapes (ReportField.ofLayout entries) ↔
      PassesLayout (entries.mapM ReportField.ofDocument) := by
    unfold ReportField.ofLayout PassesLayout
    cases entries.mapM ReportField.ofDocument with
    | ok fields => simp
    | error failure =>
      by_cases layout : ReportField.isLayoutFault failure <;>
        simp [layout, Failure.isCapabilityFault]
  rw [passes]
  unfold HasNoField
  simp only [← passesLayout_ofDocument_iff, PassesLayout, mapM_eq_error_iff]
  constructor
  · rintro ⟨failure, ⟨before, entry, after, split, good, failed⟩, passes⟩
    exact ⟨before, entry, after, split, good, failure, failed, passes⟩
  · rintro ⟨before, entry, after, split, good, failure, failed, passes⟩
    exact ⟨failure, ⟨before, entry, after, split, good, failed⟩, passes⟩

def HasNoLayout (generation : Generation) (document : Fields Document) : Prop :=
  generation = .first ∧ ∃ monitoring entries, document.orNull "Monitoring" = .object monitoring ∧
    ReportFormat.ofDocument (Fields.orNull monitoring "type") = .binary ∧
    Fields.orNull monitoring "protocol" = .list entries ∧ HasNoField entries

theorem escapes_reporting_iff (generation : Generation) (document : Fields Document) :
    Escapes (Reporting.ofDocument generation document) ↔ HasNoLayout generation document := by
  unfold Reporting.ofDocument HasNoLayout
  cases generation with
  | second => simp
  | first =>
    cases document.orNull "Monitoring" with
    | object monitoring =>
      simp only [Document.object?]
      by_cases binary : ReportFormat.ofDocument (Fields.orNull monitoring "type") = .binary
      · cases protocol : Fields.orNull monitoring "protocol" with
        | list entries =>
          simp [binary, protocol, Document.list?, escapes_ofLayout_iff]
        | _ => simp [binary, protocol, Document.list?, Failure.isCapabilityFault]
      · simp [binary]
    | _ => simp [Document.object?]

end Layout

section Families

def AirConditioner.HasNodes (generation : Generation) (document : Fields Document) : Prop :=
  ∃ value, document.orNull "Value" = .object value ∧
    (Fields.orNull value (nodeNames generation).operationMode).isObject = true ∧
    (Fields.orNull value (nodeNames generation).fanSpeed).isObject = true

theorem escapes_settingOf_bind_iff {value : Fields Document} {node support optionsKey : String}
    {wordings : Fields String} {rest : Setting → Except Failure α} {P : Prop}
    (there : ∀ setting, Escapes (rest setting) ↔ P) :
    Escapes (AirConditioner.settingOf value node support optionsKey wordings >>= rest) ↔
      (value.orNull node).isObject = true ∧ P := by
  unfold AirConditioner.settingOf
  cases value.orNull node with
  | object members => simp [Document.object?, Document.isObject, there]
  | _ => simp [Document.object?, Document.isObject, Failure.isCapabilityFault]

theorem escapes_airConditioner_iff (document : Fields Document) (family : Family)
    (generation : Generation) : Escapes (AirConditioner.ofDocument document family generation) ↔
      AirConditioner.HasNodes generation document ∧ HasNoLayout generation document := by
  unfold AirConditioner.ofDocument AirConditioner.HasNodes
  cases document.orNull "Value" with
  | object value =>
    simp only [Document.object?, Document.object.injEq, exists_eq_left']
    rw [escapes_settingOf_bind_iff fun _ => escapes_settingOf_bind_iff fun _ =>
      (escapes_bind_of_not fun _ => escapes_pure _).trans (escapes_reporting_iff generation document)]
    simp [and_assoc]
  | _ => simp [Document.object?, Failure.isCapabilityFault]

def Laundry.HasNodes (generation : Generation) (document : Fields Document)
    (courses smartCourses : Document) : Prop :=
  ∃ readings, document.orNull (nodeNames generation).readings = .object readings ∧
    document.orNull (courseNodes generation document readings).courses = courses ∧
    document.orNull (courseNodes generation document readings).smartCourses = smartCourses ∧
    courses.isObject = true

theorem escapes_laundry_iff (document : Fields Document) (family : Family)
    (generation : Generation) : Escapes (Laundry.ofDocument document family generation) ↔
      ∃ courses smartCourses, Laundry.HasNodes generation document courses smartCourses ∧
        (HasIrregularCourse .course courses ∨ HasIrregularCourse .smartCourse smartCourses ∨
          HasNoLayout generation document) := by
  unfold Laundry.ofDocument Laundry.HasNodes
  dsimp only
  cases document.orNull (Laundry.nodeNames generation).readings with
  | object readings =>
    simp only [Document.object?, Document.object.injEq, exists_eq_left']
    split
    · next missing => simp_all [Failure.isCapabilityFault]
    · next present =>
      rw [(unguarded_ofNode _ _ _).escapes_bind_iff fun _ => (unguarded_ofNode _ _ _).escapes_bind_iff
        fun _ => (escapes_bind_of_not fun _ => escapes_pure _).trans (escapes_reporting_iff _ _)]
      rw [escapes_ofNode_iff, escapes_ofNode_iff]
      constructor
      · intro irregular
        exact ⟨_, _, ⟨rfl, rfl, by simpa using present⟩, irregular⟩
      · rintro ⟨_, _, ⟨rfl, rfl, -⟩, irregular⟩
        exact irregular
  | _ => simp [Document.object?, Failure.isCapabilityFault]

theorem escapes_refrigerator_iff (document : Fields Document) (family : Family)
    (generation : Generation) : Escapes (Refrigerator.ofDocument document family generation) ↔
      (document.orNull (Detection.readingsKey generation)).isObject = true ∧
        HasNoLayout generation document := by
  unfold Refrigerator.ofDocument
  cases document.orNull (Detection.readingsKey generation) with
  | object readings =>
    simp only [Document.object?]
    rw [escapes_bind_of_not fun _ => escapes_pure _, escapes_reporting_iff]
    simp [Document.isObject, Document.object?]
  | _ => simp [Document.object?, Document.isObject, Failure.isCapabilityFault]

def TripsIn (document : Fields Document) (generation : Generation) : Family → Prop
  | .airConditioner => AirConditioner.HasNodes generation document ∧ HasNoLayout generation document
  | .refrigerator => (document.orNull (Detection.readingsKey generation)).isObject = true ∧
      HasNoLayout generation document
  | .unknown => False
  | _ => ∃ courses smartCourses, Laundry.HasNodes generation document courses smartCourses ∧
      (HasIrregularCourse .course courses ∨ HasIrregularCourse .smartCourse smartCourses ∨
        HasNoLayout generation document)

theorem not_escapes_generation (document : Fields Document) (family : Family) :
    ¬ Escapes (Detection.generation document family) := by
  have readings (words : String) : ¬ Escapes (Detection.readingsGeneration words document) := by
    unfold Detection.readingsGeneration
    split
    · simp
    · split <;> simp [Failure.isCapabilityFault]
  cases family with
  | airConditioner =>
    simp only [Detection.generation, Detection.airConditionerGeneration]
    split
    · simp
    · split <;> simp [Failure.isCapabilityFault]
  | refrigerator => exact readings _
  | unknown => simp [Detection.generation, Failure.isCapabilityFault]
  | _ => exact readings _

theorem escapes_ofFamily_iff (document : Fields Document) (family : Family) :
    Escapes (Capability.ofFamily document family) ↔
      ∃ generation, Detection.generation document family = .ok generation ∧
        TripsIn document generation family := by
  unfold Capability.ofFamily
  rw [escapes_bind_iff]
  simp only [not_escapes_generation, false_or]
  refine exists_congr fun generation => and_congr_right fun shown => ?_
  cases family with
  | airConditioner =>
    exact (escapes_bind_of_not fun _ => escapes_pure _).trans
      (escapes_airConditioner_iff document _ generation)
  | refrigerator =>
    exact (escapes_bind_of_not fun _ => escapes_pure _).trans
      (escapes_refrigerator_iff document _ generation)
  | unknown => cases shown
  | _ =>
    exact (escapes_bind_of_not fun _ => escapes_pure _).trans
      (escapes_laundry_iff document _ generation)

end Families

namespace Capability

/-- Documents that trip the reader with something other than a capability fault: the words of the
family, a course, or the layout of reports. -/
def Trips (document : Document) (requested : Option Family) : Prop :=
  ∃ members, document = .object members ∧
    (givenFamily? requested = none ∧ HasNoWords members ∨
      ∃ family generation,
        (givenFamily? requested = some family ∨
          givenFamily? requested = none ∧ Detection.family members = .ok family) ∧
        Detection.generation members family = .ok generation ∧ TripsIn members generation family)

/-- Reading a document gives a capability or a capability fault, except at the documents that trip. -/
theorem escapes_iff (document : Document) (requested : Option Family) :
    Escapes (ofDocument document requested) ↔ Trips document requested := by
  unfold ofDocument Trips
  cases document with
  | object members =>
    simp only [Document.object?, Document.object.injEq, exists_eq_left']
    cases givenFamily? requested with
    | some family =>
      simp [escapes_ofFamily_iff]
    | none =>
      simp [escapes_bind_iff, escapes_ofFamily_iff, escapes_family_iff]
  | _ => simp [Document.object?, Failure.isCapabilityFault]

theorem escapes_number :
    Escapes (ofDocument (.object [("Info", .object [("productType", .int 5)])]) none) :=
  ⟨.shape (.noMember "int" "upper"), rfl, rfl⟩

end Capability

end ApplianceCloud
