import ApplianceCloud.Capability.Document
import ApplianceCloud.Proofs.Outcome

namespace ApplianceCloud

variable {α β : Type}

def Failure.isCapabilityFault : Failure → Bool
  | capability _ => true
  | _ => false

/-- An outcome that is a failure, and no capability fault. -/
def Escapes (outcome : Except Failure α) : Prop :=
  ∃ failure, outcome = .error failure ∧ failure.isCapabilityFault = false

def Unguarded (outcome : Except Failure α) : Prop := (∃ a, outcome = .ok a) ∨ Escapes outcome

section Escapes

variable {first : Except Failure α} {rest : α → Except Failure β}

@[simp] theorem escapes_ok (a : α) : ¬ Escapes (.ok a : Except Failure α) := by
  simp [Escapes]

@[simp] theorem escapes_pure (a : α) : ¬ Escapes (pure a : Except Failure α) := escapes_ok a

@[simp] theorem escapes_error (failure : Failure) :
    Escapes (.error failure : Except Failure α) ↔ failure.isCapabilityFault = false := by
  simp [Escapes]

@[simp] theorem escapes_map_iff {f : α → β} : Escapes (f <$> first) ↔ Escapes first := by
  cases first <;> simp [Functor.map, Except.map]

theorem escapes_bind_iff :
    Escapes (first >>= rest) ↔ Escapes first ∨ ∃ a, first = .ok a ∧ Escapes (rest a) := by
  cases first <;> simp [bind, Except.bind]

theorem escapes_bind_of_not (quiet : ∀ a, ¬ Escapes (rest a)) :
    Escapes (first >>= rest) ↔ Escapes first := by
  simp [escapes_bind_iff, quiet]

theorem Unguarded.bind (here : Unguarded first) (there : ∀ a, Unguarded (rest a)) :
    Unguarded (first >>= rest) := by
  obtain ⟨a, rfl⟩ | escapes := here
  · exact there a
  · exact .inr (escapes_bind_iff.2 (.inl escapes))

theorem Unguarded.escapes_bind_iff {P : Prop} (here : Unguarded first)
    (there : ∀ a, Escapes (rest a) ↔ P) : Escapes (first >>= rest) ↔ Escapes first ∨ P := by
  obtain ⟨a, rfl⟩ | escapes := here
  · simp [there]
  · exact iff_of_true (ApplianceCloud.escapes_bind_iff.2 (.inl escapes)) (.inl escapes)

end Escapes

section Family

def IsNoWord (d : Document) : Prop := d.isTruthy = true ∧ ∀ s, d ≠ .text s

theorem escapes_wordOf_iff (d : Document) : Escapes (Family.wordOf d) ↔ IsNoWord d := by
  unfold Family.wordOf IsNoWord
  split
  · next silent => simp_all
  · next speaks =>
    cases d <;> simp_all [Failure.isCapabilityFault]

theorem unguarded_wordOf (d : Document) : Unguarded (Family.wordOf d) := by
  unfold Family.wordOf
  split
  · exact .inl ⟨_, rfl⟩
  · split
    · exact .inl ⟨_, rfl⟩
    · exact .inr ⟨_, rfl, rfl⟩

def HasNoWords (document : Fields Document) : Prop :=
  ∃ info, document.orNull "Info" = .object info ∧
    (IsNoWord (Fields.orNull info "productType") ∨ IsNoWord (Fields.orNull info "modelType"))

theorem escapes_family_iff (document : Fields Document) :
    Escapes (Detection.family document) ↔ HasNoWords document := by
  unfold Detection.family HasNoWords
  cases document.orNull "Info" with
  | object info =>
    simp only [Document.object?]
    rw [escapes_bind_of_not fun found => by split <;> simp [Failure.isCapabilityFault],
      Family.ofProduct,
      (unguarded_wordOf _).escapes_bind_iff fun _ => escapes_bind_of_not fun _ => escapes_pure _]
    simp [escapes_wordOf_iff]
  | _ => simp [Document.object?, Failure.isCapabilityFault]

end Family

section Courses

def HasNoItems : Document → Prop
  | .bool value => value = true
  | .int value => value ≠ 0
  | .number value => value.isZero = false
  | _ => False

theorem escapes_itemsOf_iff (d : Document) : Escapes (Course.itemsOf d) ↔ HasNoItems d := by
  unfold Course.itemsOf
  cases d with
  | list items => by_cases empty : items.isEmpty <;> simp [Document.isTruthy, HasNoItems, empty]
  | object members => by_cases empty : members.isEmpty <;> simp [Document.isTruthy, HasNoItems, empty]
  | text s => by_cases empty : s = "" <;> simp [Document.isTruthy, HasNoItems, empty]
  | bool value => cases value <;> simp [Document.isTruthy, HasNoItems, Failure.isCapabilityFault]
  | int value =>
    by_cases zero : value = 0 <;>
      simp [Document.isTruthy, HasNoItems, zero, Failure.isCapabilityFault]
  | number value =>
    by_cases zero : value.isZero <;>
      simp [Document.isTruthy, HasNoItems, zero, Failure.isCapabilityFault]
  | null => simp [Document.isTruthy, HasNoItems]

theorem unguarded_itemsOf (d : Document) : Unguarded (Course.itemsOf d) := by
  unfold Course.itemsOf
  split
  · exact .inl ⟨_, rfl⟩
  · split <;> first | exact .inl ⟨_, rfl⟩ | exact .inr ⟨_, rfl, rfl⟩

theorem itemsOf_list (items : List Document) : Course.itemsOf (.list items) = .ok items := by
  cases items <;> rfl

theorem eq_list_of_itemsOf {d : Document} {items : List Document} {members : Fields Document}
    (read : Course.itemsOf d = .ok items) (member : Document.object members ∈ items) :
    d = .list items := by
  unfold Course.itemsOf at read
  split at read
  · cases read
    simp at member
  · split at read
    · cases read
      rfl
    · cases read
      simp at member
    · cases read
      simp at member
    · cases read

def HasNoChoices (entry : Document) : Prop :=
  ∃ members, entry = .object members ∧ Fields.has members "value" = true ∧
    HasNoItems (Fields.orNull members "selectable")

theorem escapes_functionOf?_iff (kind : CourseKind) (entry : Document) :
    Escapes (Course.functionOf? kind entry) ↔ kind = .course ∧ HasNoChoices entry := by
  unfold Course.functionOf? HasNoChoices
  cases entry with
  | object members =>
    simp only [Document.object?, Document.object.injEq, exists_eq_left', Fields.has]
    cases members.lookup "value" with
    | none => simp
    | some value =>
      cases kind with
      | course =>
        simp only [if_true]
        rw [escapes_bind_of_not fun _ => escapes_pure _, escapes_itemsOf_iff]
        simp
      | smartCourse => simp [bind, Except.bind]
  | _ => simp [Document.object?]

theorem unguarded_functionOf? (kind : CourseKind) (entry : Document) :
    Unguarded (Course.functionOf? kind entry) := by
  unfold Course.functionOf?
  split
  · exact .inl ⟨_, rfl⟩
  · split
    · exact .inl ⟨_, rfl⟩
    · split
      · exact (unguarded_itemsOf _).bind fun _ => .inl ⟨_, rfl⟩
      · exact .inl ⟨_, rfl⟩

theorem escapes_functionsOf_iff (kind : CourseKind) (entries : List Document) :
    Escapes (Course.functionsOf kind entries) ↔
      kind = .course ∧ ∃ entry ∈ entries, HasNoChoices entry := by
  induction entries with
  | nil => simp [Course.functionsOf]
  | cons entry rest ih =>
    rw [Course.functionsOf, (unguarded_functionOf? kind entry).escapes_bind_iff fun _ =>
      escapes_bind_of_not fun _ => escapes_pure _, ih, escapes_functionOf?_iff]
    simp [← and_or_left]

theorem unguarded_functionsOf (kind : CourseKind) (entries : List Document) :
    Unguarded (Course.functionsOf kind entries) := by
  induction entries with
  | nil => exact .inl ⟨_, rfl⟩
  | cons entry rest ih =>
    exact (unguarded_functionOf? kind entry).bind fun _ => ih.bind fun _ => .inl ⟨_, rfl⟩

def IsIrregularCourse (kind : CourseKind) (members : Fields Document) : Prop :=
  HasNoItems (members.orNull "function") ∨
    kind = .course ∧ ∃ entries, members.orNull "function" = .list entries ∧
      ∃ entry ∈ entries, HasNoChoices entry

theorem escapes_ofEntry_iff (kind : CourseKind) (id : String) (members : Fields Document) :
    Escapes (Course.ofEntry kind id members) ↔ IsIrregularCourse kind members := by
  unfold Course.ofEntry IsIrregularCourse
  simp only [escapes_bind_iff, escapes_itemsOf_iff, escapes_functionsOf_iff, escapes_pure, and_false,
    exists_false, or_false]
  refine or_congr_right ⟨?_, ?_⟩
  · rintro ⟨entries, read, isCourse, entry, member, choices⟩
    have ⟨_, isObject, _⟩ := choices
    exact ⟨isCourse, entries, eq_list_of_itemsOf read (isObject ▸ member), entry, member, choices⟩
  · rintro ⟨isCourse, entries, isList, entry, member, choices⟩
    exact ⟨entries, isList ▸ itemsOf_list entries, isCourse, entry, member, choices⟩

theorem unguarded_ofEntry (kind : CourseKind) (id : String) (members : Fields Document) :
    Unguarded (Course.ofEntry kind id members) :=
  (unguarded_itemsOf _).bind fun _ => (unguarded_functionsOf kind _).bind fun _ => .inl ⟨_, rfl⟩

def HasIrregularCourse (kind : CourseKind) (node : Document) : Prop :=
  ∃ fields, node = .object fields ∧
    ∃ field ∈ fields, ∃ members, field.2 = .object members ∧ IsIrregularCourse kind members

theorem escapes_addEntries_iff (kind : CourseKind) (courses : Fields Course)
    (fields : Fields Document) : Escapes (Course.addEntries kind courses fields) ↔
      ∃ field ∈ fields, ∃ members, field.2 = .object members ∧ IsIrregularCourse kind members := by
  induction fields generalizing courses with
  | nil => simp [Course.addEntries]
  | cons field rest ih =>
    obtain ⟨id, entry⟩ := field
    rw [Course.addEntries]
    cases entry with
    | object members =>
      simp only [Document.object?]
      rw [(unguarded_ofEntry kind id members).escapes_bind_iff fun course => ih _,
        escapes_ofEntry_iff]
      simp
    | _ =>
      simp only [Document.object?]
      rw [ih]
      simp

theorem unguarded_addEntries (kind : CourseKind) (courses : Fields Course)
    (fields : Fields Document) : Unguarded (Course.addEntries kind courses fields) := by
  induction fields generalizing courses with
  | nil => exact .inl ⟨_, rfl⟩
  | cons field rest ih =>
    obtain ⟨id, entry⟩ := field
    rw [Course.addEntries]
    split
    · exact ih _
    · exact (unguarded_ofEntry kind id _).bind fun _ => ih _

theorem escapes_ofNode_iff (kind : CourseKind) (notSelected : String) (node : Document) :
    Escapes (Course.ofNode kind notSelected node) ↔ HasIrregularCourse kind node := by
  unfold Course.ofNode HasIrregularCourse
  rw [escapes_addEntries_iff]
  cases node <;> simp [Document.object?]

theorem unguarded_ofNode (kind : CourseKind) (notSelected : String) (node : Document) :
    Unguarded (Course.ofNode kind notSelected node) := unguarded_addEntries kind _ _

end Courses

end ApplianceCloud
