import ApplianceCloud.Control.RemoteStart
import ApplianceCloud.Proofs.Capability.Laundry

namespace ApplianceCloud

namespace Command

inductive Declares : Document → Fields Document → Prop where
  | inside {name : String} {inner rest : Fields Document} :
      Declares (.object ((name, .object inner) :: rest)) inner
  | plain {data : Fields Document}
      (plain : ∀ name inner rest, data ≠ (name, .object inner) :: rest) : Declares (.object data) data
  | nothing {declared : Document} (none : declared.isObject = false) : Declares declared []

theorem exists_declares (declared : Document) : ∃ data, Declares declared data ∧
    innerData (declared.object?.getD []) = data := by
  cases declared with
  | object data =>
    by_cases nested : ∃ name inner rest, data = (name, .object inner) :: rest
    · obtain ⟨name, inner, rest, rfl⟩ := nested
      exact ⟨inner, .inside, rfl⟩
    · have plain : ∀ name inner rest, data ≠ (name, .object inner) :: rest :=
        fun name inner rest same => nested ⟨name, inner, rest, same⟩
      refine ⟨data, .plain plain, ?_⟩
      change innerData data = data
      unfold innerData
      split
      · exact absurd rfl (plain _ _ _)
      · rfl
  | _ => exact ⟨[], .nothing rfl, rfl⟩

variable {escaped blank : List String}

theorem exists_of_lookup_ofSecondControl {control : Document} {name : String} {command : Command}
    (found : (ofSecondControl escaped blank control).lookup name = some command) :
    ∃ entries members, control = .object entries ∧
      (entries.filter (·.2.isObject)).lookup name = some (.object members) ∧
      command = ofDeclaration escaped blank members := by
  cases control with
  | object entries =>
    simp only [ofSecondControl, Document.object?, Option.getD_some] at found
    suffices ∃ members, (entries.filter (·.2.isObject)).lookup name = some (.object members) ∧
        command = ofDeclaration escaped blank members by
      obtain ⟨members, named, made⟩ := this
      exact ⟨entries, members, rfl, named, made⟩
    -- An entry that is no object makes no command, so both lists go on behind it.
    induction entries with
    | nil => cases found
    | cons entry rest ih =>
      obtain ⟨other, declaration⟩ := entry
      cases declaration with
      | object members =>
        by_cases same : name = other
        · subst same
          simp only [List.filterMap_cons, Option.map_some, List.lookup_cons_self,
            Option.some.injEq] at found
          exact ⟨members, by simp [Document.isObject, Document.object?], found.symm⟩
        · have apart : (name == other) = false := beq_eq_false_iff_ne.2 same
          simp only [List.filterMap_cons, Option.map_some, List.lookup_cons, apart] at found
          simpa [Document.isObject, Document.object?, List.lookup_cons, apart] using ih found
      | _ => exact ih found
  | _ => cases found

theorem lookup_foldl_put {key : String} {value : Document} {names : List String}
    (apart : key ∉ names) (data : Fields Document) :
    (names.foldl (fun data name => data.put name value) data).lookup key = data.lookup key := by
  induction names generalizing data with
  | nil => rfl
  | cons name rest ih =>
    rw [List.mem_cons, not_or] at apart
    rw [List.foldl_cons, ih apart.2, Fields.lookup_put, if_neg apart.1]

theorem lookup_dataOf {declared : Document} {data : Fields Document}
    (inner : innerData (declared.object?.getD []) = data) {key : String}
    (kept : ¬ (key ≠ "" ∧ key ∈ blank)) :
    (dataOf escaped blank declared).lookup key =
      if key ∈ escaped then none else data.lookup key := by
  have unescaped : ((innerData (declared.object?.getD [])).filter fun member =>
      !escaped.contains member.1).lookup key = if key ∈ escaped then none else data.lookup key := by
    rw [Fields.lookup_filter _ key (fun name => !escaped.contains name), inner]
    simp
  unfold dataOf
  split
  · next null =>
    cases declared <;> cases null
    exact unescaped
  · rw [lookup_foldl_put (by simpa [and_comm] using kept), unescaped]

end Command

namespace Laundry

variable {laundry : Laundry} {status : Option Status}

/-- A smart course is selected: the status reports one that is not the entry for "none selected". -/
structure SelectsSmart (laundry : Laundry) (status : Option Status) (id : String) : Prop where
  reported : ∃ known, status = some known ∧ known.text? .smartCourse = some id
  nonempty : id ≠ ""
  selected : id ≠ laundry.notSelected

/-- The course that a status reports is selected, or else the default course. -/
inductive SelectsCourse (laundry : Laundry) (status : Option Status) : String → Prop where
  | reported {known : Status} {id : String} (here : status = some known)
      (text : known.text? .course = some id) (nonempty : id ≠ "") : SelectsCourse laundry status id
  | default
      (unreported : ∀ known, status = some known → ∀ id, known.text? .course = some id → id = "") :
      SelectsCourse laundry status laundry.defaultCourse

theorem selectedSmartCourse?_eq_some_iff {id : String} :
    laundry.selectedSmartCourse? status = some id ↔ SelectsSmart laundry status id := by
  simp only [selectedSmartCourse?, Option.filter_eq_some_iff, Option.bind_eq_some_iff,
    Bool.and_eq_true, decide_eq_true_eq]
  exact ⟨fun ⟨reported, nonempty, selected⟩ => ⟨reported, nonempty, selected⟩,
    fun selects => ⟨selects.reported, selects.nonempty, selects.selected⟩⟩

theorem SelectsSmart.unique {id other : String} (selects : SelectsSmart laundry status id)
    (selects' : SelectsSmart laundry status other) : id = other := by
  have same := selectedSmartCourse?_eq_some_iff.2 selects
  rw [selectedSmartCourse?_eq_some_iff.2 selects'] at same
  exact (Option.some_inj.1 same).symm

theorem selectedSmartCourse?_eq_none_iff :
    laundry.selectedSmartCourse? status = none ↔ ∀ id, ¬ SelectsSmart laundry status id := by
  rw [Option.eq_none_iff_forall_ne_some]
  exact forall_congr' fun id => selectedSmartCourse?_eq_some_iff.not

theorem selectedCourse_eq_iff {id : String} :
    laundry.selectedCourse status = id ↔ SelectsCourse laundry status id := by
  constructor
  · rintro rfl
    cases named : (status.bind (·.text? .course)).filter (· ≠ "") with
    | some id =>
      obtain ⟨found, nonempty⟩ := Option.filter_eq_some_iff.1 named
      obtain ⟨known, here, text⟩ := Option.bind_eq_some_iff.1 found
      rw [selectedCourse, named, Option.getD_some]
      exact .reported here text (of_decide_eq_true nonempty)
    | none =>
      rw [selectedCourse, named, Option.getD_none]
      refine .default fun known here id text => ?_
      by_contra nonempty
      simp [here, text, nonempty] at named
  · rintro (⟨here, text, nonempty⟩ | unreported)
    · have named : (some _).filter (· ≠ "") = some _ := Option.filter_eq_some_iff.2 ⟨rfl, by simpa⟩
      rw [selectedCourse, here, Option.bind_some, text, named, Option.getD_some]
    · have unnamed : (status.bind (·.text? .course)).filter (· ≠ "") = none := by
        rw [Option.filter_eq_none_iff]
        intro id text
        obtain ⟨known, here, text⟩ := Option.bind_eq_some_iff.1 text
        simp [unreported known here id text]
      rw [selectedCourse, unnamed, Option.getD_none]

/-! ## Every key of the data -/

def IsSetAnew (laundry : Laundry) (key : String) : Prop :=
  key ≠ "" ∧ key ∈ [laundry.courseFields.course, laundry.courseFields.smartCourse, "courseType"]

instance (laundry : Laundry) (key : String) : Decidable (laundry.IsSetAnew key) :=
  inferInstanceAs (Decidable (_ ∧ _))

theorem isSetAnew_iff {key : String} : laundry.IsSetAnew key ↔ key = "courseType" ∨
    laundry.courseFields.smartCourse ≠ "" ∧ key = laundry.courseFields.smartCourse ∨
    laundry.courseFields.course ≠ "" ∧ key = laundry.courseFields.course := by
  constructor
  · rintro ⟨named, member⟩
    simp only [List.mem_cons, List.not_mem_nil, or_false] at member
    rcases member with rfl | rfl | rfl
    · exact .inr (.inr ⟨named, rfl⟩)
    · exact .inr (.inl ⟨named, rfl⟩)
    · exact .inl rfl
  · rintro (rfl | ⟨named, rfl⟩ | ⟨named, rfl⟩)
    · exact ⟨by decide, by simp⟩
    · exact ⟨named, by simp⟩
    · exact ⟨named, by simp⟩

def DeclaresStart (document : Document) (declared : Fields Document) : Prop :=
  ∃ control members : Fields Document, document.member? "ControlWifi" = some (.object control) ∧
    (control.filter (·.2.isObject)).lookup "WMStart" = some (.object members) ∧
    Command.Declares (members.orNull "data") declared

def lastReported (status : Option Status) : Fields Document := (status.map Status.reported).getD []

/-- What a start sends for declared data after a status, key by key. Of two fields of one name the
later one in the order course, smart course, kind counts. -/
structure Starts (laundry : Laundry) (declared : Fields Document) (status : Option Status)
    (data : Fields Document) : Prop where
  keys : ∀ key, key ∈ data.keys ↔ laundry.IsSetAnew key ∨
    key ∈ declared.keys ∧ key ∉ ["course", "SmartCourse", "doorLock", "childLock"]
  kept : ∀ key default, key ∈ data.keys → ¬ laundry.IsSetAnew key →
    declared.lookup key = some default →
    data.lookup key = some (((lastReported status).lookup key).getD default)
  course : laundry.courseFields.course ∉ ["", laundry.courseFields.smartCourse, "courseType"] →
    ∃ id, SelectsCourse laundry status id ∧
      data.lookup laundry.courseFields.course = some (.text id)
  smartCourse : laundry.courseFields.smartCourse ∉ ["", "courseType"] →
    (∀ id, SelectsSmart laundry status id →
      data.lookup laundry.courseFields.smartCourse = some (.text id)) ∧
    ((∀ id, ¬ SelectsSmart laundry status id) →
      data.lookup laundry.courseFields.smartCourse = some (.text laundry.notSelected))
  kind : ∃ kind : CourseKind, data.lookup "courseType" = some (.text kind.name)
  locks : ∀ key ∈ ["doorLock", "childLock"], key ∈ data.keys →
    key = laundry.courseFields.course ∨ key = laundry.courseFields.smartCourse

theorem lookup_putNamed (data : Fields Document) (name value key : String) :
    (putNamed data name value).lookup key =
      if name ≠ "" ∧ key = name then some (.text value) else data.lookup key := by
  unfold putNamed
  split
  · next unnamed => simp [unnamed]
  · next named => simp [named, Fields.lookup_put]

theorem lookup_reportedData (command : Command) (status : Option Status) (key : String) :
    (reportedData command status).lookup key = (command.data.lookup key).map
      fun default => ((lastReported status).lookup key).getD default :=
  Fields.lookup_map (fun name default => ((lastReported status).lookup name).getD default) _ key

def sentAt (laundry : Laundry) (command : Command) (status : Option Status) (key : String) :
    Option Document :=
  if key = "courseType" then some (.text (laundry.selectedKind status).name)
  else if laundry.courseFields.smartCourse ≠ "" ∧ key = laundry.courseFields.smartCourse then
    some (.text ((laundry.selectedSmartCourse? status).getD laundry.notSelected))
  else if laundry.courseFields.course ≠ "" ∧ key = laundry.courseFields.course then
    some (.text (laundry.selectedCourse status))
  else (reportedData command status).lookup key

theorem declaredCommand_eq_ok {name : String} {command : Command}
    (declares : laundry.command? name = some command) : laundry.declaredCommand name = .ok command := by
  rw [declaredCommand, declares]

theorem exists_startData {command : Command}
    (declares : laundry.command? laundry.commandNames.remoteStart = some command)
    (status : Option Status) :
    ∃ data, laundry.startData status = .ok data ∧
      ∀ key, data.lookup key = laundry.sentAt command status key := by
  refine ⟨_, by rw [startData, declaredCommand_eq_ok declares]; rfl, fun key => ?_⟩
  rw [Fields.lookup_put, lookup_putNamed, lookup_putNamed, sentAt]

section

variable {command : Command} {declared : Fields Document} {key : String}

theorem isSome_sentAt (setAnew : laundry.IsSetAnew key) :
    (laundry.sentAt command status key).isSome := by
  unfold sentAt
  split_ifs with isKind isSmart isCourse
  · rfl
  · rfl
  · rfl
  · rcases isSetAnew_iff.1 setAnew with same | same | same
    · exact absurd same isKind
    · exact absurd same isSmart
    · exact absurd same isCourse

theorem sentAt_eq_reported (notAnew : ¬ laundry.IsSetAnew key) :
    laundry.sentAt command status key = (reportedData command status).lookup key := by
  rw [isSetAnew_iff, not_or, not_or] at notAnew
  obtain ⟨notKind, notSmart, notCourse⟩ := notAnew
  rw [sentAt, if_neg notKind, if_neg notSmart, if_neg notCourse]

def Keeps (laundry : Laundry) (command : Command) (declared : Fields Document) : Prop :=
  ∀ key, ¬ laundry.IsSetAnew key →
    command.data.lookup key = if key ∈ escapedKeys then none else declared.lookup key

variable (keeps : laundry.Keeps command declared)

include keeps

theorem sentAt_of_not_isSetAnew (notAnew : ¬ laundry.IsSetAnew key) :
    laundry.sentAt command status key = if key ∈ escapedKeys then none else
      (declared.lookup key).map fun default => ((lastReported status).lookup key).getD default := by
  rw [sentAt_eq_reported notAnew, lookup_reportedData, keeps key notAnew]
  split_ifs <;> rfl

theorem isSome_sentAt_iff : (laundry.sentAt command status key).isSome ↔
    laundry.IsSetAnew key ∨ key ∈ declared.keys ∧ key ∉ escapedKeys := by
  by_cases setAnew : laundry.IsSetAnew key
  · exact iff_of_true (isSome_sentAt setAnew) (.inl setAnew)
  · rw [sentAt_of_not_isSetAnew keeps setAnew, Fields.mem_keys_iff]
    by_cases escaped : key ∈ escapedKeys <;> simp [setAnew, escaped]

theorem starts_of_lookup {data : Fields Document}
    (found : ∀ key, data.lookup key = laundry.sentAt command status key) :
    laundry.Starts declared status data := by
  have keys (key : String) : key ∈ data.keys ↔ laundry.IsSetAnew key ∨
      key ∈ declared.keys ∧ key ∉ escapedKeys := by
    rw [Fields.mem_keys_iff, found, isSome_sentAt_iff keeps]
  constructor
  case keys => exact keys
  case kept =>
    intro key default here notAnew declaredAs
    have unescaped := ((keys key).1 here).resolve_left notAnew
    rw [found, sentAt_of_not_isSetAnew keeps notAnew, if_neg unescaped.2, declaredAs,
      Option.map_some]
  case course =>
    intro apart
    simp only [List.mem_cons, List.not_mem_nil, or_false, not_or] at apart
    obtain ⟨named, notSmart, notKind⟩ := apart
    refine ⟨_, selectedCourse_eq_iff.1 rfl, ?_⟩
    rw [found, sentAt, if_neg notKind, if_neg fun same => notSmart same.2, if_pos ⟨named, rfl⟩]
  case smartCourse =>
    intro apart
    simp only [List.mem_cons, List.not_mem_nil, or_false, not_or] at apart
    obtain ⟨named, notKind⟩ := apart
    rw [found, sentAt, if_neg notKind, if_pos ⟨named, rfl⟩]
    refine ⟨fun id selects => ?_, fun unselected => ?_⟩
    · rw [selectedSmartCourse?_eq_some_iff.2 selects, Option.getD_some]
    · rw [selectedSmartCourse?_eq_none_iff.2 unselected, Option.getD_none]
  case kind => exact ⟨_, by rw [found, sentAt, if_pos rfl]⟩
  case locks =>
    intro key lock here
    -- The locks are escaped, so a lock can only be among the data as the name of a field that is set anew.
    rcases (keys key).1 here with ⟨-, member⟩ | ⟨-, unescaped⟩
    · simp only [List.mem_cons, List.not_mem_nil, or_false] at member lock
      rcases member with course | smart | rfl
      · exact .inl course
      · exact .inr smart
      · exact absurd lock (by decide)
    · exact absurd (List.mem_of_mem_drop (i := 2) lock) unescaped

end

theorem keeps_ofDeclaration {members declared : Fields Document}
    (inner : Command.innerData ((Fields.orNull members "data").object?.getD []) = declared) :
    laundry.Keeps (.ofDeclaration escapedKeys
      [laundry.courseFields.course, laundry.courseFields.smartCourse, "courseType"] members)
      declared :=
  fun _ notAnew => Command.lookup_dataOf inner notAnew

/-- Starting a washer or a dryer of the second generation sends exactly the declared data that are not
escaped, as reported or as declared, with the selection set anew. -/
theorem startData_starts {document : Document} {requested : Option Family} {laundry : Laundry}
    {command : Command} (read : Capability.ofDocument document requested = .ok (.laundry laundry))
    (second : laundry.header.generation = .second)
    (declares : laundry.command? laundry.commandNames.remoteStart = some command) :
    ∃ declared, DeclaresStart document declared ∧ ∀ status, ∃ data,
      laundry.startData status = .ok data ∧ laundry.Starts declared status data := by
  obtain ⟨members, rfl, readFrom⟩ := Capability.exists_readFrom read
  have found := declares
  rw [command?, readFrom.commands, readFrom.commandNames, second] at found
  obtain ⟨control, declaration, isObject, named, rfl⟩ :=
    Command.exists_of_lookup_ofSecondControl found
  obtain ⟨declared, carried, inner⟩ :=
    Command.exists_declares (Fields.orNull declaration "data")
  refine ⟨declared, ⟨control, declaration, ?_, named, carried⟩, fun status => ?_⟩
  · cases here : members.lookup "ControlWifi" with
    | none =>
      rw [Fields.orNull_of_none here] at isObject
      cases isObject
    | some value =>
      rw [Fields.orNull_of_lookup here] at isObject
      rw [← isObject]
      exact here
  · obtain ⟨data, started, found⟩ := exists_startData declares status
    exact ⟨data, started, starts_of_lookup (keeps_ofDeclaration inner) found⟩

def collidingDocument : Document :=
  .object [
    ("Info", .object [("productType", .text "WM")]),
    ("Config", .object [("courseType", .text "doorLock"), ("smartCourseType", .text "temp"),
      ("defaultCourse", .text "COTTON")]),
    ("MonitoringValue", .object []),
    ("Course", .object [("COTTON", .object [])]),
    ("SmartCourse", .object [("WOOL", .object [])]),
    ("ControlWifi", .object [("WMStart", .object [("data", .object [("washerDryer", .object
      [("childLock", .text "ON"), ("doorLock", .text "ON"), ("temp", .text "COLD"),
       ("spin", .text "SLOW"), ("rinse", .text "ONCE")])])])])]

def collidingStatus : Status where
  family := .washer
  readings := [(.smartCourse, .text "WOOL")]
  reported := [("childLock", .text "OFF"), ("spin", .text "FAST"), ("error", .text "NONE")]

theorem startData_starts_colliding : ∃ laundry command,
    Capability.ofDocument collidingDocument none = .ok (.laundry laundry) ∧
    laundry.header.generation = .second ∧
    laundry.command? laundry.commandNames.remoteStart = some command ∧
    ∃ data, laundry.startData (some collidingStatus) = .ok data ∧
      data.lookup "doorLock" = some (.text "COTTON") ∧ data.lookup "temp" = some (.text "WOOL") ∧
      data.lookup "spin" = some (.text "FAST") ∧ data.lookup "rinse" = some (.text "ONCE") ∧
      "childLock" ∉ data.keys ∧ "error" ∉ data.keys := by
  refine ⟨_, _, rfl, rfl, rfl, ?_⟩
  obtain ⟨declared, ⟨control, members, isControl, named, carried⟩, starts⟩ :=
    @startData_starts collidingDocument none _ _ rfl rfl rfl
  cases isControl
  cases named
  cases carried with
  | plain plain => exact absurd rfl (plain _ _ _)
  | nothing none => cases none
  | inside =>
    obtain ⟨data, started, sent⟩ := starts (some collidingStatus)
    obtain ⟨id, selects, course⟩ := sent.course (by decide +kernel)
    cases selectedCourse_eq_iff.2 selects
    have smart := (sent.smartCourse (by decide +kernel)).1 "WOOL"
      ⟨⟨_, rfl, rfl⟩, nofun, by decide +kernel⟩
    have spin : "spin" ∈ data.keys := (sent.keys _).2 (.inr (by decide +kernel))
    have rinse : "rinse" ∈ data.keys := (sent.keys _).2 (.inr (by decide +kernel))
    refine ⟨data, started, course, smart, sent.kept _ _ spin (by decide +kernel) rfl,
      sent.kept _ _ rinse (by decide +kernel) rfl, ?_, ?_⟩
    · rw [sent.keys]
      decide +kernel
    · rw [sent.keys]
      decide +kernel

/-! ## The kind of the selection -/

/-- The lists of courses cross at the selection: a selected smart course is also listed as a course,
or the selected course is listed as a smart course only. -/
inductive Crosses (laundry : Laundry) (status : Option Status) : Prop where
  | smartCourse {id : String} (selects : SelectsSmart laundry status id)
      (listed : id ∈ laundry.courses.keys)
  | course {id : String} (unselected : ∀ id, ¬ SelectsSmart laundry status id)
      (selects : SelectsCourse laundry status id) (unlisted : id ∉ laundry.courses.keys)
      (listed : id ∈ laundry.smartCourses.keys)

theorem selectedKind_eq : laundry.selectedKind status =
    ((laundry.course? ((laundry.selectedSmartCourse? status).getD
      (laundry.selectedCourse status))).map Course.kind).getD
        (if (laundry.selectedSmartCourse? status).isSome then .smartCourse else .course) := by
  unfold selectedKind
  dsimp only
  split
  · next course found => rw [found]; rfl
  · next unknown => rw [unknown]; rfl

section

variable {document : Fields Document} (readFrom : laundry.ReadFrom document)

include readFrom

theorem kind_of_mem_courses {id : String} (listed : id ∈ laundry.courses.keys) :
    (laundry.course? id).map Course.kind = some .course := by
  obtain ⟨course, found⟩ := Option.isSome_iff_exists.1 (Fields.mem_keys_iff.1 listed)
  rw [course?, found, Option.some_or, Option.map_some, readFrom.courses id course found]

theorem kind_of_not_mem_courses {id : String} (unlisted : id ∉ laundry.courses.keys) :
    (laundry.course? id).map Course.kind =
      if id ∈ laundry.smartCourses.keys then some .smartCourse else none := by
  have unknown : laundry.courses.lookup id = none := by
    rwa [Fields.mem_keys_iff, Bool.not_eq_true, Option.isSome_eq_false_iff,
      Option.isNone_iff_eq_none] at unlisted
  rw [course?, unknown, Option.none_or]
  cases found : laundry.smartCourses.lookup id with
  | none => simp [Fields.mem_keys_iff, found]
  | some course => simp [Fields.mem_keys_iff, found, readFrom.smartCourses id course found]

theorem kind_eq_smartCourse_iff {id : String} (unlisted : CourseKind) :
    ((laundry.course? id).map Course.kind).getD unlisted = .smartCourse ↔
      id ∉ laundry.courses.keys ∧ (id ∈ laundry.smartCourses.keys ∨ unlisted = .smartCourse) := by
  by_cases listed : id ∈ laundry.courses.keys
  · simp [kind_of_mem_courses readFrom listed, listed]
  · rw [kind_of_not_mem_courses readFrom listed]
    by_cases smart : id ∈ laundry.smartCourses.keys <;> simp [smart, listed]

theorem selectedKind_of_selects {id : String} (selects : SelectsSmart laundry status id) :
    laundry.selectedKind status = .smartCourse ↔ id ∉ laundry.courses.keys := by
  rw [selectedKind_eq, selectedSmartCourse?_eq_some_iff.2 selects, Option.getD_some,
    kind_eq_smartCourse_iff readFrom]
  simp

theorem selectedKind_of_unselected (unselected : ∀ id, ¬ SelectsSmart laundry status id) {id : String}
    (selects : SelectsCourse laundry status id) : laundry.selectedKind status = .smartCourse ↔
      id ∉ laundry.courses.keys ∧ id ∈ laundry.smartCourses.keys := by
  rw [selectedKind_eq, selectedSmartCourse?_eq_none_iff.2 unselected, Option.getD_none,
    selectedCourse_eq_iff.2 selects, kind_eq_smartCourse_iff readFrom]
  simp

theorem selectedKind_iff_not_crosses :
    (laundry.selectedKind status = .smartCourse ↔ ∃ id, SelectsSmart laundry status id) ↔
      ¬ laundry.Crosses status := by
  by_cases selected : ∃ id, SelectsSmart laundry status id
  · rw [iff_true_right selected]
    obtain ⟨id, selects⟩ := selected
    rw [selectedKind_of_selects readFrom selects, not_iff_not]
    constructor
    · exact fun listed => .smartCourse selects listed
    · rintro (⟨other, listed⟩ | ⟨unselected, -, -, -⟩)
      · exact selects.unique other ▸ listed
      · exact absurd selects (unselected id)
  · have unselected := not_exists.1 selected
    have selects : SelectsCourse laundry status (laundry.selectedCourse status) :=
      selectedCourse_eq_iff.1 rfl
    rw [selectedKind_of_unselected readFrom unselected selects, iff_false_right selected, not_iff_not]
    constructor
    · exact fun ⟨unlisted, listed⟩ => .course unselected selects unlisted listed
    · rintro (⟨other, -⟩ | ⟨-, other, unlisted, listed⟩)
      · exact absurd other (unselected _)
      · rw [selectedCourse_eq_iff.2 other]
        exact ⟨unlisted, listed⟩

end

/-- The kind that a start sends is that of the selection, smart course or course, unless the lists of
courses cross there. -/
theorem startData_kind {document : Document} {requested : Option Family} {laundry : Laundry}
    {command : Command} (read : Capability.ofDocument document requested = .ok (.laundry laundry))
    (declares : laundry.command? laundry.commandNames.remoteStart = some command)
    (status : Option Status) :
    ∃ data kind, laundry.startData status = .ok data ∧
      data.lookup "courseType" = some (.text (CourseKind.name kind)) ∧
      ((kind = .smartCourse ↔ ∃ id, SelectsSmart laundry status id) ↔ ¬ laundry.Crosses status) := by
  obtain ⟨_, -, readFrom⟩ := Capability.exists_readFrom read
  obtain ⟨data, started, found⟩ := exists_startData declares status
  refine ⟨data, laundry.selectedKind status, started, ?_, selectedKind_iff_not_crosses readFrom⟩
  rw [found, sentAt, if_pos rfl]

def crossingDocument : Document :=
  .object [
    ("Info", .object [("productType", .text "WM")]),
    ("MonitoringValue", .object []),
    ("Course", .object [("WOOL", .object [])]),
    ("SmartCourse", .object [("WOOL", .object []), ("SILK", .object [])]),
    ("ControlWifi", .object [("WMStart", .object [])])]

def smartStatus (course : String) : Status where
  family := .washer
  readings := [(.smartCourse, .text course)]

theorem exists_crossing : ∃ laundry command,
    Capability.ofDocument crossingDocument none = .ok (.laundry laundry) ∧
    laundry.command? laundry.commandNames.remoteStart = some command ∧
    laundry.notSelected = "NOT_SELECTED" ∧
    "WOOL" ∈ laundry.courses.keys ∧ "SILK" ∉ laundry.courses.keys :=
  ⟨_, _, rfl, rfl, rfl, by decide +kernel, by decide +kernel⟩

theorem startData_kind_crossing : ∃ laundry command,
    Capability.ofDocument crossingDocument none = .ok (.laundry laundry) ∧
    laundry.command? laundry.commandNames.remoteStart = some command ∧
    ∃ data, laundry.startData (some (smartStatus "SILK")) = .ok data ∧
      data.lookup "courseType" = some (.text "SmartCourse") := by
  obtain ⟨laundry, command, read, declares, notSelected, -, unlisted⟩ := exists_crossing
  refine ⟨laundry, command, read, declares, ?_⟩
  obtain ⟨data, kind, started, sent, agrees⟩ :=
    startData_kind read declares (some (smartStatus "SILK"))
  have selects : SelectsSmart laundry (some (smartStatus "SILK")) "SILK" :=
    ⟨⟨_, rfl, rfl⟩, nofun, by simp [notSelected]⟩
  have apart : ¬ Crosses laundry (some (smartStatus "SILK")) := by
    rintro (⟨other, listed⟩ | ⟨unselected, -, -, -⟩)
    · exact unlisted (selects.unique other ▸ listed)
    · exact unselected _ selects
  cases (agrees.2 apart).2 ⟨_, selects⟩
  exact ⟨data, started, sent⟩

theorem not_kind_of_crossing : ∃ laundry command,
    Capability.ofDocument crossingDocument none = .ok (.laundry laundry) ∧
    laundry.command? laundry.commandNames.remoteStart = some command ∧
    SelectsSmart laundry (some (smartStatus "WOOL")) "WOOL" ∧
    ∃ data, laundry.startData (some (smartStatus "WOOL")) = .ok data ∧
      data.lookup "courseType" = some (.text "Course") := by
  obtain ⟨laundry, command, read, declares, notSelected, listed, -⟩ := exists_crossing
  have selects : SelectsSmart laundry (some (smartStatus "WOOL")) "WOOL" :=
    ⟨⟨_, rfl, rfl⟩, nofun, by simp [notSelected]⟩
  obtain ⟨_, -, readFrom⟩ := Capability.exists_readFrom read
  have notSmart : laundry.selectedKind (some (smartStatus "WOOL")) ≠ .smartCourse := fun smart =>
    (selectedKind_of_selects readFrom selects).1 smart listed
  refine ⟨laundry, command, read, declares, selects, ?_⟩
  obtain ⟨data, started, found⟩ := exists_startData declares (some (smartStatus "WOOL"))
  refine ⟨data, started, ?_⟩
  rw [found, sentAt, if_pos rfl]
  cases kind : laundry.selectedKind (some (smartStatus "WOOL")) with
  | course => rfl
  | smartCourse => exact absurd kind notSmart

end Laundry

end ApplianceCloud
