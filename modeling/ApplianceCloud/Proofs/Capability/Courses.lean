import ApplianceCloud.Proofs.Capability.Laundry

namespace ApplianceCloud

namespace Course

def declaredIn (entries : Fields Document) : Fields (Fields Document) :=
  entries.filterMap fun entry => entry.2.object?.map (entry.1, ·)

def lastDeclared? (entries : Fields Document) (id : String) : Option (Fields Document) :=
  (declaredIn entries).reverse.lookup id

/-- The courses of some entries behind the one for "none selected". Of entries with the same id the
first makes the place and the last one the course. -/
structure Lists (kind : CourseKind) (notSelected : String) (entries : Fields Document)
    (courses : Fields Course) : Prop where
  keys : courses.keys =
    notSelected :: ((declaredIn entries).keys.filter (· ≠ notSelected)).eraseDups
  declared : ∀ id members, lastDeclared? entries id = some members →
    ∃ course, ofEntry kind id members = .ok course ∧ courses.lookup id = some course
  undeclared : lastDeclared? entries notSelected = none →
    courses.lookup notSelected = some { name := "Not Selected", kind }

def IsNone (course : Course) : Prop := course.name = "Not Selected" ∧ course.functions = []

def Displaces (kind : CourseKind) (notSelected : String) (entries : Fields Document) : Prop :=
  ∃ members course, lastDeclared? entries notSelected = some members ∧
    ofEntry kind notSelected members = .ok course ∧ ¬ course.IsNone

variable {kind : CourseKind} {notSelected id : String} {entries : Fields Document}
  {courses all : Fields Course}

theorem addEntries_cons_ok {members : Fields Document}
    (added : addEntries kind courses ((id, .object members) :: entries) = .ok all) :
    ∃ course, ofEntry kind id members = .ok course ∧
      addEntries kind (courses.put id course) entries = .ok all :=
  bind_eq_ok_iff.1 added

theorem keys_addEntries (added : addEntries kind courses entries = .ok all) : all.keys =
    courses.keys ++ ((declaredIn entries).keys.filter (· ∉ courses.keys)).eraseDups := by
  induction entries generalizing courses with
  | nil =>
    cases added
    exact (List.append_nil _).symm
  | cons entry rest ih =>
    obtain ⟨id, entry⟩ := entry
    cases entry with
    | object members =>
      obtain ⟨course, -, added⟩ := addEntries_cons_ok added
      have declared : (declaredIn ((id, .object members) :: rest)).keys =
          id :: (declaredIn rest).keys := rfl
      rw [ih added, declared, Fields.keys_put]
      by_cases present : id ∈ courses.keys
      · rw [if_pos present, List.filter_cons_of_neg (by simpa using present)]
      · have later : (fun name => decide (name ∉ courses.keys ++ [id])) =
            fun name => (!(name == id)) && decide (name ∉ courses.keys) := by
          funext name
          by_cases same : name = id <;> simp [same]
        rw [if_neg present, List.filter_cons_of_pos (by simpa using present), List.eraseDups_cons,
          List.filter_filter, List.append_assoc, List.singleton_append, later]
    | _ => exact ih added

theorem lastDeclared?_cons (id other : String) (members : Fields Document) :
    lastDeclared? ((other, .object members) :: entries) id =
      (lastDeclared? entries id).or (if id = other then some members else none) := by
  have reversed : (declaredIn ((other, .object members) :: entries)).reverse =
      (declaredIn entries).reverse ++ [(other, members)] := List.reverse_cons
  rw [lastDeclared?, reversed, List.lookup_append]
  by_cases same : id = other
  · simp [same, lastDeclared?]
  · simp [same, lastDeclared?, List.lookup_cons, beq_eq_false_iff_ne.2 same]

theorem lookup_addEntries (added : addEntries kind courses entries = .ok all) :
    (lastDeclared? entries id = none → all.lookup id = courses.lookup id) ∧
    ∀ members, lastDeclared? entries id = some members →
      ∃ course, ofEntry kind id members = .ok course ∧ all.lookup id = some course := by
  induction entries generalizing courses with
  | nil =>
    cases added
    exact ⟨fun _ => rfl, nofun⟩
  | cons entry rest ih =>
    obtain ⟨other, entry⟩ := entry
    cases entry with
    | object members =>
      obtain ⟨course, made, added⟩ := addEntries_cons_ok added
      obtain ⟨undeclared, declared⟩ := ih added
      rw [lastDeclared?_cons]
      cases found : lastDeclared? rest id with
      | some members' => simpa using declared members' found
      | none =>
        rw [undeclared found, Fields.lookup_put, Option.none_or]
        by_cases same : id = other
        · subst same
          simp [made]
        · simp [same]
    | _ => exact ih added

theorem lists_ofNode {node : Document} (read : ofNode kind notSelected node = .ok courses) :
    Lists kind notSelected (node.object?.getD []) courses := by
  constructor
  case keys => simpa [Fields.keys] using keys_addEntries read
  case declared => exact fun id => (lookup_addEntries read).2
  case undeclared =>
    intro undeclared
    rw [(lookup_addEntries read).1 undeclared, List.lookup_cons_self]
    rfl

theorem Lists.isNone_iff (lists : Lists kind notSelected entries courses) :
    (∃ course, courses.lookup notSelected = some course ∧ course.IsNone) ↔
      ¬ Displaces kind notSelected entries := by
  cases declared : lastDeclared? entries notSelected with
  | none =>
    refine iff_of_true ⟨_, lists.undeclared declared, rfl, rfl⟩ ?_
    rintro ⟨members, course, found, -, -⟩
    cases declared.symm.trans found
  | some members =>
    obtain ⟨course, made, listed⟩ := lists.declared _ members declared
    constructor
    · rintro ⟨other, found, isNone⟩ ⟨_, _, again, made', displaced⟩
      cases declared.symm.trans again
      cases made.symm.trans made'
      cases listed.symm.trans found
      exact displaced isNone
    · intro kept
      refine ⟨course, listed, ?_⟩
      by_contra displaced
      exact kept ⟨members, course, declared, made, displaced⟩

end Course

namespace Laundry

/-- Which node has the courses of a field: the first generation lists it among the options of the field,
the second one refers to it. A field without either stands for the node of its kind. -/
inductive NamesNode (readings : Fields Document) (field : String) (kind : CourseKind) :
    Generation → String → Prop where
  | listed {first : Document} {others : List Document}
      (listed : (readings.orNull field).member? "option" = some (.list (first :: others))) :
      NamesNode readings field kind .first first.display
  | unlisted (unlisted : ∀ first others,
      (readings.orNull field).member? "option" ≠ some (.list (first :: others))) :
      NamesNode readings field kind .first kind.name
  | referred {reference : Document}
      (referred : (readings.orNull field).member? "ref" = some reference)
      (said : reference.isTruthy = true) : NamesNode readings field kind .second reference.display
  | unreferred (unreferred : ∀ reference, (readings.orNull field).member? "ref" = some reference →
      reference.isTruthy = false) : NamesNode readings field kind .second kind.name

def coursesOf (laundry : Laundry) : CourseKind → Fields Course
  | .course => laundry.courses
  | .smartCourse => laundry.smartCourses

def fieldOf (fields : CourseFieldNames) : CourseKind → String
  | .course => fields.course
  | .smartCourse => fields.smartCourse

def CourseNodes.nodeOf (nodes : CourseNodes) : CourseKind → String
  | .course => nodes.courses
  | .smartCourse => nodes.smartCourses

def Holds (laundry : Laundry) (document : Document) (kind : CourseKind) (entries : Fields Document) :
    Prop :=
  ∃ (members readings : Fields Document) (node : String), document = .object members ∧
    members.lookup (Detection.readingsKey laundry.header.generation) = some (.object readings) ∧
    NamesNode readings (fieldOf laundry.courseFields kind) kind laundry.header.generation node ∧
    entries = (members.orNull node).object?.getD []

theorem namesNode_listedNode (readings : Fields Document) (field : String) (kind : CourseKind) :
    NamesNode readings field kind .first (listedNode readings field kind) := by
  unfold listedNode
  split
  · next listed => exact .listed listed
  · next unlisted => exact .unlisted fun first others => unlisted first others

theorem namesNode_referredNode (readings : Fields Document) (field : String) (kind : CourseKind) :
    NamesNode readings field kind .second (referredNode readings field kind) := by
  unfold referredNode
  cases referred : (readings.orNull field).member? "ref" with
  | none => exact .unreferred fun reference found => by simp [referred] at found
  | some reference =>
    cases said : reference.isTruthy with
    | true => simpa [said] using NamesNode.referred referred said
    | false =>
      have silent : NamesNode readings field kind .second kind.name := by
        refine .unreferred fun other found => ?_
        cases referred.symm.trans found
        exact said
      simpa [said] using silent

theorem namesNode_courseNodes (generation : Generation) (document readings : Fields Document)
    (kind : CourseKind) : let nodes := courseNodes generation document readings
    NamesNode readings (fieldOf nodes.fields kind) kind generation (nodes.nodeOf kind) := by
  cases generation with
  | first => cases kind <;> exact namesNode_listedNode readings _ _
  | second => cases kind <;> exact namesNode_referredNode readings _ _

theorem ReadAt.holds {document readings : Fields Document} {family : Family}
    {generation : Generation} {laundry : Laundry}
    (readAt : laundry.ReadAt document readings family generation) (kind : CourseKind) :
    ∃ entries, laundry.Holds (.object document) kind entries ∧
      Course.Lists kind laundry.notSelected entries (laundry.coursesOf kind) := by
  obtain ⟨-, rfl⟩ := readAt.header
  have found : (document.orNull (Detection.readingsKey laundry.header.generation)).object? =
      some readings := by
    rw [← readAt.found]
    cases laundry.header.generation <;> rfl
  have named := namesNode_courseNodes laundry.header.generation document readings kind
  dsimp only at named
  rw [← readAt.courseFields] at named
  refine ⟨_, ⟨document, readings, _, rfl, Fields.lookup_of_object?_orNull found, named, rfl⟩, ?_⟩
  cases kind with
  | course => exact Course.lists_ofNode readAt.courses
  | smartCourse => exact Course.lists_ofNode readAt.smartCourses

theorem exists_holds {document : Document} {requested : Option Family} {laundry : Laundry}
    (read : Capability.ofDocument document requested = .ok (.laundry laundry)) (kind : CourseKind) :
    ∃ entries, laundry.Holds document kind entries ∧
      Course.Lists kind laundry.notSelected entries (laundry.coursesOf kind) := by
  obtain ⟨members, family, isObject, read⟩ := Capability.ofFamily_of_ofDocument read
  obtain ⟨-, generation, read⟩ := Capability.laundry_of_ofFamily read
  obtain ⟨readings, readAt⟩ := exists_readAt read
  rw [isObject]
  exact readAt.holds kind

/-- Each list of courses holds the declared ones behind the entry for "none selected", which is there
unless it is displaced. -/
theorem courses_listed {document : Document} {requested : Option Family} {laundry : Laundry}
    (read : Capability.ofDocument document requested = .ok (.laundry laundry)) (kind : CourseKind) :
    ∃ entries, laundry.Holds document kind entries ∧
      Course.Lists kind laundry.notSelected entries (laundry.coursesOf kind) ∧
      ((∃ course, (laundry.coursesOf kind).lookup laundry.notSelected = some course ∧
        course.IsNone) ↔ ¬ Course.Displaces kind laundry.notSelected entries) := by
  obtain ⟨entries, holds, lists⟩ := exists_holds read kind
  exact ⟨entries, holds, lists, lists.isNone_iff⟩

def numberedDocument : Document :=
  .object [
    ("Info", .object [("productType", .text "WM")]),
    ("Value", .object [("Course", .object [("option", .list [.text "Programs"])])]),
    ("Programs", .object [("2", .object [("_comment", .text "Rinse")]), ("version", .int 3),
      ("0", .object [("_comment", .text "Cotton")])]),
    ("SmartCourse", .object [("5", .object [("_comment", .text "Wool")])])]

theorem exists_numbered : ∃ laundry,
    Capability.ofDocument numberedDocument none = .ok (.laundry laundry) ∧
    laundry.header.generation = .first ∧ laundry.courseFields.course = "Course" ∧
    laundry.courseFields.smartCourse = "SmartCourse" ∧ laundry.notSelected = "0" :=
  ⟨_, rfl, rfl, rfl, rfl, rfl⟩

theorem courses_listed_numbered : ∃ laundry,
    Capability.ofDocument numberedDocument none = .ok (.laundry laundry) ∧
    laundry.smartCourses.keys = ["0", "5"] ∧
    ∃ course, laundry.smartCourses.lookup "0" = some course ∧ course.IsNone := by
  obtain ⟨laundry, read, generation, -, field, notSelected⟩ := exists_numbered
  obtain ⟨entries, ⟨members, readings, node, isObject, found, names, rfl⟩, lists, kept⟩ :=
    courses_listed read .smartCourse
  rw [generation] at found names
  rw [notSelected] at lists kept
  cases isObject
  cases found
  rw [fieldOf, field] at names
  cases names with
  | listed listed => cases listed
  | unlisted =>
    refine ⟨laundry, read, lists.keys, kept.2 ?_⟩
    rintro ⟨members, course, declared, -, -⟩
    cases declared

theorem not_none_of_numbered : ∃ laundry,
    Capability.ofDocument numberedDocument none = .ok (.laundry laundry) ∧
    laundry.notSelected = "0" ∧ laundry.courses.keys = ["0", "2"] ∧
    ∃ course, laundry.courses.lookup "0" = some course ∧ course.name = "Cotton" :=
  ⟨_, rfl, rfl, rfl, _, rfl, rfl⟩

end Laundry

end ApplianceCloud
