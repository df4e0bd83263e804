import ApplianceCloud.Capability.Document
import ApplianceCloud.Proofs.Outcome

namespace ApplianceCloud

namespace Course

variable {kind : CourseKind} {courses : Fields Course}

def AreOf (kind : CourseKind) (courses : Fields Course) : Prop :=
  ∀ id course, courses.lookup id = some course → course.kind = kind

theorem kind_of_ofEntry {id : String} {members : Fields Document} {course : Course}
    (read : ofEntry kind id members = .ok course) : course.kind = kind := by
  obtain ⟨items, -, read⟩ := bind_eq_ok_iff.1 read
  obtain ⟨functions, -, read⟩ := bind_eq_ok_iff.1 read
  cases pure_eq_ok_iff.1 read
  rfl

theorem AreOf.put (areOf : AreOf kind courses) {course : Course} (isOf : course.kind = kind)
    (id : String) : AreOf kind (courses.put id course) := by
  intro other found known
  rw [Fields.lookup_put] at known
  split_ifs at known
  · cases known
    exact isOf
  · exact areOf other found known

theorem AreOf.addEntries (areOf : AreOf kind courses) {entries : Fields Document}
    {all : Fields Course} (added : addEntries kind courses entries = .ok all) : AreOf kind all := by
  induction entries generalizing courses with
  | nil =>
    cases added
    exact areOf
  | cons entry rest ih =>
    obtain ⟨id, entry⟩ := entry
    cases entry with
    | object members =>
      obtain ⟨course, made, added⟩ := bind_eq_ok_iff.1 added
      exact ih (areOf.put (kind_of_ofEntry made) id) added
    | _ => exact ih areOf added

theorem areOf_ofNode {notSelected : String} {node : Document}
    (read : ofNode kind notSelected node = .ok courses) : AreOf kind courses := by
  have start : AreOf kind [(notSelected, { name := notSelectedName, kind })] := by
    intro id course known
    cases Fields.mem_of_lookup known with
    | head => rfl
    | tail _ none => cases none
  exact start.addEntries read

end Course

namespace Laundry

structure ReadFrom (document : Fields Document) (laundry : Laundry) : Prop where
  commands : laundry.commands = commandsOf laundry.header.generation laundry.courseFields
    (document.orNull "ControlWifi")
  commandNames : laundry.commandNames = (nodeNames laundry.header.generation).commands
  courses : Course.AreOf .course laundry.courses
  smartCourses : Course.AreOf .smartCourse laundry.smartCourses
  features : ∃ readings,
    laundry.features = featuresOf (nodeNames laundry.header.generation) document readings

structure ReadAt (document readings : Fields Document) (family : Family) (generation : Generation)
    (laundry : Laundry) : Prop where
  found : (document.orNull (nodeNames generation).readings).object? = some readings
  header : laundry.header.family = family ∧ laundry.header.generation = generation
  courseFields : laundry.courseFields = (courseNodes generation document readings).fields
  courses : Course.ofNode .course laundry.notSelected
    (document.orNull (courseNodes generation document readings).courses) = .ok laundry.courses
  smartCourses : Course.ofNode .smartCourse laundry.notSelected
    (document.orNull (courseNodes generation document readings).smartCourses) =
      .ok laundry.smartCourses
  features : laundry.features = featuresOf (nodeNames generation) document readings
  commands : laundry.commands = commandsOf generation laundry.courseFields
    (document.orNull "ControlWifi")
  commandNames : laundry.commandNames = (nodeNames generation).commands

theorem exists_readAt {document : Fields Document} {family : Family} {generation : Generation}
    {laundry : Laundry} (read : ofDocument document family generation = .ok laundry) :
    ∃ readings, laundry.ReadAt document readings family generation := by
  simp only [ofDocument] at read
  split at read
  · cases read
  · next readings found =>
    split at read
    · cases read
    · obtain ⟨courses, readCourses, read⟩ := bind_eq_ok_iff.1 read
      obtain ⟨smartCourses, readSmart, read⟩ := bind_eq_ok_iff.1 read
      obtain ⟨reporting, -, read⟩ := bind_eq_ok_iff.1 read
      cases pure_eq_ok_iff.1 read
      exact ⟨readings, found, ⟨rfl, rfl⟩, rfl, readCourses, readSmart, rfl, rfl, rfl⟩

theorem ofDocument_ok {document : Fields Document} {family : Family} {generation : Generation}
    {laundry : Laundry} (read : ofDocument document family generation = .ok laundry) :
    laundry.header.family = family ∧ laundry.ReadFrom document := by
  obtain ⟨readings, readAt⟩ := exists_readAt read
  obtain ⟨isOf, rfl⟩ := readAt.header
  exact ⟨isOf, readAt.commands, readAt.commandNames, Course.areOf_ofNode readAt.courses,
    Course.areOf_ofNode readAt.smartCourses, readings, readAt.features⟩

end Laundry

namespace Capability

variable {laundry : Laundry}

theorem laundry_of_ofFamily {document : Fields Document} {family : Family}
    (read : ofFamily document family = .ok (.laundry laundry)) :
    family.isLaundry = true ∧
      ∃ generation, Laundry.ofDocument document family generation = .ok laundry := by
  obtain ⟨generation, -, read⟩ := bind_eq_ok_iff.1 read
  split at read
  · obtain ⟨unit, -, read⟩ := bind_eq_ok_iff.1 read
    cases pure_eq_ok_iff.1 read
  · split at read
    · next isLaundry =>
      obtain ⟨unit, found, read⟩ := bind_eq_ok_iff.1 read
      cases pure_eq_ok_iff.1 read
      exact ⟨isLaundry, generation, found⟩
    · obtain ⟨unit, -, read⟩ := bind_eq_ok_iff.1 read
      cases pure_eq_ok_iff.1 read

theorem exists_readFrom {document : Document} {requested : Option Family}
    (read : ofDocument document requested = .ok (.laundry laundry)) :
    ∃ members, document = .object members ∧ laundry.ReadFrom members := by
  obtain ⟨members, family, isObject, read⟩ := ofFamily_of_ofDocument read
  obtain ⟨-, generation, read⟩ := laundry_of_ofFamily read
  exact ⟨members, isObject, (Laundry.ofDocument_ok read).2⟩

end Capability

end ApplianceCloud
