import ApplianceCloud.Status.Basic

namespace ApplianceCloud.Laundry

def declaredCommand (laundry : Laundry) (name : String) : Except Failure Command :=
  match laundry.command? name with
  | some command => .ok command
  | none => .error (.call (.undeclaredCommand name))

def selectedSmartCourse? (laundry : Laundry) (status : Option Status) : Option String :=
  (status.bind (·.text? .smartCourse)).filter fun course => course ≠ "" && course ≠ laundry.notSelected

def selectedCourse (laundry : Laundry) (status : Option Status) : String :=
  ((status.bind (·.text? .course)).filter (· ≠ "")).getD laundry.defaultCourse

/-- The kind of course that a start selects: that of the declared course, or else that of the field
that selects it. -/
def selectedKind (laundry : Laundry) (status : Option Status) : CourseKind :=
  let smartCourse? := laundry.selectedSmartCourse? status
  match laundry.course? (smartCourse?.getD (laundry.selectedCourse status)) with
  | some course => course.kind
  | none => if smartCourse?.isSome then .smartCourse else .course

def putNamed (data : Fields Document) (name value : String) : Fields Document :=
  if name = "" then data else data.put name (.text value)

/-- The data of a command as they were reported, or else as they are declared. -/
def reportedData (command : Command) (status : Option Status) : Fields Document :=
  let reported := (status.map (·.reported)).getD []
  command.data.map fun entry => (entry.1, (reported.lookup entry.1).getD entry.2)

def startData (laundry : Laundry) (status : Option Status) : Except Failure (Fields Document) := do
  let command ← laundry.declaredCommand laundry.commandNames.remoteStart
  let data := reportedData command status
  let data := putNamed data laundry.courseFields.course (laundry.selectedCourse status)
  let data := putNamed data laundry.courseFields.smartCourse
    ((laundry.selectedSmartCourse? status).getD laundry.notSelected)
  return data.put "courseType" (.text (laundry.selectedKind status).name)

end ApplianceCloud.Laundry
