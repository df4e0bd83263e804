import ApplianceCloud.Document.Display
import ApplianceCloud.Failure

namespace ApplianceCloud

inductive CourseKind where
  | course
  | smartCourse
  deriving DecidableEq, Repr

def CourseKind.name : CourseKind → String
  | course => "Course"
  | smartCourse => "SmartCourse"

structure CourseFunction where
  value : String
  default : String
  choices : List String
  deriving DecidableEq, Repr

def CourseFunction.isSelectable (function : CourseFunction) : Bool := !function.choices.isEmpty

structure Course where
  name : String
  kind : CourseKind
  baseName : String := ""
  functions : List CourseFunction := []
  deriving DecidableEq, Repr

namespace Course

def notSelectedName : String := "Not Selected"

/-- What a document holds when it is gone through item by item: the items of a list, the keys of an
object, the characters of a text. A document that says nothing holds nothing. -/
def itemsOf (d : Document) : Except Failure (List Document) :=
  if !d.isTruthy then .ok []
  else match d with
    | .list items => .ok items
    | .object members => .ok (members.map fun member => .text member.1)
    | .text s => .ok (s.toList.map fun c => .text (String.singleton c))
    | other => .error (.shape (.notIterable other.kind))

def functionOf? (kind : CourseKind) (entry : Document) : Except Failure (Option CourseFunction) := do
  match entry.object? with
  | none => return none
  | some members =>
      match members.lookup "value" with
      | none => return none
      | some value =>
          let choices ← if kind = .course then itemsOf (members.orNull "selectable") else .ok []
          return some {
            value := value.display
            default := ((members.lookup "default").getD (.text "")).display
            choices := choices.map Document.display }

def functionsOf (kind : CourseKind) : List Document → Except Failure (List CourseFunction)
  | [] => .ok []
  | entry :: rest => do
      let function ← functionOf? kind entry
      let functions ← functionsOf kind rest
      return function.toList ++ functions

def ofEntry (kind : CourseKind) (id : String) (members : Fields Document) : Except Failure Course := do
  let functions ← functionsOf kind (← itemsOf (members.orNull "function"))
  return {
    name := (((members.orNull "_comment").orElse (members.orNull "name")).orElse (.text id)).display
    kind
    baseName := ((members.lookup "Course").getD (.text "")).display
    functions }

def addEntries (kind : CourseKind) : Fields Course → Fields Document → Except Failure (Fields Course)
  | courses, [] => .ok courses
  | courses, (id, entry) :: rest =>
      match entry.object? with
      | none => addEntries kind courses rest
      | some members => do
          let course ← ofEntry kind id members
          addEntries kind (courses.put id course) rest

def ofNode (kind : CourseKind) (notSelected : String) (node : Document) :
    Except Failure (Fields Course) :=
  addEntries kind [(notSelected, { name := notSelectedName, kind })] (node.object?.getD [])

end Course

end ApplianceCloud
