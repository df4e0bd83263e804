import ApplianceCloud.Account.Interval
import ApplianceCloud.Failure

namespace ApplianceCloud

inductive FieldKind where
  | text
  | wholeNumber
  deriving DecidableEq, Repr

structure FormField where
  name : String
  kind : FieldKind := .text
  isRequired : Bool := true
  default? : Option Document := none
  deriving Repr

abbrev Form := List FormField

inductive Submission where
  | accepted (values : Fields Document)
  | refused (names : List String)
  deriving Repr

namespace FieldKind

/-- The value that is taken for a document; none if the field refuses it. A number without end is not
refused but fails. -/
def accept? : FieldKind → Document → Except Failure (Option Document)
  | .text, .text value => .ok (some (.text value))
  | .text, _ => .ok none
  | .wholeNumber, document =>
      match document.toInteger with
      | .ok n => .ok (if 0 ≤ n then some (.int n) else none)
      | .error fault => if fault.isOverflow then .error (.conversion fault) else .ok none

end FieldKind

namespace Form

def field? (form : Form) (name : String) : Option FormField := form.find? (·.name = name)

def complete (form : Form) (input : Fields Document) : Fields Document :=
  input ++ form.filterMap fun field =>
    if input.has field.name then none else field.default?.map fun value => (field.name, value)

def missing (form : Form) (input : Fields Document) : List String :=
  (form.filter fun field => field.isRequired && !input.has field.name).map (·.name)

def accept? (form : Form) (member : String × Document) : Except Failure (Option Document) :=
  match form.field? member.1 with
  | none => .ok none
  | some field => field.kind.accept? member.2

/-- The submission of members with their accepted values. The names that are refused are sorted. -/
def submission (read : Fields (Option Document)) (missing : List String) : Submission :=
  match (read.filter (·.2.isNone)).map (·.1) ++ missing with
  | [] => .accepted (read.filterMap fun member => member.2.map fun value => (member.1, value))
  | names => .refused (names.mergeSort)

def submit (form : Form) (input : Fields Document) : Except Failure Submission := do
  let input := form.complete input
  let read ← input.mapM fun member => do return (member.1, ← form.accept? member)
  return submission read (form.missing input)

def account : Form :=
  [{ name := "country" },
   { name := "language" },
   { name := "access_token" },
   { name := "user_number" },
   { name := "api_root_v1" },
   { name := "api_root_v2" },
   { name := Interval.key, kind := .wholeNumber, isRequired := false
     default? := some (.int Interval.shortest) }]

def interval (present : Document) : Form :=
  [{ name := Interval.key, kind := .wholeNumber, default? := some present }]

end Form

end ApplianceCloud
