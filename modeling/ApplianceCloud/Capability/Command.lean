import ApplianceCloud.Document.Writer
import ApplianceCloud.Document.Display
import ApplianceCloud.Text.WordCharacter
import ApplianceCloud.Capability.Report

namespace ApplianceCloud

structure Command where
  option : String
  declaration : String := ""
  template : String := ""
  data : Fields Document := []
  binary : Bool := false
  deriving Repr

namespace Command

def placeAt? : List Char → Option (List Char)
  | '{' :: '{' :: rest =>
      let name := rest.takeWhile Text.isWordCharacter
      if !name.isEmpty && ['}', '}'].isPrefixOf (rest.dropWhile Text.isWordCharacter) then some name
      else none
  | _ => none

def places : List Char → List String
  | [] => []
  | c :: rest => ((placeAt? (c :: rest)).map String.ofList).toList ++ places rest

def ofAction (binary : Bool) (members : Fields Document) : Command :=
  let template := (((members.lookup "data").getD (.text "")).orElse (.text "")).display
  { option := ((members.lookup "cmdOpt").getD (.text "")).display
    declaration := (Document.object (members.without "data")).write
    template
    data := Fields.ofPairs ((places template.toList).map fun name => (name, .text ""))
    binary := binary && template ≠ "" }

def ofFirstControl (control : Document) : Fields Command :=
  let binary := ReportFormat.ofDocument ((control.member? "type").getD .null) = .binary
  let actions := ((control.member? "action").bind Document.object?).getD []
  actions.filterMap fun (name, action) => action.object?.map fun members => (name, ofAction binary members)

def innerData (data : Fields Document) : Fields Document :=
  match data with
  | (_, .object inner) :: _ => inner
  | _ => data

/-- The data that a declaration of the second generation carries: without the escaped keys, and with
every blank key empty. A declaration without data has none. -/
def dataOf (escaped blank : List String) (declared : Document) : Fields Document :=
  let kept := (innerData (declared.object?.getD [])).filter fun member => !escaped.contains member.1
  if declared.isNull then []
  else (blank.filter (· ≠ "")).foldl (fun data key => data.put key (.text "")) kept

def ofDeclaration (escaped blank : List String) (members : Fields Document) : Command where
  option := ((members.lookup "command").getD (.text "")).display
  declaration := (Document.object members).write
  data := dataOf escaped blank (members.orNull "data")

def ofSecondControl (escaped blank : List String) (control : Document) : Fields Command :=
  (control.object?.getD []).filterMap fun (name, declaration) =>
    declaration.object?.map fun members => (name, ofDeclaration escaped blank members)

end Command

end ApplianceCloud
