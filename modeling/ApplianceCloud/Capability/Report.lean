import ApplianceCloud.Device.Family
import ApplianceCloud.Text.Blank

namespace ApplianceCloud

inductive ReportFormat where
  | json
  | binary
  | unknown
  deriving DecidableEq, Repr

namespace ReportFormat

def name : ReportFormat → String
  | json => "JSON"
  | binary => "BINARY(BYTE)"
  | unknown => "UNKNOWN"

def ofDocument (d : Document) : ReportFormat :=
  let word := Text.trim (d.orElse (.text "")).display
  if word = binary.name then binary
  else if word = json.name || word = "Full ModelJson" then json
  else unknown

end ReportFormat

structure ReportField where
  name : String
  start : Int
  length : Int
  deriving DecidableEq, Repr

namespace ReportField

def integerIn (members : Fields Document) (key : String) : Except Failure Int :=
  match members.lookup key with
  | none => .error (.shape (.missingKey key))
  | some d => match d.toInteger with
    | .ok n => .ok n
    | .error fault => .error (.conversion fault)

def ofDocument (entry : Document) : Except Failure ReportField :=
  match entry with
  | .object members => do
      let name := (members.lookup "value").getD ((members.lookup "fieldName").getD (.text ""))
      return {
        name := name.display
        start := ← integerIn members "startByte"
        length := ← integerIn members "length" }
  | other => .error (.shape (.noMember other.kind "get"))

/-- Whether a fault of a layout entry is a fault of the document, and not of a caller. -/
def isLayoutFault : Failure → Bool
  | .shape (.missingKey _) => true
  | .conversion fault => !fault.isOverflow
  | _ => false

def ofLayout (entries : List Document) : Except Failure (List ReportField) :=
  match entries.mapM ofDocument with
  | .ok fields => .ok fields
  | .error failure =>
      if isLayoutFault failure then .error (.capability (.invalidLayout failure.message))
      else .error failure

end ReportField

structure Reporting where
  format : ReportFormat
  layout : List ReportField
  deriving DecidableEq, Repr

def Reporting.ofDocument (generation : Generation) (document : Fields Document) :
    Except Failure Reporting :=
  match generation, (document.orNull "Monitoring").object? with
  | .second, _ => .ok ⟨.json, []⟩
  | .first, none => .ok ⟨.unknown, []⟩
  | .first, some monitoring =>
      let format := ReportFormat.ofDocument (monitoring.orNull "type")
      if format ≠ .binary then .ok ⟨format, []⟩
      else match (monitoring.orNull "protocol").list? with
        | none => .error (.capability (.nodeMissing "Monitoring.protocol"))
        | some entries => do return ⟨format, ← ReportField.ofLayout entries⟩

end ApplianceCloud
