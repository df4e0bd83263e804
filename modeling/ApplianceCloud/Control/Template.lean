import ApplianceCloud.Capability.Command
import ApplianceCloud.Text.Replace

namespace ApplianceCloud.Command

def placeOf (name : String) : List Char := '{' :: '{' :: name.toList ++ ['}', '}']

/-- What a value is written as in a template: an empty text counts as zero. A number of a report may
be too long to be written. -/
def textOfValue (value : Document) : Except Failure String :=
  match value with
  | .text "" => .ok "0"
  | other => other.toText.mapError .conversion

def valueOf (values : Fields Document) (entry : String × Document) : Document :=
  (values.lookup entry.1).getD entry.2

def fill (values : Fields Document) : Fields Document → List Char → Except Failure (List Char)
  | [], text => .ok text
  | entry :: rest, text => do
      let written ← textOfValue (valueOf values entry)
      fill values rest (Text.replace (placeOf entry.1) written.toList text)

def filled (command : Command) (values : Fields Document) : Except Failure String :=
  (fill values command.data command.template.toList).map String.ofList

end ApplianceCloud.Command
