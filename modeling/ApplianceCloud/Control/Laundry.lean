import ApplianceCloud.Control.Payload
import ApplianceCloud.Control.RemoteStart
import ApplianceCloud.Control.Send

namespace ApplianceCloud.Control

variable {σ : Type}

def sendDeclared (device : String) (laundry : Laundry) (name : String) (values : Fields Document) :
    Cloud σ Unit := do
  let command ← laundry.declaredCommand name
  let payload ← command.payload values
  let number ← Cloud.newNumber
  let _ ← Cloud.post controlPath
    (payload.putAll [("deviceId", .text device), ("workId", .text number.grouped)])

def optionOf (command : Command) : String := if command.option = "" then "Set" else command.option

def remoteStart (generation : Generation) (device : String) (laundry : Laundry)
    (status : Option Status) : Cloud σ Unit := do
  let name := laundry.commandNames.remoteStart
  match generation with
  | .first => sendDeclared device laundry name ((status.map (·.reported)).getD [])
  | .second =>
      let command ← laundry.declaredCommand name
      let data ← laundry.startData status
      let _ ← sendSecond device name (optionOf command) .null .null syncPath
        [("dataSetList", .object [("washerDryer", .object data)])]

def wakeUp (generation : Generation) (device : String) (laundry : Laundry) : Cloud σ Unit := do
  let name := laundry.commandNames.wakeUp
  match generation with
  | .first => sendDeclared device laundry name []
  | .second =>
      let command ← laundry.declaredCommand name
      let _ ← sendSecond device name (optionOf command) .null .null syncPath []

end ApplianceCloud.Control
