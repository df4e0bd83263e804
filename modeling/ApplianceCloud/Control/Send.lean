import ApplianceCloud.Cloud.Reading

namespace ApplianceCloud.Control

variable {σ : Type}

def controlPath : String := "rti/rtiControl"

def valueMember (key : Option String) (value : Document) : Document :=
  match key.filter (· ≠ "") with
  | some key => .object [(key, value)]
  | none => value

def sendFirst (device command option : String) (key : Option String) (value : Document)
    (extra : Fields Document) : Cloud σ (Fields Document) := do
  let number ← Cloud.newNumber
  let members : Fields Document :=
    [("cmd", .text command), ("cmdOpt", .text option), ("value", valueMember key value),
     ("deviceId", .text device), ("workId", .text number.grouped), ("data", .text "")]
  Cloud.post controlPath (members.putAll extra)

def readConfig (device key : String) : Cloud σ Document := do
  return (← sendFirst device "Config" "Get" none (.text key) []).orNull "returnData"

def syncPath : String := "control-sync"

def sendSecond (device key command : String) (dataKey dataValue : Document) (path : String)
    (extra : Fields Document) : Cloud σ (Fields Document) :=
  let members : Fields Document :=
    [("ctrlKey", .text key), ("command", .text command), ("dataKey", dataKey),
     ("dataValue", dataValue)]
  Cloud.send .post (Cloud.devicePath device ++ "/" ++ path) (some (members.putAll extra))

def keepAlive (device : String) (family : Family) : Cloud σ Unit :=
  if family = .airConditioner then do
    let _ ← sendSecond device "allEventEnable" "Set" (.text "airState.mon.timeout") (.text "70")
      syncPath []
  else pure ()

end ApplianceCloud.Control
