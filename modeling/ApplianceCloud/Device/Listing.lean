import ApplianceCloud.Device.Family

namespace ApplianceCloud

structure ListedDevice where
  id : String
  /-- What the owner calls the device; without a name it goes by its identifier. -/
  name : String
  modelName : String
  family : Family
  generation : Generation
  capabilityAddress : String := ""
  online : Bool := true
  deriving DecidableEq, Repr

namespace ListedDevice

/-- The generation of a platform name; a name that is not the first generation's means the second. -/
def generationOf (platform : Document) : Generation :=
  if Text.smalls platform.display = Generation.first.platform then .first else .second

def ofMembers (members : Fields Document) : Except Failure ListedDevice := do
  let textOf (key : String) (default : Document) := ((members.lookup key).getD default).display
  let generation := generationOf ((members.lookup "platformType").getD (.text Generation.second.platform))
  match members.lookup "deviceId" with
  | none => .error (.shape (.missingKey "deviceId"))
  | some id =>
      let family ← Family.ofTypeId (members.orNull "deviceType")
      return {
        id := id.display
        name := textOf "alias" id
        modelName := textOf "modelName" (.text "")
        family
        generation
        capabilityAddress := textOf "modelJsonUri" (.text "")
        online := ((members.lookup "online").getD (.bool true)).isTruthy }

def ofDocument (item : Document) : Except Failure ListedDevice :=
  match item.object? with
  | some members => ofMembers members
  | none => .error (.shape (.noMember item.kind "get"))

end ListedDevice

end ApplianceCloud
