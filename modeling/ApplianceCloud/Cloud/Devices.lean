import ApplianceCloud.Capability.Document
import ApplianceCloud.Cloud.Call
import ApplianceCloud.Device.Listing

namespace ApplianceCloud.Cloud

variable {σ : Type}

def listingPath : String := "service/application/dashboard"

def listedDevice? (item : Document) : Except Failure (Option ListedDevice) :=
  match item.object? with
  | none => .ok none
  | some members =>
      if members.has "deviceId" then (ListedDevice.ofMembers members).map some else .ok none

def itemsOf (envelope : Fields Document) : List Document :=
  (((envelope.orNull "result").member? "item").bind Document.list?).getD []

def devicesOf (envelope : Fields Document) : Except Failure (List ListedDevice) := do
  return (← (itemsOf envelope).mapM listedDevice?).filterMap id

def listDevices : Cloud σ (List ListedDevice) := do
  devicesOf (← send .get listingPath none)

def validate : Cloud σ Bool := do
  let _ ← listDevices
  return true

def downloadCapability (device : ListedDevice) : Cloud σ Capability :=
  if device.capabilityAddress = "" then Activity.fail (.call (.noCapabilityAddress device.id))
  else do
    let reply ← request { method := .get, url := device.capabilityAddress }
    let members ← Envelope.objectOf device.capabilityAddress reply
    Capability.ofDocument (.object members) (some device.family)

end ApplianceCloud.Cloud
