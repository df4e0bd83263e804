import ApplianceCloud.Cloud.Devices

namespace ApplianceCloud

structure Roster where
  interval? : Option Nat
  devices? : Option (Fields ListedDevice) := none
  lastFailure? : Option Failure := none
  isShutDown : Bool := false
  deriving Repr

namespace Roster

def devices (roster : Roster) : Fields ListedDevice := roster.devices?.getD []

/-- Devices by their identifiers. Of two with one identifier the later one counts. -/
def byId (devices : List ListedDevice) : Fields ListedDevice :=
  .ofPairs (devices.map fun device => (device.id, device))

def listing : Cloud Roster (Fields ListedDevice) := Activity.locked do
  let _ ← Cloud.token
  return byId (← Cloud.listDevices)

/-- The failure of a refresh. A failure of another kind than this library's own is not wrapped. -/
def failureOf (cause : Failure) : Failure :=
  if cause.isOwn then .refresh (.listing cause.message) else cause

/-- Brings the roster up to date. The answer is whether those who follow the roster have to look at
it: not when a failure follows a failure. -/
def refresh : Cloud Roster Bool := do
  let before ← Activity.gets id
  if before.isShutDown then return false
  match ← listing.attempt with
  | .ok devices =>
      Activity.modify fun roster => { roster with devices? := some devices, lastFailure? := none }
      return true
  | .error cause =>
      Activity.modify fun roster => { roster with lastFailure? := some (failureOf cause) }
      return before.lastFailure?.isNone

end Roster

end ApplianceCloud
