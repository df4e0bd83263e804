import ApplianceCloud.Cloud.Devices
import ApplianceCloud.Keeper.Availability
import ApplianceCloud.Keeper.Order
import ApplianceCloud.Queue.Basic
import ApplianceCloud.Watch.Remote

/-!
# Keepers

A keeper looks after one appliance: it remembers the capability once it was downloaded and the last
status, knows how available the device is, and has the queue of its commands and, for the first
generation, the report session. Polls and commands are activities on the keeper.
-/

namespace ApplianceCloud

structure Keeper where
  device : ListedDevice
  generation? : Option Generation
  capability? : Option Capability := none
  status? : Option Status := none
  availability : Availability := {}
  session : Watch.Session
  queue : CommandQueue DeviceCommand
  lastFailure? : Option Failure := none
  isShutDown : Bool := false
  refreshRequests : Nat := 0
  deriving Repr

namespace Keeper

def settingsOf (device : ListedDevice) : Watch.Settings := { device := device.id }

def settings (keeper : Keeper) : Watch.Settings := settingsOf keeper.device

def fresh (device : ListedDevice) (generation? : Option Generation) : Keeper where
  device
  generation?
  session := .fresh (settingsOf device)
  queue := { device := device.id }

def phase? (keeper : Keeper) : Option Watch.Phase :=
  match keeper.generation? with
  | some .first => some keeper.session.phase
  | _ => none

end Keeper

abbrev Keeping := Cloud Keeper

namespace Keeper

def note (availability : Availability) : Keeping Unit :=
  Activity.modify fun keeper => { keeper with availability }

def capability : Keeping Capability := do
  let keeper ← Activity.gets id
  match keeper.capability? with
  | some capability => return capability
  | none =>
      let capability ← Cloud.downloadCapability keeper.device
      Activity.modify fun keeper => { keeper with capability? := some capability }
      return capability

def watching (activity : Watch.Watching α) : Keeping α := do
  let keeper ← Activity.gets id
  let onKeeper := activity.onPart (fun keeper : Keeper => keeper.session)
    fun session keeper => { keeper with session }
  onKeeper.through (Watch.perform keeper.device.id keeper.capability?)

def send (keeper : Keeper) (command : DeviceCommand) : Except Failure Unit × Keeper :=
  match keeper.queue.enqueue command with
  | .ok queue => (.ok (), { keeper with queue })
  | .error failure => (.error failure, { keeper with availability := .busy })

/-- Carries out what a command orders, while holding the lock of the device. The answer is whether
anything was done. -/
def obey (capability : Capability) (command : DeviceCommand) : Keeping Bool := do
  let keeper ← Activity.gets id
  match ← Order.ofCommand capability keeper.status? command with
  | none => return false
  | some order =>
      match keeper.generation? with
      | some generation => order.carryOut generation keeper.device.id
      | none => pure ()
      return true

def process (command : DeviceCommand) : Keeping Unit := do
  let capability ← capability
  if ← Activity.locked (obey capability command) then
    Activity.modify fun keeper => { keeper with refreshRequests := keeper.refreshRequests + 1 }

def afterCommand (command : DeviceCommand) (failure : Failure) : Availability :=
  .unreachable ("Command " ++ command.name ++ " failed: " ++ failure.message)

def finish (keeper : Keeper) (outcome : Except Failure Unit) : Keeper :=
  let (queue, notice) := keeper.queue.finish outcome fun _ _ => .ok ()
  match notice with
  | none => { keeper with queue }
  | some (command, failure) =>
      { keeper with queue, availability := afterCommand command failure }

def work : Keeping Unit := do
  let keeper ← Activity.gets id
  match keeper.queue.next? with
  | none => return ()
  | some (command, queue) =>
      Activity.modify fun keeper => { keeper with queue }
      let outcome ← (process command).attempt
      Activity.modify fun keeper => keeper.finish outcome

def workOn : Nat → Keeping Unit
  | 0 => pure ()
  | count + 1 => do
      work
      workOn count

def poll : Keeping (Option Status) := do
  let capability ← capability
  let keeper ← Activity.gets id
  let device := keeper.device.id
  match keeper.generation? with
  | some .first =>
      watching (Watch.snapshot keeper.settings capability.family)
  | some .second =>
      match ← (Control.keepAlive (σ := Keeper) device capability.family).attempt with
      | .ok () => return some (← Cloud.readDevice device capability)
      | .error (.offline _) => return some (← Status.offline capability.family)
      | .error failure => Activity.fail failure
  | none => Activity.fail (.refresh (.noSource device))

def update : Keeping (Option Status) := do
  match ← poll.attempt with
  | .ok none => return none
  | .ok (some status) =>
      note (.ofOnline status.online)
      return some status
  | .error failure =>
      if failure.isOwn then
        note (.unreachable failure.message)
        Activity.fail (.refresh (.communication failure.message))
      else Activity.fail failure

/-- Brings the status up to date: a failure keeps the old status and is remembered. After a shutdown
nothing is done. The answer is the new status, if there is one. -/
def refresh : Keeping (Option Status) := do
  let keeper ← Activity.gets id
  if keeper.isShutDown then return none
  match ← update.attempt with
  | .ok status? =>
      Activity.modify fun keeper =>
        { keeper with status? := status?.or keeper.status?, lastFailure? := none }
      return status?
  | .error failure =>
      Activity.modify fun keeper => { keeper with lastFailure? := some failure }
      return none

def start (keeper : Keeper) : Keeper := { keeper with queue := keeper.queue.start }

def markGone (keeper : Keeper) : Keeper := { keeper with availability := .removed }

def stopWatching : Keeping Unit := do
  let keeper ← Activity.gets id
  match keeper.generation? with
  | some .first => watching (Watch.forceStop keeper.settings)
  | _ => return ()

def shutdown : Keeping Unit := do
  let keeper ← Activity.gets id
  let queue ← keeper.queue.stop
  Activity.modify fun keeper => { keeper with queue }
  stopWatching
  Activity.modify fun keeper => { keeper with isShutDown := true }

end Keeper

end ApplianceCloud
