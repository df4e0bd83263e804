import ApplianceCloud.Control.Laundry
import ApplianceCloud.Control.Setting

namespace ApplianceCloud

structure DeviceCommand where
  name : String
  value : Document := .null
  deriving Repr

inductive Order where
  | set (setting : Control.AirSetting) (value : Document)
  | remoteStart (laundry : Laundry) (status : Option Status)
  | wakeUp (laundry : Laundry)
  deriving Repr

namespace Order

variable {σ : Type}

def toggled? (unit : AirConditioner) : String → Option (Control.AirSetting × Toggle)
  | "cool_jet" => some (.coolJet, unit.coolJet)
  | "air_clean" => some (.airClean, unit.airClean)
  | "auto_dry" => some (.autoDry, unit.autoDry)
  | "energy_saving" => some (.energySaving, unit.energySaving)
  | _ => none

/-- The order to choose a value of a setting, unless the setting does not offer it. A value is offered
by its text, so it has to have one. -/
def choice (setting : Control.AirSetting) (offered : Setting) (value : Document) :
    Except Failure (Option Order) :=
  match value.toText with
  | .error fault => .error (.conversion fault)
  | .ok shown =>
      if offered.operatorLabels.has shown then
        (Control.integerOf value).map fun code => some (set setting code)
      else .ok none

def ofAirCommand (unit : AirConditioner) (command : DeviceCommand) : Except Failure (Option Order) :=
  match command.name with
  | "power" => .ok (some (set .power (.int (if command.value.isTruthy then 1 else 0))))
  | "operation_mode" => choice .operationMode unit.operationMode command.value
  | "fan_speed" => choice .fanSpeed unit.fanSpeed command.value
  | "target_temperature" =>
      (Control.numberOf command.value).map fun degrees => some (set .targetTemperature degrees)
  | name => match toggled? unit name with
    | some (setting, toggle) =>
        let code := if command.value.isTruthy then toggle.onCode else toggle.offCode
        .ok (if toggle.available then some (set setting (.text code)) else none)
    | none => .ok none

/-- What a command orders from a washer or a dryer. A start needs an appliance that does not stand
by and does not report that it may not be started, a wake-up one that stands by. -/
def ofLaundryCommand (laundry : Laundry) (status : Option Status) (command : DeviceCommand) :
    Option Order :=
  let standsBy := status.any (·.isStandby)
  match command.name with
  | "remote_start" =>
      if standsBy || status.any (·.truth? .remoteStart = some false) then none
      else some (remoteStart laundry status)
  | "wake_up" => if standsBy then some (wakeUp laundry) else none
  | _ => none

def laundryStatus (status : Option Status) : Option Status :=
  status.filter (·.family.statusModel? = some .laundry)

def ofCommand (capability : Capability) (status : Option Status) (command : DeviceCommand) :
    Except Failure (Option Order) :=
  match capability with
  | .airConditioner unit => ofAirCommand unit command
  | .laundry unit => .ok (ofLaundryCommand unit (laundryStatus status) command)
  | .refrigerator _ => .ok none

def carryOut (generation : Generation) (device : String) : Order → Cloud σ Unit
  | set setting value => Control.setValue generation device setting value
  | remoteStart laundry status => Control.remoteStart generation device laundry status
  | wakeUp laundry => Control.wakeUp generation device laundry

end Order

end ApplianceCloud
