import ApplianceCloud.Control.Send

namespace ApplianceCloud.Control

variable {σ : Type}

inductive AirSetting where
  | power
  | operationMode
  | fanSpeed
  | targetTemperature
  | coolJet
  | airClean
  | autoDry
  | energySaving
  deriving DecidableEq, Repr

namespace AirSetting

def key : Generation → AirSetting → String
  | .first, power => "Operation"
  | .first, operationMode => "OpMode"
  | .first, fanSpeed => "WindStrength"
  | .first, targetTemperature => "TempCfg"
  | .first, coolJet => "Jet"
  | .first, airClean => "AirClean"
  | .first, autoDry => "AutoDry"
  | .first, energySaving => "PowerSave"
  | .second, power => "airState.operation"
  | .second, operationMode => "airState.opMode"
  | .second, fanSpeed => "airState.windStrength"
  | .second, targetTemperature => "airState.tempState.target"
  | .second, coolJet => "airState.wMode.jet"
  | .second, airClean => "airState.wMode.airClean"
  | .second, autoDry => "airState.miscFuncState.autoDry"
  | .second, energySaving => "airState.powerSave.basic"

end AirSetting

/-- A value as text; a number without a fraction is written as an integer. -/
def textOfSetting (value : Document) : Except Failure String :=
  let shown : Document := match value with
    | .number x => if x.isIntegral then .int (x.truncate?.getD 0) else .number x
    | other => other
  shown.toText.mapError .conversion

def setValue (generation : Generation) (device : String) (setting : AirSetting) (value : Document) :
    Cloud σ Unit := do
  match generation with
  | .first =>
      let text ← textOfSetting value
      let _ ← sendFirst device "Control" "Set" (some (setting.key .first)) (.text text) []
  | .second =>
      let _ ← sendSecond device "basicCtrl" "Set" (.text (setting.key .second)) value syncPath []

def integerOf (value : Document) : Except Failure Document :=
  match value.toInteger with
  | .ok n => .ok (.int n)
  | .error fault => .error (.conversion fault)

def numberOf (value : Document) : Except Failure Document :=
  match value.toNumber with
  | .ok x => .ok (.number x)
  | .error fault => .error (.conversion fault)

def turnPower (generation : Generation) (device : String) (on : Bool) : Cloud σ Unit :=
  setValue generation device .power (.int (if on then 1 else 0))

def selectMode (generation : Generation) (device : String) (mode : Document) : Cloud σ Unit := do
  setValue generation device .operationMode (← integerOf mode)

def selectFanSpeed (generation : Generation) (device : String) (speed : Document) : Cloud σ Unit := do
  setValue generation device .fanSpeed (← integerOf speed)

def selectTemperature (generation : Generation) (device : String) (temperature : Document) :
    Cloud σ Unit := do
  setValue generation device .targetTemperature (← numberOf temperature)

def turn (generation : Generation) (device : String) (setting : AirSetting) (toggle : Toggle)
    (on : Bool) : Cloud σ Unit :=
  setValue generation device setting (.text (if on then toggle.onCode else toggle.offCode))

end ApplianceCloud.Control
