import ApplianceCloud.Capability.Basic
import ApplianceCloud.Capability.Detection

namespace ApplianceCloud.Refrigerator

def nodeName : Generation → RefrigeratorSetting → String
  | .first, .fridgeTemperatureC => "TempRefrigerator_C"
  | .first, .fridgeTemperatureF => "TempRefrigerator_F"
  | .first, .freezerTemperatureC => "TempFreezer_C"
  | .first, .freezerTemperatureF => "TempFreezer_F"
  | .first, .temperatureUnit => "TempUnit"
  | .first, .icePlus => "IcePlus"
  | .first, .freshAirFilter => "FreshAirFilter"
  | .first, .waterFilter => "WaterFilterUsedMonth"
  | .first, .expressMode => "ExpressMode"
  | .first, .smartSaving => "SmartSavingMode"
  | .first, .activeSaving => "ActiveSavingStatus"
  | .first, .doorOpen => "DoorOpenState"
  | .second, .fridgeTemperatureC => "fridgeTemp_C"
  | .second, .fridgeTemperatureF => "fridgeTemp_F"
  | .second, .freezerTemperatureC => "freezerTemp_C"
  | .second, .freezerTemperatureF => "freezerTemp_F"
  | .second, .temperatureUnit => "tempUnit"
  | .second, .icePlus => "icePlus"
  | .second, .freshAirFilter => "freshAirFilter"
  | .second, .waterFilter => "waterFilter"
  | .second, .expressMode => "expressMode"
  | .second, .smartSaving => "smartSavingMode"
  | .second, .activeSaving => "activeSaving"
  | .second, .doorOpen => "atLeastOneDoorOpen"

def optionsKey : Generation → String
  | .first => "option"
  | .second => "valueMapping"

def ignoredCode : String := "255"

def labelsOf (generation : Generation) (readings : Fields Document) (setting : RefrigeratorSetting) :
    Fields String :=
  let options :=
    OptionMap.optionsIn (.object readings) (nodeName generation setting) (optionsKey generation)
  (OptionMap.codeLabels options).without ignoredCode

def commandsOf (generation : Generation) (control : Document) : Fields Command :=
  match generation with
  | .first => Command.ofFirstControl control
  | .second => Command.ofSecondControl [] [] control

def ofDocument (document : Fields Document) (family : Family) (generation : Generation) :
    Except Failure Refrigerator :=
  match (document.orNull (Detection.readingsKey generation)).object? with
  | none => .error (.capability (.nodeMissing (Detection.readingsKey generation)))
  | some readings => do
      let reporting ← Reporting.ofDocument generation document
      return {
        header := { family, generation, reporting }
        settings := RefrigeratorSetting.all.map fun setting =>
          (setting, labelsOf generation readings setting)
        commands := commandsOf generation (document.orNull "ControlWifi") }

end ApplianceCloud.Refrigerator
