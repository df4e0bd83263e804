import ApplianceCloud.Device.Family
import ApplianceCloud.Fields

namespace ApplianceCloud

inductive ReadingKind where
  | text
  | integer
  | number
  | truth
  deriving DecidableEq, Repr

def ReadingKind.name : ReadingKind → String
  | text => "text"
  | integer => "integer"
  | number => "float"
  | truth => "boolean"

inductive Attribute where
  -- air conditioners
  | operation
  | operationMode
  | windStrength
  | targetTemperature
  | currentTemperature
  | coolJet
  | airClean
  | autoDry
  | energySaving
  -- washers, dryers and towers
  | state
  | processState
  | preState
  | course
  | smartCourse
  | downloadedCourse
  | temperature
  | rinse
  | spin
  | dryLevel
  | soilWash
  | doorLock
  | childLock
  | error
  | remainHours
  | remainMinutes
  | reserveHours
  | reserveMinutes
  | initialHours
  | initialMinutes
  | standby
  | remoteStart
  -- refrigerators
  | fridgeTemperature
  | freezerTemperature
  | temperatureUnit
  | doorOpen
  | expressMode
  | icePlus
  | freshAirFilter
  | waterFilter
  | smartSaving
  | activeSaving
  deriving DecidableEq, Repr

namespace Attribute

def name : Attribute → String
  | operation => "operation"
  | operationMode => "operation_mode"
  | windStrength => "air_wind_strength"
  | targetTemperature => "target_temperature"
  | currentTemperature => "current_temperature"
  | coolJet => "cool_jet_mode"
  | airClean => "air_clean_mode"
  | autoDry => "auto_dry_mode"
  | energySaving => "energy_saving_mode"
  | state => "state"
  | processState => "process_state"
  | preState => "pre_state"
  | course => "course"
  | smartCourse => "smart_course"
  | downloadedCourse => "downloaded_course"
  | temperature => "temperature"
  | rinse => "rinse"
  | spin => "spin"
  | dryLevel => "dry_level"
  | soilWash => "soil_wash"
  | doorLock => "door_lock"
  | childLock => "child_lock"
  | error => "error"
  | remainHours => "remain_time_hour"
  | remainMinutes => "remain_time_minute"
  | reserveHours => "reserve_time_hour"
  | reserveMinutes => "reserve_time_minute"
  | initialHours => "initial_time_hour"
  | initialMinutes => "initial_time_minute"
  | standby => "standby"
  | remoteStart => "remote_start"
  | fridgeTemperature => "fridge_temp"
  | freezerTemperature => "freezer_temp"
  | temperatureUnit => "temp_unit"
  | doorOpen => "door_open"
  | expressMode => "express_mode"
  | icePlus => "ice_plus"
  | freshAirFilter => "fresh_air_filter"
  | waterFilter => "water_filter"
  | smartSaving => "smart_saving_mode"
  | activeSaving => "active_saving"

def kind : Attribute → ReadingKind
  | operation | operationMode | windStrength => .integer
  | targetTemperature | currentTemperature | coolJet | airClean | autoDry | energySaving => .number
  | remainHours | remainMinutes | reserveHours | reserveMinutes | initialHours | initialMinutes =>
      .integer
  | standby | remoteStart => .truth
  | _ => .text

def aliases : Attribute → List String
  | operation => ["airState.operation", "Operation"]
  | operationMode => ["airState.opMode", "OpMode"]
  | windStrength => ["airState.windStrength", "WindStrength"]
  | targetTemperature => ["airState.tempState.target", "TempCfg"]
  | currentTemperature => ["airState.tempState.current", "TempCur"]
  | coolJet => ["airState.wMode.jet", "Jet"]
  | airClean => ["airState.wMode.airClean", "AirClean"]
  | autoDry => ["airState.miscFuncState.autoDry", "AutoDry"]
  | energySaving => ["airState.powerSave.basic", "PowerSave"]
  | state => ["state", "State"]
  | processState => ["processState", "ProcessState"]
  | preState => ["preState", "PreState"]
  | course => ["course", "Course", "APCourse"]
  | smartCourse => ["smartCourse", "SmartCourse"]
  | downloadedCourse => ["downloadedCourse"]
  | temperature => ["temp", "WaterTemp"]
  | rinse => ["rinse", "RinseOption"]
  | spin => ["spin", "SpinSpeed"]
  | dryLevel => ["dryLevel", "DryLevel"]
  | soilWash => ["soilWash", "Wash"]
  | doorLock => ["doorLock", "DoorLock"]
  | childLock => ["childLock", "ChildLock"]
  | error => ["error", "Error"]
  | remainHours => ["remainTimeHour", "Remain_Time_H"]
  | remainMinutes => ["remainTimeMinute", "Remain_Time_M"]
  | reserveHours => ["reserveTimeHour", "Reserve_Time_H"]
  | reserveMinutes => ["reserveTimeMinute", "Reserve_Time_M"]
  | initialHours => ["initialTimeHour", "Initial_Time_H"]
  | initialMinutes => ["initialTimeMinute", "Initial_Time_M"]
  | standby => ["standby"]
  | remoteStart => ["remoteStart"]
  | fridgeTemperature => ["fridgeTemp", "TempRefrigerator"]
  | freezerTemperature => ["freezerTemp", "TempFreezer"]
  | temperatureUnit => ["tempUnit", "TempUnit"]
  | doorOpen => ["atLeastOneDoorOpen", "DoorOpenState"]
  | expressMode => ["expressMode", "ExpressMode"]
  | icePlus => ["icePlus", "IcePlus"]
  | freshAirFilter => ["freshAirFilter", "FreshAirFilter"]
  | waterFilter => ["waterFilter", "WaterFilterUsedMonth"]
  | smartSaving => ["smartSavingMode", "SmartSavingMode"]
  | activeSaving => ["activeSaving", "ActiveSavingStatus"]

end Attribute

abbrev AliasTable := Fields Attribute

inductive StatusModel where
  | airConditioner
  | laundry
  | refrigerator
  deriving DecidableEq, Repr

namespace StatusModel

def attributes : StatusModel → List Attribute
  | airConditioner =>
      [.operation, .operationMode, .windStrength, .targetTemperature, .currentTemperature, .coolJet,
       .airClean, .autoDry, .energySaving]
  | laundry =>
      [.state, .processState, .preState, .course, .smartCourse, .downloadedCourse, .temperature,
       .rinse, .spin, .dryLevel, .soilWash, .doorLock, .childLock, .error, .remainHours,
       .remainMinutes, .reserveHours, .reserveMinutes, .initialHours, .initialMinutes, .standby,
       .remoteStart]
  | refrigerator =>
      [.fridgeTemperature, .freezerTemperature, .temperatureUnit, .doorOpen, .expressMode, .icePlus,
       .freshAirFilter, .waterFilter, .smartSaving, .activeSaving]

def aliases (model : StatusModel) : AliasTable :=
  model.attributes.flatMap fun a => a.aliases.map fun name => (name, a)

def deviceNode? : StatusModel → Option String
  | airConditioner => none
  | laundry => some "washerDryer"
  | refrigerator => some "refState"

end StatusModel

def Family.statusModel? : Family → Option StatusModel
  | .airConditioner => some .airConditioner
  | .washer | .dryer | .washingTower | .dryerTower => some .laundry
  | .refrigerator => some .refrigerator
  | .unknown => none

end ApplianceCloud
