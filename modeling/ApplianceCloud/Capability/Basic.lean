import ApplianceCloud.Capability.Command
import ApplianceCloud.Capability.Course
import ApplianceCloud.Capability.Feature
import ApplianceCloud.Capability.Labels

namespace ApplianceCloud

structure CapabilityHeader where
  family : Family
  generation : Generation
  reporting : Reporting
  deriving DecidableEq, Repr

structure Toggle where
  available : Bool := false
  onCode : String := ""
  offCode : String := ""
  deriving DecidableEq, Repr

/-- Codes of a setting: every declared one with the vendor's label, the supported ones, and the
supported ones with the operator's label. -/
structure Setting where
  labels : Fields String
  supported : List String
  operatorLabels : Fields String
  deriving DecidableEq, Repr

structure AirConditioner where
  header : CapabilityHeader
  operationMode : Setting
  fanSpeed : Setting
  coolJet : Toggle
  autoDry : Toggle
  airClean : Toggle
  energySaving : Toggle
  deriving DecidableEq, Repr

inductive LaundryFeature where
  | state
  | processState
  | preState
  | rinse
  | temperature
  | spin
  | dryLevel
  | soilWash
  | error
  deriving DecidableEq, Repr

namespace LaundryFeature

def all : List LaundryFeature :=
  [state, processState, preState, rinse, temperature, spin, dryLevel, soilWash, error]

def name : LaundryFeature → String
  | state => "state"
  | processState => "process_state"
  | preState => "pre_state"
  | rinse => "rinse"
  | temperature => "temperature"
  | spin => "spin"
  | dryLevel => "dry_level"
  | soilWash => "soil_wash"
  | error => "error"

def ofName? (s : String) : Option LaundryFeature := all.find? (·.name = s)

def isReadOnly : LaundryFeature → Bool
  | state | processState | preState | error => true
  | _ => false

end LaundryFeature

structure LaundryEquipment where
  doorLock : Bool
  turboWash : Bool
  childLock : Bool
  remoteStart : Bool
  standby : Bool
  deriving DecidableEq, Repr

/-- The names of the fields that hold the selected courses; an empty name means no such field. -/
structure CourseFieldNames where
  course : String
  smartCourse : String
  downloadedCourse : String
  deriving DecidableEq, Repr

structure LaundryCommandNames where
  remoteStart : String
  stop : String
  wakeUp : String
  deriving DecidableEq, Repr

structure Laundry where
  header : CapabilityHeader
  courses : Fields Course
  smartCourses : Fields Course
  features : List (LaundryFeature × Feature)
  equipment : LaundryEquipment
  commands : Fields Command
  courseFields : CourseFieldNames
  defaultCourse : String
  commandNames : LaundryCommandNames
  notSelected : String
  deriving Repr

namespace Laundry

def feature? (laundry : Laundry) (feature : LaundryFeature) : Option Feature :=
  laundry.features.lookup feature

def featureNamed? (laundry : Laundry) (name : String) : Option Feature :=
  (LaundryFeature.ofName? name).bind laundry.feature?

def labelFor? (laundry : Laundry) (name code : String) : Option String :=
  (laundry.featureNamed? name).bind (·.labelFor? code)

def codeFor? (laundry : Laundry) (name label : String) : Option String :=
  (laundry.featureNamed? name).bind (·.codeFor? label)

def wordings (laundry : Laundry) : LaundryFeature → Fields String
  | .state => if laundry.header.family.isDryer then Labels.dryerState else Labels.washerState
  | .processState => Labels.dryerProcessState
  | .temperature => Labels.washerTemperature
  | .dryLevel => Labels.dryLevel
  | _ => []

/-- The operator's label of a code: the fixed wording where there is one, else the declared label. -/
def describe? (laundry : Laundry) (name code : String) : Option String :=
  (LaundryFeature.ofName? name).bind fun feature =>
    ((laundry.feature? feature).bind (·.labelFor? code)).map fun label =>
      ((laundry.wordings feature).lookup label).getD label

def course? (laundry : Laundry) (id : String) : Option Course :=
  (laundry.courses.lookup id).or (laundry.smartCourses.lookup id)

def command? (laundry : Laundry) (name : String) : Option Command := laundry.commands.lookup name

end Laundry

inductive RefrigeratorSetting where
  | fridgeTemperatureC
  | fridgeTemperatureF
  | freezerTemperatureC
  | freezerTemperatureF
  | temperatureUnit
  | icePlus
  | freshAirFilter
  | waterFilter
  | expressMode
  | smartSaving
  | activeSaving
  | doorOpen
  deriving DecidableEq, Repr

namespace RefrigeratorSetting

def all : List RefrigeratorSetting :=
  [fridgeTemperatureC, fridgeTemperatureF, freezerTemperatureC, freezerTemperatureF, temperatureUnit,
   icePlus, freshAirFilter, waterFilter, expressMode, smartSaving, activeSaving, doorOpen]

def name : RefrigeratorSetting → String
  | fridgeTemperatureC => "fridge_temp_c"
  | fridgeTemperatureF => "fridge_temp_f"
  | freezerTemperatureC => "freezer_temp_c"
  | freezerTemperatureF => "freezer_temp_f"
  | temperatureUnit => "temp_unit"
  | icePlus => "ice_plus"
  | freshAirFilter => "fresh_air_filter"
  | waterFilter => "water_filter"
  | expressMode => "express_mode"
  | smartSaving => "smart_saving"
  | activeSaving => "active_saving"
  | doorOpen => "door_open"

end RefrigeratorSetting

structure Refrigerator where
  header : CapabilityHeader
  settings : List (RefrigeratorSetting × Fields String)
  commands : Fields Command
  deriving Repr

namespace Refrigerator

def labels (refrigerator : Refrigerator) (setting : RefrigeratorSetting) : Fields String :=
  (refrigerator.settings.lookup setting).getD []

end Refrigerator

inductive Capability where
  | airConditioner (unit : AirConditioner)
  | laundry (unit : Laundry)
  | refrigerator (unit : Refrigerator)
  deriving Repr

namespace Capability

def header : Capability → CapabilityHeader
  | airConditioner unit => unit.header
  | laundry unit => unit.header
  | refrigerator unit => unit.header

def family (capability : Capability) : Family := capability.header.family

def commands : Capability → Fields Command
  | airConditioner _ => []
  | laundry unit => unit.commands
  | refrigerator unit => unit.commands

def laundry? : Capability → Option Laundry
  | laundry unit => some unit
  | _ => none

end Capability

end ApplianceCloud
