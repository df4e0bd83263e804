import ApplianceCloud.Document.Conversion
import ApplianceCloud.Failure
import ApplianceCloud.Text.Capital

namespace ApplianceCloud

inductive Family where
  | airConditioner
  | washer
  | dryer
  | washingTower
  | dryerTower
  | refrigerator
  | unknown
  deriving DecidableEq, Repr

namespace Family

def all : List Family :=
  [airConditioner, washer, dryer, washingTower, dryerTower, refrigerator, unknown]

def name : Family → String
  | airConditioner => "AIR_CONDITIONER"
  | washer => "WASHERDRYER_MACHINE"
  | dryer => "DRYER"
  | washingTower => "WASHING_TOWER"
  | dryerTower => "DRYER_TOWER"
  | refrigerator => "REFRIGERATOR"
  | unknown => "UNKNOWN"

def typeId : Family → Int
  | airConditioner => 401
  | washer => 201
  | dryer => 202
  | washingTower => 221
  | dryerTower => 222
  | refrigerator => 101
  | unknown => -1

def acronym : Family → String
  | airConditioner => "AC"
  | washer | washingTower => "WM"
  | dryer | dryerTower => "DR"
  | refrigerator => "REF"
  | unknown => ""

def isLaundry : Family → Bool
  | washer | dryer | washingTower | dryerTower => true
  | _ => false

def isDryer : Family → Bool
  | dryer | dryerTower => true
  | _ => false

/-- The family of a number. A document without an integer value has the unknown family; only a
number that is too large to be an integer is a failure. -/
def ofTypeId (id : Document) : Except Failure Family :=
  match id.toInteger with
  | .ok n => .ok ((all.find? (·.typeId = n)).getD unknown)
  | .error fault => if fault.isOverflow then .error (.conversion fault) else .ok unknown

def wordOf (d : Document) : Except Failure String :=
  if !d.isTruthy then .ok ""
  else match d with
    | .text s => .ok (Text.capitals s)
    | other => .error (.shape (.noMember other.kind "upper"))

def ofWords (product model : String) : Family :=
  let tower := Text.occursIn "TOWER".toList model.toList
  if product = "AC" then airConditioner
  else if product = "WM" || product = "WASHER" then
    if model = "DRYER" then dryer else if tower then washingTower else washer
  else if product = "DR" || product = "DRYER" then
    if tower then dryerTower else dryer
  else if product = "REF" || product = "REFRIGERATOR" then refrigerator
  else unknown

def ofProduct (product model : Document) : Except Failure Family := do
  return ofWords (← wordOf product) (← wordOf model)

end Family

inductive Generation where
  | first
  | second
  deriving DecidableEq, Repr

def Generation.platform : Generation → String
  | first => "thinq1"
  | second => "thinq2"

end ApplianceCloud
