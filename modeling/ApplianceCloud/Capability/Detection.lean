import ApplianceCloud.Device.Family

namespace ApplianceCloud.Detection

def supportKey : Generation → String
  | .first => "SupportOpMode"
  | .second => "support.airState.opMode"

def readingsKey : Generation → String
  | .first => "Value"
  | .second => "MonitoringValue"

def family (document : Fields Document) : Except Failure Family :=
  match (document.orNull "Info").object? with
  | none => .error (.capability (.nodeMissing "Info"))
  | some info => do
      let found ← Family.ofProduct (info.orNull "productType") (info.orNull "modelType")
      if found = .unknown then
        .error (.capability (.unsupportedType (info.orNull "productType").display))
      else return found

def airConditionerGeneration (document : Fields Document) : Except Failure Generation :=
  let value := (document.orNull "Value").object?.getD []
  if value.has (supportKey .second) then .ok .second
  else if value.has (supportKey .first) then .ok .first
  else .error (.capability (.unknownVersion "air conditioner"))

def readingsGeneration (words : String) (document : Fields Document) : Except Failure Generation :=
  if (document.orNull (readingsKey .first)).isObject then .ok .first
  else if (document.orNull (readingsKey .second)).isObject then .ok .second
  else .error (.capability (.unknownVersion words))

def laundryGeneration (document : Fields Document) : Except Failure Generation :=
  readingsGeneration "washer/dryer" document

def refrigeratorGeneration (document : Fields Document) : Except Failure Generation :=
  readingsGeneration "refrigerator" document

def generation (document : Fields Document) (family : Family) : Except Failure Generation :=
  match family with
  | .airConditioner => airConditionerGeneration document
  | .washer | .dryer | .washingTower | .dryerTower => laundryGeneration document
  | .refrigerator => refrigeratorGeneration document
  | .unknown => .error (.capability (.unsupportedType Family.unknown.name))

def ofObject (ask : Fields Document → Except Failure α) (document : Document) : Except Failure α :=
  match document.object? with
  | some members => ask members
  | none => .error (.shape (.noMember document.kind "get"))

def generationOf (document : Document) (family : Family) : Except Failure Generation :=
  if family = .unknown then generation [] family else ofObject (generation · family) document

end ApplianceCloud.Detection
