import ApplianceCloud.Capability.Basic
import ApplianceCloud.Capability.Detection

namespace ApplianceCloud.AirConditioner

structure NodeNames where
  options : String
  operationMode : String
  fanSpeed : String
  supportedModes : String
  supportedSpeeds : String
  jet : String
  functions : String
  autoDry : String
  airClean : String

def nodeNames : Generation → NodeNames
  | .first => {
      options := "option"
      operationMode := "OpMode"
      fanSpeed := "WindStrength"
      supportedModes := Detection.supportKey .first
      supportedSpeeds := "SupportWindStrength"
      jet := "Jet"
      functions := "SupportRACMode"
      autoDry := "AutoDry"
      airClean := "AirClean" }
  | .second => {
      options := "value_mapping"
      operationMode := "airState.opMode"
      fanSpeed := "airState.windStrength"
      supportedModes := Detection.supportKey .second
      supportedSpeeds := "support.airState.windStrength"
      jet := "airState.wMode.jet"
      functions := "support.racMode"
      autoDry := "airState.miscFuncState.autoDry"
      airClean := "airState.wMode.airClean" }

def codeOf (labels : Fields String) (label : String) : String :=
  (OptionMap.codeFor? labels label).getD ""

def settingOf (value : Fields Document) (node support optionsKey : String)
    (wordings : Fields String) : Except Failure Setting :=
  match (value.orNull node).object? with
  | none => .error (.capability (.nodeMissing ("Value." ++ node)))
  | some members =>
      let labels := OptionMap.codeLabels (members.orNull optionsKey)
      let supported := OptionMap.supportedCodes (value.orNull support) optionsKey labels
      .ok { labels, supported, operatorLabels := OptionMap.operatorLabels labels supported wordings }

def coolJetOf (labels : Fields String) : Toggle where
  available := (OptionMap.codeFor? labels "@COOL_JET").isSome
  onCode := codeOf labels "@COOL_JET"
  offCode := codeOf labels "@OFF"

def listedToggle (listed : Bool) (labels : Fields String) (onLabel offLabel : String) : Toggle :=
  if listed then
    { available := true, onCode := codeOf labels onLabel, offCode := codeOf labels offLabel }
  else {}

def ofDocument (document : Fields Document) (family : Family) (generation : Generation) :
    Except Failure AirConditioner :=
  let names := nodeNames generation
  match (document.orNull "Value").object? with
  | none => .error (.capability (.nodeMissing "Value"))
  | some value => do
      let operationMode ←
        settingOf value names.operationMode names.supportedModes names.options Labels.operationMode
      let fanSpeed ←
        settingOf value names.fanSpeed names.supportedSpeeds names.options Labels.fanSpeed
      let optionsOf (node : String) :=
        OptionMap.codeLabels (OptionMap.optionsIn (.object value) node names.options)
      let functions := OptionMap.listedLabels (value.orNull names.functions) names.options
      let reporting ← Reporting.ofDocument generation document
      return {
        header := { family, generation, reporting }
        operationMode
        fanSpeed
        coolJet := coolJetOf (optionsOf names.jet)
        autoDry := listedToggle ("@AUTODRY" ∈ functions) (optionsOf names.autoDry) "@ON" "@OFF"
        airClean := listedToggle ("@AIRCLEAN" ∈ functions) (optionsOf names.airClean)
          "@AC_MAIN_AIRCLEAN_ON_W" "@AC_MAIN_AIRCLEAN_OFF_W"
        energySaving :=
          { available := "@ENERGYSAVING" ∈ functions, onCode := "1", offCode := "0" } }

end ApplianceCloud.AirConditioner
