import ApplianceCloud.Capability.Document
import ApplianceCloud.Proofs.Capability.OptionMap
import ApplianceCloud.Proofs.Outcome

namespace ApplianceCloud.AirConditioner

open OptionMap

structure Model where
  operationMode : SettingModel
  fanSpeed : SettingModel
  jet : CodeTable
  autoDry : CodeTable
  airClean : CodeTable
  functions : List String

def Model.unit (model : Model) (header : CapabilityHeader) : AirConditioner where
  header
  operationMode := model.operationMode.setting Labels.operationMode
  fanSpeed := model.fanSpeed.setting Labels.fanSpeed
  coolJet := coolJetOf model.jet.entries
  autoDry := listedToggle ("@AUTODRY" ∈ model.functions) model.autoDry.entries "@ON" "@OFF"
  airClean := listedToggle ("@AIRCLEAN" ∈ model.functions) model.airClean.entries
    "@AC_MAIN_AIRCLEAN_ON_W" "@AC_MAIN_AIRCLEAN_OFF_W"
  energySaving := { available := "@ENERGYSAVING" ∈ model.functions, onCode := "1", offCode := "0" }

structure DescribesSetting (value : Fields Document) (node support optionsKey : String)
    (model : SettingModel) : Prop where
  lists : Lists (optionsIn (.object value) node optionsKey) model.table
  supports : Supports (value.orNull support) optionsKey model.supported?

/-- Value nodes of a generation that describe a model. -/
structure Describes (generation : Generation) (value : Fields Document) (model : Model) : Prop where
  marked : value.has (Detection.supportKey .second) = decide (generation = .second)
  operationMode : DescribesSetting value (nodeNames generation).operationMode
    (nodeNames generation).supportedModes (nodeNames generation).options model.operationMode
  fanSpeed : DescribesSetting value (nodeNames generation).fanSpeed
    (nodeNames generation).supportedSpeeds (nodeNames generation).options model.fanSpeed
  jet : Lists (optionsIn (.object value) (nodeNames generation).jet (nodeNames generation).options)
    model.jet
  autoDry : Lists (optionsIn (.object value) (nodeNames generation).autoDry
    (nodeNames generation).options) model.autoDry
  airClean : Lists (optionsIn (.object value) (nodeNames generation).airClean
    (nodeNames generation).options) model.airClean
  functions : ∀ text, text ∈ listedLabels (value.orNull (nodeNames generation).functions)
    (nodeNames generation).options ↔ text ∈ model.functions

theorem settingOf_ok {value : Fields Document} {node support optionsKey : String}
    {wordings : Fields String} {model : SettingModel} {setting : Setting}
    (describes : DescribesSetting value node support optionsKey model)
    (read : settingOf value node support optionsKey wordings = .ok setting) :
    setting = model.setting wordings := by
  unfold settingOf at read
  split at read
  · cases read
  · next members present =>
    have options : members.orNull optionsKey = optionsIn (.object value) node optionsKey := by
      cases found : value.orNull node <;> simp_all [Document.object?]
      simp only [Fields.orNull] at found
      simp [Fields.orNull, optionsIn, Document.member?, Document.object?, found]
    have labels := model.table.codeLabels_eq describes.lists
    have supported := model.supportedCodes_eq describes.supports
    cases read
    simp [SettingModel.setting, options, labels, supported]

theorem ofDocument_ok {document value : Fields Document} {family : Family} {generation : Generation}
    {model : Model} {unit : AirConditioner} (present : document.orNull "Value" = .object value)
    (describes : Describes generation value model)
    (read : ofDocument document family generation = .ok unit) :
    unit = model.unit unit.header ∧ unit.header.generation = generation := by
  unfold ofDocument at read
  simp only [present, Document.object?, bind_eq_ok_iff, pure_eq_ok_iff] at read
  obtain ⟨operationMode, readMode, fanSpeed, readSpeed, reporting, -, rfl⟩ := read
  have mode := settingOf_ok describes.operationMode readMode
  have speed := settingOf_ok describes.fanSpeed readSpeed
  simp [Model.unit, mode, speed, CodeTable.codeLabels_eq _ describes.jet,
    CodeTable.codeLabels_eq _ describes.autoDry, CodeTable.codeLabels_eq _ describes.airClean,
    describes.functions]

theorem ofFamily_airConditioner {members : Fields Document} {family : Family} {unit : AirConditioner}
    (read : Capability.ofFamily members family = .ok (.airConditioner unit)) :
    ∃ generation, Detection.airConditionerGeneration members = .ok generation ∧
      ofDocument members .airConditioner generation = .ok unit := by
  unfold Capability.ofFamily at read
  obtain ⟨generation, shown, read⟩ := bind_eq_ok_iff.1 read
  split at read
  · next same =>
    subst same
    obtain ⟨unit', read, same⟩ := bind_eq_ok_iff.1 read
    cases same
    exact ⟨generation, shown, read⟩
  · split at read
    · obtain ⟨_, _, other⟩ := bind_eq_ok_iff.1 read
      cases other
    · obtain ⟨_, _, other⟩ := bind_eq_ok_iff.1 read
      cases other

theorem exists_generation {document : Document} {requested : Option Family} {unit : AirConditioner}
    (read : Capability.ofDocument document requested = .ok (.airConditioner unit)) :
    ∃ members generation, document = .object members ∧
      Detection.airConditionerGeneration members = .ok generation ∧
      ofDocument members .airConditioner generation = .ok unit := by
  obtain ⟨members, family, isObject, read⟩ := Capability.ofFamily_of_ofDocument read
  obtain ⟨generation, shown, read⟩ := ofFamily_airConditioner read
  exact ⟨members, generation, isObject, shown, read⟩

theorem generation_of_describes {document value : Fields Document} {generation shown : Generation}
    {model : Model} (present : document.orNull "Value" = .object value)
    (describes : Describes generation value model)
    (detected : Detection.airConditionerGeneration document = .ok shown) : shown = generation := by
  have marked := describes.marked
  unfold Detection.airConditionerGeneration at detected
  rw [present] at detected
  simp only [Document.object?, Option.getD_some, marked] at detected
  cases generation with
  | first =>
    by_cases named : value.has (Detection.supportKey .first) = true <;> simp [named] at detected
    exact detected.symm
  | second =>
    cases detected
    rfl

theorem read_eq_of_describes {model : Model} {document : Document} {value : Fields Document}
    {generation : Generation} {requested : Option Family} {unit : AirConditioner}
    (present : document.member? "Value" = some (.object value))
    (describes : Describes generation value model)
    (read : Capability.ofDocument document requested = .ok (.airConditioner unit)) :
    unit = model.unit unit.header ∧ unit.header.generation = generation := by
  obtain ⟨members, shown, rfl, detected, read⟩ := exists_generation read
  have present' : Fields.orNull members "Value" = .object value := by
    simp only [Document.member?, Document.object?, Option.bind_some] at present
    exact Fields.orNull_of_lookup present
  obtain rfl := generation_of_describes present' describes detected
  exact ofDocument_ok present' describes read

/-- The documents of two generations that describe one model read as the same unit. -/
theorem unit_eq_of_describes {model : Model} {document document' : Document}
    {value value' : Fields Document} {requested requested' : Option Family}
    {unit unit' : AirConditioner}
    (present : document.member? "Value" = some (.object value))
    (present' : document'.member? "Value" = some (.object value'))
    (first : Describes .first value model) (second : Describes .second value' model)
    (read : Capability.ofDocument document requested = .ok (.airConditioner unit))
    (read' : Capability.ofDocument document' requested' = .ok (.airConditioner unit')) :
    unit.header.generation = .first ∧ unit'.header.generation = .second ∧
      { unit with header := unit'.header } = unit' := by
  obtain ⟨same, generation⟩ := read_eq_of_describes present first read
  obtain ⟨same', generation'⟩ := read_eq_of_describes present' second read'
  refine ⟨generation, generation', ?_⟩
  rw [same, same']
  rfl

section Sample

def noCodes : CodeTable := ⟨[], .nil, .nil, by simp⟩

def sampleModel : Model where
  operationMode := {
    table := {
      entries := [("0", "@AC_MAIN_OPERATION_MODE_COOL_W"), ("1", "@AC_MAIN_OPERATION_MODE_DRY_W")]
      codes_nodup := by decide
      labels_nodup := by decide
      isEntry := by
        intro entry member
        simp only [List.mem_cons, List.not_mem_nil, or_false] at member
        obtain rfl | rfl := member <;> exact ⟨by decide, by decide, by decide, by decide⟩ }
    supported? := some [("1", "@AC_MAIN_OPERATION_MODE_DRY_W")]
    recognised := by
      intro entries listed entry member
      cases listed
      exact .inl (List.mem_cons_of_mem _ member) }
  fanSpeed := { table := noCodes, supported? := none, recognised := by simp }
  jet := noCodes
  autoDry := noCodes
  airClean := noCodes
  functions := ["@ENERGYSAVING"]

def sampleValue : Generation → Fields Document
  | .first => [
      ("OpMode", .object [("option", .object [
        ("@AC_MAIN_OPERATION_MODE_COOL_W", .text "0"),
        ("1", .text "@AC_MAIN_OPERATION_MODE_DRY_W")])]),
      ("WindStrength", .object []),
      ("SupportOpMode", .list [.text "@NON", .text "1"]),
      ("SupportRACMode", .list [.text "@ENERGYSAVING"])]
  | .second => [
      ("airState.opMode", .object [("value_mapping", .object [
        ("0", .object [("label", .text "@AC_MAIN_OPERATION_MODE_COOL_W")]),
        ("@AC_MAIN_OPERATION_MODE_DRY_W", .int 1)])]),
      ("airState.windStrength", .object []),
      ("support.airState.opMode", .object [("value_mapping", .object [
        ("0", .text "@AC_MAIN_OPERATION_MODE_DRY_W"), ("1", .text "@NON")])]),
      ("support.racMode", .list [.text "@ENERGYSAVING"])]

theorem describes_sampleValue (generation : Generation) :
    Describes generation (sampleValue generation) sampleModel where
  marked := by cases generation <;> decide +kernel
  operationMode := by
    cases generation
    · exact ⟨.cons (.byLabel rfl) (.cons (.byCode rfl) .nil), rfl, .cons (.inl rfl) .nil⟩
    · exact ⟨.cons (.byCode rfl) (.cons (.byLabel rfl) .nil), rfl, .cons (.inr rfl) .nil⟩
  fanSpeed := by cases generation <;> exact ⟨.nil, rfl⟩
  jet := by cases generation <;> exact .nil
  autoDry := by cases generation <;> exact .nil
  airClean := by cases generation <;> exact .nil
  functions := by cases generation <;> exact fun _ => .rfl

def sampleDocument (generation : Generation) : Document :=
  .object [("Info", .object [("productType", .text "AC")]),
    ("Value", .object (sampleValue generation))]

theorem unit_eq_sample : ∃ unit unit',
    Capability.ofDocument (sampleDocument .first) (some .airConditioner) =
      .ok (.airConditioner unit) ∧
    Capability.ofDocument (sampleDocument .second) none = .ok (.airConditioner unit') ∧
    unit.header.generation = .first ∧ unit'.header.generation = .second ∧
      { unit with header := unit'.header } = unit' := by
  have read : ∃ unit, Capability.ofDocument (sampleDocument .first) (some .airConditioner) =
      .ok (.airConditioner unit) := ⟨_, rfl⟩
  have read' : ∃ unit, Capability.ofDocument (sampleDocument .second) none =
      .ok (.airConditioner unit) := ⟨_, rfl⟩
  obtain ⟨unit, read⟩ := read
  obtain ⟨unit', read'⟩ := read'
  exact ⟨unit, unit', read, read', unit_eq_of_describes rfl rfl (describes_sampleValue .first)
    (describes_sampleValue .second) read read'⟩

end Sample

end ApplianceCloud.AirConditioner
