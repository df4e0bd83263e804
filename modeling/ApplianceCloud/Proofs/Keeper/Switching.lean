import ApplianceCloud.Proofs.Capability.Bijection
import ApplianceCloud.Proofs.Capability.Support
import ApplianceCloud.Proofs.Keeper.Commands

namespace ApplianceCloud

def Toggle.code (toggle : Toggle) (on : Bool) : String := if on then toggle.onCode else toggle.offCode

/-- Whether a toggle has two codes to be switched by, both declared. -/
structure Toggle.IsUsable (toggle : Toggle) (labels : Fields String) : Prop where
  nonempty : ∀ on, toggle.code on ≠ ""
  distinct : toggle.code true ≠ toggle.code false
  declared : ∀ on, labels.has (toggle.code on) = true

namespace AirConditioner

inductive Switch where
  | coolJet
  | autoDry
  | airClean

namespace Switch

def name : Switch → String
  | coolJet => "cool_jet"
  | autoDry => "auto_dry"
  | airClean => "air_clean"

def setting : Switch → Control.AirSetting
  | coolJet => .coolJet
  | autoDry => .autoDry
  | airClean => .airClean

def toggle (unit : AirConditioner) : Switch → Toggle
  | coolJet => unit.coolJet
  | autoDry => unit.autoDry
  | airClean => unit.airClean

def node (names : NodeNames) : Switch → String
  | coolJet => names.jet
  | autoDry => names.autoDry
  | airClean => names.airClean

def label : Switch → Bool → String
  | coolJet, true => "@COOL_JET"
  | coolJet, false => "@OFF"
  | autoDry, true => "@ON"
  | autoDry, false => "@OFF"
  | airClean, true => "@AC_MAIN_AIRCLEAN_ON_W"
  | airClean, false => "@AC_MAIN_AIRCLEAN_OFF_W"

def labels (switch : Switch) (value : Fields Document) (names : NodeNames) : Fields String :=
  OptionMap.codeLabels (OptionMap.optionsIn (.object value) (switch.node names) names.options)

def IsListed (switch : Switch) (value : Fields Document) (names : NodeNames) : Prop :=
  let functions := OptionMap.listedLabels (value.orNull names.functions) names.options
  match switch with
  | coolJet => ∃ code, (switch.labels value names).lookup code = some "@COOL_JET"
  | autoDry => "@AUTODRY" ∈ functions
  | airClean => "@AIRCLEAN" ∈ functions

variable (switch : Switch) {value : Fields Document} {names : NodeNames} {unit : AirConditioner}

theorem toggled?_name : Order.toggled? unit switch.name = some (switch.setting, switch.toggle unit) := by
  cases switch <;> rfl

theorem label_ne : switch.label true ≠ switch.label false := by
  cases switch <;> decide

end Switch

/-- How a document has a function and its codes. -/
structure Switches (switch : Switch) (value : Fields Document) (names : NodeNames) (toggle : Toggle) :
    Prop where
  available : toggle.available = true ↔ switch.IsListed value names
  code : toggle.available = true → ∀ on,
    toggle.code on = codeOf (switch.labels value names) (switch.label on)

@[simp] theorem available_listedToggle {listed : Bool} {labels : Fields String} {onLabel offLabel : String} :
    (listedToggle listed labels onLabel offLabel).available = listed := by
  cases listed <;> rfl

theorem code_listedToggle (switch : Switch) {listed : Bool} {labels : Fields String}
    (available : (listedToggle listed labels (switch.label true) (switch.label false)).available = true)
    (on : Bool) :
    (listedToggle listed labels (switch.label true) (switch.label false)).code on =
      codeOf labels (switch.label on) := by
  rw [available_listedToggle] at available
  subst available
  cases on <;> rfl

theorem switches_coolJetOf {value : Fields Document} {names : NodeNames} :
    Switches .coolJet value names (coolJetOf (Switch.labels .coolJet value names)) := by
  refine ⟨?_, fun _ on => by cases on <;> rfl⟩
  rw [coolJetOf, Option.isSome_iff_exists]
  exact exists_congr fun code => (OptionMap.lookup_codeLabels_iff _).symm

theorem switches_of_ofDocument {document : Document} {requested : Option Family} {unit : AirConditioner}
    (read : Capability.ofDocument document requested = .ok (.airConditioner unit)) :
    ∃ value : Fields Document, document.member? "Value" = some (.object value) ∧
      ∀ switch : Switch, Switches switch value (nodeNames unit.header.generation) (switch.toggle unit) := by
  obtain ⟨members, generation, rfl, -, read⟩ := exists_generation read
  unfold ofDocument at read
  dsimp only at read
  split at read
  · cases read
  · next value present =>
    simp only [bind_eq_ok_iff, pure_eq_ok_iff] at read
    obtain ⟨operationMode, -, fanSpeed, -, reporting, -, rfl⟩ := read
    refine ⟨value, Fields.lookup_of_object?_orNull present, fun switch => ?_⟩
    cases switch with
    | coolJet => exact switches_coolJetOf
    | autoDry => exact ⟨by simp [Switch.toggle, Switch.IsListed], code_listedToggle .autoDry⟩
    | airClean => exact ⟨by simp [Switch.toggle, Switch.IsListed], code_listedToggle .airClean⟩

theorem codeOf_eq_iff {options : Document} {label code : String} (nonempty : code ≠ "") :
    codeOf (OptionMap.codeLabels options) label = code ↔
      (OptionMap.codeLabels options).lookup code = some label := by
  rw [OptionMap.lookup_codeLabels_iff, codeOf]
  cases found : OptionMap.codeFor? (OptionMap.codeLabels options) label with
  | none => simpa using nonempty.symm
  | some other => simp

namespace Switches

variable {switch : Switch} {value : Fields Document} {names : NodeNames} {toggle : Toggle}

theorem isUsable_iff (switches : Switches switch value names toggle) (available : toggle.available = true) :
    toggle.IsUsable (switch.labels value names) ↔
      ∀ on, ∃ code, code ≠ "" ∧ (switch.labels value names).lookup code = some (switch.label on) := by
  have code := switches.code available
  constructor
  · rintro ⟨nonempty, -, -⟩ on
    exact ⟨toggle.code on, nonempty on, (codeOf_eq_iff (nonempty on)).1 (code on).symm⟩
  · intro declared
    have given (on : Bool) : toggle.code on ≠ "" ∧
        (switch.labels value names).lookup (toggle.code on) = some (switch.label on) := by
      obtain ⟨other, nonempty, found⟩ := declared on
      have same : toggle.code on = other := (code on).trans ((codeOf_eq_iff nonempty).2 found)
      rw [same]
      exact ⟨nonempty, found⟩
    refine ⟨fun on => (given on).1, fun same => ?_, fun on => ?_⟩
    · have found := (given true).2
      rw [same, (given false).2] at found
      exact switch.label_ne (Option.some.inj found).symm
    · rw [Fields.has, (given on).2, Option.isSome_some]

theorem code_spec (switches : Switches switch value names toggle) (available : toggle.available = true)
    (on : Bool) :
    (switch.labels value names).lookup (toggle.code on) = some (switch.label on) ∨
      toggle.code on = "" ∧
        ∀ code, (switch.labels value names).lookup code ≠ some (switch.label on) := by
  rw [switches.code available, codeOf]
  cases found : OptionMap.codeFor? (switch.labels value names) (switch.label on) with
  | some code => exact .inl ((OptionMap.lookup_codeLabels_iff _).2 found)
  | none =>
    refine .inr ⟨rfl, fun code declared => ?_⟩
    cases found.symm.trans ((OptionMap.lookup_codeLabels_iff _).1 declared)

end Switches

/-- Which functions a unit has, which of them have the codes to be switched by, and what a command to
switch one orders: the code for its label, whether it is declared or empty. -/
theorem switched_codes {document : Document} {requested : Option Family} {unit : AirConditioner}
    (read : Capability.ofDocument document requested = .ok (.airConditioner unit)) :
    ∃ value : Fields Document, document.member? "Value" = some (.object value) ∧
      ∀ switch : Switch,
        let names := nodeNames unit.header.generation
        let labels := switch.labels value names
        let toggle := switch.toggle unit
        (toggle.available = true ↔ switch.IsListed value names) ∧
        (toggle.available = true →
          (toggle.IsUsable labels ↔
            ∀ on, ∃ code, code ≠ "" ∧ labels.lookup code = some (switch.label on)) ∧
          ∀ on, labels.lookup (toggle.code on) = some (switch.label on) ∨
            toggle.code on = "" ∧ ∀ code, labels.lookup code ≠ some (switch.label on)) ∧
        ∀ (status? : Option Status) (command : DeviceCommand) (order : Order),
          command.name = switch.name →
          (Order.ofCommand (.airConditioner unit) status? command = .ok (some order) ↔
            toggle.available = true ∧
              order = .set switch.setting (.text (toggle.code command.value.isTruthy))) := by
  obtain ⟨value, present, switches⟩ := switches_of_ofDocument read
  refine ⟨value, present, fun switch => ⟨(switches switch).available, fun available =>
    ⟨(switches switch).isUsable_iff available, (switches switch).code_spec available⟩, ?_⟩⟩
  intro status? command order named
  have found : Order.toggled? unit command.name = some (switch.setting, switch.toggle unit) := by
    rw [named]
    exact switch.toggled?_name
  rw [Order.ofCommand, Order.ofAirCommand_of_toggled found]
  cases available : (switch.toggle unit).available with
  | true =>
    rw [if_pos rfl, Except.ok.injEq, Option.some.injEq, eq_comm, and_iff_right rfl]
    rfl
  | false => simp

def codelessDocument : Document :=
  .object [
    ("Info", .object [("productType", .text "AC")]),
    ("Value", .object [
      ("OpMode", .object [("option", .object [("0", .text "@AC_MAIN_OPERATION_MODE_COOL_W")])]),
      ("WindStrength", .object [("option", .object [])]),
      ("SupportOpMode", .list [.text "0"]),
      ("Jet", .object [("option", .object [("1", .text "@COOL_JET"), ("@OFF", .text "0")])]),
      ("SupportRACMode", .list [.text "@AUTODRY"])])]

theorem switched_codes_jet : ∃ unit,
    Capability.ofDocument codelessDocument none = .ok (.airConditioner unit) ∧
    unit.coolJet.IsUsable [("1", "@COOL_JET"), ("0", "@OFF")] ∧
    Order.ofCommand (.airConditioner unit) none { name := "cool_jet", value := .bool true } =
      .ok (some (.set .coolJet (.text "1"))) := by
  have read : Capability.ofDocument codelessDocument none = .ok (.airConditioner _) := rfl
  obtain ⟨value, present, switches⟩ := switched_codes read
  cases present
  obtain ⟨-, usable, ordered⟩ := switches .coolJet
  refine ⟨_, read, (usable rfl).1.2 fun on => ?_, (ordered none _ _ rfl).2 ⟨rfl, rfl⟩⟩
  cases on with
  | true => exact ⟨"1", by decide, rfl⟩
  | false => exact ⟨"0", by decide, rfl⟩

theorem not_usable_codeless : ∃ unit,
    Capability.ofDocument codelessDocument none = .ok (.airConditioner unit) ∧
    unit.autoDry.available = true ∧ unit.autoDry.onCode = "" ∧ unit.autoDry.offCode = "" ∧
    Order.ofCommand (.airConditioner unit) none { name := "auto_dry", value := .bool true } =
      .ok (some (.set .autoDry (.text ""))) :=
  ⟨_, rfl, rfl, rfl, rfl, rfl⟩

end AirConditioner

end ApplianceCloud
