import ApplianceCloud.Proofs.Control.Sending
import ApplianceCloud.Proofs.Keeper.Starting

namespace ApplianceCloud

open Control (Operation)

namespace DeviceCommand

inductive Choice where
  | operationMode
  | fanSpeed

namespace Choice

def name : Choice → String
  | operationMode => "operation_mode"
  | fanSpeed => "fan_speed"

def setting : Choice → Control.AirSetting
  | operationMode => .operationMode
  | fanSpeed => .fanSpeed

def offered (unit : AirConditioner) : Choice → Setting
  | operationMode => unit.operationMode
  | fanSpeed => unit.fanSpeed

def select : Choice → Document → Operation
  | operationMode => .selectMode
  | fanSpeed => .selectFanSpeed

end Choice

inductive Means (command : DeviceCommand) :
    Capability → Option Status → Except Failure Operation → Prop where
  | power {unit status?} (named : command.name = "power") :
      Means command (.airConditioner unit) status? (.ok (.turnPower command.value.isTruthy))
  | choice {unit status? text} (choice : Choice) (named : command.name = choice.name)
      (shown : command.value.toText = .ok text)
      (offered : (choice.offered unit).operatorLabels.has text = true) :
      Means command (.airConditioner unit) status?
        ((Control.integerOf command.value).map choice.select)
  | unshown {unit status? fault} (choice : Choice) (named : command.name = choice.name)
      (unshown : command.value.toText = .error fault) :
      Means command (.airConditioner unit) status? (.error (.conversion fault))
  | temperature {unit status?} (named : command.name = "target_temperature") :
      Means command (.airConditioner unit) status?
        ((Control.numberOf command.value).map .selectTemperature)
  | toggle {unit status? setting toggle}
      (named : Order.toggled? unit command.name = some (setting, toggle))
      (available : toggle.available = true) :
      Means command (.airConditioner unit) status?
        (.ok (.turn setting toggle command.value.isTruthy))
  | remoteStart {unit status?} (named : command.name = "remote_start")
      (allowed : ∀ status ∈ Order.laundryStatus status?,
        status.isStandby = false ∧ status.truth? .remoteStart ≠ some false) :
      Means command (.laundry unit) status?
        (.ok (.remoteStart unit (Order.laundryStatus status?)))
  | wakeUp {unit status?} (named : command.name = "wake_up")
      (standsBy : ∃ status ∈ Order.laundryStatus status?, status.isStandby = true) :
      Means command (.laundry unit) status? (.ok (.wakeUp unit))

def IsRefused (command : DeviceCommand) (unit : Capability) (status? : Option Status) : Prop :=
  ∀ result, ¬ command.Means unit status? result

def names : Capability → List String
  | .airConditioner _ =>
      ["power", "operation_mode", "fan_speed", "target_temperature", "cool_jet", "air_clean",
        "auto_dry", "energy_saving"]
  | .laundry _ => ["remote_start", "wake_up"]
  | .refrigerator _ => []

inductive IsUnsupported (command : DeviceCommand) : Capability → Prop where
  | unknown {unit} (unknown : command.name ∉ names unit) : IsUnsupported command unit
  | unoffered {unit text} (choice : Choice) (named : command.name = choice.name)
      (shown : command.value.toText = .ok text)
      (unoffered : (choice.offered unit).operatorLabels.has text = false) :
      IsUnsupported command (.airConditioner unit)
  | unavailable {unit setting toggle}
      (named : Order.toggled? unit command.name = some (setting, toggle))
      (unavailable : toggle.available = false) : IsUnsupported command (.airConditioner unit)
  | refrigerator (unit) : IsUnsupported command (.refrigerator unit)

end DeviceCommand

namespace Order

variable {unit : AirConditioner} {command : DeviceCommand} {setting : Control.AirSetting}
  {toggle : Toggle} {operation : Operation}

def IsFor (order : Order) (operation : Operation) : Prop :=
  ∀ (σ : Type) (generation : Generation) (device : String),
    (order.carryOut generation device : Cloud σ Unit) = operation.activity generation device

theorem isFor_of_sets {value : Document} (sets : operation.Sets setting (.ok value)) :
    (set setting value).IsFor operation :=
  fun _ _ _ => (Control.Operation.activity_of_sets sets).symm

theorem ofAirCommand_of_toggled (found : toggled? unit command.name = some (setting, toggle)) :
    ofAirCommand unit command = .ok (if toggle.available then
      some (set setting (.text (if command.value.isTruthy then toggle.onCode else toggle.offCode)))
      else none) := by
  unfold toggled? at found
  split at found
  case h_5 => cases found
  all_goals
    next name =>
    cases found
    simp [ofAirCommand, toggled?, name]

theorem mem_names_of_toggled (found : toggled? unit command.name = some (setting, toggle)) :
    command.name ∈ DeviceCommand.names (.airConditioner unit) := by
  unfold toggled? at found
  split at found
  case h_5 => cases found
  all_goals
    next name => simp [DeviceCommand.names, name]

/-- What is ordered, as the operation to be done or the failure of converting a value. -/
inductive Realizes : Except Failure (Option Order) → Except Failure Operation → Prop where
  | done {order operation} (isFor : IsFor order operation) :
      Realizes (.ok (some order)) (.ok operation)
  | failed (failure : Failure) : Realizes (.error failure) (.error failure)

end Order

namespace Control

theorem integerOf_int {value code : Document} (converted : integerOf value = .ok code) :
    integerOf code = .ok code := by
  unfold integerOf at converted
  split at converted <;> cases converted
  rfl

theorem numberOf_number {value degrees : Document} (converted : numberOf value = .ok degrees) :
    numberOf degrees = .ok degrees := by
  unfold numberOf at converted
  split at converted <;> cases converted
  rfl

end Control

namespace DeviceCommand

variable {command : DeviceCommand} {unit : Capability} {status? : Option Status}
  {result : Except Failure Operation}

theorem Choice.sets (choice : Choice) {value code : Document}
    (converted : Control.integerOf value = .ok code) :
    (choice.select code).Sets choice.setting (.ok code) := by
  rw [← Control.integerOf_int converted]
  cases choice with
  | operationMode => exact .selectMode code
  | fanSpeed => exact .selectFanSpeed code

theorem Choice.ofAirCommand_eq (choice : Choice) (named : command.name = choice.name)
    (air : AirConditioner) : Order.ofAirCommand air command =
      Order.choice choice.setting (choice.offered air) command.value := by
  cases choice <;> simp [Order.ofAirCommand, named, name, setting, offered]

theorem Means.realizes (means : command.Means unit status? result) :
    Order.Realizes (Order.ofCommand unit status? command) result := by
  cases means with
  | power named =>
    simp only [Order.ofCommand, Order.ofAirCommand, named]
    exact .done (Order.isFor_of_sets (.turnPower _))
  | choice choice named shown offered =>
    simp only [Order.ofCommand, choice.ofAirCommand_eq named, Order.choice, shown, offered, if_true]
    cases converted : Control.integerOf command.value with
    | error failure => exact .failed failure
    | ok code => exact .done (Order.isFor_of_sets (choice.sets converted))
  | unshown choice named unshown =>
    simp only [Order.ofCommand, choice.ofAirCommand_eq named, Order.choice, unshown]
    exact .failed _
  | temperature named =>
    simp only [Order.ofCommand, Order.ofAirCommand, named]
    cases converted : Control.numberOf command.value with
    | error failure => exact .failed failure
    | ok degrees =>
      refine .done (Order.isFor_of_sets ?_)
      rw [← Control.numberOf_number converted]
      exact .selectTemperature degrees
  | toggle named available =>
    rw [Order.ofCommand, Order.ofAirCommand_of_toggled named, if_pos available]
    exact .done (Order.isFor_of_sets (.turn _ _ _))
  | @remoteStart laundry _ named allowed =>
    have permitted := (Order.ofCommand_laundry_iff laundry status? command.value).1.2 ⟨rfl, allowed⟩
    rw [← named] at permitted
    rw [permitted]
    exact .done fun _ _ _ => rfl
  | @wakeUp laundry _ named standsBy =>
    have permitted := (Order.ofCommand_laundry_iff laundry status? command.value).2.2 standsBy
    rw [← named] at permitted
    rw [permitted]
    exact .done fun _ _ _ => rfl

theorem ofCommand_of_isRefused (refused : command.IsRefused unit status?) :
    Order.ofCommand unit status? command = .ok none := by
  have offers (choice : Choice) (named : command.name = choice.name) (air : AirConditioner)
      (same : unit = .airConditioner air) :
      Order.choice choice.setting (choice.offered air) command.value = .ok none := by
    subst same
    unfold Order.choice
    split
    · next fault unshown => exact absurd (.unshown choice named unshown) (refused _)
    · next text shown =>
      split
      · next offered => exact absurd (.choice choice named shown offered) (refused _)
      · rfl
  cases unit with
  | refrigerator => rfl
  | airConditioner air =>
    simp only [Order.ofCommand, Order.ofAirCommand]
    split
    · next named => exact absurd (.power named) (refused _)
    · next named => exact offers .operationMode named air rfl
    · next named => exact offers .fanSpeed named air rfl
    · next named => exact absurd (.temperature named) (refused _)
    · split
      · next named =>
        split
        · next available => exact absurd (.toggle named available) (refused _)
        · rfl
      · rfl
  | laundry laundry =>
    rw [Order.ofCommand]
    cases ordered : Order.ofLaundryCommand laundry (Order.laundryStatus status?) command with
    | none => rfl
    | some order =>
      have permitted : order.Permitted status? := Order.permitted_of_laundry ordered
      unfold Order.ofLaundryCommand at ordered
      dsimp only at ordered
      split at ordered
      · next named =>
        split at ordered <;> cases ordered
        exact absurd (.remoteStart named permitted.2) (refused _)
      · next named =>
        split at ordered <;> cases ordered
        exact absurd (.wakeUp named permitted) (refused _)
      · cases ordered

theorem isRefused_iff : command.IsRefused unit status? ↔
    Order.ofCommand unit status? command = .ok none := by
  refine ⟨ofCommand_of_isRefused, fun nothing result means => ?_⟩
  have realizes := means.realizes
  rw [nothing] at realizes
  cases realizes

theorem Means.mem_names (means : command.Means unit status? result) : command.name ∈ names unit := by
  cases means with
  | power named | temperature named | remoteStart named | wakeUp named => simp [names, named]
  | choice choice named | unshown choice named => cases choice <;> simp [names, named, Choice.name]
  | toggle named => exact Order.mem_names_of_toggled named

theorem IsUnsupported.isRefused (unsupported : command.IsUnsupported unit)
    (status? : Option Status) : command.IsRefused unit status? := by
  cases unsupported with
  | unknown unknown => exact fun _ means => unknown means.mem_names
  | refrigerator => exact isRefused_iff.2 rfl
  | @unoffered air _ choice named shown unoffered =>
    rw [isRefused_iff, Order.ofCommand, choice.ofAirCommand_eq named, Order.choice, shown]
    simp [unoffered]
  | unavailable named unavailable =>
    rw [isRefused_iff, Order.ofCommand, Order.ofAirCommand_of_toggled named]
    simp [unavailable]

theorem isRefused_start_or_wakeUp (unit : Capability) (status? : Option Status)
    (value value' : Document) :
    IsRefused { name := "remote_start", value } unit status? ∨
      IsRefused { name := "wake_up", value := value' } unit status? := by
  rw [or_iff_not_imp_left]
  intro accepted result wakes
  refine accepted fun result starts => ?_
  cases starts with
  | remoteStart _ allowed =>
    cases wakes with
    | remoteStart named => simp at named
    | wakeUp _ standsBy =>
      obtain ⟨status, reported, standsBy⟩ := standsBy
      rw [(allowed status reported).1] at standsBy
      cases standsBy
  | power named | temperature named | wakeUp named => simp at named
  | choice choice named | unshown choice named => cases choice <;> simp [Choice.name] at named
  | toggle named => cases named

end DeviceCommand

end ApplianceCloud
