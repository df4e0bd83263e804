import ApplianceCloud.Control.Laundry
import ApplianceCloud.Control.Setting
import ApplianceCloud.Proofs.Activity
import ApplianceCloud.Proofs.Cloud.Requests
import ApplianceCloud.Proofs.Control.Refusal
import ApplianceCloud.Proofs.Control.StartData

/-!
# What an operation sends

An operation on an appliance is either refused before anything is asked, even for a token or a number,
or sends one request to the control address of its device, and ends as this request does. It sends
nothing more, whatever the request is answered with, and nothing at all without a token. `Refuses`
says for each operation when it is refused, `conducted` that it sends whenever it is not.
-/

namespace ApplianceCloud

theorem Capability.exists_declared {document : Document} {requested : Option Family}
    {laundry : Laundry} {name : String} {command : Command}
    (read : ofDocument document requested = .ok (.laundry laundry))
    (writable : document.isWritable = true) (declared : laundry.command? name = some command) :
    ∃ members, command.declared = .ok (.object members) := by
  obtain ⟨members, rfl, readFrom⟩ := exists_readFrom read
  have writableControl := Document.isWritable_orNull writable "ControlWifi"
  rw [Laundry.command?, readFrom.commands] at declared
  cases generation : laundry.header.generation with
  | first =>
    rw [generation] at declared
    exact Command.exists_declared (Fields.mem_of_lookup declared) writableControl
  | second =>
    rw [generation] at declared
    obtain ⟨entries, declaration, isObject, found, rfl⟩ :=
      Command.exists_of_lookup_ofSecondControl declared
    rw [isObject] at writableControl
    have listed := (List.mem_filter.1 (Fields.mem_of_lookup found)).1
    have writableDeclaration := Document.areMembersWritable_iff.1 writableControl _ listed
    exact Command.exists_declared_of_write writableDeclaration rfl

namespace Control

open Activity

variable {σ : Type}

/-- A request to the control address of a device below a root. The first generation has one address
for all devices, and names the device in the payload. -/
inductive Targets (device root : String) : Generation → Request → Prop where
  | first {request : Request} {members : Fields Document} (post : request.method = .post)
      (url : request.url = Request.address root "rti/rtiControl")
      (payload : request.payload? = some [("lgedmRoot", .object members)])
      (named : members.lookup "deviceId" = some (.text device)) : Targets device root .first request
  | second {request : Request} (post : request.method = .post)
      (url : request.url =
        Request.address root ("service/devices/" ++ device ++ "/control-sync")) :
      Targets device root .second request

/-- How an activity ends that sends one control request, by the answers to its calls. -/
structure Sends (replies : Replies cloud) (generation : Generation) (device : String)
    (ending : Ending cloud σ Unit Unit) : Prop where
  untokened : ∀ failure, replies CloudCall.token = .error failure →
    requestsOf ending.calls = [] ∧ ending.result = .error failure
  rootless : ∀ token : Token, replies CloudCall.token = .ok token →
    (∀ root, token.root generation ≠ .text root) →
    requestsOf ending.calls = [] ∧ ∃ fault, ending.result = .error (.shape fault)
  once : ∀ (token : Token) root, replies CloudCall.token = .ok token →
    token.root generation = .text root → ∃ request, Targets device root generation request ∧
      requestsOf ending.calls = [request] ∧
      (∀ failure, replies (CloudCall.request request) = .error failure →
        ending.result = .error failure) ∧
      ∀ reply : Reply, replies (CloudCall.request request) = .ok reply →
        ending.result = (Envelope.ofReply generation request.url reply).map fun _ => ()

variable {replies : Replies cloud} {generation : Generation} {device : String} {state : σ}

theorem Sends.behind {ending : Ending cloud σ Unit Unit}
    (sends : Sends replies generation device ending) {calls : List CloudCall}
    (quiet : requestsOf calls = []) :
    Sends replies generation device (ending.behind (I := cloud) calls) := by
  have same : requestsOf (ending.behind (I := cloud) calls).calls = requestsOf ending.calls := by
    refine (requestsOf_append calls ending.calls).trans ?_
    rw [quiet, List.nil_append]
  exact ⟨by rw [same]; exact sends.untokened, by rw [same]; exact sends.rootless,
    by rw [same]; exact sends.once⟩

theorem exists_shape_of_addressBelow {root : Document} (path : String)
    (rootless : ∀ text, root ≠ .text text) :
    ∃ fault, Request.addressBelow root path = .error (.shape fault) := by
  cases root with
  | text root => exact absurd rfl (rootless root)
  | _ => exact ⟨_, rfl⟩

theorem address_sync (root device : String) :
    Request.address root (Cloud.devicePath device ++ "/" ++ syncPath) =
      Request.address root ("service/devices/" ++ device ++ "/control-sync") := by
  change Request.address root ("service/devices/" ++ device ++ "/" ++ "control-sync") = _
  rw [String.append_assoc]
  rfl

theorem requestsOf_call {token : Token} {number : MessageNumber} {root : String}
    (given : replies CloudCall.token = .ok token) (rooted : token.root generation = .text root)
    (numbered : replies CloudCall.number = .ok number) (call : Call)
    (same : call.generation = generation) (state : σ) :
    requestsOf ((call.activity >>= fun _ => pure ()).among (.fixed replies) state ()).calls =
      [call.request token number root] := by
  subst same
  have mapped : (call.activity >>= fun _ => pure ()).among (.fixed replies) state () = _ :=
    among_map (.fixed replies) call.activity fun _ => ()
  rw [mapped]
  exact (Call.among_answered given rooted numbered).1

theorem sends_call (call : Call) {number : MessageNumber}
    (numbered : replies CloudCall.number = .ok number)
    (targets : ∀ token root, Targets device root call.generation (call.request token number root)) :
    Sends replies call.generation device
      ((call.activity >>= fun _ => pure ()).among (.fixed replies) state ()) := by
  have mapped : (call.activity >>= fun _ => pure ()).among (.fixed replies) state () = _ :=
    among_map (.fixed replies) call.activity fun _ => ()
  rw [mapped]
  constructor
  case untokened =>
    intro failure failed
    rw [Call.among_untokened failed]
    exact ⟨rfl, rfl⟩
  case rootless =>
    intro token given rootless
    obtain ⟨fault, noAddress⟩ := exists_shape_of_addressBelow call.path rootless
    rw [Call.among_rootless given noAddress]
    exact ⟨rfl, fault, rfl⟩
  case once =>
    intro token root given rooted
    obtain ⟨asked, lost, answered⟩ := Call.among_answered given rooted numbered
    refine ⟨_, targets token root, asked, fun failure failed => ?_, fun reply replied => ?_⟩
    · exact congrArg (Except.map _) (lost failure failed)
    · rw [Call.url_request]
      exact congrArg (Except.map _) (answered reply replied)

section Sending

variable {number : MessageNumber} (numbered : replies CloudCall.number = .ok number)

include numbered

theorem sends_post {payload : Fields Document}
    (named : payload.lookup "deviceId" = some (.text device)) : Sends replies .first device
      ((Cloud.post controlPath payload >>= fun _ => pure ()).among (.fixed replies) state ()) :=
  sends_call (.post controlPath payload) numbered fun _ _ => .first rfl rfl rfl named

theorem sends_sync (payload? : Option (Fields Document)) : Sends replies .second device
    ((Cloud.send .post (Cloud.devicePath device ++ "/" ++ syncPath) payload? >>= fun _ =>
      pure ()).among (.fixed replies) state ()) :=
  sends_call (.send .post _ payload?) numbered fun _ root => .second rfl (address_sync root device)

theorem sends_sendDeclared {laundry : Laundry} {name : String} {command : Command}
    {values payload : Fields Document} (known : laundry.declaredCommand name = .ok command)
    (made : command.payload values = .ok payload) : Sends replies .first device
      ((sendDeclared device laundry name values).among (.fixed replies) state ()) := by
  have named : (payload.putAll [("deviceId", .text device), ("workId", .text number.grouped)]).lookup
      "deviceId" = some (.text device) := by
    change ((payload.put "deviceId" _).put "workId" _).lookup "deviceId" = _
    rw [Fields.lookup_put, if_neg (by decide), Fields.lookup_put, if_pos rfl]
  have ended : (sendDeclared device laundry name values).among (.fixed replies) state () = _ :=
    (among_lift_bind_of_ok known).trans ((among_lift_bind_of_ok made).trans
      (among_ask_bind_of_ok (I := cloud) numbered))
  rw [ended]
  exact (sends_post numbered named).behind rfl

theorem sends_sendFirst {command option : String} {key : Option String} {value : Document} :
    Sends replies .first device ((sendFirst device command option key value [] >>= fun _ =>
      pure ()).among (.fixed replies) state ()) := by
  have joined : (sendFirst (σ := σ) device command option key value [] >>= fun _ => pure ()) = _ :=
    Activity.bind_assoc Cloud.newNumber _ _
  have ended := (congrArg (among (.fixed replies) · state ()) joined).trans
    (among_ask_bind_of_ok (I := cloud) numbered)
  rw [ended]
  exact (sends_post numbered rfl).behind rfl

theorem sends_setValue {setting : AirSetting} {value : Document}
    (shown : generation = .first → ∃ text, textOfSetting value = .ok text) :
    Sends replies generation device
      ((setValue generation device setting value).among (.fixed replies) state ()) := by
  cases generation with
  | first =>
    obtain ⟨text, shown⟩ := shown rfl
    have ended : (setValue .first device setting value).among (.fixed replies) state () = _ :=
      among_lift_bind_of_ok shown
    rw [ended]
    exact sends_sendFirst numbered
  | second => exact sends_sync numbered _

end Sending

/-! ## Operations -/

inductive Operation where
  | remoteStart (laundry : Laundry) (status : Option Status)
  | wakeUp (laundry : Laundry)
  | turnPower (on : Bool)
  | selectMode (mode : Document)
  | selectFanSpeed (speed : Document)
  | selectTemperature (temperature : Document)
  | turn (setting : AirSetting) (toggle : Toggle) (on : Bool)

namespace Operation

def activity (generation : Generation) (device : String) : Operation → Cloud σ Unit
  | remoteStart laundry status => Control.remoteStart generation device laundry status
  | wakeUp laundry => Control.wakeUp generation device laundry
  | turnPower on => Control.turnPower generation device on
  | selectMode mode => Control.selectMode generation device mode
  | selectFanSpeed speed => Control.selectFanSpeed generation device speed
  | selectTemperature temperature => Control.selectTemperature generation device temperature
  | turn setting toggle on => Control.turn generation device setting toggle on

inductive Needs : Operation → Laundry → String → Fields Document → Prop where
  | remoteStart (laundry : Laundry) (status : Option Status) :
      Needs (remoteStart laundry status) laundry laundry.commandNames.remoteStart
        (Laundry.lastReported status)
  | wakeUp (laundry : Laundry) : Needs (wakeUp laundry) laundry laundry.commandNames.wakeUp []

inductive Sets : Operation → AirSetting → Except Failure Document → Prop where
  | turnPower (on : Bool) : Sets (turnPower on) .power (.ok (.int (if on then 1 else 0)))
  | selectMode (mode : Document) : Sets (selectMode mode) .operationMode (integerOf mode)
  | selectFanSpeed (speed : Document) : Sets (selectFanSpeed speed) .fanSpeed (integerOf speed)
  | selectTemperature (temperature : Document) :
      Sets (selectTemperature temperature) .targetTemperature (numberOf temperature)
  | turn (setting : AirSetting) (toggle : Toggle) (on : Bool) : Sets (turn setting toggle on) setting
      (.ok (.text (if on then toggle.onCode else toggle.offCode)))

/-- Why an operation is refused by the interface of a generation. -/
inductive Refuses (generation : Generation) (operation : Operation) : Refusal → Prop where
  | undeclared {laundry : Laundry} {name : String} {values : Fields Document}
      (needs : operation.Needs laundry name values) (undeclared : laundry.command? name = none) :
      Refuses generation operation .undeclared
  | command {laundry : Laundry} {name : String} {values : Fields Document} {command : Command}
      {refusal : Refusal} (first : generation = .first) (needs : operation.Needs laundry name values)
      (declared : laundry.command? name = some command) (refuses : command.Refuses values refusal) :
      Refuses generation operation refusal
  | unconverted {setting : AirSetting} {failure : Failure}
      (sets : operation.Sets setting (.error failure)) : Refuses generation operation .unconverted
  | unshown {setting : AirSetting} {value : Document} {failure : Failure}
      (first : generation = .first) (sets : operation.Sets setting (.ok value))
      (unshown : textOfSetting value = .error failure) : Refuses generation operation .unconverted

end Operation

def IsRefused (refusal : Refusal) (ending : Ending cloud σ Unit Unit) : Prop :=
  ending.calls = [] ∧ ∃ failure, ending.result = .error failure ∧ refusal.IsOf failure

theorem isRefused_lift_bind {α : Type} {result : Except Failure α} {failure : Failure}
    {refusal : Refusal} {next : α → Cloud σ Unit} (failed : result = .error failure)
    (isOf : refusal.IsOf failure) :
    IsRefused refusal ((liftM result >>= next).among (.fixed replies) state ()) := by
  rw [among_lift_bind_of_error failed]
  exact ⟨rfl, failure, rfl, isOf⟩

theorem exists_conversion_of_mapError {α : Type} {result : Except ConversionFault α}
    {failure : Failure} (failed : result.mapError .conversion = .error failure) :
    ∃ fault, failure = .conversion fault := by
  cases result with
  | error fault =>
    cases failed
    exact ⟨fault, rfl⟩
  | ok a => cases failed

theorem exists_conversion_of_textOfSetting {value : Document} {failure : Failure}
    (unshown : textOfSetting value = .error failure) : ∃ fault, failure = .conversion fault := by
  unfold textOfSetting at unshown
  exact exists_conversion_of_mapError unshown

namespace Operation

variable {operation : Operation} {setting : AirSetting} {laundry : Laundry} {name : String}
  {values : Fields Document}

theorem activity_of_sets {result : Except Failure Document} (sets : operation.Sets setting result) :
    (operation.activity generation device : Cloud σ Unit) =
      liftM result >>= setValue generation device setting := by
  cases sets <;> rfl

theorem exists_conversion_of_sets {result : Except Failure Document} {failure : Failure}
    (sets : operation.Sets setting result) (failed : result = .error failure) :
    ∃ fault, failure = .conversion fault := by
  have integer {value : Document} (failed : integerOf value = .error failure) :
      ∃ fault, failure = .conversion fault := by
    unfold integerOf at failed
    split at failed
    · cases failed
    · cases failed
      exact ⟨_, rfl⟩
  cases sets with
  | turnPower | turn => cases failed
  | selectMode | selectFanSpeed => exact integer failed
  | selectTemperature temperature =>
    unfold numberOf at failed
    split at failed
    · cases failed
    · cases failed
      exact ⟨_, rfl⟩

theorem activity_of_needs (needs : operation.Needs laundry name values) :
    (operation.activity .first device : Cloud σ Unit) = sendDeclared device laundry name values := by
  cases needs <;> rfl

theorem isRefused_of_refuses {refusal : Refusal} (refuses : operation.Refuses generation refusal) :
    IsRefused refusal ((operation.activity generation device).among (.fixed replies) state ()) := by
  cases refuses with
  | @undeclared laundry name values needs undeclared =>
    have unknown : laundry.declaredCommand name = .error (.call (.undeclaredCommand name)) := by
      rw [Laundry.declaredCommand, undeclared]
    have isOf : Refusal.undeclared.IsOf (.call (.undeclaredCommand name)) := ⟨_, rfl, rfl, rfl⟩
    -- Both generations look the command up before anything else.
    cases needs <;> cases generation <;> exact isRefused_lift_bind unknown isOf
  | command first needs declared refuses =>
    subst first
    obtain ⟨failure, refused, isOf⟩ := Command.payload_of_refuses refuses
    rw [activity_of_needs needs, sendDeclared,
      among_lift_bind_of_ok (Laundry.declaredCommand_eq_ok declared)]
    exact isRefused_lift_bind refused isOf
  | unconverted sets =>
    rw [activity_of_sets sets]
    exact isRefused_lift_bind rfl (exists_conversion_of_sets sets rfl)
  | unshown first sets unshown =>
    subst first
    rw [activity_of_sets sets, among_lift_bind_of_ok rfl]
    exact isRefused_lift_bind unshown (exists_conversion_of_textOfSetting unshown)

theorem sends_of_accepted {number : MessageNumber} (numbered : replies CloudCall.number = .ok number)
    (accepted : ∀ refusal, ¬ operation.Refuses generation refusal) : Sends replies generation device
      ((operation.activity generation device).among (.fixed replies) state ()) := by
  -- Settings differ in their conversions only, and a start and a wake-up in the data they send.
  have set {setting : AirSetting} {result : Except Failure Document}
      (sets : operation.Sets setting result) : Sends replies generation device
        ((operation.activity generation device).among (.fixed replies) state ()) := by
    cases result with
    | error failure => exact absurd (.unconverted sets) (accepted _)
    | ok value =>
      rw [activity_of_sets sets, among_lift_bind_of_ok rfl]
      refine sends_setValue numbered fun first => ?_
      cases shown : textOfSetting value with
      | error failure => exact absurd (.unshown first sets shown) (accepted _)
      | ok text => exact ⟨text, rfl⟩
  have start {laundry : Laundry} {name : String} {values : Fields Document}
      (needs : operation.Needs laundry name values) : ∃ command, laundry.command? name = some command ∧
        (generation = .first → ∃ payload, command.payload values = .ok payload) := by
    cases declared : laundry.command? name with
    | none => exact absurd (.undeclared needs declared) (accepted _)
    | some command =>
      refine ⟨command, rfl, fun first => Command.exists_payload fun refusal refuses => ?_⟩
      exact accepted refusal (.command first needs declared refuses)
  cases operation with
  | remoteStart laundry status =>
    obtain ⟨command, declared, carried⟩ := start (.remoteStart laundry status)
    have known := Laundry.declaredCommand_eq_ok declared
    cases generation with
    | first =>
      obtain ⟨payload, made⟩ := carried rfl
      exact sends_sendDeclared numbered known made
    | second =>
      obtain ⟨data, started, -⟩ := Laundry.exists_startData declared status
      have ended : (Control.remoteStart .second device laundry status).among (.fixed replies) state
          () = _ := (among_lift_bind_of_ok known).trans (among_lift_bind_of_ok started)
      rw [activity, ended]
      exact sends_sync numbered _
  | wakeUp laundry =>
    obtain ⟨command, declared, carried⟩ := start (.wakeUp laundry)
    have known := Laundry.declaredCommand_eq_ok declared
    cases generation with
    | first =>
      obtain ⟨payload, made⟩ := carried rfl
      exact sends_sendDeclared numbered known made
    | second =>
      have ended : (Control.wakeUp .second device laundry).among (.fixed replies) state () = _ :=
        among_lift_bind_of_ok known
      rw [activity, ended]
      exact sends_sync numbered _
  | turnPower on => exact set (.turnPower on)
  | selectMode mode => exact set (.selectMode mode)
  | selectFanSpeed speed => exact set (.selectFanSpeed speed)
  | selectTemperature temperature => exact set (.selectTemperature temperature)
  | turn setting toggle on => exact set (.turn setting toggle on)

theorem Needs.unique {laundry' : Laundry} {name' : String} {values' : Fields Document}
    (needs : operation.Needs laundry name values) (needs' : operation.Needs laundry' name' values') :
    laundry' = laundry ∧ name' = name := by
  cases needs <;> cases needs' <;> exact ⟨rfl, rfl⟩

theorem not_misdeclared (needs : operation.Needs laundry name values)
    (objects : ∀ command, laundry.command? name = some command →
      ∃ members, command.declared = .ok (.object members)) :
    ¬ operation.Refuses generation .misdeclared := by
  intro refuses
  cases refuses with
  | command first needs' declared refuses =>
    obtain ⟨rfl, rfl⟩ := needs.unique needs'
    obtain ⟨members, isObject⟩ := objects _ declared
    cases refuses with
    | misread unread =>
      rw [isObject] at unread
      cases unread
    | misshapen read _ _ noObject =>
      rw [isObject] at read
      cases read
      cases noObject

/-- An operation is refused, with nothing asked, exactly for the reasons of `Refuses`, and sends one
request otherwise. The commands of a capability that a document describes are never misdeclared. -/
theorem conducted {replies : Replies cloud} {number : MessageNumber}
    (numbered : replies CloudCall.number = .ok number) (operation : Operation)
    (generation : Generation) (device : String) (state : σ) :
    let ending := (operation.activity generation device).among (.fixed replies) state ()
    (∀ refusal, operation.Refuses generation refusal → IsRefused refusal ending) ∧
    ((∀ refusal, ¬ operation.Refuses generation refusal) →
      Sends replies generation device ending) ∧
    ∀ document requested laundry name values, document.isWritable = true →
      Capability.ofDocument document requested = .ok (.laundry laundry) →
      operation.Needs laundry name values → ¬ operation.Refuses generation .misdeclared := by
  refine ⟨fun refusal => isRefused_of_refuses, sends_of_accepted numbered, ?_⟩
  intro document requested laundry name values writable read needs
  exact not_misdeclared needs fun command => Capability.exists_declared read writable

def placedAction : Fields Document := [("cmd", .text "Control"), ("data", .text "{{x}}")]

def placedDocument : Document :=
  .object [
    ("Value", .object []),
    ("Course", .object []),
    ("ControlWifi", .object [("action", .object [("OperationStart", .object placedAction)])])]

theorem exists_placed : ∃ laundry command,
    Capability.ofDocument placedDocument (some .washer) = .ok (.laundry laundry) ∧
    laundry.command? laundry.commandNames.remoteStart = some command ∧
    command.binary = false ∧ Command.IsDataFor ["x"] command.data := by
  refine ⟨_, Command.ofAction false placedAction, rfl, rfl, rfl, ?_⟩
  have named : Command.places (Command.ofAction false placedAction).template.toList = ["x"] := by
    decide +kernel
  exact named ▸ Command.isDataFor_ofAction false placedAction

def lostReplies : Replies cloud
  | .token => .ok Call.sampleToken
  | .number => .ok ⟨7⟩
  | .request _ => .ok (.lost "no route")
  | .pause _ => .ok ()

theorem conducted_lost : ∃ laundry,
    Capability.ofDocument placedDocument (some .washer) = .ok (.laundry laundry) ∧
    lostReplies CloudCall.number = .ok ⟨7⟩ ∧
    let ending := ((remoteStart laundry none).activity (σ := Unit) .first "washer").among
      (.fixed lostReplies) () ()
    (∃ request, requestsOf ending.calls = [request] ∧
      Targets "washer" "https://first.example/" .first request) ∧
    ∃ fault, ending.result = .error (.call fault) ∧ fault.kind = .transport := by
  obtain ⟨laundry, command, read, declared, plain, isData⟩ := exists_placed
  have numbered : lostReplies CloudCall.number = .ok ⟨7⟩ := rfl
  refine ⟨laundry, read, numbered, ?_⟩
  have conduct := conducted (σ := Unit) numbered (remoteStart laundry none) .first "washer" ()
  have described := conduct.2.2 _ _ _ _ _ rfl read (.remoteStart laundry none)
  have accepted : ∀ refusal, ¬ (remoteStart laundry none).Refuses .first refusal := by
    intro refusal refuses
    have known : refusal ≠ .misdeclared := by
      rintro rfl
      exact described refuses
    cases refuses with
    | undeclared needs undeclared =>
      cases needs
      rw [declared] at undeclared
      cases undeclared
    | command first needs declared' refused =>
      cases needs
      rw [declared] at declared'
      cases declared'
      cases refused with
      | misread | misshapen => exact known rfl
      | @unwritable _ entry _ place unwritable =>
        rw [Command.valueOf, isData.blank entry place] at unwritable
        cases unwritable
      | noBytes _ binary =>
        rw [plain] at binary
        cases binary
    | unconverted sets => cases sets
    | unshown _ sets => cases sets
  obtain ⟨request, targets, asked, -, answered⟩ :=
    (conduct.2.1 accepted).once Call.sampleToken _ rfl rfl
  exact ⟨⟨request, asked, targets⟩, _, answered _ rfl, rfl⟩

theorem not_sends_of_long : ∃ laundry command,
    Capability.ofDocument placedDocument (some .washer) = .ok (.laundry laundry) ∧
    laundry.command? laundry.commandNames.remoteStart = some command ∧ command.binary = false ∧
    let status : Status := { family := .washer, reported := [("x", .int (10 ^ 4300))] }
    let ending := ((remoteStart laundry (some status)).activity (σ := Unit) .first "washer").among
      (.fixed lostReplies) () ()
    requestsOf ending.calls = [] ∧ ∃ fault, ending.result = .error (.conversion fault) := by
  obtain ⟨laundry, command, read, declared, plain, isData⟩ := exists_placed
  refine ⟨laundry, command, read, declared, plain, ?_⟩
  intro status ending
  obtain ⟨members, isObject⟩ := Capability.exists_declared read rfl declared
  obtain ⟨entry, place, named⟩ := List.mem_map.1 ((isData.mem_iff "x").2 (List.mem_singleton_self _))
  have unwritable : (Document.int (10 ^ 4300)).isWritable = false := by
    rw [Document.isWritable, ← Bool.not_eq_true, Numeral.isSome_write?_iff]
    decide +kernel
  have given : Command.valueOf status.reported entry = .int (10 ^ 4300) := by
    rw [Command.valueOf, named]
    rfl
  have refuses : (remoteStart laundry (some status)).Refuses .first .unconverted :=
    .command rfl (.remoteStart laundry (some status)) declared
      (.unwritable isObject place (by rw [← unwritable]; exact congrArg _ given))
  obtain ⟨quiet, _, failed, fault, rfl⟩ := isRefused_of_refuses refuses
  exact ⟨congrArg requestsOf quiet, fault, failed⟩

end Operation

end Control

end ApplianceCloud
