import ApplianceCloud.Proofs.Keeper.Dispatch
import ApplianceCloud.Proofs.Numeric.Numerals

namespace ApplianceCloud

open Activity

namespace Control

variable {σ : Type} {replies : Replies cloud} {state : σ} {device root : String} {token : Token}
  {number : MessageNumber} {generation : Generation} {setting : AirSetting}

inductive Assigns (setting : AirSetting) (value : Document) : Generation → Request → Prop where
  | first {request : Request} {members : Fields Document}
      (payload : request.payload? = some [("lgedmRoot", .object members)])
      (given : members.lookup "value" = some (.object [(setting.key .first, value)])) :
      Assigns setting value .first request
  | second {request : Request} {members : Fields Document} (payload : request.payload? = some members)
      (key : members.lookup "dataKey" = some (.text (setting.key .second)))
      (given : members.lookup "dataValue" = some value) : Assigns setting value .second request

theorem Assigns.unique {value value' : Document} {request : Request}
    (assigns : Assigns setting value generation request)
    (assigns' : Assigns setting value' generation request) : value = value' := by
  cases assigns with
  | first payload given =>
    cases assigns' with
    | first payload' given' =>
      cases payload.symm.trans payload'
      cases given.symm.trans given'
      rfl
  | second payload _ given =>
    cases assigns' with
    | second payload' _ given' =>
      cases payload.symm.trans payload'
      exact Option.some.inj (given.symm.trans given')

def sentInteger : Generation → Int → Document
  | .first, n => .text (toString n)
  | .second, n => .int n

/-- Whether a value stands for a code: as its text, or as the integer that is written so. -/
def Denotes : Generation → Document → String → Prop
  | .first, value, code => value = .text code
  | .second, value, code => ∃ n, value = .int n ∧ Numeral.write? n = some code

theorem denotes_sentInteger_iff {n : Int} {code : String} (short : (Numeral.write? n).isSome = true) :
    Denotes generation (sentInteger generation n) code ↔ Numeral.write? n = some code := by
  obtain ⟨text, written⟩ := Option.isSome_iff_exists.1 short
  cases generation with
  | first =>
    rw [Denotes, sentInteger, Document.text.injEq, ← Numeral.eq_of_write? written, written,
      Option.some.injEq]
  | second =>
    constructor
    · rintro ⟨m, same, written⟩
      rwa [← Document.int.inj same] at written
    · exact fun written => ⟨n, rfl, written⟩

def settingPayload (device : String) (number : MessageNumber) (setting : AirSetting) (value : String) :
    Fields Document :=
  [("cmd", .text "Control"), ("cmdOpt", .text "Set"),
   ("value", .object [(setting.key .first, .text value)]), ("deviceId", .text device),
   ("workId", .text number.grouped), ("data", .text "")]

section Sending

variable (given : replies CloudCall.token = .ok token) (rooted : token.root generation = .text root)
  (numbered : replies CloudCall.number = .ok number)

include given rooted numbered

theorem exists_assigned {n : Int} (short : (Numeral.write? n).isSome = true) :
    ∃ request, requestsOf ((setValue generation device setting (.int n)).among (.fixed replies)
        state ()).calls = [request] ∧
      Targets device root generation request ∧
      Assigns setting (sentInteger generation n) generation request := by
  cases generation with
  | second =>
    have asked := requestsOf_call given rooted numbered
      (.send .post (Cloud.devicePath device ++ "/" ++ syncPath) (some [
        ("ctrlKey", .text "basicCtrl"), ("command", .text "Set"),
        ("dataKey", .text (setting.key .second)), ("dataValue", .int n)])) rfl state
    exact ⟨_, asked, .second rfl (address_sync root device), .second rfl rfl rfl⟩
  | first =>
    -- The value is shown as a text, and only then is the number of the message drawn.
    have shown : textOfSetting (.int n) = .ok (toString n) := by
      obtain ⟨text, written⟩ := Option.isSome_iff_exists.1 short
      unfold textOfSetting
      dsimp only
      rw [Document.toText_int, written, ← Numeral.eq_of_write? written]
      rfl
    have joined : (sendFirst (σ := σ) device "Control" "Set" (some (setting.key .first))
        (.text (toString n)) [] >>= fun _ => pure ()) = _ := Activity.bind_assoc Cloud.newNumber _ _
    have ended : (setValue .first device setting (.int n)).among (.fixed replies) state () = _ :=
      (among_lift_bind_of_ok shown).trans ((congrArg (among (.fixed replies) · state ()) joined).trans
        (among_ask_bind_of_ok (I := cloud) numbered))
    have keyed : valueMember (some (setting.key .first)) (.text (toString n)) =
        .object [(setting.key .first, .text (toString n))] := by
      cases setting <;> rfl
    have asked := requestsOf_call given rooted numbered
      (.post controlPath (settingPayload device number setting (toString n))) rfl state
    rw [keyed] at ended
    have sent := (congrArg (fun ending => requestsOf ending.calls) ended).trans asked
    exact ⟨_, sent, .first rfl rfl rfl rfl, .first rfl rfl⟩

end Sending

end Control

namespace Keeper

open DeviceCommand (Choice)
open Control (Assigns Denotes Targets sentInteger)

variable {replies : Replies cloud}

theorem standAside_fixed : StandAside (.fixed replies) :=
  fun _ => ⟨fun _ _ _ aside => aside, fun _ _ aside => aside⟩

section Selected

variable {keeper : Keeper} {unit : AirConditioner} (choice : Choice) {code : String}
  {queue : CommandQueue DeviceCommand}

theorem means_of_offered (offered : (choice.offered unit).operatorLabels.has code = true)
    (status? : Option Status) :
    DeviceCommand.Means { name := choice.name, value := .text code } (.airConditioner unit) status?
      ((Control.integerOf (.text code)).map choice.select) :=
  .choice choice rfl rfl offered

section Work

variable (known : keeper.capability? = some (.airConditioner unit))
  (offered : (choice.offered unit).operatorLabels.has code = true)
  (next : keeper.queue.next? = some ({ name := choice.name, value := .text code }, queue))

include known offered next

theorem calls_of_readInteger {generation : Generation} {n : Int}
    (reached : keeper.generation? = some generation) (read : Numeral.readInteger code = .ok n) :
    (work.among (.fixed replies) keeper ()).calls =
      ((Control.setValue generation keeper.device.id choice.setting (.int n)).among (.fixed replies)
        { keeper with queue } ()).calls := by
  have converted : Control.integerOf (.text code) = .ok (.int n) := by
    simp [Control.integerOf, Document.toInteger, read]
  have means := means_of_offered choice offered keeper.status?
  rw [converted] at means
  have worked : work.among (.fixed replies) keeper () = _ :=
    (work_of_means standAside_fixed known next means).2
  have performs : keeper.perform (choice.select (.int n)) =
      liftM (.ok (.int n) : Except Failure Document) >>=
        Control.setValue generation keeper.device.id choice.setting := by
    rw [← Control.Operation.activity_of_sets (choice.sets converted), perform, reached]
  rw [worked, performs]
  change (Activity.among (.fixed replies) _ _ ()).calls = _
  exact congrArg Ending.calls (among_lift_bind_of_ok rfl)

theorem work_of_unread {fault : NumeralFault} (unread : Numeral.readInteger code = .error fault) :
    let ending := work.among (.fixed replies) keeper ()
    ∃ failure, Control.integerOf (.text code) = .error failure ∧ ending.calls = [] ∧
      ending.state.availability =
        afterCommand { name := choice.name, value := .text code } failure := by
  obtain ⟨failure, failed⟩ : ∃ failure, Control.integerOf (.text code) = .error failure := by
    cases fault <;> simp [Control.integerOf, Document.toInteger, unread]
  have means := means_of_offered choice offered keeper.status?
  rw [failed] at means
  have worked : work.among (.fixed replies) keeper () = _ :=
    work_of_unconverted standAside_fixed known next means
  rw [worked]
  exact ⟨failure, failed, rfl, rfl⟩

end Work

/-- A code that the unit offers is never refused. It is sent by one request that stands for it exactly
if it is the way to write an integer; any other numeral is sent as its integer, and what is no numeral
is not sent. -/
theorem selected_work (choice : Choice) {generation : Generation} {token : Token} {number : MessageNumber}
    {root : String} (known : keeper.capability? = some (.airConditioner unit))
    (reached : keeper.generation? = some generation)
    (offered : (choice.offered unit).operatorLabels.has code = true)
    (next : keeper.queue.next? = some ({ name := choice.name, value := .text code }, queue))
    (given : replies CloudCall.token = .ok token) (rooted : token.root generation = .text root)
    (numbered : replies CloudCall.number = .ok number) :
    let ending := work.among (.fixed replies) keeper ()
    let requests := requestsOf ending.calls
    ¬ DeviceCommand.IsRefused { name := choice.name, value := .text code } (.airConditioner unit)
      keeper.status? ∧
    ((∃ request value, requests = [request] ∧ Targets keeper.device.id root generation request ∧
        Assigns choice.setting value generation request ∧ Denotes generation value code) ↔
      ∃ n, Numeral.write? n = some code) ∧
    (∀ n, Numeral.readInteger code = .ok n → ∃ request, requests = [request] ∧
      Targets keeper.device.id root generation request ∧
      Assigns choice.setting (sentInteger generation n) generation request) ∧
    ∀ fault, Numeral.readInteger code = .error fault →
      ∃ failure, Control.integerOf (.text code) = .error failure ∧ ending.calls = [] ∧
        ending.state.availability =
          afterCommand { name := choice.name, value := .text code } failure := by
  intro ending requests
  have sent (n : Int) (read : Numeral.readInteger code = .ok n) : ∃ request, requests = [request] ∧
      Targets keeper.device.id root generation request ∧
      Assigns choice.setting (sentInteger generation n) generation request := by
    have calls : ending.calls = _ := calls_of_readInteger choice known offered next reached read
    simp only [requests, calls]
    exact Control.exists_assigned given rooted numbered (Numeral.isSome_write?_of_readInteger read)
  have unsent (fault : NumeralFault) (unread : Numeral.readInteger code = .error fault) :
      ∃ failure, _ ∧ ending.calls = [] ∧ _ = afterCommand _ failure :=
    work_of_unread choice known offered next unread
  refine ⟨fun refused => refused _ (means_of_offered choice offered _), ⟨?_, ?_⟩, sent, unsent⟩
  -- What is sent for a code that is read is known, so it denotes the code only if it is written so.
  · rintro ⟨request, value, asked, -, assigns, denotes⟩
    cases read : Numeral.readInteger code with
    | error fault =>
      obtain ⟨_, -, calls, -⟩ := unsent fault read
      have none : requests = [] := congrArg requestsOf calls
      cases asked.symm.trans none
    | ok n =>
      obtain ⟨request', asked', -, assigns'⟩ := sent n read
      cases asked.symm.trans asked'
      rw [assigns.unique assigns',
        Control.denotes_sentInteger_iff (Numeral.isSome_write?_of_readInteger read)] at denotes
      exact ⟨n, denotes⟩
  · rintro ⟨n, written⟩
    have short : (Numeral.write? n).isSome = true := by rw [written, Option.isSome_some]
    have read : Numeral.readInteger code = .ok n := by
      rw [Numeral.eq_of_write? written]
      exact Numeral.readInteger_toString short
    obtain ⟨request, asked, targets, assigns⟩ := sent n read
    exact ⟨request, _, asked, targets, assigns, (Control.denotes_sentInteger_iff short).2 written⟩

end Selected

def oddDocument : Document :=
  .object [
    ("Info", .object [("productType", .text "AC")]),
    ("Value", .object [
      ("OpMode", .object [("option", .object [
        ("01", .text "@AC_MAIN_OPERATION_MODE_COOL_W"),
        ("COOL", .text "@AC_MAIN_OPERATION_MODE_DRY_W")])]),
      ("WindStrength", .object [("option", .object [])]),
      ("SupportOpMode", .list [.text "01", .text "COOL"])])]

theorem exists_odd : ∃ unit, Capability.ofDocument oddDocument none = .ok (.airConditioner unit) ∧
    unit.operationMode.operatorLabels.has "01" = true ∧
    unit.operationMode.operatorLabels.has "COOL" = true :=
  ⟨_, rfl, rfl, rfl⟩

def choosing (unit : AirConditioner) (code : String) : Keeper :=
  { fresh sampleDevice (some .first) with
    capability? := some (.airConditioner unit)
    queue := {
      device := "unit"
      waiting := [{ name := "operation_mode", value := .text code }]
      unfinished := 1
      worker := .idle } }

theorem selected_work_padded :
    ∃ unit, Capability.ofDocument oddDocument none = .ok (.airConditioner unit) ∧
    unit.operationMode.operatorLabels.has "01" = true ∧
    ∃ request, requestsOf (work.among (.fixed Call.silentReplies) (choosing unit "01") ()).calls =
        [request] ∧
      Assigns .operationMode (.text "1") .first request ∧ ¬ Denotes .first (.text "1") "01" := by
  obtain ⟨unit, read, offered, -⟩ := exists_odd
  obtain ⟨-, -, sent, -⟩ := selected_work .operationMode
    (show (choosing unit "01").capability? = _ from rfl) rfl offered rfl
    (show Call.silentReplies CloudCall.token = _ from rfl) rfl rfl
  obtain ⟨request, asked, -, assigns⟩ := sent 1 (by decide +kernel)
  exact ⟨unit, read, offered, request, asked, assigns, by simp [Denotes]⟩

theorem not_selected_word : ∃ unit,
    Capability.ofDocument oddDocument none = .ok (.airConditioner unit) ∧
    unit.operationMode.operatorLabels.has "COOL" = true ∧
    (work.among (.fixed Call.silentReplies) (choosing unit "COOL") ()).calls = [] := by
  obtain ⟨unit, read, -, offered⟩ := exists_odd
  have unread : Numeral.readInteger "COOL" = .error .malformed := by decide +kernel
  obtain ⟨_, -, calls, -⟩ : ∃ failure, _ ∧
      (work.among (.fixed Call.silentReplies) (choosing unit "COOL") ()).calls = [] ∧
      _ = afterCommand _ failure :=
    work_of_unread .operationMode rfl offered rfl unread
  exact ⟨unit, read, offered, calls⟩

end Keeper

end ApplianceCloud
