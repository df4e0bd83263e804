import ApplianceCloud.Proofs.Control.Sending

namespace ApplianceCloud.Control

open Activity
open Operation (lostReplies)

/-- The declaration of a command in the control node of a document, from which its option is taken.
Entries that are no objects declare nothing. -/
def DeclaresOption (document : Document) (name option : String) : Prop :=
  ∃ control members : Fields Document, document.member? "ControlWifi" = some (.object control) ∧
    (control.filter (·.2.isObject)).lookup name = some (.object members) ∧
    option = ((members.lookup "command").getD (.text "")).display

def orderMembers (name option : String) : Fields Document :=
  [("ctrlKey", .text name), ("command", .text option), ("dataKey", .null), ("dataValue", .null)]

def order (token : Token) (number : MessageNumber) (root device name option : String)
    (carried : Fields Document) : Request where
  method := .post
  url := Request.address root ("service/devices/" ++ device ++ "/control-sync")
  headers := Request.secondHeaders token number
  payload? := some (orderMembers name option ++ carried)

theorem declaresOption_of_read {document : Document} {requested : Option Family} {laundry : Laundry}
    {name : String} {command : Command}
    (read : Capability.ofDocument document requested = .ok (.laundry laundry))
    (second : laundry.header.generation = .second)
    (declared : laundry.command? name = some command) :
    DeclaresOption document name command.option := by
  obtain ⟨members, rfl, readFrom⟩ := Capability.exists_readFrom read
  rw [Laundry.command?, readFrom.commands, second] at declared
  obtain ⟨control, declaration, isObject, found, rfl⟩ :=
    Command.exists_of_lookup_ofSecondControl declared
  exact ⟨control, declaration, Fields.lookup_of_object?_orNull (by rw [isObject]; rfl), found, rfl⟩

section Ordering

variable {σ : Type} {replies : Replies cloud} {token : Token} {number : MessageNumber}
  {root : String} {laundry : Laundry} {command : Command} {state : σ}
  (given : replies CloudCall.token = .ok token) (rooted : token.root .second = .text root)
  (numbered : replies CloudCall.number = .ok number)

include given rooted numbered

theorem requestsOf_sendSecond {name option : String} {carried : Fields Document}
    (behind : (orderMembers name option).putAll carried = orderMembers name option ++ carried)
    (device : String) :
    requestsOf ((sendSecond device name option .null .null syncPath carried >>= fun _ =>
      pure ()).among (.fixed replies) state ()).calls =
      [order token number root device name option carried] := by
  refine (requestsOf_call given rooted numbered (.send .post
    (Cloud.devicePath device ++ "/" ++ syncPath)
    (some ((orderMembers name option).putAll carried))) rfl state).trans ?_
  rw [Call.request, address_sync, behind]
  rfl

theorem requestsOf_remoteStart (declared : laundry.command? laundry.commandNames.remoteStart =
      some command) (device : String) {status : Option Status} {data : Fields Document}
    (started : laundry.startData status = .ok data) :
    requestsOf ((remoteStart .second device laundry status).among (.fixed replies) state ()).calls =
      [order token number root device laundry.commandNames.remoteStart (optionOf command)
        [("dataSetList", .object [("washerDryer", .object data)])]] := by
  have ended : (remoteStart .second device laundry status).among (.fixed replies) state () = _ :=
    (among_lift_bind_of_ok (Laundry.declaredCommand_eq_ok declared)).trans
      (among_lift_bind_of_ok started)
  rw [ended]
  exact requestsOf_sendSecond given rooted numbered rfl device

theorem requestsOf_wakeUp (declared : laundry.command? laundry.commandNames.wakeUp = some command)
    (device : String) :
    requestsOf ((wakeUp .second device laundry).among (.fixed replies) state ()).calls =
      [order token number root device laundry.commandNames.wakeUp (optionOf command) []] := by
  have ended : (wakeUp .second device laundry).among (.fixed replies) state () = _ :=
    among_lift_bind_of_ok (Laundry.declaredCommand_eq_ok declared)
  rw [ended]
  exact requestsOf_sendSecond given rooted numbered rfl device

end Ordering

/-- What a capability with both commands orders. The names of a capability of the second generation are
fixed, and its options are those of its document. -/
theorem ordered {σ : Type} {replies : Replies cloud} {token : Token} {number : MessageNumber}
    {root : String} {laundry : Laundry} {start wake : Command}
    (given : replies CloudCall.token = .ok token) (rooted : token.root .second = .text root)
    (numbered : replies CloudCall.number = .ok number)
    (starts : laundry.command? laundry.commandNames.remoteStart = some start)
    (wakes : laundry.command? laundry.commandNames.wakeUp = some wake) (device : String) (state : σ) :
    (∀ status, ∃ data, laundry.startData status = .ok data ∧
      requestsOf
          ((remoteStart .second device laundry status).among (.fixed replies) state ()).calls =
        [order token number root device laundry.commandNames.remoteStart (optionOf start)
          [("dataSetList", .object [("washerDryer", .object data)])]]) ∧
    requestsOf ((wakeUp .second device laundry).among (.fixed replies) state ()).calls =
      [order token number root device laundry.commandNames.wakeUp (optionOf wake) []] ∧
    ∀ document requested, Capability.ofDocument document requested = .ok (.laundry laundry) →
      laundry.header.generation = .second →
      laundry.commandNames.remoteStart = "WMStart" ∧ laundry.commandNames.wakeUp = "WMWakeup" ∧
      DeclaresOption document "WMStart" start.option ∧
      DeclaresOption document "WMWakeup" wake.option := by
  refine ⟨fun status => ?_, requestsOf_wakeUp given rooted numbered wakes device, ?_⟩
  · obtain ⟨data, started, -⟩ := Laundry.exists_startData starts status
    exact ⟨data, started, requestsOf_remoteStart given rooted numbered starts device started⟩
  · intro document requested read second
    obtain ⟨members, rfl, readFrom⟩ := Capability.exists_readFrom read
    have names : laundry.commandNames = (Laundry.nodeNames .second).commands := by
      rw [readFrom.commandNames, second]
    rw [names] at starts wakes ⊢
    exact ⟨rfl, rfl, declaresOption_of_read read second starts,
      declaresOption_of_read read second wakes⟩

def wakeMembers : Fields Document := [("controlDataType", .text "WAKEUP")]

def orderedDocument : Document :=
  .object [
    ("Info", .object [("productType", .text "WM")]),
    ("MonitoringValue", .object []),
    ("Course", .object []),
    ("ControlWifi", .object [
      ("WMStart", .object [("command", .text "Start"),
        ("data", .object [("washerDryer", .object [("spin", .text "LOW")])])]),
      ("WMWakeup", .object [("data", .object [("washerDryer", .object wakeMembers)])])])]

theorem exists_ordered : ∃ laundry start wake,
    Capability.ofDocument orderedDocument none = .ok (.laundry laundry) ∧
    laundry.command? laundry.commandNames.remoteStart = some start ∧
    laundry.command? laundry.commandNames.wakeUp = some wake ∧
    wake.data.lookup "controlDataType" = some (.text "WAKEUP") :=
  ⟨_, _, _, rfl, rfl, rfl, rfl⟩

theorem ordered_declared : ∃ laundry start wake,
    Capability.ofDocument orderedDocument none = .ok (.laundry laundry) ∧
    laundry.command? laundry.commandNames.remoteStart = some start ∧
    laundry.command? laundry.commandNames.wakeUp = some wake ∧
    lostReplies CloudCall.token = .ok Call.sampleToken ∧ lostReplies CloudCall.number = .ok ⟨7⟩ ∧
    Call.sampleToken.root .second = .text "https://second.example/" ∧
    let ordered := order Call.sampleToken ⟨7⟩ "https://second.example/" "washer"
    (∃ data, laundry.startData none = .ok data ∧
      requestsOf ((remoteStart .second "washer" laundry none).among (.fixed lostReplies) () ()).calls =
        [ordered "WMStart" "Start" [("dataSetList", .object [("washerDryer", .object data)])]]) ∧
    requestsOf ((wakeUp .second "washer" laundry).among (.fixed lostReplies) () ()).calls =
      [ordered "WMWakeup" "Set" []] := by
  obtain ⟨laundry, start, wake, read, starts, wakes, -⟩ := exists_ordered
  have given : lostReplies CloudCall.token = .ok Call.sampleToken := rfl
  have numbered : lostReplies CloudCall.number = .ok ⟨7⟩ := rfl
  have rooted : Call.sampleToken.root .second = .text "https://second.example/" := rfl
  have second : laundry.header.generation = .second := by
    cases read
    rfl
  obtain ⟨sent, woken, described⟩ := ordered given rooted numbered starts wakes "washer" ()
  obtain ⟨startName, wakeName, startOption, wakeOption⟩ := described _ _ read second
  obtain ⟨_, _, ⟨⟩, ⟨⟩, startOption⟩ := startOption
  obtain ⟨_, _, ⟨⟩, ⟨⟩, wakeOption⟩ := wakeOption
  refine ⟨laundry, start, wake, read, starts, wakes, given, numbered, rooted, ?_, ?_⟩
  · obtain ⟨data, started, asked⟩ := sent none
    refine ⟨data, started, ?_⟩
    rw [asked, startName, optionOf, startOption]
    rfl
  · rw [woken, wakeName, optionOf, wakeOption]
    rfl

/-- The wake-up of a command that declares data carries no data set. -/
theorem not_carried_of_declared : ∃ laundry start wake,
    Capability.ofDocument orderedDocument none = .ok (.laundry laundry) ∧
    laundry.command? laundry.commandNames.remoteStart = some start ∧
    laundry.command? laundry.commandNames.wakeUp = some wake ∧
    wake.data.lookup "controlDataType" = some (.text "WAKEUP") ∧
    ∃ request members, requestsOf
        ((wakeUp .second "washer" laundry).among (.fixed lostReplies) () ()).calls = [request] ∧
      request.payload? = some members ∧ members.lookup "dataSetList" = none := by
  obtain ⟨laundry, start, wake, read, starts, wakes, carries⟩ := exists_ordered
  have given : lostReplies CloudCall.token = .ok Call.sampleToken := rfl
  have numbered : lostReplies CloudCall.number = .ok ⟨7⟩ := rfl
  have rooted : Call.sampleToken.root .second = .text "https://second.example/" := rfl
  exact ⟨laundry, start, wake, read, starts, wakes, carries, _, _,
    requestsOf_wakeUp given rooted numbered wakes "washer", rfl, rfl⟩

end ApplianceCloud.Control
