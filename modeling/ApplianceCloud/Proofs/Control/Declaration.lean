import ApplianceCloud.Control.Payload
import ApplianceCloud.Proofs.Document.Exact

namespace ApplianceCloud.Command

open Document

def ownKeys (command : Command) : List String :=
  if command.binary then ["format", "data"] else ["data"]

/-- A payload with the members of an action and those that a command makes itself. -/
structure SendsDeclared (command : Command) (members payload : Fields Document) : Prop where
  distinct : payload.keys.Nodup
  mem_keys_iff : ∀ key, key ∈ payload.keys ↔
    key ∈ members.keys ∧ key ≠ "data" ∨ key ∈ command.ownKeys
  lookup_eq : ∀ key, key ∉ command.ownKeys → payload.lookup key = members.lookup key
  order : (payload.filter fun member => member.1 ∉ command.ownKeys) =
    members.filter fun member => member.1 ∉ command.ownKeys

section

variable {command : Command} {values members payload data : Fields Document} {binary : Bool}
  {text : String}

theorem data_mem_ownKeys (command : Command) : "data" ∈ command.ownKeys := by
  unfold ownKeys
  split_ifs <;> decide

theorem keys_of_dataMembers (made : command.dataMembers text = .ok data) :
    data.keys = command.ownKeys := by
  unfold dataMembers at made
  unfold ownKeys
  split_ifs at made ⊢
  · obtain ⟨bytes, -, same⟩ := bind_eq_ok_iff.1 made
    cases same
    rfl
  · cases made
    rfl

theorem sendsDeclared_putAll (keys : data.keys = command.ownKeys) (distinct : members.keys.Nodup) :
    command.SendsDeclared members ((members.without "data").putAll data) := by
  let stays (key : String) : Bool := key ∉ command.ownKeys
  have kept : (members.without "data").filter (fun member => stays member.1) =
      members.filter fun member => stays member.1 := by
    rw [Fields.without, List.filter_filter]
    refine List.filter_congr fun member _ => ?_
    by_cases isData : member.1 = "data"
    · simp [stays, isData, data_mem_ownKeys]
    · simp [isData]
  have order : ((members.without "data").putAll data).filter (fun member => stays member.1) =
      members.filter fun member => stays member.1 := by
    refine (Fields.filter_putAll fun key member => ?_).trans kept
    simpa [stays, keys] using member
  refine ⟨?_, fun key => ?_, fun key other => ?_, order⟩
  · exact Fields.nodup_keys_putAll data (Fields.nodup_keys_filter distinct _)
  · rw [Fields.mem_keys_putAll, keys]
    refine or_congr_left ?_
    simp [Fields.keys, Fields.without]
  · have stay : stays key = true := decide_eq_true other
    have found := congrArg (List.lookup key) order
    rwa [Fields.lookup_filter, Fields.lookup_filter, if_pos stay, if_pos stay] at found

theorem declared_ofAction (exact : (Document.object members).IsExact) (binary : Bool) :
    (ofAction binary members).declared = .ok (.object (members.without "data")) := by
  have text : (ofAction binary members).declaration = (Document.object (members.without "data")).write :=
    rfl
  have nonempty : (Document.object (members.without "data")).write ≠ "" := by
    obtain ⟨c, s, text, -⟩ := exists_cons_written (.object (members.without "data"))
    rw [write, text]
    simp
  rw [Command.declared, text, if_neg nonempty, (exact.without "data").read_write]

theorem payload_ofAction (exact : (Document.object members).IsExact) (binary : Bool)
    (values : Fields Document) : (ofAction binary members).payload values =
      ((ofAction binary members).filled values >>= (ofAction binary members).dataMembers).map
        (members.without "data").putAll := by
  rw [payload, declared_ofAction exact binary]
  cases (ofAction binary members).filled values with
  | error failure => rfl
  | ok text =>
    simp only [ok_bind]
    cases (ofAction binary members).dataMembers text <;> rfl

end

theorem lookup_ofFirstControl {control : Document} {actions members : Fields Document} {name : String}
    (listed : control.member? "action" = some (.object actions))
    (found : actions.lookup name = some (.object members)) :
    (ofFirstControl control).lookup name = some (ofAction
      (ReportFormat.ofDocument ((control.member? "type").getD .null) = .binary) members) := by
  rw [ofFirstControl, listed, Option.bind_some, object?, Option.getD_some]
  let command (action : Document) : Option Command := action.object?.map (ofAction
    (ReportFormat.ofDocument ((control.member? "type").getD .null) = .binary))
  have kept : command (.object members) = some (ofAction _ members) := rfl
  rw [← Fields.lookup_filterMap found kept]
  exact congrArg (List.lookup name) (List.filterMap_congr fun action _ => (Option.map_map ..).symm)

/-- An action is stored as text and read again for every payload. A payload fails only as its data do,
and otherwise has the members of the action, but for those that the command makes itself. -/
theorem payload_declared {control : Document} {actions members : Fields Document} {name : String}
    (listed : control.member? "action" = some (.object actions))
    (found : actions.lookup name = some (.object members))
    (exact : (Document.object members).IsExact) :
    ∃ command, (ofFirstControl control).lookup name = some command ∧
      Document.read command.declaration = .ok (.object (members.without "data")) ∧
      ∀ values,
        (∀ failure, command.payload values = .error failure ↔
          (command.filled values >>= command.dataMembers) = .error failure) ∧
        ∀ payload, command.payload values = .ok payload → command.SendsDeclared members payload := by
  refine ⟨_, lookup_ofFirstControl listed found, (exact.without "data").read_write,
    fun values => ⟨fun failure => ?_, fun payload made => ?_⟩⟩
  · rw [payload_ofAction exact, map_eq_error_iff]
  · rw [payload_ofAction exact, map_eq_ok_iff] at made
    obtain ⟨data, made, rfl⟩ := made
    obtain ⟨text, -, made⟩ := bind_eq_ok_iff.1 made
    cases exact with
    | object distinct _ => exact sendsDeclared_putAll (keys_of_dataMembers made) distinct

def nestedNode : Document :=
  .object [("größe 😀", .list [.int (-7), .null, .object [("b", .bool true), ("a", .text "\"\\\n\u007f")]])]

def nestedAction : Fields Document :=
  [("option", nestedNode), ("data", .text "[\x7b\x7bx\x7d\x7d,7]"), ("format", .int 3), ("cmd", .text "Set")]

def nestedControl : Document :=
  .object [("type", .text "BINARY(BYTE)"), ("action", .object [("Start", .object nestedAction)])]

theorem isExact_nestedAction : (Document.object nestedAction).IsExact := by
  have inner : (Document.object [("b", .bool true), ("a", .text "\"\\\n\u007f")]).IsExact :=
    .object (by decide) (List.forall_mem_cons.2 ⟨.bool true, List.forall_mem_singleton.2 (.text _)⟩)
  have items : (Document.list [.int (-7), .null,
      .object [("b", .bool true), ("a", .text "\"\\\n\u007f")]]).IsExact :=
    .list (List.forall_mem_cons.2 ⟨.int (by decide +kernel), List.forall_mem_cons.2 ⟨.null,
      List.forall_mem_singleton.2 inner⟩⟩)
  have node : nestedNode.IsExact := .object (by decide) (List.forall_mem_singleton.2 items)
  exact .object (by decide) (List.forall_mem_cons.2 ⟨node, List.forall_mem_cons.2 ⟨.text _,
    List.forall_mem_cons.2 ⟨.int (by decide +kernel), List.forall_mem_singleton.2 (.text _)⟩⟩⟩)

theorem payload_declared_nested :
    nestedControl.member? "action" = some (.object [("Start", .object nestedAction)]) ∧
    (Document.object nestedAction).IsExact ∧
    ∃ command payload, (ofFirstControl nestedControl).lookup "Start" = some command ∧
      command.payload [("x", .int 5)] = .ok payload ∧ payload.lookup "option" = some nestedNode ∧
      payload.lookup "cmd" = some (.text "Set") ∧ "format" ∈ payload.keys := by
  have listed : nestedControl.member? "action" =
      some (.object [("Start", .object nestedAction)]) := rfl
  have named : List.lookup "Start" [("Start", Document.object nestedAction)] =
      some (.object nestedAction) := rfl
  obtain ⟨command, found, -, sends⟩ := payload_declared listed named isExact_nestedAction
  have binary : ReportFormat.ofDocument ((nestedControl.member? "type").getD .null) = .binary := by
    decide +kernel
  have same := (lookup_ofFirstControl listed named).symm.trans found
  rw [decide_eq_true binary, Option.some.injEq] at same
  subst same
  have filled : (ofAction true nestedAction).filled [("x", .int 5)] = .ok "[5,7]" := by decide +kernel
  have bytes : bytesOf "[5,7]" = .ok [5, 7] := by decide +kernel
  have isBinary : (ofAction true nestedAction).binary = true := by decide +kernel
  obtain ⟨payload, made⟩ : ∃ payload,
      (ofAction true nestedAction).payload [("x", .int 5)] = .ok payload := by
    rw [payload_ofAction isExact_nestedAction, filled, ok_bind, dataMembers, if_pos isBinary, bytes]
    exact ⟨_, rfl⟩
  have declared := (sends _).2 payload made
  refine ⟨listed, isExact_nestedAction, _, payload, found, made, ?_, ?_, ?_⟩
  · exact declared.lookup_eq "option" (by decide +kernel)
  · exact declared.lookup_eq "cmd" (by decide +kernel)
  · exact (declared.mem_keys_iff "format").2 (.inr (by decide +kernel))

end ApplianceCloud.Command
