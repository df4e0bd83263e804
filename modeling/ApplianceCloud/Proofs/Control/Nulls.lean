import ApplianceCloud.Control.Payload
import ApplianceCloud.Proofs.Control.StartData
import ApplianceCloud.Proofs.Control.Substitution
import ApplianceCloud.Status.Document

namespace ApplianceCloud

namespace Fields

def withoutNulls (fields : Fields Document) : Fields Document :=
  fields.filter fun field => !(fields.lookup field.1).any Document.isNull

def nullsAs (text : String) (fields : Fields Document) : Fields Document :=
  fields.mapValues fun value => if value.isNull then .text text else value

variable {fields : Fields Document} {key : String}

theorem lookup_withoutNulls : fields.withoutNulls.lookup key =
    if (fields.lookup key).any Document.isNull then none else fields.lookup key := by
  rw [withoutNulls, lookup_filter _ key fun name => !(fields.lookup name).any Document.isNull]
  cases (fields.lookup key).any Document.isNull <;> rfl

theorem any_isNull_iff : (fields.lookup key).any Document.isNull = true ↔
    fields.lookup key = some .null := by
  cases fields.lookup key with
  | none => simp
  | some value => cases value <;> simp [Document.isNull]

theorem lookup_withoutNulls_of_null (null : fields.lookup key = some .null) :
    fields.withoutNulls.lookup key = none := by
  rw [lookup_withoutNulls, if_pos (any_isNull_iff.2 null)]

theorem lookup_withoutNulls_of_ne (other : fields.lookup key ≠ some .null) :
    fields.withoutNulls.lookup key = fields.lookup key := by
  rw [lookup_withoutNulls, if_neg (mt any_isNull_iff.1 other)]

theorem lookup_nullsAs_of_null (null : fields.lookup key = some .null) (text : String) :
    (fields.nullsAs text).lookup key = some (.text text) := by
  rw [nullsAs, lookup_mapValues, null]
  rfl

theorem lookup_nullsAs_of_ne (other : fields.lookup key ≠ some .null) (text : String) :
    (fields.nullsAs text).lookup key = fields.lookup key := by
  rw [nullsAs, lookup_mapValues]
  cases found : fields.lookup key with
  | none => rfl
  | some value =>
    cases value with
    | null => exact absurd found other
    | _ => rfl

end Fields

def Status.withoutNulls (status : Status) : Status :=
  { status with reported := status.reported.withoutNulls }

namespace Laundry

variable {laundry : Laundry} {command : Command} {key : String}

theorem sentAt_of_setAnew (setAnew : laundry.IsSetAnew key) (command : Command) (status : Status) :
    ∃ text, laundry.sentAt command (some status) key = some (.text text) ∧
      laundry.sentAt command (some status.withoutNulls) key = some (.text text) := by
  unfold sentAt
  -- The courses and the kind are chosen by the readings, which both statuses share.
  split_ifs with isKind isSmart isCourse
  · exact ⟨_, rfl, rfl⟩
  · exact ⟨_, rfl, rfl⟩
  · exact ⟨_, rfl, rfl⟩
  · rcases isSetAnew_iff.1 setAnew with same | same | same
    · exact absurd same isKind
    · exact absurd same isSmart
    · exact absurd same isCourse

theorem sentAt_eq_null_iff (solid : ∀ entry ∈ command.data, entry.2 ≠ .null) (status : Status) :
    laundry.sentAt command (some status) key = some .null ↔
      ¬ laundry.IsSetAnew key ∧ key ∈ command.data.keys ∧ status.reported.lookup key = some .null := by
  by_cases setAnew : laundry.IsSetAnew key
  · obtain ⟨text, sent, -⟩ := sentAt_of_setAnew setAnew command status
    simp [sent, setAnew]
  · rw [sentAt_eq_reported setAnew, lookup_reportedData, Fields.mem_keys_iff]
    cases declared : command.data.lookup key with
    | none => simp
    | some default =>
      have given := solid _ (Fields.mem_of_lookup declared)
      change some ((status.reported.lookup key).getD default) = some .null ↔ _
      cases status.reported.lookup key with
      | none => simpa using given
      | some value => simp [setAnew]

theorem sentAt_withoutNulls {status : Status}
    (given : laundry.sentAt command (some status) key ≠ some .null) :
    laundry.sentAt command (some status) key =
      laundry.sentAt command (some status.withoutNulls) key := by
  by_cases setAnew : laundry.IsSetAnew key
  · obtain ⟨text, sent, sent'⟩ := sentAt_of_setAnew setAnew command status
    rw [sent, sent']
  · rw [sentAt_eq_reported setAnew, lookup_reportedData] at given ⊢
    rw [sentAt_eq_reported setAnew, lookup_reportedData]
    cases declared : command.data.lookup key with
    | none => rfl
    | some default =>
      rw [declared] at given
      have reported : status.reported.lookup key ≠ some .null := by
        intro null
        refine given (congrArg some ?_)
        change (status.reported.lookup key).getD default = _
        rw [null, Option.getD_some]
      refine congrArg (fun found : Option Document => some (found.getD default)) ?_
      exact (Fields.lookup_withoutNulls_of_ne reported).symm

/-- The data of a start, beside those that it would have without the nulls of what was reported. -/
structure SendsNulls (laundry : Laundry) (command : Command) (status : Status)
    (data others : Fields Document) : Prop where
  null_iff : ∀ key, data.lookup key = some .null ↔
    ¬ laundry.IsSetAnew key ∧ key ∈ command.data.keys ∧ status.reported.lookup key = some .null
  given : ∀ key, others.lookup key ≠ some .null
  rest : ∀ key, data.lookup key ≠ some .null → data.lookup key = others.lookup key

theorem exists_sendsNulls (solid : ∀ entry ∈ command.data, entry.2 ≠ .null)
    (declares : laundry.command? laundry.commandNames.remoteStart = some command) (status : Status) :
    ∃ data others, laundry.startData (some status) = .ok data ∧
      laundry.startData (some status.withoutNulls) = .ok others ∧
      laundry.SendsNulls command status data others := by
  obtain ⟨data, started, found⟩ := exists_startData declares (some status)
  obtain ⟨others, started', found'⟩ := exists_startData declares (some status.withoutNulls)
  refine ⟨data, others, started, started', fun key => ?_, fun key => ?_, fun key given => ?_⟩
  · rw [found]
    exact sentAt_eq_null_iff solid status
  · rw [found', Ne, sentAt_eq_null_iff solid status.withoutNulls]
    rintro ⟨-, -, null⟩
    by_cases reported : status.reported.lookup key = some .null
    · cases (Fields.lookup_withoutNulls_of_null reported).symm.trans null
    · exact reported ((Fields.lookup_withoutNulls_of_ne reported).symm.trans null)
  · rw [found] at given ⊢
    rw [found', sentAt_withoutNulls given]

end Laundry

namespace Command

variable {command : Command} {values others data : Fields Document} {texts : String → String}

theorem fill_congr (same : ∀ entry ∈ data,
      textOfValue (valueOf values entry) = textOfValue (valueOf others entry)) (template : List Char) :
    fill values data template = fill others data template := by
  induction data generalizing template with
  | nil => rfl
  | cons entry rest ih =>
    obtain ⟨here, later⟩ := List.forall_mem_cons.1 same
    rw [fill, fill, here]
    exact congrArg (textOfValue (valueOf others entry) >>= ·) (funext fun _ => ih later _)

theorem payload_congr (same : ∀ entry ∈ command.data,
      textOfValue (valueOf values entry) = textOfValue (valueOf others entry)) :
    command.payload values = command.payload others := by
  rw [payload, payload, filled, filled, fill_congr same]

theorem textOfValue_nullsAs (values : Fields Document) (entry : String × Document) :
    textOfValue (valueOf (values.nullsAs "None") entry) = textOfValue (valueOf values entry) := by
  by_cases null : values.lookup entry.1 = some .null
  · rw [valueOf, valueOf, Fields.lookup_nullsAs_of_null null, null]
    rfl
  · rw [valueOf, valueOf, Fields.lookup_nullsAs_of_ne null]

theorem textOfValue_withoutNulls {entry : String × Document} (blank : entry.2 = .text "") :
    textOfValue (valueOf values.withoutNulls entry) =
      textOfValue (valueOf (values.nullsAs "0") entry) := by
  by_cases null : values.lookup entry.1 = some .null
  · rw [valueOf, valueOf, Fields.lookup_nullsAs_of_null null,
      Fields.lookup_withoutNulls_of_null null, blank]
    rfl
  · rw [valueOf, valueOf, Fields.lookup_nullsAs_of_ne null, Fields.lookup_withoutNulls_of_ne null]

def textsWithout (values : Fields Document) (texts : String → String) (place : String) : String :=
  if (values.lookup place).any Document.isNull then "0" else texts place

theorem Gives.withoutNulls {place : String} (gives : Gives values place (texts place)) :
    Gives values.withoutNulls place (textsWithout values texts place) := by
  by_cases null : values.lookup place = some .null
  · rw [textsWithout, if_pos (Fields.any_isNull_iff.2 null)]
    exact .missing (Fields.lookup_withoutNulls_of_null null)
  · have kept := Fields.lookup_withoutNulls_of_ne null
    rw [textsWithout, if_neg (mt Fields.any_isNull_iff.1 null)]
    generalize texts place = text at gives
    cases gives with
    | missing unknown => exact .missing (kept.trans unknown)
    | empty known => exact .empty (kept.trans known)
    | shown known nonempty shown => exact .shown (kept.trans known) nonempty shown

theorem Gives.eq_of_null {place text : String} (gives : Gives values place text)
    (null : values.lookup place = some .null) : text = "None" := by
  cases gives with
  | missing unknown => cases unknown.symm.trans null
  | empty known => cases known.symm.trans null
  | shown known nonempty shown =>
    cases known.symm.trans null
    cases shown
    rfl

theorem filled_eq_withoutNulls_iff
    (isData : IsDataFor (places command.template.toList) command.data)
    (gives : ∀ place ∈ places command.template.toList, Gives values place (texts place))
    (undisturbed : Undisturbed texts command.data.keys command.template.toList)
    (undisturbed' : Undisturbed (textsWithout values texts) command.data.keys
      command.template.toList) :
    command.filled values = command.filled values.withoutNulls ↔
      ∀ place ∈ places command.template.toList, values.lookup place ≠ some .null := by
  rw [filled_of_undisturbed isData gives undisturbed,
    filled_of_undisturbed isData (fun place member => (gives place member).withoutNulls) undisturbed']
  constructor
  · intro same place member null
    have shorter : ∀ name ∈ places command.template.toList,
        (textsWithout values texts name).toList.length ≤ (texts name).toList.length := by
      intro name member
      unfold textsWithout
      split_ifs with null
      · rw [(gives name member).eq_of_null (Fields.any_isNull_iff.1 null)]
        decide
      · exact le_rfl
    have equal := eq_of_substituted_eq shorter
      (String.ofList_injective (Except.ok.inj same)).symm place member
    rw [textsWithout, if_pos (Fields.any_isNull_iff.2 null), (gives place member).eq_of_null null]
      at equal
    exact absurd equal (by decide)
  · intro given
    refine congrArg (fun s => Except.ok (String.ofList s)) (substituted_congr fun place member => ?_)
    rw [textsWithout, if_neg (mt Fields.any_isNull_iff.1 (given place member))]

/-- What a command makes of the nulls of a map of values. Its text is the one without them only if none
of its places is null, as long as no text that is put in disturbs a place. -/
structure FillsNulls (command : Command) (values : Fields Document) : Prop where
  null : command.payload values = command.payload (values.nullsAs "None")
  absent : command.payload values.withoutNulls = command.payload (values.nullsAs "0")
  same_iff : ∀ texts : String → String,
    (∀ place ∈ places command.template.toList, Gives values place (texts place)) →
    Undisturbed texts command.data.keys command.template.toList →
    Undisturbed (textsWithout values texts) command.data.keys command.template.toList →
    (command.filled values = command.filled values.withoutNulls ↔
      ∀ place ∈ places command.template.toList, values.lookup place ≠ some .null)

theorem fillsNulls (isData : IsDataFor (places command.template.toList) command.data)
    (values : Fields Document) : command.FillsNulls values := by
  refine ⟨payload_congr fun entry _ => (textOfValue_nullsAs values entry).symm,
    payload_congr fun entry member => textOfValue_withoutNulls (isData.blank entry member), ?_⟩
  intro texts gives undisturbed undisturbed'
  exact filled_eq_withoutNulls_iff isData gives undisturbed undisturbed'

end Command

namespace Status

/-- What becomes of the nulls of a report in the commands that are made from it. -/
theorem nulls_sent (status : Status) :
    (∀ (laundry : Laundry) (command : Command),
      laundry.command? laundry.commandNames.remoteStart = some command →
      (∀ entry ∈ command.data, entry.2 ≠ .null) →
      ∃ data others, laundry.startData (some status) = .ok data ∧
        laundry.startData (some status.withoutNulls) = .ok others ∧
        laundry.SendsNulls command status data others) ∧
    ∀ control name command, (name, command) ∈ Command.ofFirstControl control →
      command.FillsNulls status.reported := by
  refine ⟨fun laundry command declares solid => ?_, fun control name command declared => ?_⟩
  · exact Laundry.exists_sendsNulls solid declares status
  · exact Command.fillsNulls (Command.isDataFor_of_mem_ofFirstControl declared) status.reported

def spinningDocument : Document :=
  .object [
    ("Info", .object [("productType", .text "WM")]),
    ("MonitoringValue", .object []),
    ("Course", .object []),
    ("ControlWifi", .object [("WMStart", .object [("data", .object [("washerDryer",
      .object [("spin", .text "LOW"), ("temp", .text "COLD")])])])])]

def spinningNode : Fields Document := [("spin", .null), ("temp", .text "HOT")]

def spinningCommand : Command := Command.commandOf "\x7b\x7bspin\x7d\x7d \x7b\x7btemp\x7d\x7d"

theorem exists_spinning : ∃ laundry command status,
    Capability.ofDocument spinningDocument none = .ok (.laundry laundry) ∧
    laundry.command? laundry.commandNames.remoteStart = some command ∧
    (∀ entry ∈ command.data, entry.2 ≠ .null) ∧ "spin" ∈ command.data.keys ∧
    ¬ laundry.IsSetAnew "spin" ∧ ofRead .washer (some (.laundry laundry)) true
      (.ok (.object [("washerDryer", .object spinningNode)])) = .ok status ∧
    status.reported = spinningNode ∧ status.reading? .spin = none := by
  refine ⟨_, _, _, rfl, rfl, ?_, ?_, ?_, rfl, rfl, rfl⟩
  · refine List.forall_mem_cons.2 ⟨nofun, List.forall_mem_cons.2 ⟨nofun, ?_⟩⟩
    exact List.forall_mem_singleton.2 nofun
  · exact List.mem_cons_self
  · decide +kernel

theorem mem_spinningCommand :
    ("Start", spinningCommand) ∈ Command.ofFirstControl (Command.controlOf spinningCommand.template) := by
  rw [Command.ofFirstControl_controlOf]
  exact List.mem_singleton_self _

theorem nulls_sent_spinning : ∃ laundry command status,
    Capability.ofDocument spinningDocument none = .ok (.laundry laundry) ∧
    laundry.command? laundry.commandNames.remoteStart = some command ∧
    (∀ entry ∈ command.data, entry.2 ≠ .null) ∧ status.reported = spinningNode ∧
    (∃ data others, laundry.startData (some status) = .ok data ∧
      laundry.startData (some status.withoutNulls) = .ok others ∧
      data.lookup "spin" = some .null ∧ data.lookup "temp" = others.lookup "temp") ∧
    ("Start", spinningCommand) ∈
      Command.ofFirstControl (Command.controlOf spinningCommand.template) ∧
    spinningCommand.payload spinningNode = spinningCommand.payload (spinningNode.nullsAs "None") ∧
    spinningCommand.filled spinningNode ≠ spinningCommand.filled spinningNode.withoutNulls := by
  obtain ⟨laundry, command, status, read, declares, solid, sent, notAnew, -, reported, -⟩ :=
    exists_spinning
  obtain ⟨starts, fills⟩ := nulls_sent status
  rw [reported] at fills
  have fill := fills _ _ _ mem_spinningCommand
  refine ⟨laundry, command, status, read, declares, solid, reported, ?_, mem_spinningCommand,
    fill.null, fun same => ?_⟩
  · obtain ⟨data, others, started, started', nulls⟩ := starts laundry command declares solid
    refine ⟨data, others, started, started', (nulls.null_iff "spin").2 ⟨notAnew, sent, ?_⟩,
      nulls.rest "temp" fun null => ?_⟩
    · rw [reported]
      rfl
    · obtain ⟨-, -, null⟩ := (nulls.null_iff "temp").1 null
      rw [reported] at null
      cases null
  · let texts (place : String) : String := if place = "spin" then "None" else "HOT"
    have named : Command.places spinningCommand.template.toList = ["spin", "temp"] := by
      decide +kernel
    have distinct : spinningCommand.data.keys.Nodup := by decide +kernel
    have bare : '{' ∉ Command.substituted (fun _ => "") spinningCommand.template.toList := by
      decide +kernel
    have gives : ∀ place ∈ Command.places spinningCommand.template.toList,
        Command.Gives spinningNode place (texts place) := by
      rw [named]
      simp only [List.forall_mem_cons]
      exact ⟨.shown rfl nofun rfl, .shown rfl (by simp) rfl, nofun⟩
    have apart := (fill.same_iff texts gives
      (Command.undisturbed_of_no_open distinct bare (by rw [named]; decide +kernel))
      (Command.undisturbed_of_no_open distinct bare (by rw [named]; decide +kernel))).1 same
    exact apart "spin" (by rw [named]; exact List.mem_cons_self) rfl

theorem not_default_of_spinning : ∃ laundry command status,
    Capability.ofDocument spinningDocument none = .ok (.laundry laundry) ∧
    laundry.command? laundry.commandNames.remoteStart = some command ∧
    (∀ entry ∈ command.data, entry.2 ≠ .null) ∧
    ofRead .washer (some (.laundry laundry)) true
      (.ok (.object [("washerDryer", .object spinningNode)])) = .ok status ∧
    status.reading? .spin = none ∧
    (∃ data, laundry.startData (some status) = .ok data ∧ data.lookup "spin" = some .null) ∧
    ("Start", spinningCommand) ∈ Command.ofFirstControl (Command.controlOf spinningCommand.template) ∧
    spinningCommand.filled status.reported = .ok "None HOT" ∧
    spinningCommand.filled (status.reported.without "spin") = .ok "0 HOT" := by
  obtain ⟨laundry, command, status, read, declares, solid, sent, notAnew, decoded, reported, unread⟩ :=
    exists_spinning
  refine ⟨laundry, command, status, read, declares, solid, decoded, unread, ?_, mem_spinningCommand,
    ?_, ?_⟩
  · obtain ⟨data, _, started, -, nulls⟩ := Laundry.exists_sendsNulls solid declares status
    exact ⟨data, started, (nulls.null_iff "spin").2 ⟨notAnew, sent, by rw [reported]; rfl⟩⟩
  · rw [reported]
    decide +kernel
  · rw [reported]
    decide +kernel

end Status

end ApplianceCloud
