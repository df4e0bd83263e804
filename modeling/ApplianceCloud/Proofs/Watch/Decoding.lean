import ApplianceCloud.Proofs.Base64
import ApplianceCloud.Proofs.Cloud.Classification
import ApplianceCloud.Proofs.Document.Readable
import ApplianceCloud.Watch.Remote

namespace ApplianceCloud.Watch

open Activity

variable {σ : Type}

inductive Lists (envelope work : Fields Document) : Prop where
  | alone (listed : envelope.lookup "workList" = some (.object work))
  | first {others : List Document}
      (listed : envelope.lookup "workList" = some (.list (.object work :: others)))

def HasGoodCode (work : Fields Document) : Prop :=
  ∃ code, work.lookup "returnCode" = some code ∧ ResultCategory.ok.Covers code.display

structure Reads (unit : Capability) (envelope : Fields Document)
    (outcome : Except Failure (Option Status)) : Prop where
  decoded : ∀ work bytes, Lists envelope work → HasGoodCode work → bytes ≠ [] →
    work.lookup "returnData" = some (.text (Base64.encode bytes)) →
    outcome = (Status.ofPayload unit bytes).map some
  unlisted : (∀ work, ¬ Lists envelope work) → outcome = .ok none
  uncoded : ∀ work, Lists envelope work →
    (∀ code, work.lookup "returnCode" = some code → code.isNull = true) → outcome = .ok none
  silent : ∀ work, Lists envelope work → HasGoodCode work →
    (∀ data, work.lookup "returnData" = some data → data.isTruthy = false) → outcome = .ok none
  invalid : ∀ work data, Lists envelope work → HasGoodCode work →
    work.lookup "returnData" = some data → data.isTruthy = true →
    (∀ s, data = .text s → ¬ Base64.IsStrict s.toList) → ∃ fault, outcome = .error (.decoding fault)

section

variable {unit : Capability} {envelope work : Fields Document} {workId code : String}

theorem lists_iff : Lists envelope work ↔ workOf envelope = .object work := by
  unfold workOf Fields.orNull
  constructor
  · rintro (listed | listed) <;> simp [listed]
  · intro found
    cases listed : envelope.lookup "workList" with
    | none => simp [listed] at found
    | some node =>
      rw [listed, Option.getD_some] at found
      cases node with
      | list items =>
        cases items with
        | nil => cases found
        | cons item others =>
          cases found
          exact .first listed
      | object members =>
        cases found
        exact .alone listed
      | _ => cases found

theorem failureOf?_of_good (good : ResultCategory.ok.Covers code) : failureOf? workId code = none := by
  have category : ResultCategory.ofText code = .ok := good.unique (ResultCategory.covers_ofText code)
  have notExpired : code ≠ expiredCode := by
    rintro rfl
    exact absurd (Envelope.covers_ok_iff.1 good) (by decide +kernel)
  simp [failureOf?, category, notExpired, ResultCategory.isOffline]

theorem polledStatus_of_unlisted (unlisted : ∀ work, ¬ Lists envelope work) :
    polledStatus unit workId envelope = .ok none := by
  unfold polledStatus
  split
  · next work found => exact absurd (lists_iff.2 found) (unlisted work)
  · rfl

theorem polledStatus_of_uncoded (listed : Lists envelope work)
    (uncoded : ∀ code, work.lookup "returnCode" = some code → code.isNull = true) :
    polledStatus unit workId envelope = .ok none := by
  have null : (Fields.orNull work "returnCode").isNull = true := by
    cases given : work.lookup "returnCode" with
    | none =>
      rw [Fields.orNull_of_none given]
      rfl
    | some code => rw [Fields.orNull_of_lookup given, uncoded code given]
  simp only [polledStatus, lists_iff.1 listed, null, if_true]

theorem polledStatus_of_good (listed : Lists envelope work) (good : HasGoodCode work) :
    polledStatus unit workId envelope = statusOfData unit (Fields.orNull work "returnData") := by
  obtain ⟨code, given, covers⟩ := good
  have known := Fields.orNull_of_lookup given
  have notNull : code.isNull = false := by
    cases code with
    | null => exact absurd (Envelope.covers_ok_iff.1 covers) (by decide +kernel)
    | _ => rfl
  simp only [polledStatus, lists_iff.1 listed, known, notNull, failureOf?_of_good covers,
    Bool.false_eq_true, if_false]

theorem statusOfData_of_falsy {data : Document} (falsy : data.isTruthy = false) :
    statusOfData unit data = .ok none := by
  simp [statusOfData, falsy]

theorem encode_ne_empty {bytes : List UInt8} (nonempty : bytes ≠ []) : Base64.encode bytes ≠ "" := by
  intro empty
  have same := Base64.decode?_encode bytes
  rw [empty] at same
  cases same
  exact nonempty rfl

theorem statusOfData_encode {bytes : List UInt8} (nonempty : bytes ≠ []) :
    statusOfData unit (.text (Base64.encode bytes)) = (Status.ofPayload unit bytes).map some := by
  simp [statusOfData, Document.isTruthy, encode_ne_empty nonempty, Base64.decode?_encode]

theorem statusOfData_of_invalid {data : Document} (truthy : data.isTruthy = true)
    (invalid : ∀ s, data = .text s → ¬ Base64.IsStrict s.toList) :
    statusOfData unit data = .error (.decoding .invalidPayload) := by
  unfold statusOfData
  simp only [truthy, Bool.not_true, Bool.false_eq_true, if_false]
  split
  · next s =>
    have unread := invalid s rfl
    rw [← Base64.isSome_decode?_iff, Bool.not_eq_true, Option.isSome_eq_false_iff,
      Option.isNone_iff_eq_none] at unread
    rw [unread]
  · rfl

theorem reads_polledStatus (unit : Capability) (workId : String) (envelope : Fields Document) :
    Reads unit envelope (polledStatus unit workId envelope) := by
  constructor
  case decoded =>
    intro work bytes listed good nonempty found
    rw [polledStatus_of_good listed good, Fields.orNull_of_lookup found, statusOfData_encode nonempty]
  case unlisted => exact polledStatus_of_unlisted
  case uncoded => exact fun work listed uncoded => polledStatus_of_uncoded listed uncoded
  case silent =>
    intro work listed good silent
    rw [polledStatus_of_good listed good]
    cases found : work.lookup "returnData" with
    | none => rw [Fields.orNull_of_none found, statusOfData_of_falsy rfl]
    | some data => rw [Fields.orNull_of_lookup found, statusOfData_of_falsy (silent data found)]
  case invalid =>
    intro work data listed good found truthy invalid
    rw [polledStatus_of_good listed good, Fields.orNull_of_lookup found,
      statusOfData_of_invalid truthy invalid]
    exact ⟨_, rfl⟩

end

/-- A poll that is answered with a good envelope says what the entry for its work says. -/
theorem pollWork_reads {replies : Replies cloud} {root body : String} {envelope : Fields Document}
    {code : Document} (served : Call.Served replies .first root (.answered 200 body))
    (carries : Envelope.Carries .first body envelope code)
    (kept : ¬ Envelope.IsLost .first envelope) (good : ResultCategory.ok.Covers code.display)
    (device workId : String) (unit : Capability) (state : σ) :
    Reads unit envelope ((pollWork device workId unit).run (m := Id) replies state).1 := by
  let entry : Document := .object [("deviceId", .text device), ("workId", .text workId)]
  let call : Call := .post resultPath [("workList", .list [entry])]
  have judged : Envelope.judged .first body = .ok envelope :=
    ((Envelope.verdict .first body).classifies.returned envelope).2
      ⟨code, carries, kept, Envelope.covers_ok_iff.1 good⟩
  have served' : Call.Served replies call.generation root (.answered 200 body) := served
  have answered : (call.activity (σ := σ)).run (m := Id) replies state = (.ok envelope, state) := by
    rw [Call.run_activity served' state]
    exact congrArg (·, state) judged
  have polled : (pollWork device workId unit).run (m := Id) replies state =
      (polledStatus unit workId envelope, state) := run_bind_of_ok (I := cloud) answered
  rw [polled]
  exact reads_polledStatus unit workId envelope

def pollEntry (data : String) : Fields Document :=
  [("returnCode", .text " 0000"), ("returnData", .text data)]

def pollEnvelope (data : String) : Fields Document :=
  [("returnCd", .text "0000"), ("workList", .list [.object (pollEntry data)])]

def pollBody (data : String) : String :=
  (Document.object [("lgedmRoot", .object (pollEnvelope data))]).write

def pollReplies (data : String) : Replies cloud
  | .token => .ok Call.sampleToken
  | .number => .ok ⟨0⟩
  | .request _ => .ok (.answered 200 (pollBody data))
  | .pause _ => .ok ()

def pollUnit : Capability :=
  .refrigerator {
    header := {
      family := .refrigerator
      generation := .first
      reporting := ⟨.binary, [{ name := "spare", start := 0, length := 2 }]⟩ }
    settings := []
    commands := [] }

theorem carries_pollBody (data : String) :
    Envelope.Carries .first (pollBody data) (pollEnvelope data) (.text "0000") := by
  have entry : Document.IsReadAs (.object (pollEntry data)) (.object (pollEntry data)) :=
    .object (.cons ⟨rfl, .text " 0000"⟩ (.cons ⟨rfl, .text data⟩ .nil))
  have envelope : Document.IsReadAs (.object (pollEnvelope data)) (.object (pollEnvelope data)) :=
    .object (.cons ⟨rfl, .text "0000"⟩ (.cons ⟨rfl, .list (.cons entry .nil)⟩ .nil))
  have body : Document.IsReadAs (.object [("lgedmRoot", .object (pollEnvelope data))])
      (.object [("lgedmRoot", .object (pollEnvelope data))]) := .object (.cons ⟨rfl, envelope⟩ .nil)
  exact .first body.read_write rfl (List.cons_ne_nil _ _)

theorem pollWork_reads_sample :
    (∀ data, Call.Served (pollReplies data) .first "https://first.example/"
      (.answered 200 (pollBody data)) ∧
      Envelope.Carries .first (pollBody data) (pollEnvelope data) (.text "0000") ∧
      ¬ Envelope.IsLost .first (pollEnvelope data)) ∧
    ResultCategory.ok.Covers (Document.text "0000").display ∧
    (∃ status, ((pollWork "device" "work" pollUnit).run (m := Id) (pollReplies "AQI=") ()).1 =
      .ok (some status) ∧ status.reported = [("spare", .int 258)]) ∧
    ∃ fault, ((pollWork "device" "work" pollUnit).run (m := Id) (pollReplies "AQI") ()).1 =
      .error (.decoding fault) := by
  have served (data : String) : Call.Served (pollReplies data) .first "https://first.example/"
      (.answered 200 (pollBody data)) := ⟨⟨_, rfl, rfl⟩, ⟨_, rfl⟩, fun _ => rfl⟩
  have kept (data : String) : ¬ Envelope.IsLost .first (pollEnvelope data) := by
    rintro ⟨-, lost⟩
    cases lost
  have good : ResultCategory.ok.Covers (Document.text "0000").display := .inl (by decide +kernel)
  have goodCode (data : String) : HasGoodCode (pollEntry data) :=
    ⟨_, rfl, .inl (by decide +kernel)⟩
  have reads (data : String) := pollWork_reads (served data) (carries_pollBody data) (kept data) good
    "device" "work" pollUnit ()
  have encoded : Base64.encode [1, 2] = "AQI=" := by decide +kernel
  have unread : ¬ Base64.IsStrict "AQI".toList := by
    rw [← Base64.isSome_decode?_iff]
    decide +kernel
  refine ⟨fun data => ⟨served data, carries_pollBody data, kept data⟩, good, ?_, ?_⟩
  · have listed : (pollEntry "AQI=").lookup "returnData" = some (.text (Base64.encode [1, 2])) := by
      rw [encoded]
      rfl
    exact ⟨_, (reads "AQI=").decoded _ [1, 2] (.first rfl) (goodCode _) (List.cons_ne_nil _ _) listed,
      rfl⟩
  · refine (reads "AQI").invalid _ (.text "AQI") (.first rfl) (goodCode _) rfl rfl ?_
    rintro s ⟨⟩
    exact unread

end ApplianceCloud.Watch
