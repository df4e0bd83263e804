import ApplianceCloud.Proofs.Document.Exact
import ApplianceCloud.Proofs.Watch.Decoding

namespace ApplianceCloud.Watch

open Activity

inductive PollEnd where
  | noData
  | decoded (status : Status)
  | expired
  | offline
  | refused (kind : CallFaultKind) (category? : Option ResultCategory)
  | failed (failure : Failure)

namespace PollEnd

def ofOutcome : Except Failure (Option Status) → PollEnd
  | .ok none => noData
  | .ok (some status) => decoded status
  | .error (.expired _) => expired
  | .error (.offline _) => offline
  | .error (.call fault) => refused fault.kind fault.category?
  | .error other => failed other

def ofCategory (data : PollEnd) : ResultCategory → PollEnd
  | .ok => data
  | .deviceNotResponding => offline
  | other => refused .resultCode (some other)

end PollEnd

/-- Two works that are the same but for blanks around their codes. -/
structure DifferInBlanks (work work' : Fields Document) (code code' : String) : Prop where
  given : work.lookup "returnCode" = some (.text code)
  given' : work'.lookup "returnCode" = some (.text code')
  blanks : Text.trim code = Text.trim code'
  others : ∀ key, key ≠ "returnCode" → work.lookup key = work'.lookup key

inductive Answers (replies : Replies cloud) (work : Fields Document) : Prop where
  | intro {root body : String} {envelope : Fields Document} {code : Document}
      (served : Call.Served replies .first root (.answered 200 body))
      (carries : Envelope.Carries .first body envelope code)
      (kept : ¬ Envelope.IsLost .first envelope) (good : ResultCategory.ok.Covers code.display)
      (listed : Lists envelope work)

variable {σ : Type} {unit : Capability} {replies replies' : Replies cloud}
  {work work' : Fields Document} {code code' : String}

theorem run_pollWork (answers : Answers replies work) (device workId : String) (unit : Capability)
    (state : σ) : ∃ envelope, Lists envelope work ∧
      (pollWork device workId unit).run (m := Id) replies state =
        (polledStatus unit workId envelope, state) := by
  obtain @⟨root, body, envelope, code, served, carries, kept, good, listed⟩ := answers
  let entry : Document := .object [("deviceId", .text device), ("workId", .text workId)]
  let call : Call := .post resultPath [("workList", .list [entry])]
  have judged : Envelope.judged .first body = .ok envelope :=
    ((Envelope.verdict .first body).classifies.returned envelope).2
      ⟨code, carries, kept, Envelope.covers_ok_iff.1 good⟩
  have served' : Call.Served replies call.generation root (.answered 200 body) := served
  have answered : (call.activity (σ := σ)).run (m := Id) replies state = (.ok envelope, state) := by
    rw [Call.run_activity served' state]
    exact congrArg (·, state) judged
  exact ⟨envelope, listed, run_bind_of_ok (I := cloud) answered⟩

theorem ofOutcome_polledStatus {envelope : Fields Document} {workId : String}
    (listed : Lists envelope work) (given : work.lookup "returnCode" = some (.text code)) :
    PollEnd.ofOutcome (polledStatus unit workId envelope) =
      if code = expiredCode then .expired
      else .ofCategory (.ofOutcome (statusOfData unit (Fields.orNull work "returnData")))
        (ResultCategory.ofText code) := by
  have known := Fields.orNull_of_lookup given
  simp only [polledStatus, lists_iff.1 listed, known, Document.isNull, Bool.false_eq_true, if_false,
    Document.display_text, failureOf?]
  split_ifs with expiry offline refused
  · rfl
  · have category : ResultCategory.ofText code = .deviceNotResponding := by
      simpa [ResultCategory.isOffline] using offline
    rw [category]
    rfl
  · cases category : ResultCategory.ofText code with
    | ok => exact absurd category refused
    | deviceNotResponding => simp [category, ResultCategory.isOffline] at offline
    | _ => rfl
  · rw [not_not] at refused
    rw [refused]
    rfl

theorem ofText_congr (blanks : Text.trim code = Text.trim code') :
    ResultCategory.ofText code = ResultCategory.ofText code' := by
  rw [ResultCategory.ofText, blanks, ResultCategory.ofText]

theorem ofText_expiredCode : ResultCategory.ofText expiredCode = .unknown := by decide +kernel

theorem ofText_of_padded (padded : Text.trim code = expiredCode) :
    ResultCategory.ofText code = .unknown := by
  have trimmed : Text.trim expiredCode = expiredCode := by decide +kernel
  rw [ofText_congr (padded.trans trimmed.symm), ofText_expiredCode]

theorem ofOutcome_alike_iff {envelope envelope' : Fields Document} {workId : String}
    (listed : Lists envelope work) (listed' : Lists envelope' work')
    (differ : DifferInBlanks work work' code code') :
    PollEnd.ofOutcome (polledStatus unit workId envelope) =
        PollEnd.ofOutcome (polledStatus unit workId envelope') ↔
      (code = expiredCode ↔ code' = expiredCode) := by
  have data : Fields.orNull work "returnData" = Fields.orNull work' "returnData" := by
    rw [Fields.orNull, Fields.orNull, differ.others "returnData" (by decide)]
  have same := ofText_congr differ.blanks
  rw [ofOutcome_polledStatus listed differ.given, ofOutcome_polledStatus listed' differ.given', data,
    same]
  by_cases expiry : code = expiredCode <;> by_cases expiry' : code' = expiredCode
  · simp [expiry, expiry']
  · have unknown : ResultCategory.ofText code' = .unknown := by
      rw [← same, expiry, ofText_expiredCode]
    simp [expiry, expiry', unknown, PollEnd.ofCategory]
  · have unknown : ResultCategory.ofText expiredCode = .unknown := ofText_expiredCode
    simp [expiry, expiry', unknown, PollEnd.ofCategory]
  · simp [expiry, expiry']

/-- Two polls whose works differ in blanks around their codes end alike, unless one of the codes is
that of an expired work and the other one is not. -/
theorem pollWork_alike_iff (answers : Answers replies work) (answers' : Answers replies' work')
    (differ : DifferInBlanks work work' code code') (device workId : String) (unit : Capability)
    (state : σ) :
    let ended := PollEnd.ofOutcome ((pollWork device workId unit).run (m := Id) replies state).1
    let ended' := PollEnd.ofOutcome ((pollWork device workId unit).run (m := Id) replies' state).1
    (ended = ended' ↔ (code = expiredCode ↔ code' = expiredCode)) ∧
      (code = expiredCode → ended = .expired) ∧
      (Text.trim code = expiredCode → code ≠ expiredCode →
        ended = .refused .resultCode (some .unknown)) := by
  intro ended ended'
  obtain ⟨envelope, listed, polled⟩ := run_pollWork answers device workId unit state
  obtain ⟨envelope', listed', polled'⟩ := run_pollWork answers' device workId unit state
  have judged : ended = PollEnd.ofOutcome (polledStatus unit workId envelope) :=
    congrArg (fun done => PollEnd.ofOutcome (Prod.fst done)) polled
  have judged' : ended' = PollEnd.ofOutcome (polledStatus unit workId envelope') :=
    congrArg (fun done => PollEnd.ofOutcome (Prod.fst done)) polled'
  refine ⟨?_, fun expiry => ?_, fun padded noExpiry => ?_⟩
  · rw [judged, judged']
    exact ofOutcome_alike_iff listed listed' differ
  · rw [judged, ofOutcome_polledStatus listed differ.given, if_pos expiry]
  · rw [judged, ofOutcome_polledStatus listed differ.given, if_neg noExpiry, ofText_of_padded padded]
    rfl

def codedEntry (code : String) : Fields Document := [("returnCode", .text code)]

def codedEnvelope (code : String) : Fields Document :=
  [("returnCd", .text "0000"), ("workList", .list [.object (codedEntry code)])]

def codedBody (code : String) : Document := .object [("lgedmRoot", .object (codedEnvelope code))]

def codedReplies (code : String) : Replies cloud
  | .token => .ok Call.sampleToken
  | .number => .ok ⟨0⟩
  | .request _ => .ok (.answered 200 (codedBody code).write)
  | .pause _ => .ok ()

theorem isExact_codedBody (code : String) : (codedBody code).IsExact := by
  have entry : (Document.object (codedEntry code)).IsExact :=
    .object (by simp [Fields.keys, codedEntry]) (List.forall_mem_singleton.2 (.text code))
  have envelope : (Document.object (codedEnvelope code)).IsExact :=
    .object (by simp [Fields.keys, codedEnvelope]) (List.forall_mem_cons.2
      ⟨.text _, List.forall_mem_singleton.2 (.list (List.forall_mem_singleton.2 entry))⟩)
  exact .object (by simp [Fields.keys]) (List.forall_mem_singleton.2 envelope)

theorem answers_coded (code : String) : Answers (codedReplies code) (codedEntry code) := by
  have carries : Envelope.Carries .first (codedBody code).write (codedEnvelope code) (.text "0000") :=
    .first (isExact_codedBody code).read_write rfl (List.cons_ne_nil _ _)
  have kept : ¬ Envelope.IsLost .first (codedEnvelope code) := by
    rintro ⟨-, lost⟩
    cases lost
  have served : Call.Served (codedReplies code) .first "https://first.example/"
      (.answered 200 (codedBody code).write) := ⟨⟨_, rfl, rfl⟩, ⟨_, rfl⟩, fun _ => rfl⟩
  exact .intro served carries kept (.inl (by decide +kernel)) (.first rfl)

theorem differInBlanks_coded {code code' : String} (blanks : Text.trim code = Text.trim code') :
    DifferInBlanks (codedEntry code) (codedEntry code') code code' := by
  refine ⟨rfl, rfl, blanks, fun key other => ?_⟩
  have apart : (key == "returnCode") = false := beq_eq_false_iff_ne.2 other
  rw [codedEntry, codedEntry, List.lookup_cons, List.lookup_cons, apart]

theorem pollWork_alike_iff_padded :
    let ended (code : String) :=
      PollEnd.ofOutcome ((pollWork "device" "work" pollUnit).run (m := Id) (codedReplies code) ()).1
    (∀ code, Answers (codedReplies code) (codedEntry code)) ∧
    DifferInBlanks (codedEntry "0106") (codedEntry " 0106\n") "0106" " 0106\n" ∧
    ended "0106" = ended " 0106\n" ∧
    DifferInBlanks (codedEntry " 0100") (codedEntry "0100") " 0100" "0100" ∧
    ended " 0100" = .refused .resultCode (some .unknown) ∧ ended " 0100" ≠ ended "0100" := by
  intro ended
  have silent := differInBlanks_coded (show Text.trim "0106" = Text.trim " 0106\n" by decide +kernel)
  have expired := differInBlanks_coded (show Text.trim " 0100" = Text.trim "0100" by decide +kernel)
  have alike := pollWork_alike_iff (answers_coded _) (answers_coded _) silent "device" "work" pollUnit ()
  have apart := pollWork_alike_iff (answers_coded _) (answers_coded _) expired "device" "work" pollUnit ()
  refine ⟨answers_coded, silent, alike.1.2 (by decide), expired,
    apart.2.2 (by decide +kernel) (by decide), fun same => ?_⟩
  exact absurd (apart.1.1 same) (by decide)

/-- The code of an expired work with a blank before it ends the poll in another way than without. -/
theorem not_alike_of_padded_expiry :
    DifferInBlanks (codedEntry " 0100") (codedEntry "0100") " 0100" "0100" ∧
    PollEnd.ofOutcome
        ((pollWork "device" "work" pollUnit).run (m := Id) (codedReplies " 0100") ()).1 ≠
      PollEnd.ofOutcome
        ((pollWork "device" "work" pollUnit).run (m := Id) (codedReplies "0100") ()).1 := by
  have differ := differInBlanks_coded (show Text.trim " 0100" = Text.trim "0100" by decide +kernel)
  refine ⟨differ, ?_⟩
  obtain ⟨envelope, listed, polled⟩ := run_pollWork (answers_coded " 0100") "device" "work" pollUnit ()
  obtain ⟨envelope', listed', polled'⟩ := run_pollWork (answers_coded "0100") "device" "work" pollUnit ()
  rw [polled, polled', Ne, ofOutcome_alike_iff listed listed' differ]
  decide

end ApplianceCloud.Watch
