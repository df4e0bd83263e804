import ApplianceCloud.Cloud.Call
import ApplianceCloud.Proofs.Document.Writable
import ApplianceCloud.Proofs.Interleaving.Basic

namespace ApplianceCloud

namespace Activity

variable {I : Interface} {σ α β : Type} {replies : Replies I} {state : σ}

theorem run_ask_bind {what : I.Call} {answer : I.Answer what} {next : I.Answer what → Activity I σ β}
    (answered : replies what = .ok answer) : (ask what >>= next).run (m := Id) replies state =
      (next answer).run (m := Id) replies state := by
  change ((done (replies what)).bind next).run (m := Id) replies state = _
  rw [answered]
  rfl

theorem run_bind_of_ok {activity : Activity I σ α} {next : α → Activity I σ β} {a : α} {after : σ}
    (ended : activity.run (m := Id) replies state = (.ok a, after)) :
    (activity >>= next).run (m := Id) replies state = (next a).run (m := Id) replies after := by
  change (activity.bind next).run (m := Id) replies state = _
  induction activity generalizing state with
  | done result =>
    cases ended
    rfl
  | look rest ih => exact ih state ended
  | write written rest ih => exact ih ended
  | call what rest ih => exact ih _ ended
  | lock rest ih => exact ih ended
  | unlock rest ih => exact ih ended

theorem run_lift_bind {result : Except Failure α} {a : α} {next : α → Activity I σ β}
    (made : result = .ok a) : (liftM result >>= next).run (m := Id) replies state =
      (next a).run (m := Id) replies state := by
  rw [made]
  rfl

end Activity

namespace ResultCategory

/-- Whether a code, without the blanks around it, is one of a category. -/
def Covers (category : ResultCategory) (code : String) : Prop :=
  Text.trim code ∈ category.codes ∨
    category = .unknown ∧ ∀ other : ResultCategory, Text.trim code ∉ other.codes

theorem mem_all (category : ResultCategory) : category ∈ all := by
  cases category <;> decide

theorem eq_of_mem_codes {category other : ResultCategory} {code : String}
    (here : code ∈ category.codes) (there : code ∈ other.codes) : other = category := by
  have disjoint : ∀ category ∈ all, ∀ code ∈ category.codes, ∀ other ∈ all,
      code ∈ other.codes → other = category := by decide +kernel
  exact disjoint category (mem_all category) code here other (mem_all other) there

theorem Covers.unique {category other : ResultCategory} {code : String}
    (covers : category.Covers code) (others : other.Covers code) : other = category := by
  rcases covers with here | ⟨rfl, none⟩ <;> rcases others with there | ⟨rfl, none'⟩
  · exact eq_of_mem_codes here there
  · exact absurd here (none' _)
  · exact absurd there (none _)
  · rfl

theorem Covers.iff {category other : ResultCategory} {code : String} (covers : category.Covers code) :
    other.Covers code ↔ other = category :=
  ⟨covers.unique, fun same => same ▸ covers⟩

theorem covers_ofText (code : String) : (ofText code).Covers code := by
  unfold ofText
  cases found : listed.find? fun category => Text.trim code ∈ category.codes with
  | some category => exact .inl (by simpa using List.find?_some found)
  | none =>
    refine .inr ⟨rfl, fun other member => ?_⟩
    have missing := List.find?_eq_none.1 found
    cases other with
    | unknown => cases member
    | _ =>
      refine missing _ ?_ (by simpa using member)
      decide

end ResultCategory

namespace Envelope

inductive Carries : Generation → String → Fields Document → Document → Prop where
  | first {body : String} {members envelope : Fields Document}
      (read : Document.read body = .ok (.object members))
      (root : members.lookup "lgedmRoot" = some (.object envelope)) (full : envelope ≠ []) :
      Carries .first body envelope ((envelope.lookup "returnCd").getD (.text ""))
  | second {body : String} {envelope : Fields Document} {code : Document}
      (read : Document.read body = .ok (.object envelope))
      (given : envelope.lookup "resultCode" = some code) : Carries .second body envelope code

def IsLost (generation : Generation) (envelope : Fields Document) : Prop :=
  generation = .first ∧ envelope.lookup "deviceState" = some (.text "D")

def judged (generation : Generation) (body : String) : Except Failure (Fields Document) := do
  ofBody generation (← membersOf body)

variable {generation : Generation} {body : String} {envelope other : Fields Document}
  {code code' : Document}

theorem Carries.unique (carries : Carries generation body envelope code)
    (others : Carries generation body other code') : other = envelope ∧ code' = code := by
  cases carries with
  | first read root full =>
    cases others with
    | first read' root' full' =>
      rw [read] at read'
      cases read'
      rw [root] at root'
      cases root'
      exact ⟨rfl, rfl⟩
  | second read given =>
    cases others with
    | second read' given' =>
      rw [read] at read'
      cases read'
      rw [given] at given'
      cases given'
      exact ⟨rfl, rfl⟩

theorem Carries.iff (carries : Carries generation body envelope code) :
    Carries generation body other code' ↔ other = envelope ∧ code' = code := by
  refine ⟨carries.unique, ?_⟩
  rintro ⟨rfl, rfl⟩
  exact carries

theorem Carries.isWritable (carries : Carries generation body envelope code) :
    code.isWritable = true := by
  cases carries with
  | first read root full =>
    have writable := Document.isWritable_of_lookup (Document.isWritable_of_read read) root
    cases given : envelope.lookup "returnCd" with
    | none => rfl
    | some code => exact Document.isWritable_of_lookup writable given
  | second read given => exact Document.isWritable_of_lookup (Document.isWritable_of_read read) given

theorem isDisconnected_iff :
    isDisconnected envelope = true ↔ envelope.lookup "deviceState" = some (.text "D") := by
  unfold isDisconnected lostState
  split
  · next state found => simp [found]
  · next other => exact iff_of_false Bool.noConfusion (other _)

theorem checked_eq (writable : code.isWritable = true) : checked code envelope =
    match failureOf? code.display with
    | none => .ok envelope
    | some failure => .error failure := by
  simp only [checked, Document.toText, writable, if_true, Except.mapError, Bind.bind, Except.bind]
  cases failureOf? code.display <;> rfl

inductive Verdict (generation : Generation) (body : String) :
    Except Failure (Fields Document) → Prop where
  | invalid {fault : CallFault} (nothing : ∀ envelope code, ¬ Carries generation body envelope code)
      (kind : fault.kind = .invalidResponse) : Verdict generation body (.error (.call fault))
  | lost {envelope : Fields Document} {code : Document}
      (carries : Carries generation body envelope code) (lost : IsLost generation envelope) :
      Verdict generation body (.error (.offline .disconnected))
  | done {envelope : Fields Document} {code : Document}
      (carries : Carries generation body envelope code) (kept : ¬ IsLost generation envelope)
      (covers : ResultCategory.ok.Covers code.display) : Verdict generation body (.ok envelope)
  | silent {envelope : Fields Document} {code : Document}
      (carries : Carries generation body envelope code) (kept : ¬ IsLost generation envelope)
      (covers : ResultCategory.deviceNotResponding.Covers code.display) :
      Verdict generation body (.error (.offline (.notResponding code.display)))
  | refused {envelope : Fields Document} {code : Document} {category : ResultCategory}
      (carries : Carries generation body envelope code) (kept : ¬ IsLost generation envelope)
      (covers : category.Covers code.display) (notOk : category ≠ .ok)
      (answers : category ≠ .deviceNotResponding) :
      Verdict generation body (.error (.call (.refused code.display category)))

theorem verdict_of_kept (carries : Carries generation body envelope code)
    (kept : ¬ IsLost generation envelope) : Verdict generation body (checked code envelope) := by
  rw [checked_eq carries.isWritable, failureOf?]
  have covers := ResultCategory.covers_ofText code.display
  generalize ResultCategory.ofText code.display = category at covers
  split_ifs with isOk isOffline
  · subst isOk
    exact .done carries kept covers
  · simp only [ResultCategory.isOffline, decide_eq_true_eq] at isOffline
    subst isOffline
    exact .silent carries kept covers
  · exact .refused carries kept covers isOk (by simpa [ResultCategory.isOffline] using isOffline)

theorem verdict_ofFirst {members : Fields Document}
    (read : Document.read body = .ok (.object members)) : Verdict .first body (ofFirst members) := by
  unfold ofFirst Fields.orNull
  split
  · next noRoot =>
    refine .invalid (fun envelope code carries => ?_) (by rfl)
    cases carries with | first read' root full => simp_all [Document.object?]
  · next noRoot =>
    refine .invalid (fun envelope code carries => ?_) (by rfl)
    cases carries with | first read' root full => simp_all [Document.object?]
  · next envelope full found =>
    have root : members.lookup "lgedmRoot" = some (.object envelope) := by
      cases given : members.lookup "lgedmRoot" with
      | none => simp [given, Document.object?] at found
      | some node => cases node <;> simp_all [Document.object?]
    have carries := Carries.first read root full
    split
    · next lost => exact .lost carries ⟨rfl, isDisconnected_iff.1 lost⟩
    · next kept => exact verdict_of_kept carries fun lost => kept (isDisconnected_iff.2 lost.2)

theorem verdict_ofSecond {members : Fields Document}
    (read : Document.read body = .ok (.object members)) :
    Verdict .second body (ofSecond members) := by
  unfold ofSecond
  cases given : members.lookup "resultCode" with
  | none =>
    refine .invalid (fun envelope code carries => ?_) (by rfl)
    cases carries with
    | second read' found =>
      rw [read] at read'
      cases read'
      rw [given] at found
      cases found
  | some code => exact verdict_of_kept (.second read given) fun lost => nomatch lost.1

theorem verdict (generation : Generation) (body : String) :
    Verdict generation body (judged generation body) := by
  unfold judged membersOf
  cases read : Document.read body with
  | error fault =>
    refine .invalid (fun envelope code carries => ?_) (by rfl)
    cases carries <;> simp_all
  | ok document =>
    cases document with
    | object members =>
      cases generation with
      | first => exact verdict_ofFirst read
      | second => exact verdict_ofSecond read
    | _ =>
      refine .invalid (fun envelope code carries => ?_) (by rfl)
      cases carries <;> simp_all

theorem checked_eq_error_iff {failure : Failure} :
    checked code envelope = .error failure ↔ checked code other = .error failure := by
  unfold checked
  cases code.toText with
  | error fault => simp [Except.mapError, Bind.bind, Except.bind]
  | ok shown =>
    simp only [Except.mapError, Bind.bind, Except.bind]
    cases failureOf? shown <;> simp

theorem ofFirst_code : ofFirst [("lgedmRoot", .object [("returnCd", code)])] =
    checked code [("returnCd", code)] := by
  simp [ofFirst, Fields.orNull, Document.object?, isDisconnected, List.lookup_cons]

theorem ofSecond_code : ofSecond [("resultCode", code)] = checked code [("resultCode", code)] := by
  simp [ofSecond]

theorem ofReply_of_bad {url : String} {status : Int} (bad : status ≠ 200) :
    ofReply generation url (.answered status body) = .error (.call (.badStatus status url)) := by
  simp [ofReply, objectOf, bodyOf, bad, Bind.bind, Except.bind]

theorem ofReply_of_good {url : String} :
    ofReply generation url (.answered 200 body) = judged generation body := rfl

theorem covers_ok_iff {shown : String} :
    ResultCategory.ok.Covers shown ↔ Text.trim shown = "0000" := by
  simp [ResultCategory.Covers, ResultCategory.codes]

theorem covers_deviceNotResponding_iff {shown : String} :
    ResultCategory.deviceNotResponding.Covers shown ↔
      Text.trim shown ∈ ["0111", "0103", "0104", "0106"] := by
  simp [ResultCategory.Covers, ResultCategory.codes]

/-- Which bodies an outcome stands for. -/
structure Classifies (generation : Generation) (body : String)
    (outcome : Except Failure (Fields Document)) : Prop where
  returned : ∀ envelope, outcome = .ok envelope ↔ ∃ code, Carries generation body envelope code ∧
    ¬ IsLost generation envelope ∧ Text.trim code.display = "0000"
  offline : (∃ cause, outcome = .error (.offline cause)) ↔
    ∃ envelope code, Carries generation body envelope code ∧ (IsLost generation envelope ∨
      Text.trim code.display ∈ ["0111", "0103", "0104", "0106"])
  invalid : (∃ fault, outcome = .error (.call fault) ∧ fault.kind = .invalidResponse) ↔
    ∀ envelope code, ¬ Carries generation body envelope code
  refused : ∀ category, (∃ fault, outcome = .error (.call fault) ∧ fault.kind = .resultCode ∧
      fault.category? = some category) ↔
    ∃ envelope code, Carries generation body envelope code ∧ ¬ IsLost generation envelope ∧
      category.Covers code.display ∧ category ≠ .ok ∧ category ≠ .deviceNotResponding

theorem Verdict.classifies {outcome : Except Failure (Fields Document)}
    (verdict : Verdict generation body outcome) : Classifies generation body outcome := by
  constructor
  case returned =>
    intro other
    simp only [← covers_ok_iff]
    cases verdict with
    | invalid nothing _ => simp [nothing]
    | lost carries lost =>
      simp only [carries.iff]
      refine iff_of_false nofun ?_
      rintro ⟨_, ⟨rfl, _⟩, kept, _⟩
      exact kept lost
    | done carries kept covers =>
      simp only [carries.iff, Except.ok.injEq]
      constructor
      · rintro rfl
        exact ⟨_, ⟨rfl, rfl⟩, kept, covers⟩
      · rintro ⟨_, ⟨rfl, _⟩, _⟩
        rfl
    | silent carries _ covers => simp [carries.iff, covers.iff]
    | refused carries _ covers notOk _ => simp [carries.iff, covers.iff, notOk.symm]
  case offline =>
    simp only [← covers_deviceNotResponding_iff]
    cases verdict with
    | invalid nothing _ => simp [nothing]
    | lost carries lost => simp [carries.iff, lost]
    | done carries kept covers => simp [carries.iff, kept, covers.iff]
    | silent carries _ covers => simp [carries.iff, covers.iff]
    | refused carries kept covers _ answers => simp [carries.iff, kept, covers.iff, answers.symm]
  case invalid =>
    cases verdict with
    | invalid nothing kind => simp [nothing, kind]
    | refused carries => simp [carries.iff, CallFault.kind]
    | lost carries | done carries | silent carries => simp [carries.iff]
  case refused =>
    intro category
    cases verdict with
    | invalid nothing kind => simp [nothing, kind]
    | lost carries lost => simp [carries.iff, lost]
    | done carries _ covers => simp +contextual [carries.iff, covers.iff]
    | silent carries _ covers => simp +contextual [carries.iff, covers.iff]
    | refused carries kept covers notOk answers =>
      simp only [carries.iff]
      constructor
      · rintro ⟨_, ⟨⟩, _, ⟨⟩⟩
        exact ⟨_, _, ⟨rfl, rfl⟩, kept, covers.iff.2 rfl, notOk, answers⟩
      · rintro ⟨_, _, ⟨rfl, rfl⟩, _, named, _⟩
        exact ⟨_, rfl, rfl, congrArg some (covers.iff.1 named).symm⟩

end Envelope

inductive Call where
  | post (path : String) (payload : Fields Document)
  | send (method : Method) (path : String) (payload? : Option (Fields Document))

namespace Call

open Activity

variable {σ : Type}

def generation : Call → Generation
  | post _ _ => .first
  | send _ _ _ => .second

def path : Call → String
  | post path _ => path
  | send _ path _ => path

def activity : Call → Cloud σ (Fields Document)
  | post path payload => Cloud.post path payload
  | send method path payload? => Cloud.send method path payload?

structure Served (replies : Replies cloud) (generation : Generation) (root : String) (reply : Reply) :
    Prop where
  token : ∃ token : Token, replies CloudCall.token = .ok token ∧ token.root generation = .text root
  number : ∃ number : MessageNumber, replies CloudCall.number = .ok number
  request : ∀ request, replies (CloudCall.request request) = .ok reply

theorem run_activity {call : Call} {replies : Replies cloud} {root : String} {reply : Reply}
    (served : Served replies call.generation root reply) (state : σ) :
    call.activity.run (m := Id) replies state =
      (Envelope.ofReply call.generation (Request.address root call.path) reply, state) := by
  obtain ⟨⟨token, given, rooted⟩, ⟨number, numbered⟩, answered⟩ := served
  have below (path : String) : Request.addressBelow (token.root call.generation) path =
      .ok (Request.address root path) := by
    rw [rooted]
    rfl
  -- The interface is stated each time, since only it makes the calls of the cloud calls of an activity.
  cases call with
  | post path payload =>
    refine (run_ask_bind (I := cloud) given).trans ?_
    refine (run_lift_bind (I := cloud) (below path)).trans ?_
    exact run_ask_bind (I := cloud) (answered _)
  | send method path payload? =>
    refine (run_ask_bind (I := cloud) given).trans ?_
    refine (run_lift_bind (I := cloud) (below path)).trans ?_
    refine (run_ask_bind (I := cloud) numbered).trans ?_
    exact run_ask_bind (I := cloud) (answered _)

/-- The calls of both generations, by the reply that they get. -/
theorem classified {call : Call} {replies : Replies cloud} {root : String} {status : Int}
    {body : String} (served : Served replies call.generation root (.answered status body)) (state : σ) :
    let outcome := (call.activity.run (m := Id) replies state).1
    (status ≠ 200 → ∃ fault, outcome = .error (.call fault) ∧ fault.kind = .httpStatus ∧
      fault.status? = some status) ∧
    (status = 200 → Envelope.Classifies call.generation body outcome) ∧
    ∀ code failure, Envelope.ofFirst [("lgedmRoot", .object [("returnCd", code)])] = .error failure ↔
      Envelope.ofSecond [("resultCode", code)] = .error failure := by
  intro outcome
  have judged : outcome = Envelope.ofReply call.generation (Request.address root call.path)
      (.answered status body) := congrArg Prod.fst (run_activity served state)
  refine ⟨fun bad => ⟨_, judged.trans (Envelope.ofReply_of_bad bad), rfl, rfl⟩, ?_,
    fun code failure => ?_⟩
  · rintro rfl
    rw [judged, Envelope.ofReply_of_good]
    exact (Envelope.verdict call.generation body).classifies
  · rw [Envelope.ofFirst_code, Envelope.ofSecond_code]
    exact Envelope.checked_eq_error_iff

def sampleToken : Token where
  accessToken := .text "token"
  userNumber := .text "user"
  firstRoot := .text "https://first.example/"
  secondRoot := .text "https://second.example/"
  country := .text "DE"
  language := .text "de-DE"

def silentBody : String := "\x7b\"resultCode\": \" 0106\"\x7d"

def silentReplies : Replies cloud
  | .token => .ok sampleToken
  | .number => .ok ⟨0⟩
  | .request _ => .ok (.answered 200 silentBody)
  | .pause _ => .ok ()

theorem classified_silent :
    Served silentReplies .second "https://second.example/" (.answered 200 silentBody) ∧
    ∃ cause, ((send .get "devices" none).activity.run (m := Id) silentReplies ()).1 =
      .error (.offline cause) := by
  have served : Served silentReplies (send .get "devices" none).generation "https://second.example/"
      (.answered 200 silentBody) := ⟨⟨sampleToken, rfl, rfl⟩, ⟨⟨0⟩, rfl⟩, fun _ => rfl⟩
  have coded : ((Document.read silentBody).toOption.bind (·.member? "resultCode")).map
      (fun code => Text.trim code.display) = some "0106" := by decide +kernel
  cases read : Document.read silentBody with
  | error fault => simp [read, Except.toOption] at coded
  | ok document =>
    simp only [read, Except.toOption, Option.bind_some, Option.map_eq_some_iff] at coded
    obtain ⟨code, given, trimmed⟩ := coded
    cases document with
    | object members =>
      have silent : Text.trim code.display ∈ ["0111", "0103", "0104", "0106"] := by simp [trimmed]
      exact ⟨served, ((classified served ()).2.1 rfl).offline.2
        ⟨members, code, .second read given, .inr silent⟩⟩
    | _ => cases given

end Call

end ApplianceCloud
