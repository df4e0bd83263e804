import ApplianceCloud.Enrolment.Basic
import ApplianceCloud.Proofs.Cloud.Listing
import ApplianceCloud.Proofs.Document.Exact

namespace ApplianceCloud

open Activity Cloud

theorem Fields.lookup_of_forall₂ {α β : Type} {R : String → α → β → Prop} {fields : Fields α}
    {fields' : Fields β} {key : String} {a : α}
    (related : List.Forall₂ (fun field field' => field'.1 = field.1 ∧ R field.1 field.2 field'.2)
      fields fields')
    (found : fields.lookup key = some a) : ∃ b, fields'.lookup key = some b ∧ R key a b := by
  induction related with
  | nil => cases found
  | @cons field field' _ _ here _ ih =>
    obtain ⟨name, value⟩ := field
    obtain ⟨name', value'⟩ := field'
    obtain ⟨rfl, here⟩ := here
    rw [List.lookup_cons] at found ⊢
    cases same : key == name' with
    | true =>
      rw [same] at found
      cases found
      rw [eq_of_beq same]
      exact ⟨value', rfl, here⟩
    | false =>
      rw [same] at found
      exact ih found

namespace Form

def accountTexts : List String := (account.filter (·.kind = .text)).map (·.name)

def IsComplete (data : Fields Document) : Prop :=
  ∀ name ∈ accountTexts, ∃ text, data.lookup name = some (.text text)

theorem accepted_of_submission {read : Fields (Option Document)} {missing : List String}
    {data : Fields Document} (accepted : submission read missing = .accepted data) :
    missing = [] ∧ (∀ member ∈ read, member.2 ≠ none) ∧
      data = read.filterMap fun member => member.2.map fun value => (member.1, value) := by
  unfold submission at accepted
  split at accepted
  · next none =>
    cases accepted
    obtain ⟨given, rfl⟩ := List.append_eq_nil_iff.1 none
    refine ⟨rfl, fun member listed refused => ?_, rfl⟩
    have kept : member ∈ read.filter (·.2.isNone) :=
      List.mem_filter.2 ⟨listed, by rw [refused, Option.isNone_none]⟩
    rw [List.map_eq_nil_iff.1 given] at kept
    cases kept
  · cases accepted

theorem accept?_account : ∀ field ∈ account, field.kind = .text → field.isRequired = true ∧
    ∀ value, account.accept? (field.name, value) = FieldKind.text.accept? value := by
  intro field listed isText
  simp only [account, List.mem_cons, List.not_mem_nil, or_false] at listed
  rcases listed with rfl | rfl | rfl | rfl | rfl | rfl | rfl
  case inr.inr.inr.inr.inr.inr => cases isText
  all_goals
    exact ⟨rfl, fun _ => rfl⟩

theorem accept?_text_eq_some {value taken : Document}
    (accepted : FieldKind.text.accept? value = .ok (some taken)) : ∃ text, taken = .text text := by
  cases value with
  | text text =>
    cases accepted
    exact ⟨text, rfl⟩
  | _ => cases accepted

theorem isComplete_of_submit {input data : Fields Document}
    (accepted : account.submit input = .ok (.accepted data)) : IsComplete data := by
  obtain ⟨read, each, accepted⟩ := bind_eq_ok_iff.1 accepted
  obtain ⟨none, given, rfl⟩ := accepted_of_submission (pure_eq_ok_iff.1 accepted)
  intro name listed
  obtain ⟨field, kept, rfl⟩ := List.mem_map.1 listed
  obtain ⟨asked, isText⟩ := List.mem_filter.1 kept
  obtain ⟨required, accepts⟩ := accept?_account field asked (of_decide_eq_true isText)
  have present : (account.complete input).has field.name = true := by
    by_contra absent
    rw [missing, List.map_eq_nil_iff, List.filter_eq_nil_iff] at none
    exact none field asked (by simp [required, absent])
  obtain ⟨value, handed⟩ := Option.isSome_iff_exists.1 present
  obtain ⟨taken?, found, taken⟩ : ∃ taken?, read.lookup field.name = some taken? ∧
      account.accept? (field.name, value) = .ok taken? := by
    refine Fields.lookup_of_forall₂
      (R := fun name value taken? => account.accept? (name, value) = .ok taken?)
      ((mapM_eq_ok_iff.1 each).imp fun member taken made => ?_) handed
    obtain ⟨taken?, accepted, same⟩ := bind_eq_ok_iff.1 made
    cases same
    exact ⟨rfl, accepted⟩
  cases taken? with
  | none => exact absurd rfl (given _ (Fields.mem_of_lookup found))
  | some document =>
    rw [accepts] at taken
    obtain ⟨text, rfl⟩ := accept?_text_eq_some taken
    exact ⟨text, Fields.lookup_filterMap (f := fun taken? => taken?) found rfl⟩

theorem IsComplete.ofMembers {data : Fields Document} (complete : IsComplete data) :
    ∃ token root, Token.ofMembers data = .ok token ∧ token.secondRoot = .text root := by
  have given (name : String) (asked : name ∈ accountTexts) :
      ∃ text, Token.required data name = .ok (.text text) := by
    obtain ⟨text, found⟩ := complete name asked
    exact ⟨text, by rw [Token.required, found]⟩
  obtain ⟨access, hasAccess⟩ := given "access_token" (by decide)
  obtain ⟨user, hasUser⟩ := given "user_number" (by decide)
  obtain ⟨first, hasFirst⟩ := given "api_root_v1" (by decide)
  obtain ⟨second, hasSecond⟩ := given "api_root_v2" (by decide)
  obtain ⟨country, hasCountry⟩ := given "country" (by decide)
  obtain ⟨language, hasLanguage⟩ := given "language" (by decide)
  refine ⟨⟨.text access, .text user, .text first, .text second, .text country, .text language⟩,
    second, ?_, rfl⟩
  rw [Token.ofMembers, hasAccess, hasUser, hasFirst, hasSecond, hasCountry, hasLanguage]
  rfl

end Form

namespace AccountProblem

theorem ofFailure_eq_unknown_iff {failure : Failure} :
    ofFailure failure = .unknown ↔ failure.isOwn = false := by
  cases failure with
  | call fault =>
    simp only [ofFailure, ofFault, Failure.isOwn]
    split_ifs <;> simp
  | _ => simp [ofFailure, Failure.isOwn]

theorem ofFailure_refused {code : String} {category : ResultCategory} :
    ofFailure (.call (.refused code category)) =
      if category = .loginFailed then invalidAuth else invalidResponse := by
  simp [ofFailure, ofFault, CallFault.kind, CallFault.category?]

end AccountProblem

theorem Envelope.judged_of_nothing {body : String}
    (nothing : ∀ envelope code, ¬ Carries .second body envelope code) :
    ∃ fault, judged .second body = .error (.call fault) ∧
      AccountProblem.ofFailure (.call fault) = .invalidResponse := by
  unfold judged membersOf
  cases read : Document.read body with
  | error fault => exact ⟨_, rfl, rfl⟩
  | ok document =>
    cases document with
    | object members =>
      cases given : members.lookup "resultCode" with
      | none =>
        have refused : ofSecond members = .error (.call .noSecondEnvelope) := by rw [ofSecond, given]
        exact ⟨_, refused, rfl⟩
      | some code => exact absurd (.second read given) (nothing members code)
    | _ => exact ⟨_, rfl, rfl⟩

namespace Enrolment

open Envelope

def Warrants (answer : Except Failure Reply) : AccountProblem → Prop
  | .cannotConnect => ∃ cause, answer = .ok (.lost cause)
  | .invalidAuth => ∃ body envelope code, answer = .ok (.answered 200 body) ∧
      Carries .second body envelope code ∧ ResultCategory.loginFailed.Covers code.display
  | .unknown => (∃ failure, answer = .error failure) ∨
      ∃ body envelope code, answer = .ok (.answered 200 body) ∧ Carries .second body envelope code ∧
        ResultCategory.ok.Covers code.display ∧ HasInfiniteType envelope
  | .invalidResponse => ∃ status body, answer = .ok (.answered status body) ∧
      (status = 200 → ∀ envelope code, Carries .second body envelope code →
        ∃ category : ResultCategory, category.Covers code.display ∧ category ≠ .ok ∧
          category ≠ .loginFailed)

section

variable {problem : AccountProblem} {status : Int} {body : String} {envelope : Fields Document}
  {code : Document}

theorem warrants_error {failure : Failure} :
    Warrants (.error failure) problem ↔ problem = .unknown := by
  cases problem <;> simp [Warrants]

theorem warrants_lost {cause : String} :
    Warrants (.ok (.lost cause)) problem ↔ problem = .cannotConnect := by
  cases problem <;> simp [Warrants]

theorem warrants_bad (bad : status ≠ 200) :
    Warrants (.ok (.answered status body)) problem ↔ problem = .invalidResponse := by
  cases problem <;> simp [Warrants, bad]

theorem warrants_nothing (nothing : ∀ envelope code, ¬ Carries .second body envelope code) :
    Warrants (.ok (.answered 200 body)) problem ↔ problem = .invalidResponse := by
  cases problem <;> simp [Warrants, nothing]

theorem warrants_done (carries : Carries .second body envelope code)
    (covers : ResultCategory.ok.Covers code.display) :
    Warrants (.ok (.answered 200 body)) problem ↔ HasInfiniteType envelope ∧ problem = .unknown := by
  cases problem <;> simp [Warrants, carries.iff, covers.iff]

theorem warrants_refused {category : ResultCategory} (carries : Carries .second body envelope code)
    (covers : category.Covers code.display) (notOk : category ≠ .ok) :
    Warrants (.ok (.answered 200 body)) problem ↔
      problem = if category = .loginFailed then .invalidAuth else .invalidResponse := by
  by_cases isLogin : category = .loginFailed
  · cases problem <;> simp [Warrants, carries.iff, covers.iff, isLogin]
  · have others := Ne.symm isLogin
    cases problem <;> simp [Warrants, carries.iff, covers.iff, notOk, notOk.symm, isLogin, others]

end

theorem exists_problem_iff {failure : Failure} {known problem : AccountProblem}
    (shown : AccountProblem.ofFailure failure = known) :
    (∃ other, (.error failure : Except Failure (List ListedDevice)) = .error other ∧
      AccountProblem.ofFailure other = problem) ↔ problem = known := by
  simp [shown, eq_comm]

theorem problem_of_good {body : String} {problem : AccountProblem} :
    (∃ failure, judged .second body >>= devicesOf = .error failure ∧
      AccountProblem.ofFailure failure = problem) ↔ Warrants (.ok (.answered 200 body)) problem := by
  have verdict := verdict .second body
  -- A verdict on a body without an envelope leaves the fault open, and a fault of any kind may have the
  -- category of a refused login.
  have unread := @judged_of_nothing body
  generalize judged .second body = outcome at verdict unread ⊢
  cases verdict with
  | invalid nothing _ =>
    obtain ⟨fault, same, unread⟩ := unread nothing
    cases same
    exact (exists_problem_iff unread).trans (warrants_nothing nothing).symm
  | lost _ lost => exact nomatch lost.1
  | @done envelope code carries _ covers =>
    rw [warrants_done carries covers, ← exists_devicesOf_eq_error_iff, ok_bind]
    constructor
    · rintro ⟨failure, failed, rfl⟩
      exact ⟨⟨failure, failed⟩, AccountProblem.ofFailure_eq_unknown_iff.2 (isOwn_of_devicesOf failed)⟩
    · rintro ⟨⟨failure, failed⟩, rfl⟩
      exact ⟨failure, failed, AccountProblem.ofFailure_eq_unknown_iff.2 (isOwn_of_devicesOf failed)⟩
  | silent carries _ covers =>
    exact (exists_problem_iff rfl).trans (warrants_refused carries covers (by decide)).symm
  | refused carries _ covers notOk _ =>
    exact (exists_problem_iff AccountProblem.ofFailure_refused).trans
      (warrants_refused carries covers notOk).symm

theorem problem_iff {url : String} {answer : Except Failure Reply} {problem : AccountProblem}
    (foreign : ∀ failure, answer = .error failure → failure.isOwn = false) :
    (∃ failure, listed url answer = .error failure ∧ AccountProblem.ofFailure failure = problem) ↔
      Warrants answer problem := by
  cases answer with
  | error failure =>
    have shown := AccountProblem.ofFailure_eq_unknown_iff.2 (foreign failure rfl)
    exact (exists_problem_iff shown).trans warrants_error.symm
  | ok reply =>
    cases reply with
    | lost cause => exact (exists_problem_iff rfl).trans warrants_lost.symm
    | answered status body =>
      by_cases good : status = 200
      · subst good
        exact problem_of_good
      · rw [listed, ok_bind, ofReply_of_bad good]
        exact (exists_problem_iff rfl).trans (warrants_bad good).symm

/-- How the enrolment of an account ends, by the answer to the request for its devices and by the
listing that is made of it. -/
structure Enrols (user : String) (data : Fields Document) (answer : Except Failure Reply)
    (listing : Except Failure (List ListedDevice)) (result : Except Failure EnrolmentStep) : Prop where
  created : result = .ok (.created (title (.text user)) data) ↔ ∃ devices, listing = .ok devices
  shown : (∀ devices, listing ≠ .ok devices) → ∃ problem, result = .ok (.form (some problem))
  warranted : ∀ problem, result = .ok (.form (some problem)) ↔ Warrants answer problem
  unknown : result = .ok (.form (some .unknown)) ↔
    ∃ failure, listing = .error failure ∧ failure.isOwn = false

def stepAfter {α : Type} (user : Document) (data : Fields Document) : Except Failure α → EnrolmentStep
  | .ok _ => .created (title user) data
  | .error failure => .form (some (.ofFailure failure))

theorem stepAfter_map {α β : Type} {user : Document} {data : Fields Document} {f : α → β}
    (outcome : Except Failure α) : stepAfter user data (outcome.map f) = stepAfter user data outcome := by
  cases outcome <;> rfl

theorem enrols_stepAfter {user : String} {data : Fields Document} {url : String}
    {answer : Except Failure Reply}
    (foreign : ∀ failure, answer = .error failure → failure.isOwn = false) :
    Enrols user data answer (listed url answer)
      (.ok (stepAfter (.text user) data (listed url answer))) := by
  have problems (problem : AccountProblem) : (∃ failure, listed url answer = .error failure ∧
      AccountProblem.ofFailure failure = problem) ↔ Warrants answer problem := problem_iff foreign
  generalize listed url answer = listing at problems
  cases listing with
  | ok devices =>
    constructor
    case created => simp [stepAfter]
    case shown => exact fun none => absurd rfl (none devices)
    case warranted => simp [stepAfter, ← problems]
    case unknown => simp [stepAfter]
  | error failure =>
    constructor
    case created => simp [stepAfter]
    case shown => exact fun _ => ⟨_, rfl⟩
    case warranted => simp [stepAfter, ← problems]
    case unknown => simp [stepAfter, AccountProblem.ofFailure_eq_unknown_iff]

theorem among_check (replies : Replies cloud) (enrolment : Enrolment) (user : Document)
    {data : Fields Document} {token : Token} (handed : Token.ofMembers data = .ok token) :
    let ending := (check user data).among (.fixed replies) enrolment ()
    let listing := (listDevices (σ := Enrolment)).among (.fixed (ownToken token replies)) enrolment ()
    requestsOf ending.calls = requestsOf listing.calls ∧
      ending.result = .ok (stepAfter user data listing.result) := by
  intro ending listing
  let checked := (withToken token (validate (σ := Enrolment))).among (.fixed replies) enrolment ()
  obtain ⟨result, requests⟩ : checked.result = (listing.result.map fun _ => true) ∧
      requestsOf checked.calls = requestsOf listing.calls := by
    obtain ⟨result, requests⟩ := among_withToken token replies (validate (σ := Enrolment)) enrolment
    exact ⟨result.trans (by rw [validate, among_map]), requests.trans (by rw [validate, among_map])⟩
  have ended : ending = { checked with result := .ok (stepAfter user data checked.result) } := by
    refine (among_lift_bind_of_ok handed).trans ((among_attempt_bind _ _ _).trans ?_)
    change Ending.behind checked.calls _ = _
    cases outcome : checked.result with
    | ok listed => simp [checked, stepAfter, Ending.behind]
    | error failure => simp [checked, stepAfter, Ending.behind]
  rw [← stepAfter_map listing.result, ← result, ← requests, ended]
  exact ⟨rfl, rfl⟩

/-- An account that is complete and new makes one request for its devices, and is enrolled as that is
answered. -/
theorem submit_enrols {replies : Replies cloud} {enrolment : Enrolment} {data : Fields Document}
    {user : String} {number : MessageNumber} (complete : Form.IsComplete data)
    (named : data.lookup "user_number" = some (.text user)) (new : user ∉ enrolment.configured)
    (numbered : replies CloudCall.number = .ok number)
    (foreign : ∀ request failure, replies (CloudCall.request request) = .error failure →
      failure.isOwn = false) :
    ∃ token root, Token.ofMembers data = .ok token ∧ token.secondRoot = .text root ∧
      let request := listing.request token number root
      let ending := (submit (.object data)).among (.fixed replies) enrolment ()
      requestsOf ending.calls = [request] ∧
        Enrols user data (replies (CloudCall.request request))
          (listDevices.among (.fixed (ownToken token replies)) enrolment ()).result ending.result := by
  obtain ⟨token, root, handed, rooted⟩ := complete.ofMembers
  refine ⟨token, root, handed, rooted, ?_⟩
  intro request ending
  have given : Token.required data "user_number" = .ok (.text user) := by rw [Token.required, named]
  have unknown : isConfigured { enrolment with user := .text user } = false := by
    simpa [isConfigured] using new
  have ended : ending =
      (check (.text user) data).among (.fixed replies) { enrolment with user := .text user } () := by
    refine (among_lift_bind_of_ok (show membersOf (.object data) = .ok data from rfl)).trans ?_
    refine (among_lift_bind_of_ok given).trans ?_
    rw [among_modify_bind, among_gets_bind, unknown]
    rfl
  have own : ownToken token replies CloudCall.token = .ok token := rfl
  -- The listing is the same in every state: the form only notes who hands it in.
  have listed (state : Enrolment) := among_listDevices state own rooted numbered
  obtain ⟨asked, result⟩ :=
    among_check replies { enrolment with user := .text user } (.text user) handed
  rw [ended, asked, result, (listed _).2, (listed _).2]
  exact ⟨(listed _).1, enrols_stepAfter (foreign request)⟩

def sampleInput : Fields Document :=
  [("country", .text "DE"), ("language", .text "de-DE"), ("access_token", .text "token"),
    ("user_number", .text "user"), ("api_root_v1", .text "https://first.example/"),
    ("api_root_v2", .text "https://second.example/")]

def sampleData : Fields Document := sampleInput ++ [(Interval.key, .int Interval.shortest)]

def codeReply (code : String) : Reply :=
  .answered 200 (Document.object [("resultCode", .text code)]).write

def sampleReplies (answer : Except Failure Reply) : Replies cloud
  | .token => .ok Call.sampleToken
  | .number => .ok ⟨0⟩
  | .request _ => answer
  | .pause _ => .ok ()

theorem carries_codeReply (code : String) :
    Carries .second (Document.object [("resultCode", .text code)]).write
      [("resultCode", .text code)] (.text code) :=
  .second (Document.IsExact.object (by simp [Fields.keys])
    (List.forall_mem_singleton.2 (.text code))).read_write rfl

theorem submit_enrols_sample :
    let ended (answer : Except Failure Reply) : Except Failure EnrolmentStep :=
      ((submit (.object sampleData)).among (.fixed (sampleReplies answer)) { configured := ["other"] }
        ()).result
    Form.account.submit sampleInput = .ok (.accepted sampleData) ∧
    ended (.ok (codeReply "0000")) = .ok (.created "LG ThinQ (user)" sampleData) ∧
    ended (.ok (.lost "timeout")) = .ok (.form (some .cannotConnect)) ∧
    ended (.ok (codeReply " 0102 ")) = .ok (.form (some .invalidAuth)) ∧
    ended (.ok (codeReply "0106")) = .ok (.form (some .invalidResponse)) ∧
    ended (.error (.foreign "OSError" "")) = .ok (.form (some .unknown)) := by
  intro ended
  have accepted : Form.account.submit sampleInput = .ok (.accepted sampleData) := by rfl
  have enrols (answer : Except Failure Reply)
      (foreign : ∀ failure, answer = .error failure → failure.isOwn = false) :
      ∃ listing, Enrols "user" sampleData answer listing (ended answer) := by
    obtain ⟨_, _, -, -, -, enrols⟩ := @submit_enrols (sampleReplies answer)
      { configured := ["other"] } sampleData "user" ⟨0⟩ (Form.isComplete_of_submit accepted) rfl
      (by decide) rfl fun _ => foreign
    exact ⟨_, enrols⟩
  have coded (code : String) (category : ResultCategory) (covers : category.Covers code)
      (notOk : category ≠ .ok) : ended (.ok (codeReply code)) =
        .ok (.form (some (if category = .loginFailed then .invalidAuth else .invalidResponse))) := by
    obtain ⟨_, enrols⟩ := enrols (.ok (codeReply code)) nofun
    exact (enrols.warranted _).2 ((warrants_refused (carries_codeReply code) covers notOk).2 rfl)
  refine ⟨accepted, ?_, ?_, ?_, ?_, ?_⟩
  · obtain ⟨listing, enrols⟩ := enrols (.ok (codeReply "0000")) nofun
    refine enrols.created.2 (by_contra fun none => ?_)
    obtain ⟨problem, shown⟩ := enrols.shown (not_exists.1 none)
    have good : ResultCategory.ok.Covers (Document.text "0000").display := .inl (by decide +kernel)
    obtain ⟨⟨_, _, _, found, _⟩, -⟩ :=
      (warrants_done (carries_codeReply "0000") good).1 ((enrols.warranted _).1 shown)
    cases found
  · obtain ⟨_, enrols⟩ := enrols (.ok (.lost "timeout")) nofun
    exact (enrols.warranted _).2 (warrants_lost.2 rfl)
  · exact coded " 0102 " .loginFailed (.inl (by decide +kernel)) (by decide)
  · exact coded "0106" .deviceNotResponding (.inl (by decide +kernel)) (by decide)
  · obtain ⟨_, enrols⟩ := enrols (.error (.foreign "OSError" "")) (by rintro _ ⟨⟩; rfl)
    exact (enrols.warranted _).2 (warrants_error.2 rfl)

end Enrolment

end ApplianceCloud
