import ApplianceCloud.Proofs.Cloud.Classification
import ApplianceCloud.Proofs.Interleaving.Surroundings

namespace ApplianceCloud

def Surroundings.fixed {I : Interface} {σ : Type} (replies : Replies I) : Surroundings I σ Unit where
  reply what state _ := (replies what, state, ())
  grant state _ := (state, ())

namespace Activity

variable {I : Interface} {σ α β : Type} {replies : Replies I} {state : σ}

theorem among_ask_bind_of_ok {what : I.Call} {answer : I.Answer what}
    {next : I.Answer what → Activity I σ β} (answered : replies what = .ok answer) :
    (ask what >>= next).among (.fixed replies) state () =
      ((next answer).among (.fixed replies) state ()).behind [what] := by
  change (((done (replies what)).bind next).among (.fixed replies) state ()).behind [what] = _
  rw [answered]
  rfl

theorem among_ask_bind_of_error {what : I.Call} {failure : Failure}
    {next : I.Answer what → Activity I σ β} (answered : replies what = .error failure) :
    (ask what >>= next).among (.fixed replies) state () =
      { result := .error failure, state, world := (), calls := [what] } := by
  change (((done (replies what)).bind next).among (.fixed replies) state ()).behind [what] = _
  rw [answered]
  rfl

theorem among_lift_bind_of_ok {result : Except Failure α} {a : α} {next : α → Activity I σ β}
    (made : result = .ok a) : (liftM result >>= next).among (.fixed replies) state () =
      (next a).among (.fixed replies) state () := by
  rw [made]
  rfl

theorem among_lift_bind_of_error {result : Except Failure α} {failure : Failure}
    {next : α → Activity I σ β} (failed : result = .error failure) :
    (liftM result >>= next).among (.fixed replies) state () =
      { result := .error failure, state, world := () } := by
  rw [failed]
  rfl

end Activity

open Activity

variable {σ : Type}

def requestsOf (calls : List CloudCall) : List Request :=
  calls.filterMap fun
    | .request request => some request
    | _ => none

theorem requestsOf_append (calls others : List CloudCall) :
    requestsOf (calls ++ others) = requestsOf calls ++ requestsOf others := List.filterMap_append

namespace Call

def request (token : Token) (number : MessageNumber) (root : String) : Call → Request
  | post path payload => {
      method := .post
      url := Request.address root path
      headers := Request.firstHeaders token
      payload? := some [("lgedmRoot", .object payload)] }
  | send method path payload? => {
      method
      url := Request.address root path
      headers := Request.secondHeaders token number
      payload? }

theorem url_request (call : Call) (token : Token) (number : MessageNumber) (root : String) :
    (call.request token number root).url = Request.address root call.path := by
  cases call <;> rfl

variable {replies : Replies cloud} {call : Call} {state : σ}

theorem among_untokened {failure : Failure} (failed : replies CloudCall.token = .error failure) :
    call.activity.among (.fixed replies) state () =
      { result := .error failure, state, world := (), calls := [CloudCall.token] } := by
  cases call with
  | post path payload => exact among_ask_bind_of_error (I := cloud) failed
  | send method path payload? => exact among_ask_bind_of_error (I := cloud) failed

theorem among_rootless {token : Token} {failure : Failure}
    (given : replies CloudCall.token = .ok token)
    (rootless : Request.addressBelow (token.root call.generation) call.path = .error failure) :
    call.activity.among (.fixed replies) state () =
      { result := .error failure, state, world := (), calls := [CloudCall.token] } := by
  cases call with
  | post path payload =>
    refine (among_ask_bind_of_ok (I := cloud) given).trans ?_
    exact congrArg (Ending.behind (I := cloud) [.token]) (among_lift_bind_of_error rootless)
  | send method path payload? =>
    refine (among_ask_bind_of_ok (I := cloud) given).trans ?_
    exact congrArg (Ending.behind (I := cloud) [.token]) (among_lift_bind_of_error rootless)

def before : Call → List CloudCall
  | post _ _ => [.token]
  | send _ _ _ => [.token, .number]

theorem requestsOf_before (call : Call) : requestsOf call.before = [] := by
  cases call <;> rfl

section

variable {token : Token} {number : MessageNumber} {root : String}
  (given : replies CloudCall.token = .ok token) (rooted : token.root call.generation = .text root)
  (numbered : replies CloudCall.number = .ok number)

include given rooted numbered

theorem among_request : call.activity.among (.fixed replies) state () =
    ((Cloud.request (call.request token number root) >>= fun reply =>
      liftM (Envelope.ofReply call.generation (Request.address root call.path) reply)).among
        (.fixed replies) state ()).behind (I := cloud) call.before := by
  have below (path : String) : Request.addressBelow (token.root call.generation) path =
      .ok (Request.address root path) := by
    rw [rooted]
    rfl
  cases call with
  | post path payload =>
    refine (among_ask_bind_of_ok (I := cloud) given).trans ?_
    exact congrArg (Ending.behind (I := cloud) [.token]) (among_lift_bind_of_ok (below path))
  | send method path payload? =>
    refine (among_ask_bind_of_ok (I := cloud) given).trans ?_
    refine (congrArg (Ending.behind (I := cloud) [.token])
      ((among_lift_bind_of_ok (below path)).trans (among_ask_bind_of_ok numbered))).trans ?_
    exact Ending.behind_behind _ _

/-- A call with a token that has a root makes one request, and ends as the request does. -/
theorem among_answered :
    let request := call.request token number root
    let ending := call.activity.among (.fixed replies) state ()
    requestsOf ending.calls = [request] ∧
      (∀ failure, replies (CloudCall.request request) = .error failure →
        ending.result = .error failure) ∧
      ∀ reply : Reply, replies (CloudCall.request request) = .ok reply →
        ending.result = Envelope.ofReply call.generation (Request.address root call.path) reply := by
  intro request ending
  have ended : ending = _ := among_request given rooted numbered
  have asked : requestsOf (call.before ++ [.request request]) = [request] := by
    rw [requestsOf_append, requestsOf_before]
    rfl
  cases answered : replies (CloudCall.request request) with
  | error failure =>
    have last := ended.trans (congrArg (Ending.behind (I := cloud) call.before)
      (among_ask_bind_of_error (I := cloud) answered))
    rw [last]
    refine ⟨asked, ?_, nofun⟩
    rintro _ ⟨⟩
    rfl
  | ok reply =>
    have last := ended.trans (congrArg (Ending.behind (I := cloud) call.before)
      (among_ask_bind_of_ok (I := cloud) answered))
    rw [last]
    refine ⟨asked, nofun, ?_⟩
    rintro _ ⟨⟩
    rfl

end

end Call

end ApplianceCloud
