import ApplianceCloud.Activity

namespace ApplianceCloud.Activity

variable {I J K : Interface} {σ τ α β γ : Type}

theorem bind_assoc (activity : Activity I σ α) (next : α → Activity I σ β)
    (last : β → Activity I σ γ) :
    (activity.bind next).bind last = activity.bind fun a => (next a).bind last := by
  induction activity with
  | done result => cases result <;> rfl
  | look rest ih => exact congrArg look (funext ih)
  | write state rest ih => exact congrArg (write state) ih
  | call what rest ih => exact congrArg (call what) (funext ih)
  | lock rest ih => exact congrArg lock ih
  | unlock rest ih => exact congrArg unlock ih

theorem through_bind (perform : (what : I.Call) → Activity J σ (I.Answer what))
    (activity : Activity I σ α) (next : α → Activity I σ β) :
    (activity.bind next).through perform =
      (activity.through perform).bind fun a => (next a).through perform := by
  induction activity with
  | done result => cases result <;> rfl
  | look rest ih => exact congrArg look (funext ih)
  | write state rest ih => exact congrArg (write state) ih
  | call what rest ih =>
    refine (congrArg _ (funext ih)).trans (bind_assoc (perform what).attempt _ _).symm
  | lock rest ih => exact congrArg lock ih
  | unlock rest ih => exact congrArg unlock ih

theorem attempt_bind (activity : Activity I σ α) (next : Except Failure α → Activity I σ β) :
    (activity.attempt.bind next).attempt =
      activity.attempt.bind fun result => (next result).attempt := by
  induction activity with
  | done result => rfl
  | look rest ih => exact congrArg look (funext ih)
  | write state rest ih => exact congrArg (write state) ih
  | call what rest ih => exact congrArg (call what) (funext ih)
  | lock rest ih => exact congrArg lock ih
  | unlock rest ih => exact congrArg unlock ih

theorem attempt_bind_done (activity : Activity I σ α) : activity.attempt.bind done = activity := by
  induction activity with
  | done result => rfl
  | look rest ih => exact congrArg look (funext ih)
  | write state rest ih => exact congrArg (write state) ih
  | call what rest ih => exact congrArg (call what) (funext ih)
  | lock rest ih => exact congrArg lock ih
  | unlock rest ih => exact congrArg unlock ih

theorem through_attempt (perform : (what : I.Call) → Activity J σ (I.Answer what))
    (activity : Activity I σ α) :
    activity.attempt.through perform = (activity.through perform).attempt := by
  induction activity with
  | done result => rfl
  | look rest ih => exact congrArg look (funext ih)
  | write state rest ih => exact congrArg (write state) ih
  | call what rest ih =>
    exact (congrArg _ (funext ih)).trans (attempt_bind (perform what) _).symm
  | lock rest ih => exact congrArg lock ih
  | unlock rest ih => exact congrArg unlock ih

theorem through_through (perform : (what : I.Call) → Activity J σ (I.Answer what))
    (other : (what : J.Call) → Activity K σ (J.Answer what)) (activity : Activity I σ α) :
    (activity.through perform).through other =
      activity.through fun what => (perform what).through other := by
  induction activity with
  | done result => rfl
  | look rest ih => exact congrArg look (funext ih)
  | write state rest ih => exact congrArg (write state) ih
  | call what rest ih =>
    refine (through_bind other (perform what).attempt _).trans ?_
    rw [through_attempt]
    exact congrArg _ (funext ih)
  | lock rest ih => exact congrArg lock ih
  | unlock rest ih => exact congrArg unlock ih

theorem onPart_bind (read : τ → σ) (replace : σ → τ → τ) (activity : Activity I σ α)
    (next : α → Activity I σ β) : (activity.bind next).onPart read replace =
      (activity.onPart read replace).bind fun a => (next a).onPart read replace := by
  induction activity with
  | done result => cases result <;> rfl
  | look rest ih => exact congrArg look (funext fun whole => ih _)
  | write part rest ih => exact congrArg look (funext fun whole => congrArg (write _) ih)
  | call what rest ih => exact congrArg (call what) (funext ih)
  | lock rest ih => exact congrArg lock ih
  | unlock rest ih => exact congrArg unlock ih

theorem onPart_attempt (read : τ → σ) (replace : σ → τ → τ) (activity : Activity I σ α) :
    activity.attempt.onPart read replace = (activity.onPart read replace).attempt := by
  induction activity with
  | done result => rfl
  | look rest ih => exact congrArg look (funext fun whole => ih _)
  | write part rest ih => exact congrArg look (funext fun whole => congrArg (write _) ih)
  | call what rest ih => exact congrArg (call what) (funext ih)
  | lock rest ih => exact congrArg lock ih
  | unlock rest ih => exact congrArg unlock ih

theorem alone_bind (activity : Activity I τ α) (next : α → Activity I τ β) (state : τ) :
    ((activity.bind next).alone state : Activity I σ _) = (activity.alone state).bind fun ended =>
      match ended.1 with
      | .ok a => (next a).alone ended.2
      | .error failure => done (.ok (.error failure, ended.2)) := by
  induction activity generalizing state with
  | done result => cases result <;> rfl
  | look rest ih => exact ih state state
  | write after rest ih => exact ih after
  | call what rest ih => exact congrArg (call what) (funext fun answer => ih answer state)
  | lock rest ih => exact ih state
  | unlock rest ih => exact ih state

end ApplianceCloud.Activity
