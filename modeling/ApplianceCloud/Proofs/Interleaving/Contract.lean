import ApplianceCloud.Proofs.Interleaving.Basic

/-!
# Contracts of activities

`Activity.wp` says of an activity that holds the lock what has to be true of the state and of what
happened, so that `pending` is true whenever a call waits for its answer and `post` in the end,
whatever the calls are answered with. The lemmas say it of activities by the way they are put
together.
-/

namespace ApplianceCloud.Activity

variable {I : Interface} {σ α β : Type}
variable {pending : σ → Trace I → Prop} {task : Nat}

/-- Nobody else acts on the state, so every state that is read is the one last written. -/
def wp (pending : σ → Trace I → Prop) (task : Nat) (post : Except Failure α → σ → Trace I → Prop) :
    Activity I σ α → σ → Trace I → Prop
  | done result, state, trace => post result state trace
  | look next, state, trace => wp pending task post (next state) state trace
  | write state next, _, trace => wp pending task post next state trace
  | call what next, state, trace =>
      pending state (trace ++ [(task, .asked what)]) ∧
        ∀ answer, wp pending task post (next answer) state
          (trace ++ [(task, .asked what)] ++ [(task, .answered what answer)])
  | lock _, _, _ | unlock _, _, _ => False

def thenPost (pending : σ → Trace I → Prop) (task : Nat)
    (post : Except Failure β → σ → Trace I → Prop) (next : α → Activity I σ β)
    (result : Except Failure α) (state : σ) (trace : Trace I) : Prop :=
  match result with
  | .ok a => (next a).wp pending task post state trace
  | .error failure => post (.error failure) state trace

@[simp] theorem thenPost_ok {post : Except Failure β → σ → Trace I → Prop}
    {next : α → Activity I σ β} {a : α} :
    thenPost pending task post next (.ok a) = (next a).wp pending task post := rfl

@[simp] theorem thenPost_error {post : Except Failure β → σ → Trace I → Prop}
    {next : α → Activity I σ β} {failure : Failure} :
    thenPost pending task post next (.error failure) = post (.error failure) := rfl

@[simp] theorem wp_bind {post : Except Failure β → σ → Trace I → Prop} (activity : Activity I σ α)
    (next : α → Activity I σ β) {state : σ} {trace : Trace I} :
    (activity >>= next).wp pending task post state trace ↔
      activity.wp pending task (thenPost pending task post next) state trace := by
  change (activity.bind next).wp pending task post state trace ↔ _
  induction activity generalizing state trace with
  | done result => cases result <;> rfl
  | look rest ih => exact ih _
  | write state rest ih => exact ih
  | call what rest ih => exact and_congr Iff.rfl (forall_congr' fun answer => ih answer)
  | lock rest => exact Iff.rfl
  | unlock rest => exact Iff.rfl

@[simp] theorem wp_attempt {post : Except Failure (Except Failure α) → σ → Trace I → Prop}
    (activity : Activity I σ α) {state : σ} {trace : Trace I} :
    activity.attempt.wp pending task post state trace ↔
      activity.wp pending task (fun result => post (.ok result)) state trace := by
  induction activity generalizing state trace with
  | done result => exact Iff.rfl
  | look rest ih => exact ih _
  | write state rest ih => exact ih
  | call what rest ih => exact and_congr Iff.rfl (forall_congr' fun answer => ih answer)
  | lock rest => exact Iff.rfl
  | unlock rest => exact Iff.rfl

section Steps

variable {post : Except Failure α → σ → Trace I → Prop} {state : σ} {trace : Trace I}

@[simp] theorem wp_pure {a : α} :
    (pure a : Activity I σ α).wp pending task post state trace ↔ post (.ok a) state trace := Iff.rfl

@[simp] theorem wp_fail {failure : Failure} :
    (fail failure : Activity I σ α).wp pending task post state trace ↔
      post (.error failure) state trace := Iff.rfl

@[simp] theorem wp_lift {result : Except Failure α} :
    (liftM result : Activity I σ α).wp pending task post state trace ↔ post result state trace :=
  Iff.rfl

@[simp] theorem wp_gets {f : σ → α} :
    (gets f : Activity I σ α).wp pending task post state trace ↔ post (.ok (f state)) state trace :=
  Iff.rfl

@[simp] theorem wp_modify {post : Except Failure Unit → σ → Trace I → Prop} {f : σ → σ} :
    (modify f : Activity I σ Unit).wp pending task post state trace ↔
      post (.ok ()) (f state) trace := Iff.rfl

@[simp] theorem wp_ask {what : I.Call} {post : Except Failure (I.Answer what) → σ → Trace I → Prop} :
    (ask what : Activity I σ (I.Answer what)).wp pending task post state trace ↔
      pending state (trace ++ [(task, .asked what)]) ∧ ∀ answer, post answer state
        (trace ++ [(task, .asked what)] ++ [(task, .answered what answer)]) := Iff.rfl

end Steps

end ApplianceCloud.Activity
