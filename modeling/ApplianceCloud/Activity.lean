import ApplianceCloud.Failure

/-!
# Activities

An activity is a computation that works on a state and now and then has to wait: for the answer to a
call, or for the lock of its device. It is a tree of its next steps, so where it waits can be seen,
and several activities on one state can be interleaved at those places only. `bind` puts activities
one after the other and stops at the first failure, `attempt` makes a failure a result, `onPart` and
`onMember` let an activity work on a part of a larger state, and `run` carries out an activity that
is alone.
-/

namespace ApplianceCloud

structure Interface where
  Call : Type
  Answer : Call → Type

inductive Activity (I : Interface) (σ α : Type) where
  | done (result : Except Failure α)
  | look (next : σ → Activity I σ α)
  | write (state : σ) (next : Activity I σ α)
  | call (what : I.Call) (next : Except Failure (I.Answer what) → Activity I σ α)
  | lock (next : Activity I σ α)
  | unlock (next : Activity I σ α)

namespace Activity

variable {I J : Interface} {σ τ α β : Type}

def bind (activity : Activity I σ α) (next : α → Activity I σ β) : Activity I σ β :=
  match activity with
  | done (.ok a) => next a
  | done (.error failure) => done (.error failure)
  | look rest => look fun state => (rest state).bind next
  | write state rest => write state (rest.bind next)
  | call what rest => call what fun answer => (rest answer).bind next
  | lock rest => lock (rest.bind next)
  | unlock rest => unlock (rest.bind next)

instance : Monad (Activity I σ) where
  pure a := done (.ok a)
  bind := bind

def attempt : Activity I σ α → Activity I σ (Except Failure α)
  | done result => done (.ok result)
  | look rest => look fun state => (rest state).attempt
  | write state rest => write state rest.attempt
  | call what rest => call what fun answer => (rest answer).attempt
  | lock rest => lock rest.attempt
  | unlock rest => unlock rest.attempt

def ofExcept (result : Except Failure α) : Activity I σ α := done result

instance : MonadLift (Except Failure) (Activity I σ) where
  monadLift := ofExcept

def fail (failure : Failure) : Activity I σ α := done (.error failure)

def orElse (activity : Activity I σ α) (rescue : Failure → Activity I σ α) : Activity I σ α :=
  activity.attempt.bind fun
    | .ok a => done (.ok a)
    | .error failure => rescue failure

def ask (what : I.Call) : Activity I σ (I.Answer what) := call what done

def gets (f : σ → α) : Activity I σ α := look fun state => done (.ok (f state))

def modify (f : σ → σ) : Activity I σ Unit := look fun state => write (f state) (done (.ok ()))

/-- An activity that holds the lock, which it gives back however it ends. -/
def locked (activity : Activity I σ α) : Activity I σ α :=
  lock (activity.attempt.bind fun result => unlock (done result))

def onPart (read : τ → σ) (replace : σ → τ → τ) : Activity I σ α → Activity I τ α
  | done result => done result
  | look rest => look fun whole => (rest (read whole)).onPart read replace
  | write part rest => look fun whole => write (replace part whole) (rest.onPart read replace)
  | call what rest => call what fun answer => (rest answer).onPart read replace
  | lock rest => lock (rest.onPart read replace)
  | unlock rest => unlock (rest.onPart read replace)

def through (perform : (what : I.Call) → Activity J σ (I.Answer what)) :
    Activity I σ α → Activity J σ α
  | done result => done result
  | look rest => look fun state => (rest state).through perform
  | write state rest => write state (rest.through perform)
  | call what rest => (perform what).attempt.bind fun answer => (rest answer).through perform
  | lock rest => lock (rest.through perform)
  | unlock rest => unlock (rest.through perform)

/-- An activity on a state of its own, with the state that it leaves. Nobody else uses that state, so
its lock is free. -/
def alone : Activity I τ α → τ → Activity I σ (Except Failure α × τ)
  | done result, state => done (.ok (result, state))
  | look rest, state => (rest state).alone state
  | write state rest, _ => rest.alone state
  | call what rest, state => call what fun answer => (rest answer).alone state
  | lock rest, state => rest.alone state
  | unlock rest, state => rest.alone state

def onMember (read : σ → Fields τ) (replace : Fields τ → σ → σ) (name : String)
    (activity : Activity I τ α) : Activity I σ α :=
  look fun whole =>
    match (read whole).lookup name with
    | none => fail (.shape (.missingKey name))
    | some state => (activity.alone state).bind fun (result, state) =>
        look fun whole => write (replace ((read whole).put name state) whole) (done result)

def run {m : Type → Type} [Monad m] (answer : (what : I.Call) → m (Except Failure (I.Answer what))) :
    Activity I σ α → σ → m (Except Failure α × σ)
  | done result, state => pure (result, state)
  | look rest, state => (rest state).run answer state
  | write state rest, _ => rest.run answer state
  | call what rest, state => do (rest (← answer what)).run answer state
  | lock rest, state => rest.run answer state
  | unlock rest, state => rest.run answer state

end Activity

end ApplianceCloud
