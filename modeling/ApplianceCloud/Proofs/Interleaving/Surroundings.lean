import ApplianceCloud.Proofs.Interleaving.Section

/-!
# An activity among others

Whenever an activity waits, for an answer or for the lock, others may change the state. Its
`Surroundings` say all of this: what each call is answered with, and what the state and the outside
world are by the time when the activity goes on. `among` carries an activity out in its surroundings,
and `among_alone` says that this is how it runs when there are no others.
-/

namespace ApplianceCloud

structure Surroundings (I : Interface) (σ ω : Type) where
  reply : (what : I.Call) → σ → ω → Except Failure (I.Answer what) × σ × ω
  grant : σ → ω → σ × ω

structure Ending (I : Interface) (σ ω α : Type) where
  result : Except Failure α
  state : σ
  world : ω
  calls : List I.Call := []

variable {I : Interface} {σ ω α β : Type}

def Ending.behind (calls : List I.Call) (ending : Ending I σ ω α) : Ending I σ ω α :=
  { ending with calls := calls ++ ending.calls }

namespace Activity

def among (others : Surroundings I σ ω) : Activity I σ α → σ → ω → Ending I σ ω α
  | done result, state, world => { result, state, world }
  | look next, state, world => (next state).among others state world
  | write after next, _, world => next.among others after world
  | call what next, state, world =>
      let (answer, after, later) := others.reply what state world
      ((next answer).among others after later).behind [what]
  | lock next, state, world =>
      let (after, later) := others.grant state world
      next.among others after later
  | unlock next, state, world => next.among others state world

end Activity

def Ending.then (others : Surroundings I σ ω) (next : α → Activity I σ β)
    (ending : Ending I σ ω α) : Ending I σ ω β :=
  match ending.result with
  | .ok a => ((next a).among others ending.state ending.world).behind ending.calls
  | .error failure => { ending with result := .error failure }

namespace Ending

variable {others : Surroundings I σ ω} {next : α → Activity I σ β} {ending : Ending I σ ω α}

@[simp] theorem behind_nil : ending.behind [] = ending := rfl

theorem behind_behind (earlier calls : List I.Call) :
    (ending.behind calls).behind earlier = ending.behind (earlier ++ calls) := by
  simp [behind]

@[simp] theorem result_behind (calls : List I.Call) :
    (ending.behind calls).result = ending.result := rfl

@[simp] theorem state_behind (calls : List I.Call) :
    (ending.behind calls).state = ending.state := rfl

@[simp] theorem world_behind (calls : List I.Call) :
    (ending.behind calls).world = ending.world := rfl

@[simp] theorem calls_behind (calls : List I.Call) :
    (ending.behind calls).calls = calls ++ ending.calls := rfl

theorem then_behind (calls : List I.Call) :
    (ending.behind calls).then others next = (ending.then others next).behind calls := by
  cases result : ending.result <;> simp [Ending.then, result, behind]

theorem then_of_ok {a : α} (result : ending.result = .ok a) : ending.then others next =
    ((next a).among others ending.state ending.world).behind ending.calls := by
  simp [Ending.then, result]

theorem then_of_error {failure : Failure} (result : ending.result = .error failure) :
    ending.then others next = { ending with result := .error failure } := by
  simp [Ending.then, result]

end Ending

namespace Activity

variable (others : Surroundings I σ ω) {state : σ} {world : ω}

theorem among_bind (activity : Activity I σ α) (next : α → Activity I σ β) :
    (activity >>= next).among others state world =
      (activity.among others state world).then others next := by
  change (activity.bind next).among others state world = _
  induction activity generalizing state world with
  | done result => cases result <;> rfl
  | look rest ih => exact ih state
  | write after rest ih => exact ih
  | call what rest ih => exact (congrArg (Ending.behind [what]) (ih _)).trans (Ending.then_behind _).symm
  | lock rest ih => exact ih
  | unlock rest ih => exact ih

theorem among_attempt (activity : Activity I σ α) :
    activity.attempt.among others state world =
      { activity.among others state world with
        result := .ok (activity.among others state world).result } := by
  induction activity generalizing state world with
  | done result => rfl
  | look rest ih => exact ih state
  | write after rest ih => exact ih
  | call what rest ih => exact congrArg (Ending.behind [what]) (ih _)
  | lock rest ih => exact ih
  | unlock rest ih => exact ih

theorem among_attempt_bind (activity : Activity I σ α)
    (next : Except Failure α → Activity I σ β) :
    (activity.attempt >>= next).among others state world =
      let ending := activity.among others state world
      ((next ending.result).among others ending.state ending.world).behind ending.calls := by
  rw [among_bind, among_attempt, Ending.then_of_ok rfl]

theorem among_map (activity : Activity I σ α) (f : α → β) :
    (do return f (← activity) : Activity I σ β).among others state world =
      { activity.among others state world with
        result := (activity.among others state world).result.map f } := by
  rw [among_bind]
  cases result : (activity.among others state world).result with
  | ok a => simp [Ending.then_of_ok result, among, pure, Ending.behind, Except.map]
  | error failure => rw [Ending.then_of_error result, Except.map]

/-- An activity that waits for the lock first goes on from what the others leave. -/
theorem among_locked (activity : Activity I σ α) :
    activity.locked.among others state world =
      activity.among others (others.grant state world).1 (others.grant state world).2 := by
  change (activity.attempt >>= fun result => unlock (done result)).among others _ _ = _
  rw [among_attempt_bind]
  simp [among, Ending.behind]

section Steps

@[simp] theorem among_pure {a : α} : (pure a : Activity I σ α).among others state world =
    { result := .ok a, state, world } := rfl

@[simp] theorem among_fail {failure : Failure} :
    (fail failure : Activity I σ α).among others state world =
      { result := .error failure, state, world } := rfl

@[simp] theorem among_lift {result : Except Failure α} :
    (liftM result : Activity I σ α).among others state world = { result, state, world } := rfl

theorem among_gets_bind {f : σ → α} {next : α → Activity I σ β} :
    (gets f >>= next).among others state world = (next (f state)).among others state world := rfl

theorem among_modify_bind {f : σ → σ} {next : Unit → Activity I σ β} :
    (modify f >>= next).among others state world = (next ()).among others (f state) world := rfl

@[simp] theorem among_modify {f : σ → σ} :
    (modify f : Activity I σ Unit).among others state world =
      { result := .ok (), state := f state, world } := rfl

theorem among_ask {what : I.Call} : (ask what : Activity I σ (I.Answer what)).among others state world =
    { result := (others.reply what state world).1
      state := (others.reply what state world).2.1
      world := (others.reply what state world).2.2
      calls := [what] } := rfl

end Steps

theorem mem_calls_bind {activity : Activity I σ α} {next : α → Activity I σ β} {what : I.Call}
    (member : what ∈ ((activity >>= next).among others state world).calls) :
    what ∈ (activity.among others state world).calls ∨
      ∃ a between later, what ∈ ((next a).among others between later).calls := by
  rw [among_bind] at member
  cases result : (activity.among others state world).result with
  | ok a =>
    rw [Ending.then_of_ok result, Ending.calls_behind, List.mem_append] at member
    exact member.imp id fun later => ⟨a, _, _, later⟩
  | error failure =>
    rw [Ending.then_of_error result] at member
    exact .inl member

end Activity

structure Surroundings.Keep (others : Surroundings I σ ω) (inv : σ → Prop) : Prop where
  reply : ∀ what state world, inv state → inv (others.reply what state world).2.1
  grant : ∀ state world, inv state → inv (others.grant state world).1

def Surroundings.during (others : Surroundings I σ ω) : List I.Call → σ → ω → σ × ω
  | [], state, world => (state, world)
  | what :: later, state, world =>
      let (_, after, outside) := others.reply what state world
      others.during later after outside

theorem Surroundings.Keep.during {others : Surroundings I σ ω} {inv : σ → Prop}
    (keep : others.Keep inv) (calls : List I.Call) {state : σ} (world : ω) (holds : inv state) :
    inv (others.during calls state world).1 := by
  induction calls generalizing state world with
  | nil => exact holds
  | cons what later ih => exact ih _ (keep.reply what state world holds)

theorem Activity.among_keeps {others : Surroundings I σ ω} {inv : σ → Prop} (keep : others.Keep inv)
    {counts : I.Call → Bool} {post : Place → Prop} {place : Place} {activity : Activity I σ α}
    (sectioned : activity.Sectioned counts inv post place) {state : σ} {world : ω}
    (holds : inv state) : inv (activity.among others state world).state := by
  induction activity generalizing place state world with
  | done result => exact holds
  | look next ih => exact ih state (sectioned state holds) holds
  | write after next ih => exact ih sectioned.2 sectioned.1
  | call what next ih => exact ih _ (sectioned.2 _) (keep.reply what state world holds)
  | lock next ih => exact ih sectioned.2 (keep.grant state world holds)
  | unlock next ih => exact ih sectioned.2 holds

def Surroundings.alone (answer : (what : I.Call) → ω → Except Failure (I.Answer what) × ω) :
    Surroundings I σ ω where
  reply what state world := ((answer what world).1, state, (answer what world).2)
  grant state world := (state, world)

theorem Activity.among_alone (answer : (what : I.Call) → ω → Except Failure (I.Answer what) × ω)
    (activity : Activity I σ α) (state : σ) (world : ω) :
    let ending := activity.among (.alone answer) state world
    (activity.run (m := StateM ω) answer state).run world =
      ((ending.result, ending.state), ending.world) := by
  induction activity generalizing state world with
  | done result => rfl
  | look next ih => exact ih state state world
  | write after next ih => exact ih after world
  | call what next ih => exact ih _ state _
  | lock next ih => exact ih state world
  | unlock next ih => exact ih state world

end ApplianceCloud
