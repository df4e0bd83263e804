import ApplianceCloud.Proofs.Interleaving.Basic
import Mathlib.Data.List.Chain

/-!
# Activities under interference

The lock keeps other tasks away only from what they do under it. A `Discipline` says which single
writes are allowed, with the lock and without it, and on what a task that holds the lock can rely
after it had to wait. An activity that `Keeps` the discipline writes only what is allowed, whatever
its calls are answered with and whatever the others wrote meanwhile. `recorded_play` says what this
means for tasks that run at the same time: every state there ever was has the invariant, every one
comes from the one before by an allowed write, and every task that is over ended as it promised.
-/

namespace ApplianceCloud

variable {I : Interface} {σ τ α β π : Type}

structure Discipline (σ : Type) where
  inv : σ → Prop
  step : (holding : Bool) → σ → σ → Prop
  rely : σ → σ → Prop
  inv_of_step : ∀ {holding state after}, step holding state after → inv state → inv after
  rely_refl : ∀ state, rely state state
  rely_trans : ∀ {state between after}, rely state between → rely between after → rely state after
  rely_of_step : ∀ {state after}, step false state after → rely state after

namespace Activity

/-- Whether an activity keeps a discipline from a state on, with or without the lock in the
beginning, and ends with `post`. -/
def Keeps (d : Discipline σ) (post : Bool → Except Failure α → σ → Prop) :
    Bool → Activity I σ α → σ → Prop
  | holding, done result, state => post holding result state
  | holding, look next, state => Keeps d post holding (next state) state
  | holding, write after next, state => d.step holding state after ∧ Keeps d post holding next after
  | holding, call _ next, state => ∀ answer after, d.inv after →
      (holding = true → d.rely state after) → Keeps d post holding (next answer) after
  | false, lock next, _ => ∀ after, d.inv after → Keeps d post true next after
  | true, unlock next, state => Keeps d post false next state
  | _, _, _ => False

variable {d : Discipline σ} {holding : Bool}

theorem keeps_mono {post post' : Bool → Except Failure α → σ → Prop} (activity : Activity I σ α)
    {state : σ} (le : ∀ holding result state, post holding result state →
      post' holding result state) (h : activity.Keeps d post holding state) :
    activity.Keeps d post' holding state := by
  induction activity generalizing holding state with
  | done result => exact le _ _ _ h
  | look next ih => exact ih _ h
  | write after next ih => exact ⟨h.1, ih h.2⟩
  | call what next ih => exact fun answer after inv rely => ih answer (h answer after inv rely)
  | lock next ih =>
    cases holding with
    | true => exact h
    | false => exact fun after inv => ih (h after inv)
  | unlock next ih =>
    cases holding with
    | true => exact ih h
    | false => exact h

def thenKeeps (d : Discipline σ) (post : Bool → Except Failure β → σ → Prop)
    (next : α → Activity I σ β) (holding : Bool) (result : Except Failure α) (state : σ) : Prop :=
  match result with
  | .ok a => (next a).Keeps d post holding state
  | .error failure => post holding (.error failure) state

@[simp] theorem thenKeeps_ok {post : Bool → Except Failure β → σ → Prop}
    {next : α → Activity I σ β} {a : α} :
    thenKeeps d post next holding (.ok a) = (next a).Keeps d post holding := rfl

@[simp] theorem thenKeeps_error {post : Bool → Except Failure β → σ → Prop}
    {next : α → Activity I σ β} {failure : Failure} :
    thenKeeps d post next holding (.error failure) = post holding (.error failure) := rfl

theorem keeps_bind {post : Bool → Except Failure β → σ → Prop} (activity : Activity I σ α)
    (next : α → Activity I σ β) {state : σ} :
    (activity >>= next).Keeps d post holding state ↔
      activity.Keeps d (thenKeeps d post next) holding state := by
  change (activity.bind next).Keeps d post holding state ↔ _
  induction activity generalizing holding state with
  | done result => cases result <;> rfl
  | look rest ih => exact ih _
  | write after rest ih => exact and_congr Iff.rfl ih
  | call what rest ih =>
    exact forall_congr' fun answer => forall_congr' fun _ => imp_congr_right fun _ =>
      imp_congr_right fun _ => ih answer
  | lock rest ih =>
    cases holding with
    | true => exact Iff.rfl
    | false => exact forall_congr' fun _ => imp_congr_right fun _ => ih
  | unlock rest ih =>
    cases holding with
    | true => exact ih
    | false => exact Iff.rfl

theorem keeps_attempt {post : Bool → Except Failure (Except Failure α) → σ → Prop}
    (activity : Activity I σ α) {state : σ} :
    activity.attempt.Keeps d post holding state ↔
      activity.Keeps d (fun holding result => post holding (.ok result)) holding state := by
  induction activity generalizing holding state with
  | done result => exact Iff.rfl
  | look rest ih => exact ih _
  | write after rest ih => exact and_congr Iff.rfl ih
  | call what rest ih =>
    exact forall_congr' fun answer => forall_congr' fun _ => imp_congr_right fun _ =>
      imp_congr_right fun _ => ih answer
  | lock rest ih =>
    cases holding with
    | true => exact Iff.rfl
    | false => exact forall_congr' fun _ => imp_congr_right fun _ => ih
  | unlock rest ih =>
    cases holding with
    | true => exact ih
    | false => exact Iff.rfl

theorem keeps_locked {post : Bool → Except Failure α → σ → Prop} {activity : Activity I σ α}
    (h : ∀ state, d.inv state →
      activity.Keeps d (fun holding result state => holding = true ∧ post false result state)
        true state) (state : σ) :
    activity.locked.Keeps d post false state := by
  intro after inv
  have inside : activity.Keeps d (fun holding result =>
      (unlock (done result) : Activity I σ α).Keeps d post holding) true after := by
    refine keeps_mono activity ?_ (h after inv)
    rintro holding result state ⟨rfl, ended⟩
    exact ended
  exact (keeps_bind _ _).2 ((keeps_attempt activity).2 inside)

section Steps

variable {post : Bool → Except Failure α → σ → Prop} {state : σ}

theorem keeps_lift {result : Except Failure α} :
    (liftM result : Activity I σ α).Keeps d post holding state ↔ post holding result state := Iff.rfl

theorem keeps_gets {f : σ → α} :
    (gets f : Activity I σ α).Keeps d post holding state ↔ post holding (.ok (f state)) state :=
  Iff.rfl

theorem keeps_modify {post : Bool → Except Failure Unit → σ → Prop} {f : σ → σ} :
    (modify f : Activity I σ Unit).Keeps d post holding state ↔
      d.step holding state (f state) ∧ post holding (.ok ()) (f state) := Iff.rfl

theorem keeps_ask {what : I.Call} {post : Bool → Except Failure (I.Answer what) → σ → Prop} :
    (ask what : Activity I σ (I.Answer what)).Keeps d post holding state ↔
      ∀ answer after, d.inv after → (holding = true → d.rely state after) →
        post holding answer after := Iff.rfl

end Steps

end Activity

namespace Scene

open Activity

def holds (scene : Scene I σ α) (task : Nat) : Bool := scene.holder? = some task

def loose (post : Except Failure α → σ → Prop) (holding : Bool) (result : Except Failure α)
    (state : σ) : Prop :=
  holding = false ∧ post result state

def Settled (d : Discipline σ) (post : Except Failure α → σ → Prop) (holding : Bool) (state : σ) :
    Stage I σ α → Prop
  | .calling _ next => ∀ answer after, d.inv after → (holding = true → d.rely state after) →
      (next answer).Keeps d (loose post) holding after
  | .queued next => holding = false ∧ ∀ after, d.inv after → next.Keeps d (loose post) true after
  | .ended result => holding = false ∧ ∃ after, d.inv after ∧ post result after

structure SettledAmong (d : Discipline σ) (post : Except Failure α → σ → Prop)
    (group : Nat → Prop) (scene : Scene I σ α) : Prop where
  inv : d.inv scene.state
  inside : ∀ task, scene.holds task = true → task < scene.stages.length
  stages : ∀ task stage, group task → scene.stages[task]? = some stage →
    Settled d post (scene.holds task) scene.state stage

variable {d : Discipline σ} {post : Except Failure α → σ → Prop} {task : Nat} {scene : Scene I σ α}

theorem Settled.mono {holding : Bool} {state after : σ} {stage : Stage I σ α}
    (h : Settled d post holding state stage) (rely : holding = true → d.rely state after) :
    Settled d post holding after stage := by
  cases stage with
  | calling what next =>
    intro answer later inv relies
    exact h answer later inv fun holds => d.rely_trans (rely holds) (relies holds)
  | queued next => exact h
  | ended result => exact h

theorem holds_unique {other : Nat} (holds : scene.holds task = true) (ne : other ≠ task) :
    scene.holds other = false := by
  simp only [Scene.holds, decide_eq_true_eq, decide_eq_false_iff_not] at *
  rw [holds, Option.some.injEq]
  exact ne.symm

theorem SettledAmong.write (h : scene.SettledAmong d post (· ≠ task)) {after : σ}
    (allowed : d.step (scene.holds task) scene.state after) :
    { scene with state := after }.SettledAmong d post (· ≠ task) where
  inv := d.inv_of_step allowed h.inv
  inside := h.inside
  stages other stage ne found := by
    have settled := h.stages other stage ne found
    apply settled.mono
    intro holds
    -- A write without the lock is one to rely on, and one with it leaves no other task holding it.
    cases mine : scene.holds task with
    | true => exact absurd holds (by simp [holds_unique mine ne])
    | false => exact d.rely_of_step (mine ▸ allowed)

theorem SettledAmong.place (h : scene.SettledAmong d post (· ≠ task))
    (inside : task < scene.stages.length) {stage : Stage I σ α}
    (settled : Settled d post (scene.holds task) scene.state stage) :
    (scene.place task stage).SettledAmong d post (fun _ => True) where
  inv := h.inv
  inside other holds := by simpa [Scene.place] using h.inside other holds
  stages other stage' _ found := by
    by_cases same : other = task
    · subst same
      rw [getElem?_place_self inside, Option.some.injEq] at found
      exact found ▸ settled
    · rw [getElem?_place_ne same] at found
      exact h.stages other stage' same found

theorem SettledAmong.handOver (h : scene.SettledAmong d post (· ≠ task))
    (inside : task < scene.stages.length) (loose : ∀ other ≠ task, scene.holds other = false)
    {holder? : Option Nat} (mine : ∀ other ∈ holder?, other = task) :
    { scene with holder? }.SettledAmong d post (· ≠ task) where
  inv := h.inv
  inside other holds := by
    have same : other = task := mine other (by simpa [Scene.holds] using holds)
    exact same ▸ inside
  stages other stage ne found := by
    have settled := h.stages other stage ne found
    have still : { scene with holder? }.holds other = false := by
      simp only [Scene.holds, decide_eq_false_iff_not]
      exact fun holds => ne (mine other holds)
    rw [loose other ne] at settled
    rwa [still]

theorem settled_goOn (activity : Activity I σ α) (scene : Scene I σ α)
    (inside : task < scene.stages.length) (others : scene.SettledAmong d post (· ≠ task))
    (keeps : activity.Keeps d (loose post) (scene.holds task) scene.state) :
    (scene.goOn task activity).SettledAmong d post fun _ => True := by
  induction activity generalizing scene with
  | done result =>
    exact others.place inside ⟨keeps.1, scene.state, others.inv, keeps.2⟩
  | look next ih => exact ih _ scene inside others keeps
  | write after next ih =>
    exact ih { scene with state := after } inside (others.write keeps.1) keeps.2
  | call what next ih =>
    have rest : (scene.record task (.asked what)).SettledAmong d post (· ≠ task) :=
      ⟨others.inv, others.inside, others.stages⟩
    exact rest.place inside keeps
  | lock next ih =>
    cases mine : scene.holds task with
    | true => simp [mine, Keeps] at keeps
    | false =>
      rw [mine] at keeps
      rw [goOn]
      split
      · next free =>
        have none : scene.holder? = none := by simp_all [isFree]
        let taken : Scene I σ α := { scene with holder? := some task }
        have holds : taken.holds task = true := by simp [taken, Scene.holds]
        have rest : taken.SettledAmong d post (· ≠ task) :=
          others.handOver inside (fun other _ => by simp [Scene.holds, none]) (by simp)
        exact ih taken inside rest (holds ▸ keeps _ others.inv)
      · have rest : ({ scene with waiting := scene.waiting ++ [task] } : Scene I σ α).SettledAmong d
            post (· ≠ task) := ⟨others.inv, others.inside, others.stages⟩
        exact rest.place inside ⟨mine, keeps⟩
  | unlock next ih =>
    cases mine : scene.holds task with
    | false => simp [mine, Keeps] at keeps
    | true =>
      rw [mine] at keeps
      let free : Scene I σ α := { scene with holder? := none }
      have rest : free.SettledAmong d post (· ≠ task) :=
        others.handOver inside (fun other ne => holds_unique mine ne) (by simp)
      exact ih free inside rest keeps

abbrev IsSettled (d : Discipline σ) (post : Except Failure α → σ → Prop) (scene : Scene I σ α) :
    Prop :=
  scene.SettledAmong d post fun _ => True

theorem IsSettled.others (h : scene.IsSettled d post) (task : Nat) :
    scene.SettledAmong d post (· ≠ task) :=
  ⟨h.inv, h.inside, fun other stage _ found => h.stages other stage trivial found⟩

theorem IsSettled.enter (h : scene.IsSettled d post) (activity : Activity I σ α)
    (keeps : activity.Keeps d (loose post) false scene.state) :
    (goOn scene.stages.length activity
      { scene with stages := scene.stages ++ [Stage.queued activity] }).IsSettled d post := by
  let entered : Scene I σ α := { scene with stages := scene.stages ++ [Stage.queued activity] }
  have free : entered.holds scene.stages.length = false := by
    cases holds : entered.holds scene.stages.length with
    | false => rfl
    | true => exact absurd (h.inside _ holds) (Nat.lt_irrefl _)
  have others : entered.SettledAmong d post (· ≠ scene.stages.length) := by
    refine ⟨h.inv, fun task holds => ?_, fun task stage ne found => ?_⟩
    · have before := h.inside task holds
      simp only [entered, List.length_append, List.length_singleton]
      omega
    · exact h.stages task stage trivial (getElem?_of_append_ne ne found)
  exact settled_goOn activity entered (by simp [entered]) others (free ▸ keeps)

theorem IsSettled.answer (h : scene.IsSettled d post) {what : I.Call}
    {next : Except Failure (I.Answer what) → Activity I σ α}
    (found : scene.stages[task]? = some (.calling what next))
    (answer : Except Failure (I.Answer what)) :
    ((scene.record task (.answered what answer)).goOn task (next answer)).IsSettled d post := by
  let answered := scene.record task (.answered what answer)
  have others : answered.SettledAmong d post (· ≠ task) :=
    ⟨h.inv, h.inside, (h.others task).stages⟩
  have waits := h.stages task _ trivial found
  have inside := (List.getElem?_eq_some_iff.1 found).1
  exact settled_goOn (next answer) answered inside others
    (waits answer scene.state h.inv fun _ => d.rely_refl scene.state)

theorem IsSettled.grant (h : scene.IsSettled d post) {rest : List Nat} {next : Activity I σ α}
    (none : scene.holder? = none) (found : scene.stages[task]? = some (.queued next)) :
    (goOn task next { scene with holder? := some task, waiting := rest }).IsSettled d post := by
  let granted : Scene I σ α := { scene with holder? := some task, waiting := rest }
  have inside := (List.getElem?_eq_some_iff.1 found).1
  have taken := (h.others task).handOver inside (fun other _ => by simp [Scene.holds, none])
    (show ∀ other ∈ some task, other = task by simp)
  have others : granted.SettledAmong d post (· ≠ task) :=
    ⟨taken.inv, taken.inside, taken.stages⟩
  have holds : granted.holds task = true := by simp [granted, Scene.holds]
  have queued := h.stages task _ trivial found
  exact settled_goOn next granted inside others (holds ▸ queued.2 scene.state h.inv)

variable {activity : π → Activity I σ α}

theorem settled_play {start : σ} (initially : d.inv start)
    (keeps : ∀ program state, d.inv state →
      (activity program).Keeps d (loose post) false state)
    (moves : List (Move I π)) : (play activity start moves).IsSettled d post := by
  apply play_induction
  · exact ⟨initially, fun _ holds => by simp [Scene.holds] at holds, fun _ _ _ found => by simp at found⟩
  · exact fun scene program h => h.enter _ (keeps program _ h.inv)
  · exact fun scene task what next answer h found => h.answer found answer
  · exact fun scene task rest next h none found => h.grant none found

theorem IsSettled.ended (h : scene.IsSettled d post) {result : Except Failure α}
    (member : Stage.ended result ∈ scene.stages) : ∃ state, d.inv state ∧ post result state := by
  obtain ⟨task, found⟩ := List.getElem?_of_mem member
  exact (h.stages task _ trivial found).2

end Scene

structure History (σ : Type) where
  now : σ
  earlier : List σ := []

namespace History

def states (history : History σ) : List σ := history.now :: history.earlier

def push (state : σ) (history : History σ) : History σ := ⟨state, history.states⟩

end History

def Activity.recorded (activity : Activity I σ α) : Activity I (History σ) α :=
  activity.onPart History.now History.push

def Discipline.recorded (d : Discipline σ) : Discipline (History σ) where
  inv history := (∀ state ∈ history.states, d.inv state) ∧
    history.states.IsChain fun after state => ∃ holding, d.step holding state after
  step holding history after := ∃ state, d.step holding history.now state ∧
    after = history.push state
  rely history after := d.rely history.now after.now
  inv_of_step := by
    rintro holding history - ⟨state, allowed, rfl⟩ ⟨inv, chain⟩
    refine ⟨fun other member => ?_, List.isChain_cons_cons.2 ⟨⟨holding, allowed⟩, chain⟩⟩
    cases member with
    | head => exact d.inv_of_step allowed (inv history.now List.mem_cons_self)
    | tail _ member => exact inv other member
  rely_refl history := d.rely_refl history.now
  rely_trans := d.rely_trans
  rely_of_step := by
    rintro history - ⟨state, allowed, rfl⟩
    exact d.rely_of_step allowed

variable {d : Discipline σ} {post : Except Failure α → σ → Prop}

theorem Discipline.inv_now {history : History σ} (inv : d.recorded.inv history) :
    d.inv history.now :=
  inv.1 history.now List.mem_cons_self

theorem Activity.keeps_recorded {post : Bool → Except Failure α → σ → Prop}
    (activity : Activity I σ α) {holding : Bool} {history : History σ}
    (h : activity.Keeps d post holding history.now) :
    activity.recorded.Keeps d.recorded (fun holding result history => post holding result history.now)
      holding history := by
  unfold Activity.recorded
  induction activity generalizing holding history with
  | done result => exact h
  | look next ih => exact ih _ h
  | write after next ih => exact ⟨⟨after, h.1, rfl⟩, ih h.2⟩
  | call what next ih =>
    exact fun answer after inv rely => ih answer (h answer after.now (d.inv_now inv) rely)
  | lock next ih =>
    cases holding with
    | true => exact h
    | false => exact fun after inv => ih (h after.now (d.inv_now inv))
  | unlock next ih =>
    cases holding with
    | true => exact ih h
    | false => exact h

/-- Tasks that keep a discipline run at the same time: every state that there was has the invariant,
every one comes from the one before by a step of the discipline, and every task that is over ended as
it promised. -/
theorem Scene.recorded_play {activity : π → Activity I σ α} {start : σ} (initially : d.inv start)
    (keeps : ∀ program state, d.inv state →
      (activity program).Keeps d (loose post) false state)
    (moves : List (Move I π)) :
    let scene := play (fun program => (activity program).recorded) ⟨start, []⟩ moves
    (∀ state ∈ scene.state.states, d.inv state) ∧
    scene.state.states.IsChain (fun after state => ∃ holding, d.step holding state after) ∧
    ∀ result, Stage.ended result ∈ scene.stages → ∃ state, d.inv state ∧ post result state := by
  intro scene
  have first : d.recorded.inv ⟨start, []⟩ := by
    refine ⟨fun state member => ?_, .singleton _⟩
    exact List.mem_singleton.1 member ▸ initially
  have settled : scene.IsSettled d.recorded fun result history => post result history.now := by
    apply settled_play first
    intro program history inv
    exact (activity program).keeps_recorded (keeps program history.now (d.inv_now inv))
  refine ⟨settled.inv.1, settled.inv.2, fun result member => ?_⟩
  obtain ⟨history, inv, promised⟩ := settled.ended member
  exact ⟨history.now, d.inv_now inv, promised⟩

end ApplianceCloud
