import ApplianceCloud.Proofs.Interleaving.Contract

/-!
# What the lock keeps

`Scene.Kept` is the invariant of a scene whose activities touch the state only while they hold the
lock: a free lock means that `inv` is true, and otherwise the one task that holds it waits for an
answer, with `pending` true and its contract for whatever the answer is. `kept_play` says that it is
true after every list of moves if every activity is `Guarded`, and `guarded_locked` that an activity
under the lock is, if its contract takes `inv` back to `inv`.
-/

namespace ApplianceCloud

variable {I : Interface} {σ α β π : Type}

namespace Activity

/-- Whether an activity takes the lock before it does anything else, and gives it back with `inv` true
again. While it holds the lock, it has the state and what happened so far. -/
def Guarded (inv pending : σ → Trace I → Prop) (task : Nat) :
    Activity I σ α → Option (σ × Trace I) → Prop
  | done _, none => True
  | lock next, none => ∀ state trace, inv state trace →
      Guarded inv pending task next (some (state, trace))
  | look next, some (state, trace) => Guarded inv pending task (next state) (some (state, trace))
  | write state next, some (_, trace) => Guarded inv pending task next (some (state, trace))
  | call what next, some (state, trace) =>
      pending state (trace ++ [(task, .asked what)]) ∧
        ∀ answer, Guarded inv pending task (next answer)
          (some (state, trace ++ [(task, .asked what)] ++ [(task, .answered what answer)]))
  | unlock next, some (state, trace) => inv state trace ∧ Guarded inv pending task next none
  | _, _ => False

variable {inv pending : σ → Trace I → Prop} {task : Nat}

theorem guarded_bind {activity : Activity I σ α} {next : α → Activity I σ β}
    {held : Option (σ × Trace I)} (h : activity.Guarded inv pending task held)
    (rest : ∀ a, (next a).Guarded inv pending task none) :
    (activity.bind next).Guarded inv pending task held := by
  induction activity generalizing held with
  | done result =>
    cases held with
    | none => cases result with
      | ok a => exact rest a
      | error failure => exact h
    | some _ => exact h.elim
  | look _ ih =>
    cases held with
    | none => exact h.elim
    | some _ => exact ih _ h
  | write _ _ ih =>
    cases held with
    | none => exact h.elim
    | some _ => exact ih h
  | call _ _ ih =>
    cases held with
    | none => exact h.elim
    | some _ => exact ⟨h.1, fun answer => ih answer (h.2 answer)⟩
  | lock _ ih =>
    cases held with
    | none => exact fun state trace start => ih (h state trace start)
    | some _ => exact h.elim
  | unlock _ ih =>
    cases held with
    | none => exact h.elim
    | some _ => exact ⟨h.1, ih h.2⟩

theorem guarded_attempt_unlock {activity : Activity I σ α} {state : σ} {trace : Trace I}
    (h : activity.wp pending task (fun _ => inv) state trace) :
    (activity.attempt.bind fun result => unlock (done result)).Guarded inv pending task
      (some (state, trace)) := by
  induction activity generalizing state trace with
  | done result => exact ⟨h, trivial⟩
  | look next ih => exact ih _ h
  | write state next ih => exact ih h
  | call what next ih => exact ⟨h.1, fun answer => ih answer (h.2 answer)⟩
  | lock next => exact h.elim
  | unlock next => exact h.elim

theorem guarded_locked {activity : Activity I σ α}
    (h : ∀ state trace, inv state trace → activity.wp pending task (fun _ => inv) state trace) :
    activity.locked.Guarded inv pending task none :=
  fun state trace start => guarded_attempt_unlock (h state trace start)

end Activity

namespace Scene

open Activity

def Resting (inv pending : σ → Trace I → Prop) (task : Nat) : Stage I σ α → Prop
  | .calling _ _ => False
  | .queued next => ∀ state trace, inv state trace →
      next.Guarded inv pending task (some (state, trace))
  | .ended _ => True

def Engaged (inv pending : σ → Trace I → Prop) (state : σ) (trace : Trace I) (task : Nat) :
    Stage I σ α → Prop
  | .calling what next => pending state trace ∧
      ∀ answer, (next answer).Guarded inv pending task
        (some (state, trace ++ [(task, .answered what answer)]))
  | _ => False

/-- What is true of the tasks of a group, and of the state when nobody holds the lock. -/
structure KeptAmong (inv pending : σ → Trace I → Prop) (group : Nat → Prop) (scene : Scene I σ α) :
    Prop where
  free : scene.holder? = none → inv scene.state scene.trace
  resting : ∀ task stage, group task → scene.holder? ≠ some task →
    scene.stages[task]? = some stage → Resting inv pending task stage
  engaged : ∀ task, group task → scene.holder? = some task → ∃ stage,
    scene.stages[task]? = some stage ∧ Engaged inv pending scene.state scene.trace task stage

abbrev Kept (inv pending : σ → Trace I → Prop) (scene : Scene I σ α) : Prop :=
  scene.KeptAmong inv pending fun _ => True

variable {inv pending : σ → Trace I → Prop} {task : Nat} {scene : Scene I σ α}

theorem Kept.others (h : scene.Kept inv pending) (task : Nat) :
    scene.KeptAmong inv pending (· ≠ task) where
  free := h.free
  resting other stage _ := h.resting other stage trivial
  engaged other _ := h.engaged other trivial

theorem KeptAmong.of_holder (h : scene.KeptAmong inv pending (· ≠ task))
    (later : Scene I σ α) (stages : later.stages = scene.stages)
    (before : scene.holder? = some task ∨ scene.holder? = none)
    (holds : later.holder? = some task) : later.KeptAmong inv pending (· ≠ task) where
  free none := by simp [holds] at none
  resting other stage ne _ found := by
    refine h.resting other stage ne ?_ (stages ▸ found)
    rcases before with held | none
    · simpa [held] using ne.symm
    · simp [none]
  engaged other ne held := by
    rw [holds, Option.some.injEq] at held
    exact absurd held.symm ne

theorem KeptAmong.place (h : scene.KeptAmong inv pending (· ≠ task))
    (inside : task < scene.stages.length) {stage : Stage I σ α}
    (rests : scene.holder? ≠ some task → Resting inv pending task stage)
    (waits : scene.holder? = some task → Engaged inv pending scene.state scene.trace task stage) :
    (scene.place task stage).Kept inv pending where
  free := h.free
  resting other stage' _ loose found := by
    by_cases same : other = task
    · subst same
      rw [getElem?_place_self inside, Option.some.injEq] at found
      subst found
      exact rests loose
    · rw [getElem?_place_ne same] at found
      exact h.resting other stage' same loose found
  engaged other _ holds := by
    by_cases same : other = task
    · subst same
      exact ⟨stage, getElem?_place_self inside, waits holds⟩
    · rw [getElem?_place_ne same]
      exact h.engaged other same holds

theorem kept_goOn (activity : Activity I σ α) (scene : Scene I σ α)
    (inside : task < scene.stages.length) (others : scene.KeptAmong inv pending (· ≠ task)) :
    (scene.holder? ≠ some task → activity.Guarded inv pending task none →
      (scene.goOn task activity).Kept inv pending) ∧
    (scene.holder? = some task → activity.Guarded inv pending task (some (scene.state, scene.trace)) →
      (scene.goOn task activity).Kept inv pending) := by
  induction activity generalizing scene with
  | done result =>
    exact ⟨fun loose _ => others.place inside (fun _ => trivial) fun holds => absurd holds loose,
      fun _ h => h.elim⟩
  | look next ih =>
    exact ⟨fun _ h => h.elim, fun holds h => (ih _ scene inside others).2 holds h⟩
  | write state next ih =>
    refine ⟨fun _ h => h.elim, fun holds h => ?_⟩
    have rest := others.of_holder { scene with state } rfl (.inl holds) holds
    exact (ih { scene with state } inside rest).2 holds h
  | call what next ih =>
    refine ⟨fun _ h => h.elim, fun holds h => ?_⟩
    have rest := others.of_holder (scene.record task (.asked what)) rfl (.inl holds) holds
    exact rest.place inside (fun loose => absurd holds loose) fun _ => h
  | lock next ih =>
    refine ⟨fun loose h => ?_, fun _ h => h.elim⟩
    rw [goOn]
    split
    · next free =>
      have none : scene.holder? = none := by simp_all [isFree]
      have rest := others.of_holder { scene with holder? := some task } rfl (.inr none) rfl
      exact (ih { scene with holder? := some task } inside rest).2 rfl (h _ _ (others.free none))
    · have rest : ({ scene with waiting := scene.waiting ++ [task] } : Scene I σ α).KeptAmong inv
          pending (· ≠ task) := ⟨others.free, others.resting, others.engaged⟩
      exact rest.place inside (fun _ => h) fun holds => absurd holds loose
  | unlock next ih =>
    refine ⟨fun _ h => h.elim, fun holds h => ?_⟩
    have rest : ({ scene with holder? := none } : Scene I σ α).KeptAmong inv pending (· ≠ task) := by
      refine ⟨fun _ => h.1, fun other stage ne _ found => ?_, fun other _ held => by simp at held⟩
      exact others.resting other stage ne (by simpa [holds] using ne.symm) found
    exact (ih { scene with holder? := none } inside rest).1 (by simp) h.2

theorem Kept.holds (h : scene.Kept inv pending) {what : I.Call}
    {next : Except Failure (I.Answer what) → Activity I σ α}
    (found : scene.stages[task]? = some (.calling what next)) : scene.holder? = some task := by
  refine Classical.byContradiction fun loose => ?_
  exact h.resting task _ trivial loose found

theorem Kept.enter (h : scene.Kept inv pending) (activity : Activity I σ α)
    (guarded : activity.Guarded inv pending scene.stages.length none) :
    (goOn scene.stages.length activity
      { scene with stages := scene.stages ++ [Stage.queued activity] }).Kept inv pending := by
  have loose : scene.holder? ≠ some scene.stages.length := by
    intro holds
    obtain ⟨stage, found, -⟩ := h.engaged _ trivial holds
    simp at found
  let entered : Scene I σ α := { scene with stages := scene.stages ++ [Stage.queued activity] }
  refine (kept_goOn activity entered (by simp [entered]) ⟨h.free, fun task stage ne out found => ?_,
    fun task _ holds => ?_⟩).1 loose guarded
  · exact h.resting task stage trivial out (getElem?_of_append_ne ne found)
  · obtain ⟨stage, found, waits⟩ := h.engaged task trivial holds
    have inside := (List.getElem?_eq_some_iff.1 found).1
    exact ⟨stage, by simp only [entered, List.getElem?_append_left inside, found], waits⟩

theorem Kept.answer (h : scene.Kept inv pending) {what : I.Call}
    {next : Except Failure (I.Answer what) → Activity I σ α}
    (found : scene.stages[task]? = some (.calling what next))
    (answer : Except Failure (I.Answer what)) :
    ((scene.record task (.answered what answer)).goOn task (next answer)).Kept inv pending := by
  have holds := h.holds found
  obtain ⟨stage, found', waits⟩ := h.engaged task trivial holds
  rw [found, Option.some.injEq] at found'
  subst found'
  let answered := scene.record task (.answered what answer)
  have rest := (h.others task).of_holder answered rfl (.inl holds) holds
  have inside := (List.getElem?_eq_some_iff.1 found).1
  exact (kept_goOn (next answer) answered inside rest).2 holds (waits.2 answer)

theorem Kept.grant (h : scene.Kept inv pending) {rest : List Nat} {next : Activity I σ α}
    (none : scene.holder? = none) (found : scene.stages[task]? = some (.queued next)) :
    (goOn task next { scene with holder? := some task, waiting := rest }).Kept inv pending := by
  have guarded : Resting inv pending task (.queued next) :=
    h.resting task _ trivial (by simp [none]) found
  let granted : Scene I σ α := { scene with holder? := some task, waiting := rest }
  have others := (h.others task).of_holder granted rfl (.inr none) rfl
  have inside := (List.getElem?_eq_some_iff.1 found).1
  exact (kept_goOn next granted inside others).2 rfl (guarded _ _ (h.free none))

variable {activity : π → Activity I σ α}

theorem kept_play {start : σ} (initially : inv start [])
    (guarded : ∀ program task, (activity program).Guarded inv pending task none)
    (moves : List (Move I π)) : (play activity start moves).Kept inv pending := by
  apply play_induction
  · exact ⟨fun _ => initially, fun _ _ _ _ found => by simp at found, fun _ _ holds => by simp at holds⟩
  · exact fun scene program h => h.enter _ (guarded program _)
  · exact fun scene task what next answer h found => h.answer found answer
  · exact fun scene task rest next h none found => h.grant none found

end Scene

end ApplianceCloud
