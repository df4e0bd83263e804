import ApplianceCloud.Proofs.Interleaving.Basic

/-!
# Stretches

From one wait to the next an activity is alone with the state. A `Law` says what such a stretch may
make of the state, by the program that goes on and by what it was answered when the stretch began. In a
scene of lawful activities every move is one stretch, so a law can be proved of the programs and read
off the moves.
-/

namespace ApplianceCloud

variable {I : Interface} {σ α β π : Type}

structure Law (I : Interface) (π σ : Type) where
  inv : σ → Prop
  step : (actor? : Option π) → (cue? : Option (Occurrence I)) → σ → σ → Prop
  inv_of_step : ∀ {actor? cue? state after}, step actor? cue? state after → inv state → inv after
  step_refl : ∀ actor? state, step actor? none state state

namespace Activity

/-- Whether an activity keeps to the law of a program in the stretch that began at a state, as far as
that has come, and in all stretches after it. A lock may be free or not. -/
def Lawful (law : Law I π σ) (actor? : Option π) :
    Activity I σ α → (cue? : Option (Occurrence I)) → (start now : σ) → Prop
  | done _, cue?, start, now => law.step actor? cue? start now
  | look next, cue?, start, now => Lawful law actor? (next now) cue? start now
  | write after next, cue?, start, _ => Lawful law actor? next cue? start after
  | call what next, cue?, start, now => law.step actor? cue? start now ∧
      ∀ answer state, law.inv state →
        Lawful law actor? (next answer) (some (.answered what answer)) state state
  | lock next, cue?, start, now => Lawful law actor? next cue? start now ∧
      law.step actor? cue? start now ∧ ∀ state, law.inv state → Lawful law actor? next none state state
  | unlock next, cue?, start, now => Lawful law actor? next cue? start now

end Activity

def Stage.Lawful (law : Law I π σ) (actor? : Option π) : Stage I σ α → Prop
  | .calling what next => ∀ answer state, law.inv state →
      (next answer).Lawful law actor? (some (.answered what answer)) state state
  | .queued next => ∀ state, law.inv state → next.Lawful law actor? none state state
  | .ended _ => True

def Move.program? : Move I π → Option π
  | enter program => some program
  | _ => none

def entered (moves : List (Move I π)) : List π := moves.filterMap Move.program?

theorem entered_append (moves later : List (Move I π)) :
    entered (moves ++ later) = entered moves ++ entered later :=
  List.filterMap_append

namespace Scene

def task? (scene : Scene I σ α) : Move I π → Option Nat
  | .enter _ => some scene.stages.length
  | .answer task _ => some task
  | .grant => scene.waiting.head?

def cue? (scene : Scene I σ α) : Move I π → Option (Occurrence I)
  | .answer task reply => match scene.stages[task]? with
    | some (.calling what _) => some (.answered what (reply what))
    | _ => none
  | _ => none

def heard (reads : Occurrence I → Option β) (scene : Scene I σ α) : List β :=
  scene.trace.filterMap fun event => reads event.2

theorem play_concat (activity : π → Activity I σ α) (start : σ) (moves : List (Move I π))
    (step : Move I π) :
    play activity start (moves ++ [step]) = (play activity start moves).move activity step :=
  List.foldl_append

inductive Moved (activity : π → Activity I σ α) (scene : Scene I σ α) :
    List π → Option Nat → Option (Occurrence I) → Scene I σ α → Prop where
  | idle {task?} : Moved activity scene [] task? none scene
  | enter (program : π) : Moved activity scene [program] (some scene.stages.length) none
      (goOn scene.stages.length (activity program)
        { scene with stages := scene.stages ++ [Stage.queued (activity program)] })
  | answer {task what next} (found : scene.stages[task]? = some (.calling what next))
      (answer : Except Failure (I.Answer what)) :
      Moved activity scene [] (some task) (some (.answered what answer))
        ((scene.record task (.answered what answer)).goOn task (next answer))
  | grant {task next} (found : scene.stages[task]? = some (.queued next)) (rest : List Nat) :
      Moved activity scene [] (some task) none
        (goOn task next { scene with holder? := some task, waiting := rest })

theorem moved_move (activity : π → Activity I σ α) (scene : Scene I σ α) (step : Move I π) :
    Moved activity scene (entered [step]) (scene.task? step) (scene.cue? step)
      (scene.move activity step) := by
  cases step with
  | enter program => exact .enter program
  | answer task reply =>
    unfold move cue?
    dsimp only
    cases found : scene.stages[task]? with
    | none => exact .idle
    | some stage => cases stage with
      | calling what next => exact .answer found (reply what)
      | queued | ended => exact .idle
  | grant =>
    unfold move task?
    dsimp only
    split
    · next task rest _ waiting =>
      rw [waiting]
      split
      · next next found => exact .grant found _
      · exact .idle
    · exact .idle

def AreLawful (law : Law I π σ) (programs : List π) (stages : List (Stage I σ α)) : Prop :=
  ∀ (task : Nat) (stage : Stage I σ α), stages[task]? = some stage →
    stage.Lawful law programs[task]?

structure Follows (law : Law I π σ) (programs : List π) (scene : Scene I σ α) : Prop where
  inv : law.inv scene.state
  length : programs.length = scene.stages.length
  stages : AreLawful law programs scene.stages

variable {law : Law I π σ} {programs : List π} {scene after : Scene I σ α}
  {activity : π → Activity I σ α} {task : Nat} {cue? : Option (Occurrence I)}

theorem lawful_place (placed : Stage I σ α) (lawful : placed.Lawful law programs[task]?)
    (others : AreLawful law programs scene.stages) :
    AreLawful law programs (scene.place task placed).stages := by
  intro other stage found
  by_cases same : other = task
  · subst same
    obtain ⟨inside, -⟩ := List.getElem?_eq_some_iff.1 found
    have here : (scene.place other placed).stages[other]? = some placed :=
      getElem?_place_self (by simpa [place] using inside)
    cases here.symm.trans found
    exact lawful
  · rw [getElem?_place_ne same] at found
    exact others other stage found

theorem length_goOn (activity : Activity I σ α) (scene : Scene I σ α) :
    (scene.goOn task activity).stages.length = scene.stages.length := by
  induction activity generalizing scene with
  | done result => exact List.length_set
  | look next ih => exact ih _ scene
  | write state next ih => exact ih { scene with state }
  | call what next ih => exact List.length_set
  | lock next ih =>
    rw [goOn]
    split
    · exact ih { scene with holder? := some task }
    · exact List.length_set
  | unlock next ih => exact ih { scene with holder? := none }

theorem lawful_goOn (activity : Activity I σ α) (scene : Scene I σ α) {start : σ}
    (others : AreLawful law programs scene.stages)
    (lawful : activity.Lawful law programs[task]? cue? start scene.state) :
    law.step programs[task]? cue? start (scene.goOn task activity).state ∧
      AreLawful law programs (scene.goOn task activity).stages := by
  induction activity generalizing scene with
  | done result =>
    exact ⟨lawful, lawful_place (.ended result) trivial others⟩
  | look next ih => exact ih _ scene others lawful
  | write state next ih => exact ih { scene with state } others lawful
  | call what next ih =>
    exact ⟨lawful.1, lawful_place (.calling what next) lawful.2 others⟩
  | lock next ih =>
    rw [goOn]
    split
    · exact ih { scene with holder? := some task } others lawful.1
    · exact ⟨lawful.2.1, lawful_place (.queued next) lawful.2.2 others⟩
  | unlock next ih => exact ih { scene with holder? := none } others lawful

theorem Follows.enter (follows : scene.Follows law programs) (program : π)
    (lawful : ∀ state, law.inv state →
      (activity program).Lawful law (some program) none state state) :
    AreLawful law (programs ++ [program]) (scene.stages ++ [Stage.queued (activity program)]) := by
  intro task stage found
  by_cases new : task = scene.stages.length
  · subst new
    rw [List.getElem?_concat_length, Option.some.injEq] at found
    subst found
    rw [← follows.length, List.getElem?_concat_length]
    exact lawful
  · have before := getElem?_of_append_ne new found
    obtain ⟨inside, -⟩ := List.getElem?_eq_some_iff.1 before
    rw [List.getElem?_append_left (follows.length ▸ inside)]
    exact follows.stages task stage before

theorem Follows.moved {newcomers : List π} {task? : Option Nat}
    (follows : scene.Follows law programs)
    (lawful : ∀ program state, law.inv state →
      (activity program).Lawful law (some program) none state state)
    (moved : scene.Moved activity newcomers task? cue? after) :
    law.step (task?.bind ((programs ++ newcomers)[·]?)) cue? scene.state after.state ∧
      after.Follows law (programs ++ newcomers) := by
  have ends {task : Nat} {programs : List π} {rest : Activity I σ α} {scene : Scene I σ α} {start : σ}
      (inv : law.inv start) (length : programs.length = scene.stages.length)
      (others : AreLawful law programs scene.stages)
      (lawful : rest.Lawful law programs[task]? cue? start scene.state) :
      law.step programs[task]? cue? start (scene.goOn task rest).state ∧
        (scene.goOn task rest).Follows law programs := by
    obtain ⟨allowed, stages⟩ := lawful_goOn rest scene others lawful
    exact ⟨allowed, law.inv_of_step allowed inv, length.trans (length_goOn rest scene).symm, stages⟩
  cases moved with
  | idle =>
    rw [List.append_nil]
    exact ⟨law.step_refl _ _, follows⟩
  | enter program =>
    refine ends follows.inv (by simp [follows.length]) (follows.enter program (lawful program)) ?_
    rw [← follows.length, List.getElem?_concat_length]
    exact lawful program _ follows.inv
  | answer found answer =>
    rw [List.append_nil]
    exact ends follows.inv follows.length follows.stages
      (follows.stages _ _ found answer _ follows.inv)
  | grant found rest =>
    rw [List.append_nil]
    exact ends follows.inv follows.length follows.stages (follows.stages _ _ found _ follows.inv)

theorem Follows.move (follows : scene.Follows law programs)
    (lawful : ∀ program state, law.inv state →
      (activity program).Lawful law (some program) none state state) (step : Move I π) :
    law.step ((scene.task? step).bind ((programs ++ entered [step])[·]?)) (scene.cue? step) scene.state
        (scene.move activity step).state ∧
      (scene.move activity step).Follows law (programs ++ entered [step]) :=
  follows.moved lawful (moved_move activity scene step)

section Heard

variable {reads : Occurrence I → Option β}

theorem heard_goOn (deaf : ∀ what, reads (.asked what) = none) (activity : Activity I σ α)
    (scene : Scene I σ α) : (scene.goOn task activity).heard reads = scene.heard reads := by
  induction activity generalizing scene with
  | done result => rfl
  | look next ih => exact ih _ scene
  | write state next ih => exact ih { scene with state }
  | call what next ih => simp [goOn, heard, place, record, deaf]
  | lock next ih =>
    rw [goOn]
    split
    · exact ih { scene with holder? := some task }
    · rfl
  | unlock next ih => exact ih { scene with holder? := none }

theorem heard_move (deaf : ∀ what, reads (.asked what) = none) (step : Move I π) :
    (scene.move activity step).heard reads =
      scene.heard reads ++ ((scene.cue? step).bind reads).toList := by
  have moved := moved_move activity scene step
  generalize entered [step] = newcomers, scene.task? step = task?, scene.cue? step = cue?,
    scene.move activity step = after at moved ⊢
  cases moved with
  | idle => exact (List.append_nil _).symm
  | enter program => exact (heard_goOn deaf _ _).trans (List.append_nil _).symm
  | answer found answer =>
    rw [heard_goOn deaf]
    simp only [heard, record, List.filterMap_append, Option.bind_some]
    cases read : reads (.answered _ answer) <;> simp [read]
  | grant found rest => exact (heard_goOn deaf _ _).trans (List.append_nil _).symm

end Heard

end Scene

end ApplianceCloud
