import ApplianceCloud.Activity

/-!
# Interleavings

Several activities on one state, with one lock between them. An activity gives way to others only
where it waits: for the answer to a call, or for the lock. The lock goes to the activities that wait
for it in the order in which they asked. A `Scene` is what can be seen at such a moment, and `play`
carries out a list of moves, which may come in any order: a new activity begins, a call is answered,
the lock is handed on.
-/

namespace ApplianceCloud

inductive Occurrence (I : Interface) where
  | asked (what : I.Call)
  | answered (what : I.Call) (answer : Except Failure (I.Answer what))

abbrev Trace (I : Interface) := List (Nat × Occurrence I)

abbrev Replies (I : Interface) := (what : I.Call) → Except Failure (I.Answer what)

inductive Stage (I : Interface) (σ α : Type) where
  | calling (what : I.Call) (next : Except Failure (I.Answer what) → Activity I σ α)
  | queued (next : Activity I σ α)
  | ended (result : Except Failure α)

structure Scene (I : Interface) (σ α : Type) where
  state : σ
  stages : List (Stage I σ α) := []
  holder? : Option Nat := none
  waiting : List Nat := []
  trace : Trace I := []

inductive Move (I : Interface) (π : Type) where
  | enter (program : π)
  | answer (task : Nat) (reply : Replies I)
  | grant

namespace Scene

variable {I : Interface} {σ α π : Type}

def isFree (scene : Scene I σ α) : Bool := scene.holder?.isNone && scene.waiting.isEmpty

def place (scene : Scene I σ α) (task : Nat) (stage : Stage I σ α) : Scene I σ α :=
  { scene with stages := scene.stages.set task stage }

def record (scene : Scene I σ α) (task : Nat) (occurrence : Occurrence I) : Scene I σ α :=
  { scene with trace := scene.trace ++ [(task, occurrence)] }

def goOn (task : Nat) : Activity I σ α → Scene I σ α → Scene I σ α
  | .done result, scene => scene.place task (.ended result)
  | .look next, scene => goOn task (next scene.state) scene
  | .write state next, scene => goOn task next { scene with state }
  | .call what next, scene => (scene.record task (.asked what)).place task (.calling what next)
  | .lock next, scene =>
      if scene.isFree then goOn task next { scene with holder? := some task }
      else { scene.place task (.queued next) with waiting := scene.waiting ++ [task] }
  | .unlock next, scene => goOn task next { scene with holder? := none }

def move (activity : π → Activity I σ α) (scene : Scene I σ α) : Move I π → Scene I σ α
  | .enter program =>
      let task := scene.stages.length
      goOn task (activity program)
        { scene with stages := scene.stages ++ [Stage.queued (activity program)] }
  | .answer task reply =>
      match scene.stages[task]? with
      | some (.calling what next) =>
          (scene.record task (.answered what (reply what))).goOn task (next (reply what))
      | _ => scene
  | .grant =>
      match scene.holder?, scene.waiting with
      | none, task :: rest =>
          match scene.stages[task]? with
          | some (.queued next) => goOn task next { scene with holder? := some task, waiting := rest }
          | _ => scene
      | _, _ => scene

def play (activity : π → Activity I σ α) (start : σ) (moves : List (Move I π)) : Scene I σ α :=
  moves.foldl (move activity) { state := start }

variable {task : Nat}

theorem getElem?_place_ne {scene : Scene I σ α} {other : Nat} {stage : Stage I σ α}
    (ne : other ≠ task) : (scene.place task stage).stages[other]? = scene.stages[other]? :=
  List.getElem?_set_ne ne.symm

theorem getElem?_place_self {scene : Scene I σ α} {stage : Stage I σ α}
    (inside : task < scene.stages.length) : (scene.place task stage).stages[task]? = some stage :=
  List.getElem?_set_self inside

theorem getElem?_of_append_ne {stages : List (Stage I σ α)} {entered stage : Stage I σ α}
    (ne : task ≠ stages.length) (found : (stages ++ [entered])[task]? = some stage) :
    stages[task]? = some stage := by
  have inside := (List.getElem?_eq_some_iff.1 found).1
  rw [List.length_append, List.length_singleton] at inside
  rwa [List.getElem?_append_left (by omega)] at found

theorem play_induction {holds : Scene I σ α → Prop} {activity : π → Activity I σ α} {start : σ}
    (initially : holds { state := start })
    (enter : ∀ scene program, holds scene → holds (goOn scene.stages.length (activity program)
      { scene with stages := scene.stages ++ [Stage.queued (activity program)] }))
    (answer : ∀ scene task what next answer, holds scene →
      scene.stages[task]? = some (.calling what next) →
      holds ((scene.record task (.answered what answer)).goOn task (next answer)))
    (grant : ∀ scene task rest next, holds scene → scene.holder? = none →
      scene.stages[task]? = some (.queued next) →
      holds (goOn task next { scene with holder? := some task, waiting := rest }))
    (moves : List (Move I π)) : holds (play activity start moves) := by
  unfold play
  generalize ({ state := start } : Scene I σ α) = scene at initially
  induction moves generalizing scene with
  | nil => exact initially
  | cons step rest ih =>
    apply ih
    cases step with
    | enter program => exact enter scene program initially
    | answer task reply =>
      simp only [move]
      split
      · next what next found => exact answer scene task what next _ initially found
      · exact initially
    | grant =>
      simp only [move]
      split
      · next task rest none _ =>
        split
        · next next found => exact grant scene task rest next initially none found
        · exact initially
      · exact initially

end Scene

end ApplianceCloud
