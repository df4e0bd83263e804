import ApplianceCloud.Proofs.Activity
import ApplianceCloud.Proofs.Interleaving.Conduct
import ApplianceCloud.Proofs.Interleaving.Surroundings

namespace ApplianceCloud

variable {I : Interface} {σ τ ω α β γ π : Type}

def Stage.isOver : Stage I σ α → Bool
  | .ended _ => true
  | _ => false

namespace Scene

open Activity

def cancelled : Failure := .foreign "CancelledError" ""

def cancel (group : Nat → Bool) (scene : Scene I σ α) : Scene I σ α :=
  { scene with
    stages := scene.stages.mapIdx fun task stage =>
      if group task && !stage.isOver then .ended (.error cancelled) else stage
    holder? := scene.holder?.filter fun task => !group task
    waiting := scene.waiting.filter fun task => !group task }

variable {scene : Scene I σ α} {task : Nat} {group : Nat → Bool}

theorem getElem?_cancel {stage : Stage I σ α}
    (found : (scene.cancel group).stages[task]? = some stage) :
    scene.stages[task]? = some stage ∧ (group task = true → stage.isOver = true) ∨
      group task = true ∧ stage = .ended (.error cancelled) := by
  simp only [cancel, List.getElem?_mapIdx, Option.map_eq_some_iff] at found
  obtain ⟨before, found, made⟩ := found
  split at made
  · next leaves =>
    simp only [Bool.and_eq_true] at leaves
    exact .inr ⟨leaves.1, made.symm⟩
  · next stays =>
    subst made
    exact .inl ⟨found, fun member => by simpa [member] using stays⟩

structure Orderly (scene : Scene I σ α) : Prop where
  nodup : scene.waiting.Nodup
  queued : ∀ task ∈ scene.waiting, ∃ next, scene.stages[task]? = some (.queued next)

theorem Orderly.place (orderly : scene.Orderly) (absent : task ∉ scene.waiting)
    (stage : Stage I σ α) : (scene.place task stage).Orderly where
  nodup := orderly.nodup
  queued other member := by
    have ne : other ≠ task := fun same => absent (same ▸ member)
    rw [getElem?_place_ne ne]
    exact orderly.queued other member

theorem Orderly.queue (orderly : scene.Orderly) (absent : task ∉ scene.waiting)
    (inside : task < scene.stages.length) (next : Activity I σ α) :
    { scene.place task (.queued next) with waiting := scene.waiting ++ [task] }.Orderly where
  nodup := by
    rw [List.nodup_append]
    refine ⟨orderly.nodup, by simp, fun other member last isTask => ?_⟩
    rw [List.mem_singleton.1 isTask]
    exact fun same => absent (same ▸ member)
  queued other member := by
    rcases List.mem_append.1 member with before | new
    · exact (orderly.place absent _).queued other before
    · rw [List.mem_singleton.1 new]
      exact ⟨next, getElem?_place_self inside⟩

theorem orderly_goOn (activity : Activity I σ α) (scene : Scene I σ α) (orderly : scene.Orderly)
    (absent : task ∉ scene.waiting) (inside : task < scene.stages.length) :
    (scene.goOn task activity).Orderly := by
  induction activity generalizing scene with
  | done result => exact orderly.place absent _
  | look next ih => exact ih _ scene orderly absent inside
  | write state next ih =>
    exact ih { scene with state } ⟨orderly.nodup, orderly.queued⟩ absent inside
  | call what next ih =>
    have recorded : (scene.record task (.asked what)).Orderly := ⟨orderly.nodup, orderly.queued⟩
    exact recorded.place absent _
  | lock next ih =>
    rw [goOn]
    split
    · exact ih { scene with holder? := some task } ⟨orderly.nodup, orderly.queued⟩ absent inside
    · exact orderly.queue absent inside next
  | unlock next ih =>
    exact ih { scene with holder? := none } ⟨orderly.nodup, orderly.queued⟩ absent inside

theorem Orderly.inside (orderly : scene.Orderly) (member : task ∈ scene.waiting) :
    task < scene.stages.length := by
  obtain ⟨next, found⟩ := orderly.queued task member
  exact (List.getElem?_eq_some_iff.1 found).1

theorem Orderly.move {activity : π → Activity I σ α} (orderly : scene.Orderly) (step : Move I π) :
    (scene.move activity step).Orderly := by
  cases step with
  | enter program =>
    refine orderly_goOn _ _ ⟨orderly.nodup, fun other member => ?_⟩
      (fun member => Nat.lt_irrefl _ (orderly.inside member)) (by simp)
    obtain ⟨next, found⟩ := orderly.queued other member
    exact ⟨next, (List.getElem?_append_left (orderly.inside member)).trans found⟩
  | answer task reply =>
    simp only [Scene.move]
    split
    · next what next found =>
      have inside := (List.getElem?_eq_some_iff.1 found).1
      refine orderly_goOn _ _ ⟨orderly.nodup, orderly.queued⟩ (fun member => ?_) inside
      obtain ⟨_, waits⟩ := orderly.queued task member
      cases found.symm.trans waits
    · exact orderly
  | grant =>
    simp only [Scene.move]
    split
    · next task rest none first =>
      split
      · next next found =>
        have inside := (List.getElem?_eq_some_iff.1 found).1
        have nodup := orderly.nodup
        rw [first, List.nodup_cons] at nodup
        refine orderly_goOn next _ ⟨nodup.2, fun other member => ?_⟩ nodup.1 inside
        exact orderly.queued other (first ▸ .tail _ member)
      · exact orderly
    · exact orderly

theorem Orderly.cancel (orderly : scene.Orderly) (group : Nat → Bool) :
    (scene.cancel group).Orderly where
  nodup := orderly.nodup.filter _
  queued task member := by
    obtain ⟨waits, stays⟩ := List.mem_filter.1 member
    obtain ⟨next, found⟩ := orderly.queued task waits
    refine ⟨next, ?_⟩
    have loose : group task = false := by simpa using stays
    simp [Scene.cancel, List.getElem?_mapIdx, found, loose]

section Settled

variable {d : Discipline σ} {post : Except Failure α → σ → Prop}

theorem IsSettled.move {activity : π → Activity I σ α} (settled : scene.IsSettled d post)
    (keeps : ∀ program state, d.inv state → (activity program).Keeps d (loose post) false state)
    (step : Move I π) : (scene.move activity step).IsSettled d post := by
  cases step with
  | enter program => exact settled.enter _ (keeps program _ settled.inv)
  | answer task reply =>
    simp only [Scene.move]
    split
    · next what next found => exact settled.answer found (reply what)
    · exact settled
  | grant =>
    simp only [Scene.move]
    split
    · next none _ =>
      split
      · next next found => exact settled.grant none found
      · exact settled
    · exact settled

theorem holds_cancel : (scene.cancel group).holds task = (scene.holds task && !group task) := by
  cases holder : scene.holder? with
  | none => simp [Scene.holds, cancel, holder]
  | some other =>
    by_cases same : other = task
    · cases member : group task <;> simp [Scene.holds, cancel, holder, same, member]
    · cases member : group other <;> simp [Scene.holds, cancel, holder, same]

theorem IsSettled.cancel (settled : scene.IsSettled d post)
    (ends : ∀ state, d.inv state → post (.error cancelled) state) (group : Nat → Bool) :
    (scene.cancel group).IsSettled d post where
  inv := settled.inv
  inside task holds := by
    rw [holds_cancel, Bool.and_eq_true] at holds
    simpa [Scene.cancel] using settled.inside task holds.1
  stages task stage _ found := by
    rw [holds_cancel]
    rcases getElem?_cancel found with ⟨found, finished⟩ | ⟨member, rfl⟩
    · have before := settled.stages task stage trivial found
      cases member : group task with
      | false =>
        rw [Bool.not_false, Bool.and_true]
        exact before
      | true =>
        cases stage with
        | ended result => exact ⟨Bool.and_false _, before.2⟩
        | calling | queued => cases finished member
    · exact ⟨by simp [member], scene.state, settled.inv, ends _ settled.inv⟩

/-- Once all that is in progress is cancelled, everything is over and the lock is free. -/
theorem cancel_quiet (settled : scene.IsSettled d post) (orderly : scene.Orderly)
    (covers : ∀ task stage, scene.stages[task]? = some stage → stage.isOver = false →
      group task = true) :
    (scene.cancel group).holder? = none ∧ (scene.cancel group).waiting = [] ∧
      ∀ stage ∈ (scene.cancel group).stages, stage.isOver = true := by
  refine ⟨?_, ?_, fun stage member => ?_⟩
  · cases holder : scene.holder? with
    | none => simp [cancel, holder]
    | some task =>
      have holds : scene.holds task = true := by simp [Scene.holds, holder]
      have inside := settled.inside task holds
      have found : scene.stages[task]? = some scene.stages[task] := List.getElem?_eq_getElem inside
      have waits : scene.stages[task].isOver = false := by
        have kept := settled.stages task _ trivial found
        cases stage : scene.stages[task] with
        | ended result =>
          rw [stage] at kept
          cases holds.symm.trans kept.1
        | calling | queued => rfl
      simp [cancel, holder, covers task _ found waits]
  · refine List.filter_eq_nil_iff.2 fun task member => ?_
    obtain ⟨next, found⟩ := orderly.queued task member
    simpa using covers task _ found rfl
  · obtain ⟨task, found⟩ := List.getElem?_of_mem member
    rcases getElem?_cancel found with ⟨found, finished⟩ | ⟨-, rfl⟩
    · cases waits : stage.isOver with
      | true => rfl
      | false => exact waits.symm.trans (finished (covers task stage found waits))
    · rfl

end Settled

def exchange (task : Nat) (reply : Replies I) (calls : List I.Call) : Trace I :=
  calls.flatMap fun what => [(task, .asked what), (task, .answered what (reply what))]

theorem answers_over {activity : π → Activity I σ α} {stage : Stage I σ α} (reply : Replies I)
    (found : scene.stages[task]? = some stage) (finished : stage.isOver = true) (count : Nat) :
    (List.replicate count (Move.answer task reply)).foldl (move activity) scene = scene := by
  have still : scene.move activity (.answer task reply) = scene := by
    cases stage with
    | ended result => simp [move, found]
    | calling | queued => cases finished
  induction count with
  | zero => rfl
  | succ count ih => rw [List.replicate_succ, List.foldl_cons, still, ih]

/-- A task that has the lock to itself ends as it does alone, once its calls are answered. -/
theorem answers_goOn (program : π → Activity I σ α) {c : Conduct I σ} (reply : Replies I)
    (activity : Activity I σ α) {holding : Bool} {seen : σ} (scene : Scene I σ α)
    (inside : task < scene.stages.length) (waiting : scene.waiting = [])
    (holder : scene.holder? = if holding then some task else none)
    (inv : c.inv scene.state) (conforms : activity.ConformsFrom c false holding seen scene.state)
    (count : Nat) :
    let ending := activity.among (.alone fun what _ => (reply what, ())) scene.state ()
    ending.calls.length ≤ count →
    (List.replicate count (Move.answer task reply)).foldl (move program) (scene.goOn task activity) =
      { state := ending.state
        stages := scene.stages.set task (.ended ending.result)
        trace := scene.trace ++ exchange task reply ending.calls } := by
  induction activity generalizing holding seen scene count with
  | done result =>
    intro ending enough
    obtain rfl : holding = false := conforms
    have found : (scene.place task (.ended result)).stages[task]? = some (.ended result) :=
      getElem?_place_self inside
    rw [goOn, answers_over reply found rfl]
    simp [Scene.place, ending, among, exchange, waiting, holder]
  | look next ih => exact ih _ scene inside waiting holder inv conforms count
  | write after next ih =>
    exact ih { scene with state := after } inside waiting holder (c.inv_of_writes conforms.1 inv)
      conforms.2 count
  | call what next ih =>
    intro ending enough
    let asked := (scene.record task (.asked what)).place task (.calling what next)
    let answered := asked.record task (.answered what (reply what))
    have found : asked.stages[task]? = some (.calling what next) := getElem?_place_self inside
    have first : asked.move program (.answer task reply) = answered.goOn task (next (reply what)) := by
      simp only [move, found]
      rfl
    obtain ⟨rest, rfl⟩ : ∃ rest, count = rest + 1 := by
      have some : 0 < ending.calls.length := by simp [ending, among]
      exact ⟨count - 1, by omega⟩
    let afterwards :=
      (next (reply what)).among (.alone fun what _ => (reply what, ())) scene.state ()
    have calls : ending.calls = what :: afterwards.calls := rfl
    have later := ih (reply what) answered (by simpa [answered, asked, Scene.place, Scene.record])
      waiting holder inv (conforms.2 (reply what) scene.state inv) rest
      (by rw [calls, List.length_cons] at enough; exact Nat.le_of_succ_le_succ enough)
    rw [List.replicate_succ, List.foldl_cons]
    change (List.replicate rest _).foldl _ (asked.move program (.answer task reply)) = _
    rw [first, later, calls]
    simp only [answered, asked, Scene.place, Scene.record, exchange, List.set_set, List.flatMap_cons,
      List.append_assoc, List.cons_append, List.nil_append]
    rfl
  | lock next ih =>
    cases holding with
    | true => exact conforms.elim
    | false =>
      have free : scene.isFree = true := by simp_all [isFree]
      rw [goOn, if_pos free]
      exact ih { scene with holder? := some task } inside waiting rfl inv (conforms scene.state inv)
        count
  | unlock next ih =>
    cases holding with
    | true => exact ih { scene with holder? := none } inside waiting rfl inv conforms count
    | false => exact conforms.elim

theorem enter_alone (activity : π → Activity I σ α) {c : Conduct I σ} (reply : Replies I)
    (scene : Scene I σ α) (free : scene.holder? = none) (waiting : scene.waiting = [])
    (inv : c.inv scene.state) {program : π} (conforms : (activity program).Conforms c false)
    (count : Nat) :
    let task := scene.stages.length
    let ending := (activity program).among (.alone fun what _ => (reply what, ())) scene.state ()
    ending.calls.length ≤ count →
    (Move.enter program :: List.replicate count (.answer task reply)).foldl (move activity) scene =
      { state := ending.state
        stages := scene.stages ++ [.ended ending.result]
        trace := scene.trace ++ exchange task reply ending.calls } := by
  intro task ending enough
  let entered : Scene I σ α :=
    { scene with stages := scene.stages ++ [Stage.queued (activity program)] }
  have holder : entered.holder? = if false = true then some task else none := free
  have inside : task < entered.stages.length := by simp [entered, task]
  have ends := answers_goOn activity reply (activity program) entered inside waiting holder inv
    (conforms scene.state scene.state inv) count enough
  have stages : entered.stages.set task (.ended ending.result) =
      scene.stages ++ [.ended ending.result] := by
    simp [entered, task]
  rw [← stages]
  exact ends

end Scene

namespace Activity

theorem among_of_alone (answer : (what : I.Call) → ω → Except Failure (I.Answer what) × ω)
    (activity : Activity I τ α) (state : τ) (other : σ) (world : ω) :
    let ending := activity.among (.alone answer) state world
    (activity.alone state : Activity I σ _).among (.alone answer) other world =
      { ending with result := .ok (ending.result, ending.state), state := other } := by
  induction activity generalizing state world with
  | done result => rfl
  | look next ih => exact ih state state world
  | write after next ih => exact ih after world
  | call what next ih => exact congrArg (Ending.behind [what]) (ih _ state _)
  | lock next ih => exact ih state world
  | unlock next ih => exact ih state world

end Activity

end ApplianceCloud
