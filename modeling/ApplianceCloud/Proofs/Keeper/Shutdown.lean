import ApplianceCloud.Proofs.Interleaving.Cancellation
import ApplianceCloud.Proofs.Keeper.Conduct

namespace ApplianceCloud

open Activity

namespace Watch

def stopRequest (token : Token) (url device workId : String) : Request where
  method := .post
  url
  headers := Request.firstHeaders token
  payload? := some [("lgedmRoot", .object (workPayload "Stop" device workId))]

def stopRequests (token : Token) (device workId : String) : List Request :=
  match Request.addressBelow (token.root .first) workPath with
  | .ok url => [stopRequest token url device workId]
  | .error _ => []

variable {σ τ α : Type}

def closeWith (token : Token) (device workId : String) : Cloud σ Unit :=
  match Request.addressBelow (token.root .first) workPath with
  | .error failure => done (.error failure)
  | .ok url => call (I := cloud) (.request (stopRequest token url device workId)) fun reply =>
      done ((reply >>= Envelope.ofReply .first url).map fun _ => ())

theorem closeWork_eq (device workId : String) : (closeWork device workId : Cloud σ Unit) =
    call (I := cloud) .token fun
      | .error failure => done (.error failure)
      | .ok token => closeWith token device workId := by
  refine congrArg (call (I := cloud) CloudCall.token) (funext fun answer => ?_)
  cases answer with
  | error failure => rfl
  | ok token =>
    change ((done (Request.addressBelow (token.root .first) workPath)).bind _).bind _ = _
    dsimp only [closeWith]
    cases Request.addressBelow (token.root .first) workPath with
    | error failure => rfl
    | ok url =>
      refine congrArg (call (I := cloud) (.request (stopRequest token url device workId)))
        (funext fun reply => ?_)
      cases reply with
      | error failure => rfl
      | ok reply =>
        change Activity.bind (done (Envelope.ofReply .first url reply)) _ =
          done (Except.map _ (Envelope.ofReply .first url reply))
        cases Envelope.ofReply .first url reply <;> rfl

theorem alone_closeWork {device workId : String} {state : τ} {next : Except Failure Unit → Cloud τ α} :
    (((closeWork device workId : Cloud τ Unit).attempt.bind next).alone state : Cloud σ _) =
      (closeWork device workId : Cloud σ Unit).attempt.bind
        fun answer => (next answer).alone state := by
  rw [closeWork_eq, closeWork_eq]
  refine congrArg (call (I := cloud) CloudCall.token) (funext fun answer => ?_)
  cases answer with
  | error failure => rfl
  | ok token =>
    dsimp only [attempt, Activity.bind, closeWith]
    cases Request.addressBelow (token.root .first) workPath <;> rfl

end Watch

namespace Keeper

variable {σ : Type} {device : ListedDevice} {generation? : Option Generation} {keeper : Keeper}

def openWork? (keeper : Keeper) : Option String :=
  if keeper.generation? = some .first ∧ keeper.session.workId ≠ "" then some keeper.session.workId
  else none

def unwatched (keeper : Keeper) : Keeper :=
  { keeper with
    session := if keeper.generation? = some .first then .fresh keeper.settings else keeper.session }

def closed (keeper : Keeper) : Keeper :=
  { keeper.unwatched with queue := { device := keeper.device.id }, isShutDown := true }

def closing (keeper : Keeper) : Cloud σ Unit :=
  match keeper.openWork? with
  | some workId => Watch.closeWork keeper.device.id workId
  | none => pure ()

theorem stopWatching_alone (keeper : Keeper) :
    (stopWatching.alone keeper : Cloud σ _) =
      (closing keeper : Cloud σ Unit).attempt.bind fun _ => done (.ok (.ok (), keeper.unwatched)) := by
  obtain ⟨device, generation?, capability?, status?, availability, session, queue, failure?,
    isShutDown, requests⟩ := keeper
  obtain ⟨phase, workId, retriesLeft⟩ := session
  cases generation? with
  | none => rfl
  | some generation =>
    cases generation with
    | second => rfl
    | first =>
      by_cases unnamed : workId = ""
      · subst unnamed
        rfl
      · unfold closing
        rw [openWork?, if_pos ⟨rfl, unnamed⟩]
        change alone (through (Watch.perform device.id capability?)
          (onPart (fun keeper : Keeper => keeper.session)
            (fun session keeper => { keeper with session })
            (Activity.bind (attempt (Activity.bind (Watch.close workId)
              fun _ => Activity.modify fun _ => .fresh (settingsOf device)))
              fun result => unlock (done result)))) _ = _
        rw [Watch.close, if_neg unnamed]
        exact Watch.alone_closeWork.trans rfl

theorem shutdown_alone (sound : keeper.Sound device generation?) :
    (Keeper.shutdown.alone keeper : Cloud σ _) =
      (closing keeper : Cloud σ Unit).attempt.bind fun _ => done (.ok (.ok (), keeper.closed)) := by
  have stopped := sound.stop_eq
  obtain rfl := sound.device
  change alone (Activity.bind (done keeper.queue.stop) _) keeper = _
  rw [stopped]
  refine (alone_bind stopWatching _ { keeper with queue := { device := keeper.device.id } }).trans ?_
  rw [stopWatching_alone, bind_assoc]
  rfl

def closingCalls (keeper : Keeper) (token? : Except Failure Token) : List cloud.Call :=
  match keeper.openWork? with
  | none => []
  | some workId => CloudCall.token :: match token? with
      | .ok token => (Watch.stopRequests token keeper.device.id workId).map .request
      | .error _ => []

theorem length_closingCalls (keeper : Keeper) (token? : Except Failure Token) :
    (keeper.closingCalls token?).length ≤ 2 := by
  unfold closingCalls
  cases keeper.openWork? with
  | none => exact Nat.zero_le 2
  | some workId =>
    cases token? with
    | error failure => exact Nat.le_succ 1
    | ok token =>
      unfold Watch.stopRequests
      dsimp only
      cases Request.addressBelow (token.root .first) Watch.workPath with
      | error failure => exact Nat.le_succ 1
      | ok url => exact Nat.le_refl 2

theorem closing_among {α σ : Type} (reply : Replies cloud) (state : σ) (result : Except Failure α) :
    ((closing keeper : Cloud σ Unit).attempt.bind fun _ => done result).among
        (.alone fun what _ => (reply what, ())) state () =
      { result, state, world := (), calls := keeper.closingCalls (reply CloudCall.token) } := by
  unfold closing closingCalls
  cases keeper.openWork? with
  | none => rfl
  | some workId =>
    dsimp only
    rw [Watch.closeWork_eq]
    change Ending.behind (I := cloud) [CloudCall.token] (among _ (Activity.bind (attempt
      (match reply CloudCall.token with
      | .error failure => done (.error failure)
      | .ok token => _)) _) state ()) = _
    cases reply CloudCall.token with
    | error failure => rfl
    | ok token =>
      unfold Watch.stopRequests
      dsimp only [Watch.closeWith]
      cases Request.addressBelow (token.root .first) Watch.workPath <;> rfl

theorem shutdown_among (sound : keeper.Sound device generation?) (reply : Replies cloud) :
    Keeper.shutdown.among (.alone fun what _ => (reply what, ())) keeper () =
      { result := .ok (), state := keeper.closed, world := ()
        calls := keeper.closingCalls (reply CloudCall.token) } := by
  have alone := among_of_alone (fun what (_ : Unit) => (reply what, ())) Keeper.shutdown keeper () ()
  rw [shutdown_alone sound, closing_among] at alone
  generalize Keeper.shutdown.among (.alone fun what _ => (reply what, ())) keeper () = ending
    at alone ⊢
  obtain ⟨result, state, world, calls⟩ := ending
  simp only [Ending.mk.injEq, Except.ok.injEq, Prod.mk.injEq] at alone ⊢
  obtain ⟨⟨ended, left⟩, -, -, made⟩ := alone
  exact ⟨ended.symm, left.symm, trivial, made.symm⟩

def Errand.isWork : Errand → Bool
  | .duty .work => true
  | _ => false

def Errand.isShutdown : Errand → Bool
  | .shutdown => true
  | _ => false

end Keeper

structure Service where
  scene : Scene cloud Keeper Unit
  errands : List Keeper.Errand := []

namespace Service

open Keeper

def isWork (service : Service) (task : Nat) : Bool := service.errands[task]?.any Errand.isWork

def move (service : Service) : Move cloud Errand → Service
  | .enter errand =>
      let scene := if errand.isShutdown then service.scene.cancel service.isWork else service.scene
      { scene := scene.move Errand.activity (.enter errand), errands := service.errands ++ [errand] }
  | step => { service with scene := service.scene.move Errand.activity step }

def play (device : ListedDevice) (generation? : Option Generation)
    (moves : List (Move cloud Errand)) : Service :=
  moves.foldl move { scene := { state := .fresh device generation? } }

/-- Whether nothing is in progress but the work on a command. -/
def IsCalm (service : Service) : Prop :=
  ∀ task stage, service.scene.stages[task]? = some stage → stage.isOver = false →
    service.isWork task = true

instance (service : Service) : Decidable service.IsCalm :=
  decidable_of_iff (∀ entry ∈ service.scene.stages.zipIdx, entry.1.isOver = false →
    service.isWork entry.2 = true)
    ⟨fun calm task stage found => calm (stage, task) (List.mem_zipIdx_iff_getElem?.2 found),
      fun calm entry member => calm entry.2 entry.1 (List.mem_zipIdx_iff_getElem?.1 member)⟩

variable {device : ListedDevice} {generation? : Option Generation} {scene : Scene cloud Keeper Unit}

structure Kept (device : ListedDevice) (generation? : Option Generation)
    (scene : Scene cloud Keeper Unit) : Prop where
  settled : scene.IsSettled (conduct device generation? True True).discipline fun _ _ => True
  orderly : scene.Orderly

theorem Kept.move (kept : Kept device generation? scene) (step : Move cloud Errand) :
    Kept device generation? (scene.move Errand.activity step) := by
  refine ⟨kept.settled.move (fun errand keeper sound => ?_) step, kept.orderly.move step⟩
  exact keeps_of_conformsFrom (errand.conducted_activity keeper keeper sound)

theorem Kept.cancel (kept : Kept device generation? scene) (group : Nat → Bool) :
    Kept device generation? (scene.cancel group) :=
  ⟨kept.settled.cancel (fun _ _ => trivial) group, kept.orderly.cancel group⟩

theorem kept_play (device : ListedDevice) (generation? : Option Generation)
    (moves : List (Move cloud Errand)) :
    Kept device generation? (play device generation? moves).scene := by
  refine List.foldlRecOn (motive := fun service => Kept device generation? service.scene) moves move
    ?_ ?_
  · refine ⟨⟨sound_fresh device generation?, fun _ holds => ?_, fun _ _ _ found => ?_⟩,
      List.nodup_nil, fun _ member => absurd member List.not_mem_nil⟩
    · simp [Scene.holds] at holds
    · simp at found
  · intro service kept step _
    cases step with
    | enter errand =>
      unfold Service.move
      dsimp only
      split
      · exact (kept.cancel _).move (.enter errand)
      · exact kept.move (.enter errand)
    | answer task reply => exact kept.move (.answer task reply)
    | grant => exact kept.move .grant

theorem sound_of_play (device : ListedDevice) (generation? : Option Generation)
    (moves : List (Move cloud Errand)) :
    (play device generation? moves).scene.state.Sound device generation? :=
  (kept_play device generation? moves).settled.inv

/-- A shutdown with no refresh in progress comes to its end, closes the keeper, and leaves nothing in
progress. -/
theorem closed_play {moves : List (Move cloud Errand)}
    (calm : (play device generation? moves).IsCalm) (reply : Replies cloud) :
    let before := (play device generation? moves).scene
    let task := before.stages.length
    let after := (play device generation?
      (moves ++ [.enter .shutdown, .answer task reply, .answer task reply])).scene
    after.stages[task]? = some (.ended (.ok ())) ∧
    (∀ stage ∈ after.stages, stage.isOver = true) ∧
    after.state = before.state.closed ∧
    after.trace = before.trace ++
      Scene.exchange task reply (before.state.closingCalls (reply CloudCall.token)) := by
  intro before task after
  have kept := kept_play device generation? moves
  obtain ⟨free, none, finished⟩ := Scene.cancel_quiet kept.settled kept.orderly calm
  let quiet := before.cancel (play device generation? moves).isWork
  have length : quiet.stages.length = task := List.length_mapIdx
  have sound : before.state.Sound device generation? := kept.settled.inv
  let activity : Keeping Unit := Errand.activity .shutdown
  have alone : activity.among (.alone fun what _ => (reply what, ())) quiet.state () = _ :=
    shutdown_among sound reply
  have enough : (activity.among (.alone fun what _ => (reply what, ())) quiet.state ()).calls.length ≤
      2 := by
    rw [alone]
    exact length_closingCalls _ _
  have ends := Scene.enter_alone Errand.activity (c := conduct device generation? True True) reply quiet
    free none sound (Errand.conducted_activity .shutdown) 2 enough
  rw [length, alone] at ends
  have played : after = (Move.enter Errand.shutdown :: List.replicate 2 (.answer task reply)).foldl
      (Scene.move Errand.activity) quiet := by
    change (List.foldl Service.move _ _).scene = _
    rw [List.foldl_append]
    rfl
  rw [played, ends]
  refine ⟨?_, fun stage member => ?_, rfl, rfl⟩
  · rw [← length]
    exact List.getElem?_concat_length
  · rcases List.mem_append.1 member with before | new
    · exact finished stage before
    · rw [List.mem_singleton.1 new]
      rfl

end Service

end ApplianceCloud
