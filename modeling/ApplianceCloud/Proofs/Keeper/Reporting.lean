import ApplianceCloud.Proofs.Activity
import ApplianceCloud.Proofs.Keeper.Conduct
import ApplianceCloud.Proofs.Queue.Capacity
import Mathlib.Logic.Relation

namespace ApplianceCloud.Keeper

open Activity

variable {keeper before after : Keeper} {device : ListedDevice} {generation? : Option Generation}

abbrev Served : Keeper → Keeper → Prop := Relation.ReflTransGen (Write True False)

theorem Served.sound (served : keeper.Served after) (sound : keeper.Sound device generation?) :
    after.Sound device generation? := by
  induction served with
  | refl => exact sound
  | tail _ write ih => exact write.sound ih

theorem Write.present (write : Write True False keeper after)
    (present : keeper.availability.trouble ≠ .gone) : after.availability.trouble ≠ .gone := by
  cases write with
  | note _ availability present => exact present
  | send _ command =>
    unfold Keeper.send
    split
    · exact present
    · exact Trouble.noConfusion
  | finish _ outcome =>
    unfold Keeper.finish
    split
    split
    · exact present
    · exact Trouble.noConfusion
  | describe | watch | succeed | fail | start | take | ask | stop | shutDown => exact present
  | remove allowed => exact allowed.elim

theorem Served.present (served : keeper.Served after)
    (present : keeper.availability.trouble ≠ .gone) : after.availability.trouble ≠ .gone := by
  induction served with
  | refl => exact present
  | tail _ write ih => exact write.present ih

/-- Whether a keeper went on without a word about its device. -/
structure Unnoticed (before after : Keeper) : Prop where
  served : before.Served after
  same : after.availability = before.availability

theorem Unnoticed.refl (keeper : Keeper) : keeper.Unnoticed keeper := ⟨.refl, rfl⟩

theorem Write.unnoticed (write : Write False False keeper after) : keeper.Unnoticed after := by
  cases write with
  | describe unit => exact ⟨.single (.describe unit), rfl⟩
  | watch session => exact ⟨.single (.watch session), rfl⟩
  | succeed status? => exact ⟨.single (.succeed status?), rfl⟩
  | fail failure => exact ⟨.single (.fail failure), rfl⟩
  | start => exact ⟨.single .start, rfl⟩
  | take next => exact ⟨.single (.take next), rfl⟩
  | ask => exact ⟨.single .ask, rfl⟩
  | stop stopped => exact ⟨.single (.stop stopped), rfl⟩
  | shutDown => exact ⟨.single .shutDown, rfl⟩
  | note allowed | send allowed | finish allowed | remove allowed => exact allowed.elim

theorem Unnoticed.trans (quiet : before.Unnoticed keeper) (later : keeper.Unnoticed after) :
    before.Unnoticed after :=
  ⟨quiet.served.trans later.served, later.same.trans quiet.same⟩

/-- What a keeper says about its device when a duty comes to its end: a refresh has the outcome of the
poll, a command is rejected by a full queue, or the command in flight has failed. -/
inductive Duty.Reports (keeper : Keeper) : Duty → Keeper → Prop where
  | polled (status : Status) : Reports keeper .refresh { keeper with
      availability := .ofOnline status.online
      status? := some status
      lastFailure? := none }
  | unreachable {failure : Failure} (own : failure.isOwn = true) : Reports keeper .refresh { keeper with
      availability := .unreachable failure.message
      lastFailure? := some (.refresh (.communication failure.message)) }
  | rejected {command : DeviceCommand} (full : keeper.queue.isFull = true) :
      Reports keeper (.send command) { keeper with availability := .busy }
  | failed {command : DeviceCommand} (inFlight : keeper.queue.inFlight? = some command)
      (failure : Failure) : Reports keeper .work (keeper.finish (.error failure))

/-- What a duty makes of a keeper from one wait to the next: a report is the last thing that it does. -/
inductive Duty.Stretch (duty : Duty) (before : Keeper) : Keeper → Prop where
  | quiet {after : Keeper} (quiet : before.Unnoticed after) : Stretch duty before after
  | reported {keeper after : Keeper} (quiet : before.Unnoticed keeper)
      (reports : duty.Reports keeper after) : Stretch duty before after

variable {duty : Duty}

theorem Duty.Reports.served (reports : duty.Reports keeper after) : keeper.Served after := by
  cases reports with
  | polled status =>
    have present : (Availability.ofOnline status.online).trouble ≠ .gone := by
      cases status.online <;> decide
    have noted : keeper.Served { keeper with availability := .ofOnline status.online } :=
      .single (.note trivial _ present)
    exact noted.tail (.succeed (some status))
  | @unreachable failure _ =>
    have noted : keeper.Served { keeper with availability := .unreachable failure.message } :=
      .single (.note trivial _ (by simp [Availability.unreachable]))
    exact noted.tail (.fail _)
  | rejected full => exact .single (.note trivial _ Trouble.noConfusion)
  | failed _ failure => exact .single (.finish trivial (.error failure))

theorem Duty.Stretch.served (stretch : duty.Stretch before after) : before.Served after := by
  cases stretch with
  | quiet quiet => exact quiet.served
  | reported quiet reports => exact quiet.served.trans reports.served

theorem stretch_send (command : DeviceCommand) :
    (Duty.send command).Stretch keeper (keeper.send command).2 := by
  have sent : Write True False keeper (keeper.send command).2 := .send trivial command
  unfold Keeper.send at sent ⊢
  split at sent
  · exact .quiet ⟨.single sent, rfl⟩
  · next failure rejected =>
    exact .reported (.refl keeper) (.rejected (CommandQueue.isFull_of_enqueue rejected))

theorem stretch_finish (quiet : before.Unnoticed keeper) (outcome : Except Failure Unit) :
    Duty.work.Stretch before (keeper.finish outcome) := by
  have finished : Write True False keeper (keeper.finish outcome) := .finish trivial outcome
  cases inFlight : keeper.queue.inFlight? with
  | none =>
    refine .quiet (quiet.trans ⟨.single finished, ?_⟩)
    simp only [Keeper.finish, CommandQueue.finish_idle inFlight]
  | some command =>
    cases outcome with
    | ok done =>
      have worker := CommandQueue.worker_of_inFlight? inFlight
      refine .quiet (quiet.trans ⟨.single finished, ?_⟩)
      simp only [Keeper.finish, CommandQueue.finish, worker]
    | error failure => exact .reported quiet (.failed inFlight failure)

def concluded : Except Failure (Option Status) → Keeping Unit
  | .ok none => Activity.modify fun keeper => { keeper with lastFailure? := none }
  | .ok (some status) => do
      note (.ofOnline status.online)
      Activity.modify fun keeper => { keeper with status? := some status, lastFailure? := none }
  | .error failure =>
      if failure.isOwn then do
        note (.unreachable failure.message)
        Activity.modify fun keeper =>
          { keeper with lastFailure? := some (.refresh (.communication failure.message)) }
      else Activity.modify fun keeper => { keeper with lastFailure? := some failure }

theorem activity_refresh : Duty.activity .refresh = look fun keeper =>
    if keeper.isShutDown then done (.ok ()) else poll.attempt.bind concluded := by
  refine congrArg look (funext fun keeper => ?_)
  change Activity.bind (if keeper.isShutDown then _ else _) _ = _
  split
  · rfl
  · -- The outcome of the poll is passed on twice before a refresh ends; all of that is `concluded`.
    change ((Activity.attempt (poll.attempt.bind _)).bind _).bind _ = _
    rw [attempt_bind, bind_assoc, bind_assoc]
    refine congrArg (Activity.bind _) (funext fun result => ?_)
    rcases result with failure | _ | status
    · cases own : failure.isOwn <;> simp [concluded, own] <;> rfl
    · rfl
    · rfl

end ApplianceCloud.Keeper
