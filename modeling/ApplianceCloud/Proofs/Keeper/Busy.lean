import ApplianceCloud.Proofs.Keeper.Conduct
import ApplianceCloud.Proofs.Queue.Capacity

namespace ApplianceCloud

open Activity

namespace Keeper

variable {keeper after : Keeper} {device : ListedDevice} {generation? : Option Generation}

theorem Write.bounded {reports removes : Prop} (write : Write reports removes keeper after)
    (bounded : keeper.queue.IsBounded) : after.queue.IsBounded := by
  cases write with
  | send _ command =>
    unfold Keeper.send
    split
    · next accepted => exact CommandQueue.isBounded_of_enqueue accepted
    · exact bounded
  | start => exact bounded.start
  | take next => exact bounded.next? next
  | finish _ outcome =>
    have left := bounded.finish outcome fun _ _ => .ok ()
    unfold Keeper.finish
    split
    next finished =>
    rw [finished] at left
    split
    · exact left
    · exact left
  | stop stopped => exact bounded.stop stopped
  | describe | watch | note | succeed | fail | ask | shutDown | remove => exact bounded

theorem bounded_scene (device : ListedDevice) (generation? : Option Generation)
    (moves : List (Move cloud Errand)) :
    let keeper := (Scene.play Errand.activity (fresh device generation?) moves).state
    keeper.Sound device generation? ∧ keeper.queue.IsBounded := by
  have bounded : (fresh device generation?).queue.IsBounded := fun limit _ => Nat.zero_le limit
  apply Scene.inv_play
    (c := (conduct device generation? True True).keeping (fun keeper => keeper.queue.IsBounded) Write.bounded)
    ⟨sound_fresh device generation?, bounded⟩
  intro errand seen now inv
  exact (errand.conducted_activity seen now inv.1).keeping

theorem Sound.limit?_eq (sound : keeper.Sound device generation?) : keeper.queue.limit? = some 20 :=
  congrArg CommandQueue.limit? sound.unused

theorem Sound.device_eq (sound : keeper.Sound device generation?) :
    keeper.queue.device = device.id :=
  congrArg CommandQueue.device sound.unused

theorem send_of_isFull (full : keeper.queue.isFull = true) (command : DeviceCommand) :
    keeper.send command = (.error (.queue (.full keeper.queue.device)),
      { keeper with availability := .busy }) := by
  rw [Keeper.send, CommandQueue.enqueue_of_isFull full]

theorem send_of_not_isFull (room : ¬ keeper.queue.isFull = true) (command : DeviceCommand) :
    keeper.send command = (.ok (), { keeper with
      queue := { keeper.queue with
        waiting := keeper.queue.waiting ++ [command]
        unfinished := keeper.queue.unfinished + 1 } }) := by
  rw [Keeper.send, CommandQueue.enqueue_of_not_isFull room]

/-- At every moment of a run at most as many commands wait as the limit allows. An enqueue is rejected
exactly if that many wait: the queue stays as it is, and the run goes on as it would without the
command. Any other command is accepted as the last one. A keeper that rejects a command is noted as
busy and otherwise stays as it is, whatever errands there were before. -/
theorem busy_play {κ : Type} (name : String) (limit : Nat) (device : ListedDevice)
    (generation? : Option Generation) :
    (∀ (moves : List (QueueMove κ)) (command : κ),
      let run := QueueRun.play name (some limit) moves
      let queue := run.queue
      let after := run.move (.enqueue command)
      queue.waiting.length ≤ limit ∧
      (queue.enqueue (run.ticketFor command) = .error (.queue (.full name)) ↔
        queue.waiting.length = limit) ∧
      (queue.waiting.length = limit → after.queue = queue ∧
        ∀ later, (QueueRun.play name (some limit) (moves ++ .enqueue command :: later)).Agrees
          (QueueRun.play name (some limit) (moves ++ later))) ∧
      (queue.waiting.length ≠ limit →
        queue.enqueue (run.ticketFor command) = .ok after.queue ∧
        after.queue = { queue with
          waiting := queue.waiting ++ [run.ticketFor command]
          unfinished := queue.unfinished + 1 })) ∧
    ∀ (moves : List (Move cloud Errand)) (command : DeviceCommand),
      let keeper := (Scene.play Errand.activity (fresh device generation?) moves).state
      keeper.queue.waiting.length ≤ 20 ∧
      (keeper.queue.waiting.length = 20 → keeper.send command =
        (.error (.queue (.full device.id)), { keeper with
          availability := {
            reach := .unknown
            trouble := .communication
            reason := "Device Command Queue is Busy" } })) ∧
      (keeper.queue.waiting.length ≠ 20 → keeper.send command =
        (.ok (), { keeper with
          queue := { keeper.queue with
            waiting := keeper.queue.waiting ++ [command]
            unfinished := keeper.queue.unfinished + 1 } })) := by
  constructor
  · intro moves command run queue after
    have made : queue.fresh = { device := name, limit? := some limit } :=
      QueueRun.fresh_play name (some limit) moves
    have limited : queue.limit? = some limit := congrArg CommandQueue.limit? made
    have named : queue.device = name := congrArg CommandQueue.device made
    have bounded : queue.IsBounded := QueueRun.bounded_play name (some limit) moves
    have full_iff := bounded.isFull_iff_length_eq limited
    refine ⟨bounded limit limited, ⟨fun rejected => ?_, fun full => ?_⟩, fun full => ?_, fun room => ?_⟩
    · exact full_iff.1 (CommandQueue.isFull_of_enqueue rejected)
    · rw [CommandQueue.enqueue_of_isFull (full_iff.2 full), named]
    · have full := full_iff.2 full
      exact ⟨(QueueRun.agrees_rejected full command).queue, QueueRun.agrees_play_rejected full command⟩
    · have accepted := QueueRun.queue_move_of_not_isFull (mt full_iff.1 room) command
      refine ⟨?_, accepted⟩
      rw [CommandQueue.enqueue_of_not_isFull (mt full_iff.1 room)]
      exact congrArg _ accepted.symm
  · intro moves command keeper
    obtain ⟨sound, bounded⟩ := bounded_scene device generation? moves
    have full_iff := bounded.isFull_iff_length_eq sound.limit?_eq
    refine ⟨bounded 20 sound.limit?_eq, fun full => ?_, fun room => ?_⟩
    · rw [send_of_isFull (full_iff.2 full), sound.device_eq]
      rfl
    · exact send_of_not_isFull (mt full_iff.1 room) command

theorem busy_full (device : ListedDevice) :
    let moves : List (QueueMove String) := [.start, .enqueue "Cool", .work none .take, .enqueue "High"]
    let later : List (QueueMove String) :=
      [.work none (.finish (.ok ()) (.ok ())), .work none .take]
    let run := QueueRun.play "unit" (some 1) moves
    let after := QueueRun.play "unit" (some 1) (moves ++ .enqueue "Low" :: later)
    run.queue.enqueue (run.ticketFor "Low") = .error (.queue (.full "unit")) ∧
      after.tickets .begun = [⟨0, "Cool"⟩, ⟨1, "High"⟩] ∧ after.queue.waiting = [] := by
  intro moves later run after
  obtain ⟨queues, -⟩ := busy_play (κ := String) "unit" 1 device none
  obtain ⟨-, rejected_iff, unnoticed, -⟩ := queues moves "Low"
  obtain ⟨-, agrees⟩ := unnoticed rfl
  obtain ⟨queue, -, -, -, tickets⟩ := agrees later
  refine ⟨rejected_iff.2 rfl, ?_, ?_⟩
  · exact (tickets .begun).trans rfl
  · exact congrArg CommandQueue.waiting queue

end Keeper

end ApplianceCloud
