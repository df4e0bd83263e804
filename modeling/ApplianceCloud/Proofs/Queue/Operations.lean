import ApplianceCloud.Queue.Basic

namespace ApplianceCloud.CommandQueue

variable {κ : Type} {queue after : CommandQueue κ}

theorem enqueue_ok {command : κ} (h : queue.enqueue command = .ok after) :
    after.waiting = queue.waiting ++ [command] ∧ after.inFlight? = queue.inFlight? := by
  unfold enqueue at h
  split at h
  · cases h
  · cases h
    exact ⟨rfl, rfl⟩

theorem enqueue_unfinished {command : κ} (h : queue.enqueue command = .ok after) :
    after.unfinished = queue.unfinished + 1 := by
  unfold enqueue at h
  split at h <;> cases h
  rfl

theorem enqueue_worker {command : κ} (h : queue.enqueue command = .ok after) :
    after.worker = queue.worker := by
  unfold enqueue at h
  split at h <;> cases h
  rfl

@[simp] theorem start_waiting : queue.start.waiting = queue.waiting := by
  unfold start
  split <;> rfl

@[simp] theorem start_inFlight? : queue.start.inFlight? = queue.inFlight? := by
  cases h : queue.worker <;> simp [start, isRunning, inFlight?, h]

@[simp] theorem start_unfinished : queue.start.unfinished = queue.unfinished := by
  unfold start
  split <;> rfl

theorem isRunning_start : queue.start.isRunning = true := by
  cases h : queue.worker <;> simp [start, isRunning, h]

theorem next?_some {command : κ} (h : queue.next? = some (command, after)) :
    queue.waiting = command :: after.waiting ∧ queue.inFlight? = none ∧
      after.inFlight? = some command := by
  unfold next? at h
  split at h
  · next rest idle waiting =>
    cases h
    exact ⟨waiting, by simp [inFlight?, idle], rfl⟩
  · cases h

theorem next?_unfinished {command : κ} (h : queue.next? = some (command, after)) :
    after.unfinished = queue.unfinished := by
  unfold next? at h
  split at h <;> cases h
  rfl

theorem worker_of_inFlight? {command : κ} (busy : queue.inFlight? = some command) :
    queue.worker = .busy command := by
  unfold inFlight? at busy
  split at busy
  · next worker => rw [worker, Option.some.inj busy]
  · cases busy

theorem finish_busy {command : κ} (busy : queue.inFlight? = some command)
    (outcome : Except Failure Unit) (report : κ → Failure → Except Failure Unit) :
    (queue.finish outcome report).1.waiting = queue.waiting ∧
      (queue.finish outcome report).1.inFlight? = none := by
  have worker := worker_of_inFlight? busy
  cases outcome with
  | ok _ => simp [finish, worker, inFlight?]
  | error failure =>
    cases reported : report command failure <;> simp [finish, worker, inFlight?, reported]

theorem finish_unfinished {command : κ} (busy : queue.inFlight? = some command)
    (outcome : Except Failure Unit) (report : κ → Failure → Except Failure Unit) :
    (queue.finish outcome report).1.unfinished = queue.unfinished - 1 := by
  have worker := worker_of_inFlight? busy
  cases outcome <;> simp [finish, worker]

theorem isRunning_of_inFlight? {command : κ} (busy : queue.inFlight? = some command) :
    queue.isRunning = true := by
  simp [isRunning, worker_of_inFlight? busy]

theorem isRunning_of_next? {command : κ} (h : queue.next? = some (command, after)) :
    queue.isRunning = true := by
  unfold next? at h
  split at h
  · next idle _ => simp [isRunning, idle]
  · cases h

theorem exists_finish_eq (queue : CommandQueue κ) (outcome : Except Failure Unit)
    (report : κ → Failure → Except Failure Unit) :
    ∃ answer, queue.finish outcome report = queue.finish outcome fun _ _ => answer := by
  cases worker : queue.worker with
  | busy command =>
    cases outcome with
    | ok _ => exact ⟨.ok (), by simp [finish, worker]⟩
    | error failure => exact ⟨report command failure, by simp [finish, worker]⟩
  | _ => exact ⟨.ok (), by simp [finish, worker]⟩

theorem dismiss_ok (h : queue.dismiss = .ok after) :
    after.waiting = queue.waiting ∧ after.inFlight? = none := by
  unfold dismiss at h
  split at h <;> cases h <;> exact ⟨rfl, rfl⟩

theorem dismiss_unfinished (h : queue.dismiss = .ok after) :
    after.unfinished = queue.unfinished - queue.inFlight?.toList.length := by
  unfold dismiss at h
  split at h <;> cases h <;> simp [inFlight?, *]

theorem isRunning_dismiss (h : queue.dismiss = .ok after) : after.isRunning = false := by
  unfold dismiss at h
  split at h <;> cases h <;> rfl

@[simp] theorem discard_waiting : queue.discard.waiting = [] := rfl

@[simp] theorem discard_inFlight? : queue.discard.inFlight? = queue.inFlight? := rfl

@[simp] theorem discard_unfinished :
    queue.discard.unfinished = queue.unfinished - queue.waiting.length := rfl

end ApplianceCloud.CommandQueue
