import ApplianceCloud.Proofs.Queue.Stopping

namespace ApplianceCloud

variable {κ : Type}

namespace CommandQueue

variable {queue after : CommandQueue κ} {command : κ} {limit : Nat}

def IsBounded (queue : CommandQueue κ) : Prop :=
  ∀ limit, queue.limit? = some limit → queue.waiting.length ≤ limit

theorem isFull_iff (limited : queue.limit? = some limit) :
    queue.isFull = true ↔ limit ≤ queue.waiting.length := by
  simp [isFull, limited]

theorem enqueue_of_isFull (full : queue.isFull = true) (command : κ) :
    queue.enqueue command = .error (.queue (.full queue.device)) := by
  rw [enqueue, if_pos full]

theorem enqueue_of_not_isFull (room : ¬ queue.isFull = true) (command : κ) : queue.enqueue command =
    .ok { queue with
      waiting := queue.waiting ++ [command]
      unfinished := queue.unfinished + 1 } := by
  rw [enqueue, if_neg room]

theorem isFull_of_enqueue {failure : Failure} (rejected : queue.enqueue command = .error failure) :
    queue.isFull = true := by
  by_contra room
  rw [enqueue_of_not_isFull room] at rejected
  cases rejected

theorem isBounded_of_enqueue (accepted : queue.enqueue command = .ok after) : after.IsBounded := by
  by_cases full : queue.isFull = true
  · rw [enqueue_of_isFull full] at accepted
    cases accepted
  · rw [enqueue_of_not_isFull full] at accepted
    cases accepted
    intro limit limited
    have limited : queue.limit? = some limit := limited
    rw [isFull_iff limited] at full
    simp only [List.length_append, List.length_singleton]
    omega

section IsBounded

variable (bounded : queue.IsBounded)
include bounded

theorem IsBounded.isFull_iff_length_eq (limited : queue.limit? = some limit) :
    queue.isFull = true ↔ queue.waiting.length = limit := by
  have most := bounded limit limited
  rw [isFull_iff limited]
  omega

theorem IsBounded.of_length_le (made : after.fresh = queue.fresh)
    (fewer : after.waiting.length ≤ queue.waiting.length) : after.IsBounded := by
  intro limit limited
  have same : after.fresh.limit? = queue.fresh.limit? := congrArg CommandQueue.limit? made
  exact Nat.le_trans fewer (bounded limit (same.symm.trans limited))

theorem IsBounded.start : queue.start.IsBounded :=
  bounded.of_length_le fresh_start (Nat.le_of_eq (congrArg List.length start_waiting))

theorem IsBounded.next? (next : queue.next? = some (command, after)) : after.IsBounded := by
  obtain ⟨waiting, -, -⟩ := next?_some next
  apply bounded.of_length_le (fresh_next? next)
  rw [waiting]
  exact Nat.le_succ _

theorem IsBounded.finish (outcome : Except Failure Unit)
    (report : κ → Failure → Except Failure Unit) : (queue.finish outcome report).1.IsBounded := by
  apply bounded.of_length_le (fresh_finish outcome report)
  unfold CommandQueue.finish
  split
  · cases outcome <;> exact Nat.le_refl _
  · exact Nat.le_refl _

theorem IsBounded.dismiss (dismissed : queue.dismiss = .ok after) : after.IsBounded := by
  obtain ⟨waiting, -⟩ := dismiss_ok dismissed
  apply bounded.of_length_le (fresh_dismiss dismissed)
  exact Nat.le_of_eq (congrArg List.length waiting)

theorem IsBounded.discard : queue.discard.IsBounded :=
  bounded.of_length_le rfl (Nat.zero_le _)

theorem IsBounded.stop (stopped : queue.stop = .ok after) : after.IsBounded := by
  unfold CommandQueue.stop at stopped
  cases dismissed : queue.dismiss with
  | error failure => simp [dismissed, Except.map] at stopped
  | ok idle =>
    simp only [dismissed, Except.map, Except.ok.injEq] at stopped
    subst stopped
    exact (bounded.dismiss dismissed).discard

end IsBounded

end CommandQueue

namespace QueueRun

variable {run other after : QueueRun κ}

theorem bounded_exchange (bounded : run.queue.IsBounded) (who : Option Nat) :
    (run.exchange who).queue.IsBounded :=
  bounded.of_length_le (run.fresh_exchange who) (Nat.le_of_eq (by rw [waiting_exchange]))

theorem bounded_work {next : WorkerMove} (bounded : run.queue.IsBounded)
    (step : WorkStep run next after) : after.queue.IsBounded := by
  cases step with
  | begun _ taken => exact bounded.next? taken
  | finished => exact bounded.finish _ _
  | left _ dismissed => exact bounded.dismiss dismissed
  | impossible => exact bounded

theorem bounded_step {next : QueueMove κ} (bounded : run.queue.IsBounded)
    (step : QueueStep run next after) : after.queue.IsBounded := by
  cases step with
  | accepted accepted => exact CommandQueue.isBounded_of_enqueue accepted
  | started => exact bounded.start
  | worked _ step => exact bounded_exchange (bounded_work (bounded_exchange bounded _) step) _
  | stopped | discarded => exact bounded.of_length_le rfl (Nat.zero_le _)
  | rejected | cancelled | impossible => exact bounded

theorem bounded_play (device : String) (limit? : Option Nat) (moves : List (QueueMove κ)) :
    (play device limit? moves).queue.IsBounded := by
  have unused : CommandQueue.IsBounded (κ := Ticket κ) { device, limit? } := fun _ _ => Nat.zero_le _
  exact foldl_of_step (·.queue.IsBounded) (fun bounded step => bounded_step bounded step) unused moves

/-- Whether two runs differ only in the commands that they rejected. -/
structure Agrees (run other : QueueRun κ) : Prop where
  queue : run.queue = other.queue
  stops : run.stops = other.stops
  due : run.due = other.due
  strays : run.strays = other.strays
  tickets : ∀ mark, run.tickets mark = other.tickets mark

theorem Agrees.note (agrees : run.Agrees other) (queue : CommandQueue (Ticket κ))
    (events : List (QueueEvent κ)) : (run.note queue events).Agrees (other.note queue events) where
  queue := rfl
  stops := agrees.stops
  due := agrees.due
  strays := agrees.strays
  tickets mark := by rw [tickets_note, tickets_note, agrees.tickets mark]

theorem Agrees.exchange (agrees : run.Agrees other) (who : Option Nat) :
    (run.exchange who).Agrees (other.exchange who) := by
  obtain ⟨queue, stops, due, strays, tickets⟩ := agrees
  cases who with
  | none => exact ⟨queue, stops, due, strays, tickets⟩
  | some index =>
    simp only [QueueRun.exchange, queue, stops, strays]
    split
    · exact ⟨queue, stops, due, strays, tickets⟩
    · exact ⟨rfl, rfl, due, rfl, tickets⟩

theorem Agrees.work (agrees : run.Agrees other) (next : WorkerMove) :
    (run.work next).Agrees (other.work next) := by
  cases next <;> simp only [QueueRun.work, agrees.queue, agrees.stops] <;> split
  · exact agrees.note _ _
  · exact agrees
  · exact agrees.note _ _
  · exact agrees
  · next queue _ _ =>
    have noted := agrees.note queue (other.queue.inFlight?.toList.map (.marked .abandoned))
    exact ⟨rfl, rfl, congrArg (· + _) agrees.due, noted.strays, noted.tickets⟩
  · exact agrees

theorem Agrees.clear (agrees : run.Agrees other) : run.clear.Agrees other.clear := by
  unfold QueueRun.clear
  rw [agrees.queue]
  exact agrees.note _ _

theorem Agrees.forget (agrees : run.Agrees other) : run.forget.Agrees other.forget := by
  obtain ⟨queue, stops, due, strays, tickets⟩ := agrees
  simp only [QueueRun.forget, queue, stops, strays]
  exact ⟨rfl, rfl, due, rfl, tickets⟩

theorem Agrees.move (agrees : run.Agrees other) (next : QueueMove κ) :
    (run.move next).Agrees (other.move next) := by
  cases next with
  | enqueue command =>
    have ticket : run.ticketFor command = other.ticketFor command := by
      rw [ticketFor, ticketFor, agrees.tickets]
    simp only [QueueRun.move, agrees.queue, ticket]
    split
    · exact agrees.note _ _
    · exact agrees.note _ _
  | start =>
    simp only [QueueRun.move, agrees.queue]
    exact agrees.note _ _
  | work who next =>
    have employs : run.employs who = other.employs who := by
      rw [QueueRun.employs, QueueRun.employs, agrees.strays]
    simp only [QueueRun.move, employs]
    split
    · exact ((agrees.exchange who).work next).exchange who
    · exact agrees
  | beginStop =>
    simp only [QueueRun.move, agrees.queue]
    have stops := congrArg (· + 1) agrees.stops
    split
    · exact ⟨rfl, stops, agrees.due, agrees.strays, agrees.tickets⟩
    · exact ⟨rfl, stops, agrees.due, agrees.strays, agrees.tickets⟩
    · exact agrees.clear
    · exact agrees
  | endStop =>
    simp only [QueueRun.move, agrees.due]
    split
    · have left := agrees.forget.clear
      exact ⟨left.queue, left.stops, rfl, left.strays, left.tickets⟩
    · exact agrees

theorem Agrees.foldl (agrees : run.Agrees other) (moves : List (QueueMove κ)) :
    (moves.foldl QueueRun.move run).Agrees (moves.foldl QueueRun.move other) := by
  induction moves generalizing run other with
  | nil => exact agrees
  | cons next rest ih => exact ih (agrees.move next)

theorem queue_move_of_not_isFull (room : ¬ run.queue.isFull = true) (command : κ) :
    (run.move (.enqueue command)).queue = { run.queue with
      waiting := run.queue.waiting ++ [run.ticketFor command]
      unfinished := run.queue.unfinished + 1 } := by
  rw [QueueRun.move, CommandQueue.enqueue_of_not_isFull room]
  rfl

theorem agrees_rejected (full : run.queue.isFull = true) (command : κ) :
    (run.move (.enqueue command)).Agrees run := by
  rw [QueueRun.move, CommandQueue.enqueue_of_isFull full]
  exact ⟨rfl, rfl, rfl, rfl, fun mark => by simp⟩

/-- A rejected command is never begun: the run goes on as it would without it. -/
theorem agrees_play_rejected {device : String} {limit? : Option Nat} {moves : List (QueueMove κ)}
    (full : (play device limit? moves).queue.isFull = true) (command : κ)
    (later : List (QueueMove κ)) :
    (play device limit? (moves ++ .enqueue command :: later)).Agrees
      (play device limit? (moves ++ later)) := by
  unfold play at full ⊢
  rw [List.foldl_append, List.foldl_append, List.foldl_cons]
  exact (agrees_rejected full command).foldl later

end QueueRun

end ApplianceCloud
